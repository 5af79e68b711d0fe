import AssetTranspiler.Proofs.Context.Sound
import AssetTranspiler.Proofs.Context.Stages

namespace AssetTranspiler

open Trace

namespace Sound

variable {o : Origin} {base : History} {m : Manager} {busy : Option (Nat × Phase)} {n : Nat}

theorem keeps_log (source : LogSource) (level : LogLevel) (message : String) :
    Job.Keeps o.setup (Sound o base m busy) (Job.log source level message) :=
  fun _ h => h.congr h.manager rfl rfl rfl rfl

theorem meets_bundlePath :
    Job.Meets o.setup (Sound o base m busy) Context.bundlePath
      fun r t => r = .ok o.bundlePath ∧ Sound o base m busy t := by
  intro s h
  refine ⟨?_, h⟩
  simp only [Context.bundlePath, Job.exec_bind, Job.exec_read, Job.exec_get, Job.exec_pure,
    h.settings, Origin.bundlePath]

theorem keeps_build :
    Job.Keeps o.setup (Sound o base m busy) (Bundle.build (some o.bundlePath) none) := by
  intro s h
  simp only [Bundle.build, Job.exec_bind, Job.exec_get, Job.exec_ofExcept, h.settings]
  cases hc : Bundle.command o.settings
      (Bundle.orElse (some o.bundlePath) o.settings.bundlePath) with
  | error p => exact h
  | ok command =>
      simp only [Job.mapError_ok, Job.exec_log, Job.exec_request]
      rcases hr : o.setup.host.run s.history command with f | ⟨w, notes⟩ | ⟨exit, notes⟩
      · refine h.outside (e := .run command o.settings.appRoot) rfl rfl rfl rfl rfl ?_
        simp only [Job.exec_throw, Origin.filesAfter, hr]
        exact h.files
      · have hout : Sound o base m busy
            { s with
              history := .run command o.settings.appRoot :: s.history
              files := s.files.write o.target w } := by
          refine h.outside (e := .run command o.settings.appRoot) rfl rfl rfl rfl rfl ?_
          simp only [Origin.filesAfter, hr]
          rw [h.files]
        have hnotes := keeps_log .bundle .warning ("esbuild: " ++ Bundle.strip notes) _ hout
        simp only [Job.exec_bind, Job.exec_update]
        cases notes.isEmpty with
        | true => exact hout.congr hout.manager rfl rfl rfl rfl
        | false => exact hnotes.congr hout.manager rfl rfl rfl rfl
      · refine h.outside (e := .run command o.settings.appRoot) rfl rfl rfl rfl rfl ?_
        simp only [Job.exec_bind, Job.exec_log, Job.exec_throw, Origin.filesAfter, hr]
        exact h.files

theorem keeps_buildBundle :
    Job.Keeps o.setup (Sound o base m busy) (Context.buildBundle o.bundlePath) := by
  intro s h
  simp only [Context.buildBundle, Job.exec_bind, Job.exec_read]
  cases hb : o.setup.host.build with
  | none => exact (keeps_build.bind fun p => Job.keeps_pure (Value.str p)) s h
  | some build =>
      simp only [Job.exec_bind, Job.exec_request, Job.exec_ofExcept]
      exact h.outside (e := .build o.bundlePath) rfl rfl rfl rfl rfl h.files

theorem keeps_prepare : Job.Keeps o.setup (Sound o base m busy) Context.prepare := by
  refine Job.Meets.bind meets_bundlePath ?_ ?_
  · rintro _ s ⟨⟨⟩, h⟩
    simp only [Job.exec_bind, Job.exec_read]
    cases o.setup.options.rebuild with
    | true => exact keeps_buildBundle s h
    | false => exact h
  · rintro f t ⟨⟨⟩, -⟩

theorem meets_loadBundle (path : Value) :
    Job.Meets o.setup (Sound o base m busy) (Context.loadBundle path)
      fun r t => Sound o base m busy t ∧ ∀ text, r = .ok text → o.loaded? t.history = some text := by
  intro s h
  simp only [Context.loadBundle, Job.exec_bind, Job.exec_read]
  cases hl : o.setup.host.load with
  | none =>
      cases path with
      | str p =>
          simp only [Bundle.read, Job.exec_bind, Job.exec_get, Job.exec_request, Job.exec_ofExcept]
          refine ⟨h.outside (e := .openFile _) rfl rfl rfl rfl rfl h.files, ?_⟩
          intro text ht
          rw [h.files] at ht
          cases hr : (o.filesAfter s.history).read
              (Files.join (Bundle.orElse none s.settings.appRoot) p) with
          | error e => simp [hr] at ht
          | ok content =>
              simp only [hr, Job.mapError_ok, Except.ok.injEq] at ht
              simp [Origin.loaded?, hr, Except.toOption, ht]
      | _ => exact ⟨h, by simp⟩
  | some load =>
      simp only [Job.exec_bind, Job.exec_request, Job.exec_ofExcept]
      have hs := h.outside (e := .load path) (t := { s with history := .load path :: s.history })
        rfl rfl rfl rfl rfl h.files
      cases hr : load s.history path with
      | error f => exact ⟨hs, by simp⟩
      | ok v =>
          refine ⟨hs, ?_⟩
          intro text ht
          simp only [Job.mapError_ok, Job.exec_pure, Except.ok.injEq] at ht
          simp [Origin.loaded?, hl, hr, Except.toOption, ht]

theorem meets_create :
    Job.Meets o.setup (Sound o base m none) Engine.create fun r t =>
      (∀ n, r = .ok n → Sound o base m (some (n, .bare)) t ∧ creations base ≤ n) ∧
        ∀ f, r = .error f → Sound o base m none t := by
  intro s h
  have hle : creations base ≤ s.engines.length := by
    rw [h.length]
    exact h.continues.sublist.countP_le
  have hc := h.create (Engine.added_create o.setup s)
  rw [Host.returns] at hc
  rw [Engine.outcome_create]
  cases hx : (o.setup.host.create s.history).result with
  | error f =>
      rw [hx] at hc
      refine ⟨by simp [Except.map], ?_⟩
      intro _ _
      exact hc
  | ok u =>
      rw [hx] at hc
      refine ⟨?_, by simp [Except.map]⟩
      rintro n ⟨⟩
      exact ⟨hc, hle⟩

theorem evaluated {p : Phase} {code : String} {s : Service} (h : Sound o base m (some (n, p)) s)
    (hp : o.rules.Permits s.history (.evaluate n code o.setup.options.timeout)) :
    Sound o base m (some (n, p.next ((Engine.evaluate n code).exec o.setup s).1.isOk
      (.evaluate n code o.setup.options.timeout))) ((Engine.evaluate n code).exec o.setup s).2 := by
  have hs := h.evaluate (Engine.asked_evaluate o.setup s n code) hp
  rw [Engine.returns_evaluate] at hs
  exact hs

theorem meets_console :
    Job.Meets o.setup (Sound o base m (some (n, .bare))) (Engine.evaluate n Console.shim)
      fun r t => Sound o base m (some (n, if r.isOk then .console else .spoiled)) t := by
  intro s h
  obtain ⟨hl, hp⟩ := h.latest n .bare rfl
  exact h.evaluated ⟨rfl, hl, .inl ⟨hp, rfl⟩⟩

theorem named_bundleName (text : String) :
    Engine.named text (some Context.bundleName) = bundleScript text := by
  have hname : Context.bundleName.isEmpty = false := by decide +kernel
  rw [Engine.named, if_neg (by simp [hname]), String.append_assoc]
  rfl

theorem meets_bundle (text : String) :
    Job.Meets o.setup
      (fun s => Sound o base m (some (n, .console)) s ∧ o.loaded? s.history = some text)
      (Engine.evaluate n (Engine.named text (some Context.bundleName)))
      fun r t => Sound o base m (some (n, if r.isOk then .equipped else .spoiled)) t := by
  rintro s ⟨h, ht⟩
  obtain ⟨hl, hp⟩ := h.latest n .console rfl
  exact h.evaluated ⟨rfl, hl, .inr ⟨hp, text, ht, named_bundleName text⟩⟩

def Equipping (o : Origin) (base : History) (m : Manager) (n : Nat) (r : Except Fault Unit)
    (t : Service) : Prop :=
  match r with
  | .ok () => Sound o base m (some (n, .equipped)) t
  | .error _ => Sound o base m (some (n, .console)) t ∨ Sound o base m (some (n, .spoiled)) t

theorem meets_equip (path : Value) :
    Job.Meets o.setup (Sound o base m (some (n, .bare))) (Context.equip n path)
      (Equipping o base m n) := by
  have hload : Job.Meets o.setup (Sound o base m (some (n, .console))) (do
      let code ← Context.loadBundle path
      discard <| Engine.evaluate n (Engine.named code (some Context.bundleName)))
      (Equipping o base m n) := by
    refine (meets_loadBundle path).bind ?_ ?_
    · intro code
      rw [Job.discard_eq_map]
      refine Job.Meets.map _ ((meets_bundle code).mono (fun s h => ⟨h.1, h.2 code rfl⟩) ?_)
      intro r t h
      cases r with
      | ok v => exact h
      | error f => exact .inr h
    · intro f t h
      exact .inl h.1
  simp only [Context.equip, Job.discard_eq_map]
  refine Job.Meets.bind (R := fun r t => Sound o base m
    (some (n, if r.isOk then .console else .spoiled)) t) ?_ ?_ ?_
  · refine Job.Meets.map _ (meets_console.mono (fun s h => h) ?_)
    intro r t h
    cases r <;> exact h
  · intro _
    exact hload
  · intro f t h
    exact .inr h

theorem meets_dispose {p : Phase} (hp : p = .console ∨ p = .spoiled ∨ p = .equipped) :
    Job.Meets o.setup (Sound o base m (some (n, p))) (Engine.dispose n) fun _ t =>
      Sound o base m none t ∧ phase o.setup.host n t.history = .closed := by
  intro s h
  have hn := (h.latest n p rfl).2
  have hlife : s.life? n ≠ some .disposed := by
    rw [Ne, h.closed n, hn]
    rcases hp with rfl | rfl | rfl <;> simp
  rw [Engine.exec_dispose _ _ _ hlife, Engine.exec_close]
  refine ⟨h.close rfl rfl rfl rfl (by simp [Service.ask]) ?_ ?_ (hn.symm ▸ hp) ?_, ?_⟩
  · simp [Service.life?_setLife_self _ _ _ h.lt_length]
  · intro i hi
    simp [Service.life?_setLife_other _ _ _ hi]
  · intro i hi
    exact h.settled_of_ne hi
  · simp only [Service.history_buffer, Service.history_ask, Service.history_setLife]
    rw [phase_cons_self rfl]
    rfl

def Construction (o : Origin) (base : History) (m : Manager) (r : Except Fault Nat)
    (t : Service) : Prop :=
  match r with
  | .ok n =>
      Sound o base m (some (n, .equipped)) t ∧ t.life? n = some .ready ∧ creations base ≤ n
  | .error _ => Sound o base m none t

theorem meets_setReady :
    Job.Meets o.setup (Sound o base m (some (n, .equipped))) (Engine.setState n .ready) fun r t =>
      r = .ok () ∧ Sound o base m (some (n, .equipped)) t ∧ t.life? n = some .ready := by
  intro s h
  have hp := (h.latest n .equipped rfl).2
  have hlife := s.life?_setLife_self n .ready h.lt_length
  rw [Engine.exec_setState]
  refine ⟨rfl, ⟨h.manager, h.settings, h.files, h.continues, h.orderly, ?_, ?_, h.latest,
    h.settled⟩, hlife⟩
  · rw [Service.length_engines_setLife]
    exact h.length
  · intro i
    by_cases hi : i = n
    · rw [hi, hlife, Service.history_setLife, hp]
      simp
    · rw [Service.life?_setLife_other _ _ _ hi]
      exact h.closed i

theorem meets_abandon (fault : Fault) :
    Job.Meets o.setup
      (fun s => Sound o base m (some (n, .console)) s ∨ Sound o base m (some (n, .spoiled)) s)
      (do
        unless fault.isInterrupt do
          Engine.dispose n
        throw fault)
      (Construction o base m) := by
  cases hf : fault.isInterrupt with
  | true =>
      intro s h
      simp only [if_true, Job.exec_throw]
      rcases h with h | h
      · exact h.release ⟨by simp, by simp⟩
      · exact h.release ⟨by simp, by simp⟩
  | false =>
      simp only [Bool.false_eq_true, if_false]
      refine Job.Meets.bind (R := fun _ t => Sound o base m none t) ?_ ?_ ?_
      · rintro s (h | h)
        · exact (meets_dispose (.inl rfl) s h).1
        · exact (meets_dispose (.inr (.inl rfl)) s h).1
      · intro _ t h
        exact h
      · intro _ t h
        exact h

theorem meets_construct :
    Job.Meets o.setup (Sound o base m none) Context.construct (Construction o base m) := by
  rw [Context.construct_eq]
  refine Job.Meets.bind (R := fun _ t => Sound o base m none t) keeps_prepare ?_ fun _ _ h => h
  intro path
  refine Job.Meets.bind meets_create ?_ fun f t h => h.2 f rfl
  intro n s h
  obtain ⟨hs, hle⟩ := h.1 n rfl
  refine Job.Meets.bind (meets_equip path).attempt ?_ ?_ s hs
  · intro outcome
    cases outcome with
    | ok u =>
        refine Job.Meets.bind (R := fun r t => r = .ok () ∧
          Sound o base m (some (n, .equipped)) t ∧ t.life? n = some .ready) ?_ ?_ ?_
        · rintro s ⟨_, ⟨⟩, h⟩
          exact meets_setReady s h
        · rintro _ s ⟨-, h, hr⟩
          exact ⟨h, hr, hle⟩
        · rintro f t ⟨⟨⟩, -⟩
    | error fault =>
        rintro s ⟨_, ⟨⟩, h⟩
        exact meets_abandon fault s h
  · rintro f t ⟨_, ⟨⟩, -⟩

end Sound
end AssetTranspiler
