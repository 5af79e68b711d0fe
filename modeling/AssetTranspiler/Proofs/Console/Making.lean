import AssetTranspiler.Proofs.Console.Books

/-!
Books while a context is made and given up. What a new engine buffers stays with it until the first
drain. An engine that could not be finished is closed, unless an interruption kept the service from
doing so; then nobody will ever drain it.
-/

namespace AssetTranspiler

open Trace

namespace Service

variable {s : Service} {i j : Nat} {st : Lifecycle}

theorem disposed_of_setLife (hst : st ≠ .disposed)
    (h : (s.setLife i st).life? j = some .disposed) : s.life? j = some .disposed := by
  by_cases hj : j = i
  · subst hj
    by_cases hl : j < s.engines.length
    · rw [s.life?_setLife_self j st hl, Option.some.injEq] at h
      exact absurd h hst
    · have hnone : (s.setLife j st).engines[j]? = none :=
        List.getElem?_eq_none (by simpa using hl)
      simp [life?, hnone] at h
  · rwa [s.life?_setLife_other i st hj] at h

theorem disposed_of_addEngine (h : s.addEngine.life? j = some .disposed) :
    s.life? j = some .disposed := by
  by_cases hj : j = s.engines.length
  · rw [hj, s.life?_addEngine_self] at h
    simp at h
  · rwa [s.life?_addEngine_other j hj] at h

end Service

theorem Context.loadBundle_interrupted {setup : Setup} {s : Service} {path : Value} {fault : Fault}
    (h : ((loadBundle path).exec setup s).1 = .error fault) (hi : fault.isInterrupt = true) :
    setup.host.interrupts s.history (.load path) = true ∧
      ((loadBundle path).exec setup s).2 = s.ask (.load path) := by
  simp only [loadBundle, Job.exec_bind, Job.exec_read] at h ⊢
  cases hl : setup.host.load with
  | none =>
      rw [hl] at h
      cases path with
      | str path =>
          simp only [Bundle.read, Job.exec_bind, Job.exec_get, Job.exec_request,
            Job.exec_ofExcept] at h
          cases hx : s.files.read (Files.join (Bundle.orElse none s.settings.appRoot) path) with
          | ok text => simp [hx] at h
          | error problem =>
              simp only [hx, Job.mapError_error, Except.error.injEq] at h
              simp [← h, Fault.isInterrupt] at hi
      | _ =>
          simp only [Job.exec_throw, Except.error.injEq] at h
          simp [← h, Fault.isInterrupt] at hi
  | some load =>
      rw [hl] at h
      simp only [Job.exec_bind, Job.exec_request, Job.exec_ofExcept] at h ⊢
      cases hx : load s.history path with
      | ok v => simp [hx] at h
      | error f =>
          simp only [hx, Job.mapError_error, Except.error.injEq] at h ⊢
          subst h
          refine ⟨?_, rfl⟩
          simpa [Host.interrupts, hl, hx, Host.isInterruption, Fault.isInterrupt] using hi

namespace Books

variable {host : Host} {setup : Setup} {guarded : Bool} {busy : Option Nat} {s t : Service}
  {i : Nat} {p : Phase}

theorem indifferent (host : Host) (guarded : Bool) (busy : Option Nat) :
    Outside (Books host guarded busy) where
  request _ he h := h.outside he
  files _ h := h.congr rfl rfl rfl
  log {s} _ hr h := h.congr rfl rfl (s.consoleLog_cons hr)

theorem setLife (h : Books host guarded busy s) {st : Lifecycle} (hst : st ≠ .disposed) :
    Books host guarded busy (s.setLife i st) where
  bounded := by simpa using h.bounded
  closed j hj := h.closed j (Service.disposed_of_setLife hst hj)
  balance hr := (h.balance hr).congr rfl (fun j => s.pendingOf_setLife i st j) rfl

theorem addEngine (h : Books host guarded busy s) : Books host guarded busy s.addEngine where
  bounded j hj := by
    rw [s.length_engines_addEngine]
    exact Nat.lt_succ_of_lt (h.bounded j hj)
  closed j hj := h.closed j (Service.disposed_of_addEngine hj)
  balance hr := (h.balance hr).congr rfl (fun j => s.pendingOf_addEngine j) rfl

structure Unfinished (host : Host) (guarded : Bool) (i : Nat) (p : Phase) (s : Service) :
    Prop where
  books : Books host guarded (some i) s
  latest : latest? s.history = some i
  phase : phase host i s.history = p

def Staged {α : Type} (host : Host) (guarded : Bool) (i : Nat) (r : Except Fault α) (t : Service) :
    Prop :=
  Books host guarded (some i) t ∧
    ∀ fault, r = .error fault → fault.isInterrupt = true → Abandoned host i t.history

theorem Staged.ok {α : Type} (h : Books host guarded (some i) t) (a : α) :
    Staged host guarded i (.ok a) t :=
  ⟨h, by simp⟩

theorem Staged.error {α β : Type} {fault : Fault}
    (h : Staged host guarded i (.error fault : Except Fault α) t) :
    Staged host guarded i (.error fault : Except Fault β) t :=
  ⟨h.1, fun _ hr => h.2 _ (congrArg Except.error (Except.error.inj hr))⟩

theorem Unfinished.outside (host : Host) (guarded : Bool) (i : Nat) (p : Phase) :
    Outside (Unfinished host guarded i p) where
  request e he h := {
    books := h.books.outside he
    latest := by
      rw [← h.latest]
      cases e <;> simp [Event.engine?] at he <;> rfl
    phase := by
      rw [← h.phase]
      exact phase_cons_other (by simp [he]) }
  files _ h := ⟨h.books.congr rfl rfl rfl, h.latest, h.phase⟩
  log {s} _ hr h := ⟨h.books.congr rfl rfl (s.consoleLog_cons hr), h.latest, h.phase⟩

theorem meets_create :
    Job.Meets setup (Books setup.host guarded none) Engine.create fun r t =>
      (∀ n, r = .ok n → Unfinished setup.host guarded n .bare t) ∧
        ∀ f, r = .error f → Books setup.host guarded none t := by
  intro s h
  have hfresh : Regular setup.host s.history →
      buffered setup.host s.engines.length s.history = [] := by
    intro hr
    rw [← (h.balance hr).pending, s.pendingOf_of_le _ (Nat.le_refl _)]
  have htaken : Books setup.host guarded (some s.engines.length) s.addEngine :=
    h.addEngine.take (by simp [s.length_engines_addEngine]) hfresh
  have hasked : Books setup.host guarded (some s.engines.length)
      ((s.addEngine.ask (.create s.engines.length)).buffer s.engines.length
        (setup.host.create s.history).logged) :=
    htaken.request (e := .create s.engines.length) rfl rfl
  simp only [Engine.exec_create]
  cases hr : (setup.host.create s.history).result with
  | ok u =>
      refine ⟨?_, by simp⟩
      rintro n ⟨⟩
      have hphase : phase setup.host s.engines.length (.create s.engines.length :: s.history) =
          .bare := by
        rw [phase_cons_self rfl, Host.returns, hr]
        rfl
      exact ⟨hasked.setLife (by simp), rfl, hphase⟩
  | error f =>
      refine ⟨by simp, ?_⟩
      intro _ _
      refine hasked.giveUp ?_
      simp only [Service.history_buffer, Service.history_ask]
      rintro ⟨hproper, hregular⟩ hne
      refine absurd ?_ hne
      rw [buffered_cons_self rfl rfl]
      exact List.append_eq_nil_iff.mpr ⟨hfresh hregular, hproper.unborn rfl f hr⟩

theorem meets_evaluate (hp : p = .bare ∨ p = .console) (code : String) :
    Job.Meets setup (Unfinished setup.host guarded i p) (Engine.evaluate i code) fun r t =>
      Staged setup.host guarded i r t ∧ ∀ v, r = .ok v → Unfinished setup.host guarded i
        (p.next true (.evaluate i code setup.options.timeout)) t := by
  intro s h
  have ht := h.books.evaluate code
  rw [Engine.exec_evaluate] at ht ⊢
  refine ⟨⟨ht, ?_⟩, ?_⟩
  · intro fault hr hi
    cases hx : (setup.host.evaluate s.history code).result with
    | ok v => simp [hx] at hr
    | error f =>
        simp only [hx, Job.mapError_error, Except.error.injEq] at hr
        subst hr
        refine .inl ⟨?_, rfl, h.phase.symm ▸ hp⟩
        simpa [Host.interrupts, hx, Host.isInterruption, Fault.isInterrupt] using hi
  · intro v hr
    cases hx : (setup.host.evaluate s.history code).result with
    | error f => simp [hx] at hr
    | ok w =>
        refine ⟨ht, h.latest, ?_⟩
        simp only [Service.history_buffer, Service.history_ask]
        rw [phase_cons_self rfl, h.phase, Host.returns, hx]
        rfl

theorem meets_loadBundle (path : Value) :
    Job.Meets setup (Unfinished setup.host guarded i .console) (Context.loadBundle path) fun r t =>
      Unfinished setup.host guarded i .console t ∧ Staged setup.host guarded i r t := by
  intro s h
  have hkeeps : Job.Keeps setup (Unfinished setup.host guarded i .console)
      (Context.loadBundle path) := (Unfinished.outside ..).keeps_loadBundle path
  have ht := hkeeps s h
  refine ⟨ht, ht.books, ?_⟩
  intro fault hr hi
  obtain ⟨hinterrupts, hasked⟩ := Context.loadBundle_interrupted hr hi
  rw [hasked]
  exact .inl ⟨hinterrupts, h.latest, .inr h.phase⟩

theorem meets_equip (path : Value) :
    Job.Meets setup (Unfinished setup.host guarded i .bare) (Context.equip i path)
      (Staged setup.host guarded i) := by
  have hlast (code : String) : Job.Meets setup (Unfinished setup.host guarded i .console)
      (discard (Engine.evaluate i code)) (Staged setup.host guarded i) := by
    rw [Job.discard_eq_map]
    refine Job.Meets.map _ ((meets_evaluate (.inr rfl) code).mono (fun _ h => h) ?_)
    rintro (fault | v) t ⟨h, -⟩
    · exact h.error
    · exact .ok h.1 ()
  simp only [Context.equip]
  refine Job.Meets.bind (R := fun r t => Staged setup.host guarded i r t ∧ ∀ u, r = .ok u →
    Unfinished setup.host guarded i .console t) ?_ ?_ fun _ _ h => h.1
  · rw [Job.discard_eq_map]
    refine Job.Meets.map _ ((meets_evaluate (.inl rfl) Console.shim).mono (fun _ h => h) ?_)
    rintro (fault | v) t ⟨h, hu⟩
    · exact ⟨h.error, by rintro u ⟨⟩⟩
    · exact ⟨.ok h.1 (), fun _ _ => hu v rfl⟩
  · intro u
    refine Job.Meets.bind (R := fun r t => Unfinished setup.host guarded i .console t ∧
      Staged setup.host guarded i r t) ?_ ?_ ?_
    · rintro s ⟨-, h⟩
      exact meets_loadBundle path s (h u rfl)
    · rintro code s ⟨h, -⟩
      exact hlast _ s h
    · rintro fault t ⟨-, h⟩
      exact h.error

theorem meets_dispose :
    Job.Meets setup (Books setup.host guarded (some i)) (Engine.dispose i) fun _ t =>
      Books setup.host guarded (some i) t ∧ 0 < closings i t.history := by
  intro s h
  by_cases hd : s.life? i = some .disposed
  · rw [Engine.exec_dispose_of_disposed setup s i hd]
    exact ⟨h, h.closed i hd⟩
  · rw [Engine.exec_dispose setup s i hd, Engine.exec_close]
    have hlen : i < (s.setLife i .disposed).engines.length := by simpa using h.bounded i rfl
    refine ⟨⟨?_, ?_, ?_⟩, closings_close i s.history⟩
    · rintro j ⟨⟩
      simpa [Service.ask] using hlen
    · intro j hj
      by_cases hji : j = i
      · rw [hji]
        exact closings_close i s.history
      · rw [Service.life?_buffer, Service.life?_ask, s.life?_setLife_other i _ hji] at hj
        exact h.closed_cons (.close i) hj
    · intro hr
      have hb : Balance setup.host guarded (some i) (s.setLife i .disposed) :=
        (h.balance hr.2).congr rfl (fun j => s.pendingOf_setLife i .disposed j) rfl
      exact hb.request hlen (e := .close i) rfl rfl

theorem meets_construct :
    Job.Meets setup (Books setup.host guarded none) Context.construct fun r t =>
      match r with
      | .ok n => Books setup.host guarded (some n) t
      | .error _ => Books setup.host guarded none t := by
  intro s h
  have hprepare : Job.Keeps setup (Books setup.host guarded none) Context.prepare :=
    (indifferent ..).keeps_prepare
  have hprepared := hprepare s h
  -- each stage hands the engine on as it found it, or gives it up
  rw [Context.exec_construct]
  rcases hp : Context.prepare.exec setup s with ⟨fault | path, t⟩ <;> rw [hp] at hprepared
  · exact hprepared
  have hcreated := meets_create t hprepared
  dsimp only
  rcases hc : Engine.create.exec setup t with ⟨fault | n, t⟩ <;> rw [hc] at hcreated
  · exact hcreated.2 fault rfl
  have hequipped := meets_equip path t (hcreated.1 n rfl)
  dsimp only
  rcases he : (Context.equip n path).exec setup t with ⟨fault | u, t⟩ <;> rw [he] at hequipped
  · cases hf : fault.isInterrupt with
    | true =>
        simp only [hf, if_true]
        exact hequipped.1.giveUp fun _ _ => .inr (hequipped.2 fault rfl hf)
    | false =>
        obtain ⟨hdisposed, hclosed⟩ := meets_dispose t hequipped.1
        simp only [hf, Bool.false_eq_true, if_false]
        rcases hd : (Engine.dispose n).exec setup t with ⟨masking | u, t⟩ <;>
          rw [hd] at hdisposed hclosed <;> exact hdisposed.giveUp fun _ _ => .inl hclosed
  · exact hequipped.1.setLife (by simp)

end Books
end AssetTranspiler
