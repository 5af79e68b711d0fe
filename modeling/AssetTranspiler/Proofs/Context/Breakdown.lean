import AssetTranspiler.Proofs.Context.Stages

namespace AssetTranspiler

open Trace

/-- Making a context breaks down at one of its stages: the engine that there is by then, the failure,
and the state in which the stage has left the service. -/
inductive Breakdown (setup : Setup) (s : Service) : Option Nat → Fault → Service → Prop
  | build {fault : Fault} {t : Service} :
      Context.prepare.exec setup s = (.error fault, t) → Breakdown setup s none fault t
  | create {path : Value} {fault : Fault} {t u : Service} :
      Context.prepare.exec setup s = (.ok path, t) →
      Engine.create.exec setup t = (.error fault, u) → Breakdown setup s none fault u
  | console {path : Value} {i : Nat} {fault : Fault} {t u v : Service} :
      Context.prepare.exec setup s = (.ok path, t) → Engine.create.exec setup t = (.ok i, u) →
      (Engine.evaluate i Console.shim).exec setup u = (.error fault, v) →
      Breakdown setup s (some i) fault v
  | load {path value : Value} {i : Nat} {fault : Fault} {t u v w : Service} :
      Context.prepare.exec setup s = (.ok path, t) → Engine.create.exec setup t = (.ok i, u) →
      (Engine.evaluate i Console.shim).exec setup u = (.ok value, v) →
      (Context.loadBundle path).exec setup v = (.error fault, w) →
      Breakdown setup s (some i) fault w
  | bundle {path value : Value} {code : String} {i : Nat} {fault : Fault} {t u v w x : Service} :
      Context.prepare.exec setup s = (.ok path, t) → Engine.create.exec setup t = (.ok i, u) →
      (Engine.evaluate i Console.shim).exec setup u = (.ok value, v) →
      (Context.loadBundle path).exec setup v = (.ok code, w) →
      (Engine.evaluate i (Engine.named code (some Context.bundleName))).exec setup w =
        (.error fault, x) →
      Breakdown setup s (some i) fault x

namespace Context

variable {setup : Setup} {s : Service}

theorem exec_equip (setup : Setup) (s : Service) (i : Nat) (path : Value) :
    (equip i path).exec setup s =
      match (Engine.evaluate i Console.shim).exec setup s with
      | (.error fault, t) => (.error fault, t)
      | (.ok _, t) =>
          match (loadBundle path).exec setup t with
          | (.error fault, u) => (.error fault, u)
          | (.ok code, u) =>
              match (Engine.evaluate i (Engine.named code (some bundleName))).exec setup u with
              | (.error fault, v) => (.error fault, v)
              | (.ok _, v) => (.ok (), v) := by
  simp only [equip, Job.discard_eq_map, Job.exec_bind, Job.exec_map]
  rcases (Engine.evaluate i Console.shim).exec setup s with ⟨fault | value, t⟩
  · rfl
  simp only [Except.map]
  rcases (loadBundle path).exec setup t with ⟨fault | code, u⟩
  · rfl
  simp only
  rcases (Engine.evaluate i (Engine.named code (some bundleName))).exec setup u with
    ⟨fault | value, v⟩ <;> rfl

def cleanUp (setup : Setup) (fault : Fault) (t : Service) : Option Nat → Fault × Service
  | none => (fault, t)
  | some i =>
      if fault.isInterrupt then (fault, t)
      else
        match (Engine.dispose i).exec setup t with
        | (.ok (), u) => (fault, u)
        | (.error masking, u) => (masking, u)

theorem exec_construct_of_breakdown {engine : Option Nat} {fault : Fault} {t : Service}
    (h : Breakdown setup s engine fault t) :
    construct.exec setup s =
      (.error (cleanUp setup fault t engine).1, (cleanUp setup fault t engine).2) := by
  have hequip : ∀ {path : Value} {i : Nat} {u v : Service},
      prepare.exec setup s = (.ok path, u) → Engine.create.exec setup u = (.ok i, v) →
      (equip i path).exec setup v = (.error fault, t) →
      construct.exec setup s =
        (.error (cleanUp setup fault t (some i)).1, (cleanUp setup fault t (some i)).2) := by
    intro path i u v hp hc he
    simp only [exec_construct, hp, hc, he, cleanUp]
    split
    · rfl
    · rcases (Engine.dispose i).exec setup t with ⟨masking | _, w⟩ <;> rfl
  cases h with
  | build hp => simp only [exec_construct, hp, cleanUp]
  | create hp hc => simp only [exec_construct, hp, hc, cleanUp]
  | console hp hc he => exact hequip hp hc (by simp only [exec_equip, he])
  | load hp hc he hl => exact hequip hp hc (by simp only [exec_equip, he, hl])
  | bundle hp hc he hl hb => exact hequip hp hc (by simp only [exec_equip, he, hl, hb])

theorem exists_breakdown {fault : Fault} {t : Service}
    (h : construct.exec setup s = (.error fault, t)) :
    ∃ engine cause u, Breakdown setup s engine cause u := by
  rw [exec_construct] at h
  rcases hp : prepare.exec setup s with ⟨cause | path, u⟩
  · exact ⟨_, _, _, .build hp⟩
  simp only [hp] at h
  rcases hc : Engine.create.exec setup u with ⟨cause | i, v⟩
  · exact ⟨_, _, _, .create hp hc⟩
  simp only [hc, exec_equip] at h
  rcases he : (Engine.evaluate i Console.shim).exec setup v with ⟨cause | value, w⟩
  · exact ⟨_, _, _, .console hp hc he⟩
  simp only [he] at h
  rcases hl : (loadBundle path).exec setup w with ⟨cause | code, x⟩
  · exact ⟨_, _, _, .load hp hc he hl⟩
  simp only [hl] at h
  rcases hb : (Engine.evaluate i (Engine.named code (some bundleName))).exec setup x with
    ⟨cause | value', y⟩
  · exact ⟨_, _, _, .bundle hp hc he hl hb⟩
  simp [hb] at h

end Context

namespace Breakdown

variable {setup : Setup} {s t : Service} {engine : Option Nat} {fault : Fault} {i : Nat}

theorem keeps {P : Service → Prop} (hP : Steady P) (h : Breakdown setup s engine fault t)
    (hs : P s) : P t := by
  cases h with
  | build hp => exact hP.outside.keeps_prepare.after hs hp
  | create hp hc => exact hP.keeps_create.after (hP.outside.keeps_prepare.after hs hp) hc
  | console hp hc he =>
      have hu := hP.keeps_create.after (hP.outside.keeps_prepare.after hs hp) hc
      exact (hP.keeps_evaluate _ _).after hu he
  | load hp hc he hl =>
      have hu := hP.keeps_create.after (hP.outside.keeps_prepare.after hs hp) hc
      exact (hP.outside.keeps_loadBundle _).after ((hP.keeps_evaluate _ _).after hu he) hl
  | bundle hp hc he hl hb =>
      have hu := hP.keeps_create.after (hP.outside.keeps_prepare.after hs hp) hc
      have hw := (hP.outside.keeps_loadBundle _).after ((hP.keeps_evaluate _ _).after hu he) hl
      exact (hP.keeps_evaluate _ _).after hw hb

theorem manager_eq (h : Breakdown setup s engine fault t) : t.manager = s.manager :=
  h.keeps (P := fun t => t.manager = s.manager)
    ⟨fun _ _ _ h => h, fun _ h => h, fun _ h => h, fun _ _ h => h⟩ rfl

theorem closings_eq (h : Breakdown setup s engine fault t) (j : Nat) :
    closings j t.history = closings j s.history := by
  refine h.keeps (P := fun t => closings j t.history = closings j s.history)
    ⟨?_, fun _ h => h, fun _ h => h, fun _ _ h => h⟩ rfl
  intro u e _ hc hu
  rw [Service.history_ask, closings,
    List.countP_cons_of_neg (by simp [Event.closes_eq_false hc])]
  exact hu

theorem life?_eq (h : Breakdown setup s (some i) fault t) : t.life? i = some .initializing := by
  have hevaluate : ∀ {u v : Service} {code : String} {r : Except Fault Value},
      (Engine.evaluate i code).exec setup u = (r, v) → v.life? i = u.life? i := by
    intro u v code r he
    have ha := Engine.asked_evaluate setup u i code
    rw [he] at ha
    exact ha.life i
  have hload : ∀ {u v : Service} {path : Value} {r : Except Fault String},
      (Context.loadBundle path).exec setup u = (r, v) → v.life? i = u.life? i := by
    intro u v path r hl
    exact (Context.keeps_loadBundle (P := fun v => v.life? i = u.life? i)
      (fun _ _ h => h) path).after rfl hl
  -- no stage after the creation changes an engine's life
  cases h with
  | console hp hc he => rw [hevaluate he, Engine.life?_of_create setup i hc]
  | load hp hc he hl => rw [hload hl, hevaluate he, Engine.life?_of_create setup i hc]
  | bundle hp hc he hl hb =>
      rw [hevaluate hb, hload hl, hevaluate he, Engine.life?_of_create setup i hc]

theorem exec_dispose (h : Breakdown setup s (some i) fault t) :
    (Engine.dispose i).exec setup t =
      ((setup.host.close t.history).result.mapError .raised,
        ((t.setLife i .disposed).ask (.close i)).buffer i (setup.host.close t.history).logged) := by
  rw [Engine.exec_dispose setup t i (by rw [h.life?_eq]; simp), Engine.exec_close]
  rfl

end Breakdown

/-- What a failed construction should leave: nothing half made, and the failure of its stage. -/
structure Clean (s : Service) (engine : Option Nat) (fault : Fault) (r : Except Fault Nat)
    (t : Service) : Prop where
  state : t.manager.state = .uninitialized
  ready : t.manager.ready = false
  context : t.manager.context = none
  builds : t.manager.builds = s.manager.builds
  closed : ∀ i, engine = some i → closings i t.history = closings i s.history + 1
  fault : r = .error fault

namespace Context

variable {setup : Setup} {s t : Service} {engine : Option Nat} {fault : Fault}

theorem exec_getOrCreate_of_breakdown (hr : s.manager.ready = false)
    (h : Breakdown setup (s.enter .initializing) engine fault t) :
    getOrCreate.exec setup s =
      (.error (cleanUp setup fault t engine).1,
        (cleanUp setup fault t engine).2.renounce (cleanUp setup fault t engine).1) := by
  have hu : s.manager.usable? = none := by simp [Manager.usable?, hr]
  rw [exec_getOrCreate setup s hu, exec_construct_of_breakdown h]

theorem manager_cleanUp (h : Breakdown setup s engine fault t) :
    (cleanUp setup fault t engine).2.manager = s.manager := by
  cases engine with
  | none => exact h.manager_eq
  | some i =>
      simp only [cleanUp, h.exec_dispose]
      split
      · exact h.manager_eq
      · cases (setup.host.close t.history).result <;> exact h.manager_eq

theorem renounced (hc : s.manager.context = none) (hr : s.manager.ready = false)
    {u : Service} (hu : u.manager = (s.enter .initializing).manager) (fault : Fault) :
    (u.renounce fault).manager.ready = false ∧ (u.renounce fault).manager.context = none ∧
      (u.renounce fault).manager.builds = s.manager.builds := by
  simp only [Service.renounce]
  split
  · rw [hu]
    exact ⟨hr, hc, rfl⟩
  · simp only [Service.enter, hu]
    exact ⟨hr, hc, trivial⟩

theorem state_renounce {u : Service} (hu : u.manager.state = .initializing) (fault : Fault) :
    (u.renounce fault).manager.state =
      if fault.isInterrupt then .initializing else .uninitialized := by
  cases hf : fault.isInterrupt <;> simp [Service.renounce, Service.enter, hf, hu]

theorem closings_cleanUp {i : Nat} (h : Breakdown setup s (some i) fault t) :
    closings i (cleanUp setup fault t (some i)).2.history =
      closings i s.history + if fault.isInterrupt then 0 else 1 := by
  cases hf : fault.isInterrupt with
  | true =>
      simp only [cleanUp, hf, if_true]
      exact h.closings_eq i
  | false =>
      have hclosed : closings i (.close i :: t.history) = closings i s.history + 1 := by
        rw [closings, List.countP_cons_of_pos (by simp [Event.closes])]
        exact congrArg (· + 1) (h.closings_eq i)
      simp only [cleanUp, hf, h.exec_dispose, Bool.false_eq_true, if_false]
      cases (setup.host.close t.history).result <;> exact hclosed

theorem failure_cleanUp (h : Breakdown setup s engine fault t) :
    (cleanUp setup fault t engine).1 = fault ∨
      fault.isInterrupt = false ∧ engine.isSome = true ∧
        ∃ g, (setup.host.close t.history).result = .error g ∧
          (cleanUp setup fault t engine).1 = .raised g := by
  cases engine with
  | none => exact .inl rfl
  | some i =>
      cases hf : fault.isInterrupt with
      | true => exact .inl (by simp [cleanUp, hf])
      | false =>
          simp only [cleanUp, hf, h.exec_dispose, Bool.false_eq_true, if_false]
          cases hr : (setup.host.close t.history).result with
          | ok u => exact .inl rfl
          | error g => exact .inr ⟨trivial, rfl, g, rfl, rfl⟩

theorem failure_eq_iff (h : Breakdown setup s engine fault t) (hf : fault.isInterrupt = false) :
    (cleanUp setup fault t engine).1 = fault ↔ (engine.isSome = true →
      ∀ g, (setup.host.close t.history).result = .error g → fault = .raised g) := by
  cases engine with
  | none => simp [cleanUp]
  | some i =>
      simp only [cleanUp, hf, h.exec_dispose, Bool.false_eq_true, if_false]
      cases (setup.host.close t.history).result with
      | ok u => simp
      | error g => simp [eq_comm]

end Context

structure Aftermath (setup : Setup) (s : Service) (engine : Option Nat) (fault : Fault)
    (t : Service) (f : Fault) (u : Service) : Prop where
  ready : u.manager.ready = false
  context : u.manager.context = none
  builds : u.manager.builds = s.manager.builds
  state : u.manager.state = if f.isInterrupt then .initializing else .uninitialized
  closings : ∀ i, engine = some i →
    closings i u.history = closings i s.history + if fault.isInterrupt then 0 else 1
  failure : f = fault ∨ fault.isInterrupt = false ∧ engine.isSome = true ∧
    ∃ g, (setup.host.close t.history).result = .error g ∧ f = .raised g
  clean_iff : Clean s engine fault (.error f) u ↔
    fault.isInterrupt = false ∧ (engine.isSome = true →
      ∀ g, (setup.host.close t.history).result = .error g → fault = .raised g)

namespace Context

variable {setup : Setup} {s t : Service} {engine : Option Nat} {fault : Fault}

theorem aftermath (hc : s.manager.context = none) (hr : s.manager.ready = false)
    (h : Breakdown setup (s.enter .initializing) engine fault t) :
    Aftermath setup s engine fault t (cleanUp setup fault t engine).1
      ((cleanUp setup fault t engine).2.renounce (cleanUp setup fault t engine).1) := by
  have hm := manager_cleanUp h
  obtain ⟨hready, hcontext, hbuilds⟩ := renounced hc hr hm (cleanUp setup fault t engine).1
  have hstate := state_renounce (congrArg Manager.state hm) (cleanUp setup fault t engine).1
  have hclosings : ∀ i, engine = some i → closings i
      ((cleanUp setup fault t engine).2.renounce (cleanUp setup fault t engine).1).history =
        closings i s.history + if fault.isInterrupt then 0 else 1 := by
    rintro i rfl
    rw [Service.history_renounce, closings_cleanUp h]
    rfl
  refine ⟨hready, hcontext, hbuilds, hstate, hclosings, failure_cleanUp h, ?_⟩
  constructor
  · intro hclean
    have hfault : (cleanUp setup fault t engine).1 = fault := Except.error.inj hclean.fault
    have hi : fault.isInterrupt = false := by
      have hs := hstate.symm.trans hclean.state
      rw [hfault] at hs
      cases hf : fault.isInterrupt with
      | false => rfl
      | true => simp [hf] at hs
    exact ⟨hi, (failure_eq_iff h hi).mp hfault⟩
  · rintro ⟨hi, hclose⟩
    have hfault := (failure_eq_iff h hi).mpr hclose
    refine ⟨?_, hready, hcontext, hbuilds, ?_, congrArg _ hfault⟩
    · rw [hstate, hfault, hi]
      rfl
    · intro i he
      rw [hclosings i he, hi]
      rfl

/-- A failed construction publishes nothing. It is clean exactly if it was not interrupted and closing
the engine, if there was one, has returned or has failed in the same way. -/
theorem failed_construction {f : Fault} {u : Service} (hc : s.manager.context = none)
    (hr : s.manager.ready = false) (h : getOrCreate.exec setup s = (.error f, u)) :
    ∃ engine fault t, Breakdown setup (s.enter .initializing) engine fault t ∧
      Aftermath setup s engine fault t f u := by
  have hu : s.manager.usable? = none := by simp [Manager.usable?, hr]
  have hfailed : ∃ fault t, construct.exec setup (s.enter .initializing) = (.error fault, t) := by
    rw [exec_getOrCreate setup s hu] at h
    rcases hx : construct.exec setup (s.enter .initializing) with ⟨fault | n, t⟩
    · exact ⟨fault, t, rfl⟩
    · simp [hx] at h
  obtain ⟨_, _, hx⟩ := hfailed
  obtain ⟨engine, fault, t, hb⟩ := exists_breakdown hx
  have ha := aftermath hc hr hb
  have hexec := exec_getOrCreate_of_breakdown hr hb
  obtain ⟨hf, rfl⟩ := Prod.mk.inj (h.symm.trans hexec)
  rw [← Except.error.inj hf] at ha ⊢
  exact ⟨engine, fault, t, hb, ha⟩

def fresh : Service := { settings := { appRoot := "/" } }

def brittle (failure : Failure) (closing : Except Failure Unit) : Setup where
  options := ⟨false, some "/b.js", 15000, 0⟩
  host := { Host.quiet with
    evaluate := fun _ _ => { result := .error failure }
    close := fun _ => { result := closing } }

def thrown : Failure := .ofMessage (.engine .evaluation) "boom"

def stuck : Failure := .ofMessage (.host .runtime) "close failed"

theorem failed_construction_brittle :
    ∃ u engine fault t,
      getOrCreate.exec (brittle thrown (.error stuck)) fresh = (.error (.raised stuck), u) ∧
      Breakdown (brittle thrown (.error stuck)) (fresh.enter .initializing) engine fault t ∧
      Aftermath (brittle thrown (.error stuck)) fresh engine fault t (.raised stuck) u := by
  have hexec : getOrCreate.exec (brittle thrown (.error stuck)) fresh =
    (.error (.raised stuck), _) := rfl
  obtain ⟨engine, fault, t, hb, ha⟩ := failed_construction rfl rfl hexec
  exact ⟨_, engine, fault, t, hexec, hb, ha⟩

theorem not_always_clean :
    ¬ ∀ (setup : Setup) (s : Service) (engine : Option Nat) (fault : Fault) (t : Service),
      s.manager.context = none → s.manager.ready = false →
      Breakdown setup (s.enter .initializing) engine fault t →
      Clean s engine fault (getOrCreate.exec setup s).1 (getOrCreate.exec setup s).2 := by
  intro h
  have hb : Breakdown (brittle thrown (.error stuck)) (fresh.enter .initializing) (some 0)
      (.raised thrown) _ := .console rfl rfl rfl
  have hclean := h _ fresh _ _ _ rfl rfl hb
  have hfault : (Except.error (Fault.raised stuck) : Except Fault Nat) =
      .error (.raised thrown) := hclean.fault
  simp [stuck, thrown, Failure.ofMessage] at hfault

end Context
end AssetTranspiler
