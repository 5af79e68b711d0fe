import AssetTranspiler.Proofs.Failure.Decoding
import AssetTranspiler.Proofs.Session.Reach

namespace AssetTranspiler

/-- A host whose drains fail with engine failures only. What they hand out can be walked through, or
counts as false. -/
structure DrainsReadably (host : Host) : Prop where
  failure : ∀ past f, (host.drain past).result = .error f → f.isEngine = true
  records : ∀ past v, (host.drain past).result = .ok (some v) → v.truthy = true →
    v.elements?.isSome = true

namespace Gateway

def fetcher? (fetch : Option String) : Option String :=
  fetch.filter fun f => !f.isEmpty

/-- The requests that a call makes to the engine, the latest first, and what comes of them. -/
inductive Exchange (setup : Setup) (i : Nat) (function : String) (arguments : List Value)
    (fetch : Option String) (s : Service) : List Event → Except Fault Value → Prop
  | failed {f : Failure} {t : Service} :
      (Engine.call i function arguments).exec setup s = (.error (.raised f), t) →
      Exchange setup i function arguments fetch s
        [Engine.callEvent i function arguments setup.options.timeout] (.error (.raised f))
  | returned {v : Value} {t : Service} : fetcher? fetch = none →
      (Engine.call i function arguments).exec setup s = (.ok v, t) →
      Exchange setup i function arguments fetch s
        [Engine.callEvent i function arguments setup.options.timeout] (.ok v)
  | fetched {v : Value} {g : String} {r : Except Fault Value} {t u : Service} :
      fetcher? fetch = some g → (Engine.call i function arguments).exec setup s = (.ok v, t) →
      (Engine.call i g []).exec setup t = (r, u) →
      Exchange setup i function arguments fetch s
        [Engine.callEvent i g [] setup.options.timeout,
          Engine.callEvent i function arguments setup.options.timeout] r

structure Answered (setup : Setup) (i : Nat) (calls : List Event) (result : Except Fault Value)
    (s : Service) (r : Except Fault Value) (t : Service) : Prop where
  history : t.history = .drain i [] setup.options.timeout :: (calls ++ s.history)
  returned : ∀ v, r = .ok v ↔ result = .ok v
  translated : ∀ e, r = .error (.transpile e) ↔
    ∃ f m, f.isEngine = true ∧ result = .error (.raised f) ∧
      Report.decode setup.host.stack (Report.thrownValue f.text) = some m ∧
      e = ⟨m, some (f.frames ++ f.line), some f⟩
  exhausted : r = .error .exhausted ↔
    ∃ f, f.isEngine = true ∧ result = .error (.raised f) ∧
      Report.decode setup.host.stack (Report.thrownValue f.text) = none
  unchanged : ∀ f, f.isEngine = false → result = .error (.raised f) → r = .error (.raised f)
  pending : t.manager.pending = true ↔ 0 < setup.options.idleDelay

structure Unanswered (fault : Fault) (s : Service) (r : Except Fault Value) (t : Service) : Prop where
  fault : r = .error fault
  requests : ∃ new, t.history = new ++ s.history ∧ ∀ e ∈ new, e.isUse = false
  pending : t.manager.pending = s.manager.pending
  lastCall : t.manager.lastCall = s.manager.lastCall
  collector : t.manager.collector = s.manager.collector

variable {setup : Setup} {s t : Service} {i : Nat}

theorem drain_error {fault : Fault} (h : (Engine.drain i).exec setup s = (.error fault, t)) :
    ∃ f, fault = .raised f ∧ (setup.host.drain s.history).result = .error f := by
  simp only [Engine.exec_drain] at h
  rcases hr : (setup.host.drain s.history).result with f | _ | v <;> rw [hr] at h
  · exact ⟨f, (Except.error.inj (Prod.mk.inj h).1).symm, rfl⟩
  · simp [Engine.exec_takePending] at h
  · simp at h

theorem drain_ok {v : Value} (h : (Engine.drain i).exec setup s = (.ok v, t)) :
    (∃ rs, v = .list rs) ∨ (setup.host.drain s.history).result = .ok (some v) := by
  simp only [Engine.exec_drain] at h
  rcases hr : (setup.host.drain s.history).result with f | _ | w <;> rw [hr] at h
  · simp at h
  · simp only [Engine.exec_takePending, Prod.mk.injEq, Except.ok.injEq] at h
    exact .inl ⟨_, h.1.symm⟩
  · simp only [Prod.mk.injEq, Except.ok.injEq] at h
    exact .inr (by rw [h.1])

theorem isSome_entries? (hd : DrainsReadably setup.host) {v : Value}
    (h : (Engine.drain i).exec setup s = (.ok v, t)) : (Console.entries? v).isSome = true := by
  rcases drain_ok h with ⟨rs, rfl⟩ | hr
  · rw [Console.entries?_list]
    rfl
  · cases ht : v.truthy with
    | false =>
        rw [Console.entries?_of_not_truthy ht]
        rfl
    | true => simpa [Console.entries?, ht] using hd.records _ v hr ht

theorem forwardConsole_ok (hd : DrainsReadably setup.host) (i : Nat) (s : Service) :
    ∃ t, (forwardConsole i).exec setup s = (.ok (), t) ∧
      t.history = .drain i [] setup.options.timeout :: s.history ∧ t.manager = s.manager := by
  have ha := Engine.asked_drain setup s i []
  simp only [forwardConsole, Job.exec_bind, Job.exec_attempt]
  rcases hr : (Engine.drain i).exec setup s with ⟨fault | v, t⟩ <;> rw [hr] at ha
  · obtain ⟨f, rfl, hf⟩ := drain_error hr
    simp only [hd.failure _ f hf, if_true, Job.exec_log]
    exact ⟨_, rfl, ha.history, ha.manager⟩
  · obtain ⟨entries, he⟩ := Option.isSome_iff_exists.mp (isSome_entries? hd hr)
    simp only [Job.discard_eq_map, Job.exec_map, exec_forward, he]
    exact ⟨_, rfl, ha.history, ha.manager⟩

theorem exec_invoke (setup : Setup) (s : Service) (i : Nat) (function : String)
    (arguments : List Value) (fetch : Option String) :
    ∃ calls result t, (invoke i function arguments fetch).exec setup s = (result, t) ∧
      Exchange setup i function arguments fetch s calls result ∧
      t.history = calls ++ s.history ∧ t.manager = s.manager := by
  have ha := Engine.asked_call setup s i function arguments
  simp only [invoke, Job.exec_bind]
  rcases hr : (Engine.call i function arguments).exec setup s with ⟨fault | v, t⟩ <;> rw [hr] at ha
  · obtain ⟨f, rfl⟩ := Engine.call_error setup s i (congrArg Prod.fst hr)
    exact ⟨_, _, t, rfl, .failed hr, ha.history, ha.manager⟩
  · cases fetch with
    | none => exact ⟨_, _, t, rfl, .returned rfl hr, ha.history, ha.manager⟩
    | some g =>
        cases hg : g.isEmpty with
        | true =>
            have hf : fetcher? (some g) = none := by simpa [fetcher?] using hg
            simp only [hg, if_true, Job.exec_pure]
            exact ⟨_, _, t, rfl, .returned hf hr, ha.history, ha.manager⟩
        | false =>
            have hf : fetcher? (some g) = some g := by simpa [fetcher?] using hg
            have hb := Engine.asked_call setup t i g []
            simp only [hg, Bool.false_eq_true, if_false]
            rcases hu : (Engine.call i g []).exec setup t with ⟨r, u⟩
            rw [hu] at hb
            refine ⟨_, r, u, rfl, .fetched hf hr hu, ?_, hb.manager.trans ha.manager⟩
            rw [hb.history, ha.history]
            rfl

def translation (stack : Nesting.Stack) (f : Failure) : Fault :=
  ((TranspileError.ofFailure stack f).map .transpile).getD .exhausted

def outcome (stack : Nesting.Stack) (result : Except Fault Value) : Except Fault Value :=
  match result with
  | .error (.raised f) =>
      if f.isEngine then .error (translation stack f) else .error (.raised f)
  | r => r

theorem exec_announce (setup : Setup) (s : Service) (function : String)
    (translated : Option TranspileError) :
    ∃ t, (announce function translated).exec setup s =
        (.error ((translated.map .transpile).getD .exhausted), t) ∧
      t.history = s.history ∧ t.manager = s.manager := by
  cases translated with
  | none => exact ⟨_, rfl, rfl, rfl⟩
  | some e => exact ⟨_, rfl, rfl, rfl⟩

theorem exec_translate (setup : Setup) (s : Service) (function : String) (fault : Fault) :
    ∃ t, (translate function fault).exec setup s =
        (outcome setup.host.stack (.error fault), t) ∧
      t.history = s.history ∧ t.manager = s.manager := by
  cases fault with
  | raised f =>
      cases hf : f.isEngine with
      | false =>
          simp only [translate, outcome, hf, Bool.false_eq_true, if_false, Job.exec_throw]
          exact ⟨_, rfl, rfl, rfl⟩
      | true =>
          simp only [translate, outcome, translation, hf, if_true, Job.exec_bind, Job.exec_read]
          exact exec_announce setup s function _
  | _ => exact ⟨_, rfl, rfl, rfl⟩

theorem exec_answer (setup : Setup) (s : Service) (i : Nat) (function : String)
    (arguments : List Value) (fetch : Option String) :
    ∃ calls result t, (answer i function arguments fetch).exec setup s =
        (outcome setup.host.stack result, t) ∧
      Exchange setup i function arguments fetch s calls result ∧
      t.history = calls ++ s.history ∧ t.manager = s.manager := by
  obtain ⟨calls, result, t, ht, hx, hh, hm⟩ := exec_invoke setup s i function arguments fetch
  simp only [answer, Job.exec_bind, Job.exec_attempt, ht]
  cases result with
  | ok v => exact ⟨calls, .ok v, t, rfl, hx, hh, hm⟩
  | error fault =>
      obtain ⟨u, hu, huh, hum⟩ := exec_translate setup t function fault
      exact ⟨calls, .error fault, u, hu, hx, huh.trans hh, hum.trans hm⟩

section
variable {stack : Nesting.Stack} {f : Failure}

theorem outcome_ok_iff {result : Except Fault Value} {v : Value} :
    outcome stack result = .ok v ↔ result = .ok v := by
  rcases result with (f | e | cs | n | p | p | _ | _) | w
  · cases hf : f.isEngine <;> simp [outcome, hf]
  all_goals simp [outcome]

theorem translation_eq_transpile {e : TranspileError} :
    translation stack f = .transpile e ↔ TranspileError.ofFailure stack f = some e := by
  unfold translation
  cases TranspileError.ofFailure stack f <;> simp

theorem translation_eq_exhausted :
    translation stack f = .exhausted ↔
      Report.decode stack (Report.thrownValue f.text) = none := by
  unfold translation TranspileError.ofFailure Report.message
  cases Report.decode stack (Report.thrownValue f.text) <;> simp

theorem outcome_transpile_iff {e : TranspileError} :
    outcome stack (.error (.raised f)) = .error (.transpile e) ↔
      f.isEngine = true ∧ TranspileError.ofFailure stack f = some e := by
  cases hf : f.isEngine <;> simp [outcome, hf, translation_eq_transpile]

theorem outcome_exhausted_iff :
    outcome stack (.error (.raised f)) = .error .exhausted ↔
      f.isEngine = true ∧ Report.decode stack (Report.thrownValue f.text) = none := by
  cases hf : f.isEngine <;> simp [outcome, hf, translation_eq_exhausted]

end

theorem exec_notifyIdle (setup : Setup) (s : Service) :
    ∃ t, Context.notifyIdle.exec setup s = (.ok (), t) ∧ t.history = s.history ∧
      t.manager.pending = (s.manager.pending || decide (0 < setup.options.idleDelay)) := by
  simp only [Context.notifyIdle, Job.exec_bind, Job.exec_read]
  split
  · next h =>
      refine ⟨s, rfl, rfl, ?_⟩
      rw [decide_eq_false (by omega), Bool.or_false]
  · next h =>
      refine ⟨_, rfl, rfl, ?_⟩
      simp only [decide_eq_true (show 0 < setup.options.idleDelay by omega), Bool.or_true]

theorem Exchange.raised {function : String} {arguments : List Value} {fetch : Option String}
    {calls : List Event} {fault : Fault}
    (h : Exchange setup i function arguments fetch s calls (.error fault)) :
    ∃ f, fault = .raised f := by
  cases h with
  | failed _ => exact ⟨_, rfl⟩
  | fetched _ _ hu => exact Engine.call_error setup _ i (congrArg Prod.fst hu)

theorem serve_answered (hd : DrainsReadably setup.host) (ha : Armed setup s) (i : Nat)
    (function : String) (arguments : List Value) (fetch : Option String) :
    ∃ calls result, Exchange setup i function arguments fetch s calls result ∧
      Answered setup i calls result s ((serve i function arguments fetch).exec setup s).1
        ((serve i function arguments fetch).exec setup s).2 := by
  obtain ⟨calls, result, t, ht, hx, hh, hm⟩ := exec_answer setup s i function arguments fetch
  obtain ⟨u, hu, huh, hum⟩ := forwardConsole_ok hd i t
  obtain ⟨v, hv, hvh, hvp⟩ := exec_notifyIdle setup u
  have hserve : (serve i function arguments fetch).exec setup s =
      (outcome setup.host.stack result, v) := by
    simp only [serve, Job.exec_bind, Job.exec_attempt, ht, hu, hv, Job.exec_ofExcept]
  -- the requests themselves only raise failures; all other faults come from the translation
  have hraised : ∀ fault, outcome setup.host.stack result = .error fault →
      ∃ f, result = .error (.raised f) := by
    intro fault hf
    cases result with
    | ok a => simp [outcome] at hf
    | error fault =>
        obtain ⟨f, rfl⟩ := hx.raised
        exact ⟨f, rfl⟩
  rw [hserve]
  refine ⟨calls, result, hx, ?_, fun a => outcome_ok_iff, ?_, ?_, ?_, ?_⟩
  · rw [hvh, huh, hh]
  · intro e
    constructor
    · intro he
      obtain ⟨f, rfl⟩ := hraised _ he
      obtain ⟨hf, he⟩ := outcome_transpile_iff.mp he
      obtain ⟨m, hdecode, rfl⟩ := TranspileError.ofFailure_eq_some.mp he
      exact ⟨f, m, hf, rfl, hdecode, rfl⟩
    · rintro ⟨f, m, hf, rfl, hdecode, rfl⟩
      exact outcome_transpile_iff.mpr ⟨hf, TranspileError.ofFailure_eq_some.mpr ⟨m, hdecode, rfl⟩⟩
  · constructor
    · intro he
      obtain ⟨f, rfl⟩ := hraised _ he
      obtain ⟨hf, hdecode⟩ := outcome_exhausted_iff.mp he
      exact ⟨f, hf, rfl, hdecode⟩
    · rintro ⟨f, hf, rfl, hdecode⟩
      exact outcome_exhausted_iff.mpr ⟨hf, hdecode⟩
  · intro f hf hr
    simp [outcome, hr, hf]
  · rw [hvp, hum, hm, Bool.or_eq_true, decide_eq_true_eq]
    exact or_iff_right_of_imp ha

theorem asked_forwardConsole (setup : Setup) (i : Nat) (s : Service) :
    s.Asked (.drain i [] setup.options.timeout) ((forwardConsole i).exec setup s).2 := by
  have ha := Engine.asked_drain setup s i []
  simp only [forwardConsole, Job.exec_bind, Job.exec_attempt]
  rcases hr : (Engine.drain i).exec setup s with ⟨fault | v, t⟩ <;> rw [hr] at ha
  · obtain ⟨f, rfl, -⟩ := drain_error hr
    cases hf : f.isEngine with
    | true =>
        simp only [hf, if_true, Job.exec_log]
        exact ⟨ha.history, ha.length, ha.life, ha.manager, ha.settings, ha.files⟩
    | false =>
        simp only [hf, Bool.false_eq_true, if_false, Job.exec_throw]
        exact ha
  · simp only [Job.discard_eq_map, Job.exec_map, exec_forward]
    cases Console.entries? v with
    | none => exact ha
    | some entries => exact ⟨ha.history, ha.length, ha.life, ha.manager, ha.settings, ha.files⟩

theorem exec_serve (hd : DrainsReadably setup.host) (i : Nat) (function : String)
    (arguments : List Value) (fetch : Option String) (s : Service) :
    ∃ calls result, Exchange setup i function arguments fetch s calls result ∧
      ((serve i function arguments fetch).exec setup s).1 = outcome setup.host.stack result := by
  obtain ⟨calls, result, t, ht, hx, -, -⟩ := exec_answer setup s i function arguments fetch
  obtain ⟨u, hu, -⟩ := forwardConsole_ok hd i t
  obtain ⟨v, hv, -⟩ := exec_notifyIdle setup u
  refine ⟨calls, result, hx, ?_⟩
  simp only [serve, Job.exec_bind, Job.exec_attempt, ht, hu, hv, Job.exec_ofExcept]

theorem exec_serve_direct (setup : Setup) {function : String}
    (hne : function ≠ Console.drainFunction) (i : Nat) (arguments : List Value) (s : Service) :
    ∃ r t, (serve i function arguments none).exec setup s = (r, t) ∧
      t.history = .drain i [] setup.options.timeout ::
        .call i function arguments setup.options.timeout :: s.history ∧
      (DrainsReadably setup.host →
        r = outcome setup.host.stack
          ((setup.host.call s.history function arguments).result.mapError .raised)) := by
  obtain ⟨calls, result, t, ht, hx, hh, -⟩ := exec_answer setup s i function arguments none
  have hasked : calls = [.call i function arguments setup.options.timeout] ∧
      result = (setup.host.call s.history function arguments).result.mapError .raised := by
    cases hx with
    | failed hcall =>
        rw [Engine.exec_call_of_ne setup s i hne] at hcall
        exact ⟨by rw [Engine.callEvent, if_neg hne], (congrArg Prod.fst hcall).symm⟩
    | returned _ hcall =>
        rw [Engine.exec_call_of_ne setup s i hne] at hcall
        exact ⟨by rw [Engine.callEvent, if_neg hne], (congrArg Prod.fst hcall).symm⟩
    | fetched hg _ _ => simp [fetcher?] at hg
  obtain ⟨rfl, rfl⟩ := hasked
  have hdrain := (asked_forwardConsole setup i t).history
  simp only [serve, Job.exec_bind, Job.exec_attempt, ht]
  rcases hf : (forwardConsole i).exec setup t with ⟨fault | u, t'⟩ <;> rw [hf] at hdrain
  · refine ⟨_, _, rfl, by rw [hdrain, hh]; rfl, ?_⟩
    intro hd
    obtain ⟨t'', ht'', -⟩ := forwardConsole_ok hd i t
    simp [hf] at ht''
  · obtain ⟨v, hv, hvh, -⟩ := exec_notifyIdle setup t'
    simp only [hv, Job.exec_ofExcept]
    exact ⟨_, _, rfl, by rw [hvh, hdrain, hh]; rfl, fun _ => rfl⟩

theorem getOrCreate_frame (setup : Setup) (s : Service) :
    (∃ new, (Context.getOrCreate.exec setup s).2.history = new ++ s.history ∧
      ∀ e ∈ new, e.isUse = false) ∧
    (Context.getOrCreate.exec setup s).2.manager.pending = s.manager.pending ∧
    (Context.getOrCreate.exec setup s).2.manager.lastCall = s.manager.lastCall ∧
    (Context.getOrCreate.exec setup s).2.manager.collector = s.manager.collector := by
  let P : Service → Prop := fun t =>
    (∃ new, t.history = new ++ s.history ∧ ∀ e ∈ new, e.isUse = false) ∧
      t.manager.pending = s.manager.pending ∧ t.manager.lastCall = s.manager.lastCall ∧
      t.manager.collector = s.manager.collector
  have hask : ∀ {t} (e : Event), e.isUse = false → P t → P (t.ask e) := by
    rintro t e he ⟨⟨new, hn, hu⟩, hm⟩
    refine ⟨⟨e :: new, ?_, ?_⟩, hm⟩
    · rw [Service.history_ask, hn]
      rfl
    · simpa [he] using hu
  have hquiet : Quiet P := {
    request := fun e hu _ h => hask e hu h
    engines := fun _ h => h
    files := fun _ h => h
    log := fun _ _ h => h
    close := fun i h => hask (.close i) rfl h }
  refine hquiet.keeps_getOrCreate ?_ s ⟨⟨[], rfl, by simp⟩, rfl, rfl, rfl⟩
  rintro t m hp hl hc ⟨hn, hm⟩
  exact ⟨hn, hp.trans hm.1, hl.trans hm.2.1, hc.trans hm.2.2⟩

def boom : Failure :=
  ⟨.engine .evaluation, "boom", "  in call\n"⟩

def moody : Origin where
  setup :=
    { options := ⟨false, none, 15000, 2000⟩
      host := { Host.quiet with
        call := fun _ function _ =>
          if function = "getMinifyResult" then { result := .error boom } else { result := .ok .null }
        drain := fun _ => { result := .error (.ofMessage (.engine .timeout) "") }
        load := some fun _ _ => .ok (.str "") } }
  settings := { appRoot := "/" }
  files := []

theorem drainsReadably_moody : DrainsReadably moody.setup.host where
  failure := by
    rintro past f ⟨⟩
    rfl
  records := by
    rintro past v ⟨⟩

def boomError : TranspileError :=
  ⟨"boom", some "  in call\npy_mini_racer._exc.JSEvalException: boom\n", some boom⟩

def failing (f : Failure) : Origin where
  setup :=
    { options := ⟨false, none, 15000, 0⟩
      host := { Host.quiet with
        call := fun _ _ _ => { result := .error f }
        load := some fun _ _ => .ok (.str "") } }
  settings := { appRoot := "/" }
  files := []

theorem drainsReadably_failing (f : Failure) : DrainsReadably (failing f).setup.host :=
  ⟨by rintro past f ⟨⟩, by rintro past v ⟨⟩⟩

theorem call_failing {f : Failure} (hf : f.isEngine = true) :
    ((call "f" [] none).exec (failing f).setup (failing f).service).1 =
      .error (translation {} f) := by
  obtain ⟨u, hu⟩ : ∃ u, Context.getOrCreate.exec (failing f).setup
      { (failing f).service with
        manager := { (failing f).service.manager with locked := true } } = (.ok 0, u) := ⟨_, rfl⟩
  have hne : "f" ≠ Console.drainFunction := by decide
  obtain ⟨r, t, hserve, -, hr⟩ := exec_serve_direct (failing f).setup hne 0 [] u
  have hresult : r = outcome {} (.error (.raised f)) := hr (drainsReadably_failing f)
  rw [call_eq, Context.exec_withLock]
  simp only [Job.exec_bind, hu, hserve, hresult, outcome, hf, if_true]

def nested : Failure :=
  .ofMessage (.engine .evaluation) (String.ofList (List.replicate 1000 '['))

end Gateway
end AssetTranspiler
