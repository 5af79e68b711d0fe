import AssetTranspiler.Proofs.Console.Delivery

namespace AssetTranspiler

open Trace

namespace Answering

theorem accounted {host : Host} {guarded : Bool} {start s : Service} {i : Nat}
    (h : Answering host guarded start i s) (hs : Accounted host guarded start)
    (hc : start.manager.context = some i) : Accounted host guarded s where
  ready := by rw [h.manager, hs.ready]
  books := by
    rw [h.manager, hc]
    exact h.books

end Answering

namespace Accounted

variable {setup : Setup} {guarded : Bool} {s : Service} {i : Nat}

theorem indifferent (host : Host) (guarded : Bool) : Outside (Accounted host guarded) where
  request _ he h := ⟨h.ready, h.books.outside he⟩
  files _ h := ⟨h.ready, h.books.congr rfl rfl rfl⟩
  log {s} _ hr h := ⟨h.ready, h.books.congr rfl rfl (s.consoleLog_cons hr)⟩

theorem collect (hu : s.manager.usable? = some i)
    (h : Accounted setup.host guarded s) :
    Accounted setup.host guarded ((Context.collect i).exec setup s).2 := by
  have hc : s.manager.context = some i := (Manager.usable?_eq h.ready).symm.trans hu
  exact (Answering.keeps_collect s (h.answering hc)).accounted h hc

theorem preserved :
    Preserved setup (Accounted setup.host guarded) guarded where
  aside _ _ _ h := ⟨h.ready, h.books.congr rfl rfl rfl⟩
  log r hr h := (indifferent ..).log r hr h
  getOrCreate s h := (meets_getOrCreate s h).1
  call _ arguments _ hg _ h := (h.call hg arguments).1
  notifyIdle := (untimed ..).keeps_notifyIdle
  cancelIdle := (untimed ..).keeps_cancelIdle
  collectIfIdle held := (untimed ..).keeps_whileHeld
    ((untimed ..).keeps_collectIfIdle fun _ _ hu h => collect hu h) held
  settle held := (untimed ..).keeps_whileHeld
    ((untimed ..).keeps_settle fun _ _ hu h => collect hu h) held

theorem disposeEngine (h : Accounted setup.host guarded s)
    (hc : s.manager.context = some i) :
    Accounted setup.host guarded ((Engine.dispose i).exec setup s).2 := by
  -- behind the manager's back: the engine is closed but stays in use
  have hmanager : Job.Keeps setup _ (Engine.dispose i) :=
    (Quiet.ofManager s.manager).keeps_dispose i
  have hm := hmanager s rfl
  refine ⟨by rw [hm, h.ready], ?_⟩
  rw [hm, hc]
  exact (Books.meets_dispose s (hc ▸ h.books)).1

theorem evaluate (h : Accounted setup.host guarded s) (hc : s.manager.context = some i)
    (code : String) :
    Accounted setup.host guarded ((Engine.evaluate i code).exec setup s).2 := by
  have ha := Engine.asked_evaluate setup s i code
  refine ⟨by rw [ha.manager, h.ready], ?_⟩
  rw [ha.manager, hc]
  exact (hc ▸ h.books : Books setup.host guarded (some i) s).evaluate code

theorem keeps_reset : Job.Keeps setup (Accounted setup.host guarded) Context.reset := by
  intro s h
  have hbooks := h.books
  rw [Context.exec_reset]
  cases hc : s.manager.context with
  | none =>
      rw [hc] at hbooks
      exact ⟨rfl, hbooks.congr rfl rfl rfl⟩
  | some i =>
      rw [hc] at hbooks
      have hmanager : Job.Keeps setup _ (Engine.dispose i) :=
        (Quiet.ofManager s.vacate.manager).keeps_dispose i
      have hm := hmanager s.vacate rfl
      have hvacated : Books setup.host guarded (some i) s.vacate := hbooks.congr rfl rfl rfl
      obtain ⟨hd, hclosed⟩ := Books.meets_dispose s.vacate hvacated
      have ht : Accounted setup.host guarded ((Engine.dispose i).exec setup s.vacate).2 := by
        refine ⟨by rw [hm]; rfl, ?_⟩
        rw [hm]
        exact hd.giveUp fun _ _ => .inl hclosed
      simp only
      rcases hr : (Engine.dispose i).exec setup s.vacate with ⟨fault | u, t⟩ <;> rw [hr] at ht
      · exact ht
      · exact (indifferent ..).log _ (by simp) ht

theorem keeps_dispose : Job.Keeps setup (Accounted setup.host guarded) Context.dispose := by
  refine Job.Keeps.bind ?_ fun _ => keeps_reset.bind fun _ => ?_
  · exact Job.keeps_updateManager fun _ h => (untimed ..).manager _ rfl rfl rfl rfl h
  · exact Job.keeps_updateManager fun _ h => ⟨h.ready, h.books.congr rfl rfl rfl⟩

theorem maintained (setup : Setup) (guarded : Bool) :
    Maintained setup (Accounted setup.host guarded) guarded where
  toPreserved := preserved
  request e he h := (indifferent ..).request e he h
  files _ h := ⟨h.ready, h.books.congr rfl rfl rfl⟩
  settings _ h := ⟨h.ready, h.books.congr rfl rfl rfl⟩
  withLock := (untimed ..).keeps_withLock
  reset := keeps_reset
  dispose := keeps_dispose
  contextDispose := meets_getOrCreate.bind (fun i _ h => h.1.disposeEngine (h.2 i rfl))
    fun _ _ h => h.1
  contextEvaluate code := meets_getOrCreate.bind (fun i _ h => h.1.evaluate (h.2 i rfl) code)
    fun _ _ h => h.1

end Accounted

/-- The delivery of console records up to a state: they are handed out and logged in order, and only
what an engine out of use still has buffered is lost. -/
structure Delivered (o : Origin) (s : Service) : Prop where
  legible : ∀ r ∈ produced o.setup.host s.history, Legible r.2
  ordered : (handed o.setup.host s.history).Sublist (produced o.setup.host s.history)
  complete : ∀ i, ofEngine i (handed o.setup.host s.history) ++
    buffered o.setup.host i s.history = ofEngine i (produced o.setup.host s.history)
  logged : s.consoleLog.Sublist ((handed o.setup.host s.history).map fun r => Console.shown r.2)
  lost : ∀ i, s.manager.context ≠ some i → buffered o.setup.host i s.history ≠ [] →
    0 < closings i s.history ∨ Abandoned o.setup.host i s.history
  call : ∀ function arguments fetch,
    Delivery o.setup s ((Gateway.call function arguments fetch).exec o.setup s).2

theorem Accounted.delivered {o : Origin} {s : Service} (h : Accounted o.setup.host false s)
    (hr : Regular o.setup.host s.history) : Delivered o s where
  legible := legible_of_produced hr
  ordered := (h.books.balance hr).handed
  complete := handed_append_buffered hr
  logged := (h.books.balance hr).shown
  lost := (h.books.balance hr).tidy
  call _ arguments _ := (h.call (by simp) arguments).2

namespace Session

/-- In every session in which consoles work properly, their records are delivered once and in order.
If no step drains a console by hand, the log shows all that drains have handed out. -/
theorem records_delivered (o : Origin) (steps : List Step)
    (hr : Regular o.setup.host (final o.setup o.service steps).history) :
    Delivered o (final o.setup o.service steps) ∧
      ((∀ step ∈ steps, step.drains = false) →
        (final o.setup o.service steps).consoleLog =
          (handed o.setup.host (final o.setup o.service steps).history).map
            fun r => Console.shown r.2) := by
  constructor
  · exact ((Accounted.maintained o.setup false).final steps (by simp) (.initial ..)).delivered hr
  · intro hd
    have h := (Accounted.maintained o.setup true).final steps (fun _ => hd) (.initial _ _ o)
    exact (h.books.balance hr).exact rfl

def talking (load : History → Value → Except Failure Value) : Origin where
  setup :=
    { options := ⟨false, none, 15000, 0⟩
      host := { Host.quiet with
        evaluate := fun _ _ =>
          { logged := [.list [.str "info", .str "ready"]], result := .ok .null }
        call := fun _ function _ =>
          { logged := [.list [.str "warn", .str function]]
            result := .error (.ofMessage (.engine .evaluation) "boom") }
        drain := fun past =>
          { result := if past.any Event.isDrain then .ok none
              else .error (.ofMessage (.engine .timeout) "") }
        load := some load } }
  settings := { appRoot := "/" }
  files := []

theorem proper_talking (load : History → Value → Except Failure Value) (past : History)
    (e : Event) : Proper (talking load).setup.host past e where
  pairs v hv := by
    cases e <;> simp [Host.logged, talking, Host.quiet] at hv
    · exact ⟨_, _, hv⟩
    · exact ⟨_, _, hv⟩
  silent _ := rfl
  drained _ := by
    cases hd : past.any Event.isDrain with
    | true => exact .inl (by simp only [talking, hd, if_true])
    | false => exact .inr ⟨.ofMessage (.engine .timeout) "", rfl, by simp only [talking, hd]; rfl⟩
  unborn _ _ _ := rfl

def visited (load : History → Value → Except Failure Value) : Service :=
  final (talking load).setup (talking load).service [.call "f" [] none, .call "g" [] none]

theorem records_delivered_talking :
    Regular (talking fun _ _ => .ok .null).setup.host (visited fun _ _ => .ok .null).history ∧
      Delivered (talking fun _ _ => .ok .null) (visited fun _ _ => .ok .null) ∧
      (visited fun _ _ => .ok .null).consoleLog =
        [⟨.console, .info, "ready", false⟩, ⟨.console, .info, "ready", false⟩,
          ⟨.console, .warning, "f", false⟩, ⟨.console, .warning, "g", false⟩] := by
  have hr := regular_of_proper (proper_talking fun _ _ => .ok .null)
    (visited fun _ _ => .ok .null).history
  obtain ⟨hd, hlog⟩ := records_delivered (talking fun _ _ => .ok .null) _ hr
  refine ⟨hr, hd, (hlog ?_).trans rfl⟩
  simp [Step.drains]
  decide

def interruptedOnce (past : History) (_ : Value) : Except Failure Value :=
  if past.any Event.isLoad then .ok .null else .error (.ofMessage .interrupt "")

/-- An interruption between the console and the bundle leaves an engine open that nobody drains. -/
theorem record_lost_unclosed :
    Regular (talking interruptedOnce).setup.host (visited interruptedOnce).history ∧
      (visited interruptedOnce).manager.context = some 1 ∧
      buffered (talking interruptedOnce).setup.host 0 (visited interruptedOnce).history =
        [.list [.str "info", .str "ready"]] ∧
      closings 0 (visited interruptedOnce).history = 0 :=
  ⟨regular_of_proper (proper_talking interruptedOnce) _, rfl, rfl, rfl⟩

end Session
end AssetTranspiler
