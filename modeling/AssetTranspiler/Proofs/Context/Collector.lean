import AssetTranspiler.Proofs.Gateway.Outcome
import AssetTranspiler.Proofs.Session.Turn

namespace AssetTranspiler

def Trace.collections (past : History) : Nat :=
  past.countP Event.isCollect

theorem Trace.collections_cons_of_not {e : Event} (h : e.isCollect = false) (past : History) :
    collections (e :: past) = collections past := by
  simp [collections, h]

theorem Event.isCollect_of_not_use {e : Event} (h : e.isUse = false) : e.isCollect = false := by
  cases e <;> simp [isUse] at h <;> rfl

/-- A host in which no engine's collection is interrupted, whatever else may go wrong with it. -/
def Host.CollectsUninterrupted (host : Host) : Prop :=
  ∀ past f, (host.collect past).result = .error f → f.isInterrupt = false

structure Clock where
  pending : Bool
  collector : Collector
  collections : Nat
  deriving DecidableEq, Repr

namespace Clock

variable (delay : Int) (c : Clock)

def noted : Clock :=
  if delay ≤ 0 then c
  else
    { c with
      pending := true
      collector := if c.collector = .absent then .waiting else c.collector }

def cancelled : Clock :=
  { c with pending := false }

def stopped : Clock :=
  { c with pending := false, collector := .absent }

end Clock

def Service.clock (s : Service) : Clock :=
  ⟨s.manager.pending, s.manager.collector, Trace.collections s.history⟩

namespace Clock

variable {setup : Setup} {c : Clock} {s t : Service} {e : Event}

theorem ask (hs : s.clock = c) (he : e.isCollect = false) (hm : t.manager = s.manager)
    (hh : t.history = e :: s.history) : t.clock = c := by
  rw [← hs, Service.clock, Service.clock, hm, hh, Trace.collections_cons_of_not he]

theorem quiet (c : Clock) : Quiet fun s => s.clock = c where
  request _ hu _ hs := ask hs (Event.isCollect_of_not_use hu) rfl rfl
  close _ hs := ask hs rfl rfl rfl
  engines _ hs := hs
  files _ hs := hs
  log _ _ hs := hs

theorem keeps_getOrCreate : Job.Keeps setup (fun s => s.clock = c) Context.getOrCreate := by
  refine (quiet c).keeps_getOrCreate ?_
  intro s m hp _ hc hs
  rw [← hs, Service.clock, Service.clock, hp, hc]

theorem served (c : Clock) (i : Nat) : Served setup (fun s => s.clock = c) i fun _ => True where
  call function arguments _ := by
    intro s hs
    have ha := Engine.asked_call setup s i function arguments
    refine ask hs ?_ ha.manager ha.history
    rw [Engine.callEvent]
    split <;> rfl
  log _ _ hs := hs

theorem keeps_forwardConsole (i : Nat) :
    Job.Keeps setup (fun s => s.clock = c) (Gateway.forwardConsole i) := by
  intro s hs
  have ha := Gateway.asked_forwardConsole setup i s
  exact ask hs rfl ha.manager ha.history

end Clock

namespace Gateway

def unnoted (function : String) (arguments : List Value) (fetch : Option String) :
    Job (Except Fault Value) := do
  let i ← Context.getOrCreate
  let outcome ← Job.attempt (answer i function arguments fetch)
  forwardConsole i
  return outcome

def notes (setup : Setup) (s : Service) (function : String) (arguments : List Value)
    (fetch : Option String) : Bool :=
  ((unnoted function arguments fetch).exec setup
    { s with manager := { s.manager with locked := true } }).1.isOk

variable {setup : Setup} {c : Clock} {function : String} {arguments : List Value}
  {fetch : Option String}

theorem call_eq_unnoted :
    call function arguments fetch =
      Context.withLock (do
        let outcome ← unnoted function arguments fetch
        Context.notifyIdle
        Job.ofExcept outcome) := by
  rw [call_eq]
  simp only [serve, unnoted, bind_assoc, pure_bind]

theorem keeps_unnoted :
    Job.Keeps setup (fun s => s.clock = c) (unnoted function arguments fetch) := by
  refine Clock.keeps_getOrCreate.bind fun i => ?_
  refine ((Clock.served c i).keeps_answer trivial (fun _ _ => trivial) arguments).attempt.bind
    fun outcome => ?_
  exact (Clock.keeps_forwardConsole i).bind fun _ => Job.keeps_pure outcome

end Gateway

namespace Context

variable (setup : Setup) (s : Service)

theorem clock_notifyIdle :
    ∃ t, notifyIdle.exec setup s = (.ok (), t) ∧
      t.clock = s.clock.noted setup.options.idleDelay := by
  simp only [notifyIdle, Job.exec_bind, Job.exec_read, Clock.noted]
  split
  · exact ⟨s, rfl, rfl⟩
  · exact ⟨_, rfl, rfl⟩

theorem clock_call (function : String) (arguments : List Value) (fetch : Option String) :
    ((Gateway.call function arguments fetch).exec setup s).2.clock =
      if Gateway.notes setup s function arguments fetch then
        s.clock.noted setup.options.idleDelay
      else s.clock := by
  have hkeeps : Job.Keeps setup (fun t => t.clock = s.clock)
      (Gateway.unnoted function arguments fetch) := Gateway.keeps_unnoted
  have hkept := hkeeps { s with manager := { s.manager with locked := true } } rfl
  rw [Gateway.call_eq_unnoted, exec_withLock, Gateway.notes]
  simp only [Job.exec_bind]
  rcases hr : (Gateway.unnoted function arguments fetch).exec setup
    { s with manager := { s.manager with locked := true } } with ⟨fault | outcome, t⟩ <;>
    rw [hr] at hkept
  · exact hkept
  · obtain ⟨u, hu, hclock⟩ := clock_notifyIdle setup t
    have hbefore : t.clock = s.clock := hkept
    rw [hbefore] at hclock
    simp only [hu, Job.exec_ofExcept]
    exact hclock

theorem clock_reset : (reset.exec setup s).2.clock = s.clock.cancelled := by
  rw [exec_reset]
  cases s.manager.context with
  | none => rfl
  | some i =>
      have hkeeps : Job.Keeps setup (fun t => t.clock = s.clock.cancelled) (Engine.dispose i) :=
        (Clock.quiet s.clock.cancelled).keeps_dispose i
      have hkept := hkeeps s.vacate rfl
      dsimp only
      rcases hr : (Engine.dispose i).exec setup s.vacate with ⟨fault | u, t⟩ <;> rw [hr] at hkept
      · exact hkept
      · exact hkept

theorem clock_locked_reset : (Gateway.reset.exec setup s).2.clock = s.clock.cancelled := by
  rw [Gateway.reset, exec_withLock]
  exact clock_reset setup { s with manager := { s.manager with locked := true } }

theorem clock_dispose : (dispose.exec setup s).2.clock = s.clock.stopped := by
  have hreset := clock_reset setup { s with manager := { s.manager with
    collector := .absent, pending := false } }
  simp only [dispose, Job.exec_bind, Job.exec_updateManager]
  rcases hr : reset.exec setup { s with manager := { s.manager with
    collector := .absent, pending := false } } with ⟨fault | u, t⟩ <;> rw [hr] at hreset
  · exact hreset
  · exact hreset

variable {setup}

theorem exec_collect (hc : setup.host.CollectsUninterrupted) (i : Nat) :
    ∃ t, (collect i).exec setup s = (.ok (), t) ∧ t.manager = s.manager ∧
      t.history = .collect i :: s.history := by
  simp only [collect, Job.exec_bind, Job.exec_attempt, Engine.exec_collect]
  cases hr : (setup.host.collect s.history).result with
  | ok u => exact ⟨_, rfl, rfl, rfl⟩
  | error f =>
      simp only [Job.mapError_error, hc _ f hr, Bool.false_eq_true, if_false]
      exact ⟨_, rfl, rfl, rfl⟩

theorem usable?_eq_some {m : Manager} {i : Nat} (h : m.usable? = some i) :
    m.context = some i ∧ m.ready = true := by
  rw [Manager.usable?] at h
  split at h
  next hr => exact ⟨h, hr⟩
  next => cases h

theorem exec_collectIfIdle (hc : setup.host.CollectsUninterrupted) :
    ∃ t, collectIfIdle.exec setup s = (.ok (), t) ∧ t.manager = s.manager ∧
      (t.history = s.history ∨ ∃ i, s.manager.context = some i ∧ s.manager.ready = true ∧
        s.manager.locked = false ∧ t.history = .collect i :: s.history) := by
  simp only [collectIfIdle, Job.exec_bind, Job.exec_get]
  cases hl : s.manager.locked with
  | true => exact ⟨s, rfl, rfl, .inl rfl⟩
  | false =>
      have hunlock (m : Manager) (hm : m = { s.manager with locked := true }) :
          { m with locked := false } = s.manager := by
        rw [hm, ← hl]
      simp only [Bool.false_eq_true, if_false, exec_withLock, Job.exec_bind, Job.exec_get]
      cases hu : ({ s.manager with locked := true } : Manager).usable? with
      | none => exact ⟨_, rfl, hunlock _ rfl, .inl rfl⟩
      | some i =>
          obtain ⟨t, ht, hm, hh⟩ :=
            exec_collect { s with manager := { s.manager with locked := true } } hc i
          obtain ⟨hcontext, hready⟩ := usable?_eq_some hu
          simp only [ht]
          exact ⟨_, rfl, hunlock _ hm, .inr ⟨i, hcontext, hready, trivial, hh⟩⟩

/-- What a pass of the collector comes to. It never fails, and of the manager it changes the pending
flag only, which it consumes; it asks for one collection at most. -/
structure Pass (setup : Setup) (s : Service) (r : Except Fault Unit) (t : Service) : Prop where
  returns : r = .ok ()
  manager : t.manager = { s.manager with
    pending := s.manager.pending && !isDue setup.options.idleDelay s.now s.manager }
  requests : t.history = s.history ∨
    ∃ i, s.manager.pending = true ∧ t.manager.pending = false ∧ s.manager.context = some i ∧
      s.manager.ready = true ∧ s.manager.locked = false ∧ t.history = .collect i :: s.history

theorem pass_settle (hc : setup.host.CollectsUninterrupted) :
    Pass setup s (settle.exec setup s).1 (settle.exec setup s).2 := by
  cases hd : isDue setup.options.idleDelay s.now s.manager with
  | false =>
      rw [exec_settle_of_not_due setup s hd]
      exact ⟨rfl, by simp [hd], .inl rfl⟩
  | true =>
      have hp : s.manager.pending = true := by
        simp only [isDue, Bool.and_eq_true] at hd
        exact hd.1.2
      obtain ⟨t, ht, hm, hh⟩ :=
        exec_collectIfIdle { s with manager := { s.manager with pending := false } } hc
      have hsettle : settle.exec setup s = (.ok (), t) := by
        simp only [settle, Job.exec_bind, Job.exec_get, Job.exec_read, hd, if_true, cancelIdle,
          Job.exec_updateManager, Job.exec_attempt, ht, Job.exec_pure]
      rw [hsettle]
      refine ⟨rfl, by simp [hm, hd], ?_⟩
      rcases hh with hh | ⟨i, hcontext, hready, hlocked, hh⟩
      · exact .inl hh
      · exact .inr ⟨i, hp, by rw [hm], hcontext, hready, hlocked, hh⟩

end Context
end AssetTranspiler
