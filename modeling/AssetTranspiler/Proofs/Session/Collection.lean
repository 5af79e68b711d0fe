import AssetTranspiler.Proofs.Context.Collector
import AssetTranspiler.Proofs.Session.Preservation

namespace AssetTranspiler

open Trace

namespace Clock

inductive Acts (delay : Int) (c : Clock) : Nat → Clock → Prop
  | still : Acts delay c 0 c
  | noted : Acts delay c 1 (c.noted delay)
  | cancelled : Acts delay c 0 c.cancelled
  | stopped : Acts delay c 0 c.stopped

inductive Passes (c : Clock) : Clock → Prop
  | still : Passes c c
  | dropped : Passes c c.cancelled
  | collected : c.pending = true →
      Passes c { c.cancelled with collections := c.collections + 1 }

/-- A pending collection has a collector, which is there only if there is a delay. Each collection, one
that is still pending included, is due to a finished call of its own. -/
structure Attended (delay : Int) (notes : Nat) (c : Clock) : Prop where
  waiting : c.pending = true → c.collector = .waiting
  intact : c.collector ≠ .broken
  off : delay ≤ 0 → c.collector = .absent ∧ c.pending = false
  bounded : c.collections + (if c.pending then 1 else 0) ≤ notes

variable {delay : Int} {n k : Nat} {c d : Clock}

theorem Attended.cancelled (h : Attended delay n c) : Attended delay n c.cancelled where
  waiting hp := by cases hp
  intact := h.intact
  off hd := ⟨(h.off hd).1, rfl⟩
  bounded := Nat.le_trans (Nat.le_add_right _ _) h.bounded

theorem Attended.noted (h : Attended delay n c) : Attended delay (n + 1) (c.noted delay) := by
  have hbounded : c.collections ≤ n := Nat.le_trans (Nat.le_add_right _ _) h.bounded
  rw [Clock.noted]
  split
  next hd => exact ⟨h.waiting, h.intact, fun _ => h.off hd, Nat.le_succ_of_le h.bounded⟩
  next hd =>
    have hcollector : (if c.collector = .absent then Collector.waiting else c.collector) =
        .waiting := by
      have hintact := h.intact
      cases hc : c.collector with
      | absent => rfl
      | waiting => rfl
      | broken => exact absurd hc hintact
    refine ⟨fun _ => hcollector, ?_, fun h => absurd h hd, Nat.succ_le_succ hbounded⟩
    rw [hcollector]
    exact Collector.noConfusion

theorem Attended.stopped (h : Attended delay n c) : Attended delay n c.stopped where
  waiting hp := by cases hp
  intact := Collector.noConfusion
  off _ := ⟨rfl, rfl⟩
  bounded := h.cancelled.bounded

theorem Attended.act (h : Attended delay n c) (ha : Acts delay c k d) :
    Attended delay (n + k) d := by
  cases ha with
  | still => exact h
  | noted => exact h.noted
  | cancelled => exact h.cancelled
  | stopped => exact h.stopped

theorem Attended.pass (h : Attended delay n c) (hp : Passes c d) : Attended delay n d := by
  cases hp with
  | still => exact h
  | dropped => exact h.cancelled
  | collected hp =>
      -- the collection takes the place of the one that was pending
      have hbounded := h.bounded
      rw [hp] at hbounded
      exact ⟨h.cancelled.waiting, h.intact, h.cancelled.off, hbounded⟩

theorem Acts.collections_eq (h : Acts delay c k d) : d.collections = c.collections := by
  cases h with
  | still => rfl
  | noted =>
      rw [Clock.noted]
      split
      · rfl
      · rfl
  | cancelled => rfl
  | stopped => rfl

end Clock

namespace Step

def isClocked : Step → Bool
  | .call _ _ _ => true
  | .reset => true
  | .managerReset => true
  | .dispose => true
  | .notifyIdle => true
  | .cancelIdle => true
  | .advance _ _ => true
  | _ => false

def isPass : Step → Bool
  | .advance _ _ => true
  | _ => false

def notes (setup : Setup) (s : Service) : Step → Nat
  | .call function arguments fetch =>
      if Gateway.notes setup s function arguments fetch then 1 else 0
  | .notifyIdle => 1
  | _ => 0

variable {setup : Setup} {s t : Service} {r : Except Fault Unit} {step : Step}

theorem passes_clock (h : Context.Pass setup s r t) : s.clock.Passes t.clock := by
  have hm := h.manager
  rcases h.requests with hh | ⟨i, hs, ht, -, -, -, hh⟩
  · cases hd : Context.isDue setup.options.idleDelay s.now s.manager with
    | true =>
        have hclock : t.clock = s.clock.cancelled := by
          simp [Service.clock, Clock.cancelled, hm, hh, hd]
        rw [hclock]
        exact .dropped
    | false =>
        have hclock : t.clock = s.clock := by
          simp [Service.clock, hm, hh, hd]
        rw [hclock]
        exact .still
  · have hclock : t.clock =
        { s.clock.cancelled with collections := s.clock.collections + 1 } := by
      have hcollector : t.manager.collector = s.manager.collector := by
        rw [hm]
      rw [Service.clock, ht, hcollector, hh, collections, List.countP_cons_of_pos rfl]
      rfl
    rw [hclock]
    exact .collected hs

theorem passes_settle (hc : setup.host.CollectsUninterrupted) (held : Bool) (s : Service) :
    s.clock.Passes ((whileHeld held Context.settle).exec setup s).2.clock := by
  cases held with
  | false => exact passes_clock (Context.pass_settle s hc)
  | true =>
      have ht := passes_clock (Context.pass_settle
        { s with manager := { s.manager with locked := true } } hc)
      rw [whileHeld, if_pos rfl, Context.exec_withLock]
      exact ht

theorem passes_advance (hc : setup.host.CollectsUninterrupted) (milliseconds : Nat) (held : Bool)
    (s : Service) :
    s.clock.Passes ((perform (.advance milliseconds held)).exec setup s).2.clock := by
  have ht := passes_settle hc held { s with now := s.now + milliseconds }
  rw [perform, Context.advance, Job.exec_bind, Job.exec_update]
  show s.clock.Passes ((whileHeld held Context.settle >>= fun _ => pure Answer.nothing).exec setup
    { s with now := s.now + milliseconds }).2.clock
  rw [Job.exec_answer]
  exact ht

theorem acts_perform (h : step.isClocked = true) (hp : step.isPass = false) (s : Service) :
    s.clock.Acts setup.options.idleDelay (step.notes setup s)
      (step.perform.exec setup s).2.clock := by
  cases step <;> simp only [isClocked, isPass, Bool.false_eq_true, Bool.true_eq_false] at h hp
  case call function arguments fetch =>
    rw [perform, Job.exec_map, Context.clock_call, notes]
    split
    · exact .noted
    · exact .still
  case reset =>
    rw [perform, Job.exec_answer, Context.clock_locked_reset]
    exact .cancelled
  case managerReset =>
    rw [perform, Job.exec_answer, Context.clock_reset]
    exact .cancelled
  case dispose =>
    rw [perform, Job.exec_answer, Context.clock_dispose]
    exact .stopped
  case notifyIdle =>
    obtain ⟨t, ht, hclock⟩ := Context.clock_notifyIdle setup s
    rw [perform, Job.exec_answer, ht, hclock]
    exact .noted
  case cancelIdle => exact .cancelled

theorem attended_perform {n : Nat} (hc : setup.host.CollectsUninterrupted)
    (h : step.isClocked = true) (hs : s.clock.Attended setup.options.idleDelay n) :
    (step.perform.exec setup s).2.clock.Attended setup.options.idleDelay
      (n + step.notes setup s) := by
  cases hp : step.isPass with
  | false => exact hs.act (acts_perform h hp s)
  | true =>
      cases step <;> simp only [isPass, Bool.false_eq_true] at hp
      case advance milliseconds held => exact hs.pass (passes_advance hc milliseconds held s)

theorem pending_reset (h : step.resets = true) (s : Service) :
    (step.perform.exec setup s).2.manager.pending = false := by
  cases step <;> simp only [resets, Bool.false_eq_true] at h
  case reset =>
    rw [perform, Job.exec_answer]
    exact congrArg Clock.pending (Context.clock_locked_reset setup s)
  case managerReset =>
    rw [perform, Job.exec_answer]
    exact congrArg Clock.pending (Context.clock_reset setup s)
  case dispose =>
    rw [perform, Job.exec_answer]
    exact congrArg Clock.pending (Context.clock_dispose setup s)

end Step

structure Tally where
  service : Service
  notes : Nat := 0

namespace Tally

def record (setup : Setup) (t : Tally) (step : Step) : Tally where
  service := (step.perform.exec setup t.service).2
  notes := t.notes + step.notes setup t.service

def after (setup : Setup) (s : Service) (steps : List Step) : Tally :=
  steps.foldl (record setup) { service := s }

theorem attended_after (o : Origin) (hc : o.setup.host.CollectsUninterrupted) {steps : List Step}
    (h : ∀ step ∈ steps, step.isClocked = true) :
    let t := after o.setup o.service steps
    t.service.clock.Attended o.setup.options.idleDelay t.notes := by
  suffices hrun : ∀ t : Tally, t.service.clock.Attended o.setup.options.idleDelay t.notes →
      let u := steps.foldl (record o.setup) t
      u.service.clock.Attended o.setup.options.idleDelay u.notes by
    exact hrun { service := o.service }
      ⟨Bool.noConfusion, Collector.noConfusion, fun _ => ⟨rfl, rfl⟩, Nat.le_refl 0⟩
  induction steps with
  | nil => exact fun t ht => ht
  | cons step steps ih =>
      intro t ht
      have hstep := h step List.mem_cons_self
      have hsteps : ∀ step ∈ steps, step.isClocked = true :=
        fun _ hm => h _ (List.mem_cons_of_mem _ hm)
      exact ih hsteps (t.record o.setup step) (Step.attended_perform hc hstep ht)

/-- After any sequence of steps the clock is attended to. Only passes collect, a reset or a disposal
leaves nothing pending even if it fails, and a pass neither fails nor changes more than the pending
flag, whoever holds the call lock. -/
theorem idle_clock (o : Origin) (hc : o.setup.host.CollectsUninterrupted) {steps : List Step}
    (h : ∀ step ∈ steps, step.isClocked = true) :
    let t := after o.setup o.service steps
    t.service.clock.Attended o.setup.options.idleDelay t.notes ∧
      (∀ step : Step, step.isClocked = true → step.isPass = false →
        (t.record o.setup step).service.clock.collections = t.service.clock.collections) ∧
      (∀ step : Step, step.resets = true →
        (t.record o.setup step).service.clock.pending = false) ∧
      (t.record o.setup .dispose).service.clock.collector = .absent ∧
      ∀ s : Service, (Context.collectIfIdle.exec o.setup s).1 = .ok () ∧
        Context.Pass o.setup s (Context.settle.exec o.setup s).1
          (Context.settle.exec o.setup s).2 := by
  intro t
  refine ⟨attended_after o hc h, ?_, ?_, ?_, ?_⟩
  · intro step hstep hp
    exact (Step.acts_perform hstep hp t.service).collections_eq
  · intro step hr
    exact Step.pending_reset hr t.service
  · rw [record, Step.perform, Job.exec_answer]
    exact congrArg Clock.collector (Context.clock_dispose o.setup t.service)
  · intro s
    obtain ⟨u, hu, -, -⟩ := Context.exec_collectIfIdle s hc
    exact ⟨by rw [hu], Context.pass_settle s hc⟩

def leaky : Origin where
  setup :=
    { options := ⟨false, none, 15000, 2000⟩
      host := { Host.quiet with
        collect := fun _ => { result := .error (.ofMessage (.host .runtime) "gc failed") }
        close := fun _ => { result := .error (.ofMessage (.host .runtime) "close failed") }
        load := some fun _ _ => .ok (.str "") } }
  settings := { appRoot := "/" }
  files := []

def pauses : List Step :=
  [.call "f" [] none, .advance 2000 false, .notifyIdle, .call "f" [] none, .advance 2000 true,
    .notifyIdle]

theorem idle_clock_leaky :
    leaky.setup.host.CollectsUninterrupted ∧ (∀ step ∈ pauses, step.isClocked = true) ∧
      (after leaky.setup leaky.service pauses).service.clock = ⟨true, .waiting, 1⟩ ∧
      (after leaky.setup leaky.service pauses).notes = 4 ∧
      ((after leaky.setup leaky.service pauses).record leaky.setup .reset).service.clock.pending =
        false := by
  have hc : leaky.setup.host.CollectsUninterrupted := by
    rintro past f ⟨⟩
    rfl
  have hsteps : ∀ step ∈ pauses, step.isClocked = true := by
    simp [pauses, Step.isClocked]
  obtain ⟨-, -, hreset, -, -⟩ := idle_clock leaky hc hsteps
  exact ⟨hc, hsteps, by decide +kernel, rfl, hreset .reset rfl⟩

end Tally
end AssetTranspiler
