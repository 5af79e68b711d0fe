import AssetTranspiler.Context.Idle
import AssetTranspiler.Proofs.Context.Clock
import AssetTranspiler.Proofs.Context.Construction
import AssetTranspiler.Proofs.Gateway.Contract

/-!
Coherence of the manager: its context, its ready flag and its state agree, the context is the engine
in use, and that engine is ready. A coherent state also tells what has become of the context since a
given start: it is held still, or a new one was published where there was none.
-/

namespace AssetTranspiler

open Trace

/-- The context is the one that the start has held, or the first one published since. -/
def Holding (start s : Service) : Prop :=
  (s.manager.context = start.manager.context ∧ s.manager.builds = start.manager.builds) ∨
    (start.manager.context = none ∧ s.manager.builds = start.manager.builds + 1 ∧
      ∃ n, s.manager.context = some n ∧ creations start.history ≤ n)

structure Coherent (o : Origin) (start : Service) (locked : Bool) (s : Service) : Prop where
  sound : Sound o start.history s.manager (s.manager.context.map fun n => (n, .equipped)) s
  ready : s.manager.ready = s.manager.context.isSome
  state : s.manager.state = .ready ↔ s.manager.context.isSome
  alive : ∀ n, s.manager.context = some n → s.life? n = some .ready
  locked : s.manager.locked = locked
  holding : Holding start s

namespace Coherent

variable {o : Origin} {start s t : Service} {b b' : Bool} {e : Event} {n : Nat} {α : Type}

theorem initial (o : Origin) : Coherent o o.service false o.service where
  sound := {
    manager := rfl
    settings := rfl
    files := rfl
    continues := List.suffix_rfl
    orderly := trivial
    length := rfl
    closed := by simp [Service.life?, Origin.service, phase]
    latest := by simp [Origin.service]
    settled := fun _ _ => ⟨by simp [Origin.service, phase], by simp [Origin.service, phase]⟩ }
  ready := rfl
  state := by simp [Origin.service]
  alive := by simp [Origin.service]
  locked := rfl
  holding := .inl ⟨rfl, rfl⟩

theorem restart (h : Coherent o start b s) : Coherent o s b s where
  sound := { h.sound with continues := List.suffix_rfl }
  ready := h.ready
  state := h.state
  alive := h.alive
  locked := h.locked
  holding := .inl ⟨rfl, rfl⟩

theorem congr (h : Coherent o start b s) (hc : t.manager.context = s.manager.context)
    (hr : t.manager.ready = s.manager.ready) (hs : t.manager.state = s.manager.state)
    (hb : t.manager.builds = s.manager.builds) (hl : t.manager.locked = b')
    (hsettings : t.settings = s.settings) (hf : t.files = s.files)
    (hh : t.history = s.history) (he : t.engines = s.engines) : Coherent o start b' t where
  sound := by
    rw [hc]
    exact h.sound.congr rfl hsettings hf hh he
  ready := by rw [hr, hc, h.ready]
  state := by rw [hs, hc, h.state]
  alive n hn := by
    rw [Service.life?, he]
    exact h.alive n (hc ▸ hn)
  locked := hl
  holding := by
    rw [Holding, hc, hb]
    exact h.holding

theorem usable?_eq (h : Coherent o start b s) : s.manager.usable? = s.manager.context :=
  Manager.usable?_eq h.ready

theorem settled_of_ne (h : Coherent o start b s) (hn : s.manager.context ≠ some n) :
    (phase o.setup.host n s.history).Settled := by
  apply h.sound.settled n
  intro p hp
  cases hc : s.manager.context with
  | none => simp [hc] at hp
  | some i =>
      rw [hc, Option.map_some, Option.some.injEq, Prod.mk.injEq] at hp
      exact hn (by rw [hc, hp.1])

theorem context_iff (h : Coherent o start b s) (n : Nat) :
    s.manager.context = some n ↔ phase o.setup.host n s.history = .equipped := by
  by_cases hn : s.manager.context = some n
  · have hs := h.sound
    rw [hn] at hs
    exact iff_of_true hn (hs.latest n .equipped rfl).2
  · exact iff_of_false hn (h.settled_of_ne hn).2

theorem phase_ne_bare (h : Coherent o start b s) (n : Nat) :
    phase o.setup.host n s.history ≠ .bare := by
  by_cases hn : s.manager.context = some n
  · rw [(h.context_iff n).mp hn]
    simp
  · exact (h.settled_of_ne hn).1

theorem keeps_cancelIdle : Job.Keeps o.setup (Coherent o start b) Context.cancelIdle :=
  fun _ h => h.congr rfl rfl rfl rfl h.locked rfl rfl rfl rfl

theorem keeps_notifyIdle : Job.Keeps o.setup (Coherent o start b) Context.notifyIdle := by
  intro s h
  simp only [Context.notifyIdle, Job.exec_bind, Job.exec_read]
  split
  · exact h
  · exact h.congr rfl rfl rfl rfl h.locked rfl rfl rfl rfl

theorem keeps_withLock {job : Job α} (h : Job.Keeps o.setup (Coherent o start true) job) :
    Job.Keeps o.setup (Coherent o start false) (Context.withLock job) := by
  intro s hs
  rw [Context.exec_withLock]
  have ht := h { s with manager := { s.manager with locked := true } }
    (hs.congr rfl rfl rfl rfl rfl rfl rfl rfl rfl)
  exact ht.congr rfl rfl rfl rfl rfl rfl rfl rfl rfl

theorem publish (h : Coherent o start b s) (hc : s.manager.context = none)
    (ht : Sound o start.history (s.enter .initializing).manager (some (n, .equipped)) t)
    (hr : t.life? n = some .ready) (hn : creations start.history ≤ n) :
    Coherent o start b (t.publish n) where
  sound := ht.congr rfl rfl rfl rfl rfl
  ready := rfl
  state := by simp [Service.publish]
  alive i hi := by
    cases hi
    exact hr
  locked := by
    rw [Service.publish, ht.manager]
    exact h.locked
  holding := by
    rcases h.holding with ⟨hs, hb⟩ | ⟨-, -, i, hi, -⟩
    · refine .inr ⟨hs.symm.trans hc, ?_, n, rfl, hn⟩
      rw [← hb, Service.publish, ht.manager]
      rfl
    · rw [hc] at hi
      cases hi

theorem vacant (hs : Sound o start.history t.manager none t) (hc : t.manager.context = none)
    (hr : t.manager.ready = false) (hst : t.manager.state ≠ .ready) (hl : t.manager.locked = b)
    (hh : Holding start t) : Coherent o start b t where
  sound := by
    rw [hc]
    exact hs
  ready := by rw [hr, hc]; rfl
  state := by rw [hc]; simpa using hst
  alive := by simp [hc]
  locked := hl
  holding := hh

theorem ready_eq_false (h : Coherent o start b s) (hc : s.manager.context = none) :
    s.manager.ready = false := by
  rw [h.ready, hc]
  rfl

theorem relinquish (h : Coherent o start b s) (hc : s.manager.context = none)
    (ht : Sound o start.history (s.enter .initializing).manager none t) (fault : Fault) :
    Coherent o start b (t.renounce fault) := by
  have hentered : ∀ st u, st ≠ .ready → u.manager = (s.enter st).manager →
      Sound o start.history (s.enter st).manager none u → Coherent o start b u := by
    intro st u hst hm hu
    refine vacant (hm ▸ hu) ?_ ?_ ?_ ?_ ?_
    · rw [hm]
      exact hc
    · rw [hm]
      exact h.ready_eq_false hc
    · rw [hm]
      exact hst
    · rw [hm]
      exact h.locked
    · rw [Holding, hm]
      exact h.holding
  -- an interruption leaves the state at initializing
  rw [Service.renounce.eq_def]
  split
  · exact hentered .initializing t (by simp) ht.manager ht
  · have hm : (t.enter .uninitialized).manager = (s.enter .uninitialized).manager := by
      rw [Service.enter, ht.manager]
      rfl
    exact hentered .uninitialized _ (by simp) hm (ht.congr hm rfl rfl rfl rfl)

theorem meets_getOrCreate :
    Job.Meets o.setup (Coherent o start b) Context.getOrCreate fun r t =>
      Coherent o start b t ∧ ∀ i, r = .ok i → t.manager.context = some i := by
  intro s h
  cases hc : s.manager.context with
  | some i =>
      rw [Context.exec_getOrCreate_of_usable _ _ (h.usable?_eq.trans hc)]
      exact ⟨h, by simp [hc]⟩
  | none =>
      rw [Context.exec_getOrCreate _ _ (h.usable?_eq.trans hc)]
      have hs := h.sound
      rw [hc] at hs
      have hconstruct := Sound.meets_construct (s.enter .initializing)
        (hs.congr rfl rfl rfl rfl rfl)
      rcases hr : Context.construct.exec o.setup (s.enter .initializing) with ⟨fault | n, t⟩ <;>
        rw [hr] at hconstruct
      · exact ⟨h.relinquish hc hconstruct fault, by simp⟩
      · obtain ⟨ht, hlife, hn⟩ := hconstruct
        refine ⟨h.publish hc ht hlife hn, ?_⟩
        rintro i ⟨⟩
        rfl

def Held (o : Origin) (start : Service) (b : Bool) (n : Nat) (s : Service) : Prop :=
  Coherent o start b s ∧ s.manager.context = some n

namespace Held

theorem use (h : Held o start b n s) (ha : s.Asked e t) (hu : e.isUse = true)
    (hn : e.engine? = some n)
    (ht : ∀ limit, e.timeout? = some limit → limit = o.setup.options.timeout) :
    Held o start b n t := by
  obtain ⟨hs, hc⟩ := h
  have hsound := hs.sound
  rw [hc] at hsound
  have hcontext : t.manager.context = some n := by
    rw [ha.manager]
    exact hc
  refine ⟨⟨?_, ?_, ?_, ?_, ?_, ?_⟩, hcontext⟩
  · rw [hcontext, ha.manager]
    exact hsound.use ha hu hn ht
  · rw [ha.manager]
    exact hs.ready
  · rw [ha.manager]
    exact hs.state
  · intro i hi
    rw [ha.life]
    exact hs.alive i (ha.manager ▸ hi)
  · rw [ha.manager]
    exact hs.locked
  · rw [Holding, ha.manager]
    exact hs.holding

theorem usable : Usable o.setup (Held o start b n) n where
  call function arguments := by
    intro s h
    have ha := Engine.asked_call o.setup s n function arguments
    rw [Engine.callEvent] at ha
    split at ha
    · exact h.use ha rfl rfl (by simp [Event.timeout?])
    · exact h.use ha rfl rfl (by simp [Event.timeout?])
  drain _ h := h.use (Engine.asked_drain o.setup _ n []) rfl rfl (by simp [Event.timeout?])
  collect _ h := h.use (Engine.asked_collect o.setup _ n) rfl rfl (by simp [Event.timeout?])
  log _ h := ⟨h.1.congr rfl rfl rfl rfl h.1.locked rfl rfl rfl rfl, h.2⟩

theorem keeps_notifyIdle : Job.Keeps o.setup (Held o start b n) Context.notifyIdle := by
  intro s h
  refine ⟨Coherent.keeps_notifyIdle s h.1, ?_⟩
  simp only [Context.notifyIdle, Job.exec_bind, Job.exec_read]
  split
  · exact h.2
  · exact h.2

end Held

theorem keeps_collectIfIdle : Job.Keeps o.setup (Coherent o start b) Context.collectIfIdle := by
  intro s h
  simp only [Context.collectIfIdle, Job.exec_bind, Job.exec_get, h.locked]
  cases b with
  | true => exact h
  | false =>
      refine keeps_withLock ?_ s h
      intro s h
      simp only [Job.exec_bind, Job.exec_get, h.usable?_eq]
      cases hc : s.manager.context with
      | none => exact h
      | some n => exact (Held.usable.keeps_collect s ⟨h, hc⟩).1

theorem keeps_settle : Job.Keeps o.setup (Coherent o start b) Context.settle :=
  Context.keeps_settle keeps_cancelIdle keeps_collectIfIdle fun _ h =>
    h.congr rfl rfl rfl rfl h.locked rfl rfl rfl rfl

end Coherent

structure Vacated (o : Origin) (s : Service) (b : Bool) (t : Service) : Prop where
  coherent : Coherent o t b t
  context : t.manager.context = none
  builds : t.manager.builds = s.manager.builds
  continues : s.history <:+ t.history
  closed : ∀ n, s.manager.context = some n → phase o.setup.host n t.history = .closed

namespace Vacated

variable {o : Origin} {start s t u : Service} {b b' : Bool}

theorem make (hs : Sound o s.history t.manager none t) (hc : t.manager.context = none)
    (hr : t.manager.ready = false) (hst : t.manager.state ≠ .ready) (hl : t.manager.locked = b)
    (hb : t.manager.builds = s.manager.builds)
    (hd : ∀ n, s.manager.context = some n → phase o.setup.host n t.history = .closed) :
    Vacated o s b t where
  coherent := (Coherent.vacant { hs with continues := List.suffix_rfl } hc hr hst hl
    (.inl ⟨rfl, rfl⟩)).restart
  context := hc
  builds := hb
  continues := hs.continues
  closed := hd

theorem congr (h : Vacated o s b t) (hc : u.manager.context = t.manager.context)
    (hr : u.manager.ready = t.manager.ready) (hst : u.manager.state ≠ .ready)
    (hb : u.manager.builds = t.manager.builds) (hl : u.manager.locked = b')
    (hsettings : u.settings = t.settings) (hf : u.files = t.files)
    (hh : u.history = t.history) (he : u.engines = t.engines) : Vacated o s b' u := by
  have hs := h.coherent.sound
  rw [h.context] at hs
  have hbase : Sound o s.history t.manager none t := { hs with continues := h.continues }
  refine make (hbase.congr rfl hsettings hf hh he) (hc.trans h.context) ?_ hst hl
    (hb.trans h.builds) ?_
  · rw [hr]
    exact h.coherent.ready_eq_false h.context
  · rw [hh]
    exact h.closed

end Vacated

namespace Coherent

variable {o : Origin} {start s t : Service} {b : Bool}

theorem reset (h : Coherent o start b s) : Vacated o s b (Context.reset.exec o.setup s).2 := by
  have hs := h.restart.sound
  have hmake : ∀ t, Sound o s.history s.vacate.manager none t →
      (∀ n, s.manager.context = some n → phase o.setup.host n t.history = .closed) →
      Vacated o s b t := by
    intro t ht hd
    have hm := ht.manager
    refine .make (hm ▸ ht) ?_ ?_ ?_ ?_ ?_ hd
    · rw [hm]; rfl
    · rw [hm]; rfl
    · simp [hm, Service.vacate]
    · rw [hm]; exact h.locked
    · rw [hm]; rfl
  rw [Context.exec_reset]
  cases hc : s.manager.context with
  | none =>
      rw [hc] at hs
      exact hmake s.vacate (hs.congr rfl rfl rfl rfl rfl) (by simp [hc])
  | some n =>
      rw [hc] at hs
      obtain ⟨ht, hn⟩ := Sound.meets_dispose (.inr (.inr rfl)) s.vacate
        (hs.congr rfl rfl rfl rfl rfl)
      have hd : ∀ i, s.manager.context = some i → phase o.setup.host i
          ((Engine.dispose n).exec o.setup s.vacate).2.history = .closed := by
        intro i hi
        rw [hc, Option.some.injEq] at hi
        exact hi ▸ hn
      simp only
      rcases hr : (Engine.dispose n).exec o.setup s.vacate with ⟨fault | u, t⟩ <;>
        rw [hr] at ht hd
      · exact hmake t ht hd
      · exact hmake _ (ht.congr ht.manager rfl rfl rfl rfl) hd

theorem dispose (h : Coherent o start b s) :
    Vacated o s b (Context.dispose.exec o.setup s).2 := by
  have hr := reset (s := { s with manager := { s.manager with
    collector := .absent, pending := false } })
    (h.congr rfl rfl rfl rfl h.locked rfl rfl rfl rfl)
  simp only [Context.dispose, Job.exec_bind, Job.exec_updateManager]
  rcases hx : Context.reset.exec o.setup { s with manager := { s.manager with
    collector := .absent, pending := false } } with ⟨fault | u, t⟩ <;> rw [hx] at hr
  · exact ⟨hr.coherent, hr.context, hr.builds, hr.continues, hr.closed⟩
  · have hs : Vacated o s b t := ⟨hr.coherent, hr.context, hr.builds, hr.continues, hr.closed⟩
    exact hs.congr rfl rfl (by simp [Context.setState]) rfl hs.coherent.locked rfl rfl rfl rfl

theorem locked_reset (h : Coherent o start false s) :
    Vacated o s false ((Context.withLock Context.reset).exec o.setup s).2 := by
  have hlocked : Coherent o start true { s with manager := { s.manager with locked := true } } :=
    h.congr rfl rfl rfl rfl rfl rfl rfl rfl rfl
  have hr := hlocked.reset
  rw [Context.exec_withLock]
  have hs : Vacated o s true _ := ⟨hr.coherent, hr.context, hr.builds, hr.continues, hr.closed⟩
  refine hs.congr rfl rfl ?_ rfl rfl rfl rfl rfl rfl
  have hstate := hr.coherent.state
  rw [hr.context] at hstate
  simpa using hstate

end Coherent
end AssetTranspiler
