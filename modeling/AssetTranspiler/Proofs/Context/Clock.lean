import AssetTranspiler.Context.Idle
import AssetTranspiler.Proofs.Service.Contract
import AssetTranspiler.Session.Step

namespace AssetTranspiler

theorem Context.keeps_settle {setup : Setup} {P : Service → Prop}
    (hcancel : Job.Keeps setup P Context.cancelIdle)
    (hcollect : Job.Keeps setup P Context.collectIfIdle)
    (hbreak : ∀ s, P s → P { s with manager := { s.manager with collector := .broken } }) :
    Job.Keeps setup P Context.settle := by
  refine Job.keeps_get.bind fun s => Job.keeps_read.bind fun _ => ?_
  split
  · refine hcancel.bind fun _ => hcollect.attempt.bind fun outcome => ?_
    cases outcome with
    | ok u => exact Job.keeps_pure ()
    | error fault => exact Job.keeps_updateManager hbreak
  · exact Job.keeps_pure ()

structure Lockless (P : Service → Prop) : Prop where
  manager : ∀ {s : Service} (locked : Bool), P s →
    P { s with manager := { s.manager with locked := locked } }

namespace Lockless

variable {setup : Setup} {P : Service → Prop} {α : Type} {job : Job α}

theorem keeps_withLock (h : Lockless P) (hj : Job.Keeps setup P job) :
    Job.Keeps setup P (Context.withLock job) := by
  intro s hs
  rw [Context.exec_withLock]
  exact h.manager false (hj _ (h.manager true hs))

theorem keeps_whileHeld (h : Lockless P) (hj : Job.Keeps setup P job) (held : Bool) :
    Job.Keeps setup P (Step.whileHeld held job) := by
  cases held with
  | true => exact h.keeps_withLock hj
  | false => exact hj

theorem keeps_collectIfIdle (h : Lockless P)
    (hc : ∀ s i, s.manager.usable? = some i → P s → P ((Context.collect i).exec setup s).2) :
    Job.Keeps setup P Context.collectIfIdle := by
  refine Job.keeps_get.bind fun s => ?_
  cases s.manager.locked with
  | true => exact Job.keeps_pure ()
  | false =>
      refine h.keeps_withLock ?_
      intro s hs
      simp only [Job.exec_bind, Job.exec_get]
      cases hu : s.manager.usable? with
      | none => exact hs
      | some i => exact hc s i hu hs

end Lockless

structure Untimed (P : Service → Prop) : Prop where
  manager : ∀ {s : Service} (m : Manager), m.state = s.manager.state →
    m.context = s.manager.context → m.ready = s.manager.ready → m.builds = s.manager.builds →
    P s → P { s with manager := m }

namespace Untimed

variable {setup : Setup} {P : Service → Prop} {α : Type} {job : Job α}

theorem keeps_cancelIdle (h : Untimed P) : Job.Keeps setup P Context.cancelIdle :=
  Job.keeps_updateManager fun _ hs => h.manager _ rfl rfl rfl rfl hs

theorem keeps_notifyIdle (h : Untimed P) : Job.Keeps setup P Context.notifyIdle := by
  intro s hs
  simp only [Context.notifyIdle, Job.exec_bind, Job.exec_read]
  split
  · exact hs
  · exact h.manager _ rfl rfl rfl rfl hs

theorem lockless (h : Untimed P) : Lockless P where
  manager _ hs := h.manager _ rfl rfl rfl rfl hs

theorem keeps_withLock (h : Untimed P) (hj : Job.Keeps setup P job) :
    Job.Keeps setup P (Context.withLock job) :=
  h.lockless.keeps_withLock hj

theorem keeps_whileHeld (h : Untimed P) (hj : Job.Keeps setup P job) (held : Bool) :
    Job.Keeps setup P (Step.whileHeld held job) :=
  h.lockless.keeps_whileHeld hj held

theorem keeps_collectIfIdle (h : Untimed P)
    (hc : ∀ s i, s.manager.usable? = some i → P s → P ((Context.collect i).exec setup s).2) :
    Job.Keeps setup P Context.collectIfIdle :=
  h.lockless.keeps_collectIfIdle hc

theorem keeps_settle (h : Untimed P)
    (hc : ∀ s i, s.manager.usable? = some i → P s → P ((Context.collect i).exec setup s).2) :
    Job.Keeps setup P Context.settle :=
  Context.keeps_settle h.keeps_cancelIdle (h.keeps_collectIfIdle hc) fun _ hs =>
    h.manager _ rfl rfl rfl rfl hs

end Untimed
end AssetTranspiler
