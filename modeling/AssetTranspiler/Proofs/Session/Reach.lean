import AssetTranspiler.Proofs.Context.Clock
import AssetTranspiler.Proofs.Context.Stages
import AssetTranspiler.Proofs.Gateway.Contract
import AssetTranspiler.Proofs.Context.Sound
import AssetTranspiler.Proofs.Session.Preservation

namespace AssetTranspiler

inductive Reachable (o : Origin) : Service → Prop
  | fresh : Reachable o o.service
  | perform {s : Service} (step : Step) : Reachable o s →
      Reachable o (step.perform.exec o.setup s).2

def Armed (setup : Setup) (s : Service) : Prop :=
  s.manager.pending = true → 0 < setup.options.idleDelay

namespace Armed

variable {setup : Setup} {s t : Service}

theorem congr (h : Armed setup s) (hp : t.manager.pending = s.manager.pending) :
    Armed setup t := by
  rw [Armed, hp]
  exact h

theorem quiet (setup : Setup) : Quiet (Armed setup) where
  request _ _ _ h := h
  close _ h := h
  engines _ h := h
  files _ h := h
  log _ _ h := h

theorem keeps_getOrCreate : Job.Keeps setup (Armed setup) Context.getOrCreate :=
  (quiet setup).keeps_getOrCreate fun _ hp _ _ h => h.congr hp

theorem usable (i : Nat) : Usable setup (Armed setup) i where
  call function arguments := by
    intro s h
    exact h.congr (by rw [(Engine.asked_call setup s i function arguments).manager])
  drain s h := h.congr (by rw [(Engine.asked_drain setup s i []).manager])
  collect s h := h.congr (by rw [(Engine.asked_collect setup s i).manager])
  log _ h := h

theorem keeps_cancelIdle : Job.Keeps setup (Armed setup) Context.cancelIdle := by
  intro s _ hp
  simp [Context.cancelIdle] at hp

theorem keeps_notifyIdle : Job.Keeps setup (Armed setup) Context.notifyIdle := by
  intro s h
  simp only [Context.notifyIdle, Job.exec_bind, Job.exec_read]
  split
  · exact h
  · intro _
    omega

theorem lockless (setup : Setup) : Lockless (Armed setup) where
  manager _ h := h

theorem keeps_collectIfIdle : Job.Keeps setup (Armed setup) Context.collectIfIdle :=
  (lockless setup).keeps_collectIfIdle fun s i _ hs => (usable i).keeps_collect s hs

theorem keeps_settle : Job.Keeps setup (Armed setup) Context.settle :=
  Context.keeps_settle keeps_cancelIdle keeps_collectIfIdle fun _ h => h

theorem preserved (setup : Setup) : Preserved setup (Armed setup) false where
  aside _ _ _ h := h
  log _ _ h := h
  getOrCreate := keeps_getOrCreate
  call function arguments fetch _ := by
    rw [Gateway.call_eq]
    exact (lockless setup).keeps_withLock (keeps_getOrCreate.bind fun i =>
      (usable i).keeps_serve keeps_notifyIdle function arguments fetch)
  notifyIdle := keeps_notifyIdle
  cancelIdle := keeps_cancelIdle
  collectIfIdle := (lockless setup).keeps_whileHeld keeps_collectIfIdle
  settle := (lockless setup).keeps_whileHeld keeps_settle

theorem keeps_reset : Job.Keeps setup (Armed setup) Context.reset := by
  refine keeps_cancelIdle.bind fun _ => Job.keeps_get.bind fun s => ?_
  refine Job.Keeps.bind (Job.keeps_updateManager fun _ h => h) fun _ => ?_
  cases s.manager.context with
  | none => exact Job.keeps_pure ()
  | some i =>
      exact ((quiet setup).keeps_dispose i).bind fun _ =>
        (quiet setup).outside.keeps_log (by decide) _ _

theorem keeps_dispose : Job.Keeps setup (Armed setup) Context.dispose := by
  refine Job.Keeps.bind (fun s _ hp => by simp at hp) fun _ => keeps_reset.bind fun _ => ?_
  exact Job.keeps_updateManager fun _ h => h

theorem maintained (setup : Setup) : Maintained setup (Armed setup) false where
  toPreserved := preserved setup
  request e he h := (quiet setup).outside.request e he h
  files _ h := h
  settings _ h := h
  withLock := (lockless setup).keeps_withLock
  reset := keeps_reset
  dispose := keeps_dispose
  contextDispose := keeps_getOrCreate.bind fun i => (quiet setup).keeps_dispose i
  contextEvaluate code := keeps_getOrCreate.bind fun i => (quiet setup).keeps_evaluate i code

end Armed

theorem Reachable.armed {o : Origin} {s : Service} (h : Reachable o s) : Armed o.setup s := by
  induction h with
  | fresh =>
      intro hp
      simp [Origin.service] at hp
  | perform step _ ih => exact (Armed.maintained o.setup).keeps_perform step (by simp) _ ih

end AssetTranspiler
