import AssetTranspiler.Proofs.Service.Contract
import AssetTranspiler.Session.Turn

namespace AssetTranspiler

namespace Context

variable (setup : Setup) (s : Service)

theorem settle_ok : (settle.exec setup s).1 = .ok () := by
  simp only [settle, Job.exec_bind, Job.exec_get, Job.exec_read]
  split
  · simp only [Job.exec_bind, cancelIdle, Job.exec_updateManager, Job.exec_attempt]
    generalize collectIfIdle.exec setup _ = x
    rcases x with ⟨fault | u, t⟩ <;> rfl
  · rfl

theorem exec_settle_of_not_due (h : isDue setup.options.idleDelay s.now s.manager = false) :
    settle.exec setup s = (.ok (), s) := by
  simp [settle, Job.exec_bind, h]

theorem exec_settle_of_not_pending (h : s.manager.pending = false) :
    settle.exec setup s = (.ok (), s) :=
  exec_settle_of_not_due setup s (by simp [isDue, h])

end Context

namespace Session

variable (setup : Setup) (s : Service) (step : Step)

theorem outcome_turn : (turn setup s step).1.outcome = (step.perform.exec setup s).1 := by
  have hok := Context.settle_ok setup (step.perform.exec setup s).2
  simp only [turn, Step.run, Job.exec_bind, Job.exec_attempt]
  rcases hr : Context.settle.exec setup (step.perform.exec setup s).2 with ⟨r, t⟩
  rw [hr] at hok
  cases hok
  rfl

theorem state_turn :
    (turn setup s step).2 = (Context.settle.exec setup (step.perform.exec setup s).2).2 := by
  have hok := Context.settle_ok setup (step.perform.exec setup s).2
  simp only [turn, Step.run, Job.exec_bind, Job.exec_attempt]
  rcases hr : Context.settle.exec setup (step.perform.exec setup s).2 with ⟨r, t⟩
  rw [hr] at hok
  cases hok
  rfl

theorem events_turn :
    (turn setup s step).1.events = added s.history (turn setup s step).2.history := rfl

end Session

end AssetTranspiler
