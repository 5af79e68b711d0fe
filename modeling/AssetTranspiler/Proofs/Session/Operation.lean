import AssetTranspiler.Proofs.Context.Coherence
import AssetTranspiler.Proofs.Session.Preservation

namespace AssetTranspiler

namespace Coherent

variable {o : Origin} {start s : Service} {b : Bool} {n : Nat}

theorem keeps_gatewayCall (function : String) (arguments : List Value) (fetch : Option String) :
    Job.Keeps o.setup (Coherent o start false) (Gateway.call function arguments fetch) := by
  rw [Gateway.call_eq]
  refine keeps_withLock (Job.Meets.bind meets_getOrCreate ?_ fun f t h => h.1)
  intro i s h
  exact (Held.usable.keeps_serve Held.keeps_notifyIdle function arguments fetch s
    ⟨h.1, h.2 i rfl⟩).1

theorem preserved (o : Origin) (start : Service) :
    Preserved o.setup (Coherent o start false) false where
  aside _ _ _ h := h.congr rfl rfl rfl rfl h.locked rfl rfl rfl rfl
  log _ _ h := h.congr rfl rfl rfl rfl h.locked rfl rfl rfl rfl
  getOrCreate s h := (meets_getOrCreate s h).1
  call function arguments fetch _ := keeps_gatewayCall function arguments fetch
  notifyIdle := keeps_notifyIdle
  cancelIdle := keeps_cancelIdle
  collectIfIdle held := by
    cases held with
    | true => exact keeps_withLock keeps_collectIfIdle
    | false => exact keeps_collectIfIdle
  settle held := by
    cases held with
    | true => exact keeps_withLock keeps_settle
    | false => exact keeps_settle

end Coherent

def Operation := { step : Step // step.isOperation = true }

namespace Operation

def result (op : Operation) (setup : Setup) (s : Service) : Service :=
  (op.val.perform.exec setup s).2

def run (setup : Setup) (s : Service) (ops : List Operation) : Service :=
  ops.foldl (fun s op => op.result setup s) s

variable {o : Origin} {start s : Service}

theorem coherent_result (op : Operation) (hr : op.val.resets = false)
    (h : Coherent o start false s) : Coherent o start false (op.result o.setup s) :=
  (Coherent.preserved o start).keeps_perform op.val op.property hr (by simp) s h

theorem vacated_result (op : Operation) (hr : op.val.resets = true)
    (h : Coherent o start false s) : Vacated o s false (op.result o.setup s) := by
  obtain ⟨step, ho⟩ := op
  simp only [result, Step.perform] at hr ⊢
  cases step <;> simp [Step.resets] at hr
  case reset =>
    rw [Job.exec_answer]
    exact h.locked_reset
  case managerReset =>
    rw [Job.exec_answer]
    exact h.reset
  case dispose =>
    rw [Job.exec_answer]
    exact h.dispose

theorem coherent_after (op : Operation) (h : Coherent o start false s) :
    Coherent o (op.result o.setup s) false (op.result o.setup s) := by
  cases hr : op.val.resets with
  | true => exact (op.vacated_result hr h).coherent
  | false => exact (op.coherent_result hr h).restart

theorem coherent_run (ops : List Operation) (h : Coherent o s false s) :
    Coherent o (run o.setup s ops) false (run o.setup s ops) := by
  induction ops generalizing s with
  | nil => exact h
  | cons op ops ih => exact ih (op.coherent_after h)

end Operation
end AssetTranspiler
