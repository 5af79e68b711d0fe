import AssetTranspiler.Proofs.Context.Clock
import AssetTranspiler.Proofs.Context.Stages
import AssetTranspiler.Proofs.Gateway.Contract
import AssetTranspiler.Proofs.Session.Preservation

namespace AssetTranspiler

structure Aside (P : Service → Prop) : Prop where
  change : ∀ {s : Service} (manager engines files now history log), P s →
    P { s with
      manager := manager
      engines := engines
      files := files
      now := now
      history := history
      log := log }

namespace Aside

variable {P : Service → Prop} {setup : Setup} {α : Type}

theorem manager (h : Aside P) {s : Service} (m : Manager) (hs : P s) : P { s with manager := m } :=
  h.change m s.engines s.files s.now s.history s.log hs

theorem ask (h : Aside P) {s : Service} (e : Event) (hs : P s) : P (s.ask e) :=
  h.change s.manager s.engines s.files s.now (e :: s.history) s.log hs

theorem quiet (h : Aside P) : Quiet P where
  request e _ _ hs := h.ask e hs
  close i hs := h.ask (.close i) hs
  engines {s} es hs := h.change s.manager es s.files s.now s.history s.log hs
  files {s} fs hs := h.change s.manager s.engines fs s.now s.history s.log hs
  log {s} r _ hs := h.change s.manager s.engines s.files s.now s.history (r :: s.log) hs

theorem keeps_request (h : Aside P) (e : Event) (answer : Host → History → α) :
    Job.Keeps setup P (Job.request e answer) :=
  fun _ hs => h.ask e hs

theorem keeps_drain (h : Aside P) (i : Nat) (arguments : List Value) :
    Job.Keeps setup P (Engine.drain i arguments) := by
  refine Job.keeps_read.bind fun _ => (h.keeps_request _ _).bind fun r => ?_
  refine (h.quiet.keeps_accept i r).bind fun records => ?_
  cases records with
  | none =>
      exact Job.keeps_get.bind fun _ => (h.quiet.keeps_updateEngine i _).bind fun _ =>
        Job.keeps_pure _
  | some v => exact Job.keeps_pure v

theorem usable (h : Aside P) (i : Nat) : Usable setup P i where
  call function arguments := by
    simp only [Engine.call]
    split
    · exact h.keeps_drain i arguments
    · exact Job.keeps_read.bind fun _ => (h.keeps_request _ _).bind fun r =>
        h.quiet.keeps_accept i r
  drain := h.keeps_drain i []
  collect := (h.keeps_request _ _).bind fun r => h.quiet.keeps_accept i r
  log {s} log hs := h.change s.manager s.engines s.files s.now s.history log hs

theorem keeps_updateManager (h : Aside P) (f : Manager → Manager) :
    Job.Keeps setup P (Job.updateManager f) :=
  Job.keeps_updateManager fun _ hs => h.manager _ hs

theorem keeps_getOrCreate (h : Aside P) : Job.Keeps setup P Context.getOrCreate :=
  h.quiet.keeps_getOrCreate fun m _ _ _ hs => h.manager m hs

theorem untimed (h : Aside P) : Untimed P where
  manager m _ _ _ _ hs := h.manager m hs

theorem keeps_call (h : Aside P) (function : String) (arguments : List Value)
    (fetch : Option String) : Job.Keeps setup P (Gateway.call function arguments fetch) := by
  rw [Gateway.call_eq]
  exact h.untimed.keeps_withLock (h.keeps_getOrCreate.bind fun i =>
    (h.usable i).keeps_serve h.untimed.keeps_notifyIdle function arguments fetch)

theorem keeps_reset (h : Aside P) : Job.Keeps setup P Context.reset := by
  refine (h.keeps_updateManager _).bind fun _ => Job.keeps_get.bind fun s => ?_
  refine (h.keeps_updateManager _).bind fun _ => ?_
  cases s.manager.context with
  | none => exact Job.keeps_pure ()
  | some i =>
      exact (h.quiet.keeps_dispose i).bind fun _ => h.quiet.outside.keeps_log (by decide) _ _

theorem keeps_settle (h : Aside P) : Job.Keeps setup P Context.settle :=
  h.untimed.keeps_settle fun s i _ hs => (h.usable i).keeps_collect s hs

theorem keeps_transpile (h : Aside P) (source : Value) (rootPath logicalPath : Option String)
    (themeId : Value) :
    Job.Keeps setup P (Transpiler.transpile source rootPath logicalPath themeId) :=
  Transpiler.keeps_transpile h.quiet.log (fun _ => h.keeps_call _ _ _) _ _ _ _

theorem keeps_process (h : Aside P) (a : Asset) : Job.Keeps setup P a.process :=
  Asset.keeps_process h.quiet.log (fun _ => h.keeps_call _ _ _) a

end Aside
end AssetTranspiler
