import AssetTranspiler.Proofs.Context.Clock
import AssetTranspiler.Proofs.Gateway.Contract
import AssetTranspiler.Proofs.Path.Classifier
import AssetTranspiler.Proofs.Session.Turn
import AssetTranspiler.Proofs.Transpiler

namespace AssetTranspiler

inductive Declined (s : Service) : Step → Except Fault Answer → Prop
  | built {a : Asset} :
      "/app/assets/javascripts/discourse/dist/".toList <:+: a.filename.toList →
      Declined s (.process a) (.ok (.processed a.content))
  | unselected {a : Asset} :
      ¬ "/app/assets/javascripts/discourse/dist/".toList <:+: a.filename.toList →
      Path.shouldTranspile s.settings.appRoot s.paths a.filename = false →
      Declined s (.process a) (.ok (.processed (if s.settings.isProduction then a.content
        else .str (Asset.withSourceUrl a.content (Path.sourceUrl a.loadPath a.logicalPath)))))
  | unread {a : Asset} {f : Fault} :
      Path.shouldTranspile s.settings.appRoot s.paths a.filename = true →
      Transpiler.buildRequest s.plugins s.settings.appRoot a.content (some a.loadPath)
        (some a.logicalPath) .null = .error f →
      Declined s (.process a) (.error f)
  | refused {source themeId : Value} {rootPath logicalPath : Option String} {f : Fault} :
      Transpiler.buildRequest s.plugins s.settings.appRoot source rootPath logicalPath themeId =
        .error f →
      Declined s (.transpile source rootPath logicalPath themeId) (.error f)

variable {setup : Setup} {s start : Service} {step : Step} {outcome : Except Fault Answer}

namespace Asset

variable {a : Asset}

theorem exec_process_unselected
    (h : Path.shouldTranspile s.settings.appRoot s.paths a.filename = false) :
    a.process.exec setup s = (.ok (a.wrap s.settings a.content), s) := by
  simp [process, Job.exec_bind, h]

theorem exec_process_unread {f : Fault}
    (hselected : Path.shouldTranspile s.settings.appRoot s.paths a.filename = true)
    (h : Transpiler.buildRequest s.plugins s.settings.appRoot a.content (some a.loadPath)
      (some a.logicalPath) .null = .error f) :
    a.process.exec setup s = (.error f, s) := by
  simp only [process, Job.exec_bind, Job.exec_get, hselected, if_true,
    Transpiler.exec_transpile_refused h]

theorem wrap_of_isEmberCli (h : Path.isEmberCli a.filename = true) (settings : Settings)
    (data : Value) : a.wrap settings data = data := by
  simp [wrap, isWrapped, h]

theorem wrap_of_not_isEmberCli (h : Path.isEmberCli a.filename = false) (settings : Settings)
    (data : Value) :
    a.wrap settings data = if settings.isProduction then data
      else .str (withSourceUrl data (Path.sourceUrl a.loadPath a.logicalPath)) := by
  rw [wrap, isWrapped, h]
  cases settings.isProduction <;> rfl

end Asset

theorem Declined.exec_perform (h : Declined s step outcome) :
    step.perform.exec setup s = (outcome, s) := by
  cases h with
  | @built a h =>
      have hember := Path.isEmberCli_iff.mpr h
      rw [Step.perform, Job.exec_map,
        Asset.exec_process_unselected (Path.shouldTranspile_of_isEmberCli hember),
        Asset.wrap_of_isEmberCli hember]
      rfl
  | @unselected a h hunselected =>
      have hember : Path.isEmberCli a.filename = false :=
        Bool.eq_false_iff.mpr fun hember => h (Path.isEmberCli_iff.mp hember)
      rw [Step.perform, Job.exec_map, Asset.exec_process_unselected hunselected,
        Asset.wrap_of_not_isEmberCli hember]
      rfl
  | unread hselected h =>
      rw [Step.perform, Job.exec_map, Asset.exec_process_unread hselected h]
      rfl
  | refused h =>
      rw [Step.perform, Job.exec_map, Transpiler.exec_transpile_refused h]
      rfl

def Settled (setup : Setup) (s : Service) : Prop :=
  Context.isDue setup.options.idleDelay s.now s.manager = false

namespace Settled

theorem of_not_pending (h : s.manager.pending = false) : Settled setup s := by
  simp [Settled, Context.isDue, h]

theorem keeps_collect (i : Nat) :
    Job.Keeps setup (fun s => s.manager.pending = false) (Context.collect i) := by
  have hserved : Served setup (fun s => s.manager.pending = false) i fun _ => False :=
    { call := fun _ _ hf => hf.elim
      log := fun _ _ hs => hs }
  refine hserved.keeps_collect ?_
  intro s hs
  show ((Engine.collect i).exec setup s).2.manager.pending = false
  rw [(Engine.asked_collect setup s i).manager]
  exact hs

theorem keeps_collectIfIdle (setup : Setup) :
    Job.Keeps setup (fun s => s.manager.pending = false) Context.collectIfIdle := by
  have hlockless : Lockless fun s => s.manager.pending = false := { manager := fun _ hs => hs }
  exact hlockless.keeps_collectIfIdle fun s i _ => keeps_collect i s

theorem settle : Settled setup (Context.settle.exec setup s).2 := by
  cases hd : Context.isDue setup.options.idleDelay s.now s.manager with
  | false =>
      rw [Context.exec_settle_of_not_due setup s hd]
      exact hd
  | true =>
      -- The flag is consumed first, and no collection sets it again, however it ends.
      have hkept := keeps_collectIfIdle setup
        { s with manager := { s.manager with pending := false } } rfl
      simp only [Context.settle, Job.exec_bind, Job.exec_get, Job.exec_read, hd, if_true,
        Context.cancelIdle, Job.exec_updateManager, Job.exec_attempt]
      rcases hr : Context.collectIfIdle.exec setup
        { s with manager := { s.manager with pending := false } } with ⟨fault | u, t⟩ <;>
        rw [hr] at hkept
      · exact of_not_pending hkept
      · exact of_not_pending hkept

theorem final (h : Settled setup start) (steps : List Step) :
    Settled setup (Session.final setup start steps) := by
  induction steps generalizing start with
  | nil => exact h
  | cons step steps ih =>
      have hturn : Settled setup (Session.turn setup start step).2 := by
        rw [Session.state_turn]
        exact settle
      exact ih hturn

theorem turn (hs : Settled setup s) (h : step.perform.exec setup s = (outcome, s)) :
    Session.turn setup s step = (⟨outcome, [], [], s.manager⟩, s) := by
  have hrun : step.run.exec setup s = (.ok outcome, s) := by
    simp only [Step.run, Job.exec_bind, Job.exec_attempt, h, Context.exec_settle_of_not_due setup s hs,
      Job.exec_pure]
  simp [Session.turn, hrun, Session.added, Except.bind]

end Settled

def patient : Setup where
  options := ⟨true, none, 15000, 2000⟩
  host := .quiet

def unused : Service where
  settings := { appRoot := "/srv" }

end AssetTranspiler
