import AssetTranspiler.Proofs.Context.Stages
import AssetTranspiler.Proofs.Session.Turn

/-!
What a step can do to the service. A step that neither resets nor disposes of anything works through
a few doors: calls, the making of the context, the idle clock, the registries, and what the service
itself logs. A property that these preserve is preserved by the step. If resets and disposals and
what is done by hand preserve it too, whole sessions do.
-/

namespace AssetTranspiler

def Gateway.drains (function : String) (fetch : Option String) : Bool :=
  function == Console.drainFunction || fetch == some Console.drainFunction

namespace Step

def resets : Step → Bool
  | .reset => true
  | .managerReset => true
  | .dispose => true
  | _ => false

/-- Whether a step is an operation of the manager, of calls or of what is built on them. The others
reach into a context, or change settings, files or the bundle by hand. -/
def isOperation : Step → Bool
  | .contextDispose => false
  | .contextEvaluate _ _ => false
  | .assign _ => false
  | .addFiles _ => false
  | .build _ _ => false
  | .read _ _ => false
  | _ => true

def drains : Step → Bool
  | .call function _ fetch => Gateway.drains function fetch
  | _ => false

end Step

section
variable {setup : Setup} {P : Service → Prop}
  (hlog : ∀ {s : Service} (r : LogRecord), r.source ≠ .console → P s →
    P { s with log := r :: s.log })
  (hcall : ∀ arguments, Job.Keeps setup P (Gateway.call "transpile" arguments none))

include hlog hcall

theorem Transpiler.keeps_transpile (source : Value) (rootPath logicalPath : Option String)
    (themeId : Value) :
    Job.Keeps setup P (Transpiler.transpile source rootPath logicalPath themeId) := by
  refine Job.keeps_get.bind fun _ => (Job.keeps_ofExcept _).bind fun r => ?_
  exact Job.Keeps.bind (fun _ hs => hlog _ (by simp) hs) fun _ => hcall _

theorem Asset.keeps_process (a : Asset) : Job.Keeps setup P a.process := by
  refine Job.keeps_get.bind fun s => ?_
  dsimp only
  split
  · exact (Transpiler.keeps_transpile hlog hcall _ _ _ _).bind fun data => Job.keeps_pure _
  · exact (Job.keeps_pure _).bind fun data => Job.keeps_pure _

end

structure Preserved (setup : Setup) (P : Service → Prop) (guarded : Bool) : Prop where
  aside : ∀ {s : Service} (paths plugins now), P s →
    P { s with paths := paths, plugins := plugins, now := now }
  log : ∀ {s : Service} (r : LogRecord), r.source ≠ .console → P s →
    P { s with log := r :: s.log }
  getOrCreate : Job.Keeps setup P Context.getOrCreate
  call : ∀ function arguments fetch, (guarded = true → Gateway.drains function fetch = false) →
    Job.Keeps setup P (Gateway.call function arguments fetch)
  notifyIdle : Job.Keeps setup P Context.notifyIdle
  cancelIdle : Job.Keeps setup P Context.cancelIdle
  collectIfIdle : ∀ held, Job.Keeps setup P (Step.whileHeld held Context.collectIfIdle)
  settle : ∀ held, Job.Keeps setup P (Step.whileHeld held Context.settle)

namespace Preserved

variable {setup : Setup} {P : Service → Prop} {guarded : Bool}

theorem keeps_log (h : Preserved setup P guarded) {source : LogSource} (hs : source ≠ .console)
    (level : LogLevel) (message : String) : Job.Keeps setup P (Job.log source level message) :=
  fun _ hp => h.log _ hs hp

theorem keeps_transpile (h : Preserved setup P guarded) (source : Value)
    (rootPath logicalPath : Option String) (themeId : Value) :
    Job.Keeps setup P (Transpiler.transpile source rootPath logicalPath themeId) :=
  Transpiler.keeps_transpile h.log (fun _ => h.call _ _ _ fun _ => by decide) _ _ _ _

theorem keeps_process (h : Preserved setup P guarded) (a : Asset) : Job.Keeps setup P a.process :=
  Asset.keeps_process h.log (fun _ => h.call _ _ _ fun _ => by decide) a

theorem keeps_check (h : Preserved setup P guarded) (index : Int) :
    Job.Keeps setup P (Stress.check index) := by
  refine (h.keeps_transpile _ _ _ _).attempt.bind fun outcome => ?_
  cases outcome with
  | ok output =>
      dsimp only
      cases Stress.accepts? index output with
      | none => exact Job.keeps_throw _
      | some ok => cases ok <;> exact Job.keeps_pure _
  | error fault => cases fault <;> first | exact Job.keeps_pure _ | exact Job.keeps_throw _

theorem keeps_addPath (h : Preserved setup P guarded) (path : String) :
    Job.Keeps setup P (Registration.addPath path) := by
  refine Job.keeps_get.bind fun s => ?_
  cases s.paths.contains path with
  | true => exact Job.keeps_pure ()
  | false =>
      refine Job.Keeps.bind (Job.keeps_update fun s hs => ?_) fun _ => h.keeps_log (by decide) _ _
      exact h.aside _ s.plugins s.now hs

theorem keeps_addPlugin (h : Preserved setup P guarded) (name path : String) :
    Job.Keeps setup P (Registration.addPlugin name path) := by
  refine Job.Keeps.bind (Job.keeps_update fun s hs => ?_) fun _ =>
    (h.keeps_log (by decide) _ _).bind fun _ => Job.keeps_pure _
  exact h.aside s.paths _ s.now hs

theorem keeps_stateOf (i : Nat) : Job.Keeps setup P (Step.stateOf i) :=
  (Job.keeps_get.bind fun _ => Job.keeps_pure _).bind fun _ => Job.keeps_pure _

theorem keeps_perform (h : Preserved setup P guarded) (step : Step) (ho : step.isOperation = true)
    (hr : step.resets = false) (hd : guarded = true → step.drains = false) :
    Job.Keeps setup P step.perform := by
  cases step with
  | call function arguments fetch => exact (h.call function arguments fetch hd).map _
  | transpile source rootPath logicalPath themeId =>
      exact (h.keeps_transpile source rootPath logicalPath themeId).map _
  | compileTemplate source themeId => exact (h.call _ _ _ fun _ => by decide).map _
  | minify tree options => exact (h.call _ _ _ fun _ => by decide).map _
  | process asset => exact (h.keeps_process asset).map _
  | notifyIdle => exact h.notifyIdle.bind fun _ => Job.keeps_pure _
  | cancelIdle => exact h.cancelIdle.bind fun _ => Job.keeps_pure _
  | getOrCreate => exact h.getOrCreate.bind fun i => keeps_stateOf i
  | contextState =>
      refine Job.keeps_get.bind fun s => ?_
      cases s.manager.context with
      | none => exact Job.keeps_pure _
      | some i => exact keeps_stateOf i
  | collect held => exact (h.collectIfIdle held).bind fun _ => Job.keeps_pure _
  | advance milliseconds held =>
      refine Job.Keeps.bind (Job.keeps_update fun s hs => ?_) fun _ =>
        (h.settle held).bind fun _ => Job.keeps_pure _
      exact h.aside s.paths s.plugins _ hs
  | registerPlugin name path => exact (h.keeps_addPlugin name path).map _
  | clearPlugins =>
      refine Job.Keeps.bind (Job.keeps_update fun s hs => ?_) fun _ => Job.keeps_pure _
      exact h.aside s.paths _ s.now hs
  | registerPath path => exact (h.keeps_addPath path).bind fun _ => Job.keeps_pure _
  | paths => exact Job.keeps_get.bind fun _ => Job.keeps_pure _
  | shouldTranspile filename => exact Job.keeps_get.bind fun _ => Job.keeps_pure _
  | moduleName rootPath logicalPath =>
      exact (Job.keeps_get.bind fun _ => Job.keeps_pure _).map _
  | check index => exact (h.keeps_check index).map _
  | manyContexts count =>
      exact (Job.keeps_mapM (fun _ => h.getOrCreate.attempt) _).bind fun _ => Job.keeps_pure _
  | manyTranspiles count =>
      exact (Job.keeps_mapM (fun _ => (h.keeps_transpile _ _ _ _).attempt) _).bind fun _ =>
        Job.keeps_pure _
  | _ => simp [Step.isOperation, Step.resets] at ho hr

end Preserved

theorem Step.keeps_resetting {setup : Setup} {P : Service → Prop}
    (hg : Job.Keeps setup P Gateway.reset) (hr : Job.Keeps setup P Context.reset)
    (hd : Job.Keeps setup P Context.dispose) {step : Step} (h : step.resets = true) :
    Job.Keeps setup P step.perform := by
  cases step <;> simp [Step.resets] at h
  case reset => exact hg.bind fun _ => Job.keeps_pure _
  case managerReset => exact hr.bind fun _ => Job.keeps_pure _
  case dispose => exact hd.bind fun _ => Job.keeps_pure _

structure Maintained (setup : Setup) (P : Service → Prop) (guarded : Bool) : Prop
    extends Preserved setup P guarded, Outside P where
  settings : ∀ {s : Service} (settings : Settings), P s → P { s with settings := settings }
  withLock : ∀ {α : Type} {job : Job α}, Job.Keeps setup P job →
    Job.Keeps setup P (Context.withLock job)
  reset : Job.Keeps setup P Context.reset
  dispose : Job.Keeps setup P Context.dispose
  contextDispose : Job.Keeps setup P (Context.getOrCreate >>= Engine.dispose)
  contextEvaluate : ∀ code, Job.Keeps setup P (Context.getOrCreate >>= fun i =>
    Engine.evaluate i code)

namespace Maintained

variable {setup : Setup} {P : Service → Prop} {guarded : Bool} {s : Service}

theorem keeps_byHand (h : Maintained setup P guarded) {step : Step}
    (ho : step.isOperation = false) : Job.Keeps setup P step.perform := by
  cases step <;> simp [Step.isOperation] at ho
  case contextDispose =>
    simpa [Step.perform] using h.contextDispose.bind fun _ => Job.keeps_pure Answer.nothing
  case contextEvaluate source filename =>
    simpa [Step.perform] using (h.contextEvaluate _).bind fun v => Job.keeps_pure (Answer.value v)
  case assign values =>
    exact Job.Keeps.bind (Job.keeps_update fun s hs => h.settings _ hs) fun _ =>
      Job.keeps_get.bind fun _ => Job.keeps_pure _
  case addFiles files =>
    exact Job.Keeps.bind (Job.keeps_update fun s hs => h.files _ hs) fun _ => Job.keeps_pure _
  case build output directory => exact (h.keeps_build output directory).map _
  case read path directory =>
    exact Job.Keeps.map _ (Job.keeps_get.bind fun _ => (h.keeps_request rfl _).bind fun _ =>
      Job.keeps_get.bind fun _ => Job.keeps_ofExcept _)

theorem keeps_perform (h : Maintained setup P guarded) (step : Step)
    (hd : guarded = true → step.drains = false) : Job.Keeps setup P step.perform := by
  cases ho : step.isOperation with
  | false => exact h.keeps_byHand ho
  | true =>
      cases hr : step.resets with
      | true => exact Step.keeps_resetting (h.withLock h.reset) h.reset h.dispose hr
      | false => exact h.toPreserved.keeps_perform step ho hr hd

theorem turn (h : Maintained setup P guarded) (step : Step)
    (hd : guarded = true → step.drains = false) (hs : P s) : P (Session.turn setup s step).2 := by
  rw [Session.state_turn]
  exact h.settle false _ (h.keeps_perform step hd s hs)

theorem final (h : Maintained setup P guarded) (steps : List Step)
    (hd : guarded = true → ∀ step ∈ steps, step.drains = false) (hs : P s) :
    P (Session.final setup s steps) := by
  induction steps generalizing s with
  | nil => exact hs
  | cons step steps ih =>
      refine ih (fun hg next hm => hd hg next (List.mem_cons_of_mem step hm)) ?_
      exact h.turn step (fun hg => hd hg step List.mem_cons_self) hs

end Maintained
end AssetTranspiler
