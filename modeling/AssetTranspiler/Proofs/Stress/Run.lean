import AssetTranspiler.Proofs.Bundle.Attempt
import AssetTranspiler.Proofs.Session.Independence
import AssetTranspiler.Proofs.Stress.Check

namespace AssetTranspiler.Stress

open Text

def Scenario.verdict (c : Scenario) (i : Int) : Option String :=
  match c.fail.lookup (source i) with
  | some report => some ((Report.message c.stack report).getD "")
  | none =>
      match c.mangle.lookup (source i) with
      | some output =>
          if occurs (source i).toList output.toList && occurs (moduleName i).toList output.toList then
            none
          else some "output mismatch"
      | none => none

def Scenario.overflows (c : Scenario) (i : Int) : Bool :=
  match c.fail.lookup (source i) with
  | some report => (Report.message c.stack report).isNone
  | none => false

def Scenario.result (c : Scenario) (i : Int) : Result :=
  ⟨i, (c.verdict i).isNone, (c.verdict i).getD ""⟩

def origin (a : Arguments) (files : Files) (c : Scenario) : Origin where
  setup :=
    { options := .make c.settings { rebuild := some false, processorPath := some a.bundle }
      host := c.host }
  settings := c.settings
  files := files

/-- The bundle is found, and the one that is loaded can be read: an empty path stands for the default
one. -/
structure Arguments.Readable (a : Arguments) (c : Scenario) (files : Files) : Prop where
  found : (files.find? a.bundle).isSome = true
  loaded : (files.read (Bundle.orElse (some a.bundle) c.settings.bundlePath)).isOk = true

theorem join_empty (path : String) : Files.join "" path = path := by
  simp [Files.join]

namespace Scenario

variable (c : Scenario)

def table : Table := fun function arguments =>
  if function = "transpile" then c.transpile arguments else .ok .null

variable {a : Arguments} {files : Files}

theorem target_origin :
    (origin a files c).target =
      Bundle.orElse (some a.bundle) c.settings.bundlePath := by
  rw [Origin.target, Origin.bundlePath]
  exact (join_empty _).trans (Bundle.orElse_orElse _ _)

theorem isOk_read_filesAfter (h : a.Readable c files) (past : History) :
    (((origin a files c).filesAfter past).read (origin a files c).target).isOk = true := by
  induction past with
  | nil =>
      rw [target_origin]
      exact h.loaded
  | cons e past ih =>
      cases e with
      | run command directory =>
          rw [Origin.filesAfter]
          show (Files.read (Files.write _ _ (.text "")) _).isOk = true
          rw [Files.read, Files.find?_write_self]
          rfl
      | _ => exact ih

theorem exec_prepare (s : Service) (hs : s.settings = (origin a files c).settings) :
    Context.prepare.exec (origin a files c).setup s = (.ok (.str (origin a files c).target), s) := by
  rw [target_origin]
  simp only [Context.prepare, Context.bundlePath, Job.exec_bind, Job.exec_read, Job.exec_get,
    Job.exec_pure, hs]
  rfl

theorem exec_loadBundle {s : Service} (hs : s.settings = (origin a files c).settings)
    (hread : (s.files.read (origin a files c).target).isOk = true) :
    ∃ text t, (Context.loadBundle (.str (origin a files c).target)).exec (origin a files c).setup s =
      (.ok text, t) := by
  have hfile : Bundle.file s.settings (origin a files c).target = (origin a files c).target := by
    rw [hs, ← Bundle.join_appRoot]
    exact join_empty _
  rw [Context.exec_loadBundle rfl, hfile]
  cases hr : s.files.read (origin a files c).target with
  | error problem =>
      rw [hr] at hread
      cases hread
  | ok text => exact ⟨text, _, rfl⟩

theorem exec_equip {s : Service} (hs : s.settings = (origin a files c).settings)
    (hread : (s.files.read (origin a files c).target).isOk = true) (i : Nat) :
    ∃ t, (Context.equip i (.str (origin a files c).target)).exec (origin a files c).setup s =
      (.ok (), t) := by
  have hevaluate (code : String) (s : Service) : ∃ t,
      (Engine.evaluate i code).exec (origin a files c).setup s = (.ok .null, t) ∧
        t.settings = s.settings ∧ t.files = s.files := by
    rw [Engine.exec_evaluate]
    exact ⟨_, rfl, rfl, rfl⟩
  obtain ⟨t, ht, hsettings, hfiles⟩ := hevaluate Console.shim s
  obtain ⟨text, u, hu⟩ := c.exec_loadBundle (hsettings.trans hs) (hfiles ▸ hread)
  obtain ⟨v, hv, -⟩ := hevaluate (Engine.named text (some Context.bundleName)) u
  simp only [Context.equip, Job.discard_eq_map, Job.exec_bind, Job.exec_map, Except.map, ht, hu, hv]
  exact ⟨v, rfl⟩

theorem constructs (h : a.Readable c files) (s : Service)
    (hs : s.settings = (origin a files c).settings)
    (hf : s.files = (origin a files c).filesAfter s.history) :
    (Context.construct.exec (origin a files c).setup s).1.isOk = true := by
  have hread := c.isOk_read_filesAfter h s.history
  have hadded := Engine.added_create (origin a files c).setup s
  obtain ⟨n, t, hcreate⟩ : ∃ n t, Engine.create.exec (origin a files c).setup s = (.ok n, t) := by
    rw [Engine.exec_create]
    exact ⟨_, _, rfl⟩
  rw [hcreate] at hadded
  rw [← hf, ← hadded.files] at hread
  obtain ⟨u, hequip⟩ := c.exec_equip (hadded.settings.trans hs) hread n
  simp only [Context.exec_construct, exec_prepare c s hs, hcreate, hequip]
  rfl

theorem tabled (h : a.Readable c files) : Tabled (origin a files c) c.table where
  call _ _ _ := rfl
  drains := ⟨by rintro past f ⟨⟩, by rintro past v ⟨⟩⟩
  constructs := c.constructs h

end Scenario

def judged (i : Int) : Except Fault Value → Except Fault Result
  | .ok output =>
      match accepts? i output with
      | some true => .ok ⟨i, true, ""⟩
      | some false => .ok ⟨i, false, "output mismatch"⟩
      | none => .error .mismatch
  | .error (.transpile error) => .ok ⟨i, false, error.message⟩
  | .error fault => .error fault

theorem exec_check {setup : Setup} {s t : Service} {i : Int} {r : Except Fault Value}
    (h : (Transpiler.transpile (.str (source i)) none (some (moduleName i))).exec setup s = (r, t)) :
    (check i).exec setup s = (judged i r, t) := by
  simp only [check, Job.exec_bind, Job.exec_attempt, h]
  cases r with
  | ok output =>
      dsimp only [judged]
      rcases accepts? i output with _ | _ | _
      · rfl
      · rfl
      · rfl
  | error fault => cases fault <;> rfl

theorem judged_output {i j : Int} (w : Wrapping j) :
    judged i (.ok w.output) = .ok ⟨i, decide (i = j), if i = j then "" else "output mismatch"⟩ := by
  simp only [judged, w.accepts?_output]
  by_cases hij : i = j
  · simp [hij]
  · simp [hij]

def request (i : Int) : Request where
  source := source i
  skipModule := skipsModule (source i)
  moduleId := some (moduleName i)
  filename := Bundle.orElse (some (moduleName i)) "unknown"

theorem buildRequest_unit (plugins : PluginRegistry) (appRoot : String) (i : Int) :
    Transpiler.buildRequest plugins appRoot (.str (source i)) none (some (moduleName i)) .null =
      .ok (request i) := by
  rw [Transpiler.buildRequest_text, ModuleName.resolve_of_no_root, emberCli_moduleName]
  rfl

namespace Scenario

theorem transpile_request (c : Scenario) (i : Int) :
    c.transpile [.str (source i), (request i).options] =
      match c.fail.lookup (source i) with
      | some report => .error (.ofMessage (.engine .evaluation) report)
      | none =>
          match c.mangle.lookup (source i) with
          | some output => .ok (.str output)
          | none => .ok (Wrapping.definition i).output := by
  rw [Wrapping.output_definition]
  rfl

def judgement (c : Scenario) (i : Int) : Except Fault Result :=
  if c.overflows i then .error .exhausted else .ok (c.result i)

theorem judgement_eq (c : Scenario) {i : Int} (h : c.overflows i = false) :
    c.judgement i = .ok (c.result i) := by
  simp [judgement, h]

theorem judged_report (c : Scenario) {i : Int} {report : String}
    (h : c.fail.lookup (source i) = some report) :
    judged i (Gateway.outcome c.stack
      (.error (.raised (.ofMessage (.engine .evaluation) report)))) = c.judgement i := by
  have hoverflows : c.overflows i = (Report.message c.stack report).isNone := by
    simp [overflows, h]
  have hverdict : c.verdict i = some ((Report.message c.stack report).getD "") := by
    simp [verdict, h]
  have hengine : (Failure.ofMessage (.engine .evaluation) report).isEngine = true := rfl
  have htext : (Failure.ofMessage (.engine .evaluation) report).text = report := rfl
  rw [judgement, result, hoverflows, hverdict]
  simp only [Gateway.outcome, Gateway.translation, TranspileError.ofFailure, hengine, htext,
    if_true]
  cases Report.message c.stack report <;> rfl

theorem judged_exchange (c : Scenario) (i : Int) :
    judged i (Gateway.outcome c.stack
      (c.table.exchange "transpile" [.str (source i), (request i).options] none)) =
      c.judgement i := by
  have htable : c.table.exchange "transpile" [.str (source i), (request i).options] none =
      (c.transpile [.str (source i), (request i).options]).mapError .raised := by
    simp only [Table.exchange, table, if_true]
    cases c.transpile [.str (source i), (request i).options] <;> rfl
  rw [htable, transpile_request]
  cases hf : c.fail.lookup (source i) with
  | some report => exact c.judged_report hf
  | none =>
      rw [c.judgement_eq (by simp [overflows, hf]), result, verdict, hf]
      cases hm : c.mangle.lookup (source i) with
      | some output =>
          dsimp only [Job.mapError_ok, Gateway.outcome, judged, Except.mapError]
          rw [accepts?_str]
          cases occurs (source i).toList output.toList &&
            occurs (moduleName i).toList output.toList <;> rfl
      | none =>
          simp [Gateway.outcome, judged, Wrapping.accepts?_output]

def Underway (c : Scenario) (a : Arguments) (files : Files) (s : Service) : Prop :=
  Coherent (origin a files c) (origin a files c).service false s

variable (c : Scenario) {a : Arguments} {files : Files}

theorem meets_check (h : a.Readable c files) (i : Int) :
    Job.Meets (origin a files c).setup (c.Underway a files) (check i) fun r t =>
      r = c.judgement i ∧ c.Underway a files t ∧ t.manager.context.isSome = true := by
  intro s hs
  have hlogged : c.Underway a files
      { s with log := Transpiler.announcement (request i) :: s.log } :=
    Coherent.congr hs rfl rfl rfl rfl hs.locked rfl rfl rfl rfl
  have hcall : Job.Meets (origin a files c).setup (c.Underway a files)
      (Gateway.call "transpile" [.str (source i), (request i).options]) _ :=
    (c.tabled h).meets_call (by decide) (by simp)
  obtain ⟨hr, ht⟩ := hcall _ hlogged
  rw [exec_check (Transpiler.exec_transpile (buildRequest_unit _ _ i))]
  exact ⟨hr ▸ c.judged_exchange i, ht⟩

theorem exec_checks (h : a.Readable c files) {order : List Nat}
    (ho : ∀ i ∈ order, c.overflows (i : Nat) = false) {s : Service} (hs : c.Underway a files s) :
    ∃ t, (order.mapM fun i : Nat => check i).exec (origin a files c).setup s =
        (.ok (order.map fun i : Nat => c.result i), t) ∧
      c.Underway a files t ∧
      t.manager.context.isSome = (s.manager.context.isSome || !order.isEmpty) := by
  induction order generalizing s with
  | nil => exact ⟨s, rfl, hs, by simp⟩
  | cons i order ih =>
      obtain ⟨hi, ho⟩ := List.forall_mem_cons.mp ho
      have hcheck := c.meets_check h i s hs
      rw [c.judgement_eq hi] at hcheck
      rw [List.mapM_cons]
      simp only [Job.exec_bind]
      rcases hr : (check i).exec (origin a files c).setup s with ⟨r, t⟩
      rw [hr] at hcheck
      obtain ⟨rfl, ht, hcontext⟩ := hcheck
      obtain ⟨u, hu, hcoherent, hsome⟩ := ih ho ht
      refine ⟨u, ?_, hcoherent, ?_⟩
      · simp only [hu, Job.exec_pure, List.map_cons]
      · simp [hsome, hcontext]

theorem exec_checks_overflow (h : a.Readable c files) {order : List Nat}
    (ho : ∃ i ∈ order, c.overflows (i : Nat) = true) {s : Service} (hs : c.Underway a files s) :
    ∃ t, (order.mapM fun i : Nat => check i).exec (origin a files c).setup s =
      (.error .exhausted, t) := by
  induction order generalizing s with
  | nil => simp at ho
  | cons i order ih =>
      have hcheck := c.meets_check h i s hs
      rw [List.mapM_cons]
      simp only [Job.exec_bind]
      rcases hr : (check i).exec (origin a files c).setup s with ⟨r, t⟩
      rw [hr] at hcheck
      obtain ⟨rfl, ht, -⟩ := hcheck
      -- this unit ends the run, or it comes to its result and one of the later units does
      cases hi : c.overflows i with
      | true =>
          have hj : c.judgement i = .error .exhausted := by simp [judgement, hi]
          rw [hj]
          exact ⟨t, rfl⟩
      | false =>
          have hrest : ∃ j ∈ order, c.overflows (j : Nat) = true := by simpa [hi] using ho
          obtain ⟨u, hu⟩ := ih hrest ht
          rw [c.judgement_eq hi]
          simp only [hu]
          exact ⟨u, rfl⟩

theorem builds_eq {s : Service} (hs : c.Underway a files s) :
    s.manager.builds = if s.manager.context.isSome then 1 else 0 := by
  rcases hs.holding with ⟨hcontext, hbuilds⟩ | ⟨-, hbuilds, n, hcontext, -⟩
  · rw [hcontext, hbuilds]
    rfl
  · rw [hcontext, hbuilds]
    rfl

theorem exec_results_overflow (h : a.Readable c files) {order : List Nat}
    (ho : ∃ i ∈ order, c.overflows (i : Nat) = true) :
    ∃ t, (results order).exec (origin a files c).setup (origin a files c).service =
      (.error .exhausted, t) := by
  obtain ⟨t, ht⟩ := c.exec_checks_overflow h ho (.initial _)
  exact ⟨t, by simp only [results, Job.exec_bind, ht]⟩

theorem exec_results (h : a.Readable c files) {order : List Nat}
    (ho : ∀ i ∈ order, c.overflows (i : Nat) = false) :
    ∃ t, (results order).exec (origin a files c).setup (origin a files c).service =
      (.ok (order.map fun i : Nat => c.result i, if order.isEmpty then 0 else 1), t) := by
  obtain ⟨t, ht, hcoherent, hcontext⟩ := c.exec_checks h ho (.initial _)
  have hbuilds := c.builds_eq hcoherent
  have hvacated := hcoherent.dispose
  have hdispose : (Context.dispose.exec (origin a files c).setup t).1 = .ok () :=
    Context.dispose_ok _ t fun _ => rfl
  simp only [results, Job.exec_bind, ht]
  rcases hd : Context.dispose.exec (origin a files c).setup t with ⟨r, u⟩
  rw [hd] at hdispose hvacated
  cases hdispose
  have hkept : u.manager.builds = t.manager.builds := hvacated.builds
  refine ⟨u, ?_⟩
  simp only [Job.exec_get, Job.exec_pure]
  rw [hkept, hbuilds, hcontext]
  cases order <;> rfl

end Scenario
end AssetTranspiler.Stress
