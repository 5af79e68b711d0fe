import AssetTranspiler.Proofs.Service.Contract
import AssetTranspiler.Transpiler

namespace AssetTranspiler.Transpiler

theorem read_fields (source themeId : Value) (skip : Bool) (name : Option String)
    (filename : String) :
    Request.read
      [("source", source), ("skip_module", .bool skip), ("module_id", .ofText? name),
        ("filename", .str filename), ("theme_id", themeId)] =
      (fun source theme => ⟨source, skip, name, filename, theme, BabelPlugin.common⟩)
        <$> Checked.ofExcept [.field "source"] (Scalar.text source)
        <*> Checked.ofExcept [.field "theme_id"] (Scalar.integer? themeId) := by
  have hname : Request.single Scalar.text? (.ofText? name) = .accepted name := by
    cases name <;> rfl
  simp only [Request.read, Request.field, Request.given?, List.lookup_cons,
    List.lookup_nil, String.reduceBEq, hname]
  simp only [Request.single]
  cases Scalar.text source <;> cases Scalar.integer? themeId <;> rfl

theorem buildRequest_str (plugins : PluginRegistry) (appRoot source : String)
    (rootPath logicalPath : Option String) (themeId : Value) :
    buildRequest plugins appRoot (.str source) rootPath logicalPath themeId =
      match Scalar.integer? themeId with
      | .ok theme => .ok
          { source := source
            skipModule := skipsModule source
            moduleId := ModuleName.resolve plugins appRoot rootPath logicalPath
            filename := Bundle.orElse logicalPath "unknown"
            themeId := theme }
      | .error o => .error (.refused [⟨[.field "theme_id"], o⟩]) := by
  have hskip : skipsModule? (.str source) = .ok (skipsModule source) := rfl
  rw [buildRequest, hskip]
  show (Checked.toExcept (Request.read _)).mapError Fault.refused = _
  rw [read_fields]
  cases Scalar.integer? themeId <;> rfl

theorem buildRequest_text (plugins : PluginRegistry) (appRoot source : String)
    (rootPath logicalPath : Option String) :
    buildRequest plugins appRoot (.str source) rootPath logicalPath .null = .ok
      { source := source
        skipModule := skipsModule source
        moduleId := ModuleName.resolve plugins appRoot rootPath logicalPath
        filename := Bundle.orElse logicalPath "unknown" } :=
  buildRequest_str plugins appRoot source rootPath logicalPath .null

def announcement (r : Request) : LogRecord :=
  ⟨.transpiler, .debug,
    "Transpiling " ++ r.filename ++ " as " ++ (Value.ofText? r.moduleId).display, false⟩

theorem exec_transpile {setup : Setup} {s : Service} {source : Value}
    {rootPath logicalPath : Option String} {themeId : Value} {r : Request}
    (h : buildRequest s.plugins s.settings.appRoot source rootPath logicalPath themeId = .ok r) :
    (transpile source rootPath logicalPath themeId).exec setup s =
      (Gateway.call "transpile" [.str r.source, r.options]).exec setup
        { s with log := announcement r :: s.log } := by
  simp only [transpile, Job.exec_bind, Job.exec_get, Job.exec_ofExcept, h, Job.exec_log,
    announcement]

theorem exec_transpile_refused {setup : Setup} {s : Service} {source : Value}
    {rootPath logicalPath : Option String} {themeId : Value} {f : Fault}
    (h : buildRequest s.plugins s.settings.appRoot source rootPath logicalPath themeId = .error f) :
    (transpile source rootPath logicalPath themeId).exec setup s = (.error f, s) := by
  simp only [transpile, Job.exec_bind, Job.exec_get, Job.exec_ofExcept, h]

end AssetTranspiler.Transpiler
