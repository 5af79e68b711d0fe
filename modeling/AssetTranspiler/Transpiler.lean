import AssetTranspiler.Gateway
import AssetTranspiler.Request
import AssetTranspiler.Service.Job

namespace AssetTranspiler.Transpiler

/-- Whether a source opts out of module wrapping. What is no text can only be empty. -/
def skipsModule? (source : Value) : Except Fault Bool :=
  match source with
  | .str s => .ok (skipsModule s)
  | v => if v.truthy then .error .mismatch else .ok false

def buildRequest (plugins : PluginRegistry) (appRoot : String) (source : Value)
    (rootPath logicalPath : Option String) (themeId : Value) : Except Fault Request := do
  let skip ← skipsModule? source
  (Request.read
    [("source", source),
      ("skip_module", .bool skip),
      ("module_id", .ofText? (ModuleName.resolve plugins appRoot rootPath logicalPath)),
      ("filename", .str (Bundle.orElse logicalPath "unknown")),
      ("theme_id", themeId)]).toExcept.mapError .refused

def moduleName (rootPath logicalPath : Option String) : Job (Option String) := do
  let s ← get
  return ModuleName.resolveFor s.plugins s.settings.appRoot none none rootPath logicalPath

def transpile (source : Value) (rootPath logicalPath : Option String := none)
    (themeId : Value := .null) : Job Value := do
  let s ← get
  let request ← Job.ofExcept
    (buildRequest s.plugins s.settings.appRoot source rootPath logicalPath themeId)
  Job.log .transpiler .debug
    ("Transpiling " ++ request.filename ++ " as " ++ (Value.ofText? request.moduleId).display)
  Gateway.call "transpile" [.str request.source, request.options]

def compileTemplate (source : Value) (themeId : Value := .null) : Job Value :=
  Gateway.call "compileRawTemplate" [source, themeId]

def minify (tree : Value) (options : Value := .null) : Job Value :=
  Gateway.call "minify" [tree, if options.truthy then options else .dict []]
    (some "getMinifyResult")

end AssetTranspiler.Transpiler

namespace AssetTranspiler.Registration

def addPlugin (name path : String) : Job Plugin := do
  Job.update fun s => { s with plugins := s.plugins.register name path }
  Job.log .plugins .debug ("Registered plugin " ++ name ++ " at " ++ path)
  return ⟨name, path⟩

def clearPlugins : Job Unit :=
  Job.update fun s => { s with plugins := .empty }

def addPath (path : String) : Job Unit := do
  unless (← get).paths.contains path do
    Job.update fun s => { s with paths := s.paths.register path }
    Job.log .paths .debug ("Registered transpile path prefix " ++ path)

end AssetTranspiler.Registration
