import AssetTranspiler.Asset
import AssetTranspiler.Stress.Run
import AssetTranspiler.Transpiler

namespace AssetTranspiler

inductive Step where
  | call (function : String) (arguments : List Value) (fetch : Option String)
  | transpile (source : Value) (rootPath logicalPath : Option String) (themeId : Value)
  | compileTemplate (source themeId : Value)
  | minify (tree options : Value)
  | process (asset : Asset)
  | reset
  | managerReset
  | dispose
  | notifyIdle
  | cancelIdle
  | getOrCreate
  | contextState
  | contextDispose
  | contextEvaluate (source : String) (filename : Option String)
  | collect (held : Bool)
  | advance (milliseconds : Nat) (held : Bool)
  | registerPlugin (name path : String)
  | clearPlugins
  | registerPath (path : String)
  | paths
  | shouldTranspile (filename : Option String)
  | moduleName (rootPath logicalPath : Option String)
  | check (index : Int)
  | assign (values : List (String × Value))
  | addFiles (files : Files)
  | build (output directory : Option String)
  | read (path : String) (directory : Option String)
  | manyContexts (count : Nat)
  | manyTranspiles (count : Nat)

inductive Answer where
  | nothing
  | value (v : Value)
  | processed (data : Value)
  | flag (b : Bool)
  | text? (s : Option String)
  | texts (ss : List String)
  | lifecycle? (s : Option Lifecycle)
  | plugin (p : Plugin)
  | result (r : Stress.Result)
  | location (isProduction : Bool) (bundlePath : String)
  | contexts (distinct : Nat) (faults : List Fault)
  | outcomes (values : List (Except Fault Value))

namespace Step

def stateOf (i : Nat) : Job Answer := do
  return .lifecycle? (← Engine.state? i)

def whileHeld {α : Type} (held : Bool) (job : Job α) : Job α := do
  if held then Context.withLock job else job

/-- Assigns a setting. An unknown environment counts as one for development. -/
def assignSetting (s : Settings) : String × Value → Settings
  | ("PROJECT_NAME", .str v) => { s with projectName := v }
  | ("ENVIRONMENT", .str v) =>
      { s with environment := (Environment.ofName? v).getD .development }
  | ("APP_ROOT", .str v) => { s with appRoot := v }
  | ("JS_PROCESSOR_SOURCE", .str v) => { s with bundleSource := v }
  | ("JS_PROCESSOR_BUILD_COMMAND", .str v) => { s with buildCommand := v }
  | ("JS_PROCESSOR_TIMEOUT_MS", .int v) => { s with timeout := v }
  | ("JS_PROCESSOR_IDLE_GC_MS", .int v) => { s with idleDelay := v }
  | _ => s

def faultsOf {α : Type} : List (Except Fault α) → List Fault
  | [] => []
  | .ok _ :: r => faultsOf r
  | .error f :: r => f :: faultsOf r

def valuesOf {α : Type} : List (Except Fault α) → List α
  | [] => []
  | .ok a :: r => a :: valuesOf r
  | .error _ :: r => valuesOf r

def perform : Step → Job Answer
  | .call function arguments fetch => .value <$> Gateway.call function arguments fetch
  | .transpile source rootPath logicalPath themeId =>
      .value <$> Transpiler.transpile source rootPath logicalPath themeId
  | .compileTemplate source themeId => .value <$> Transpiler.compileTemplate source themeId
  | .minify tree options => .value <$> Transpiler.minify tree options
  | .process asset => .processed <$> asset.process
  | .reset => do Gateway.reset; return .nothing
  | .managerReset => do Context.reset; return .nothing
  | .dispose => do Context.dispose; return .nothing
  | .notifyIdle => do Context.notifyIdle; return .nothing
  | .cancelIdle => do Context.cancelIdle; return .nothing
  | .getOrCreate => do stateOf (← Context.getOrCreate)
  | .contextState => do
      match (← get).manager.context with
      | none => return .lifecycle? none
      | some i => stateOf i
  | .contextDispose => do
      Engine.dispose (← Context.getOrCreate)
      return .nothing
  | .contextEvaluate source filename => do
      let i ← Context.getOrCreate
      return .value (← Engine.evaluate i (Engine.named source filename))
  | .collect held => do whileHeld held Context.collectIfIdle; return .nothing
  | .advance milliseconds held => do
      Context.advance milliseconds
      whileHeld held Context.settle
      return .nothing
  | .registerPlugin name path => .plugin <$> Registration.addPlugin name path
  | .clearPlugins => do Registration.clearPlugins; return .nothing
  | .registerPath path => do Registration.addPath path; return .nothing
  | .paths => return .texts (← get).paths.sorted
  | .shouldTranspile filename => do
      let s ← get
      return .flag (Path.shouldTranspile s.settings.appRoot s.paths (filename.getD ""))
  | .moduleName rootPath logicalPath => .text? <$> Transpiler.moduleName rootPath logicalPath
  | .check index => .result <$> Stress.check index
  | .assign values => do
      Job.update fun s => { s with settings := values.foldl assignSetting s.settings }
      let settings := (← get).settings
      return .location settings.isProduction settings.bundlePath
  | .addFiles files => do
      Job.update fun s => { s with files := files ++ s.files }
      return .nothing
  | .build output directory => (.text? ∘ some) <$> Bundle.build output directory
  | .read path directory => (.text? ∘ some) <$> Bundle.read path directory
  | .manyContexts count => do
      let outcomes ← (List.range count).mapM fun _ => Job.attempt Context.getOrCreate
      return .contexts (valuesOf outcomes).eraseDups.length (faultsOf outcomes)
  | .manyTranspiles count => do
      let outcomes ← (List.range count).mapM fun i =>
        Job.attempt (Transpiler.transpile (.str ("s" ++ toString i)) none
          (some ("app/m" ++ toString i)))
      return .outcomes outcomes

def run (step : Step) : Job (Except Fault Answer) := do
  let outcome ← Job.attempt step.perform
  Context.settle
  return outcome

end Step
end AssetTranspiler
