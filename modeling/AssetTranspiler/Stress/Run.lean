import AssetTranspiler.Stress.Arguments
import AssetTranspiler.Text.Search
import AssetTranspiler.Transpiler

namespace AssetTranspiler.Stress

def source (index : Int) : String :=
  "var v" ++ toString index ++ " = " ++ toString index ++ ";"

def moduleName (index : Int) : String :=
  "stress/m" ++ toString index

structure Result where
  index : Int
  ok : Bool
  detail : String
  deriving DecidableEq, Repr

def contains? (output : Value) (text : String) : Option Bool :=
  match output with
  | .str s => some (Text.occurs text.toList s.toList)
  | .list items => some (items.any fun v => match v with
      | .str s => s == text
      | _ => false)
  | .dict fields => some (fields.any fun f => f.1 == text)
  | _ => none

def accepts? (index : Int) (output : Value) : Option Bool := do
  if ← contains? output (source index) then contains? output (moduleName index) else some false

def check (index : Int) : Job Result := do
  match ← Job.attempt
      (Transpiler.transpile (.str (source index)) none (some (moduleName index))) with
  | .ok output =>
      match accepts? index output with
      | some true => return ⟨index, true, ""⟩
      | some false => return ⟨index, false, "output mismatch"⟩
      | none => throw .mismatch
  | .error (.transpile error) => return ⟨index, false, error.message⟩
  | .error fault => throw fault

structure Scenario where
  fail : List (String × String) := []
  mangle : List (String × String) := []
  stack : Nesting.Stack := {}
  processId : Nat := 0

def define (moduleId source : Value) : Value :=
  .str ("define('" ++ moduleId.display ++ "', " ++ source.display ++ ")")

namespace Scenario

/-- Paths are given as they are looked up, so the application has no root of its own. -/
def settings (c : Scenario) : Settings where
  appRoot := ""
  processId := c.processId

def transpile (c : Scenario) : List Value → Except Failure Value
  | [.str source, .dict options] =>
      match c.fail.lookup source with
      | some report => .error (.ofMessage (.engine .evaluation) report)
      | none =>
          match c.mangle.lookup source with
          | some output => .ok (.str output)
          | none => .ok (define ((options.lookup "moduleId").getD .null) (.str source))
  | _ => .ok .null

def host (c : Scenario) : Host where
  create _ := { result := .ok () }
  evaluate _ _ := { result := .ok .null }
  call _ function arguments :=
    { result := if function = "transpile" then c.transpile arguments else .ok .null }
  drain _ := { result := .ok none }
  collect _ := { result := .ok () }
  close _ := { result := .ok () }
  run _ _ := .ok (.succeeded (.text "") "")
  stack := c.stack

end Scenario

structure Report where
  exit : Nat
  output : String := ""
  errors : Option String := some ""
  deriving DecidableEq, Repr

inductive Problem where
  | numeral (problem : NumeralProblem)
  | noWorkers
  | service (fault : Fault)

def noWorkersMessage : String := "max_workers must be greater than 0"

def Problem.message : Problem → String
  | .numeral problem => problem.message
  | .noWorkers => noWorkersMessage
  | .service _ => "the bundle cannot be read"

def results (order : List Nat) : Job (List Result × Nat) := do
  let rs ← order.mapM fun (i : Nat) => check i
  Context.dispose
  return (rs, (← get).manager.builds)

def sorted (rs : List Result) : List Result :=
  rs.mergeSort fun a b => a.index ≤ b.index

def lines (ls : List String) : String :=
  String.join (ls.map (· ++ "\n"))

/-- The report of a run. The engine answers at once, so the time is given as zero. -/
def report (a : Arguments) (rs : List Result) (builds : Nat) : Report :=
  let failed := rs.filter fun r => !r.ok
  let head :=
    ["Running " ++ toString a.calls ++ " transpiles on " ++ toString a.workers ++
      " threads against " ++ a.bundle, "---"]
  let body := (sorted failed).map fun r => toString r.index ++ " FAILED " ++ r.detail
  let foot :=
    ["---", "Done in 0.00s. ok=" ++ toString (rs.length - failed.length) ++ " failed=" ++
      toString failed.length ++ " builds=" ++ toString builds]
  { exit := if failed.isEmpty then 0 else 1
    output := lines (head ++ body ++ foot) }

def executeIn (order : List Nat) (a : Arguments) (files : Files) (scenario : Scenario) :
    Except Problem Report :=
  if (files.find? a.bundle).isNone then
    .ok { exit := 1, errors := some (lines ["Error: bundle not found: " ++ a.bundle]) }
  else if a.workers ≤ 0 then .error .noWorkers
  else
    let options : ManagerOptions :=
      .make scenario.settings { rebuild := some false, processorPath := some a.bundle }
    match ((results order).exec ⟨options, scenario.host⟩ { settings := scenario.settings, files }).1
      with
    | .ok (rs, builds) => .ok (report a rs builds)
    | .error fault => .error (.service fault)

def execute (a : Arguments) (files : Files) (scenario : Scenario) : Except Problem Report :=
  executeIn (List.range a.calls.toNat) a files scenario

def plan (arguments : List String) (environment : List (String × String)) :
    Except Problem Arguments.Outcome := do
  let defaults ← (Arguments.defaults environment).mapError .numeral
  return Arguments.read defaults arguments

def carryOut (outcome : Arguments.Outcome) (files : Files) (scenario : Scenario) :
    Except Problem Report :=
  match outcome with
  | .refused => .ok { exit := 2, errors := none }
  | .help => .ok { exit := 0 }
  | .run a => execute a files scenario

def runCommand (arguments : List String) (environment : List (String × String)) (files : Files)
    (scenario : Scenario) : Except Problem Report := do
  carryOut (← plan arguments environment) files scenario

end AssetTranspiler.Stress
