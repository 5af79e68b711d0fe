import AssetTranspiler.Failure.Fault
import AssetTranspiler.Text.Character
import AssetTranspiler.Value.Basic

/-!
The surroundings of the service. How they answer a request may depend on all earlier requests, so a
host can be any deterministic world: engines with a state of their own, tools that fail at times.
-/

namespace AssetTranspiler

/-- A request to the surroundings. Engines are numbered in the order of their creation. -/
inductive Event where
  | create (engine : Nat)
  | evaluate (engine : Nat) (code : String) (timeout : Int)
  | call (engine : Nat) (function : String) (arguments : List Value) (timeout : Int)
  | drain (engine : Nat) (arguments : List Value) (timeout : Int)
  | collect (engine : Nat)
  | close (engine : Nat)
  | build (path : String)
  | load (path : Value)
  | run (command : List String) (directory : String)
  | openFile (path : String)
  deriving Repr

namespace Event

def engine? : Event → Option Nat
  | .create i => some i
  | .evaluate i _ _ => some i
  | .call i _ _ _ => some i
  | .drain i _ _ => some i
  | .collect i => some i
  | .close i => some i
  | _ => none

def isCreate : Event → Bool
  | .create _ => true
  | _ => false

def isEvaluate : Event → Bool
  | .evaluate _ _ _ => true
  | _ => false

def isCallOf (function : String) : Event → Bool
  | .call _ f _ _ => f == function
  | _ => false

def isDrain : Event → Bool
  | .drain _ _ _ => true
  | _ => false

def isCollect : Event → Bool
  | .collect _ => true
  | _ => false

def isClose : Event → Bool
  | .close _ => true
  | _ => false

def isBuild : Event → Bool
  | .build _ => true
  | _ => false

def isLoad : Event → Bool
  | .load _ => true
  | _ => false

def isRun : Event → Bool
  | .run _ _ => true
  | _ => false

end Event

inductive File where
  | text (content : String)
  | bytes (content : List UInt8)
  | directory
  deriving DecidableEq, Repr

/-- Files and directories; the first entry of a path counts. -/
abbrev Files := List (String × File)

namespace Files

def find? (fs : Files) (path : String) : Option File :=
  fs.lookup path

def write (fs : Files) (path : String) (file : File) : Files :=
  (path, file) :: fs

def read (fs : Files) (path : String) : Except FileProblem String :=
  match fs.find? path with
  | none => .error .missing
  | some .directory => .error .directory
  | some (.text content) => .ok (String.ofList (Text.unifyLineBreaks content.toList))
  | some (.bytes content) =>
      match String.fromUTF8? (ByteArray.mk content.toArray) with
      | some s => .ok (String.ofList (Text.unifyLineBreaks s.toList))
      | none => .error .encoding

def join (directory path : String) : String :=
  if path.toList.head? == some '/' then path
  else if directory.isEmpty || directory.toList.getLast? == some '/' then directory ++ path
  else directory ++ "/" ++ path

theorem find?_write_self (fs : Files) (path : String) (file : File) :
    (fs.write path file).find? path = some file := by
  simp [write, find?]

end Files

/-- Earlier requests, the latest first. -/
abbrev History := List Event

structure Reply (α : Type) where
  logged : List Value := []
  result : Except Failure α

inductive ToolResult where
  | succeeded (written : File) (notes : String)
  | failed (exit : Int) (notes : String)
  deriving DecidableEq, Repr

structure Host where
  create : History → Reply Unit
  evaluate : History → String → Reply Value
  call : History → String → List Value → Reply Value
  /-- Without a value, the buffered console records are handed out. -/
  drain : History → Reply (Option Value)
  collect : History → Reply Unit
  close : History → Reply Unit
  run : History → List String → Except Failure ToolResult
  build : Option (History → String → Except Failure Value) := none
  load : Option (History → Value → Except Failure Value) := none
  /-- What is left of the stack where an engine failure is translated. -/
  stack : Nesting.Stack := {}

def Host.quiet : Host where
  create _ := { result := .ok () }
  evaluate _ _ := { result := .ok .null }
  call _ _ _ := { result := .ok .null }
  drain _ := { result := .ok none }
  collect _ := { result := .ok () }
  close _ := { result := .ok () }
  run _ _ := .ok (.succeeded (.text "/* built */") "")

end AssetTranspiler
