import AssetTranspiler.Service.Host
import AssetTranspiler.Stress.Run

/-!
Scripted hosts. For each kind of request a script lists the outcomes of its uses: the first use takes
the first outcome, and when the list is used up its last outcome counts on.
-/

namespace AssetTranspiler

inductive Reaction where
  | throws (failure : Failure)
  | returns (value : Value)
  /-- The source wrapped in a module, for a call that transpiles. -/
  | defines
  /-- The list of the arguments. -/
  | echoes
  | default
  deriving Repr

structure Outcome where
  logged : List Value := []
  reaction : Reaction := .default
  deriving Repr

inductive ToolOutcome where
  | throws (failure : Failure)
  | ends (result : ToolResult)
  deriving Repr

structure Script where
  create : List (Option Outcome) := []
  evaluate : List (Option Outcome) := []
  calls : List (String × List (Option Outcome)) := []
  drain : List (Option Outcome) := []
  collect : List (Option Outcome) := []
  close : List (Option Outcome) := []
  run : List (Option ToolOutcome) := []
  build : Option (List (Option Outcome)) := none
  load : Option (List (Option Outcome)) := none

namespace Script

def pick {α : Type} (outcomes : List (Option α)) (k : Nat) : Option α :=
  (outcomes[min k (outcomes.length - 1)]?).join

def uses (kind : Event → Bool) (past : History) : Nat :=
  past.countP kind

def defined? : List Value → Option Value
  | [source, .dict options] =>
      some (Stress.define ((options.lookup "moduleId").getD .null) source)
  | _ => none

def settle (reaction : Reaction) (arguments : List Value) (default : Value) :
    Except Failure Value :=
  match reaction with
  | .throws f => .error f
  | .returns v => .ok v
  | .defines => .ok ((defined? arguments).getD default)
  | .echoes => .ok (.list arguments)
  | .default => .ok default

def reply (outcome : Option Outcome) (arguments : List Value) : Reply Value :=
  let o := outcome.getD {}
  { logged := o.logged, result := settle o.reaction arguments .null }

def replyUnit (outcome : Option Outcome) : Reply Unit :=
  { result := (settle (outcome.getD {}).reaction [] .null).map fun _ => () }

def replyDrain (outcome : Option Outcome) : Reply (Option Value) :=
  { result :=
      match (outcome.getD {}).reaction with
      | .throws f => .error f
      | .returns v => .ok (some v)
      | .echoes => .ok (some (.list []))
      | _ => .ok none }

def builtBundle : File := .text "/* built */"

def toolResult (outcome : Option ToolOutcome) : Except Failure ToolResult :=
  match outcome with
  | none => .ok (.succeeded builtBundle "")
  | some (.throws f) => .error f
  | some (.ends r) => .ok r

def host (s : Script) : Host where
  create past := replyUnit (pick s.create (uses Event.isCreate past))
  evaluate past code := reply (pick s.evaluate (uses Event.isEvaluate past)) [.str code]
  call past function arguments :=
    reply (pick ((s.calls.lookup function).getD []) (uses (Event.isCallOf function) past)) arguments
  drain past := replyDrain (pick s.drain (uses Event.isDrain past))
  collect past := replyUnit (pick s.collect (uses Event.isCollect past))
  close past := replyUnit (pick s.close (uses Event.isClose past))
  run past _ := toolResult (pick s.run (uses Event.isRun past))
  build := s.build.map fun outcomes past path =>
    settle ((pick outcomes (uses Event.isBuild past)).getD {}).reaction [.str path] (.str path)
  load := s.load.map fun outcomes past path =>
    settle ((pick outcomes (uses Event.isLoad past)).getD {}).reaction [path] path

end Script
end AssetTranspiler
