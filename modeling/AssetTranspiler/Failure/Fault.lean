import AssetTranspiler.Command.Words
import AssetTranspiler.Failure.Basic
import AssetTranspiler.Failure.Report
import AssetTranspiler.Validation.Checked

namespace AssetTranspiler

structure TranspileError where
  message : String
  stack : Option String
  cause : Option Failure
  deriving DecidableEq, Repr

namespace TranspileError

def ofFailure (stack : Nesting.Stack) (f : Failure) (cause : Option Failure := none) :
    Option TranspileError :=
  (Report.message stack f.text).map fun message =>
    { message := message
      stack := some (f.trace cause)
      cause := some f }

def text (e : TranspileError) : String :=
  e.message

theorem ofFailure_eq_some {stack : Nesting.Stack} {f : Failure} {cause : Option Failure}
    {e : TranspileError} :
    ofFailure stack f cause = some e ↔
      ∃ m, Report.message stack f.text = some m ∧ e = ⟨m, some (f.trace cause), some f⟩ := by
  simp only [ofFailure, Option.map_eq_some_iff, @eq_comm _ _ e]

end TranspileError

inductive FileProblem where
  | missing
  | directory
  | encoding
  deriving DecidableEq, Repr

inductive Fault where
  | raised (failure : Failure)
  | transpile (error : TranspileError)
  | refused (complaints : List Complaint)
  | build (exit : Int)
  | command (problem : Command.Problem)
  | file (problem : FileProblem)
  /-- A value of a kind that the operation is not made for. -/
  | mismatch
  /-- The stack was used up. -/
  | exhausted
  deriving DecidableEq, Repr

namespace Fault

def isInterrupt : Fault → Bool
  | .raised f => f.isInterrupt
  | _ => false

end Fault
end AssetTranspiler
