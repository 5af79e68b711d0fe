namespace AssetTranspiler

inductive EngineFailure where
  | general
  | evaluation
  | parse
  | outOfMemory
  | terminated
  | conversion
  | timeout
  | arrayIndex
  | promise
  deriving DecidableEq, Repr

inductive HostFailure where
  | runtime
  | value
  | type
  | system
  | missingFile
  deriving DecidableEq, Repr

inductive FailureKind where
  | engine (kind : EngineFailure)
  | host (kind : HostFailure)
  | interrupt
  deriving DecidableEq, Repr

/-- A failure, its text, and what its trace shows of the calls that led to it. -/
structure Failure where
  kind : FailureKind
  text : String
  frames : String := ""
  deriving DecidableEq, Repr

namespace EngineFailure

def name : EngineFailure → String
  | .general => "MiniRacerBaseException"
  | .evaluation => "JSEvalException"
  | .parse => "JSParseException"
  | .outOfMemory => "JSOOMException"
  | .terminated => "JSTerminatedException"
  | .conversion => "JSConversionException"
  | .timeout => "JSTimeoutException"
  | .arrayIndex => "JSArrayIndexError"
  | .promise => "JSPromiseError"

def text (kind : EngineFailure) (message : String) : String :=
  match kind with
  | .timeout => "JavaScript was terminated by timeout"
  | .arrayIndex => "JSArray deletion out of range"
  | .promise => "JavaScript rejected promise with reason: " ++ message ++ "\n"
  | _ => message

end EngineFailure

namespace HostFailure

def name : HostFailure → String
  | .runtime => "RuntimeError"
  | .value => "ValueError"
  | .type => "TypeError"
  | .system => "OSError"
  | .missingFile => "FileNotFoundError"

end HostFailure

namespace FailureKind

def name : FailureKind → String
  | .engine kind => kind.name
  | .host kind => kind.name
  | .interrupt => "KeyboardInterrupt"

def qualifiedName : FailureKind → String
  | .engine kind => "py_mini_racer._exc." ++ kind.name
  | kind => kind.name

def all : List FailureKind :=
  [.engine .general, .engine .evaluation, .engine .parse, .engine .outOfMemory,
    .engine .terminated, .engine .conversion, .engine .timeout, .engine .arrayIndex,
    .engine .promise, .host .runtime, .host .value, .host .type, .host .system,
    .host .missingFile, .interrupt]

def ofName? (name : String) : Option FailureKind :=
  all.find? fun kind => kind.name == name

end FailureKind

namespace Failure

def ofMessage (kind : FailureKind) (message : String) : Failure :=
  match kind with
  | .engine k => { kind := .engine k, text := k.text message }
  | k => { kind := k, text := message }

def isEngine (f : Failure) : Bool :=
  match f.kind with
  | .engine _ => true
  | _ => false

/-- Whether the process was interrupted: no handler for errors sees such a failure. -/
def isInterrupt (f : Failure) : Bool :=
  f.kind == .interrupt

def line (f : Failure) : String :=
  if f.text.isEmpty then f.kind.qualifiedName ++ "\n"
  else f.kind.qualifiedName ++ ": " ++ f.text ++ "\n"

def trace (f : Failure) : Option Failure → String
  | none => f.frames ++ f.line
  | some cause =>
      cause.frames ++ cause.line ++
        "\nThe above exception was the direct cause of the following exception:\n\n" ++
        f.frames ++ f.line

end Failure
end AssetTranspiler
