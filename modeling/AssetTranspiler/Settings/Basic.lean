import AssetTranspiler.Settings.Dotenv
import AssetTranspiler.Validation.Checked
import AssetTranspiler.Validation.Scalar

/-!
Settings of the service. Each is taken from the first of these that has it: the caller's arguments,
the environment, the file of environment variables, the default.
-/

namespace AssetTranspiler

inductive Environment where
  | development
  | test
  | staging
  | production
  deriving DecidableEq, Repr

namespace Environment

def name : Environment → String
  | .development => "local"
  | .test => "test"
  | .staging => "staging"
  | .production => "production"

def all : List Environment := [.development, .test, .staging, .production]

def ofName? (name : String) : Option Environment :=
  all.find? fun e => e.name == name

end Environment

structure Settings where
  projectName : String := "js-processor"
  environment : Environment := .development
  appRoot : String
  bundleSource : String := "app/assets/javascripts/js-processor.js"
  buildCommand : String := "yarn --silent esbuild"
  /-- The time that a single evaluation or call may take, in milliseconds. -/
  timeout : Int := 15000
  /-- The time after the last call at which the engine is asked to shrink its heap, in
  milliseconds. -/
  idleDelay : Int := 2000
  processId : Nat := 0
  deriving DecidableEq, Repr

namespace Settings

def isProduction (s : Settings) : Bool :=
  s.environment == .production

/-- Where the bundle lies below the application's root: outside production each process has its
own. -/
def bundlePath (s : Settings) : String :=
  if s.isProduction then "tmp/js-processor.js"
  else "tmp/js-processor/" ++ toString s.processId ++ ".js"

structure Sources where
  arguments : List (String × Value) := []
  environment : List (String × String) := []
  file : String := ""

/-- The last entry whose name agrees in all but letter case. -/
def lookup? {α : Type} (name : String) (entries : List (String × α)) : Option α :=
  let lower := name.map Char.toLower
  (entries.reverse.find? fun e => e.1.map Char.toLower == lower).map (·.2)

def argument? (name : String) (entries : List (String × Value)) : Option Value :=
  (entries.lookup name).or (lookup? name entries)

def nonEmpty (entries : List (String × String)) : List (String × String) :=
  entries.filter fun e => !e.2.isEmpty

/-- The variables of a file. One that is named without a value hides its namesakes in other letter
case. -/
def fileEntries (text : String) : List (String × Option String) :=
  (Dotenv.read text).filter fun e => e.2 != some ""

namespace Sources

def find? (s : Sources) (name : String) : Option Value :=
  (argument? name s.arguments).or <|
    ((lookup? name (nonEmpty s.environment)).or
      (lookup? name (fileEntries s.file)).join).map .str

def field {α : Type} (s : Sources) (name : String) (read : Value → Except Objection α)
    (default : α) : Checked α :=
  match s.find? name with
  | some v => .ofExcept [.field name] (read v)
  | none => .accepted default

end Sources

def readEnvironment : Value → Except Objection Environment
  | .str s =>
      match Environment.ofName? s with
      | some e => .ok e
      | none => .error .notAllowed
  | _ => .error .notAllowed

def load (base : Settings) (s : Sources) : Checked Settings :=
  Settings.mk
    <$> s.field "PROJECT_NAME" Scalar.text base.projectName
    <*> s.field "ENVIRONMENT" readEnvironment base.environment
    <*> s.field "APP_ROOT" Scalar.text base.appRoot
    <*> s.field "JS_PROCESSOR_SOURCE" Scalar.text base.bundleSource
    <*> s.field "JS_PROCESSOR_BUILD_COMMAND" Scalar.text base.buildCommand
    <*> s.field "JS_PROCESSOR_TIMEOUT_MS" Scalar.integer base.timeout
    <*> s.field "JS_PROCESSOR_IDLE_GC_MS" Scalar.integer base.idleDelay
    <*> .accepted base.processId

end Settings
end AssetTranspiler
