import AssetTranspiler.Path.Classifier
import AssetTranspiler.Plugin.ModuleName
import AssetTranspiler.Validation.Checked
import AssetTranspiler.Validation.Scalar

/-!
Requests to transpile a source. A request is read from named fields, most of which have a second
name, the one under which the engine is told the option; if both are given, that one counts.
-/

namespace AssetTranspiler

inductive BabelPlugin where
  | named (name : String)
  | configured (name : String) (options : List (String × Value))
  deriving Repr

namespace BabelPlugin

def common : List BabelPlugin :=
  [.configured "proposal-decorators" [("legacy", .bool true)],
    .named "proposal-class-properties",
    .named "proposal-private-methods",
    .named "proposal-class-static-block",
    .named "transform-parameters",
    .named "proposal-export-namespace-from"]

def value : BabelPlugin → Value
  | .named name => .str name
  | .configured name options => .list [.str name, .dict options]

def nameLabel : String := "str"

def pairLabel : String := "tuple[str, dict[str,any]]"

def options : Value → Except Objection (List (String × Value))
  | .dict fields => .ok fields
  | _ => .error .notObject

def part {α : Type} (i : Nat) (read : Value → Except Objection α) : Option Value → Checked α
  | none => .refused [⟨[.item i], .missing⟩]
  | some v => .ofExcept [.item i] (read v)

def pair : Value → Checked BabelPlugin
  | .list items =>
      if 2 < items.length then .refused [⟨[], .tooLong⟩]
      else .configured <$> part 0 Scalar.text items[0]? <*> part 1 options items[1]?
  | _ => .refused [⟨[], .notTuple⟩]

/-- Reads a plugin: a name or a pair. A value that is neither draws the complaints about both. -/
def read (v : Value) : Checked BabelPlugin :=
  match v with
  | .str name => .accepted (.named name)
  | _ =>
      match pair v with
      | .accepted p => .accepted p
      | .refused cs =>
          .refused (⟨[.field nameLabel], .notText⟩ :: cs.map (·.within [.field pairLabel]))

def readAll : Value → Checked (List BabelPlugin)
  | .list items => Checked.traverse (fun i v => (read v).within [.item i]) 0 items
  | _ => .refused [⟨[], .notTuple⟩]

theorem read_value (p : BabelPlugin) : read p.value = .accepted p := by
  cases p <;> rfl

end BabelPlugin

structure Request where
  source : String
  skipModule : Bool := false
  moduleId : Option String := none
  filename : String := "unknown"
  themeId : Option Int := none
  plugins : List BabelPlugin := BabelPlugin.common
  deriving Repr

namespace Request

def options (r : Request) : Value :=
  .dict [("skipModule", .bool r.skipModule),
    ("moduleId", .ofText? r.moduleId),
    ("filename", .str r.filename),
    ("themeId", .ofOption .int r.themeId),
    ("commonPlugins", .list (r.plugins.map BabelPlugin.value))]

/-- The value given under the first of the names that is used, and that name. -/
def given? (fields : List (String × Value)) : List String → Option (String × Value)
  | [] => none
  | name :: names =>
      match fields.lookup name with
      | some v => some (name, v)
      | none => given? fields names

def field {α : Type} (fields : List (String × Value)) (names : List String)
    (read : Value → Checked α) (default : Checked α) : Checked α :=
  match given? fields names with
  | some (name, v) => (read v).within [.field name]
  | none => default

def single {α : Type} (read : Value → Except Objection α) (v : Value) : Checked α :=
  .ofExcept [] (read v)

def read (fields : List (String × Value)) : Checked Request :=
  Request.mk
    <$> field fields ["source"] (single Scalar.text) (.refused [⟨[.field "source"], .missing⟩])
    <*> field fields ["skipModule", "skip_module"] (single Scalar.flag) (.accepted false)
    <*> field fields ["moduleId", "module_id"] (single Scalar.text?) (.accepted none)
    <*> field fields ["filename"] (single Scalar.text) (.accepted "unknown")
    <*> field fields ["themeId", "theme_id"] (single Scalar.integer?) (.accepted none)
    <*> field fields ["commonPlugins", "common_plugins"] BabelPlugin.readAll
          (.accepted BabelPlugin.common)

def assign (_ : Request) (name : String) (_ : Value) : Checked Request :=
  .refused [⟨[.field name], .frozen⟩]

end Request
end AssetTranspiler
