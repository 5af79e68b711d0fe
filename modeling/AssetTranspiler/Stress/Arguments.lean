import AssetTranspiler.Number.Numeral
import AssetTranspiler.Value.Display

namespace AssetTranspiler.Stress

open Text

structure Arguments where
  bundle : String := "tests/fixtures/js-processor.js"
  workers : Int := 20
  calls : Int := 200
  deriving DecidableEq, Repr

inductive NumeralProblem where
  | malformed (text : String)
  | tooLong (digits : Nat)
  deriving DecidableEq, Repr

namespace NumeralProblem

def message : NumeralProblem → String
  | .malformed text =>
      "invalid literal for int() with base 10: " ++
        String.ofList ((Quoted.quote text.toList).take 200)
  | .tooLong digits =>
      "Exceeds the limit (4300 digits) for integer string conversion: value has " ++
        toString digits ++ " digits; use sys.set_int_max_str_digits() to increase the limit"

end NumeralProblem

def number (text : String) : Except NumeralProblem Int :=
  match Numeral.read digit? (trim isSpace text.toList) with
  | .ok n => .ok n
  | .error .malformed => .error (.malformed text)
  | .error (.tooLong digits) => .error (.tooLong digits)

namespace Arguments

def defaults (environment : List (String × String)) : Except NumeralProblem Arguments := do
  let workers ← number ((environment.lookup "CONCURRENT").getD "20")
  let calls ← number ((environment.lookup "CALLS").getD "200")
  let bundle := (environment.lookup "JS_PROCESSOR_BUNDLE").getD "tests/fixtures/js-processor.js"
  return { bundle, workers, calls }

inductive Name where
  | help
  | bundle
  | workers
  | calls
  deriving DecidableEq, Repr

def names : List (String × Name) :=
  [("-h", .help), ("--help", .help), ("--bundle", .bundle), ("--concurrent", .workers),
    ("--calls", .calls)]

inductive Token where
  /-- Two dashes, after which nothing is an option. -/
  | separator
  | value (text : String)
  | option (name : Name) (value : Option String)
  | unknown
  deriving DecidableEq, Repr

def splitValue (text : String) : String × Option String :=
  let before := text.toList.takeWhile (· != '=')
  match text.toList.drop before.length with
  | [] => (text, none)
  | _ :: after => (String.ofList before, some (String.ofList after))

def isNegativeNumber (text : String) : Bool :=
  match text.toList with
  | '-' :: r =>
      let r := if r.getLast? == some '\n' then r.dropLast else r
      let whole := r.takeWhile isDigit
      match r.drop whole.length with
      | [] => !whole.isEmpty
      | '.' :: fraction => !fraction.isEmpty && fraction.all isDigit
      | _ => false
  | _ => false

/-- An argument with a leading dash that is no option's full name: a shortened option, a value, or
unknown. There is none if several options may be meant. -/
def shortened? (text : String) : Option Token :=
  let (before, value) := splitValue text
  let long := "--".toList.isPrefixOf text.toList
  let candidates :=
    if long then names.filter fun n => before.toList.isPrefixOf n.1.toList
    else names.filter fun n => n.1.toList == text.toList.take 2
  match candidates with
  | [] =>
      if isNegativeNumber text || text.contains ' ' then some (.value text) else some .unknown
  | [n] => some (.option n.2 (if long then value else some (String.ofList (text.toList.drop 2))))
  | _ => none

def token? (text : String) : Option Token :=
  if !"-".toList.isPrefixOf text.toList then some (.value text)
  else
    match names.lookup text with
    | some name => some (.option name none)
    | none =>
        if text = "-" then some (.value text)
        else
          match splitValue text with
          | (before, some value) =>
              match names.lookup before with
              | some name => some (.option name (some value))
              | none => shortened? text
          | _ => shortened? text

def tokens? : List String → Option (List Token)
  | [] => some []
  | text :: rest =>
      if text = "--" then some (.separator :: rest.map .value)
      else do
        let t ← token? text
        let ts ← tokens? rest
        return t :: ts

inductive Outcome where
  | run (arguments : Arguments)
  | help
  | refused
  deriving DecidableEq, Repr

def assign (a : Arguments) (name : Name) (value : String) : Option Arguments :=
  match name with
  | .help => none
  | .bundle => some { a with bundle := value }
  | .workers => (number value).toOption.map fun n => { a with workers := n }
  | .calls => (number value).toOption.map fun n => { a with calls := n }

/-- Works through the arguments; `clean` tells that all earlier ones were understood. -/
def interpret (clean : Bool) (a : Arguments) : List Token → Outcome
  | [] => if clean then .run a else .refused
  | .separator :: rest => interpret false a rest
  | .value _ :: rest => interpret false a rest
  | .unknown :: rest => interpret false a rest
  | .option .help none :: _ => .help
  | .option name (some value) :: rest =>
      match assign a name value with
      | some a => interpret clean a rest
      | none => .refused
  | .option name none :: .value value :: rest =>
      match assign a name value with
      | some a => interpret clean a rest
      | none => .refused
  | .option _ none :: _ => .refused

def read (defaults : Arguments) (arguments : List String) : Outcome :=
  match tokens? arguments with
  | some ts => interpret true defaults ts
  | none => .refused

end Arguments
end AssetTranspiler.Stress
