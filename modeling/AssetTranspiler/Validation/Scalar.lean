import AssetTranspiler.Number.Numeral
import AssetTranspiler.Validation.Checked
import AssetTranspiler.Value.Basic

namespace AssetTranspiler.Scalar

open Text

def text : Value → Except Objection String
  | .str s => .ok s
  | _ => .error .notText

def text? : Value → Except Objection (Option String)
  | .null => .ok none
  | v => (text v).map some

def trueWords : List String := ["1", "on", "t", "true", "y", "yes"]

def falseWords : List String := ["0", "off", "f", "false", "n", "no"]

def ofWord? (word : String) : Option Bool :=
  let w := word.map Char.toLower
  if trueWords.contains w then some true
  else if falseWords.contains w then some false
  else none

def ofInt? (n : Int) : Option Bool :=
  if n = 0 then some false else if n = 1 then some true else none

def fits64 (n : Int) : Bool :=
  -Int.pow 2 63 ≤ n && n < Int.pow 2 63

/-- The whole number that a floating-point number is; it has to lie strictly within 64 bits. -/
def ofFloat (x : Binary64) : Except Objection Int :=
  if !x.isFinite then .error .infiniteInteger
  else
    match x.whole? with
    | none => .error .fractionalInteger
    | some n => if -Int.pow 2 63 < n && n < Int.pow 2 63 then .ok n else .error .oversizedInteger

def flag : Value → Except Objection Bool
  | .bool b => .ok b
  | .str s =>
      match ofWord? s with
      | some b => .ok b
      | none => .error .unreadableTruthValue
  | .int n =>
      if fits64 n then
        match ofInt? n with
        | some b => .ok b
        | none => .error .unreadableTruthValue
      else .error .notTruthValue
  | .float x =>
      match ofFloat x with
      | .error _ => .error .notTruthValue
      | .ok n =>
          match ofInt? n with
          | some b => .ok b
          | none => .error .unreadableTruthValue
  | _ => .error .notTruthValue

def withoutZeroFraction (s : List Char) : List Char :=
  let whole := s.takeWhile (· != '.')
  if (s.drop (whole.length + 1)).all (· == '0') then whole else s

def ofNumeral (s : String) : Except Objection Int :=
  match Numeral.read asciiDigit? (withoutZeroFraction (trim isSpace s.toList)) with
  | .ok n => .ok n
  | .error .malformed => .error .unreadableInteger
  | .error (.tooLong _) => .error .oversizedInteger

def integer : Value → Except Objection Int
  | .int n => .ok n
  | .bool b => .ok (if b then 1 else 0)
  | .float x => ofFloat x
  | .str s => ofNumeral s
  | _ => .error .notInteger

def integer? : Value → Except Objection (Option Int)
  | .null => .ok none
  | v => (integer v).map some

theorem text?_ofText? (s : Option String) : text? (Value.ofText? s) = .ok s := by
  cases s <;> rfl

theorem integer?_ofOption (n : Option Int) : integer? (Value.ofOption .int n) = .ok n := by
  cases n <;> rfl

end AssetTranspiler.Scalar
