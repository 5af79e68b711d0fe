import AssetTranspiler.Number.Numeral
import AssetTranspiler.Text.Literal

/-!
How deep the arrays and objects of a JSON text lie in one another, as far as the text can be read. A
reader needs a part of its stack for each that is open.
-/

namespace AssetTranspiler.Nesting

open Literal Text

inductive Bracket where
  | array
  | object
  deriving DecidableEq

inductive Spot where
  | value
  | firstValue
  | name
  | firstName
  | colon
  | done
  | text (isName : Bool)
  | escape (isName : Bool)
  | unit (isName : Bool) (left : Nat)
  | scalar (backwards : List Char)
  | refused
  | exhausted
  deriving DecidableEq

structure Scan where
  spot : Spot
  opened : List Bracket

def isScalarChar (c : Char) : Bool :=
  c.isAlphanum || c == '+' || c == '-' || c == '.'

def isDigits (s : List Char) : Bool :=
  !s.isEmpty && s.all Char.isDigit

def isWhole (s : List Char) : Bool :=
  isDigits s && (s == ['0'] || s.head? != some '0')

def isExponent : List Char → Bool
  | [] => true
  | e :: s => (e == 'e' || e == 'E') && isDigits (Numeral.sign s).2

def isFraction : List Char → Bool
  | '.' :: s => isDigits (s.takeWhile Char.isDigit) && isExponent (s.dropWhile Char.isDigit)
  | s => isExponent s

/-- A whole number may not have too many digits; with a fraction or an exponent there is no limit. -/
def isUnsigned (s : List Char) : Bool :=
  let whole := s.takeWhile Char.isDigit
  let rest := s.dropWhile Char.isDigit
  isWhole whole && if rest.isEmpty then whole.length ≤ Numeral.maxDigits else isFraction rest

def isNumber : List Char → Bool
  | '-' :: s => isUnsigned s
  | s => isUnsigned s

def isScalar (s : List Char) : Bool :=
  ["null".toList, "true".toList, "false".toList].contains s || isNumber s

namespace Scan

def refuse (opened : List Bracket) : Scan :=
  ⟨.refused, opened⟩

def descend (room : Nat) (b : Bracket) (inside : Spot) (opened : List Bracket) : Scan :=
  if opened.length < room then ⟨inside, b :: opened⟩ else ⟨.exhausted, opened⟩

def enter (room : Nat) (opened : List Bracket) (c : Char) : Scan :=
  if c = '[' then descend room .array .firstValue opened
  else if c = '\x7b' then descend room .object .firstName opened
  else if c = '"' then ⟨.text false, opened⟩
  else if isScalarChar c then ⟨.scalar [c], opened⟩
  else refuse opened

def enterName (opened : List Bracket) (c : Char) : Scan :=
  if c = '"' then ⟨.text true, opened⟩ else refuse opened

def follow (opened : List Bracket) (c : Char) : Scan :=
  match opened with
  | [] => refuse []
  | .array :: outer =>
      if c = ',' then ⟨.value, .array :: outer⟩
      else if c = ']' then ⟨.done, outer⟩
      else refuse (.array :: outer)
  | .object :: outer =>
      if c = ',' then ⟨.name, .object :: outer⟩
      else if c = '\x7d' then ⟨.done, outer⟩
      else refuse (.object :: outer)

def step (room : Nat) (scan : Scan) (c : Char) : Scan :=
  let opened := scan.opened
  match scan.spot with
  | .value => if isJsonSpace c then scan else enter room opened c
  | .firstValue =>
      if isJsonSpace c then scan
      else if c = ']' then ⟨.done, opened.tail⟩
      else enter room opened c
  | .name => if isJsonSpace c then scan else enterName opened c
  | .firstName =>
      if isJsonSpace c then scan
      else if c = '\x7d' then ⟨.done, opened.tail⟩
      else enterName opened c
  | .colon =>
      if isJsonSpace c then scan
      else if c = ':' then ⟨.value, opened⟩
      else refuse opened
  | .done => if isJsonSpace c then scan else follow opened c
  | .text isName =>
      if c = '"' then ⟨if isName then .colon else .done, opened⟩
      else if c = '\\' then ⟨.escape isName, opened⟩
      else if isRaw c then scan
      else refuse opened
  | .escape isName =>
      if c = 'u' then ⟨.unit isName 3, opened⟩
      else if (unescape? c).isSome then ⟨.text isName, opened⟩
      else refuse opened
  | .unit isName left =>
      if (hexDigit? c).isNone then refuse opened
      else match left with
        | 0 => ⟨.text isName, opened⟩
        | n + 1 => ⟨.unit isName n, opened⟩
  | .scalar backwards =>
      if isScalarChar c then ⟨.scalar (c :: backwards), opened⟩
      else if isScalar backwards.reverse then
        if isJsonSpace c then ⟨.done, opened⟩ else follow opened c
      else refuse opened
  | .refused => scan
  | .exhausted => scan

def run (room : Nat) (s : List Char) : Scan :=
  s.foldl (step room) ⟨.value, []⟩

end Scan

/-- Whether a text opens more than `room` arrays and objects in one another before it turns out to be
no JSON. -/
def exceeds (room : Nat) (s : List Char) : Bool :=
  (Scan.run room s).spot == .exhausted

structure Stack where
  /-- So many arrays and objects can be open, whatever else the text holds. -/
  safe : Nat := 900
  /-- More than these can never be open. -/
  room : Nat := safe
  /-- In between, what the text holds decides: to refuse it also takes a part of the stack. -/
  edge : List Char → Bool := fun _ => true

def Stack.exhausts (k : Stack) (s : List Char) : Bool :=
  exceeds k.room s || exceeds k.safe s && k.edge s

end AssetTranspiler.Nesting
