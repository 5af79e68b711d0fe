import AssetTranspiler.Text.Character

namespace AssetTranspiler.Numeral

inductive Problem where
  | malformed
  | tooLong (digits : Nat)
  deriving DecidableEq, Repr

def maxDigits : Nat := 4300

/-- The digits of a text, a single underscore being allowed between two of them. -/
def digits? (digit? : Char → Option Nat) : List Char → Option (List Nat)
  | [] => none
  | [c] => (digit? c).map ([·])
  | c :: '_' :: r => (digit? c).bind fun d => (digits? digit? r).map (d :: ·)
  | c :: r => (digit? c).bind fun d => (digits? digit? r).map (d :: ·)

def value (ds : List Nat) : Nat :=
  ds.foldl (fun n d => 10 * n + d) 0

def sign : List Char → Bool × List Char
  | '-' :: r => (true, r)
  | '+' :: r => (false, r)
  | s => (false, s)

def read (digit? : Char → Option Nat) (s : List Char) : Except Problem Int :=
  let (negative, body) := sign s
  match digits? digit? body with
  | none => .error .malformed
  | some ds =>
      if ds.length > maxDigits then .error (.tooLong ds.length)
      else .ok (if negative then -(value ds : Int) else value ds)

end AssetTranspiler.Numeral
