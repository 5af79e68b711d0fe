import AssetTranspiler.Number.Shortest
import AssetTranspiler.Text.Category
import AssetTranspiler.Text.Character
import AssetTranspiler.Value.Basic

/-!
Values as they are shown in a log: a string stands for itself, and inside a list or an object it is
quoted.
-/

namespace AssetTranspiler.Quoted

open Text

def mark (s : List Char) : Char :=
  if s.contains '\'' && !s.contains '"' then '"' else '\''

def escape (q c : Char) : List Char :=
  if c == q || c == '\\' then ['\\', c]
  else if c == '\n' then ['\\', 'n']
  else if c == '\r' then ['\\', 'r']
  else if c == '\t' then ['\\', 't']
  else if isPrintable c then [c]
  else if c.toNat ≤ 0xFF then '\\' :: 'x' :: hex 2 c.toNat
  else if c.toNat ≤ 0xFFFF then '\\' :: 'u' :: hex 4 c.toNat
  else '\\' :: 'U' :: hex 8 c.toNat

def quote (s : List Char) : List Char :=
  let q := mark s
  q :: s.flatMap (escape q) ++ [q]

def quoteString (s : String) : String :=
  String.ofList (quote s.toList)

end AssetTranspiler.Quoted

namespace AssetTranspiler

namespace Binary64

def display (x : Binary64) : String :=
  if x.isFinite then String.ofList (Shortest.textOfFinite x)
  else if x.isNaN then "nan"
  else if x.isNegative then "-inf"
  else "inf"

end Binary64

namespace Value

mutual

def inner : Value → String
  | .null => "None"
  | .bool b => if b then "True" else "False"
  | .int n => toString n
  | .float x => x.display
  | .str s => Quoted.quoteString s
  | .list xs => "[" ++ ", ".intercalate (innerItems xs) ++ "]"
  | .dict fs => "\x7b" ++ ", ".intercalate (innerFields fs) ++ "\x7d"

def innerItems : List Value → List String
  | [] => []
  | x :: xs => inner x :: innerItems xs

def innerFields : List (String × Value) → List String
  | [] => []
  | (k, v) :: fs => (Quoted.quoteString k ++ ": " ++ inner v) :: innerFields fs

end

def display : Value → String
  | .str s => s
  | v => v.inner

@[simp] theorem display_str (s : String) : (Value.str s).display = s := rfl

end Value
end AssetTranspiler
