import AssetTranspiler.Number.Shortest
import AssetTranspiler.Text.Literal
import AssetTranspiler.Value.Basic

namespace AssetTranspiler

namespace Binary64

def json (x : Binary64) : String :=
  if x.isFinite then String.ofList (Shortest.textOfFinite x)
  else if x.isNaN then "NaN"
  else if x.isNegative then "-Infinity"
  else "Infinity"

end Binary64

namespace Value

def quote (s : String) : String :=
  String.ofList (Literal.quote s.toList)

mutual

def json : Value → String
  | .null => "null"
  | .bool b => if b then "true" else "false"
  | .int n => toString n
  | .float x => x.json
  | .str s => quote s
  | .list xs => "[" ++ ", ".intercalate (jsonItems xs) ++ "]"
  | .dict fs => "\x7b" ++ ", ".intercalate (jsonFields fs) ++ "\x7d"

def jsonItems : List Value → List String
  | [] => []
  | x :: xs => json x :: jsonItems xs

def jsonFields : List (String × Value) → List String
  | [] => []
  | (k, v) :: fs => (quote k ++ ": " ++ json v) :: jsonFields fs

end

end Value
end AssetTranspiler
