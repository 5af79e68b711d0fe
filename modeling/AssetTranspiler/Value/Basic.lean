import AssetTranspiler.Number.Binary64

namespace AssetTranspiler

inductive Value where
  | null
  | bool (b : Bool)
  | int (n : Int)
  | float (x : Binary64)
  | str (s : String)
  | list (items : List Value)
  | dict (fields : List (String × Value))
  deriving Repr, Inhabited

namespace Value

def truthy : Value → Bool
  | .null => false
  | .bool b => b
  | .int n => n != 0
  | .float x => !x.isZero
  | .str s => !s.isEmpty
  | .list xs => !xs.isEmpty
  | .dict fs => !fs.isEmpty

def elements? : Value → Option (List Value)
  | .list xs => some xs
  | .str s => some (s.toList.map fun c => .str (String.ofList [c]))
  | .dict fs => some (fs.map fun f => .str f.1)
  | _ => none

def ofOption (f : α → Value) : Option α → Value
  | none => .null
  | some a => f a

def ofText? : Option String → Value :=
  ofOption .str

end Value
end AssetTranspiler
