namespace AssetTranspiler

inductive Objection where
  | missing
  | notText
  | notTruthValue
  | unreadableTruthValue
  | notInteger
  | unreadableInteger
  | fractionalInteger
  | oversizedInteger
  | infiniteInteger
  | notTuple
  | tooLong
  | notObject
  | notAllowed
  | frozen
  deriving DecidableEq, Repr

inductive Place where
  | field (name : String)
  | item (index : Nat)
  deriving DecidableEq, Repr

structure Complaint where
  place : List Place
  objection : Objection
  deriving DecidableEq, Repr

namespace Complaint

def within (outer : List Place) (c : Complaint) : Complaint :=
  { c with place := outer ++ c.place }

end Complaint

inductive Checked (α : Type) where
  | accepted (value : α)
  | refused (complaints : List Complaint)
  deriving Repr

namespace Checked

def map {α β : Type} (f : α → β) : Checked α → Checked β
  | .accepted a => .accepted (f a)
  | .refused cs => .refused cs

def apply {α β : Type} : Checked (α → β) → Checked α → Checked β
  | .accepted f, x => x.map f
  | .refused cs, .accepted _ => .refused cs
  | .refused cs, .refused ds => .refused (cs ++ ds)

instance : Applicative Checked where
  pure := .accepted
  map := map
  seq f x := f.apply (x ())

def ofExcept {α : Type} (place : List Place) : Except Objection α → Checked α
  | .ok a => .accepted a
  | .error o => .refused [⟨place, o⟩]

def within {α : Type} (outer : List Place) : Checked α → Checked α
  | .accepted a => .accepted a
  | .refused cs => .refused (cs.map (·.within outer))

def traverse {α β : Type} (f : Nat → α → Checked β) (start : Nat) : List α → Checked (List β)
  | [] => .accepted []
  | a :: as => List.cons <$> f start a <*> traverse f (start + 1) as

def toExcept {α : Type} : Checked α → Except (List Complaint) α
  | .accepted a => .ok a
  | .refused cs => .error cs

end Checked
end AssetTranspiler
