namespace AssetTranspiler

structure PathRegistry where
  prefixes : List String
  deriving DecidableEq, Repr

namespace PathRegistry

def empty : PathRegistry := ⟨[]⟩

def contains (r : PathRegistry) (p : String) : Bool :=
  r.prefixes.contains p

def register (r : PathRegistry) (p : String) : PathRegistry :=
  if r.contains p then r else ⟨r.prefixes ++ [p]⟩

def ofList (ps : List String) : PathRegistry :=
  ps.foldl register empty

def size (r : PathRegistry) : Nat :=
  r.prefixes.length

def sorted (r : PathRegistry) : List String :=
  r.prefixes.mergeSort fun a b => decide (a ≤ b)

theorem mem_register {r : PathRegistry} {p q : String} :
    q ∈ (r.register p).prefixes ↔ q ∈ r.prefixes ∨ q = p := by
  unfold register
  split
  next h =>
    have : p ∈ r.prefixes := by simpa [contains] using h
    constructor
    · exact Or.inl
    · rintro (hq | rfl)
      · exact hq
      · exact this
  next => simp

end PathRegistry
end AssetTranspiler
