namespace AssetTranspiler.Text

def occurs (pat : List Char) : List Char → Bool
  | [] => pat.isEmpty
  | c :: r => pat.isPrefixOf (c :: r) || occurs pat r

def removeFirst (pat : List Char) : List Char → List Char
  | [] => []
  | c :: r =>
      if pat.isPrefixOf (c :: r) then (c :: r).drop pat.length
      else c :: removeFirst pat r

/-- Replaces the occurrences of `pat` from left to right; `skip` characters of an occurrence that is
already replaced are still to be passed over. -/
def replaceFrom (pat new : List Char) : Nat → List Char → List Char
  | _, [] => []
  | skip + 1, _ :: r => replaceFrom pat new skip r
  | 0, c :: r =>
      if pat.isPrefixOf (c :: r) then new ++ replaceFrom pat new (pat.length - 1) r
      else c :: replaceFrom pat new 0 r

def replaceAll (pat new s : List Char) : List Char :=
  replaceFrom pat new 0 s

def cut? (pat : List Char) : List Char → Option (List Char × List Char)
  | [] => if pat.isEmpty then some ([], []) else none
  | c :: r =>
      if pat.isPrefixOf (c :: r) then some ([], (c :: r).drop pat.length)
      else (cut? pat r).map fun (before, after) => (c :: before, after)

theorem removeFirst_of_isPrefixOf {pat : List Char} {c : Char} {r : List Char}
    (h : pat.isPrefixOf (c :: r) = true) :
    removeFirst pat (c :: r) = (c :: r).drop pat.length := by
  simp [removeFirst, h]

theorem cut?_eq_some {pat s before after : List Char} (h : cut? pat s = some (before, after)) :
    s = before ++ pat ++ after := by
  induction s generalizing before with
  | nil =>
      cases pat with
      | nil => simp_all [cut?]
      | cons p ps => simp [cut?] at h
  | cons c r ih =>
      simp only [cut?] at h
      split at h
      next hp =>
        obtain ⟨t, ht⟩ := List.isPrefixOf_iff_prefix.mp hp
        simp only [← ht, List.drop_left, Option.some.injEq, Prod.mk.injEq] at h
        simp [← h.1, ← h.2, ht]
      next hp =>
        obtain ⟨⟨b, a⟩, hb, he⟩ := Option.map_eq_some_iff.mp h
        obtain ⟨rfl, rfl⟩ : c :: b = before ∧ a = after := by simpa using he
        rw [ih hb]
        rfl

end AssetTranspiler.Text
