import AssetTranspiler.Command.Words

namespace AssetTranspiler.Command

/-- How a word's character is written between single quotes. A single quote closes them, stands between
double quotes, and opens them again. -/
def quoteChar (c : Char) : List Char :=
  if c = '\'' then "'\"'\"'".toList else [c]

def quote (w : List Char) : List Char :=
  '\'' :: (w.flatMap quoteChar ++ ['\''])

/-- A text with the given words, each between single quotes, and blanks, tabs or line breaks between
each two of them. -/
inductive Spells : List String → List Char → Prop
  | none : Spells [] []
  | one (w : String) : Spells [w] (quote w.toList)
  | more (w : String) {v : String} {vs : List String} {gap s : List Char} : gap ≠ [] →
      (∀ c ∈ gap, c ∈ [' ', '\t', '\r', '\n']) → Spells (v :: vs) s →
      Spells (w :: v :: vs) (quote w.toList ++ (gap ++ s))

theorem map_addFront (a b : List Char) (x : Except Problem (List (List Char))) :
    (x.map (addFront b)).map (addFront a) = x.map (addFront (a ++ b)) := by
  cases x with
  | error e => rfl
  | ok ws => exact congrArg Except.ok (addFront_append a b ws)

theorem scan_quoteChar (c : Char) (r : List Char) :
    scan .single (quoteChar c ++ r) = (scan .single r).map (addFront [c]) := by
  rw [quoteChar]
  split
  next h =>
    have hscan : scan .single ("'\"'\"'".toList ++ r) =
        (((scan .single r).map (addFront [])).map (addFront ['\''])).map (addFront []) := by
      rfl
    rw [hscan, map_addFront, map_addFront, h]
    rfl
  next h => rw [List.singleton_append, scan, if_neg h]

theorem scan_flatMap_quoteChar (a w r : List Char) :
    (scan .single (w.flatMap quoteChar ++ '\'' :: r)).map (addFront a) =
      (scan .word r).map (addFront (a ++ w)) := by
  induction w generalizing a with
  | nil =>
      rw [List.append_nil]
      rfl
  | cons c w ih =>
      rw [List.flatMap_cons, List.append_assoc, scan_quoteChar, map_addFront, ih, List.append_assoc]
      rfl

theorem scan_quote (w r : List Char) :
    scan .gap (quote w ++ r) = (scan .word r).map (addFront w) := by
  have hopen : scan .gap (quote w ++ r) =
      (scan .single (w.flatMap quoteChar ++ '\'' :: r)).map (addFront []) := by
    rw [quote, List.cons_append, List.append_assoc]
    rfl
  rw [hopen, scan_flatMap_quoteChar, List.nil_append]

theorem scan_gap_append {gap : List Char} (h : ∀ c ∈ gap, isSeparator c = true) (s : List Char) :
    scan .gap (gap ++ s) = scan .gap s := by
  induction gap with
  | nil => rfl
  | cons c gap ih =>
      obtain ⟨hc, hgap⟩ := List.forall_mem_cons.mp h
      rw [List.cons_append, scan_gap_separator hc, ih hgap]

theorem scan_word_append {gap : List Char} (hne : gap ≠ []) (h : ∀ c ∈ gap, isSeparator c = true)
    (s : List Char) : scan .word (gap ++ s) = (scan .gap s).map ([] :: ·) := by
  obtain ⟨c, gap, rfl⟩ := List.exists_cons_of_ne_nil hne
  obtain ⟨hc, hgap⟩ := List.forall_mem_cons.mp h
  rw [List.cons_append, scan, if_pos hc, scan_gap_append hgap]

theorem isSeparator_iff : isSeparator c = true ↔ c ∈ [' ', '\t', '\r', '\n'] := by
  simp [isSeparator, or_assoc]

theorem scan_spells {ws : List String} (h : Spells ws s) :
    scan .gap s = .ok (ws.map String.toList) := by
  induction h with
  | none => rfl
  | one w =>
      rw [← List.append_nil (quote _), scan_quote]
      simp [scan, addFront, Except.map]
  | more w hne hgap _ ih =>
      have hseparators := fun c hc => isSeparator_iff.mpr (hgap c hc)
      rw [scan_quote, scan_word_append hne hseparators, ih]
      simp [addFront, Except.map]

theorem words_of_spells {ws : List String} {command : String} (h : Spells ws command.toList) :
    words command = .ok ws := by
  rw [words, scan_spells h]
  simp [Except.map, Function.comp_def]

end AssetTranspiler.Command
