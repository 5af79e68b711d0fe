import AssetTranspiler.Text.Character
import AssetTranspiler.Text.Search
import Mathlib.Data.List.Basic
import Mathlib.Data.List.Infix
import Mathlib.Data.List.TakeWhile

namespace AssetTranspiler.Text

theorem isPrefixOf?_append (p s : List Char) : p.isPrefixOf? (p ++ s) = some s :=
  List.isPrefixOf?_eq_some_iff_append_eq.mpr rfl

theorem isPrefixOf?_eq_none {p s : List Char} (h : ¬ p <+: s) : p.isPrefixOf? s = none := by
  rw [← Option.not_isSome_iff_eq_none, List.isSome_isPrefixOf?_eq_isPrefixOf,
    List.isPrefixOf_iff_prefix]
  exact h

theorem cut?_cons_of_not {pat : List Char} {c : Char} {r : List Char}
    (h : pat.isPrefixOf (c :: r) = false) :
    cut? pat (c :: r) = (cut? pat r).map fun (before, after) => (c :: before, after) := by
  simp [cut?, h]

theorem cut?_append {l : List Char} (h : '\n' ∉ l) (r : List Char) :
    cut? ['\n', '\n'] (l ++ r) =
      (cut? ['\n', '\n'] r).map fun (before, after) => (l ++ before, after) := by
  induction l with
  | nil => simp
  | cons c l ih =>
      simp only [List.mem_cons, not_or] at h
      have hc : ['\n', '\n'].isPrefixOf (c :: (l ++ r)) = false := by
        simp [List.isPrefixOf, h.1]
      rw [List.cons_append, cut?_cons_of_not hc, ih h.2]
      simp [Function.comp_def]

theorem cut?_lines {ls : List (List Char)} (hne : ls ≠ []) (h : ∀ l ∈ ls, l ≠ [] ∧ '\n' ∉ l)
    (tail : List Char) :
    cut? ['\n', '\n'] (['\n'].intercalate ls ++ '\n' :: '\n' :: tail) =
      some (['\n'].intercalate ls, tail) := by
  induction ls with
  | nil => exact absurd rfl hne
  | cons l ls ih =>
      simp only [List.mem_cons, forall_eq_or_imp] at h
      obtain ⟨⟨-, hl⟩, hls⟩ := h
      cases ls with
      | nil =>
          rw [List.intercalate_singleton, cut?_append hl]
          simp [cut?]
      | cons m ls =>
          -- the next line is not empty, so the line break before it is not the blank line
          obtain ⟨c, m', rfl⟩ := List.exists_cons_of_ne_nil (hls m (by simp)).1
          have hc : c ≠ '\n' := by
            rintro rfl
            exact (hls ('\n' :: m') (by simp)).2 (by simp)
          have hrest := ih (by simp) hls
          have hbreak : ['\n', '\n'].isPrefixOf ('\n' :: c :: (['\n'].intercalate (m' :: ls) ++
              '\n' :: '\n' :: tail)) = false := by
            simp [List.isPrefixOf, Ne.symm hc]
          rw [List.intercalate_cons_cons_left, List.cons_append] at hrest
          rw [List.intercalate_cons_cons, List.intercalate_cons_cons_left, List.append_assoc,
            List.append_assoc, cut?_append hl, List.singleton_append, List.cons_append,
            cut?_cons_of_not hbreak, hrest]
          simp

theorem takeWhile_separator {a : Char} {s : List Char} (h : a ∉ s) (r : List Char) :
    (s ++ a :: r).takeWhile (· != a) = s := by
  rw [List.takeWhile_append_of_pos, List.takeWhile_cons_of_neg (by simp), List.append_nil]
  intro c hc
  simp only [bne_iff_ne]
  rintro rfl
  exact h hc

theorem dropWhile_separator {a : Char} {s : List Char} (h : a ∉ s) (r : List Char) :
    (s ++ a :: r).dropWhile (· != a) = a :: r := by
  rw [List.dropWhile_append_of_pos, List.dropWhile_cons_of_neg (by simp)]
  intro c hc
  simp only [bne_iff_ne]
  rintro rfl
  exact h hc

theorem not_mem_takeWhile (a : Char) (s : List Char) : a ∉ s.takeWhile (· != a) := by
  intro h
  simpa using List.all_eq_true.mp List.all_takeWhile _ h

theorem takeWhile_eq_iff {a : Char} {s comp : List Char} :
    s.takeWhile (· != a) = comp ∧ comp.length < s.length ↔ a ∉ comp ∧ ∃ r, s = comp ++ a :: r := by
  constructor
  · rintro ⟨rfl, hlt⟩
    refine ⟨not_mem_takeWhile a s, ?_⟩
    have hs := List.takeWhile_append_dropWhile (p := (· != a)) (l := s)
    cases hd : s.dropWhile (· != a) with
    | nil =>
        rw [hd, List.append_nil] at hs
        exact absurd hlt (by rw [hs]; exact Nat.lt_irrefl _)
    | cons d r =>
        have hda : d = a := by
          have hhead := List.head?_dropWhile_not (· != a) s
          simpa [hd] using hhead
        rw [hd, hda] at hs
        exact ⟨r, hs.symm⟩
  · rintro ⟨ha, r, rfl⟩
    exact ⟨takeWhile_separator ha r, by simp⟩

theorem takeWhile_eq_iff_of_not_mem {a : Char} {s comp : List Char} (ha : a ∉ comp) :
    s.takeWhile (· != a) = comp ↔ s = comp ∨ ∃ r, s = comp ++ a :: r := by
  constructor
  · intro h
    by_cases hlt : comp.length < s.length
    · exact .inr (takeWhile_eq_iff.mp ⟨h, hlt⟩).2
    · have hpre : comp <+: s := h ▸ List.takeWhile_prefix _
      exact .inl (hpre.eq_of_length_le (Nat.not_lt.mp hlt)).symm
  · rintro (rfl | hr)
    · refine List.takeWhile_eq_self_iff.mpr fun c hc => ?_
      simp only [bne_iff_ne]
      rintro rfl
      exact ha hc
    · exact (takeWhile_eq_iff.mpr ⟨ha, hr⟩).1

theorem closed_component_iff {a : Char} {s : List Char} :
    (!(s.takeWhile (· != a)).isEmpty && (s.takeWhile (· != a)).length < s.length) = true ↔
      ∃ comp r, comp ≠ [] ∧ a ∉ comp ∧ s = comp ++ a :: r := by
  rw [Bool.and_eq_true, decide_eq_true_eq, Bool.not_eq_true', List.isEmpty_eq_false_iff]
  constructor
  · rintro ⟨hne, hlt⟩
    obtain ⟨hmem, r, hs⟩ := takeWhile_eq_iff.mp ⟨rfl, hlt⟩
    exact ⟨_, r, hne, hmem, hs⟩
  · rintro ⟨comp, r, hne, hmem, hs⟩
    obtain ⟨htake, hlt⟩ := takeWhile_eq_iff.mpr ⟨hmem, r, hs⟩
    rw [htake]
    exact ⟨hne, hlt⟩

theorem occurs_iff {pat s : List Char} : occurs pat s = true ↔ pat <:+: s := by
  induction s with
  | nil => simp [occurs]
  | cons c r ih => rw [occurs, Bool.or_eq_true, List.isPrefixOf_iff_prefix, ih, List.infix_cons_iff]

theorem removeFirst_append {pat : List Char} (h : pat ≠ []) (r : List Char) :
    removeFirst pat (pat ++ r) = r := by
  obtain ⟨c, pat, rfl⟩ := List.exists_cons_of_ne_nil h
  have hp : (c :: pat).isPrefixOf (c :: (pat ++ r)) = true :=
    List.isPrefixOf_iff_prefix.mpr (List.prefix_append _ _)
  rw [List.cons_append, removeFirst_of_isPrefixOf hp, ← List.cons_append, List.drop_left]

inductive WithoutFirst (pat : List Char) : List Char → List Char → Prop
  | absent {s : List Char} : ¬ pat <:+: s → WithoutFirst pat s s
  | found {u r : List Char} : (∀ v w, u ++ (pat ++ r) = v ++ (pat ++ w) → u.length ≤ v.length) →
      WithoutFirst pat (u ++ (pat ++ r)) (u ++ r)

theorem withoutFirst_removeFirst {pat : List Char} (h : pat ≠ []) (s : List Char) :
    WithoutFirst pat s (removeFirst pat s) := by
  induction s with
  | nil => exact .absent (by simpa using h)
  | cons c s ih =>
      rw [removeFirst]
      split
      next hp =>
        obtain ⟨r, hr⟩ := List.isPrefixOf_iff_prefix.mp hp
        rw [← hr, List.drop_left]
        exact WithoutFirst.found (u := []) fun _ _ _ => Nat.zero_le _
      next hp =>
        rw [List.isPrefixOf_iff_prefix] at hp
        generalize removeFirst pat s = t at ih
        cases ih with
        | absent hs => exact .absent (by rw [List.infix_cons_iff, not_or]; exact ⟨hp, hs⟩)
        | @found u r hfirst =>
            refine WithoutFirst.found (u := c :: u) (r := r) ?_
            rintro (_ | ⟨d, v⟩) w heq
            · exact absurd ⟨w, heq.symm⟩ hp
            · exact Nat.succ_le_succ (hfirst v w (List.cons.inj heq).2)

theorem prefix_of_prefix_append {a : Char} {w u y : List Char} (ha : a ∉ w)
    (h : w <+: u ++ a :: y) : w <+: u := by
  induction u generalizing w with
  | nil =>
      cases w with
      | nil => exact List.prefix_rfl
      | cons c w => exact absurd (List.cons_prefix_cons.mp h).1 (by rintro rfl; simp at ha)
  | cons b u ih =>
      cases w with
      | nil => exact List.nil_prefix
      | cons c w =>
          obtain ⟨rfl, hw⟩ := List.cons_prefix_cons.mp h
          exact List.cons_prefix_cons.mpr ⟨rfl, ih (fun hm => ha (by simp [hm])) hw⟩

theorem suffix_append_iff {a : Char} {w u y : List Char} (ha : a ∉ w) :
    w <:+ u ++ a :: y ↔ w <:+ y := by
  constructor
  · intro h
    have hrev := List.reverse_prefix.mpr h
    rw [List.reverse_append, List.reverse_cons, List.append_assoc, List.singleton_append] at hrev
    exact List.reverse_prefix.mp (prefix_of_prefix_append (by simpa using ha) hrev)
  · intro h
    exact h.trans ((List.suffix_cons a y).trans (List.suffix_append u _))

theorem infix_append_of_not_mem {a : Char} {w u y : List Char} (h : a ∉ u) :
    a :: w <:+: u ++ y ↔ a :: w <:+: y := by
  induction u with
  | nil => rfl
  | cons b u ih =>
      simp only [List.mem_cons, not_or] at h
      rw [List.cons_append, List.infix_cons_iff, ih h.2, List.cons_prefix_cons]
      exact or_iff_right fun hpre => h.1 hpre.1

/-- A text that begins with a word cannot begin before the word does, unless the word can. -/
theorem infix_append_iff {a : Char} {w p u y : List Char} (ha : a ∉ w) (hu : ¬ a :: w <:+: u) :
    a :: (w ++ p) <:+: u ++ a :: (w ++ y) ↔ a :: (w ++ p) <:+: a :: (w ++ y) := by
  induction u with
  | nil => rfl
  | cons b u ih =>
      rw [List.infix_cons_iff, not_or] at hu
      rw [List.cons_append, List.infix_cons_iff, ih hu.2]
      refine or_iff_right fun hpre => hu.1 ?_
      obtain ⟨rfl, hrest⟩ := List.cons_prefix_cons.mp hpre
      exact List.cons_prefix_cons.mpr
        ⟨rfl, prefix_of_prefix_append ha ((List.prefix_append w p).trans hrest)⟩

/-- A separated component that begins before the separator ends with it at the latest. -/
theorem closed_prefix {a : Char} {w u y : List Char} (ha : a ∉ w)
    (h : w ++ [a] <+: u ++ a :: y) : w ++ [a] <+: u ++ [a] := by
  induction u generalizing w with
  | nil =>
      cases w with
      | nil => exact List.prefix_rfl
      | cons c w => exact absurd (List.cons_prefix_cons.mp h).1 (by rintro rfl; simp at ha)
  | cons b u ih =>
      cases w with
      | nil =>
          obtain ⟨rfl, -⟩ := List.cons_prefix_cons.mp h
          exact List.cons_prefix_cons.mpr ⟨rfl, List.nil_prefix⟩
      | cons c w =>
          obtain ⟨rfl, hw⟩ := List.cons_prefix_cons.mp h
          exact List.cons_prefix_cons.mpr ⟨rfl, ih (fun hm => ha (by simp [hm])) hw⟩

theorem component_prefix {a : Char} {b comp x y : List Char} (hb : a ∉ b) (hc : a ∉ comp)
    (h : b ++ a :: x <+: comp ++ a :: y) : b = comp ∧ x <+: y := by
  induction b generalizing comp with
  | nil =>
      cases comp with
      | nil => exact ⟨rfl, (List.cons_prefix_cons.mp h).2⟩
      | cons c comp => exact absurd (List.cons_prefix_cons.mp h).1 (by rintro rfl; simp at hc)
  | cons c b ih =>
      cases comp with
      | nil => exact absurd (List.cons_prefix_cons.mp h).1 (by rintro rfl; simp at hb)
      | cons d comp =>
          obtain ⟨rfl, hrest⟩ := List.cons_prefix_cons.mp h
          simp only [List.mem_cons, not_or] at hb hc
          obtain ⟨rfl, hxy⟩ := ih hb.2 hc.2 hrest
          exact ⟨rfl, hxy⟩

theorem dropRightWhile_append {p : Char → Bool} {s : List Char} {c : Char} (h : p c = false) :
    dropRightWhile p (s ++ [c]) = s ++ [c] := by
  simp [dropRightWhile, h]

theorem dropRightWhile_concat {p : Char → Bool} {s : List Char} {c : Char} (h : p c = true) :
    dropRightWhile p (s ++ [c]) = dropRightWhile p s := by
  simp [dropRightWhile, h]

theorem prefix_dropRightWhile (p : Char → Bool) (s : List Char) : dropRightWhile p s <+: s := by
  have h := List.reverse_prefix.mpr (List.dropWhile_suffix p (l := s.reverse))
  rwa [List.reverse_reverse] at h

theorem takeWhile_spec (p : Char → Bool) (s : List Char) :
    s = s.takeWhile p ++ s.drop (s.takeWhile p).length ∧ ∀ c ∈ s.takeWhile p, p c = true :=
  ⟨(List.prefix_iff_eq_append.mp (List.takeWhile_prefix p)).symm,
    List.all_eq_true.mp List.all_takeWhile⟩

theorem cut?_eq_none {pat s : List Char} (h : ¬ pat <:+: s) : cut? pat s = none := by
  induction s with
  | nil =>
      cases pat with
      | nil => exact absurd List.infix_rfl h
      | cons p ps => rfl
  | cons c r ih =>
      rw [List.infix_cons_iff, not_or, ← List.isPrefixOf_iff_prefix, Bool.not_eq_true] at h
      rw [cut?_cons_of_not h.1, ih h.2]
      rfl

theorem splitOn_eq_cons (a : Char) (s : List Char) :
    ∃ ls, s.splitOn a = s.takeWhile (· != a) :: ls := by
  by_cases hlt : (s.takeWhile (· != a)).length < s.length
  · obtain ⟨hmem, r, hs⟩ := takeWhile_eq_iff.mp ⟨rfl, hlt⟩
    exact ⟨r.splitOn a, by
      conv_lhs => rw [hs]
      exact List.splitOn_append_cons_self_of_not_mem hmem r⟩
  · have hs := (List.takeWhile_prefix (· != a)).eq_of_length_le (Nat.not_lt.mp hlt)
    have hmem := not_mem_takeWhile a s
    rw [hs] at hmem ⊢
    exact ⟨[], List.splitOn_eq_singleton hmem⟩

theorem not_mem_of_mem_splitOn {a : Char} {s comp : List Char} (h : comp ∈ s.splitOn a) :
    a ∉ comp := by
  induction s generalizing comp with
  | nil =>
      rw [List.splitOn_nil, List.mem_singleton] at h
      simp [h]
  | cons c s ih =>
      rw [List.splitOn_cons_eq_if_modifyHead] at h
      split at h
      next =>
        rcases List.mem_cons.mp h with rfl | h
        · simp
        · exact ih h
      next hc =>
        obtain ⟨first, ls, hs⟩ := List.exists_cons_of_ne_nil (List.splitOn_ne_nil a s)
        rw [hs] at ih h
        rcases List.mem_cons.mp h with rfl | h
        · rw [List.mem_cons, not_or]
          exact ⟨fun he => hc (by simp [he]), ih (by simp)⟩
        · exact ih (List.mem_cons_of_mem _ h)

theorem cons_eq_flatMap_splitOn (a : Char) (s : List Char) :
    a :: s = (s.splitOn a).flatMap (a :: ·) := by
  induction s with
  | nil => simp
  | cons c s ih =>
      rw [List.splitOn_cons_eq_if_modifyHead]
      split
      next hc => rw [List.flatMap_cons, ← ih, eq_of_beq hc, List.singleton_append]
      next =>
        obtain ⟨first, ls, hs⟩ := List.exists_cons_of_ne_nil (List.splitOn_ne_nil a s)
        rw [hs, List.flatMap_cons, List.cons_append] at ih
        rw [hs, List.modifyHead_cons, List.flatMap_cons, (List.cons.inj ih).2]
        rfl

theorem prefix_intercalate {sep : List Char} {ls ms : List (List Char)} (h : ls <+: ms) :
    sep.intercalate ls <+: sep.intercalate ms := by
  induction ls generalizing ms with
  | nil => exact List.nil_prefix
  | cons l ls ih =>
      obtain ⟨ns, rfl⟩ := h
      cases ls with
      | nil =>
          cases ns with
          | nil => exact List.prefix_rfl
          | cons n ns =>
              simp only [List.cons_append, List.nil_append, List.intercalate_singleton,
                List.intercalate_cons_cons, List.append_assoc]
              exact List.prefix_append _ _
      | cons m ls =>
          have hrest := ih (List.prefix_append (m :: ls) ns)
          simp only [List.cons_append, List.intercalate_cons_cons] at hrest ⊢
          exact (List.prefix_append_right_inj _).mpr hrest

end AssetTranspiler.Text
