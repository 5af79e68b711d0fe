import AssetTranspiler.Path.Logical
import AssetTranspiler.Proofs.Text.Search

namespace AssetTranspiler.Path

open Text

def extensions : List String :=
  [".js", ".js.erb", ".es6", ".es6.erb"]

theorem extension_cons {e : String} (h : e ∈ extensions) : ∃ r, e.toList = '.' :: r := by
  simp only [extensions, List.mem_cons, List.not_mem_nil, or_false] at h
  rcases h with rfl | rfl | rfl | rfl <;> exact ⟨_, rfl⟩

theorem withoutExtension_extension {e : String} (h : e ∈ extensions) :
    withoutExtension e.toList = [] := by
  simp only [extensions, List.mem_cons, List.not_mem_nil, or_false] at h
  rcases h with rfl | rfl | rfl | rfl <;> decide

theorem startsExtension_append {c : Char} {s r : List Char}
    (hjs : ¬ ".js".toList <+: c :: s) (hes : ¬ ".es6".toList <+: c :: s) :
    startsExtension (c :: s ++ '.' :: r) = false := by
  have hnot : ∀ p : List Char, '.' ∉ p → ¬ '.' :: p <+: c :: s →
      ('.' :: p).isPrefixOf (c :: s ++ '.' :: r) = false := by
    intro p hp h
    rw [Bool.eq_false_iff, Ne, List.isPrefixOf_iff_prefix, List.cons_append,
      List.cons_prefix_cons]
    rintro ⟨rfl, hpre⟩
    exact h (List.cons_prefix_cons.mpr ⟨rfl, prefix_of_prefix_append hp hpre⟩)
  have hj := hnot ['j', 's'] (by decide) hjs
  have he := hnot ['e', 's', '6'] (by decide) hes
  exact Bool.or_eq_false_iff.mpr ⟨hj, he⟩

theorem withoutExtension_append {s : List Char} {e : String} (he : e ∈ extensions)
    (hjs : ¬ ".js".toList <:+: s) (hes : ¬ ".es6".toList <:+: s) :
    withoutExtension (s ++ e.toList) = s := by
  induction s with
  | nil => exact withoutExtension_extension he
  | cons c s ih =>
      obtain ⟨r, hr⟩ := extension_cons he
      rw [List.infix_cons_iff, not_or] at hjs hes
      have h := startsExtension_append (r := r) hjs.1 hes.1
      rw [← hr, List.cons_append] at h
      rw [List.cons_append, withoutExtension, h, Bool.false_and, if_neg Bool.false_ne_true,
        ih hjs.2 hes.2]

theorem logicalChars_append {root path : List Char} {e : String} (hroot : root ≠ [])
    (he : e ∈ extensions) (hjs : ¬ ".js".toList <:+: path) (hes : ¬ ".es6".toList <:+: path) :
    logicalChars (root ++ '/' :: path ++ e.toList) root = path := by
  have hslash : ∀ p : List Char, p.head? = some '.' → ¬ p <:+: path → ¬ p <:+: '/' :: path := by
    intro p hp h
    rw [List.infix_cons_iff, not_or]
    refine ⟨?_, h⟩
    intro hpre
    cases p with
    | nil => simp at hp
    | cons c p =>
        rw [(List.cons_prefix_cons.mp hpre).1] at hp
        simp at hp
  have hcut := withoutExtension_append he (hslash _ rfl hjs) (hslash _ rfl hes)
  simp only [logicalChars, List.isEmpty_eq_false_iff.mpr hroot, Bool.false_eq_true, if_false,
    List.append_assoc, removeFirst_append hroot, hcut]

theorem isWord_of_isAlphanum {c : Char} (h : c.isAlphanum = true) : isWord c = true := by
  have hspans : alphanumericSpans =
      0x30 :: 0x3A :: 0x41 :: 0x5B :: 0x61 :: 0x7B :: alphanumericSpans.drop 6 := rfl
  have hranges : ((65 ≤ c.toNat ∧ c.toNat ≤ 90) ∨ (97 ≤ c.toNat ∧ c.toNat ≤ 122)) ∨
      (48 ≤ c.toNat ∧ c.toNat ≤ 57) := by
    delta Char.isAlphanum Char.isAlpha Char.isUpper Char.isLower Char.isDigit at h
    simp only [Bool.or_eq_true, Bool.and_eq_true, decide_eq_true_eq, UInt32.le_iff_toNat_le,
      ge_iff_le] at h
    exact h
  rw [isWord, isAlphanumeric, hspans, Bool.or_eq_true]
  right
  rcases hranges with (h | h) | h
  · rw [inSpans_of_le (by omega), inSpans_of_le (by omega), inSpans_of_le (by omega),
      inSpans_of_lt (by omega)]
    rfl
  · rw [inSpans_of_le (by omega), inSpans_of_le (by omega), inSpans_of_le (by omega),
      inSpans_of_le (by omega), inSpans_of_le (by omega), inSpans_of_lt (by omega)]
    rfl
  · rw [inSpans_of_le (by omega), inSpans_of_lt (by omega)]
    rfl

def isNameChar (c : Char) : Bool :=
  c.isAlphanum || c == '_' || c == '-'

theorem isWord_or_of_isNameChar {c : Char} (h : isNameChar c = true) :
    (isWord c || c == '-') = true := by
  simp only [isNameChar, Bool.or_eq_true, beq_iff_eq] at h ⊢
  rcases h with (h | rfl) | h
  · exact .inl (isWord_of_isAlphanum h)
  · exact .inl rfl
  · exact .inr h

theorem pluginAssetsAt?_name {name r : List Char} (hne : name ≠ [])
    (h : ∀ c ∈ name, isNameChar c = true) :
    pluginAssetsAt? ("/plugins/".toList ++ (name ++ "/assets".toList ++ r)) = some name := by
  have htake : (name ++ "/assets".toList ++ r).takeWhile (fun c => isWord c || c == '-') = name := by
    rw [List.append_assoc,
      List.takeWhile_append_of_pos fun c hc => isWord_or_of_isNameChar (h c hc)]
    have hslash : (isWord '/' || '/' == '-') = false := by decide +kernel
    show name ++ List.takeWhile _ ('/' :: ("assets".toList ++ r)) = name
    rw [List.takeWhile_cons_of_neg (by rw [hslash]; exact Bool.false_ne_true), List.append_nil]
  have hassets : "/assets".toList.isPrefixOf ("/assets".toList ++ r) = true :=
    List.isPrefixOf_iff_prefix.mpr (List.prefix_append _ _)
  rw [pluginAssetsAt?, isPrefixOf?_append, Option.bind_some]
  simp only [htake]
  rw [List.append_assoc, List.drop_left, hassets, List.isEmpty_eq_false_iff.mpr hne]
  rfl

theorem pluginAssetsAt?_outside {c : Char} {s y : List Char}
    (h : ¬ "/plugins/".toList <+: c :: s ++ ['/']) :
    pluginAssetsAt? (c :: s ++ '/' :: y) = none := by
  have hnot : ¬ "/plugins/".toList <+: c :: s ++ '/' :: y := by
    intro hpre
    obtain ⟨rfl, hrest⟩ := List.cons_prefix_cons.mp hpre
    have hclosed := closed_prefix (w := "plugins".toList) (by decide) hrest
    exact h (List.cons_prefix_cons.mpr ⟨rfl, hclosed⟩)
  rw [pluginAssetsAt?, isPrefixOf?_eq_none hnot, Option.bind_none]

theorem pluginAssets?_append {outer y : List Char}
    (h : ¬ "/plugins/".toList <:+: outer ++ ['/']) :
    pluginAssets? (outer ++ '/' :: y) = pluginAssets? ('/' :: y) := by
  induction outer with
  | nil => rfl
  | cons c outer ih =>
      rw [List.cons_append, List.infix_cons_iff, not_or] at h
      have hat := pluginAssetsAt?_outside (y := y) h.1
      rw [List.cons_append] at hat ⊢
      rw [pluginAssets?, hat, Option.none_or, ih h.2]

end AssetTranspiler.Path
