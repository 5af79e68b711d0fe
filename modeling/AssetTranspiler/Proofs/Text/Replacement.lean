import AssetTranspiler.Proofs.Text.Search

namespace AssetTranspiler.Text

variable {pat new p q r s w : List Char} {a c : Char} {front : List (List Char)} {last : List Char}

theorem replaceFrom_append (u s : List Char) :
    replaceFrom pat new u.length (u ++ s) = replaceFrom pat new 0 s := by
  induction u with
  | nil => rfl
  | cons c u ih => exact ih

@[simp] theorem replaceAll_nil : replaceAll pat new [] = [] := rfl

theorem replaceAll_append_self (h : pat ≠ []) (new s : List Char) :
    replaceAll pat new (pat ++ s) = new ++ replaceAll pat new s := by
  obtain ⟨c, u, rfl⟩ := List.exists_cons_of_ne_nil h
  have hp : (c :: u).isPrefixOf (c :: (u ++ s)) = true :=
    List.isPrefixOf_iff_prefix.mpr (List.prefix_append _ _)
  rw [List.cons_append, replaceAll, replaceFrom, if_pos hp, List.length_cons, Nat.add_sub_cancel,
    replaceFrom_append, replaceAll]

theorem replaceAll_cons (h : ¬ pat <+: c :: s) :
    replaceAll pat new (c :: s) = c :: replaceAll pat new s := by
  rw [replaceAll, replaceFrom, if_neg (by rwa [List.isPrefixOf_iff_prefix]), replaceAll]

theorem replaceAll_append (h : ∀ t, t ≠ [] → t <:+ s → ¬ pat <+: t ++ r) :
    replaceAll pat new (s ++ r) = s ++ replaceAll pat new r := by
  induction s with
  | nil => rfl
  | cons c s ih =>
      have hhere := h (c :: s) (by simp) List.suffix_rfl
      rw [List.cons_append] at hhere ⊢
      rw [replaceAll_cons hhere, ih fun t ht hs => h t ht (hs.trans (List.suffix_cons c s))]
      rfl

theorem replaceAll_of_not_mem (ha : a ∈ pat) (hs : a ∉ s) : replaceAll pat new s = s := by
  have hpass : replaceAll pat new (s ++ []) = s ++ replaceAll pat new [] := by
    refine replaceAll_append ?_
    intro t _ ht hpre
    rw [List.append_nil] at hpre
    exact hs (ht.subset (hpre.subset ha))
  rwa [List.append_nil, replaceAll_nil, List.append_nil] at hpass

theorem replaceAll_component (ha : a ∉ p) (hp : p ≠ []) (hs : a ∉ s) (h : p <:+ s → ¬ q <+: r) :
    replaceAll (p ++ a :: q) new (s ++ a :: r) =
      s ++ a :: replaceAll (p ++ a :: q) new r := by
  rw [replaceAll_append, replaceAll_cons]
  · intro hpre
    obtain ⟨d, p, rfl⟩ := List.exists_cons_of_ne_nil hp
    obtain ⟨rfl, -⟩ := List.cons_prefix_cons.mp hpre
    exact ha (by simp)
  · intro t _ ht hpre
    obtain ⟨rfl, hq⟩ := component_prefix ha (fun hm => hs (ht.subset hm)) hpre
    exact h ht hq

theorem intercalate_cons_append (a : Char) (s : List Char) {m : List (List Char)} (h : m ≠ []) :
    [a].intercalate (s :: m) = s ++ a :: [a].intercalate m := by
  rw [List.intercalate_cons_of_ne_nil h, List.append_assoc, List.singleton_append]

/-- Removing a component and its separator wherever a component ends with it: all components but the
last one go that are equal to it. -/
theorem replaceAll_closed (ha : a ∉ w) (hw : w ≠ [])
    (hfront : ∀ s ∈ front, a ∉ s ∧ (s ≠ w → ¬ w <:+ s)) (hlast : a ∉ last) :
    replaceAll (w ++ [a]) [] ([a].intercalate (front ++ [last])) =
      [a].intercalate (front.filter (· ≠ w) ++ [last]) := by
  induction front with
  | nil =>
      rw [List.filter_nil, List.nil_append, List.intercalate_singleton,
        replaceAll_of_not_mem (a := a) (by simp) hlast]
  | cons s front ih =>
      obtain ⟨hs, hend⟩ := hfront s (by simp)
      have hrest := ih fun t ht => hfront t (List.mem_cons_of_mem _ ht)
      rw [List.cons_append, intercalate_cons_append a s (by simp)]
      by_cases hsw : s = w
      · subst hsw
        have hself := replaceAll_append_self (List.append_ne_nil_of_right_ne_nil s
          (List.cons_ne_nil a [])) [] ([a].intercalate (front ++ [last]))
        rw [List.append_assoc, List.singleton_append] at hself
        rw [hself, hrest, List.nil_append, List.filter_cons_of_neg (by simp)]
      · rw [replaceAll_component ha hw hs fun h => absurd h (hend hsw), hrest,
          List.filter_cons_of_pos (by simpa using hsw), List.cons_append,
          intercalate_cons_append a s (by simp)]

/-- Where `q` can only be the last component, the pattern that ends with it can only stand at the end
of the text. -/
theorem replaceAll_last (hap : a ∉ p) (hp : p ≠ []) (hfront : ∀ s ∈ front, a ∉ s ∧ ¬ q <+: s)
    (haq : a ∉ q) (hlast : a ∉ last) (hq : q <+: last → last = q) :
    replaceAll (p ++ a :: q) p ([a].intercalate (front ++ [last])) =
      if last = q ∧ ∃ s ∈ front.getLast?, p <:+ s then [a].intercalate front
      else [a].intercalate (front ++ [last]) := by
  induction front with
  | nil =>
      have hmem : a ∈ p ++ a :: q := by simp
      simp [replaceAll_of_not_mem hmem hlast]
  | cons s front ih =>
      obtain ⟨hs, -⟩ := hfront s (by simp)
      have hrest := ih fun t ht => hfront t (List.mem_cons_of_mem _ ht)
      cases front with
      | nil =>
          rw [List.cons_append, List.nil_append, intercalate_cons_append a s (by simp),
            List.intercalate_singleton, List.intercalate_singleton]
          simp only [List.getLast?_singleton, Option.mem_some_iff, exists_eq_left']
          split
          next h =>
            obtain ⟨rfl, u, rfl⟩ := h
            -- no occurrence begins before the one at the end, as it would end with it
            have hpass : ∀ t, t ≠ [] → t <:+ u → ¬ p ++ a :: last <+: t ++ (p ++ a :: last) := by
              intro t ht hu hpre
              rw [← List.append_assoc] at hpre
              have htp : a ∉ t ++ p := by
                rw [List.mem_append, not_or]
                exact ⟨fun hm => hs (List.mem_append_left _ (hu.subset hm)), hap⟩
              obtain ⟨heq, -⟩ := component_prefix hap htp hpre
              have hlength := congrArg List.length heq
              rw [List.length_append] at hlength
              exact ht (List.length_eq_zero_iff.mp (by omega))
            have hend := replaceAll_append_self (List.append_ne_nil_of_left_ne_nil hp (a :: last))
              p []
            rw [List.append_nil, replaceAll_nil, List.append_nil] at hend
            rw [List.append_assoc, replaceAll_append hpass, hend]
          next h =>
            rw [replaceAll_component hap hp hs fun hps hpre => h ⟨hq hpre, hps⟩,
              replaceAll_of_not_mem (a := a) (by simp) hlast]
      | cons t front =>
          obtain ⟨-, ht⟩ := hfront t (by simp)
          have hnot : ¬ q <+: [a].intercalate (t :: front ++ [last]) := by
            rw [List.cons_append, intercalate_cons_append a t (by simp)]
            exact fun hpre => ht (prefix_of_prefix_append haq hpre)
          rw [List.cons_append, intercalate_cons_append a s (by simp),
            replaceAll_component hap hp hs fun _ => hnot, hrest, List.getLast?_cons_cons,
            intercalate_cons_append a s (List.cons_ne_nil t front)]
          split <;> rfl

end AssetTranspiler.Text
