import AssetTranspiler.Plugin.ModuleName
import AssetTranspiler.Proofs.Text.Search

namespace AssetTranspiler.ModuleName

open Text

variable {marker outer r d : List Char} {c : Char}

theorem baseName_append {base : List Char} (hne : base ≠ []) (h : '/' ∉ base) :
    baseName (outer ++ '/' :: base) = base := by
  have hlast : (base.getLast hne == '/') = false := by
    simp only [beq_eq_false_iff_ne]
    intro he
    exact h (he ▸ List.getLast_mem hne)
  have hreverse : (outer ++ '/' :: base).reverse = base.reverse ++ '/' :: outer.reverse := by simp
  have hdrop : (base.reverse ++ '/' :: outer.reverse).dropWhile (· == '/') =
      base.reverse ++ '/' :: outer.reverse := by
    rw [← List.dropLast_append_getLast hne, List.reverse_append]
    exact List.dropWhile_cons_of_neg (by rw [hlast]; exact Bool.false_ne_true)
  rw [baseName, hreverse, hdrop, takeWhile_separator (by simpa using h), List.reverse_reverse]

theorem directoryAt?_append (marker r : List Char) {comp : List Char} (hne : comp ≠ [])
    (h : '/' ∉ comp) :
    directoryAt? marker (marker ++ (comp ++ '/' :: r)) = some (marker ++ comp) := by
  have hlt : comp.length < (comp ++ '/' :: r).length := by simp
  have hempty : comp.isEmpty = false := List.isEmpty_eq_false_iff.mpr hne
  simp only [directoryAt?, isPrefixOf?_append, Option.bind_some, takeWhile_separator h, hempty,
    Bool.not_false, Bool.true_and, decide_eq_true hlt, if_true]

theorem directoryAt?_eq_none (h : ¬ marker <+: r) : directoryAt? marker r = none := by
  rw [directoryAt?, isPrefixOf?_eq_none h, Option.bind_none]

theorem lastOnLine?_cons (hl : lastOnLine? marker r = none) (hc : c ≠ '\n') :
    lastOnLine? marker (c :: r) = directoryAt? marker (c :: r) := by
  rw [lastOnLine?, if_neg hc, hl]

theorem lastOnLine?_append (h : lastOnLine? marker r = some d) (hn : '\n' ∉ outer) :
    lastOnLine? marker (outer ++ r) = some (outer ++ d) := by
  induction outer with
  | nil => exact h
  | cons c outer ih =>
      simp only [List.mem_cons, not_or] at hn
      rw [List.cons_append, lastOnLine?, if_neg (Ne.symm hn.1), ih hn.2]
      rfl

theorem lastOnLine?_component (hm : marker.head? = some '/') (comp : List Char) (hs : '/' ∉ comp)
    (hn : '\n' ∉ comp) (h : lastOnLine? marker r = none) :
    lastOnLine? marker (comp ++ r) = none := by
  induction comp with
  | nil => exact h
  | cons c comp ih =>
      simp only [List.mem_cons, not_or] at hs hn
      rw [List.cons_append, lastOnLine?_cons (ih hs.2 hn.2) (Ne.symm hn.1)]
      apply directoryAt?_eq_none
      intro hpre
      cases marker with
      | nil => simp at hm
      | cons m marker =>
          obtain rfl : m = '/' := by simpa using hm
          exact hs.1 (List.cons_prefix_cons.mp hpre).1

theorem lastOnLine?_slash (hl : lastOnLine? marker r = none) (hd : ¬ marker <+: '/' :: r) :
    lastOnLine? marker ('/' :: r) = none := by
  rw [lastOnLine?_cons hl (by decide), directoryAt?_eq_none hd]

theorem directory?_of_lastOnLine? (h : lastOnLine? marker r = some d) :
    directory? marker r = some d := by
  cases r with
  | nil => simp [lastOnLine?] at h
  | cons c r => rw [directory?, h, Option.some_or]

theorem directory?_assets {base dir : List Char} (hb : base ≠ []) (hbs : '/' ∉ base)
    (hbn : '\n' ∉ base) (hbp : base ≠ "plugins".toList) (hd : dir ≠ []) (hds : '/' ∉ dir)
    (hdn : '\n' ∉ dir) (hon : '\n' ∉ outer) :
    directory? (pluginsMarker (outer ++ '/' :: base))
      (outer ++ ('/' :: base ++ "/plugins/".toList) ++ (dir ++ "/assets/javascripts".toList)) =
      some (outer ++ ('/' :: base ++ "/plugins/".toList) ++ dir) := by
  rw [pluginsMarker, baseName_append hb hbs]
  have hhead : ('/' :: base ++ "/plugins/".toList).head? = some '/' := rfl
  -- a directory at a slash needs the component after it to be the base, and "plugins/" to follow
  have hother : ∀ comp y : List Char, '/' ∉ comp → (base = comp → ¬ "plugins/".toList <+: y) →
      ¬ '/' :: base ++ "/plugins/".toList <+: '/' :: (comp ++ '/' :: y) := by
    intro comp y hcomp hy hpre
    obtain ⟨hbase, hrest⟩ := component_prefix hbs hcomp (List.cons_prefix_cons.mp hpre).2
    exact hy hbase hrest
  have hscripts : lastOnLine? ('/' :: base ++ "/plugins/".toList) "/javascripts".toList = none := by
    refine lastOnLine?_slash (lastOnLine?_component hhead "javascripts".toList
      (by decide) (by decide) rfl) ?_
    intro hpre
    have hmem : '/' ∈ "javascripts".toList :=
      (List.cons_prefix_cons.mp hpre).2.subset (by simp)
    exact absurd hmem (by decide)
  have hassets : lastOnLine? ('/' :: base ++ "/plugins/".toList)
      "/assets/javascripts".toList = none :=
    lastOnLine?_slash (lastOnLine?_component hhead "assets".toList (by decide)
      (by decide) hscripts) (hother "assets".toList "javascripts".toList (by decide)
      fun _ => by decide)
  have hdir : lastOnLine? ('/' :: base ++ "/plugins/".toList)
      ('/' :: (dir ++ "/assets/javascripts".toList)) = none :=
    lastOnLine?_slash (lastOnLine?_component hhead dir hds hdn hassets)
      (hother dir "assets/javascripts".toList hds fun _ => by decide)
  have hplugins : lastOnLine? ('/' :: base ++ "/plugins/".toList)
      ("/plugins/".toList ++ (dir ++ "/assets/javascripts".toList)) = none :=
    lastOnLine?_slash (lastOnLine?_component hhead "plugins".toList (by decide)
      (by decide) hdir) (hother "plugins".toList _ (by decide) fun h => absurd h hbp)
  have hfound : lastOnLine? ('/' :: base ++ "/plugins/".toList)
      ('/' :: (base ++ ("/plugins/".toList ++ (dir ++ "/assets/javascripts".toList)))) =
      some ('/' :: base ++ "/plugins/".toList ++ dir) := by
    have hat := directoryAt?_append ('/' :: base ++ "/plugins/".toList)
      "assets/javascripts".toList hd hds
    rw [lastOnLine?_cons (lastOnLine?_component hhead base hbs hbn hplugins) (by decide), ← hat]
    simp
  have hline := directory?_of_lastOnLine? (lastOnLine?_append hfound hon)
  simp only [List.append_assoc, List.cons_append] at hline ⊢
  exact hline

end AssetTranspiler.ModuleName
