import AssetTranspiler.Proofs.Plugin.ModuleName
import AssetTranspiler.Proofs.Text.Search

namespace AssetTranspiler.ModuleName

open Text

variable {marker path s : List Char} {found : Option (List Char)} {c : Char}

def IsLastComponent (base path : List Char) : Prop :=
  ((path.splitOn '/').filter (· ≠ [])).getLast? = some base

instance (base path : List Char) : Decidable (IsLastComponent base path) :=
  inferInstanceAs (Decidable (_ = _))

theorem IsLastComponent.position {base : List Char} (h : IsLastComponent base path) :
    base ≠ [] ∧ '/' ∉ base ∧ ∃ outer slashes, '/' :: path = outer ++ '/' :: (base ++ slashes) ∧
      ∀ c ∈ slashes, c = '/' := by
  obtain ⟨front, hfilter⟩ := List.getLast?_eq_some_iff.mp h
  obtain ⟨ls, rest, hsplit, -, hrest⟩ := List.filter_eq_append_iff.mp hfilter
  obtain ⟨empty, more, rfl, -, hne, hmore⟩ := List.filter_eq_cons_iff.mp hrest
  have hmem : base ∈ path.splitOn '/' := by simp [hsplit]
  refine ⟨by simpa using hne, not_mem_of_mem_splitOn hmem,
    (ls ++ empty).flatMap ('/' :: ·), more.flatMap ('/' :: ·), ?_, ?_⟩
  · rw [cons_eq_flatMap_splitOn, hsplit]
    simp
  · intro c hc
    obtain ⟨l, hl, hcl⟩ := List.mem_flatMap.mp hc
    have hempty : l = [] := by simpa using List.filter_eq_nil_iff.mp hmore l hl
    simpa [hempty] using hcl

theorem baseName_cons_slash (path : List Char) : baseName ('/' :: path) = baseName path := by
  rw [baseName, baseName, List.reverse_cons, List.dropWhile_append]
  split
  next h => simp [List.isEmpty_iff.mp h]
  next h =>
    rw [List.takeWhile_append]
    split
    next hall => simp [(List.takeWhile_prefix _).eq_of_length hall]
    next => rfl

theorem baseName_append_slashes {slashes : List Char} (h : ∀ c ∈ slashes, c = '/') :
    baseName (path ++ slashes) = baseName path := by
  rw [baseName, baseName, List.reverse_append, List.dropWhile_append_of_pos]
  intro c hc
  simpa using h c (List.mem_reverse.mp hc)

structure Site (marker path : List Char) where
  outer : List Char
  component : List Char
  below : List Char
  component_ne : component ≠ []
  component_slash : '/' ∉ component
  path_eq : path = outer ++ (marker ++ (component ++ '/' :: below))

namespace Site

def directory (w : Site marker path) : List Char :=
  w.outer ++ (marker ++ w.component)

def IsInnermost (w : Site marker path) : Prop :=
  ∀ v : Site marker path, v.outer.length ≤ w.outer.length

def cons (c : Char) (w : Site marker path) : Site marker (c :: path) :=
  { w with
    outer := c :: w.outer
    path_eq := congrArg (c :: ·) w.path_eq }

theorem isEmpty_nil : IsEmpty (Site marker []) :=
  ⟨fun w => absurd w.path_eq (by simp)⟩

theorem cases_cons (w : Site marker (c :: path)) :
    w.outer = [] ∨ ∃ v : Site marker path, w = v.cons c := by
  obtain ⟨outer, component, below, hne, hslash, hpath⟩ := w
  cases outer with
  | nil => exact .inl rfl
  | cons d outer =>
      obtain ⟨rfl, hbelow⟩ := List.cons.inj hpath
      exact .inr ⟨⟨outer, component, below, hne, hslash, hbelow⟩, rfl⟩

theorem IsInnermost.cons {w : Site marker path} (h : w.IsInnermost) (c : Char) :
    (w.cons c).IsInnermost := by
  intro v
  rcases v.cases_cons with hv | ⟨v, rfl⟩
  · rw [hv]
    exact Nat.zero_le _
  · exact Nat.succ_le_succ (h v)

theorem isInnermost_of_isEmpty (h : IsEmpty (Site marker path)) (w : Site marker (c :: path)) :
    w.IsInnermost := by
  intro v
  rcases v.cases_cons with hv | ⟨v, rfl⟩
  · rw [hv]
    exact Nat.zero_le _
  · exact h.elim v

theorem IsInnermost.directory_eq {v w : Site marker path} (hv : v.IsInnermost)
    (hw : w.IsInnermost) : v.directory = w.directory := by
  have hpath := v.path_eq.symm.trans w.path_eq
  have hlength : v.outer.length = w.outer.length := Nat.le_antisymm (hw v) (hv w)
  obtain ⟨houter, hrest⟩ := List.append_inj hpath hlength
  have hbelow : v.component ++ '/' :: v.below <+: w.component ++ '/' :: w.below :=
    ⟨[], by rw [List.append_nil, List.append_cancel_left hrest]⟩
  obtain ⟨hcomponent, -⟩ := component_prefix v.component_slash w.component_slash hbelow
  rw [directory, directory, houter, hcomponent]

end Site

theorem directoryAt?_eq_some {d : List Char} (h : directoryAt? marker s = some d) :
    ∃ w : Site marker s, w.directory = d := by
  obtain ⟨below, hbelow, hd⟩ := Option.bind_eq_some_iff.mp h
  have hs := List.isPrefixOf?_eq_some_iff_append_eq.mp hbelow
  obtain ⟨hclosed, hd⟩ := Option.ite_none_right_eq_some.mp hd
  obtain ⟨component, r, hne, hslash, rfl⟩ := closed_component_iff.mp hclosed
  refine ⟨⟨[], component, r, hne, hslash, hs.symm⟩, ?_⟩
  rw [← Option.some.inj hd, takeWhile_separator hslash]
  rfl

inductive Finds (marker path : List Char) : Option (List Char) → Prop
  | found (w : Site marker path) : w.IsInnermost → Finds marker path (some w.directory)
  | absent : IsEmpty (Site marker path) → Finds marker path none

theorem Finds.eq_some (h : Finds marker path found) {w : Site marker path} (hw : w.IsInnermost) :
    found = some w.directory := by
  cases h with
  | found v hv => rw [hv.directory_eq hw]
  | absent hno => exact hno.elim w

theorem Finds.exists_innermost {d : List Char} (h : Finds marker path (some d)) :
    ∃ w : Site marker path, w.IsInnermost ∧ w.directory = d := by
  cases h with
  | found w hw => exact ⟨w, hw, rfl⟩

theorem lastOnLine?_finds (h : '\n' ∉ s) : Finds marker s (lastOnLine? marker s) := by
  induction s with
  | nil => exact .absent Site.isEmpty_nil
  | cons c s ih =>
      rw [List.mem_cons, not_or] at h
      rw [lastOnLine?, if_neg (Ne.symm h.1)]
      have hrest := ih h.2
      generalize lastOnLine? marker s = found at hrest
      cases hrest with
      | found w hw => exact .found (w.cons c) (hw.cons c)
      | absent hno =>
          -- a directory can only begin at the first character
          cases hat : directoryAt? marker (c :: s) with
          | some d =>
              obtain ⟨w, rfl⟩ := directoryAt?_eq_some hat
              exact .found w (Site.isInnermost_of_isEmpty hno w)
          | none =>
              refine .absent ⟨fun w => ?_⟩
              rcases w.cases_cons with hw | ⟨v, rfl⟩
              · have hsite := w.path_eq
                rw [hw, List.nil_append] at hsite
                rw [hsite, directoryAt?_append marker w.below w.component_ne w.component_slash] at hat
                exact absurd hat (by simp)
              · exact hno.elim v

theorem directory?_finds (h : '\n' ∉ s) : Finds marker s (directory? marker s) := by
  induction s with
  | nil => exact .absent Site.isEmpty_nil
  | cons c s ih =>
      have hline : Finds marker (c :: s) _ := lastOnLine?_finds h
      rw [directory?]
      cases hfound : lastOnLine? marker (c :: s) with
      | some d =>
          rw [hfound] at hline
          exact hline
      | none =>
          rw [hfound] at hline
          cases hline with
          | absent hno =>
              have hrest := ih fun hmem => h (List.mem_cons_of_mem _ hmem)
              generalize directory? marker s = found at hrest
              cases hrest with
              | found w _ => exact hno.elim (w.cons c)
              | absent _ => exact .absent hno

end AssetTranspiler.ModuleName
