import AssetTranspiler.Plugin.ModuleName
import AssetTranspiler.Proofs.Text.Replacement

namespace AssetTranspiler.ModuleName

open Text

variable {components front : List String} {last : String}

/-- A component that neither looks like a directory to take away nor is one in part. -/
structure IsComponent (s : String) : Prop where
  slash : '/' ∉ s.toList
  ending : s ≠ "app" → s ≠ "addon" → ¬ "app".toList <:+ s.toList ∧ ¬ "addon".toList <:+ s.toList
  beginning : s ≠ "addon" → ¬ "addon".toList <+: s.toList

instance (s : String) : Decidable (IsComponent s) :=
  decidable_of_iff
    ('/' ∉ s.toList ∧
      (s ≠ "app" → s ≠ "addon" → ¬ "app".toList <:+ s.toList ∧ ¬ "addon".toList <:+ s.toList) ∧
      (s ≠ "addon" → ¬ "addon".toList <+: s.toList))
    ⟨fun ⟨hs, he, hb⟩ => ⟨hs, he, hb⟩, fun h => ⟨h.slash, h.ending, h.beginning⟩⟩

theorem IsComponent.not_app {s : String} (h : IsComponent s) (hs : s ≠ "app") :
    ¬ "app".toList <:+ s.toList := by
  by_cases ha : s = "addon"
  · subst ha
    decide
  · exact (h.ending hs ha).1

theorem IsComponent.not_addon {s : String} (h : IsComponent s) (hs : s ≠ "addon") :
    ¬ "addon".toList <:+ s.toList := by
  by_cases ha : s = "app"
  · subst ha
    decide
  · exact (h.ending ha hs).2

def withoutRoots (components : List String) : List String :=
  components.dropLast.filter (fun s => s ≠ "app" && s ≠ "addon") ++ components.getLast?.toList

def IsAdminAddon (components : List String) : Prop :=
  components.getLast? = some "addon" ∧
    ∃ s ∈ components.dropLast.getLast?, "admin".toList <:+ s.toList

instance : Decidable (IsAdminAddon components) :=
  inferInstanceAs (Decidable (_ ∧ _))

/-- What a path's module is named after: its components without the directories app and addon, and
without the name of an addon that is an admin directory's. -/
def nameComponents (components : List String) : List String :=
  let kept := withoutRoots components
  if IsAdminAddon kept then kept.dropLast else kept

theorem withoutRoots_concat (front : List String) (last : String) :
    withoutRoots (front ++ [last]) =
      front.filter (fun s => s ≠ "app" && s ≠ "addon") ++ [last] := by
  simp [withoutRoots]

theorem isAdminAddon_concat :
    IsAdminAddon (front ++ [last]) ↔
      last = "addon" ∧ ∃ s ∈ front.getLast?, "admin".toList <:+ s.toList := by
  simp [IsAdminAddon]

theorem nameComponents_concat :
    nameComponents (front ++ [last]) =
      if IsAdminAddon (front.filter (fun s => s ≠ "app" && s ≠ "addon") ++ [last]) then
        front.filter (fun s => s ≠ "app" && s ≠ "addon")
      else front.filter (fun s => s ≠ "app" && s ≠ "addon") ++ [last] := by
  rw [nameComponents, withoutRoots_concat]
  split <;> simp

theorem filter_toList :
    ((front.map String.toList).filter (· ≠ "app".toList)).filter (· ≠ "addon".toList) =
      (front.filter fun s => s ≠ "app" && s ≠ "addon").map String.toList := by
  rw [List.filter_filter, List.filter_map]
  congr 1
  apply List.filter_congr
  intro s _
  simp only [Function.comp_apply, ne_eq, String.toList_inj, decide_not, Bool.and_comm]

theorem emberCliChars_components (h : ∀ s ∈ front ++ [last], IsComponent s) :
    emberCliChars (['/'].intercalate ((front ++ [last]).map String.toList)) =
      ['/'].intercalate ((nameComponents (front ++ [last])).map String.toList) := by
  have hlast := h last (by simp)
  have hfront : ∀ s ∈ front, IsComponent s := fun s hs => h s (List.mem_append_left _ hs)
  have happ : ∀ s ∈ front.map String.toList,
      '/' ∉ s ∧ (s ≠ "app".toList → ¬ "app".toList <:+ s) := by
    simp only [List.forall_mem_map, ne_eq, String.toList_inj]
    exact fun s hs => ⟨(hfront s hs).slash, (hfront s hs).not_app⟩
  have haddon : ∀ s ∈ (front.map String.toList).filter (· ≠ "app".toList),
      '/' ∉ s ∧ (s ≠ "addon".toList → ¬ "addon".toList <:+ s) := by
    intro s hs
    obtain ⟨s, hmem, rfl⟩ := List.mem_map.mp (List.mem_filter.mp hs).1
    rw [ne_eq, String.toList_inj]
    exact ⟨(hfront s hmem).slash, (hfront s hmem).not_addon⟩
  have hkept : ∀ s ∈ (front.filter fun s => s ≠ "app" && s ≠ "addon").map String.toList,
      '/' ∉ s ∧ ¬ "addon".toList <+: s := by
    simp only [List.forall_mem_map, List.mem_filter, Bool.and_eq_true, decide_eq_true_eq]
    exact fun s hs => ⟨(hfront s hs.1).slash, (hfront s hs.1).beginning hs.2.2⟩
  have hend : "addon".toList <+: last.toList → last.toList = "addon".toList := by
    intro hpre
    by_contra hne
    exact hlast.beginning (fun h => hne (h ▸ rfl)) hpre
  -- after the first two replacements only the last component can be an addon
  have hfirst := replaceAll_closed (w := "app".toList) (by decide) (by decide) happ hlast.slash
  have hsecond := replaceAll_closed (w := "addon".toList) (by decide) (by decide) haddon hlast.slash
  have hthird := replaceAll_last (p := "admin".toList) (by decide) (by decide) hkept (by decide)
    hlast.slash hend
  rw [filter_toList] at hsecond
  rw [List.map_append, List.map_singleton]
  show replaceAll ("admin".toList ++ '/' :: "addon".toList) "admin".toList
    (replaceAll ("addon".toList ++ ['/']) [] (replaceAll ("app".toList ++ ['/']) [] _)) = _
  rw [hfirst, hsecond, hthird, nameComponents_concat]
  simp only [isAdminAddon_concat, List.getLast?_map, String.toList_inj, Option.mem_def,
    Option.map_eq_some_iff, exists_exists_and_eq_and]
  split <;> simp

theorem exists_concat (h : components ≠ []) : ∃ front last, components = front ++ [last] :=
  ⟨_, _, (List.dropLast_append_getLast h).symm⟩

theorem mem_of_nameComponents {s : String} (hs : s ∈ nameComponents (front ++ [last])) :
    s ∈ front ++ [last] := by
  have hfront : ∀ t ∈ front.filter (fun s => s ≠ "app" && s ≠ "addon"), t ∈ front := fun t ht =>
    (List.mem_filter.mp ht).1
  rw [nameComponents_concat] at hs
  rw [List.mem_append]
  split at hs
  · exact .inl (hfront s hs)
  · exact (List.mem_append.mp hs).imp_left (hfront s)

theorem nameComponents_spec (front : List String) (last : String) :
    ∃ init final, nameComponents (front ++ [last]) = init ++ [final] ∧
      init.filter (fun s => s ≠ "app" && s ≠ "addon") = init ∧
      ¬ IsAdminAddon (init ++ [final]) := by
  rw [nameComponents_concat]
  have hall : ∀ s ∈ front.filter (fun s => s ≠ "app" && s ≠ "addon"),
      (s ≠ "app" && s ≠ "addon") = true := fun s hs => (List.mem_filter.mp hs).2
  split
  next h =>
    -- the component before the addon is there, and it is none itself
    obtain ⟨-, s, hs, -⟩ := isAdminAddon_concat.mp h
    obtain ⟨init, hinit⟩ := List.getLast?_eq_some_iff.mp hs
    rw [hinit] at hall ⊢
    refine ⟨init, s, rfl, ?_, ?_⟩
    · exact List.filter_eq_self.mpr fun t ht => hall t (List.mem_append_left _ ht)
    · rw [isAdminAddon_concat]
      rintro ⟨rfl, -⟩
      exact absurd (hall "addon" (by simp)) (by decide)
  next h => exact ⟨_, last, rfl, List.filter_eq_self.mpr hall, h⟩

theorem nameComponents_idem (front : List String) (last : String) :
    nameComponents (nameComponents (front ++ [last])) = nameComponents (front ++ [last]) := by
  obtain ⟨init, final, hname, hinit, hlast⟩ := nameComponents_spec front last
  rw [hname, nameComponents_concat, hinit, if_neg hlast]

theorem emberCli_intercalate (hne : components ≠ []) (h : ∀ s ∈ components, IsComponent s) :
    emberCli ("/".intercalate components) = "/".intercalate (nameComponents components) := by
  obtain ⟨front, last, rfl⟩ := exists_concat hne
  rw [← String.toList_inj, emberCli, String.toList_ofList, String.toList_intercalate,
    String.toList_intercalate]
  exact emberCliChars_components h

/-- The name of a core module is its path without the directories app and addon, and naming a name
changes nothing. -/
theorem emberCli_components (hne : components ≠ []) (h : ∀ s ∈ components, IsComponent s) :
    emberCli ("/".intercalate components) = "/".intercalate (nameComponents components) ∧
      emberCli (emberCli ("/".intercalate components)) =
        emberCli ("/".intercalate components) := by
  refine ⟨emberCli_intercalate hne h, ?_⟩
  obtain ⟨front, last, rfl⟩ := exists_concat hne
  obtain ⟨init, final, hname, -, -⟩ := nameComponents_spec front last
  have hne' : nameComponents (front ++ [last]) ≠ [] := by
    simp [hname]
  have h' : ∀ s ∈ nameComponents (front ++ [last]), IsComponent s := fun s hs =>
    h s (mem_of_nameComponents hs)
  rw [emberCli_intercalate hne h, emberCli_intercalate hne' h', nameComponents_idem]

theorem emberCli_superadmin :
    (∀ s ∈ ["app", "", "appendix", "superadmin", "app", "addon"], IsComponent s) ∧
      emberCli "app//appendix/superadmin/app/addon" = "/appendix/superadmin" := by
  have h : ∀ s ∈ ["app", "", "appendix", "superadmin", "app", "addon"], IsComponent s := by
    decide +kernel
  have hname := (emberCli_components (by simp) h).1
  have hpath : "/".intercalate ["app", "", "appendix", "superadmin", "app", "addon"] =
      "app//appendix/superadmin/app/addon" := by
    decide +kernel
  have hkept : "/".intercalate
      (nameComponents ["app", "", "appendix", "superadmin", "app", "addon"]) =
      "/appendix/superadmin" := by
    decide +kernel
  rw [hpath, hkept] at hname
  exact ⟨h, hname⟩

end AssetTranspiler.ModuleName
