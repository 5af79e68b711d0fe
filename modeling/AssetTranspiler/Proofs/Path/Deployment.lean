import AssetTranspiler.Proofs.Path.Classifier

namespace AssetTranspiler.Path

open Text

variable {root root' rel : String} {r : PathRegistry} {s t : List Char}

theorem hasEs6Extension_below : hasEs6Extension (s ++ '/' :: t) = hasEs6Extension t := by
  rw [Bool.eq_iff_iff]
  simp only [hasEs6Extension, Bool.or_eq_true, List.isSuffixOf_iff_suffix]
  rw [suffix_append_iff (by decide), suffix_append_iff (by decide)]

theorem hasJsExtension_below : hasJsExtension (s ++ '/' :: t) = hasJsExtension t := by
  rw [Bool.eq_iff_iff, hasJsExtension_iff, hasJsExtension_iff]
  rw [suffix_append_iff (by decide), suffix_append_iff (by decide)]

theorem relativeChars_below (h : s ≠ []) :
    relativeChars s (s ++ '/' :: t) = relativeChars [] ('/' :: t) := by
  have hempty : s.isEmpty = false := List.isEmpty_eq_false_iff.mpr h
  simp only [relativeChars, hempty, removeFirst_append h]
  rfl

theorem isEmberCli_below (h : isEmberCli ("/" ++ rel) = true) :
    isEmberCli (root ++ "/" ++ rel) = true := by
  rw [isEmberCli_iff] at h ⊢
  rw [String.append_assoc, String.toList_append]
  exact h.trans (List.suffix_append _ _).isInfix

theorem shouldTranspile_below (h : root ≠ "") :
    shouldTranspile root r (root ++ "/" ++ rel) = true ↔
      isEmberCli (root ++ "/" ++ rel) = false ∧ shouldTranspile "" r ("/" ++ rel) = true := by
  have hroot : root.toList ≠ [] := by
    rwa [ne_eq, String.toList_eq_nil_iff]
  have hfile : (root ++ "/" ++ rel).toList = root.toList ++ '/' :: rel.toList := by
    rw [String.append_assoc, String.toList_append, String.toList_append]
    rfl
  have hbare : ("/" ++ rel).toList = '/' :: rel.toList := by
    rw [String.toList_append]
    rfl
  have hes6 : hasEs6Extension ('/' :: rel.toList) = hasEs6Extension rel.toList :=
    hasEs6Extension_below (s := [])
  have hjs : hasJsExtension ('/' :: rel.toList) = hasJsExtension rel.toList :=
    hasJsExtension_below (s := [])
  cases hmark : isEmberCli (root ++ "/" ++ rel) with
  | true => simp [shouldTranspile_of_isEmberCli hmark]
  | false =>
      -- the mark is not below the root either, so both decisions look at the extensions next
      have hunmarked : isEmberCli ("/" ++ rel) = false := by
        rw [Bool.eq_false_iff]
        intro hrel
        rw [isEmberCli_below hrel] at hmark
        cases hmark
      simp only [shouldTranspile, hmark, hunmarked, hfile, hbare, hasEs6Extension_below,
        hasJsExtension_below, hes6, hjs, relativeChars_below hroot]
      simp

structure IsPlaced (root rel : String) : Prop where
  nonempty : root ≠ ""
  unmarked : "/app/assets/javascripts/discourse/dist/".toList <:+: (root ++ "/" ++ rel).toList →
    "/app/assets/javascripts/discourse/dist/".toList <:+: ("/" ++ rel).toList

theorem isPlaced_iff :
    IsPlaced root rel ↔ root ≠ "" ∧
      (isEmberCli (root ++ "/" ++ rel) = true → isEmberCli ("/" ++ rel) = true) := by
  rw [isEmberCli_iff, isEmberCli_iff]
  exact ⟨fun h => ⟨h.nonempty, h.unmarked⟩, fun ⟨hn, hu⟩ => ⟨hn, hu⟩⟩

instance : Decidable (IsPlaced root rel) :=
  decidable_of_iff _ isPlaced_iff.symm

theorem IsPlaced.shouldTranspile_eq (h : IsPlaced root rel) (r : PathRegistry) :
    shouldTranspile root r (root ++ "/" ++ rel) = shouldTranspile "" r ("/" ++ rel) := by
  rw [Bool.eq_iff_iff, shouldTranspile_below h.nonempty]
  refine and_iff_right_of_imp ?_
  intro hselected
  rw [Bool.eq_false_iff]
  intro hmark
  rw [shouldTranspile_of_isEmberCli ((isPlaced_iff.mp h).2 hmark)] at hselected
  cases hselected

/-- Where an application is deployed does not matter to the classification of its files. -/
theorem shouldTranspile_placed (h : IsPlaced root rel) (r : PathRegistry) :
    shouldTranspile root r (root ++ "/" ++ rel) = shouldTranspile "" r ("/" ++ rel) ∧
      ∀ root', IsPlaced root' rel →
        shouldTranspile root r (root ++ "/" ++ rel) =
          shouldTranspile root' r (root' ++ "/" ++ rel) := by
  refine ⟨h.shouldTranspile_eq r, ?_⟩
  intro root' h'
  rw [h.shouldTranspile_eq, h'.shouldTranspile_eq]

theorem shouldTranspile_placed_twice :
    IsPlaced "app/" "/app//assets/javascripts/discourse/a.js" ∧
      IsPlaced "/srv/app/assets" "/app//assets/javascripts/discourse/a.js" ∧
      shouldTranspile "app/" ⟨["app//assets"]⟩ "app///app//assets/javascripts/discourse/a.js" =
        shouldTranspile "" ⟨["app//assets"]⟩ "//app//assets/javascripts/discourse/a.js" ∧
      shouldTranspile "app/" ⟨["app//assets"]⟩ "app///app//assets/javascripts/discourse/a.js" =
        shouldTranspile "/srv/app/assets" ⟨["app//assets"]⟩
          "/srv/app/assets//app//assets/javascripts/discourse/a.js" ∧
      shouldTranspile "" ⟨["app//assets"]⟩ "//app//assets/javascripts/discourse/a.js" = true := by
  have h : IsPlaced "app/" "/app//assets/javascripts/discourse/a.js" := by
    decide +kernel
  have h' : IsPlaced "/srv/app/assets" "/app//assets/javascripts/discourse/a.js" := by
    decide +kernel
  obtain ⟨hbare, hroots⟩ := shouldTranspile_placed h ⟨["app//assets"]⟩
  exact ⟨h, h', hbare, hroots _ h', by decide +kernel⟩

end AssetTranspiler.Path
