import AssetTranspiler.Path.Classifier
import AssetTranspiler.Proofs.Path.Registry
import AssetTranspiler.Proofs.Text.Search

namespace AssetTranspiler.Path

open Text

variable {root filename : String} {r r' : PathRegistry} {p : String} {top path : List Char}

theorem isEmberCli_iff :
    isEmberCli filename = true ↔
      "/app/assets/javascripts/discourse/dist/".toList <:+: filename.toList :=
  occurs_iff

theorem isNestedIn_iff :
    isNestedIn top path = true ↔
      ∃ directory below, directory ≠ [] ∧ '/' ∉ directory ∧
        path = top ++ ['/'] ++ (directory ++ '/' :: below) := by
  rw [isNestedIn]
  split
  next h =>
    refine ⟨fun h => absurd h Bool.false_ne_true, ?_⟩
    rintro ⟨directory, below, -, -, rfl⟩
    rw [isPrefixOf?_append] at h
    cases h
  next s h =>
    obtain rfl := List.isPrefixOf?_eq_some_iff_append_eq.mp h
    simp only [List.append_cancel_left_eq]
    exact closed_component_iff

theorem isExcluded_iff :
    isExcluded path = true ↔
      "app/assets/javascripts/locales/".toList <+: path ∨
        "app/assets/javascripts/plugins/".toList <+: path := by
  have hlocales : scriptRoot ++ "/locales/".toList = "app/assets/javascripts/locales/".toList := rfl
  have hplugins : scriptRoot ++ "/plugins/".toList = "app/assets/javascripts/plugins/".toList := rfl
  simp only [isExcluded, Bool.or_eq_true, List.isPrefixOf_iff_prefix, hlocales, hplugins]

def IsOwnScript (path : List Char) : Prop :=
  (∃ name ∈ bootstrapScripts,
      path = "app/assets/javascripts/".toList ++ name.toList ++ ".js".toList) ∨
    ∃ top ∈ ["app/assets/javascripts/".toList, "test/javascripts/".toList],
      ∃ directory below, directory ≠ [] ∧ '/' ∉ directory ∧
        path = top ++ (directory ++ '/' :: below)

theorem isOwnScript_iff :
    IsOwnScript path ↔
      isBootstrap path = true ∨ isNestedIn scriptRoot path = true ∨
        isNestedIn testRoot path = true := by
  have hscripts : scriptRoot ++ ['/'] = "app/assets/javascripts/".toList := rfl
  have htests : testRoot ++ ['/'] = "test/javascripts/".toList := rfl
  have hboot : isBootstrap path = true ↔ ∃ name ∈ bootstrapScripts,
      path = "app/assets/javascripts/".toList ++ name.toList ++ ".js".toList := by
    rw [isBootstrap, List.any_eq_true]
    refine exists_congr fun name => and_congr_right fun _ => ?_
    rw [beq_iff_eq, ← hscripts, List.append_assoc, List.append_assoc, List.append_assoc]
    rfl
  rw [IsOwnScript, hboot, isNestedIn_iff, isNestedIn_iff, hscripts, htests]
  simp only [List.mem_cons, List.not_mem_nil, or_false, exists_eq_or_imp, exists_eq_left]

instance : Decidable (IsOwnScript path) :=
  decidable_of_iff _ isOwnScript_iff.symm

theorem selectsScript_iff :
    selectsScript r path = true ↔
      isExcluded path = false ∧ (IsOwnScript path ∨ ∃ p ∈ r.prefixes, p.toList <+: path) := by
  rw [selectsScript, isOwnScript_iff]
  split
  next h => simp [h]
  next h =>
    simp only [Bool.or_eq_true, List.any_eq_true, List.isPrefixOf_iff_prefix,
      Bool.eq_false_iff.mpr h, true_and]
    rw [or_assoc, or_right_comm]

theorem hasJsExtension_iff {s : List Char} :
    hasJsExtension s = true ↔ ".js".toList <:+ s ∨ ".js.erb".toList <:+ s := by
  simp only [hasJsExtension, Bool.or_eq_true, List.isSuffixOf_iff_suffix]

theorem hasEs6Extension_of_js {s : List Char} (h : hasJsExtension s = true) :
    hasEs6Extension s = false := by
  rw [hasJsExtension_iff] at h
  rw [Bool.eq_false_iff]
  intro hes
  rw [hasEs6Extension, Bool.or_eq_true, List.isSuffixOf_iff_suffix, List.isSuffixOf_iff_suffix] at hes
  rcases h with h | h <;> rcases hes with hes | hes <;>
    rcases List.suffix_or_suffix_of_suffix h hes with h | h <;> revert h <;> decide

structure IsCandidate (root filename : String) : Prop where
  source : ¬ "/app/assets/javascripts/discourse/dist/".toList <:+: filename.toList
  script : ".js".toList <:+ filename.toList ∨ ".js.erb".toList <:+ filename.toList
  locales : ¬ "app/assets/javascripts/locales/".toList <+: (relative root filename).toList
  plugins : ¬ "app/assets/javascripts/plugins/".toList <+: (relative root filename).toList

theorem isCandidate_iff :
    IsCandidate root filename ↔
      isEmberCli filename = false ∧ hasJsExtension filename.toList = true ∧
        isExcluded (relative root filename).toList = false := by
  rw [Bool.eq_false_iff, Bool.eq_false_iff, ne_eq, ne_eq, isEmberCli_iff, hasJsExtension_iff,
    isExcluded_iff, not_or]
  exact ⟨fun h => ⟨h.source, h.script, h.locales, h.plugins⟩, fun ⟨hs, he, hl, hp⟩ => ⟨hs, he, hl, hp⟩⟩

instance : Decidable (IsCandidate root filename) :=
  decidable_of_iff _ isCandidate_iff.symm

theorem shouldTranspile_iff :
    shouldTranspile root r filename = true ↔
      isEmberCli filename = false ∧ hasEs6Extension filename.toList = true ∨
        IsCandidate root filename ∧
          (IsOwnScript (relative root filename).toList ∨
            ∃ p ∈ r.prefixes, p.toList <+: (relative root filename).toList) := by
  have hrelative : (relative root filename).toList = relativeChars root.toList filename.toList :=
    String.toList_ofList
  rw [isCandidate_iff, hrelative, shouldTranspile]
  cases hember : isEmberCli filename with
  | true => simp
  | false =>
      cases hes : hasEs6Extension filename.toList with
      | true => simp
      | false =>
          cases hjs : hasJsExtension filename.toList with
          | true => simp [selectsScript_iff]
          | false => simp

theorem shouldTranspile_congr (h : ∀ p, r.contains p = r'.contains p) :
    shouldTranspile root r filename = shouldTranspile root r' filename := by
  have hmem : ∀ p, p ∈ r.prefixes ↔ p ∈ r'.prefixes := fun p => by
    rw [← PathRegistry.contains_iff, h, PathRegistry.contains_iff]
  rw [Bool.eq_iff_iff, shouldTranspile_iff, shouldTranspile_iff]
  simp only [hmem]

theorem shouldTranspile_register :
    shouldTranspile root (r.register p) filename = true ↔
      shouldTranspile root r filename = true ∨
        IsCandidate root filename ∧ p.toList <+: (relative root filename).toList := by
  have hmem : (∃ q ∈ (r.register p).prefixes, q.toList <+: (relative root filename).toList) ↔
      (∃ q ∈ r.prefixes, q.toList <+: (relative root filename).toList) ∨
        p.toList <+: (relative root filename).toList := by
    simp only [PathRegistry.mem_register, or_and_right, exists_or, exists_eq_left]
  rw [shouldTranspile_iff, shouldTranspile_iff, hmem, ← or_assoc, and_or_left, ← or_assoc]

theorem shouldTranspile_alone (hr : r.size = 0) (h : IsCandidate root filename) :
    shouldTranspile root r filename = true ↔ IsOwnScript (relative root filename).toList := by
  have hnil : r.prefixes = [] := List.length_eq_zero_iff.mp hr
  have hes : hasEs6Extension filename.toList = false :=
    hasEs6Extension_of_js (isCandidate_iff.mp h).2.1
  simp [shouldTranspile_iff, hnil, hes, h]

open PathRegistry

theorem registration_effect (initial : List String) (as : List Action) :
    (Journal.run initial as).registry.size = (initial ++ registered as).dedup.length ∧
      (∀ p, (Journal.run initial as).registry.contains p = true ↔
        p ∈ initial ∨ p ∈ registered as) ∧
      (∀ later p, (Journal.run initial as).registry.contains p = true →
        (Journal.run initial (as ++ later)).registry.contains p = true) ∧
      (∃ s, (∀ p, p ∈ s ↔ p ∈ initial ∨ p ∈ registered as) ∧
        ∀ later,
          (Journal.run initial (as ++ .snapshot :: later)).taken[snapshots as]? = some s) ∧
      ∀ root filename,
        (∀ initial' as',
          (∀ p, p ∈ initial' ∨ p ∈ registered as' ↔ p ∈ initial ∨ p ∈ registered as) →
          shouldTranspile root (Journal.run initial' as').registry filename =
            shouldTranspile root (Journal.run initial as).registry filename) ∧
        (∀ p, shouldTranspile root (Journal.run initial as).registry filename = true →
          shouldTranspile root (Journal.run initial (as ++ [.register p])).registry filename =
            true) ∧
        (∀ p, shouldTranspile root (Journal.run initial as).registry filename = false →
          (shouldTranspile root (Journal.run initial (as ++ [.register p])).registry filename =
              true ↔
            IsCandidate root filename ∧ p.toList <+: (relative root filename).toList)) ∧
        (initial = [] → registered as = [] → IsCandidate root filename →
          (shouldTranspile root (Journal.run initial as).registry filename = true ↔
            IsOwnScript (relative root filename).toList)) := by
  have hcontains (initial : List String) (as : List Action) (p : String) :
      (Journal.run initial as).registry.contains p = true ↔ p ∈ initial ∨ p ∈ registered as := by
    rw [contains_iff, Journal.mem_run]
  have hregister (p : String) : (Journal.run initial (as ++ [.register p])).registry =
      (Journal.run initial as).registry.register p := by
    rw [Journal.run_append]
    rfl
  refine ⟨Journal.size_run initial as, hcontains initial as, ?_, ?_, ?_⟩
  · intro later p h
    rw [hcontains, registered_append, List.mem_append, ← or_assoc]
    exact .inl ((hcontains initial as p).mp h)
  · refine ⟨_, fun p => ?_, Journal.taken_run initial as⟩
    rw [Journal.mem_sorted, Journal.mem_run]
  · intro root filename
    refine ⟨?_, ?_, ?_, ?_⟩
    · intro initial' as' h
      refine shouldTranspile_congr fun p => ?_
      rw [Bool.eq_iff_iff, hcontains, hcontains, h]
    · intro p h
      rw [hregister, shouldTranspile_register]
      exact .inl h
    · intro p h
      rw [hregister, shouldTranspile_register, h]
      simp
    · rintro rfl hnone h
      refine shouldTranspile_alone ?_ h
      rw [Journal.size_run, hnone]
      rfl

theorem registration_effect_chat :
    shouldTranspile "/srv/app" (Journal.run ["plugins/poll/"] []).registry
        "/srv/app/plugins/chat/a.js.erb" = false ∧
      shouldTranspile "/srv/app" (Journal.run ["plugins/poll/"] [.register "plugins/chat"]).registry
        "/srv/app/plugins/chat/a.js.erb" = true ∧
      (∃ s, (∀ p, p ∈ s ↔ p = "plugins/poll/") ∧
        (Journal.run ["plugins/poll/"] [.snapshot, .register "plugins/chat"]).taken[0]? = some s) ∧
      shouldTranspile "/srv/app" (Journal.run [] []).registry
        "/srv/app/test/javascripts/helpers/qunit.js" = true := by
  have hfalse : shouldTranspile "/srv/app" (Journal.run ["plugins/poll/"] []).registry
      "/srv/app/plugins/chat/a.js.erb" = false := by
    decide +kernel
  have hchat : IsCandidate "/srv/app" "/srv/app/plugins/chat/a.js.erb" ∧
      "plugins/chat".toList <+: (relative "/srv/app" "/srv/app/plugins/chat/a.js.erb").toList := by
    decide +kernel
  have hqunit : IsCandidate "/srv/app" "/srv/app/test/javascripts/helpers/qunit.js" ∧
      IsOwnScript (relative "/srv/app" "/srv/app/test/javascripts/helpers/qunit.js").toList := by
    decide +kernel
  obtain ⟨-, -, -, ⟨s, hs, htaken⟩, heffect⟩ := registration_effect ["plugins/poll/"] []
  obtain ⟨-, -, -, -, halone⟩ := registration_effect [] []
  refine ⟨hfalse, ((heffect _ _).2.2.1 "plugins/chat" hfalse).mpr hchat, ⟨s, ?_, htaken _⟩, ?_⟩
  · simpa [registered] using hs
  · exact ((halone _ _).2.2.2 rfl rfl hqunit.1).mpr hqunit.2

end AssetTranspiler.Path
