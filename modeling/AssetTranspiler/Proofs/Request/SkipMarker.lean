import AssetTranspiler.Proofs.Text.Search
import AssetTranspiler.Proofs.Transpiler

namespace AssetTranspiler

open Text

def lines (source : String) : List (List Char) :=
  source.toList.splitOn '\n'

variable {s : List Char} {source source' : String}

theorem newline_not_mem_skipMarker : '\n' ∉ skipMarker := by
  decide

theorem startsMarked_iff : startsMarked s = true ↔ skipMarker = s.takeWhile (· != '\n') := by
  rw [eq_comm (a := skipMarker), takeWhile_eq_iff_of_not_mem newline_not_mem_skipMarker,
    startsMarked]
  cases hp : skipMarker.isPrefixOf? s with
  | none =>
      have hs (r : List Char) : s ≠ skipMarker ++ r := by
        rintro rfl
        rw [isPrefixOf?_append] at hp
        cases hp
      have hend : s ≠ skipMarker := by simpa using hs []
      simp [hend, hs]
  | some rest =>
      obtain rfl := List.isPrefixOf?_eq_some_iff_append_eq.mp hp
      cases rest <;> simp

theorem findsMarker_iff {fresh : Bool} :
    findsMarker fresh s = true ↔
      fresh = true ∧ skipMarker = s.takeWhile (· != '\n') ∨
        skipMarker ∈ (s.splitOn '\n').tail := by
  induction s generalizing fresh with
  | nil =>
      have hne : skipMarker ≠ [] := by decide
      simp [findsMarker, hne]
  | cons c r ih =>
      obtain ⟨ls, hr⟩ := splitOn_eq_cons '\n' r
      rw [findsMarker, Bool.or_eq_true, Bool.and_eq_true, startsMarked_iff, ih, hr,
        List.splitOn_cons_eq_if_modifyHead, hr]
      cases hc : c == '\n' with
      | true => simp
      | false => simp

theorem skipsModule_iff : skipsModule source = true ↔ skipMarker ∈ lines source := by
  obtain ⟨ls, hs⟩ := splitOn_eq_cons '\n' source.toList
  rw [skipsModule, findsMarker_iff, lines, hs]
  simp

theorem lines_append (a b : String) : lines (a ++ "\n" ++ b) = lines a ++ lines b := by
  simp [lines, List.splitOn_append_cons_self]

theorem lines_of_not_mem (h : '\n' ∉ source.toList) : lines source = [source.toList] :=
  List.splitOn_eq_singleton h

theorem skipsModule_append (a b : String) :
    skipsModule (a ++ "\n" ++ b) = (skipsModule a || skipsModule b) := by
  rw [Bool.eq_iff_iff, Bool.or_eq_true, skipsModule_iff, skipsModule_iff, skipsModule_iff,
    lines_append, List.mem_append]

theorem skipsModule_congr (h : skipMarker ∈ lines source' ↔ skipMarker ∈ lines source) :
    skipsModule source' = skipsModule source := by
  rw [Bool.eq_iff_iff, skipsModule_iff, skipsModule_iff, h]

theorem buildRequest_congr (h : skipsModule source' = skipsModule source)
    (plugins : PluginRegistry) (appRoot : String) (rootPath logicalPath : Option String)
    (themeId : Value) :
    Transpiler.buildRequest plugins appRoot (.str source') rootPath logicalPath themeId =
      (Transpiler.buildRequest plugins appRoot (.str source) rootPath logicalPath themeId).map
        fun r => { r with source := source' } := by
  rw [Transpiler.buildRequest_str, Transpiler.buildRequest_str, h]
  cases Scalar.integer? themeId <;> rfl

/-- A source opts out line by line, and only by a line that is the marker; the option of a request
for it says so, whatever the other lines are and however they are ordered. -/
theorem skipModule_linewise :
    (∀ a b, skipsModule (a ++ "\n" ++ b) = (skipsModule a || skipsModule b)) ∧
      (∀ s : String, '\n' ∉ s.toList →
        (skipsModule s = true ↔ s = "// discourse-skip-module")) ∧
      (∀ plugins appRoot source rootPath logicalPath themeId,
        match Transpiler.buildRequest plugins appRoot (.str source) rootPath logicalPath
          themeId with
        | .ok r => ∃ options skips, r.options = .dict options ∧
            options.lookup "skipModule" = some (.bool skips) ∧
            (skips = true ↔ "// discourse-skip-module".toList ∈ lines source)
        | .error f => ∃ o, Scalar.integer? themeId = .error o ∧
            f = .refused [⟨[.field "theme_id"], o⟩]) ∧
      ∀ source source' inserted,
        (∀ l ∈ inserted, l ≠ "// discourse-skip-module".toList) →
        (lines source').Perm (inserted ++ lines source) →
        ∀ plugins appRoot rootPath logicalPath themeId,
          Transpiler.buildRequest plugins appRoot (.str source') rootPath logicalPath themeId =
            (Transpiler.buildRequest plugins appRoot (.str source) rootPath logicalPath
              themeId).map fun r => { r with source := source' } := by
  refine ⟨skipsModule_append, ?_, ?_, ?_⟩
  · intro s hs
    rw [skipsModule_iff, lines_of_not_mem hs, List.mem_singleton, eq_comm]
    exact String.toList_inj
  · intro plugins appRoot source rootPath logicalPath themeId
    rw [Transpiler.buildRequest_str]
    cases Scalar.integer? themeId with
    | ok theme => exact ⟨_, _, rfl, rfl, skipsModule_iff⟩
    | error o => exact ⟨o, rfl, rfl⟩
  · intro source source' inserted hinserted hperm
    have hnone : skipMarker ∉ inserted := fun hm => hinserted _ hm rfl
    exact buildRequest_congr (skipsModule_congr (by simp [hperm.mem_iff, hnone]))

theorem skipModule_linewise_edited :
    '\n' ∉ "// discourse-skip-module\r".toList ∧
      skipsModule "// discourse-skip-module\r" = false ∧
      (lines "b;\n\n// discourse-skip-module\na;").Perm
        ([[]] ++ lines "a;\n// discourse-skip-module\nb;") ∧
      Transpiler.buildRequest .empty "" (.str "b;\n\n// discourse-skip-module\na;") none none
          .null =
        .ok { source := "b;\n\n// discourse-skip-module\na;", skipModule := true } := by
  obtain ⟨-, hline, -, hedited⟩ := skipModule_linewise
  have hreturn : '\n' ∉ "// discourse-skip-module\r".toList := by decide
  have hperm : (lines "b;\n\n// discourse-skip-module\na;").Perm
      ([[]] ++ lines "a;\n// discourse-skip-module\nb;") := by
    decide +kernel
  refine ⟨hreturn, ?_, hperm, ?_⟩
  · rw [Bool.eq_false_iff, ne_eq, hline _ hreturn]
    decide
  · rw [hedited _ _ [[]] (by decide) hperm]
    rfl

end AssetTranspiler
