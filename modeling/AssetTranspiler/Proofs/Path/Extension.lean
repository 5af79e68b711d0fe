import AssetTranspiler.Proofs.Path.Logical
import Mathlib.Data.List.TakeWhile

namespace AssetTranspiler.Path

open Text

variable {s t u front dir base : List Char} {c : Char}

def extensionMarks : List (List Char) :=
  [".js".toList, ".es6".toList]

theorem startsExtension_iff : startsExtension s = true ↔ ∃ m ∈ extensionMarks, m <+: s := by
  simp only [startsExtension, Bool.or_eq_true, List.isPrefixOf_iff_prefix, extensionMarks,
    List.mem_cons, List.not_mem_nil, or_false, exists_eq_or_imp, exists_eq_left]

theorem extensionMarks_cons {m : List Char} (h : m ∈ extensionMarks) :
    (∃ r, m = '.' :: r) ∧ '/' ∉ m := by
  simp only [extensionMarks, List.mem_cons, List.not_mem_nil, or_false] at h
  rcases h with rfl | rfl
  · exact ⟨⟨_, rfl⟩, by decide⟩
  · exact ⟨⟨_, rfl⟩, by decide⟩

def IsDotted (s : List Char) : Prop :=
  ∃ m ∈ extensionMarks, m <:+: s

theorem isDotted_cons : IsDotted (c :: s) ↔ startsExtension (c :: s) = true ∨ IsDotted s := by
  simp only [IsDotted, startsExtension_iff, List.infix_cons_iff, and_or_left, exists_or]

theorem isDotted_iff : IsDotted s ↔ ".js".toList <:+: s ∨ ".es6".toList <:+: s := by
  simp only [IsDotted, extensionMarks, List.mem_cons, List.not_mem_nil, or_false,
    exists_eq_or_imp, exists_eq_left]

instance : Decidable (IsDotted s) :=
  decidable_of_iff _ isDotted_iff.symm

theorem startsExtension_of_append (h : startsExtension (s ++ '/' :: t) = true) :
    startsExtension s = true := by
  obtain ⟨m, hm, hpre⟩ := startsExtension_iff.mp h
  exact startsExtension_iff.mpr ⟨m, hm, prefix_of_prefix_append (extensionMarks_cons hm).2 hpre⟩

theorem isDotted_append : IsDotted (s ++ '/' :: t) ↔ IsDotted s ∨ IsDotted t := by
  induction s with
  | nil =>
      have hslash : startsExtension ('/' :: t) = false := rfl
      have hnil : ¬ IsDotted [] := by
        rw [isDotted_iff]
        decide
      rw [List.nil_append, isDotted_cons, hslash]
      simp [hnil]
  | cons c s ih =>
      rw [List.cons_append, isDotted_cons, isDotted_cons, ih, or_assoc, ← List.cons_append]
      refine or_congr ⟨startsExtension_of_append, ?_⟩ Iff.rfl
      intro h
      obtain ⟨m, hm, hpre⟩ := startsExtension_iff.mp h
      exact startsExtension_iff.mpr ⟨m, hm, hpre.trans (List.prefix_append _ _)⟩

inductive IsStem : List Char → List Char → Prop
  | here {s : List Char} : startsExtension s = true → IsStem [] s
  | later {c : Char} {front s : List Char} :
      startsExtension (c :: s) = false → IsStem front s → IsStem (c :: front) (c :: s)

theorem exists_stem (h : IsDotted s) : ∃ front, IsStem front s := by
  induction s with
  | nil =>
      rw [isDotted_iff] at h
      exact absurd h (by decide)
  | cons c s ih =>
      cases hc : startsExtension (c :: s) with
      | true => exact ⟨[], .here hc⟩
      | false =>
          obtain ⟨front, hfront⟩ := ih ((isDotted_cons.mp h).resolve_left (by simp [hc]))
          exact ⟨c :: front, .later hc hfront⟩

theorem IsStem.length_le (h : IsStem front s) : front.length ≤ s.length := by
  induction h with
  | here _ => exact Nat.zero_le _
  | later _ _ ih => exact Nat.succ_le_succ ih

theorem isLastLine_append (h : '\n' ∉ u) : isLastLine (u ++ s) = isLastLine s := by
  have hdrop : (u ++ s).dropWhile (· != '\n') = s.dropWhile (· != '\n') := by
    apply List.dropWhile_append_of_pos
    intro d hd
    simp only [bne_iff_ne]
    rintro rfl
    exact h hd
  rw [isLastLine, isLastLine, hdrop]

theorem isLastLine_of_not_mem (h : '\n' ∉ s) : isLastLine s = true := by
  rw [← List.append_nil s, isLastLine_append h]
  rfl

theorem isLastLine_extended {e : List Char} (he : e ≠ []) (h : '\n' ∈ s) :
    isLastLine (s ++ e) = false := by
  obtain ⟨u, v, rfl, hu⟩ := List.eq_append_cons_of_mem h
  obtain ⟨d, w, hw⟩ := List.exists_cons_of_ne_nil (l := v ++ e) (by simp [he])
  rw [List.append_assoc, isLastLine_append hu, List.cons_append, hw]
  rfl

theorem withoutExtension_slash (s : List Char) :
    withoutExtension ('/' :: s) = '/' :: withoutExtension s := by
  have hslash : startsExtension ('/' :: s) = false := rfl
  rw [withoutExtension, hslash, Bool.false_and, if_neg Bool.false_ne_true]

theorem withoutExtension_stem (h : IsStem front dir) (hd : '\n' ∉ dir) (ht : '\n' ∉ t) :
    withoutExtension (dir ++ '/' :: t) = front := by
  have hline : ∀ {u : List Char}, '\n' ∉ u → '\n' ∉ u ++ '/' :: t := by
    intro u hu hmem
    rcases List.mem_append.mp hmem with hmem | hmem
    · exact hu hmem
    · exact ht ((List.mem_cons.mp hmem).resolve_left (by decide))
  induction h with
  | @here s hs =>
      obtain ⟨m, hm, hpre⟩ := startsExtension_iff.mp hs
      obtain ⟨⟨r, rfl⟩, -⟩ := extensionMarks_cons hm
      obtain ⟨w, rfl⟩ := hpre
      have hstart : startsExtension ('.' :: r ++ w ++ '/' :: t) = true :=
        startsExtension_iff.mpr ⟨_, hm, by simp [List.append_assoc]⟩
      have hlast := isLastLine_of_not_mem (hline hd)
      have hdrop : ('.' :: r ++ w ++ '/' :: t).dropWhile (· != '\n') = [] := by
        rw [List.dropWhile_eq_nil_iff]
        intro d hmem
        simp only [bne_iff_ne]
        rintro rfl
        exact hline hd hmem
      simp only [List.cons_append] at hstart hlast hdrop ⊢
      rw [withoutExtension, hstart, hlast, Bool.and_self, if_pos rfl, hdrop]
  | @later c front s hc _ ih =>
      have hstart : startsExtension (c :: s ++ '/' :: t) = false :=
        Bool.eq_false_iff.mpr fun h => by simp [startsExtension_of_append h] at hc
      rw [List.cons_append] at hstart ⊢
      rw [withoutExtension, hstart, Bool.false_and, if_neg Bool.false_ne_true,
        ih fun hmem => hd (List.mem_cons_of_mem _ hmem)]

theorem withoutExtension_line (hu : '\n' ∉ u) (hs : isLastLine s = false) :
    withoutExtension (u ++ s) = u ++ withoutExtension s := by
  induction u with
  | nil => rfl
  | cons c u ih =>
      have hlast := isLastLine_append (s := s) hu
      rw [hs, List.cons_append] at hlast
      rw [List.mem_cons, not_or] at hu
      rw [List.cons_append, withoutExtension, hlast, Bool.and_false, if_neg Bool.false_ne_true,
        ih hu.2]
      rfl

structure ScriptFile where
  root : String
  directory : String
  base : String
  extension : String
  root_ne : root ≠ ""
  directory_line : '\n' ∉ directory.toList
  base_plain : ¬ IsDotted base.toList
  extension_mem : extension ∈ extensions

namespace ScriptFile

def path (f : ScriptFile) : String :=
  f.directory ++ "/" ++ f.base

def filename (f : ScriptFile) : String :=
  f.root ++ "/" ++ f.path ++ f.extension

def IsUncut (f : ScriptFile) : Prop :=
  IsDotted f.directory.toList → '\n' ∈ f.base.toList

theorem logical_eq (f : ScriptFile) :
    (logical f.filename f.root).toList =
      withoutExtension (f.directory.toList ++ '/' :: (f.base.toList ++ f.extension.toList)) := by
  have hne : f.root.toList ≠ [] := by
    simpa using f.root_ne
  have hfile : f.filename.toList = f.root.toList ++
      '/' :: (f.directory.toList ++ '/' :: (f.base.toList ++ f.extension.toList)) := by
    simp [filename, path]
  rw [logical, String.toList_ofList, hfile, logicalChars, List.isEmpty_eq_false_iff.mpr hne,
    if_neg Bool.false_ne_true, removeFirst_append hne, withoutExtension_slash]
  rfl

theorem base_append (f : ScriptFile) :
    withoutExtension (f.base.toList ++ f.extension.toList) = f.base.toList := by
  have hplain := f.base_plain
  rw [isDotted_iff, not_or] at hplain
  exact withoutExtension_append f.extension_mem hplain.1 hplain.2

theorem newline_extension (f : ScriptFile) : '\n' ∉ f.extension.toList := by
  have h := f.extension_mem
  simp only [extensions, List.mem_cons, List.not_mem_nil, or_false] at h
  rcases h with h | h | h | h <;> rw [h] <;> decide

theorem logical_of_isUncut {f : ScriptFile} (h : f.IsUncut) :
    logical f.filename f.root = f.path := by
  rw [← String.toList_inj, logical_eq]
  have hpath : f.path.toList = f.directory.toList ++ '/' :: f.base.toList := by
    simp [path]
  rw [hpath]
  by_cases hb : '\n' ∈ f.base.toList
  · -- the directories end before the last line
    obtain ⟨r, hr⟩ := extension_cons f.extension_mem
    have hlast := isLastLine_extended (e := f.extension.toList) (by simp [hr]) hb
    have hline : '\n' ∉ f.directory.toList ++ ['/'] := by
      simpa using f.directory_line
    have hcut := withoutExtension_line hline hlast
    simpa [f.base_append] using hcut
  · have hplain : ¬ IsDotted (f.directory.toList ++ '/' :: f.base.toList) := by
      rw [isDotted_append, not_or]
      exact ⟨fun hd => hb (h hd), f.base_plain⟩
    rw [isDotted_iff, not_or] at hplain
    have hcut := withoutExtension_append f.extension_mem hplain.1 hplain.2
    simpa using hcut

theorem logical_of_stem {f : ScriptFile} {front : List Char}
    (h : IsStem front f.directory.toList) (hb : '\n' ∉ f.base.toList) :
    logical f.filename f.root = String.ofList front := by
  have ht : '\n' ∉ f.base.toList ++ f.extension.toList := by
    rw [List.mem_append, not_or]
    exact ⟨hb, f.newline_extension⟩
  rw [← String.toList_inj, logical_eq, withoutExtension_stem h f.directory_line ht,
    String.toList_ofList]

theorem isUncut_of_logical {f : ScriptFile} (h : logical f.filename f.root = f.path) :
    f.IsUncut := by
  intro hd
  by_contra hb
  obtain ⟨front, hfront⟩ := exists_stem hd
  rw [logical_of_stem hfront hb, ← String.toList_inj, String.toList_ofList] at h
  -- the first extension lies in a directory, so the result is too short
  have hlength := congrArg List.length h
  have hle := hfront.length_le
  simp only [path, String.toList_append, List.length_append] at hlength
  have hslash : "/".toList.length = 1 := rfl
  omega

/-- The logical path of a script is that of its file without the extension exactly when no directory
on the file's last line has the extension of a script; otherwise the path ends there. Files of which
it is, and that have the same extension, have different logical paths. -/
theorem logical_filename (f : ScriptFile) :
    (logical f.filename f.root = f.path ↔ f.IsUncut) ∧
      (¬ f.IsUncut → ∃ front, IsStem front f.directory.toList ∧
        logical f.filename f.root = String.ofList front) ∧
      (f.IsUncut → ∀ g : ScriptFile, g.IsUncut → g.root = f.root → g.extension = f.extension →
        logical g.filename g.root = logical f.filename f.root → g.filename = f.filename) := by
  refine ⟨⟨isUncut_of_logical, logical_of_isUncut⟩, ?_, ?_⟩
  · intro h
    obtain ⟨hd, hb⟩ := Classical.not_imp.mp h
    obtain ⟨front, hfront⟩ := exists_stem hd
    exact ⟨front, hfront, logical_of_stem hfront hb⟩
  · intro hf g hg hroot hext h
    rw [logical_of_isUncut hf, logical_of_isUncut hg] at h
    rw [filename, filename, hroot, hext, h]

instance (f : ScriptFile) : Decidable f.IsUncut :=
  inferInstanceAs (Decidable (_ → _))

def bars : ScriptFile where
  root := "/srv/js"
  directory := "lib/chart.js"
  base := "bars"
  extension := ".js"
  root_ne := by decide
  directory_line := by decide
  base_plain := by decide +kernel
  extension_mem := by decide

def pies : ScriptFile :=
  { bars with base := "pies", base_plain := by decide +kernel }

/-- A script with an extension that begins in a directory's name and ends in the file's. -/
def lines : ScriptFile where
  root := "/srv/js"
  directory := "lib/chart.j"
  base := "s.lines"
  extension := ".js.erb"
  root_ne := by decide
  directory_line := by decide
  base_plain := by decide +kernel
  extension_mem := by decide

/-- The same script, whose directory counts as a part of its name. -/
def nestedLines : ScriptFile :=
  { lines with
    directory := "lib"
    base := "chart.j/s.lines"
    directory_line := by decide
    base_plain := by decide +kernel }

theorem logical_filename_lines :
    logical lines.filename lines.root = "lib/chart.j/s.lines" ∧
      (∃ front, IsStem front "lib/chart.js".toList ∧
        logical bars.filename bars.root = String.ofList front) ∧
      lines.filename = "/srv/js/lib/chart.j/s.lines.js.erb" := by
  have hlines : lines.IsUncut := by decide +kernel
  have hbars : ¬ bars.IsUncut := by decide +kernel
  have hnested : nestedLines.IsUncut := by decide +kernel
  refine ⟨(logical_filename lines).1.mpr hlines, (logical_filename bars).2.1 hbars, ?_⟩
  exact (logical_filename nestedLines).2.2 hnested lines hlines rfl rfl (by decide +kernel)

theorem logical_bars_eq_pies :
    bars.filename ≠ pies.filename ∧
      logical bars.filename bars.root = logical pies.filename pies.root ∧
      logical bars.filename bars.root ≠ bars.path := by
  decide +kernel

end ScriptFile
end AssetTranspiler.Path
