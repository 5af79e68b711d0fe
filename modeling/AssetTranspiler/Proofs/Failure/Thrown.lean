import AssetTranspiler.Failure.Report
import AssetTranspiler.Proofs.Text.Search
import Mathlib.Data.Bool.AllAny

namespace AssetTranspiler.Report

open Text

structure Location where
  file : List Char
  number : List Char
  file_ne : file ≠ []
  file_plain : ∀ c ∈ file, isBlank c = false ∧ c ≠ ':'
  number_ne : number ≠ []
  number_digits : ∀ c ∈ number, isDigit c = true

namespace Location

variable (p : Location)

def text : List Char :=
  p.file ++ ':' :: p.number ++ [':', ' ']

theorem newline_not_mem : '\n' ∉ p.text := by
  intro h
  simp only [text, List.mem_append, List.mem_cons, List.not_mem_nil, or_false] at h
  rcases h with (h | h | h) | h | h
  · exact absurd (p.file_plain _ h).1 (by decide)
  · cases h
  · exact absurd (p.number_digits _ h) (by decide)
  · cases h
  · cases h

end Location

/-- What may follow a value: nothing, a line break, or a frame of the stack and then anything. -/
inductive Trail : List Char → Prop
  | nothing : Trail []
  | line : Trail ['\n']
  | frame {space : List Char} (rest : List Char) : space ≠ [] →
      (∀ c ∈ space, isBlank c = true ∧ c ≠ '\n') →
      Trail ('\n' :: (space ++ 'a' :: 't' :: ' ' :: rest))

/-- A value over any number of lines, none of which looks like a frame, without white space at its
end. -/
structure IsValue (value : List Char) : Prop where
  last : ∃ s c, value = s ++ [c] ∧ isBlank c = false
  lines : ∀ l ∈ value.splitOn '\n', ∀ space rest, space ≠ [] → (∀ c ∈ space, isBlank c = true) →
    l ≠ space ++ 'a' :: 't' :: ' ' :: rest

/-- A report in full: the place and the first line, the source there, a blank line, the value, and
what follows it. -/
structure Layout where
  location : Location
  headline : List Char
  excerpt : List (List Char)
  value : List Char
  trail : List Char
  headline_line : '\n' ∉ headline
  excerpt_ne : excerpt ≠ []
  excerpt_lines : ∀ l ∈ excerpt, l ≠ [] ∧ '\n' ∉ l
  value_ok : IsValue value
  trail_ok : Trail trail

def Layout.text (l : Layout) : List Char :=
  l.location.text ++ l.headline ++ '\n' :: (['\n'].intercalate l.excerpt ++
    '\n' :: '\n' :: (l.value ++ l.trail))

theorem afterLocation?_text (p : Location) (rest : List Char) :
    afterLocation? (p.text ++ rest) = some rest := by
  have hfile : (p.file ++ ':' :: (p.number ++ ':' :: ' ' :: rest)).takeWhile
      (fun c => !isBlank c && c != ':') = p.file := by
    rw [List.takeWhile_append_of_pos (by simpa using p.file_plain),
      List.takeWhile_cons_of_neg (by simp), List.append_nil]
  have hnumber : (p.number ++ ':' :: ' ' :: rest).takeWhile isDigit = p.number := by
    rw [List.takeWhile_append_of_pos p.number_digits, List.takeWhile_cons_of_neg (by decide),
      List.append_nil]
  simp only [Location.text, afterLocation?, List.append_assoc, List.cons_append, List.nil_append,
    hfile, List.drop_left, hnumber]
  simp [p.file_ne, p.number_ne]

theorem exists_location {line rest : List Char} (h : afterLocation? line = some rest) :
    ∃ p : Location, line = p.text ++ rest := by
  obtain ⟨hfile, hplain⟩ := takeWhile_spec (fun c => !isBlank c && c != ':') line
  simp only [afterLocation?] at h
  split at h
  next r hr =>
    obtain ⟨hnumber, hdigits⟩ := takeWhile_spec isDigit r
    split at h
    next rest' hrest =>
      split at h
      · cases h
      next hne =>
        simp only [Bool.or_eq_true, List.isEmpty_iff, not_or] at hne
        obtain rfl := Option.some.inj h
        refine ⟨⟨_, _, hne.1, fun c hc => by simpa using hplain c hc, hne.2, hdigits⟩, ?_⟩
        rw [hr, hnumber, hrest] at hfile
        simpa [Location.text] using hfile
    · cases h
  · cases h

theorem isFrame_iff {line : List Char} :
    isFrame line = true ↔ ∃ space rest, space ≠ [] ∧ (∀ c ∈ space, isBlank c = true) ∧
      line = space ++ 'a' :: 't' :: ' ' :: rest := by
  constructor
  · intro h
    cases line with
    | nil => cases h
    | cons c line =>
        simp only [isFrame, Bool.and_eq_true] at h
        obtain ⟨rest, hrest⟩ := List.isPrefixOf_iff_prefix.mp h.2
        refine ⟨(c :: line).takeWhile isBlank, rest, ?_, List.all_eq_true.mp List.all_takeWhile, ?_⟩
        · simp [h.1]
        · calc c :: line = (c :: line).takeWhile isBlank ++ (c :: line).dropWhile isBlank :=
                List.takeWhile_append_dropWhile.symm
            _ = _ := by rw [← hrest]; rfl
  · rintro ⟨space, rest, hne, h, rfl⟩
    obtain ⟨c, space, rfl⟩ := List.exists_cons_of_ne_nil hne
    have hdrop : (c :: space ++ 'a' :: 't' :: ' ' :: rest).dropWhile isBlank =
        'a' :: 't' :: ' ' :: rest := by
      rw [List.dropWhile_append_of_pos h, List.dropWhile_cons_of_neg (by decide)]
    rw [List.cons_append] at hdrop ⊢
    simp [isFrame, h c (by simp), hdrop]

theorem IsValue.isFrame_eq_false {value : List Char} (h : IsValue value) :
    ∀ l ∈ value.splitOn '\n', isFrame l = false := by
  intro l hl
  rw [Bool.eq_false_iff, Ne, isFrame_iff]
  rintro ⟨space, rest, hne, hs, rfl⟩
  exact h.lines _ hl space rest hne hs rfl

theorem dropRightWhile_value {value : List Char} (h : IsValue value) :
    dropRightWhile isBlank value = value := by
  obtain ⟨s, c, rfl, hc⟩ := h.last
  exact dropRightWhile_append hc

theorem valueOf_append {value trail : List Char} (h : IsValue value) (ht : Trail trail) :
    valueOf (value ++ trail) = value := by
  have hlines : ∀ ls : List (List Char), (value.splitOn '\n' ++ ls).takeWhile (!isFrame ·) =
      value.splitOn '\n' ++ ls.takeWhile (!isFrame ·) :=
    fun ls => List.takeWhile_append_of_pos (by simpa using h.isFrame_eq_false)
  cases ht with
  | nothing =>
      have hall := hlines []
      rw [List.append_nil, List.takeWhile_nil, List.append_nil] at hall
      rw [List.append_nil, valueOf, hall, List.intercalate_splitOn, dropRightWhile_value h]
  | line =>
      -- the line break leaves an empty line, which is joined on again and then cut off
      have hjoin : ['\n'].intercalate (value.splitOn '\n' ++ [[]]) = value ++ ['\n'] := by
        have h : ['\n'].intercalate ((value ++ ['\n']).splitOn '\n') = value ++ ['\n'] :=
          List.intercalate_splitOn _
        rwa [List.splitOn_append_cons_self, List.splitOn_nil] at h
      have hlast : ([[]] : List (List Char)).takeWhile (!isFrame ·) = [[]] := by decide
      rw [valueOf, List.splitOn_append_cons_self, hlines, List.splitOn_nil, hlast, hjoin,
        dropRightWhile_concat (by decide), dropRightWhile_value h]
  | @frame space rest hne hs =>
      obtain ⟨ls, hls⟩ := splitOn_eq_cons '\n' (space ++ 'a' :: 't' :: ' ' :: rest)
      have hfirst : (space ++ 'a' :: 't' :: ' ' :: rest).takeWhile (· != '\n') =
          space ++ 'a' :: 't' :: ' ' :: rest.takeWhile (· != '\n') := by
        rw [List.takeWhile_append_of_pos (fun c hc => by simpa using (hs c hc).2)]
        rfl
      have hframe : isFrame (space ++ 'a' :: 't' :: ' ' :: rest.takeWhile (· != '\n')) = true :=
        isFrame_iff.mpr ⟨space, _, hne, fun c hc => (hs c hc).1, rfl⟩
      rw [valueOf, List.splitOn_append_cons_self, hls, hlines, hfirst,
        List.takeWhile_cons_of_neg (by simp [hframe]), List.append_nil, List.intercalate_splitOn,
        dropRightWhile_value h]

theorem thrownChars_layout (l : Layout) : thrownChars l.text = l.value := by
  have hline : '\n' ∉ l.location.text ++ l.headline := by
    rw [List.mem_append, not_or]
    exact ⟨l.location.newline_not_mem, l.headline_line⟩
  have hne : l.value.isEmpty = false := by
    obtain ⟨s, c, hs, -⟩ := l.value_ok.last
    simp [hs]
  simp only [thrownChars, Layout.text, takeWhile_separator hline, afterLocation?_text,
    dropWhile_separator hline, List.drop_one, List.tail_cons,
    cut?_lines l.excerpt_ne l.excerpt_lines, valueOf_append l.value_ok l.trail_ok, hne,
    Bool.false_eq_true, if_false]

theorem thrownChars_headline {p : Location} {report headline : List Char}
    (hf : report.takeWhile (· != '\n') = p.text ++ headline)
    (hb : ¬ ['\n', '\n'] <:+: (report.dropWhile (· != '\n')).drop 1) :
    thrownChars report = headline := by
  simp only [thrownChars, hf, afterLocation?_text, cut?_eq_none hb]

theorem prefix_valueOf (tail : List Char) : valueOf tail <+: tail := by
  have htake : (tail.splitOn '\n').takeWhile (fun l => !isFrame l) <+: tail.splitOn '\n' :=
    List.takeWhile_prefix _
  have hlines : ['\n'].intercalate _ <+: ['\n'].intercalate _ := prefix_intercalate htake
  rw [List.intercalate_splitOn] at hlines
  exact (prefix_dropRightWhile _ _).trans hlines

theorem thrownChars_infix (report : List Char) : thrownChars report <:+: report := by
  cases hp : afterLocation? (report.takeWhile (· != '\n')) with
  | none =>
      simp [thrownChars_of_no_location hp]
  | some rest =>
      obtain ⟨p, hline⟩ := exists_location hp
      have hrest : rest <:+: report := by
        refine List.IsInfix.trans ?_ (List.takeWhile_prefix (· != '\n')).isInfix
        rw [hline]
        exact (List.suffix_append _ _).isInfix
      simp only [thrownChars, hp]
      cases hc : cut? ['\n', '\n'] ((report.dropWhile (· != '\n')).drop 1) with
      | none => exact hrest
      | some cut =>
          obtain ⟨before, tail⟩ := cut
          have htail : tail <:+ report := by
            refine List.IsSuffix.trans ?_ (List.dropWhile_suffix (· != '\n'))
            refine List.IsSuffix.trans ?_ (List.drop_suffix 1 _)
            rw [cut?_eq_some hc]
            exact List.suffix_append _ _
          dsimp only
          split
          · exact hrest
          · exact (prefix_valueOf tail).isInfix.trans htail.isInfix

theorem thrownValue_cases (report : String) :
    (∀ l : Layout, report.toList = l.text → (thrownValue report).toList = l.value) ∧
      (∀ (p : Location) (headline : List Char),
        report.toList.takeWhile (· != '\n') = p.text ++ headline →
        ¬ ['\n', '\n'] <:+: (report.toList.dropWhile (· != '\n')).drop 1 →
        (thrownValue report).toList = headline) ∧
      ((∀ p : Location, ¬ p.text <+: report.toList.takeWhile (· != '\n')) →
        thrownValue report = report) ∧
      (thrownValue report).toList <:+: report.toList := by
  simp only [thrownValue, String.toList_ofList]
  refine ⟨?_, ?_, ?_, thrownChars_infix _⟩
  · intro l h
    rw [h, thrownChars_layout]
  · intro p headline hf hb
    exact thrownChars_headline hf hb
  · intro h
    have hnone : afterLocation? (report.toList.takeWhile (· != '\n')) = none := by
      rw [Option.eq_none_iff_forall_not_mem]
      intro rest hrest
      obtain ⟨p, hp⟩ := exists_location hrest
      exact h p (hp ▸ List.prefix_append _ _)
    rw [thrownChars_of_no_location hnone, String.ofList_toList]

theorem isValue_of_not_isFrame {s : List Char} {c : Char} (hc : isBlank c = false)
    (h : ∀ l ∈ (s ++ [c]).splitOn '\n', isFrame l = false) : IsValue (s ++ [c]) := by
  refine ⟨⟨s, c, rfl, hc⟩, ?_⟩
  intro l hl space rest hne hs heq
  exact absurd (isFrame_iff.mpr ⟨space, rest, hne, hs, heq⟩) (by simp [h l hl])

def parted : Layout where
  location := {
    file := "a.js".toList
    number := "12".toList
    file_ne := by decide
    file_plain := List.all_iff_forall_prop.mp (by decide)
    number_ne := by decide
    number_digits := List.all_iff_forall_prop.mp (by decide) }
  headline := "Error: one".toList
  excerpt := ["  throw e".toList, "  ^".toList]
  value := "Error: one\n\n  at".toList ++ ['!']
  trail := '\n' :: ("\t ".toList ++ 'a' :: 't' :: ' ' :: "f (a.js:12:3)\n\nand more".toList)
  headline_line := by decide
  excerpt_ne := by decide
  excerpt_lines := by decide
  value_ok := isValue_of_not_isFrame (by decide) (by decide +kernel)
  trail_ok := .frame _ (by decide) (List.all_iff_forall_prop.mp (by decide))

theorem thrownValue_parted :
    (thrownValue (String.ofList parted.text)).toList = "Error: one\n\n  at!".toList :=
  ((thrownValue_cases (String.ofList parted.text)).1 parted (by simp)).trans (by decide)

end AssetTranspiler.Report
