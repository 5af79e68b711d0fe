import AssetTranspiler.Failure.Fault
import AssetTranspiler.Proofs.Failure.Decoding
import AssetTranspiler.Proofs.Failure.Thrown

namespace AssetTranspiler

open Text

structure Throw where
  file : List Char
  line : Nat
  excerpt : List (List Char)
  frames : List (List Char)
  file_ne : file ≠ []
  file_plain : ∀ c ∈ file, isBlank c = false ∧ c ≠ ':'
  excerpt_ne : excerpt ≠ []
  excerpt_lines : ∀ l ∈ excerpt, l ≠ [] ∧ '\n' ∉ l
  frame_lines : ∀ l ∈ frames, '\n' ∉ l ∧ ∃ space rest, space ≠ [] ∧
    (∀ c ∈ space, isBlank c = true) ∧ l = space ++ 'a' :: 't' :: ' ' :: rest

namespace Throw

variable (t : Throw)

def location : List Char :=
  t.file ++ ':' :: (toString t.line).toList ++ [':', ' ']

def report (value : List Char) : List Char :=
  t.location ++ value ++ '\n' :: (['\n'].intercalate t.excerpt ++
    '\n' :: '\n' :: (value ++ '\n' :: ['\n'].intercalate t.frames))

end Throw

namespace Report

theorem isDigit_of_ascii {c : Char} (h : c.isDigit = true) : isDigit c = true := by
  simp only [Char.isDigit, Bool.and_eq_true, decide_eq_true_eq] at h
  have hlow : 0x30 ≤ c.toNat := h.1
  have hhigh : c.toNat ≤ 0x39 := h.2
  rw [isDigit, digit?, Option.isSome_map, zeros, List.find?_cons_of_pos]
  · rfl
  · simp only [Bool.and_eq_true, decide_eq_true_eq]
    omega

theorem trail_frames (t : Throw) : Trail ('\n' :: ['\n'].intercalate t.frames) := by
  cases hf : t.frames with
  | nil => exact .line
  | cons f fs =>
      obtain ⟨hn, space, rest, hne, hs, rfl⟩ := t.frame_lines f (by simp [hf])
      have hspace : ∀ c ∈ space, isBlank c = true ∧ c ≠ '\n' := by
        intro c hc
        refine ⟨hs c hc, ?_⟩
        rintro rfl
        exact hn (List.mem_append_left _ hc)
      cases fs with
      | nil => simpa using Trail.frame rest hne hspace
      | cons g fs =>
          simpa using Trail.frame (rest ++ '\n' :: ['\n'].intercalate (g :: fs)) hne hspace

theorem thrown_line {q s : List Char} (h : Literal.Quotes q s) :
    '\n' ∉ errorPrefix ++ q ∧ isFrame (errorPrefix ++ q) = false ∧
      ∃ u, errorPrefix ++ q = u ++ ['"'] := by
  obtain ⟨w, hw, rfl⟩ := h
  refine ⟨?_, ?_, errorPrefix ++ '"' :: w, ?_⟩
  · intro hn
    have hhead : '\n' ∉ errorPrefix := by decide +kernel
    have hword : '\n' ∉ w := fun hm => absurd (hw.le_toNat _ hm) (by decide)
    simp [hhead, hword] at hn
  · rfl
  · simp

theorem isValue_thrown_line {q s : List Char} (h : Literal.Quotes q s) :
    IsValue (errorPrefix ++ q) := by
  obtain ⟨hline, hframe, u, hu⟩ := thrown_line h
  refine ⟨⟨u, '"', hu, by decide⟩, ?_⟩
  rw [List.splitOn_eq_singleton hline]
  intro l hl space rest hne hs heq
  rw [List.mem_singleton.mp hl] at heq
  exact absurd (isFrame_iff.mpr ⟨space, rest, hne, hs, heq⟩) (by simp [hframe])

def location (t : Throw) : Location where
  file := t.file
  number := (toString t.line).toList
  file_ne := t.file_ne
  file_plain := t.file_plain
  number_ne := by
    rw [Nat.toString_eq_repr, Nat.toList_repr]
    exact Nat.toDigits_ne_nil
  number_digits := by
    intro c hc
    rw [Nat.toString_eq_repr, Nat.toList_repr] at hc
    exact isDigit_of_ascii (Nat.isDigit_of_mem_toDigits (by decide) (by decide) hc)

theorem thrownChars_report (t : Throw) {q s : List Char} (h : Literal.Quotes q s) :
    thrownChars (t.report (errorPrefix ++ q)) = errorPrefix ++ q :=
  thrownChars_layout {
    location := location t
    headline := errorPrefix ++ q
    excerpt := t.excerpt
    value := errorPrefix ++ q
    trail := '\n' :: ['\n'].intercalate t.frames
    headline_line := (thrown_line h).1
    excerpt_ne := t.excerpt_ne
    excerpt_lines := t.excerpt_lines
    value_ok := isValue_thrown_line h
    trail_ok := trail_frames t }

theorem isInfix_trace (f : Failure) (cause : Option Failure) (h : f.text ≠ "") :
    f.text.toList <:+: (f.trace cause).toList := by
  have hline : f.text.toList <:+: f.line.toList := by
    rw [Failure.line, if_neg (by simpa using h)]
    refine ⟨(f.kind.qualifiedName ++ ": ").toList, "\n".toList, ?_⟩
    simp [String.toList_append]
  cases cause <;>
    rw [Failure.trace, String.toList_append] <;>
    exact hline.trans (List.suffix_append _ _).isInfix

/-- The translation of a reported failure is the thrown text, and its trace holds the whole report. -/
theorem translation_of_report (t : Throw) {q : List Char} {s : String}
    (h : Literal.Quotes q s.toList) (stack : Nesting.Stack) (kind : FailureKind) (frames : String)
    (cause : Option Failure) :
    ∃ e, TranspileError.ofFailure stack
        ⟨kind, String.ofList (t.report (errorPrefix ++ q)), frames⟩ cause = some e ∧
      e.message = "Error: " ++ s ∧ e.text = "Error: " ++ s ∧
      ∃ trace, e.stack = some trace ∧ t.report (errorPrefix ++ q) <:+: trace.toList := by
  have hmessage : message stack (String.ofList (t.report (errorPrefix ++ q))) =
      some ("Error: " ++ s) := by
    rw [message, thrownValue, decode, String.toList_ofList, String.toList_ofList,
      thrownChars_report t h, decodeChars_of_quotes h, Option.map_some, ofList_errorPrefix_append]
  have hne : String.ofList (t.report (errorPrefix ++ q)) ≠ "" := by
    intro hempty
    have := congrArg String.toList hempty
    simp [Throw.report] at this
  have htrace := isInfix_trace ⟨kind, String.ofList (t.report (errorPrefix ++ q)), frames⟩ cause hne
  exact ⟨_, TranspileError.ofFailure_eq_some.mpr ⟨_, hmessage, rfl⟩, rfl, rfl, _, rfl,
    by simpa using htrace⟩

def badThing : Throw where
  file := "js-processor.js".toList
  line := 7
  excerpt := ["    throw new Error(text);".toList, "    ^".toList]
  frames := ["    at transpile (js-processor.js:7:11)".toList, "\tat <anonymous>:1:1".toList]
  file_ne := by decide +kernel
  file_plain := by
    have hall : "js-processor.js".toList.all (fun c => !isBlank c && c != ':') = true := by
      decide +kernel
    intro c hc
    simpa using List.all_eq_true.mp hall c hc
  excerpt_ne := by simp
  excerpt_lines := by decide +kernel
  frame_lines := by
    intro l hl
    simp only [List.mem_cons, List.not_mem_nil, or_false] at hl
    rcases hl with rfl | rfl
    · exact ⟨by decide +kernel, "    ".toList, "transpile (js-processor.js:7:11)".toList,
        by decide +kernel, List.all_eq_true.mp (by decide +kernel), by decide +kernel⟩
    · exact ⟨by decide +kernel, "\t".toList, "<anonymous>:1:1".toList,
        by decide +kernel, List.all_eq_true.mp (by decide +kernel), by decide +kernel⟩

theorem translation_of_badThing :
    (∃ e, TranspileError.ofFailure {} ⟨.engine .evaluation, String.ofList (badThing.report
        (errorPrefix ++ Literal.quote "caf\u00e9\n    at \"x\" ".toList)), ""⟩ = some e ∧
      e.message = "Error: " ++ "caf\u00e9\n    at \"x\" ") ∧
    ∃ e, TranspileError.ofFailure {} ⟨.engine .evaluation, String.ofList (badThing.report
        (errorPrefix ++ Literal.quoteRaw "caf\u00e9\n    at \"x\" ".toList)), ""⟩ = some e ∧
      e.message = "Error: " ++ "caf\u00e9\n    at \"x\" " := by
  obtain ⟨e, he, hm, -⟩ :=
    translation_of_report badThing (Literal.quotes_quote _) {} (.engine .evaluation) "" none
  obtain ⟨e', he', hm', -⟩ :=
    translation_of_report badThing (Literal.quotes_quoteRaw _) {} (.engine .evaluation) "" none
  exact ⟨⟨e, he, hm⟩, e', he', hm'⟩

end Report
end AssetTranspiler
