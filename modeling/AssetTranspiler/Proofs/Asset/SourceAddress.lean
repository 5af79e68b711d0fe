import AssetTranspiler.Asset
import AssetTranspiler.Proofs.Text.Grammar

/-!
Scripts that evaluate a text under its source address. They add up two string literals. The text is
quoted, the address is not: the second literal denotes it exactly when nothing in the address must be
escaped.
-/

namespace AssetTranspiler

namespace Literal

open Text

def lineBreaks : List Char :=
  ['\n', '\r', '\u2028', '\u2029']

def number (base : Nat) (digits : List Char) : Nat :=
  (digits.filterMap hexDigit?).foldl (fun n d => base * n + d) 0

/-- What follows a backslash in a string literal of a script: there are more escapes than in JSON, and
a backslash is left out in front of any other character and together with a line break after it. -/
inductive ScriptEscape : List Char → List Nat → Prop
  | json {e : List Char} {us : List Nat} : JsonEscape e us → ScriptEscape e us
  | tab : ScriptEscape ['v'] [0x0B]
  | self {c : Char} : c ∉ "bfnrtvux01234567".toList → c ∉ lineBreaks → ScriptEscape [c] (units c)
  | octal {ds : List Char} : ds ≠ [] → ds.length ≤ 3 → (∀ d ∈ ds, d ∈ "01234567".toList) →
      ScriptEscape ds [number 8 ds]
  | byte {a b : Char} : (∀ d ∈ [a, b], (hexDigit? d).isSome) →
      ScriptEscape ['x', a, b] [number 16 [a, b]]
  | unit {ds : List Char} : ds ≠ [] → (∀ d ∈ ds, (hexDigit? d).isSome) →
      number 16 ds < 0x10000 → ScriptEscape ('u' :: '\x7b' :: ds ++ ['\x7d']) [number 16 ds]
  | point {ds : List Char} {c : Char} : ds ≠ [] → (∀ d ∈ ds, (hexDigit? d).isSome) →
      number 16 ds = c.toNat → ScriptEscape ('u' :: '\x7b' :: ds ++ ['\x7d']) (units c)
  | lineBreak {c : Char} : c ∈ lineBreaks → ScriptEscape [c] []
  | crlf : ScriptEscape ['\r', '\n'] []

namespace ScriptEscape

variable {e : List Char} {us : List Nat}

theorem ne_of_isSome {c : Char} (h : (hexDigit? c).isSome) : c ≠ '"' ∧ c ≠ '\\' := by
  obtain ⟨n, hn⟩ := Option.isSome_iff_exists.mp h
  exact ne_of_hexDigit? hn

theorem braced {ds : List Char} (h : ∀ d ∈ ds, (hexDigit? d).isSome) :
    ∀ d ∈ '\x7b' :: ds ++ ['\x7d'], d ≠ '"' ∧ d ≠ '\\' := by
  intro d hd
  simp only [List.cons_append, List.mem_cons, List.mem_append, List.not_mem_nil, or_false] at hd
  rcases hd with rfl | hd | rfl
  · decide
  · exact ne_of_isSome (h d hd)
  · decide

theorem cons (h : ScriptEscape e us) :
    ∃ c r, e = c :: r ∧ ∀ d ∈ r, d ≠ '"' ∧ d ≠ '\\' := by
  cases h with
  | json h => exact h.cons
  | tab => exact ⟨_, [], rfl, by simp⟩
  | self _ _ => exact ⟨_, [], rfl, by simp⟩
  | octal hne _ hds =>
      have hoctal : ∀ d ∈ "01234567".toList, d ≠ '"' ∧ d ≠ '\\' := by simp
      obtain ⟨c, r, rfl⟩ := List.exists_cons_of_ne_nil hne
      exact ⟨c, r, rfl, fun d hd => hoctal d (hds d (List.mem_cons_of_mem _ hd))⟩
  | byte h => exact ⟨_, _, rfl, fun d hd => ne_of_isSome (h d hd)⟩
  | unit _ hds _ => exact ⟨_, _, rfl, braced hds⟩
  | point _ hds _ => exact ⟨_, _, rfl, braced hds⟩
  | lineBreak _ => exact ⟨_, [], rfl, by simp⟩
  | crlf => exact ⟨_, _, rfl, by simp⟩

theorem points_le (h : ScriptEscape e us) : points us ≤ e.length := by
  have hone : ∀ u, points [u] ≤ 1 := fun u => points_le_length [u]
  cases h with
  | json h => exact h.points_le
  | tab => exact hone _
  | self _ _ => exact Nat.le_of_eq (points_units _)
  | octal hne _ _ => exact Nat.le_trans (hone _) (List.length_pos_iff.mpr hne)
  | byte _ => exact Nat.le_trans (hone _) (by simp)
  | unit _ _ _ => exact Nat.le_trans (hone _) (by simp)
  | point _ _ _ => exact Nat.le_trans (Nat.le_of_eq (points_units _)) (by simp)
  | lineBreak _ => exact Nat.zero_le _
  | crlf => exact Nat.zero_le _

theorem line_feed {w w' : List Char} (h : ScriptEscape e us) (he : e ++ w = 'n' :: w') :
    us = units '\n' ∧ w = w' := by
  obtain ⟨c, r, rfl, -⟩ := h.cons
  obtain ⟨rfl, hr⟩ := List.cons.inj he
  cases h with
  | json h =>
      cases h with
      | letter hm =>
          have hc := mem_shortEscapes.mp hm
          cases hc
          exact ⟨rfl, hr⟩
  | self hn _ => exact absurd (by decide) hn
  | octal _ _ hds => exact absurd (hds 'n' (by simp)) (by decide)
  | lineBreak hn => exact absurd hn (by decide)

end ScriptEscape

def script : Grammar where
  plain c := c ≠ '"' ∧ c ≠ '\\' ∧ c ≠ '\n' ∧ c ≠ '\r'
  escape := ScriptEscape
  plain_ne _ h := ⟨h.1, h.2.1⟩
  escape_cons _ _ h := h.cons
  escape_points _ _ h := h.points_le

theorem script_of_json {w : List Char} {us : List Nat} (h : json.Denotes w us) :
    script.Denotes w us := by
  apply h.mono
  · rintro c ⟨hq, hb, hc⟩
    refine ⟨hq, hb, ?_, ?_⟩ <;> rintro rfl <;> exact absurd hc (by decide)
  · intro e us he
    exact .json he

theorem script_quote (s : List Char) : script.IsLiteral (quote s) (utf16 s) :=
  ⟨_, script_of_json (denotes_of_spells (spells_flatMap spells_escape s)), rfl⟩

end Literal

namespace Asset

open Literal

def Evaluates (out data url : String) : Prop :=
  ∃ first second, script.IsLiteral first (utf16 data.toList) ∧
    script.IsLiteral second (utf16 ("\n//# sourceURL=".toList ++ url.toList)) ∧
    out.toList = "eval(".toList ++ first ++ " + ".toList ++ second ++ ");\n".toList

def comment (url : List Char) : List Char :=
  '\\' :: 'n' :: ("//# sourceURL=".toList ++ url)

theorem withSourceUrl_toList (data url : String) :
    (withSourceUrl (.str data) url).toList =
      "eval(".toList ++ quote data.toList ++ " + ".toList ++ ('"' :: comment url.toList ++ ['"']) ++
        ");\n".toList := by
  simp [withSourceUrl, Value.json, Value.quote, comment]

theorem comment_of_plain {url : List Char} (h : ∀ c ∈ url, script.plain c) :
    script.Denotes (comment url) (utf16 ("\n//# sourceURL=".toList ++ url)) := by
  have hfeed : script.escape ['n'] (Text.units '\n') := .json (.letter (by decide))
  have hrest : script.Denotes ("//# sourceURL=".toList ++ url)
      (utf16 ("//# sourceURL=".toList ++ url)) := by
    apply Grammar.Denotes.of_plain
    intro c hc
    rcases List.mem_append.mp hc with hc | hc
    · have hhead : ∀ c ∈ "//# sourceURL=".toList, c ≠ '"' ∧ c ≠ '\\' ∧ c ≠ '\n' ∧ c ≠ '\r' := by
        simp
      exact hhead c hc
    · exact h c hc
  exact .escape hfeed hrest

theorem plain_of_comment {url : List Char}
    (h : script.Denotes (comment url) (utf16 ("\n//# sourceURL=".toList ++ url))) :
    ∀ c ∈ url, script.plain c := by
  obtain ⟨e, w, vs, us, hw, hus, he, hrest⟩ := h.exists_escape
  obtain ⟨rfl, rfl⟩ := ScriptEscape.line_feed he hw.symm
  -- the rest of the literal is as long as what it denotes
  have hus' : utf16 ("//# sourceURL=".toList ++ url) = us := List.append_cancel_left hus
  have hp : points us = ("//# sourceURL=".toList ++ url).length := by
    rw [← hus', points_utf16]
  intro c hc
  exact hrest.plain_of_points hp c (List.mem_append_right _ hc)

theorem plain_of_evaluates {data url : String}
    (h : Evaluates (withSourceUrl (.str data) url) data url) : ∀ c ∈ url.toList, script.plain c := by
  obtain ⟨_, _, ⟨w, hw, rfl⟩, ⟨v, hv, rfl⟩, hout⟩ := h
  obtain ⟨w', hw', hq⟩ := script_quote data.toList
  rw [withSourceUrl_toList, hq] at hout
  simp only [List.append_assoc, List.cons_append, List.append_cancel_left_eq, List.cons.injEq,
    true_and, List.nil_append] at hout
  -- the first literal ends where the quoted text does, so all that follows is the same
  obtain ⟨-, htail⟩ := hw'.closed.unique hw.closed hout
  have hv' : comment url.toList = v := by
    simpa using htail
  exact plain_of_comment (hv' ▸ hv)

/-- The text is quoted under every address; the script is as it should be only for addresses of plain
characters. -/
theorem withSourceUrl_evaluates (data url : String) :
    (∃ first, script.IsLiteral first (utf16 data.toList) ∧
      (withSourceUrl (.str data) url).toList =
        "eval(".toList ++ first ++ " + \"\\n//# sourceURL=".toList ++ url.toList ++
          "\");\n".toList) ∧
      (Evaluates (withSourceUrl (.str data) url) data url ↔ ∀ c ∈ url.toList, script.plain c) := by
  refine ⟨⟨_, script_quote _, ?_⟩, plain_of_evaluates, ?_⟩
  · simp [withSourceUrl_toList, comment]
  · intro h
    exact ⟨_, _, script_quote _, ⟨_, comment_of_plain h, rfl⟩, withSourceUrl_toList data url⟩

theorem not_evaluates_quoted :
    ¬ Evaluates (withSourceUrl (.str "x") "a\".js") "x" "a\".js" := by
  intro h
  exact (plain_of_evaluates h '"' (by decide)).1 rfl

end Asset

end AssetTranspiler
