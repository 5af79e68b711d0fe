import AssetTranspiler.Proofs.Text.Grammar
import AssetTranspiler.Text.Nesting

/-!
Beginnings of JSON texts, and how many arrays and objects they leave open. The scan of a text goes down
to a level exactly if the text begins with a part of JSON that leaves so many open and opens another.
-/

namespace AssetTranspiler.Nesting

open Literal Text

variable {room : Nat} {c b : Char} {s t u v w : List Char} {us : List Nat} {σ outer : List Bracket}
  {isName : Bool} {scan : Scan}

def Blank (w : List Char) : Prop :=
  ∀ c ∈ w, isJsonSpace c = true

inductive Part where
  | value
  | name
  | rest

/-- What a JSON text may begin with, the arrays and objects that are open then, the innermost first,
and the part that is to follow. -/
inductive Beginning : Part → List Bracket → List Char → Prop
  | blank {w : List Char} : Blank w → Beginning .value [] w
  | array {σ : List Bracket} {s w : List Char} : Beginning .value σ s → Blank w →
      Beginning .value (.array :: σ) (s ++ '[' :: w)
  | item {σ : List Bracket} {s w : List Char} : Beginning .rest (.array :: σ) s → Blank w →
      Beginning .value (.array :: σ) (s ++ ',' :: w)
  | object {σ : List Bracket} {s w : List Char} : Beginning .value σ s → Blank w →
      Beginning .name (.object :: σ) (s ++ '\x7b' :: w)
  | member {σ : List Bracket} {s w : List Char} : Beginning .rest (.object :: σ) s → Blank w →
      Beginning .name (.object :: σ) (s ++ ',' :: w)
  | named {σ : List Bracket} {s q w w' : List Char} {us : List Nat} : Beginning .name σ s →
      json.IsLiteral q us → Blank w → Blank w' → Beginning .value σ (s ++ q ++ w ++ ':' :: w')
  | scalar {σ : List Bracket} {s v w : List Char} : Beginning .value σ s → isScalar v = true →
      Blank w → Beginning .rest σ (s ++ v ++ w)
  | text {σ : List Bracket} {s q w : List Char} {us : List Nat} : Beginning .value σ s →
      json.IsLiteral q us → Blank w → Beginning .rest σ (s ++ q ++ w)
  | emptyArray {σ : List Bracket} {s w w' : List Char} : Beginning .value σ s → Blank w →
      Blank w' → Beginning .rest σ (s ++ '[' :: w ++ ']' :: w')
  | emptyObject {σ : List Bracket} {s w w' : List Char} : Beginning .value σ s → Blank w →
      Blank w' → Beginning .rest σ (s ++ '\x7b' :: w ++ '\x7d' :: w')
  | closeArray {σ : List Bracket} {s w : List Char} : Beginning .rest (.array :: σ) s → Blank w →
      Beginning .rest σ (s ++ ']' :: w)
  | closeObject {σ : List Bracket} {s w : List Char} : Beginning .rest (.object :: σ) s →
      Blank w → Beginning .rest σ (s ++ '\x7d' :: w)

def Deeper (n : Nat) (s : List Char) : Prop :=
  ∃ σ u b rest, Beginning .value σ u ∧ n ≤ σ.length ∧ b ∈ ['[', '\x7b'] ∧ s = u ++ b :: rest

theorem blank_nil : Blank [] := by
  simp [Blank]

theorem Blank.concat (hw : Blank w) (hc : isJsonSpace c = true) : Blank (w ++ [c]) := by
  simpa [Blank, or_imp, forall_and, hc] using hw

theorem Beginning.concat {p : Part} (h : Beginning p σ u) (hc : isJsonSpace c = true) :
    Beginning p σ (u ++ [c]) := by
  cases h with
  | blank hw => exact .blank (hw.concat hc)
  | array h hw => simpa using Beginning.array h (hw.concat hc)
  | item h hw => simpa using Beginning.item h (hw.concat hc)
  | object h hw => simpa using Beginning.object h (hw.concat hc)
  | member h hw => simpa using Beginning.member h (hw.concat hc)
  | named h hq hw hw' => simpa using Beginning.named h hq hw (hw'.concat hc)
  | scalar h hv hw => simpa using Beginning.scalar h hv (hw.concat hc)
  | text h hq hw => simpa using Beginning.text h hq (hw.concat hc)
  | emptyArray h hw hw' => simpa using Beginning.emptyArray h hw (hw'.concat hc)
  | emptyObject h hw hw' => simpa using Beginning.emptyObject h hw (hw'.concat hc)
  | closeArray h hw => simpa using Beginning.closeArray h (hw.concat hc)
  | closeObject h hw => simpa using Beginning.closeObject h (hw.concat hc)

theorem Deeper.concat {n : Nat} (h : Deeper n u) (c : Char) : Deeper n (u ++ [c]) := by
  obtain ⟨σ, s, b, rest, hs, hn, hb, rfl⟩ := h
  exact ⟨σ, s, b, rest ++ [c], hs, hn, hb, by simp⟩

theorem Beginning.deeper {n : Nat} (h : Beginning .value σ u) (hn : n ≤ σ.length)
    (hc : c ∈ ['[', '\x7b']) : Deeper n (u ++ [c]) :=
  ⟨σ, u, c, [], h, hn, hc, rfl⟩

theorem denotes_append {w' : List Char} {us' : List Nat} (h : json.Denotes w us)
    (h' : json.Denotes w' us') : json.Denotes (w ++ w') (us ++ us') := by
  induction h with
  | nil => exact h'
  | plain hc _ ih => simpa using Grammar.Denotes.plain hc ih
  | escape he _ ih => simpa using Grammar.Denotes.escape he ih

theorem denotes_raw (h : json.Denotes w us) (hc : isRaw c = true) :
    json.Denotes (w ++ [c]) (us ++ units c) := by
  simpa using denotes_append h (.plain (isRaw_iff.mp hc) .nil)

theorem denotes_letter (h : json.Denotes w us) {d : Char} (hc : unescape? c = some d) :
    json.Denotes (w ++ ['\\', c]) (us ++ units d) := by
  simpa using denotes_append h (json_letter (mem_shortEscapes.mpr hc) .nil)

theorem exists_hex4? {a b c d : Char} (h : ∀ e ∈ [a, b, c, d], (hexDigit? e).isSome = true) :
    ∃ u, hex4? a b c d = some u := by
  simp only [List.mem_cons, List.not_mem_nil, or_false, forall_eq_or_imp, forall_eq,
    Option.isSome_iff_exists] at h
  obtain ⟨⟨_, ha⟩, ⟨_, hb⟩, ⟨_, hc⟩, _, hd⟩ := h
  exact Option.isSome_iff_exists.mp (by simp [hex4?, ha, hb, hc, hd])

theorem denotes_unit (h : json.Denotes w us) (hs : s.length = 4)
    (hd : ∀ c ∈ s, (hexDigit? c).isSome = true) :
    ∃ us', json.Denotes (w ++ '\\' :: 'u' :: s) us' := by
  match s, hs with
  | [_, _, _, _], _ =>
      obtain ⟨u, hu⟩ := exists_hex4? hd
      exact ⟨_, denotes_append h (json_unit hu .nil)⟩

theorem isScalarChar_of_isDigit (h : c.isDigit = true) : isScalarChar c = true := by
  simp [isScalarChar, Char.isAlphanum, h]

theorem isScalarChar_of_isDigits (h : isDigits s = true) : ∀ c ∈ s, isScalarChar c = true := by
  intro c hc
  rw [isDigits, Bool.and_eq_true] at h
  exact isScalarChar_of_isDigit (List.all_eq_true.mp h.2 c hc)

theorem isScalarChar_of_sign (h : ∀ c ∈ (Numeral.sign s).2, isScalarChar c = true) :
    ∀ c ∈ s, isScalarChar c = true := by
  unfold Numeral.sign at h
  split at h
  · exact List.forall_mem_cons.mpr ⟨by decide, h⟩
  · exact List.forall_mem_cons.mpr ⟨by decide, h⟩
  · exact h

theorem isScalarChar_of_isExponent (h : isExponent s = true) :
    ∀ c ∈ s, isScalarChar c = true := by
  cases s with
  | nil => simp
  | cons e s =>
      simp only [isExponent, Bool.and_eq_true, Bool.or_eq_true, beq_iff_eq] at h
      refine List.forall_mem_cons.mpr ⟨?_, isScalarChar_of_sign (isScalarChar_of_isDigits h.2)⟩
      rcases h.1 with rfl | rfl <;> decide

theorem forall_mem_of_span {p q : Char → Bool} (h : ∀ c ∈ s.takeWhile p, q c = true)
    (h' : ∀ c ∈ s.dropWhile p, q c = true) : ∀ c ∈ s, q c = true := by
  rw [← List.takeWhile_append_dropWhile (p := p) (l := s)]
  exact List.forall_mem_append.mpr ⟨h, h'⟩

theorem isScalarChar_of_isFraction (h : isFraction s = true) :
    ∀ c ∈ s, isScalarChar c = true := by
  unfold isFraction at h
  split at h
  next s =>
    rw [Bool.and_eq_true] at h
    exact List.forall_mem_cons.mpr ⟨by decide,
      forall_mem_of_span (isScalarChar_of_isDigits h.1) (isScalarChar_of_isExponent h.2)⟩
  next => exact isScalarChar_of_isExponent h

theorem isScalarChar_of_isUnsigned (h : isUnsigned s = true) :
    s ≠ [] ∧ ∀ c ∈ s, isScalarChar c = true := by
  simp only [isUnsigned, isWhole, Bool.and_eq_true] at h
  refine ⟨?_, forall_mem_of_span (isScalarChar_of_isDigits h.1.1) ?_⟩
  · rintro rfl
    simp [isDigits] at h
  · cases hr : s.dropWhile Char.isDigit with
    | nil => simp
    | cons d r => exact isScalarChar_of_isFraction (by simpa [hr] using h.2)

theorem isScalarChar_of_isNumber (h : isNumber s = true) :
    s ≠ [] ∧ ∀ c ∈ s, isScalarChar c = true := by
  unfold isNumber at h
  split at h
  next => exact ⟨by simp, List.forall_mem_cons.mpr ⟨by decide, (isScalarChar_of_isUnsigned h).2⟩⟩
  next => exact isScalarChar_of_isUnsigned h

theorem isScalarChar_of_isScalar (h : isScalar s = true) :
    s ≠ [] ∧ ∀ c ∈ s, isScalarChar c = true := by
  rw [isScalar, Bool.or_eq_true] at h
  rcases h with h | h
  · simp only [List.contains_iff_mem, List.mem_cons, List.not_mem_nil, or_false] at h
    rcases h with rfl | rfl | rfl <;> exact ⟨by decide, List.all_eq_true.mp (by decide)⟩
  · exact isScalarChar_of_isNumber h

namespace Scan

def beforeText : Bool → Part
  | true => .name
  | false => .value

/-- Where a scan can stand after a text. -/
inductive Reached (room : Nat) : Scan → List Char → Prop
  | value {σ : List Bracket} {u : List Char} : Beginning .value σ u → Reached room ⟨.value, σ⟩ u
  | firstValue {σ : List Bracket} {s w : List Char} : Beginning .value σ s → Blank w →
      Reached room ⟨.firstValue, .array :: σ⟩ (s ++ '[' :: w)
  | name {σ : List Bracket} {u : List Char} : Beginning .name σ u → Reached room ⟨.name, σ⟩ u
  | firstName {σ : List Bracket} {s w : List Char} : Beginning .value σ s → Blank w →
      Reached room ⟨.firstName, .object :: σ⟩ (s ++ '\x7b' :: w)
  | colon {σ : List Bracket} {s q w : List Char} {us : List Nat} : Beginning .name σ s →
      json.IsLiteral q us → Blank w → Reached room ⟨.colon, σ⟩ (s ++ q ++ w)
  | done {σ : List Bracket} {u : List Char} : Beginning .rest σ u → Reached room ⟨.done, σ⟩ u
  | text {σ : List Bracket} {s w : List Char} {us : List Nat} {isName : Bool} :
      Beginning (beforeText isName) σ s → json.Denotes w us →
      Reached room ⟨.text isName, σ⟩ (s ++ '"' :: w)
  | escape {σ : List Bracket} {s w : List Char} {us : List Nat} {isName : Bool} :
      Beginning (beforeText isName) σ s → json.Denotes w us →
      Reached room ⟨.escape isName, σ⟩ (s ++ '"' :: (w ++ ['\\']))
  | unit {σ : List Bracket} {s w ds : List Char} {us : List Nat} {isName : Bool} {left : Nat} :
      Beginning (beforeText isName) σ s → json.Denotes w us → ds.length + left = 3 →
      (∀ d ∈ ds, (hexDigit? d).isSome = true) →
      Reached room ⟨.unit isName left, σ⟩ (s ++ '"' :: (w ++ '\\' :: 'u' :: ds))
  | scalar {σ : List Bracket} {s v : List Char} : Beginning .value σ s →
      Reached room ⟨.scalar v, σ⟩ (s ++ v.reverse)
  | refused {σ : List Bracket} {u : List Char} : Reached room ⟨.refused, σ⟩ u
  | exhausted {σ : List Bracket} {u : List Char} : Deeper room u →
      Reached room ⟨.exhausted, σ⟩ u

theorem reached_descend {inside : Spot} {bracket : Bracket} (h : Beginning .value σ u)
    (hc : c ∈ ['[', '\x7b']) (hinside : Reached room ⟨inside, bracket :: σ⟩ (u ++ [c])) :
    Reached room (descend room bracket inside σ) (u ++ [c]) := by
  rw [descend]
  split
  next => exact hinside
  next hroom => exact .exhausted (h.deeper (Nat.not_lt.mp hroom) hc)

theorem reached_enter (h : Beginning .value σ u) (c : Char) :
    Reached room (enter room σ c) (u ++ [c]) := by
  rw [enter]
  split
  next hc =>
    subst hc
    exact reached_descend h (by simp) (.firstValue h blank_nil)
  next =>
    split
    next hc =>
      subst hc
      exact reached_descend h (by simp) (.firstName h blank_nil)
    next =>
      split
      next hc =>
        subst hc
        have hbefore : Beginning (beforeText false) σ u := h
        exact .text hbefore .nil
      next =>
        split
        next => exact .scalar (v := [c]) h
        next => exact .refused

theorem reached_enterName (h : Beginning .name σ u) (c : Char) :
    Reached room (enterName σ c) (u ++ [c]) := by
  rw [enterName]
  split
  next hc =>
    subst hc
    have hbefore : Beginning (beforeText true) σ u := h
    exact .text hbefore .nil
  next => exact .refused

theorem reached_follow (h : Beginning .rest σ u) (c : Char) :
    Reached room (follow σ c) (u ++ [c]) := by
  cases σ with
  | nil => exact .refused
  | cons b outer =>
      cases b with
      | array =>
          simp only [follow]
          split
          next hc => exact .value (hc ▸ .item h blank_nil)
          next =>
            split
            next hc => exact .done (hc ▸ .closeArray h blank_nil)
            next => exact .refused
      | object =>
          simp only [follow]
          split
          next hc => exact .name (hc ▸ .member h blank_nil)
          next =>
            split
            next hc => exact .done (hc ▸ .closeObject h blank_nil)
            next => exact .refused

theorem Reached.step (h : Reached room scan u) (c : Char) :
    Reached room (scan.step room c) (u ++ [c]) := by
  cases h with
  | value h =>
      simp only [Scan.step]
      split
      next hc => exact .value (h.concat hc)
      next => exact reached_enter h c
  | firstValue h hw =>
      simp only [Scan.step]
      split
      next hc => simpa using Reached.firstValue h (hw.concat hc)
      next =>
        split
        next hc =>
          subst hc
          exact .done (.emptyArray h hw blank_nil)
        next => exact reached_enter (.array h hw) c
  | name h =>
      simp only [Scan.step]
      split
      next hc => exact .name (h.concat hc)
      next => exact reached_enterName h c
  | firstName h hw =>
      simp only [Scan.step]
      split
      next hc => simpa using Reached.firstName h (hw.concat hc)
      next =>
        split
        next hc =>
          subst hc
          exact .done (.emptyObject h hw blank_nil)
        next => exact reached_enterName (.object h hw) c
  | colon h hq hw =>
      simp only [Scan.step]
      split
      next hc => simpa using Reached.colon h hq (hw.concat hc)
      next =>
        split
        next hc =>
          subst hc
          exact .value (.named h hq hw blank_nil)
        next => exact .refused
  | done h =>
      simp only [Scan.step]
      split
      next hc => exact .done (h.concat hc)
      next => exact reached_follow h c
  | @text σ s w us isName h hw =>
      simp only [Scan.step]
      split
      next hc =>
        subst hc
        have hq : json.IsLiteral ('"' :: w ++ ['"']) us := ⟨w, hw, rfl⟩
        cases isName with
        | true => simpa using Reached.colon h hq blank_nil
        | false => simpa using Reached.done (.text h hq blank_nil)
      next =>
        split
        next hc =>
          subst hc
          simpa using Reached.escape h hw
        next =>
          split
          next hc => simpa using Reached.text h (denotes_raw hw hc)
          next => exact .refused
  | @escape σ s w us isName h hw =>
      simp only [Scan.step]
      split
      next hc =>
        subst hc
        have hunit : Reached room ⟨.unit isName 3, σ⟩ (s ++ '"' :: (w ++ '\\' :: 'u' :: [])) :=
          .unit h hw rfl (by simp)
        simpa using hunit
      next =>
        split
        next hc =>
          obtain ⟨d, hd⟩ := Option.isSome_iff_exists.mp hc
          simpa using Reached.text h (denotes_letter hw hd)
        next => exact .refused
  | @unit σ s w ds us isName left h hw hn hd =>
      simp only [Scan.step]
      split
      next => exact .refused
      next hc =>
        have hds : ∀ d ∈ ds ++ [c], (hexDigit? d).isSome = true := by
          intro d hd'
          rcases List.mem_append.mp hd' with hd' | hd'
          · exact hd d hd'
          · rw [List.mem_singleton.mp hd']
            exact Option.isSome_iff_ne_none.mpr (by simpa using hc)
        cases left with
        | zero =>
            -- the fourth digit completes the escape, and the text goes on
            obtain ⟨us', hu⟩ := denotes_unit hw (s := ds ++ [c]) (by simp; omega) hds
            simpa using Reached.text h hu
        | succ n => simpa using Reached.unit h hw (by simp; omega) hds
  | @scalar σ s v h =>
      simp only [Scan.step]
      split
      next => simpa using Reached.scalar (v := c :: v) h
      next =>
        split
        next hv =>
          have hrest : Beginning .rest σ (s ++ v.reverse) := by
            simpa using Beginning.scalar h hv blank_nil
          split
          next hc => exact .done (hrest.concat hc)
          next => exact reached_follow hrest c
        next => exact .refused
  | refused => exact .refused
  | exhausted h => exact .exhausted (h.concat c)

theorem Reached.foldl (h : Reached room scan u) (t : List Char) :
    Reached room (t.foldl (Scan.step room) scan) (u ++ t) := by
  induction t generalizing scan u with
  | nil => simpa using h
  | cons c t ih => simpa using ih (h.step c)

theorem reached_run (room : Nat) (s : List Char) : Reached room (run room s) s :=
  Reached.foldl (.value (.blank blank_nil)) s

/-- What the scan of a beginning comes to if there is room enough. -/
inductive Stands : Part → List Bracket → Scan → Prop
  | value {σ : List Bracket} : Stands .value σ ⟨.value, σ⟩
  | firstValue {σ : List Bracket} : Stands .value (.array :: σ) ⟨.firstValue, .array :: σ⟩
  | name {σ : List Bracket} : Stands .name σ ⟨.name, σ⟩
  | firstName {σ : List Bracket} : Stands .name (.object :: σ) ⟨.firstName, .object :: σ⟩
  | done {σ : List Bracket} : Stands .rest σ ⟨.done, σ⟩
  | scalar {σ : List Bracket} {v : List Char} : isScalar v.reverse = true →
      Stands .rest σ ⟨.scalar v, σ⟩

theorem isScalarChar_of_isJsonSpace (h : isJsonSpace c = true) : isScalarChar c = false := by
  simp only [isJsonSpace, Bool.or_eq_true, beq_iff_eq] at h
  rcases h with ((rfl | rfl) | rfl) | rfl <;> decide

theorem Stands.blank {p : Part} (h : Stands p σ scan) (hw : Blank w) :
    Stands p σ (w.foldl (step room) scan) := by
  induction w generalizing scan with
  | nil => exact h
  | cons c w ih =>
      obtain ⟨hc, hw⟩ := List.forall_mem_cons.mp hw
      have hstep : Stands p σ (scan.step room c) := by
        cases h with
        | value => simpa [step, hc] using Stands.value
        | firstValue => simpa [step, hc] using Stands.firstValue
        | name => simpa [step, hc] using Stands.name
        | firstName => simpa [step, hc] using Stands.firstName
        | done => simpa [step, hc] using Stands.done
        -- white space ends a number or a word, so the value is complete
        | scalar hv => simpa [step, hc, hv, isScalarChar_of_isJsonSpace hc] using Stands.done
      exact ih hstep hw

theorem step_value (h : Stands .value σ scan) (hs : isJsonSpace c = false) (hc : c ≠ ']') :
    scan.step room c = enter room σ c := by
  cases h <;> simp [step, hs, hc]

theorem step_name (h : Stands .name σ scan) (hs : isJsonSpace c = false) (hc : c ≠ '\x7d') :
    scan.step room c = enterName σ c := by
  cases h <;> simp [step, hs, hc]

theorem step_rest (h : Stands .rest σ scan) (hs : isJsonSpace c = false)
    (hc : isScalarChar c = false) : scan.step room c = follow σ c := by
  cases h with
  | done => simp [step, hs]
  | scalar hv => simp [step, hs, hc, hv]

theorem foldl_escape {e : List Char} (h : JsonEscape e us) :
    ('\\' :: e).foldl (step room) ⟨.text isName, σ⟩ = ⟨.text isName, σ⟩ := by
  cases h with
  | @letter e d he =>
      have hu := mem_shortEscapes.mp he
      have hne : e ≠ 'u' := by
        rintro rfl
        cases hu
      simp [step, hne, hu]
  | unit hu =>
      simp only [hex4?, Option.bind_eq_bind, Option.bind_eq_some_iff] at hu
      obtain ⟨_, ha, _, hb, _, hc, _, hd, -⟩ := hu
      simp [step, ha, hb, hc, hd]

theorem foldl_text (h : json.Denotes w us) :
    w.foldl (step room) ⟨.text isName, σ⟩ = ⟨.text isName, σ⟩ := by
  induction h with
  | nil => rfl
  | @plain c w us hc _ ih =>
      have hstep : step room ⟨.text isName, σ⟩ c = ⟨.text isName, σ⟩ := by
        simp [step, hc.1, hc.2.1, isRaw_iff.mpr hc]
      rw [List.foldl_cons, hstep, ih]
  | escape he _ ih => rw [← List.cons_append, List.foldl_append, foldl_escape he, ih]

theorem foldl_value_literal {q : List Char} (h : Stands .value σ scan)
    (hq : json.IsLiteral q us) : q.foldl (step room) scan = ⟨.done, σ⟩ := by
  obtain ⟨w, hw, rfl⟩ := hq
  have he : enter room σ '"' = ⟨.text false, σ⟩ := rfl
  rw [List.cons_append, List.foldl_cons, step_value h (by decide) (by decide), he,
    List.foldl_append, foldl_text hw]
  rfl

theorem foldl_name_literal {q : List Char} (h : Stands .name σ scan)
    (hq : json.IsLiteral q us) : q.foldl (step room) scan = ⟨.colon, σ⟩ := by
  obtain ⟨w, hw, rfl⟩ := hq
  have he : enterName σ '"' = ⟨.text true, σ⟩ := rfl
  rw [List.cons_append, List.foldl_cons, step_name h (by decide) (by decide), he,
    List.foldl_append, foldl_text hw]
  rfl

theorem foldl_scalar_chars (h : ∀ c ∈ t, isScalarChar c = true) (v : List Char) :
    t.foldl (step room) ⟨.scalar v, σ⟩ = ⟨.scalar (t.reverse ++ v), σ⟩ := by
  induction t generalizing v with
  | nil => rfl
  | cons c t ih =>
      obtain ⟨hc, ht⟩ := List.forall_mem_cons.mp h
      have hstep : step room ⟨.scalar v, σ⟩ c = ⟨.scalar (c :: v), σ⟩ := by simp [step, hc]
      rw [List.foldl_cons, hstep, ih ht]
      simp

theorem enter_of_isScalarChar (hc : isScalarChar c = true) :
    enter room σ c = ⟨.scalar [c], σ⟩ := by
  have hne : ∀ d, isScalarChar d = false → c ≠ d := by
    rintro d hd rfl
    simp [hc] at hd
  rw [enter, if_neg (hne '[' (by decide)), if_neg (hne '\x7b' (by decide)),
    if_neg (hne '"' (by decide)), if_pos hc]

theorem foldl_scalar (h : Stands .value σ scan) (hv : isScalar v = true) :
    v.foldl (step room) scan = ⟨.scalar v.reverse, σ⟩ := by
  obtain ⟨hne, hchars⟩ := isScalarChar_of_isScalar hv
  cases v with
  | nil => exact absurd rfl hne
  | cons c t =>
      obtain ⟨hc, ht⟩ := List.forall_mem_cons.mp hchars
      have hs : isJsonSpace c = false := by
        rw [← Bool.not_eq_true]
        intro hs
        simp [isScalarChar_of_isJsonSpace hs] at hc
      have hb : c ≠ ']' := by
        rintro rfl
        simp [isScalarChar] at hc
      rw [List.foldl_cons, step_value h hs hb, enter_of_isScalarChar hc, foldl_scalar_chars ht]
      simp

def Arrives (p : Part) (σ : List Bracket) (scan : Scan) : Prop :=
  Stands p σ scan ∨ scan.spot = .exhausted

theorem foldl_exhausted (h : scan.spot = .exhausted) (t : List Char) :
    (t.foldl (step room) scan).spot = .exhausted := by
  induction t generalizing scan with
  | nil => exact h
  | cons c t ih =>
      refine ih ?_
      rw [step, h]
      exact h

theorem Arrives.append {p p' : Part} {σ' : List Bracket} (h : Arrives p σ (run room s))
    (ht : ∀ scan, Stands p σ scan → Arrives p' σ' (t.foldl (step room) scan)) :
    Arrives p' σ' (run room (s ++ t)) := by
  rw [run, List.foldl_append]
  rcases h with h | h
  · exact ht _ h
  · exact .inr (foldl_exhausted h t)

theorem Arrives.blank {p : Part} (h : Arrives p σ scan) (hw : Blank w) :
    Arrives p σ (w.foldl (step room) scan) := by
  rcases h with h | h
  · exact .inl (h.blank hw)
  · exact .inr (foldl_exhausted h w)

theorem foldl_blank (h : ∀ c, isJsonSpace c = true → step room scan c = scan) (hw : Blank w) :
    w.foldl (step room) scan = scan := by
  induction w with
  | nil => rfl
  | cons c w ih =>
      obtain ⟨hc, hw⟩ := List.forall_mem_cons.mp hw
      rw [List.foldl_cons, h c hc, ih hw]

theorem step_array (h : Stands .value σ scan) :
    scan.step room '[' = descend room .array .firstValue σ :=
  step_value h (by decide) (by decide)

theorem step_object (h : Stands .value σ scan) :
    scan.step room '\x7b' = descend room .object .firstName σ :=
  step_value h (by decide) (by decide)

theorem arrives_descend {p : Part} {inside : Spot} {bracket : Bracket}
    (hstep : scan.step room b = descend room bracket inside outer)
    (ht : Arrives p σ (t.foldl (step room) ⟨inside, bracket :: outer⟩)) :
    Arrives p σ ((b :: t).foldl (step room) scan) := by
  rw [List.foldl_cons, hstep, descend]
  split
  next => exact ht
  next => exact .inr (foldl_exhausted rfl t)

theorem arrives_run {p : Part} (room : Nat) (h : Beginning p σ u) :
    Arrives p σ (run room u) := by
  induction h with
  | blank hw => exact Arrives.blank (.inl .value) hw
  | array _ hw ih =>
      refine ih.append fun scan h => ?_
      exact arrives_descend (step_array h) (Arrives.blank (.inl .firstValue) hw)
  | item _ hw ih =>
      refine ih.append fun scan h => ?_
      rw [List.foldl_cons, step_rest h (by decide) (by decide)]
      exact Arrives.blank (.inl .value) hw
  | object _ hw ih =>
      refine ih.append fun scan h => ?_
      exact arrives_descend (step_object h) (Arrives.blank (.inl .firstName) hw)
  | member _ hw ih =>
      refine ih.append fun scan h => ?_
      rw [List.foldl_cons, step_rest h (by decide) (by decide)]
      exact Arrives.blank (.inl .name) hw
  | named _ hq hw hw' ih =>
      rw [List.append_assoc, List.append_assoc]
      refine ih.append fun scan h => ?_
      rw [List.foldl_append, foldl_name_literal h hq, List.foldl_append,
        foldl_blank (by simp +contextual [step]) hw, List.foldl_cons]
      exact Arrives.blank (.inl .value) hw'
  | @scalar σ s v w _ hv hw ih =>
      rw [List.append_assoc]
      refine ih.append fun scan h => ?_
      rw [List.foldl_append, foldl_scalar h hv]
      exact Arrives.blank (.inl (.scalar (by simpa using hv))) hw
  | text _ hq hw ih =>
      rw [List.append_assoc]
      refine ih.append fun scan h => ?_
      rw [List.foldl_append, foldl_value_literal h hq]
      exact Arrives.blank (.inl .done) hw
  | emptyArray _ hw hw' ih =>
      rw [List.append_assoc]
      refine ih.append fun scan h => ?_
      rw [List.cons_append]
      refine arrives_descend (step_array h) ?_
      rw [List.foldl_append, foldl_blank (by simp +contextual [step]) hw, List.foldl_cons]
      exact Arrives.blank (.inl .done) hw'
  | emptyObject _ hw hw' ih =>
      rw [List.append_assoc]
      refine ih.append fun scan h => ?_
      rw [List.cons_append]
      refine arrives_descend (step_object h) ?_
      rw [List.foldl_append, foldl_blank (by simp +contextual [step]) hw, List.foldl_cons]
      exact Arrives.blank (.inl .done) hw'
  | closeArray _ hw ih =>
      refine ih.append fun scan h => ?_
      rw [List.foldl_cons, step_rest h (by decide) (by decide)]
      exact Arrives.blank (.inl .done) hw
  | closeObject _ hw ih =>
      refine ih.append fun scan h => ?_
      rw [List.foldl_cons, step_rest h (by decide) (by decide)]
      exact Arrives.blank (.inl .done) hw

theorem step_exhausted (h : Stands .value σ scan) (hroom : room ≤ σ.length)
    (hb : b ∈ ['[', '\x7b']) : (scan.step room b).spot = .exhausted := by
  have hlt : ¬ σ.length < room := by omega
  simp only [List.mem_cons, List.not_mem_nil, or_false] at hb
  rcases hb with rfl | rfl <;>
    simp [step_value h, isJsonSpace, enter, descend, hlt]

end Scan

theorem exceeds_iff : exceeds room s = true ↔ Deeper room s := by
  rw [exceeds, beq_iff_eq]
  constructor
  · intro h
    have hr := Scan.reached_run room s
    generalize Scan.run room s = scan at h hr
    -- a scan that stands anywhere else is not exhausted
    cases hr with
    | exhausted hd => exact hd
    | _ => cases h
  · rintro ⟨σ, u, b, rest, hu, hroom, hb, rfl⟩
    rw [Scan.run, List.foldl_append, List.foldl_cons]
    apply Scan.foldl_exhausted
    -- the scan has come to the end of the beginning, or has run out of room in it
    rcases Scan.arrives_run room hu with h | h
    · exact Scan.step_exhausted h hroom hb
    · exact Scan.foldl_exhausted h [b]

def Stack.Overflows (k : Stack) (s : List Char) : Prop :=
  Deeper k.room s ∨ Deeper k.safe s ∧ k.edge s = true

theorem Stack.exhausts_iff {k : Stack} : k.exhausts s = true ↔ k.Overflows s := by
  simp [Stack.exhausts, Stack.Overflows, exceeds_iff]

theorem beginning_brackets (n : Nat) :
    Beginning .value (List.replicate n .array) (List.replicate n '[') := by
  induction n with
  | zero => exact .blank blank_nil
  | succ n ih =>
      rw [List.replicate_succ, List.replicate_succ']
      exact ih.array blank_nil

theorem deeper_brackets {n m : Nat} (h : n < m) : Deeper n (List.replicate m '[') := by
  refine ⟨_, _, '[', List.replicate (m - n - 1) '[', beginning_brackets n, by simp, by simp, ?_⟩
  rw [← List.replicate_succ, ← List.replicate_append_replicate.symm]
  congr
  omega

end AssetTranspiler.Nesting
