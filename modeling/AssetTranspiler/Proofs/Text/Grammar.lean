import AssetTranspiler.Proofs.Text.Literal

/-!
Grammars of string literals. Between its quotation marks a literal has plain characters and escapes,
and it denotes code units. A literal ends at the first quotation mark that is not escaped, and one
that is as long as what it denotes has no escapes at all. The reader of JSON literals accepts exactly
what the grammar of JSON has, as far as it denotes a text.
-/

namespace AssetTranspiler.Literal

open Text

def utf16 (s : List Char) : List Nat :=
  s.flatMap units

/-- The number of characters that code units make up. -/
def points (us : List Nat) : Nat :=
  us.countP fun u => !isLowSurrogate u

/-- What may stand between the quotation marks of a literal: plain characters, and what may follow a
backslash, with the code units that it denotes. -/
structure Grammar where
  plain : Char → Prop
  escape : List Char → List Nat → Prop
  plain_ne : ∀ c, plain c → c ≠ '"' ∧ c ≠ '\\'
  escape_cons : ∀ e us, escape e us → ∃ c r, e = c :: r ∧ ∀ d ∈ r, d ≠ '"' ∧ d ≠ '\\'
  escape_points : ∀ e us, escape e us → points us ≤ e.length

namespace Grammar

inductive Denotes (g : Grammar) : List Char → List Nat → Prop
  | nil : Denotes g [] []
  | plain {c : Char} {w : List Char} {us : List Nat} : g.plain c → Denotes g w us →
      Denotes g (c :: w) (units c ++ us)
  | escape {e w : List Char} {vs us : List Nat} : g.escape e vs → Denotes g w us →
      Denotes g ('\\' :: (e ++ w)) (vs ++ us)

def IsLiteral (g : Grammar) (q : List Char) (us : List Nat) : Prop :=
  ∃ w, g.Denotes w us ∧ q = '"' :: w ++ ['"']

end Grammar

inductive Closed : List Char → Prop
  | nil : Closed []
  | plain {c : Char} {w : List Char} : c ≠ '"' → c ≠ '\\' → Closed w → Closed (c :: w)
  | escaped (c : Char) {w : List Char} : Closed w → Closed ('\\' :: c :: w)

theorem Closed.append {r w : List Char} (hr : ∀ d ∈ r, d ≠ '"' ∧ d ≠ '\\') (hw : Closed w) :
    Closed (r ++ w) := by
  induction r with
  | nil => exact hw
  | cons d r ih =>
      obtain ⟨hd, hr⟩ := List.forall_mem_cons.mp hr
      exact .plain hd.1 hd.2 (ih hr)

theorem Closed.unique {w w' r r' : List Char} (h : Closed w) (h' : Closed w')
    (heq : w ++ '"' :: r = w' ++ '"' :: r') : w = w' ∧ r = r' := by
  induction h generalizing w' with
  | nil =>
      cases h' with
      | nil => exact ⟨rfl, by simpa using heq⟩
      | plain hq _ _ => exact absurd (List.cons.inj heq).1.symm hq
      | escaped c _ => exact absurd (List.cons.inj heq).1 (by decide)
  | @plain c w hq hb _ ih =>
      cases h' with
      | nil => exact absurd (List.cons.inj heq).1 hq
      | plain _ _ hw' =>
          obtain ⟨rfl, hrest⟩ := List.cons.inj heq
          obtain ⟨rfl, hr⟩ := ih hw' hrest
          exact ⟨rfl, hr⟩
      | escaped d _ => exact absurd (List.cons.inj heq).1 hb
  | @escaped c w _ ih =>
      cases h' with
      | nil => exact absurd (List.cons.inj heq).1 (by decide)
      | plain _ hb _ => exact absurd (List.cons.inj heq).1.symm hb
      | escaped d hw' =>
          obtain ⟨rfl, hrest⟩ := List.cons.inj (List.cons.inj heq).2
          obtain ⟨rfl, hr⟩ := ih hw' hrest
          exact ⟨rfl, hr⟩

theorem points_append (us vs : List Nat) : points (us ++ vs) = points us + points vs :=
  List.countP_append

theorem isLowSurrogate_of_high {u : Nat} (h : isHighSurrogate u = true) :
    isLowSurrogate u = false := by
  simp only [isHighSurrogate, Bool.and_eq_true, decide_eq_true_eq] at h
  simp only [isLowSurrogate, Bool.and_eq_false_iff, decide_eq_false_iff_not]
  omega

theorem points_units (c : Char) : points (units c) = 1 := by
  rcases units_cases c with ⟨-, h⟩ | ⟨u, v, h, hu, hv, -⟩
  · rw [h]
    simp [points, (not_surrogate c).2]
  · rw [h]
    simp [points, isLowSurrogate_of_high hu, hv]

theorem points_utf16 (s : List Char) : points (utf16 s) = s.length := by
  induction s with
  | nil => rfl
  | cons c s ih =>
      rw [utf16, List.flatMap_cons, points_append, points_units, ← utf16, ih, List.length_cons]
      omega

namespace Grammar.Denotes

variable {g : Grammar} {w : List Char} {us : List Nat}

theorem closed (h : g.Denotes w us) : Closed w := by
  induction h with
  | nil => exact .nil
  | plain hc _ ih => exact .plain (g.plain_ne _ hc).1 (g.plain_ne _ hc).2 ih
  | escape he _ ih =>
      obtain ⟨c, r, rfl, hr⟩ := g.escape_cons _ _ he
      exact .escaped c (ih.append hr)

theorem of_plain (h : ∀ c ∈ w, g.plain c) : g.Denotes w (utf16 w) := by
  induction w with
  | nil => exact .nil
  | cons c w ih =>
      obtain ⟨hc, hw⟩ := List.forall_mem_cons.mp h
      exact .plain hc (ih hw)

theorem mono {g' : Grammar} (hp : ∀ c, g.plain c → g'.plain c)
    (he : ∀ e us, g.escape e us → g'.escape e us) (h : g.Denotes w us) : g'.Denotes w us := by
  induction h with
  | nil => exact .nil
  | plain hc _ ih => exact .plain (hp _ hc) ih
  | escape hv _ ih => exact .escape (he _ _ hv) ih

theorem points_le (h : g.Denotes w us) : points us ≤ w.length := by
  induction h with
  | nil => simp [points]
  | plain _ _ ih =>
      rw [points_append, points_units, List.length_cons]
      omega
  | escape he _ ih =>
      have := g.escape_points _ _ he
      rw [points_append, List.length_cons, List.length_append]
      omega

theorem exists_escape (h : g.Denotes ('\\' :: w) us) :
    ∃ e w' vs us', w = e ++ w' ∧ us = vs ++ us' ∧ g.escape e vs ∧ g.Denotes w' us' := by
  cases h with
  | plain hc _ => exact absurd rfl (g.plain_ne _ hc).2
  | escape he hw => exact ⟨_, _, _, _, rfl, rfl, he, hw⟩

theorem plain_of_points (h : g.Denotes w us) (hp : points us = w.length) :
    ∀ c ∈ w, g.plain c := by
  induction h with
  | nil => simp
  | plain hc _ ih =>
      rw [points_append, points_units, List.length_cons] at hp
      exact List.forall_mem_cons.mpr ⟨hc, ih (by omega)⟩
  | escape he hw _ =>
      -- an escape is longer than what it denotes, and the rest cannot make up for it
      have := g.escape_points _ _ he
      have := hw.points_le
      rw [points_append, List.length_cons, List.length_append] at hp
      omega

end Grammar.Denotes

def shortEscapes : List (Char × Char) :=
  [('"', '"'), ('\\', '\\'), ('/', '/'), ('b', '\x08'), ('f', '\x0c'), ('n', '\n'), ('r', '\r'),
    ('t', '\t')]

inductive JsonEscape : List Char → List Nat → Prop
  | letter {e c : Char} : (e, c) ∈ shortEscapes → JsonEscape [e] (units c)
  | unit {a b c d : Char} {u : Nat} : hex4? a b c d = some u → JsonEscape ['u', a, b, c, d] [u]

theorem mem_shortEscapes {e c : Char} : (e, c) ∈ shortEscapes ↔ unescape? e = some c := by
  constructor
  · intro h
    simp only [shortEscapes, List.mem_cons, Prod.mk.injEq, List.not_mem_nil, or_false] at h
    rcases h with ⟨rfl, rfl⟩ | ⟨rfl, rfl⟩ | ⟨rfl, rfl⟩ | ⟨rfl, rfl⟩ | ⟨rfl, rfl⟩ | ⟨rfl, rfl⟩ |
      ⟨rfl, rfl⟩ | ⟨rfl, rfl⟩ <;> rfl
  · intro h
    unfold unescape? at h
    split at h <;> first | cases h; decide | cases h

theorem ne_of_hexDigit? {c : Char} {n : Nat} (h : hexDigit? c = some n) : c ≠ '"' ∧ c ≠ '\\' := by
  constructor <;> rintro rfl <;> cases h

theorem ne_of_hex4? {a b c d : Char} {u : Nat} (h : hex4? a b c d = some u) :
    ∀ e ∈ [a, b, c, d], e ≠ '"' ∧ e ≠ '\\' := by
  simp only [hex4?, Option.bind_eq_bind, Option.bind_eq_some_iff] at h
  obtain ⟨_, ha, _, hb, _, hc, _, hd, -⟩ := h
  simp [ne_of_hexDigit? ha, ne_of_hexDigit? hb, ne_of_hexDigit? hc, ne_of_hexDigit? hd]

theorem points_le_length (us : List Nat) : points us ≤ us.length :=
  List.countP_le_length

theorem JsonEscape.cons {e : List Char} {us : List Nat} (h : JsonEscape e us) :
    ∃ c r, e = c :: r ∧ ∀ d ∈ r, d ≠ '"' ∧ d ≠ '\\' := by
  cases h with
  | letter _ => exact ⟨_, [], rfl, by simp⟩
  | unit hu => exact ⟨_, _, rfl, ne_of_hex4? hu⟩

theorem JsonEscape.points_le {e : List Char} {us : List Nat} (h : JsonEscape e us) :
    points us ≤ e.length := by
  cases h with
  | letter _ => exact Nat.le_of_eq (points_units _)
  | @unit _ _ _ _ u _ =>
      have := points_le_length [u]
      simp only [List.length_cons, List.length_nil] at this ⊢
      omega

def json : Grammar where
  plain c := c ≠ '"' ∧ c ≠ '\\' ∧ 0x20 ≤ c.toNat
  escape := JsonEscape
  plain_ne _ h := ⟨h.1, h.2.1⟩
  escape_cons _ _ h := h.cons
  escape_points _ _ h := h.points_le

theorem isRaw_iff {c : Char} : isRaw c = true ↔ json.plain c := by
  simp [isRaw, json, and_assoc]

theorem toNat_ofNat {n : Nat} (h : n < 0xD800 ∨ 0xDFFF < n ∧ n < 0x110000) :
    (Char.ofNat n).toNat = n := by
  have hv : n.isValidChar := h
  rw [Char.ofNat, dif_pos hv]
  exact UInt32.toNat_ofNatLT

theorem units_ofNat {u : Nat} (hu : u < 0x10000) (hh : isHighSurrogate u = false)
    (hl : isLowSurrogate u = false) : units (Char.ofNat u) = [u] := by
  simp only [isHighSurrogate, isLowSurrogate, Bool.and_eq_false_iff, decide_eq_false_iff_not]
    at hh hl
  have hn : (Char.ofNat u).toNat = u := toNat_ofNat (by omega)
  simp [units, hn, hu]

theorem units_ofSurrogates {u v : Nat} (hu : isHighSurrogate u = true)
    (hv : isLowSurrogate v = true) : units (ofSurrogates u v) = [u, v] := by
  simp only [isHighSurrogate, isLowSurrogate, Bool.and_eq_true, decide_eq_true_eq] at hu hv
  have hn : (ofSurrogates u v).toNat = 0x10000 + 0x400 * (u - 0xD800) + (v - 0xDC00) :=
    toNat_ofNat (by omega)
  have hbig : ¬ 0x10000 + 0x400 * (u - 0xD800) + (v - 0xDC00) < 0x10000 := by omega
  rw [units, hn]
  simp only [hbig, if_false, List.cons.injEq, and_true]
  omega

theorem units_append_inj {c d : Char} {us vs : List Nat} (h : units c ++ us = units d ++ vs) :
    c = d ∧ us = vs := by
  rcases units_cases c with ⟨-, hc⟩ | ⟨u, v, hc, hu, hv, rfl⟩ <;>
    rcases units_cases d with ⟨-, hd⟩ | ⟨u', v', hd, hu', hv', rfl⟩ <;>
    rw [hc, hd] at h <;>
    simp only [List.cons_append, List.nil_append, List.cons.injEq] at h
  · exact ⟨Char.toNat_inj.mp h.1, h.2⟩
  · exact absurd hu' (by simp [← h.1, (not_surrogate c).1])
  · exact absurd hu (by simp [h.1, (not_surrogate d).1])
  · obtain ⟨rfl, rfl, rfl⟩ := h
    exact ⟨rfl, rfl⟩

theorem hexDigit?_lt {c : Char} {n : Nat} (h : hexDigit? c = some n) : n < 16 := by
  have hzero : '0'.toNat = 0x30 := rfl
  have ha : 'a'.toNat = 0x61 := rfl
  have hA : 'A'.toNat = 0x41 := rfl
  unfold hexDigit? at h
  split at h
  next hc =>
    have hle : c.toNat ≤ 0x39 := hc.2
    obtain rfl := Option.some.inj h
    omega
  next =>
    split at h
    next hc =>
      have hle : c.toNat ≤ 0x66 := hc.2
      obtain rfl := Option.some.inj h
      omega
    next =>
      split at h
      next hc =>
        have hle : c.toNat ≤ 0x46 := hc.2
        obtain rfl := Option.some.inj h
        omega
      next => cases h

theorem hex4?_lt {a b c d : Char} {u : Nat} (h : hex4? a b c d = some u) : u < 0x10000 := by
  simp only [hex4?, Option.bind_eq_bind, Option.bind_eq_some_iff, Option.pure_def,
    Option.some.injEq] at h
  obtain ⟨_, ha, _, hb, _, hc, _, hd, rfl⟩ := h
  have := hexDigit?_lt ha
  have := hexDigit?_lt hb
  have := hexDigit?_lt hc
  have := hexDigit?_lt hd
  omega

variable {s w : List Char} {us : List Nat}

theorem json_letter {e c : Char} (h : (e, c) ∈ shortEscapes) (hw : json.Denotes w us) :
    json.Denotes ('\\' :: e :: w) (units c ++ us) := by
  have he : json.escape [e] (units c) := .letter h
  exact .escape he hw

theorem json_unit {a b c d : Char} {u : Nat} (h : hex4? a b c d = some u)
    (hw : json.Denotes w us) : json.Denotes ('\\' :: 'u' :: a :: b :: c :: d :: w) (u :: us) := by
  have he : json.escape ['u', a, b, c, d] [u] := .unit h
  exact .escape he hw

theorem denotes_of_spells (h : Spells s w) : json.Denotes w (utf16 s) := by
  induction h with
  | nil => exact .nil
  | raw hc _ ih => exact .plain (isRaw_iff.mp hc) ih
  | letter he _ ih => exact json_letter (mem_shortEscapes.mpr he) ih
  | unit hu hh hl _ ih =>
      rw [utf16, List.flatMap_cons, units_ofNat (hex4?_lt hu) hh hl]
      exact json_unit hu ih
  | pair hu hv hh hl _ ih =>
      rw [utf16, List.flatMap_cons, units_ofSurrogates hh hl]
      exact json_unit hu (json_unit hv ih)

theorem exists_of_units_append {c : Char} (h : units c ++ us = utf16 s) :
    ∃ t, s = c :: t ∧ us = utf16 t := by
  cases s with
  | nil => rcases units_cases c with ⟨-, hc⟩ | ⟨u, v, hc, -⟩ <;> simp [hc, utf16] at h
  | cons d t =>
      obtain ⟨rfl, hus⟩ := units_append_inj h
      exact ⟨t, rfl, hus⟩

theorem units_append_ne {c : Char} {v : Nat} (hv : isLowSurrogate v = true) {vs : List Nat} :
    units c ++ us ≠ v :: vs := by
  intro h
  rcases units_cases c with ⟨-, hc⟩ | ⟨u, x, hc, hu, -⟩ <;> rw [hc] at h <;>
    obtain ⟨rfl, -⟩ := List.cons.inj h
  · simp [(not_surrogate c).2] at hv
  · simp [isLowSurrogate_of_high hu] at hv

theorem spells_of_denotes (h : json.Denotes w us) :
    (∀ s, us = utf16 s → Spells s w) ∧
      ∀ v s, isLowSurrogate v = true → us = v :: utf16 s → ∃ a b c d w',
        w = '\\' :: 'u' :: a :: b :: c :: d :: w' ∧ hex4? a b c d = some v ∧ Spells s w' := by
  -- the second half of a pair has an escape of its own, which the first needs to be a character
  induction h with
  | nil =>
      refine ⟨?_, fun v s _ h => by cases h⟩
      intro s hs
      cases s with
      | nil => exact .nil
      | cons c s => rcases units_cases c with ⟨-, hc⟩ | ⟨u, v, hc, -⟩ <;> simp [hc, utf16] at hs
  | @plain c w us hc _ ih =>
      refine ⟨?_, fun v s hv h => absurd h (units_append_ne hv)⟩
      intro s hs
      obtain ⟨t, rfl, ht⟩ := exists_of_units_append hs
      exact .raw (isRaw_iff.mpr hc) (ih.1 t ht)
  | @escape e w vs us he _ ih =>
      cases he with
      | @letter e c hm =>
          refine ⟨?_, fun v s hv h => absurd h (units_append_ne hv)⟩
          intro s hs
          obtain ⟨t, rfl, ht⟩ := exists_of_units_append hs
          exact .letter (mem_shortEscapes.mp hm) (ih.1 t ht)
      | @unit a b c d u hu =>
          refine ⟨?_, ?_⟩
          · intro s hs
            cases s with
            | nil => cases hs
            | cons x t =>
                rcases units_cases x with ⟨-, hx⟩ | ⟨y, z, hx, hy, hz, rfl⟩ <;>
                  rw [utf16, List.flatMap_cons, hx] at hs <;>
                  obtain ⟨rfl, hus⟩ := List.cons.inj hs
                · have hspell := Spells.unit hu (not_surrogate x).1 (not_surrogate x).2 (ih.1 t hus)
                  rwa [Char.ofNat_toNat] at hspell
                · obtain ⟨a', b', c', d', w', rfl, hv, hw'⟩ := ih.2 z t hz hus
                  exact .pair hu hv hy hz hw'
          · intro v s hv hs
            obtain ⟨rfl, hus⟩ := List.cons.inj hs
            exact ⟨a, b, c, d, w, rfl, hu, ih.1 s hus⟩

theorem spells_iff : Spells s w ↔ json.Denotes w (utf16 s) :=
  ⟨denotes_of_spells, fun h => (spells_of_denotes h).1 s rfl⟩

theorem consRead_eq_some {c : Char} {read : Option (List Char × List Char)} {rest : List Char} :
    (do
      let (t, r) ← read
      return (c :: t, r)) = some (s, rest) ↔ ∃ t, read = some (t, rest) ∧ c :: t = s := by
  cases read with
  | none => simp
  | some found =>
      obtain ⟨t, r⟩ := found
      simp only [Option.bind_eq_bind, Option.bind_some, Option.pure_def, Option.some.injEq,
        Prod.mk.injEq]
      constructor
      · rintro ⟨hs, rfl⟩
        exact ⟨t, ⟨rfl, rfl⟩, hs⟩
      · rintro ⟨_, ⟨rfl, rfl⟩, hs⟩
        exact ⟨hs, rfl⟩

theorem spells_of_readBody? {t rest : List Char} (h : readBody? t = some (s, rest)) :
    ∃ w, t = w ++ '"' :: rest ∧ Spells s w := by
  fun_induction readBody? t generalizing s with
  | case1 => cases h
  | case2 r =>
      cases h
      exact ⟨[], rfl, .nil⟩
  | case3 a b c d r ihPair ih =>
      obtain ⟨u, hu, h⟩ := Option.bind_eq_some_iff.mp h
      split at h
      next hhigh =>
        -- half a pair has a value only together with the escape of the other half
        split at h
        next a' b' c' d' r' =>
          obtain ⟨v, hv, h⟩ := Option.bind_eq_some_iff.mp h
          split at h
          next hlow =>
            obtain ⟨t, ht, rfl⟩ := consRead_eq_some.mp h
            obtain ⟨w, rfl, hw⟩ := ihPair ht
            exact ⟨_, rfl, .pair hu hv hhigh hlow hw⟩
          next => cases h
        next => cases h
      next hhigh =>
        split at h
        next => cases h
        next hlow =>
          obtain ⟨t, ht, rfl⟩ := consRead_eq_some.mp h
          obtain ⟨w, rfl, hw⟩ := ih ht
          exact ⟨_, rfl, .unit hu (Bool.not_eq_true _ ▸ hhigh) (Bool.not_eq_true _ ▸ hlow) hw⟩
  | case4 e r _ ih =>
      obtain ⟨c, hc, h⟩ := Option.bind_eq_some_iff.mp h
      obtain ⟨t, ht, rfl⟩ := consRead_eq_some.mp h
      obtain ⟨w, rfl, hw⟩ := ih ht
      exact ⟨_, rfl, .letter hc hw⟩
  | case5 c r _ _ _ hraw ih =>
      obtain ⟨t, ht, rfl⟩ := consRead_eq_some.mp h
      obtain ⟨w, rfl, hw⟩ := ih ht
      exact ⟨_, rfl, .raw hraw hw⟩
  | case6 => cases h

end AssetTranspiler.Literal
