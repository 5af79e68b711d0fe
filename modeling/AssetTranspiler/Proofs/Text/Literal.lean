import AssetTranspiler.Text.Literal

namespace AssetTranspiler.Literal

open Text

inductive Spells : List Char → List Char → Prop
  | nil : Spells [] []
  | raw {c : Char} {s w : List Char} : isRaw c = true → Spells s w → Spells (c :: s) (c :: w)
  | letter {c e : Char} {s w : List Char} : unescape? e = some c → Spells s w →
      Spells (c :: s) ('\\' :: e :: w)
  | unit {a b c d : Char} {u : Nat} {s w : List Char} : hex4? a b c d = some u →
      isHighSurrogate u = false → isLowSurrogate u = false → Spells s w →
      Spells (Char.ofNat u :: s) ('\\' :: 'u' :: a :: b :: c :: d :: w)
  | pair {a b c d a' b' c' d' : Char} {u v : Nat} {s w : List Char} : hex4? a b c d = some u →
      hex4? a' b' c' d' = some v → isHighSurrogate u = true → isLowSurrogate v = true →
      Spells s w →
      Spells (ofSurrogates u v :: s)
        ('\\' :: 'u' :: a :: b :: c :: d :: '\\' :: 'u' :: a' :: b' :: c' :: d' :: w)

/-- What is written for a character if only quotation marks, backslashes and control characters are
escaped. -/
def escapeRaw (c : Char) : List Char :=
  match shortEscape? c with
  | some e => ['\\', e]
  | none => if isRaw c then [c] else '\\' :: 'u' :: hex 4 c.toNat

def quoteRaw (s : List Char) : List Char :=
  '"' :: s.flatMap escapeRaw ++ ['"']

def Quotes (q s : List Char) : Prop :=
  ∃ w, Spells s w ∧ q = '"' :: w ++ ['"']

variable {s t w x rest : List Char} {c : Char} {n : Nat}

theorem unescape?_ne_u {e : Char} (h : unescape? e = some c) : e ≠ 'u' := by
  rintro rfl
  cases h

theorem readBody?_of_spells (h : Spells s w) :
    readBody? (w ++ '"' :: rest) = some (s, rest) := by
  induction h with
  | nil => rfl
  | @raw c s w hc _ ih =>
      have hc' : c ≠ '"' ∧ c ≠ '\\' := by
        constructor <;> rintro rfl <;> cases hc
      simp [readBody?, hc, hc'.1, hc'.2, ih]
  | @letter c e s w he _ ih => simp [readBody?, unescape?_ne_u he, he, ih]
  | unit hu hh hl _ ih => simp [readBody?, hu, hh, hl, ih]
  | pair hu hv hh hl _ ih => simp [readBody?, hu, hv, hh, hl, ih]

theorem Spells.append (h : Spells s w) (h' : Spells t x) : Spells (s ++ t) (w ++ x) := by
  induction h with
  | nil => exact h'
  | raw hc _ ih => exact .raw hc ih
  | letter he _ ih => exact .letter he ih
  | unit hu hh hl _ ih => exact .unit hu hh hl ih
  | pair hu hv hh hl _ ih => exact .pair hu hv hh hl ih

theorem spells_flatMap {f : Char → List Char} (h : ∀ c, Spells [c] (f c)) (s : List Char) :
    Spells s (s.flatMap f) := by
  induction s with
  | nil => exact .nil
  | cons c s ih => exact (h c).append ih

theorem hexDigit?_hexChar (h : n < 16) : hexDigit? (hexChar n) = some n := by
  have hall : ∀ n < 16, hexDigit? (hexChar n) = some n := by decide
  exact hall n h

theorem hex4?_hex (h : n < 0x10000) :
    ∃ a b c d, hex 4 n = [a, b, c, d] ∧ hex4? a b c d = some n := by
  refine ⟨_, _, _, _, rfl, ?_⟩
  have hmod : ∀ m, m % 16 < 16 := fun m => Nat.mod_lt m (by omega)
  simp only [hex4?, hexDigit?_hexChar (hmod _), Option.bind_eq_bind, Option.bind_some,
    Option.pure_def, Option.some.injEq]
  omega

theorem not_surrogate (c : Char) :
    isHighSurrogate c.toNat = false ∧ isLowSurrogate c.toNat = false := by
  have hc : c.toNat < 0xD800 ∨ 0xDFFF < c.toNat ∧ c.toNat < 0x110000 := c.valid
  simp only [isHighSurrogate, isLowSurrogate, Bool.and_eq_false_iff, decide_eq_false_iff_not]
  omega

theorem spells_unit (h : c.toNat < 0x10000) : Spells [c] ('\\' :: 'u' :: hex 4 c.toNat) := by
  obtain ⟨a, b, c', d, hx, hv⟩ := hex4?_hex h
  obtain ⟨hh, hl⟩ := not_surrogate c
  rw [hx]
  have hs := Spells.unit hv hh hl .nil
  rwa [Char.ofNat_toNat] at hs

theorem units_cases (c : Char) :
    c.toNat < 0x10000 ∧ units c = [c.toNat] ∨
      ∃ u v, units c = [u, v] ∧ isHighSurrogate u = true ∧ isLowSurrogate v = true ∧
        ofSurrogates u v = c := by
  have hc : c.toNat < 0xD800 ∨ 0xDFFF < c.toNat ∧ c.toNat < 0x110000 := c.valid
  by_cases hn : c.toNat < 0x10000
  · exact .inl ⟨hn, by simp [units, hn]⟩
  · refine .inr ⟨0xD800 + (c.toNat - 0x10000) / 0x400, 0xDC00 + (c.toNat - 0x10000) % 0x400,
      by simp [units, hn], ?_, ?_, ?_⟩
    · simp only [isHighSurrogate, Bool.and_eq_true, decide_eq_true_eq]
      omega
    · simp only [isLowSurrogate, Bool.and_eq_true, decide_eq_true_eq]
      omega
    · have hu : 0x10000 + 0x400 * (0xD800 + (c.toNat - 0x10000) / 0x400 - 0xD800) +
          (0xDC00 + (c.toNat - 0x10000) % 0x400 - 0xDC00) = c.toNat := by omega
      rw [ofSurrogates, hu, Char.ofNat_toNat]

theorem spells_units (c : Char) :
    Spells [c] ((units c).flatMap fun u => '\\' :: 'u' :: hex 4 u) := by
  rcases units_cases c with ⟨hn, h⟩ | ⟨u, v, h, hu, hv, rfl⟩
  · simpa [h] using spells_unit hn
  · have hlt : u < 0x10000 ∧ v < 0x10000 := by
      simp only [isHighSurrogate, isLowSurrogate, Bool.and_eq_true, decide_eq_true_eq] at hu hv
      omega
    obtain ⟨a, b, c', d, hx, hx'⟩ := hex4?_hex hlt.1
    obtain ⟨p, q, r, t, hy, hy'⟩ := hex4?_hex hlt.2
    simpa [h, hx, hy] using Spells.pair hx' hy' hu hv .nil

theorem spells_shortEscape {e : Char} (h : shortEscape? c = some e) : Spells [c] ['\\', e] :=
  .letter (unescape?_of_shortEscape? h) .nil

theorem isRaw_of_shortEscape? (h : shortEscape? c = none) (hc : 0x20 ≤ c.toNat) :
    isRaw c = true := by
  have hne : c ≠ '"' ∧ c ≠ '\\' := by
    constructor <;> rintro rfl <;> cases h
  simp [isRaw, hne.1, hne.2, hc]

theorem spells_escape (c : Char) : Spells [c] (escape c) := by
  rw [escape]
  cases h : shortEscape? c with
  | some e => exact spells_shortEscape h
  | none =>
      dsimp only
      split
      next hc => exact .raw (isRaw_of_shortEscape? h hc.1) .nil
      next => exact spells_units c

theorem spells_escapeRaw (c : Char) : Spells [c] (escapeRaw c) := by
  rw [escapeRaw]
  cases h : shortEscape? c with
  | some e => exact spells_shortEscape h
  | none =>
      dsimp only
      split
      next hc => exact .raw hc .nil
      next hc =>
        have hn : c.toNat < 0x20 := Nat.lt_of_not_le (mt (isRaw_of_shortEscape? h) hc)
        exact spells_unit (by omega)

theorem quotes_quote (s : List Char) : Quotes (quote s) s :=
  ⟨_, spells_flatMap spells_escape s, rfl⟩

theorem quotes_quoteRaw (s : List Char) : Quotes (quoteRaw s) s :=
  ⟨_, spells_flatMap spells_escapeRaw s, rfl⟩

theorem read?_of_quotes {q : List Char} (h : Quotes q s) : read? (q ++ rest) = some (s, rest) := by
  obtain ⟨w, hw, rfl⟩ := h
  rw [List.append_assoc]
  exact readBody?_of_spells hw

theorem le_toNat_of_unescape? {e : Char} (h : unescape? e = some c) : 0x20 ≤ e.toNat := by
  unfold unescape? at h
  split at h <;> first | decide | cases h

theorem le_toNat_of_hexDigit? (h : hexDigit? c = some n) : 0x20 ≤ c.toNat := by
  have hzero : ∀ {d : Char}, 0x20 ≤ d.toNat → d ≤ c → 0x20 ≤ c.toNat :=
    fun hd hc => Nat.le_trans hd hc
  unfold hexDigit? at h
  split at h
  next hc => exact hzero (by decide) hc.1
  next =>
    split at h
    next hc => exact hzero (by decide) hc.1
    next =>
      split at h
      next hc => exact hzero (by decide) hc.1
      next => cases h

theorem le_toNat_of_hex4? {a b c d : Char} {u : Nat} (h : hex4? a b c d = some u) :
    ∀ e ∈ [a, b, c, d], 0x20 ≤ e.toNat := by
  simp only [hex4?, Option.bind_eq_bind, Option.bind_eq_some_iff] at h
  obtain ⟨_, ha, _, hb, _, hc, _, hd, -⟩ := h
  simp [le_toNat_of_hexDigit? ha, le_toNat_of_hexDigit? hb, le_toNat_of_hexDigit? hc,
    le_toNat_of_hexDigit? hd]

theorem Spells.le_toNat (h : Spells s w) : ∀ e ∈ w, 0x20 ≤ e.toNat := by
  induction h with
  | nil => simp
  | raw hc _ ih =>
      simp only [isRaw, Bool.and_eq_true, decide_eq_true_eq] at hc
      simpa [hc.2] using ih
  | letter he _ ih => simpa [le_toNat_of_unescape? he] using ih
  | unit hu _ _ _ ih =>
      have hd := le_toNat_of_hex4? hu
      simp only [List.mem_cons, forall_eq_or_imp] at hd ⊢
      simpa [hd] using ih
  | pair hu hv _ _ _ ih =>
      have hd := le_toNat_of_hex4? hu
      have hd' := le_toNat_of_hex4? hv
      simp only [List.mem_cons, forall_eq_or_imp] at hd hd' ⊢
      simpa [hd, hd'] using ih

end AssetTranspiler.Literal
