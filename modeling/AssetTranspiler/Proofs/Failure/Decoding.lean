import AssetTranspiler.Failure.Report
import AssetTranspiler.Proofs.Failure.Nesting
import AssetTranspiler.Proofs.Text.Search
import AssetTranspiler.Value.Json

namespace AssetTranspiler.Report

open Literal Nesting Text

variable {stack : Stack} {m r q s : List Char} {us : List Nat}

inductive Unprefixed : List Char → List Char → Prop
  | prefixed (r : List Char) : Unprefixed ("Error: ".toList ++ r) r
  | plain {m : List Char} : ¬ "Error: ".toList <+: m → Unprefixed m m

def IsJsonString (r : List Char) (us : List Nat) : Prop :=
  ∃ before q after, r = before ++ q ++ after ∧ json.IsLiteral q us ∧
    ∀ c ∈ before ++ after, c ∈ [' ', '\t', '\n', '\r']

theorem errorPrefix_eq : errorPrefix = "Error: ".toList := rfl

theorem withoutPrefix_eq (h : Unprefixed m r) : withoutPrefix m = r := by
  rw [withoutPrefix]
  cases h with
  | prefixed => exact congrArg (Option.getD · _) (isPrefixOf?_append errorPrefix r)
  | plain hm => exact congrArg (Option.getD · _) (isPrefixOf?_eq_none hm)

theorem isJsonSpace_iff {c : Char} : isJsonSpace c = true ↔ c ∈ [' ', '\t', '\n', '\r'] := by
  simp [isJsonSpace, or_assoc]

theorem quotes_iff : Quotes q s ↔ json.IsLiteral q (utf16 s) := by
  simp only [Quotes, Grammar.IsLiteral, spells_iff]

theorem literal?_of_quotes {before after : List Char} (hq : Quotes q s)
    (hb : ∀ c ∈ before, isJsonSpace c = true) (ha : ∀ c ∈ after, isJsonSpace c = true) :
    literal? (before ++ q ++ after) = some s := by
  have hd : (before ++ q ++ after).dropWhile isJsonSpace = q ++ after := by
    obtain ⟨w, -, rfl⟩ := hq
    rw [List.append_assoc, List.dropWhile_append_of_pos hb]
    exact List.dropWhile_cons_of_neg (by decide)
  rw [literal?, hd, read?_of_quotes hq]
  simpa using ha

theorem exists_quotes_of_literal? (h : literal? r = some s) :
    ∃ before q after, r = before ++ q ++ after ∧ Quotes q s ∧
      ∀ c ∈ before ++ after, isJsonSpace c = true := by
  rw [literal?] at h
  split at h
  next value after hread =>
    obtain ⟨hafter, hval⟩ := Option.ite_none_right_eq_some.mp h
    obtain rfl := Option.some.inj hval
    unfold read? at hread
    split at hread
    next body hbody =>
      obtain ⟨w, rfl, hw⟩ := spells_of_readBody? hread
      refine ⟨r.takeWhile isJsonSpace, _, after, ?_, ⟨w, hw, rfl⟩, ?_⟩
      · conv_lhs => rw [← List.takeWhile_append_dropWhile (p := isJsonSpace) (l := r), hbody]
        simp
      · intro c hc
        rcases List.mem_append.mp hc with hc | hc
        · exact List.all_eq_true.mp List.all_takeWhile c hc
        · exact List.all_eq_true.mp hafter c hc
    next => cases hread
  next => cases h

theorem literal?_iff : literal? r = some s ↔ IsJsonString r (utf16 s) := by
  constructor
  · intro h
    obtain ⟨before, q, after, hr, hq, hspace⟩ := exists_quotes_of_literal? h
    exact ⟨before, q, after, hr, quotes_iff.mp hq, fun c hc => isJsonSpace_iff.mp (hspace c hc)⟩
  · rintro ⟨before, q, after, rfl, hq, hspace⟩
    apply literal?_of_quotes (quotes_iff.mpr hq)
    · intro c hc
      exact isJsonSpace_iff.mpr (hspace c (List.mem_append_left _ hc))
    · intro c hc
      exact isJsonSpace_iff.mpr (hspace c (List.mem_append_right _ hc))

theorem literal?_eq_none (h : ∀ us, ¬ IsJsonString r us) : literal? r = none := by
  rw [Option.eq_none_iff_forall_not_mem]
  intro s hs
  exact h _ (literal?_iff.mp hs)

theorem not_isJsonString_cons {c : Char} (hs : isJsonSpace c = false) (hq : c ≠ '"') :
    ¬ IsJsonString (c :: r) us := by
  rintro ⟨before, q, after, hr, ⟨w, -, rfl⟩, hspace⟩
  cases before with
  | nil => exact hq (List.cons.inj hr).1
  | cons b before =>
      obtain ⟨rfl, -⟩ := List.cons.inj hr
      have hb := isJsonSpace_iff.mpr (hspace c (by simp))
      simp [hs] at hb

theorem ofList_errorPrefix_append (s : String) :
    String.ofList (errorPrefix ++ s.toList) = "Error: " ++ s := by
  apply String.toList_inj.mp
  simp [errorPrefix_eq]

theorem decodeChars_of_literal? (hm : Unprefixed m r) (h : literal? r = some s) :
    decodeChars stack m = some (errorPrefix ++ s) := by
  simp [decodeChars, withoutPrefix_eq hm, h]

theorem decodeChars_of_quotes (h : Quotes q s) :
    decodeChars stack (errorPrefix ++ q) = some (errorPrefix ++ s) := by
  have hl : literal? ([] ++ q ++ []) = some s := literal?_of_quotes h (by simp) (by simp)
  apply decodeChars_of_literal? (.prefixed q)
  simpa using hl

theorem decode_of_no_literal {message : String} (h : Unprefixed message.toList r)
    (hr : ∀ us, ¬ IsJsonString r us) :
    decode stack message = if stack.exhausts r then none else some message := by
  have hnone : literal? (withoutPrefix message.toList) = none := by
    rw [withoutPrefix_eq h, literal?_eq_none hr]
  rw [decode, decodeChars_of_no_literal hnone, withoutPrefix_eq h]
  split
  · rfl
  · rw [Option.map_some, String.ofList_toList]

theorem decode_cases (stack : Stack) {message : String} {r : List Char}
    (h : Unprefixed message.toList r) :
    (∀ s : String, IsJsonString r (utf16 s.toList) →
        decode stack message = some ("Error: " ++ s)) ∧
      ((∀ us, ¬ IsJsonString r us) →
        (stack.Overflows r → decode stack message = none) ∧
        (¬ stack.Overflows r → decode stack message = some message)) ∧
      ∀ s : String, decode stack ("Error: " ++ Value.quote s) = some ("Error: " ++ s) := by
  refine ⟨?_, ?_, ?_⟩
  · intro s hs
    rw [decode, decodeChars_of_literal? h (literal?_iff.mpr hs), Option.map_some,
      ofList_errorPrefix_append]
  · intro hr
    rw [decode_of_no_literal h hr, ← Stack.exhausts_iff]
    constructor
    · intro he
      rw [if_pos he]
    · intro he
      rw [if_neg he]
  · intro s
    have ht : ("Error: " ++ Value.quote s).toList = errorPrefix ++ Literal.quote s.toList := by
      simp [Value.quote, errorPrefix_eq]
    rw [decode, ht, decodeChars_of_quotes (quotes_quote s.toList), Option.map_some,
      ofList_errorPrefix_append]

theorem decode_spelled :
    decode {} "Error: \t\"\\u004a\\uD83D\\ude00\\/\"\r\n" = some "Error: J😀/" ∧
      decode {} "Error: [\"J\"]" = some "Error: [\"J\"]" := by
  have hs : IsJsonString "\t\"\\u004a\\uD83D\\ude00\\/\"\r\n".toList (utf16 "J😀/".toList) :=
    literal?_iff.mp (by decide +kernel)
  have hm : Unprefixed "Error: \t\"\\u004a\\uD83D\\ude00\\/\"\r\n".toList
      "\t\"\\u004a\\uD83D\\ude00\\/\"\r\n".toList := .prefixed _
  have hlist : ∀ us, ¬ IsJsonString "[\"J\"]".toList us := fun us =>
    not_isJsonString_cons (by decide) (by decide)
  have hroom : ¬ ({} : Stack).Overflows "[\"J\"]".toList := by
    rw [← Stack.exhausts_iff]
    decide +kernel
  have hm' : Unprefixed "Error: [\"J\"]".toList "[\"J\"]".toList := .prefixed _
  exact ⟨(decode_cases {} hm).1 "J😀/" hs, ((decode_cases {} hm').2.1 hlist).2 hroom⟩

theorem unprefixed_brackets (n : Nat) :
    Unprefixed (List.replicate n '[') (List.replicate n '[') := by
  refine .plain fun h => ?_
  have hmem : 'E' ∈ List.replicate n '[' := h.subset (by decide)
  exact absurd (List.eq_of_mem_replicate hmem) (by decide)

theorem not_isJsonString_brackets {n : Nat} (hn : 0 < n) (us : List Nat) :
    ¬ IsJsonString (List.replicate n '[') us := by
  obtain ⟨k, rfl⟩ := Nat.exists_eq_succ_of_ne_zero hn.ne'
  exact not_isJsonString_cons (by decide) (by decide)

theorem decode_brackets {n : Nat} (h : stack.room < n) :
    decode stack (String.ofList (List.replicate n '[')) = none := by
  have hm : Unprefixed (String.ofList (List.replicate n '[')).toList (List.replicate n '[') := by
    rw [String.toList_ofList]
    exact unprefixed_brackets n
  have he : stack.exhausts (List.replicate n '[') = true :=
    Stack.exhausts_iff.mpr (.inl (deeper_brackets h))
  rw [decode_of_no_literal hm (not_isJsonString_brackets (by omega)), if_pos he]

theorem thrownValue_brackets (n : Nat) :
    thrownValue (String.ofList (List.replicate n '[')) = String.ofList (List.replicate n '[') := by
  have hline : (List.replicate n '[').takeWhile (· != '\n') = List.replicate n '[' := by
    rw [List.takeWhile_replicate, if_pos (by decide)]
  have hfile : (List.replicate n '[').takeWhile (fun c => !isBlank c && c != ':') =
      List.replicate n '[' := by
    rw [List.takeWhile_replicate, if_pos (by decide)]
  rw [thrownValue, String.toList_ofList, thrownChars_of_no_location]
  simp [hline, afterLocation?, hfile]

theorem message_brackets {n : Nat} (h : stack.room < n) :
    message stack (String.ofList (List.replicate n '[')) = none := by
  rw [message, thrownValue_brackets, decode_brackets h]

theorem not_always_unchanged :
    let message := String.ofList (List.replicate 1000 '[')
    Unprefixed message.toList (List.replicate 1000 '[') ∧
      (∀ us, ¬ IsJsonString (List.replicate 1000 '[') us) ∧ decode {} message ≠ some message := by
  have hm : (String.ofList (List.replicate 1000 '[')).toList = List.replicate 1000 '[' :=
    String.toList_ofList
  refine ⟨?_, not_isJsonString_brackets (by decide), ?_⟩
  · rw [hm]
    exact unprefixed_brackets 1000
  · rw [decode_brackets (by decide)]
    exact (Option.some_ne_none _).symm

end AssetTranspiler.Report
