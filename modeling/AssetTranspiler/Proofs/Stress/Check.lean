import AssetTranspiler.Proofs.Plugin.EmberCli
import AssetTranspiler.Stress.Run

/-!
What tells one unit from another. A numeral ends where a unit's source goes on, so no source occurs in
the wrapping of another one, although a module's name may well be the beginning of another's.
-/

namespace AssetTranspiler.Stress

open Text

variable {i j : Int} {before after : List Char}

theorem not_mem_repr (n : Nat) {c : Char} (hd : c.isDigit = false) : c ∉ n.repr.toList := by
  intro h
  rw [Nat.toList_repr] at h
  rw [Nat.isDigit_of_mem_toDigits (by decide) (by decide) h] at hd
  cases hd

theorem not_mem_numeral (i : Int) {c : Char} (hd : c.isDigit = false) (hc : c ≠ '-') :
    c ∉ i.repr.toList := by
  cases i with
  | ofNat n => exact not_mem_repr n hd
  | negSucc n =>
      intro h
      rw [Int.repr, String.toList_append, List.mem_append] at h
      rcases h with h | h
      · exact hc (by simpa using h)
      · exact not_mem_repr _ hd h

theorem repr_injective {m n : Nat} (h : m.repr = n.repr) : m = n := by
  have hvalue := congrArg (fun s => Nat.ofDigitChars 10 s.toList 0) h
  simpa only [Nat.toList_repr, Nat.ofDigitChars_ten_toDigits] using hvalue

theorem numeral_injective (h : i.repr = j.repr) : i = j := by
  have hsign (m n : Nat) : m.repr ≠ "-" ++ n.repr := by
    intro he
    have hdash : '-' ∉ m.repr.toList := not_mem_repr m (by decide)
    exact hdash (by simp [he])
  cases i with
  | ofNat m =>
      cases j with
      | ofNat n => rw [repr_injective h]
      | negSucc n => exact absurd h (hsign m (n + 1))
  | negSucc m =>
      cases j with
      | ofNat n => exact absurd h.symm (hsign n (m + 1))
      | negSucc n =>
          have hmagnitude := repr_injective ((String.append_right_inj "-").mp h)
          rw [Nat.succ.inj hmagnitude]

def assignment (i : Int) : List Char :=
  i.repr.toList ++ ' ' :: '=' :: ' ' :: (i.repr.toList ++ [';'])

theorem toList_source (i : Int) :
    (source i).toList = 'v' :: 'a' :: 'r' :: ' ' :: 'v' :: assignment i := by
  simp [source, assignment]

theorem not_mem_assignment (i : Int) {c : Char} (hd : c.isDigit = false) (hc : c ∉ "-= ;".toList) :
    c ∉ assignment i := by
  simp only [String.reduceToList, List.mem_cons, List.not_mem_nil, or_false, not_or] at hc
  have hi := not_mem_numeral i hd hc.1
  simp [assignment, hi, hc]

theorem eq_of_prefix_assignment (h : assignment i <+: assignment j ++ after) : i = j := by
  have hspace (i : Int) : ' ' ∉ i.repr.toList := not_mem_numeral i (by decide) (by decide)
  simp only [assignment, List.append_assoc, List.cons_append] at h
  obtain ⟨hnumeral, -⟩ := component_prefix (hspace i) (hspace j) h
  exact numeral_injective (String.toList_inj.mp hnumeral)

theorem not_declares (i : Int) (p : List Char) (ha : ¬ ['v', 'a', 'r'] <:+: after) :
    ¬ 'v' :: 'a' :: 'r' :: p <:+: 'v' :: (assignment i ++ after) := by
  rw [List.infix_cons_iff, infix_append_of_not_mem (not_mem_assignment i (by decide) (by decide))]
  rintro (h | h)
  · have hletter : 'a' ∉ i.repr.toList := not_mem_numeral i (by decide) (by decide)
    have hpre : ['a'] <+: 'a' :: 'r' :: p := List.prefix_append ['a'] _
    have hrest := hpre.trans (List.cons_prefix_cons.mp h).2
    rw [assignment, List.append_assoc, List.cons_append] at hrest
    exact hletter ((prefix_of_prefix_append (by decide) hrest).subset (by simp))
  · exact ha ((List.prefix_append ['v', 'a', 'r'] p).isInfix.trans h)

theorem source_infix_iff (hb : ¬ ['v', 'a', 'r'] <:+: before) (ha : ¬ ['v', 'a', 'r'] <:+: after) :
    (source i).toList <:+: before ++ ((source j).toList ++ after) ↔ i = j := by
  have hword : 'v' ∉ ['a', 'r'] := by decide
  have hgap : 'v' ∉ ['a', 'r', ' '] := by decide
  constructor
  · intro h
    rw [toList_source, toList_source] at h
    have hsource := (infix_append_iff hword hb).mp h
    rcases List.infix_cons_iff.mp hsource with h | h
    · simp only [List.cons_append, List.nil_append, List.cons_prefix_cons, true_and] at h
      exact eq_of_prefix_assignment (List.cons_prefix_cons.mp h).2
    · exact absurd ((infix_append_of_not_mem hgap).mp h) (not_declares j _ ha)
  · rintro rfl
    exact ⟨before, after, by simp⟩

theorem accepts?_str (i : Int) (text : String) :
    accepts? i (.str text) =
      some (occurs (source i).toList text.toList && occurs (moduleName i).toList text.toList) := by
  simp only [accepts?, contains?]
  cases occurs (source i).toList text.toList <;> rfl

structure Wrapping (index : Int) where
  before : String
  after : String
  named : (moduleName index).toList <:+: before.toList
  before_free : ¬ ['v', 'a', 'r'] <:+: before.toList
  after_free : ¬ ['v', 'a', 'r'] <:+: after.toList

namespace Wrapping

def output (w : Wrapping j) : Value :=
  .str (w.before ++ source j ++ w.after)

theorem accepts?_output (w : Wrapping j) (i : Int) :
    accepts? i w.output = some (decide (i = j)) := by
  have hsource : occurs (source i).toList (w.before ++ source j ++ w.after).toList =
      decide (i = j) := by
    rw [Bool.eq_iff_iff, occurs_iff, decide_eq_true_iff, String.toList_append, String.toList_append,
      List.append_assoc, source_infix_iff w.before_free w.after_free]
  rw [output, accepts?_str, hsource]
  by_cases hij : i = j
  · subst hij
    have hname : occurs (moduleName i).toList (w.before ++ source i ++ w.after).toList = true := by
      rw [occurs_iff, String.toList_append, String.toList_append, List.append_assoc]
      exact w.named.trans (List.prefix_append _ _).isInfix
    rw [hname, Bool.and_true]
  · simp [hij]

def definition (j : Int) : Wrapping j where
  before := "define('" ++ moduleName j ++ "', "
  after := ")"
  named := by
    simp only [String.toList_append]
    exact List.infix_append _ _ _
  before_free h := by
    have hv : 'v' ∈ ("define('" ++ moduleName j ++ "', ").toList := h.subset (by simp)
    have hj : 'v' ∉ j.repr.toList := not_mem_numeral j (by decide) (by decide)
    simp [moduleName, hj] at hv
  after_free := by decide

theorem output_definition (j : Int) :
    (definition j).output = define (.str (moduleName j)) (.str (source j)) := by
  simp [output, definition, define, Value.display, String.append_assoc]

end Wrapping

theorem emberCli_moduleName (i : Int) : ModuleName.emberCli (moduleName i) = moduleName i := by
  have hunit {c : Char} (hd : c.isDigit = false) (hc : c ∉ ['-', 'm']) :
      c ∉ ("m" ++ toString i).toList := by
    simp only [List.mem_cons, List.not_mem_nil, or_false, not_or] at hc
    have hi := not_mem_numeral i hd hc.1
    simp [hi, hc.2]
  have ha : 'a' ∉ ("m" ++ toString i).toList := hunit (by decide) (by decide)
  have hlast : ModuleName.IsComponent ("m" ++ toString i) := {
    slash := hunit (by decide) (by decide)
    ending := fun _ _ => ⟨fun h => ha (h.subset (by simp)), fun h => ha (h.subset (by simp))⟩
    beginning := fun _ h => ha (h.subset (by simp)) }
  have hcomponents : ∀ s ∈ ["stress"] ++ ["m" ++ toString i], ModuleName.IsComponent s := by
    intro s hs
    rcases List.mem_append.mp hs with hs | hs
    · rw [List.mem_singleton.mp hs]
      decide
    · rw [List.mem_singleton.mp hs]
      exact hlast
  have haddon : "m" ++ toString i ≠ "addon" := by
    intro he
    exact ha (by rw [he]; decide)
  have hpath : "/".intercalate (["stress"] ++ ["m" ++ toString i]) = moduleName i := by
    rw [← String.toList_inj]
    simp [moduleName]
  have hname := ModuleName.emberCli_intercalate (by simp) hcomponents
  rw [ModuleName.nameComponents_concat,
    if_neg fun h => haddon (ModuleName.isAdminAddon_concat.mp h).1] at hname
  rw [← hpath, hname]
  rfl

end AssetTranspiler.Stress
