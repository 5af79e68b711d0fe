import AssetTranspiler.Proofs.Gateway.Contract
import Mathlib.Data.List.Forall2

namespace AssetTranspiler.Console

inductive Item where
  | pair (name message : String)
  | bare (message : String)
  deriving DecidableEq, Repr

namespace Item

def value : Item → Value
  | .pair name message => .list [.str name, .str message]
  | .bare message => .str message

def levels : List (String × LogLevel) :=
  [("info", .info), ("warn", .warning), ("error", .error)]

def levelOf (name : String) : LogLevel :=
  (levels.lookup name).getD .info

def whole : Item → LogRecord
  | .pair name message => ⟨.console, levelOf name, message, false⟩
  | .bare message => ⟨.console, .info, message, false⟩

inductive Emits : Item → LogRecord → Prop
  | pair (name message : String) :
      Emits (.pair name message) ⟨.console, levelOf name, message, false⟩
  | bare {message : String} : message.length ≠ 2 →
      Emits (.bare message) ⟨.console, .info, message, false⟩
  | clipped (a b : Char) :
      Emits (.bare (String.ofList [a, b])) ⟨.console, .info, String.ofList [b], false⟩

theorem level_eq (name : String) : level name = levelOf name := by
  by_cases hwarn : name = "warn"
  · subst hwarn
    rfl
  by_cases herror : name = "error"
  · subst herror
    rfl
  by_cases hinfo : name = "info"
  · subst hinfo
    rfl
  have hunknown : levels.lookup name = none := by
    simp [levels, List.lookup_eq_none_iff, hwarn, herror, hinfo]
  rw [level, if_neg hwarn, if_neg herror, levelOf, hunknown]
  rfl

theorem level_of_char (a : Char) : level (String.ofList [a]) = .info := by
  have hlength (name : String) (h : String.ofList [a] = name) : name.length = 1 := by
    rw [← h, ← String.length_toList, String.toList_ofList]
    rfl
  have hwarn : String.ofList [a] ≠ "warn" := fun h => absurd (hlength _ h) (by decide)
  have herror : String.ofList [a] ≠ "error" := fun h => absurd (hlength _ h) (by decide)
  rw [level, if_neg hwarn, if_neg herror]

theorem entry_whole {message : String} (h : message.length ≠ 2) :
    entry (.str message) = (.info, message) := by
  rw [← String.length_toList] at h
  simp only [entry, Value.elements?]
  split
  next he =>
    have hlength := congrArg (Option.map List.length) he
    simp only [Option.map_some, List.length_map, List.length_cons, List.length_nil,
      Option.some.injEq] at hlength
    exact absurd hlength h
  next => rfl

theorem entry_clipped (a b : Char) :
    entry (.str (String.ofList [a, b])) = (.info, String.ofList [b]) := by
  simp only [entry, Value.elements?, String.toList_ofList, List.map_cons, List.map_nil,
    Value.display_str, level_of_char]

theorem emits_entry (item : Item) : Emits item (Gateway.consoleRecord (entry item.value)) := by
  cases item with
  | pair name message =>
      rw [value, entry_pair, level_eq]
      exact .pair name message
  | bare message =>
      by_cases h : message.length = 2
      · rw [← String.length_toList] at h
        obtain ⟨a, b, hchars⟩ := List.length_eq_two.mp h
        obtain rfl : message = String.ofList [a, b] := by
          rw [← hchars, String.ofList_toList]
        rw [value, entry_clipped]
        exact .clipped a b
      · rw [value, entry_whole h]
        exact .bare h

theorem Emits.eq_whole_iff {item : Item} {r : LogRecord} (h : Emits item r) :
    r = item.whole ↔ ∀ message, item = .bare message → message.length ≠ 2 := by
  cases h with
  | pair name message => simp [whole]
  | bare hlength =>
      refine iff_of_true rfl ?_
      rintro _ ⟨⟩
      exact hlength
  | clipped a b =>
      refine iff_of_false ?_ ?_
      · intro he
        have hchars := congrArg (fun r => r.message.toList.length) he
        simp [whole] at hchars
      · intro hall
        refine hall _ rfl ?_
        rw [← String.length_toList, String.toList_ofList]
        rfl

theorem eq_map_whole_iff {items : List Item} {rs : List LogRecord}
    (h : List.Forall₂ Emits items rs) :
    rs = items.map whole ↔ ∀ message, .bare message ∈ items → message.length ≠ 2 := by
  induction h with
  | nil => simp
  | cons hr _ ih =>
      rw [List.map_cons, List.cons.injEq, hr.eq_whole_iff, ih]
      simp only [List.mem_cons, or_imp, forall_and, eq_comm]

end Item

open Item

/-- Every record is forwarded, in order, and counted. All of it is logged exactly if no message
without a level has two characters; of such a message the second one is logged. -/
theorem forward_items (setup : Setup) (s : Service) (items : List Item) :
    ∃ rs, (Gateway.forward (.list (items.map value))).exec setup s =
        (.ok items.length, { s with log := rs.reverse ++ s.log }) ∧
      List.Forall₂ Emits items rs ∧
      (rs = items.map whole ↔ ∀ message, .bare message ∈ items → message.length ≠ 2) := by
  have hemits : List.Forall₂ Emits items
      (((items.map value).map entry).map Gateway.consoleRecord) := by
    rw [List.map_map, List.map_map, List.forall₂_map_right_iff, List.forall₂_same]
    exact fun item _ => emits_entry item
  refine ⟨_, ?_, hemits, eq_map_whole_iff hemits⟩
  rw [Gateway.exec_forward, entries?_list]
  simp only [List.length_map]

theorem not_forwarded_whole :
    ¬ ∀ (setup : Setup) (s : Service) (items : List Item),
      (Gateway.forward (.list (items.map value))).exec setup s =
        (.ok items.length, { s with log := (items.map whole).reverse ++ s.log }) := by
  intro h
  have hlog := congrArg (fun r => r.2.log.map LogRecord.message)
    (h ⟨⟨false, none, 15000, 0⟩, .quiet⟩ { settings := { appRoot := "/" } } [.bare "ok"])
  have hclipped : ["k"] = ["ok"] := hlog
  simp at hclipped

end AssetTranspiler.Console
