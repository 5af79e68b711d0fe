import AssetTranspiler.Proofs.Failure.Decoding
import AssetTranspiler.Proofs.Stress.Run

namespace AssetTranspiler.Stress

namespace Scenario

variable (c : Scenario) {a : Arguments} {files : Files} {rs : List Result} {n : Nat}

def failures (units : List Nat) : List (Nat × String) :=
  units.filterMap fun i : Nat => (c.verdict i).map fun detail => (i, detail)

def passes (units : List Nat) : Nat :=
  units.countP fun i : Nat => (c.verdict i).isNone

def summary (a : Arguments) : Report :=
  let units := List.range a.calls.toNat
  let failed := c.failures units
  { exit := if failed.isEmpty then 0 else 1
    output :=
      "Running " ++ toString a.calls ++ " transpiles on " ++ toString a.workers ++
        " threads against " ++ a.bundle ++ "\n---\n" ++
      String.join (failed.map fun f => toString f.1 ++ " FAILED " ++ f.2 ++ "\n") ++
      "---\n" ++ ("Done in 0.00s. ok=" ++ toString (c.passes units) ++ " failed=" ++
        toString failed.length ++ " builds=" ++ toString (if 0 < a.calls then 1 else 0)) ++ "\n" }

theorem failures_cons (i : Nat) (units : List Nat) :
    c.failures (i :: units) =
      ((c.verdict i).map fun detail => (i, detail)).toList ++ c.failures units := by
  rw [failures, List.filterMap_cons]
  cases c.verdict i <;> rfl

theorem passes_add_failures (units : List Nat) :
    c.passes units + (c.failures units).length = units.length := by
  induction units with
  | nil => rfl
  | cons i units ih =>
      rw [passes] at ih
      rw [failures_cons, passes, List.countP_cons]
      cases c.verdict i with
      | none =>
          simp
          omega
      | some detail =>
          simp
          omega

theorem filter_result (units : List Nat) :
    ((units.map fun i : Nat => c.result i).filter fun r => !r.ok) =
      (c.failures units).map fun f => ⟨f.1, false, f.2⟩ := by
  induction units with
  | nil => rfl
  | cons i units ih =>
      rw [failures_cons, List.map_cons, List.filter_cons, ih, result]
      cases c.verdict i <;> rfl

theorem mem_failures {units : List Nat} {f : Nat × String} :
    f ∈ c.failures units ↔ f.1 ∈ units ∧ c.verdict f.1 = some f.2 := by
  simp only [failures, List.mem_filterMap, Option.map_eq_some_iff]
  constructor
  · rintro ⟨i, hi, detail, hv, rfl⟩
    exact ⟨hi, hv⟩
  · rintro ⟨hi, hv⟩
    exact ⟨f.1, hi, f.2, hv, rfl⟩

theorem pairwise_failures (n : Nat) :
    (c.failures (List.range n)).Pairwise fun f g => f.1 < g.1 := by
  rw [failures, List.pairwise_filterMap]
  refine List.pairwise_lt_range.imp ?_
  intro i j hij f hf g hg
  obtain ⟨_, _, rfl⟩ := Option.map_eq_some_iff.mp hf
  obtain ⟨_, _, rfl⟩ := Option.map_eq_some_iff.mp hg
  exact hij

theorem sorted_filter (h : rs.Perm ((List.range n).map fun i : Nat => c.result i)) :
    sorted (rs.filter fun r => !r.ok) =
      (c.failures (List.range n)).map fun f => ⟨f.1, false, f.2⟩ := by
  have hperm := h.filter fun r => !r.ok
  rw [filter_result] at hperm
  have hsorted : (sorted (rs.filter fun r => !r.ok)).Pairwise fun x y =>
      decide (x.index ≤ y.index) = true := by
    refine List.pairwise_mergeSort ?_ ?_ _
    · simp only [decide_eq_true_eq]
      intro x y z hxy hyz
      exact Int.le_trans hxy hyz
    · simp only [Bool.or_eq_true, decide_eq_true_eq]
      intro x y
      exact Int.le_total x.index y.index
  have hfailures : ((c.failures (List.range n)).map fun f =>
      (⟨f.1, false, f.2⟩ : Result)).Pairwise fun x y => decide (x.index ≤ y.index) = true := by
    rw [List.pairwise_map]
    refine (c.pairwise_failures n).imp ?_
    intro f g hfg
    simpa using Nat.le_of_lt hfg
  have hmerged := (List.mergeSort_perm (rs.filter fun r => !r.ok)
    fun x y => decide (x.index ≤ y.index)).trans hperm
  refine List.Perm.eq_of_pairwise ?_ hsorted hfailures hmerged
  -- two failures of one index are the same
  intro x y hx hy hxy hyx
  obtain ⟨f, hf, rfl⟩ := List.mem_map.mp (hmerged.mem_iff.mp hx)
  obtain ⟨g, hg, rfl⟩ := List.mem_map.mp hy
  simp only [decide_eq_true_eq] at hxy hyx
  obtain ⟨-, hf⟩ := c.mem_failures.mp hf
  obtain ⟨-, hg⟩ := c.mem_failures.mp hg
  have hindex : f.1 = g.1 := by omega
  rw [hindex, hg, Option.some.injEq] at hf
  rw [hindex, hf]

theorem length_filter (h : rs.Perm ((List.range n).map fun i : Nat => c.result i)) :
    (rs.filter fun r => !r.ok).length = (c.failures (List.range n)).length := by
  rw [(h.filter _).length_eq, filter_result, List.length_map]

theorem lines_framed (first last : String) (ls : List String) :
    lines ([first, "---"] ++ ls ++ ["---", last]) =
      first ++ "\n---\n" ++ String.join (ls.map (· ++ "\n")) ++ "---\n" ++ last ++ "\n" := by
  apply String.toList_inj.mp
  simp [lines, String.join_append, String.join_cons]

theorem report_eq {order : List Nat} (ho : order.Perm (List.range a.calls.toNat))
    (hr : rs.Perm (order.map fun i : Nat => c.result i)) :
    report a rs (if order.isEmpty then 0 else 1) = c.summary a := by
  have h := hr.trans (ho.map fun i : Nat => c.result i)
  have hfailed := c.length_filter h
  have hok : rs.length - (c.failures (List.range a.calls.toNat)).length =
      c.passes (List.range a.calls.toNat) := by
    have hsum := c.passes_add_failures (List.range a.calls.toNat)
    rw [h.length_eq, List.length_map]
    omega
  have hexit : (rs.filter fun r => !r.ok).isEmpty =
      (c.failures (List.range a.calls.toNat)).isEmpty := by
    rw [Bool.eq_iff_iff, List.isEmpty_iff_length_eq_zero, List.isEmpty_iff_length_eq_zero, hfailed]
  have hbuilds : (if order.isEmpty then 0 else 1) = if 0 < a.calls then 1 else 0 := by
    have hempty : order.isEmpty = true ↔ ¬ 0 < a.calls := by
      rw [List.isEmpty_iff_length_eq_zero, ho.length_eq, List.length_range]
      omega
    simp only [hempty, ite_not]
  simp only [report, summary, c.sorted_filter h, hfailed, hok, hexit, hbuilds, lines_framed,
    List.map_map]
  rfl

structure Accounts (a : Arguments) : Prop where
  ascending : (c.failures (List.range a.calls.toNat)).Pairwise fun f g => f.1 < g.1
  failed : ∀ f, f ∈ c.failures (List.range a.calls.toNat) ↔
    f.1 < a.calls.toNat ∧ c.verdict f.1 = some f.2
  total : ((c.passes (List.range a.calls.toNat) +
    (c.failures (List.range a.calls.toNat)).length : Nat) : Int) = max a.calls 0
  exit : (c.summary a).exit = 1 ↔ ∃ i < a.calls.toNat, (c.verdict i).isSome = true

theorem accounts (a : Arguments) : c.Accounts a where
  ascending := c.pairwise_failures _
  failed f := by rw [c.mem_failures, List.mem_range]
  total := by
    rw [c.passes_add_failures, List.length_range]
    omega
  exit := by
    have hexit : (c.summary a).exit = 1 ↔ c.failures (List.range a.calls.toNat) ≠ [] := by
      rw [summary]
      cases c.failures (List.range a.calls.toNat) <;> simp
    rw [hexit]
    constructor
    · intro hne
      obtain ⟨f, hf⟩ := List.exists_mem_of_ne_nil _ hne
      obtain ⟨hi, hv⟩ := c.mem_failures.mp hf
      exact ⟨f.1, List.mem_range.mp hi, by rw [hv]; rfl⟩
    · rintro ⟨i, hi, hv⟩
      obtain ⟨detail, hv⟩ := Option.isSome_iff_exists.mp hv
      have hmem : (i, detail) ∈ c.failures (List.range a.calls.toNat) :=
        c.mem_failures.mpr ⟨List.mem_range.mpr hi, hv⟩
      exact List.ne_nil_of_mem hmem

end Scenario

variable {a : Arguments} {files : Files} {order : List Nat}

theorem executeIn_found (c : Scenario) (hw : 0 < a.workers) (hb : a.Readable c files) :
    executeIn order a files c =
      match ((results order).exec (origin a files c).setup (origin a files c).service).1 with
      | .ok (rs, builds) => .ok (report a rs builds)
      | .error fault => .error (.service fault) := by
  have hfound : (files.find? a.bundle).isNone = false := by
    rw [← Option.not_isSome, hb.found]
    rfl
  simp only [executeIn, hfound, Int.not_le.mpr hw, Bool.false_eq_true, if_false]
  rfl

theorem executeIn_eq (c : Scenario) (hw : 0 < a.workers) (hb : a.Readable c files)
    (ho : order.Perm (List.range a.calls.toNat))
    (hs : ∀ i ∈ order, c.overflows (i : Nat) = false) :
    executeIn order a files c = .ok (c.summary a) := by
  obtain ⟨t, ht⟩ := c.exec_results hb hs
  have hreport := c.report_eq (a := a) ho (.refl _)
  simp only [executeIn_found c hw hb, ht, hreport]

theorem executeIn_overflow (c : Scenario) (hw : 0 < a.workers) (hb : a.Readable c files)
    (hs : ∃ i ∈ order, c.overflows (i : Nat) = true) :
    executeIn order a files c = .error (.service .exhausted) := by
  obtain ⟨t, ht⟩ := c.exec_results_overflow hb hs
  simp only [executeIn_found c hw hb, ht]

/-- In whatever order its units are done and complete, a run prints the report that is due, or no
report if the translation of a failure takes more than there is of the stack. No unit accepts the
output of another one. -/
theorem report_independent (c : Scenario) (hw : 0 < a.workers) (hb : a.Readable c files)
    (ho : order.Perm (List.range a.calls.toNat)) :
    ((∀ i < a.calls.toNat, c.overflows (i : Nat) = false) →
      executeIn order a files c = .ok (c.summary a) ∧
      ∃ rs builds t, (results order).exec (origin a files c).setup (origin a files c).service =
          (.ok (rs, builds), t) ∧
        ∀ rs' : List Result, rs'.Perm rs → report a rs' builds = c.summary a) ∧
      ((∃ i < a.calls.toNat, c.overflows (i : Nat) = true) →
        executeIn order a files c = .error (.service .exhausted)) ∧
      c.Accounts a ∧
      (∀ j : Int, (Wrapping.definition j).output = define (.str (moduleName j)) (.str (source j))) ∧
      ∀ (i j : Int) (w : Wrapping j) (setup : Setup) (s t : Service),
        (Transpiler.transpile (.str (source i)) none (some (moduleName i))).exec setup s =
          (.ok w.output, t) →
        (check i).exec setup s =
          (.ok ⟨i, decide (i = j), if i = j then "" else "output mismatch"⟩, t) := by
  have hmem : ∀ i, i ∈ order ↔ i < a.calls.toNat := fun i => ho.mem_iff.trans List.mem_range
  refine ⟨?_, ?_, c.accounts a, Wrapping.output_definition, ?_⟩
  · intro hs
    have hs : ∀ i ∈ order, c.overflows (i : Nat) = false := fun i hi => hs i ((hmem i).mp hi)
    obtain ⟨t, ht⟩ := c.exec_results hb hs
    exact ⟨executeIn_eq c hw hb ho hs, _, _, t, ht, fun rs' h => c.report_eq ho h⟩
  · rintro ⟨i, hi, hs⟩
    exact executeIn_overflow c hw hb ⟨i, (hmem i).mpr hi, hs⟩
  · intro i j w setup s t h
    rw [exec_check h, judged_output]

def trial : Arguments where
  bundle := "b.js"
  workers := 2
  calls := 3

def faulty : Scenario where
  fail := [("var v0 = 0;", "boom")]
  mangle := [("var v2 = 2;", "var v2 = 2;")]

theorem report_independent_faulty :
    0 < trial.workers ∧ trial.Readable faulty [("b.js", .text "")] ∧ [2, 0, 1].Perm (List.range 3) ∧
      (∀ i < 3, faulty.overflows (i : Nat) = false) ∧
      executeIn [2, 0, 1] trial [("b.js", .text "")] faulty = .ok
        { exit := 1
          output := "Running 3 transpiles on 2 threads against b.js\n---\n0 FAILED boom\n" ++
            "2 FAILED output mismatch\n---\nDone in 0.00s. ok=1 failed=2 builds=1\n" } := by
  have hb : trial.Readable faulty [("b.js", .text "")] := ⟨rfl, rfl⟩
  have ho : [2, 0, 1].Perm (List.range trial.calls.toNat) := by decide
  have hs : ∀ i < trial.calls.toNat, faulty.overflows (i : Nat) = false := by decide +kernel
  obtain ⟨hrun, -⟩ := report_independent faulty (by decide) hb ho
  refine ⟨by decide, hb, ho, hs, ?_⟩
  rw [(hrun hs).1, Except.ok.injEq]
  decide +kernel

def nested : Scenario where
  fail := [("var v0 = 0;", String.ofList (List.replicate 1000 '['))]

theorem overflows_nested : nested.overflows 0 = true := by
  have hlookup : nested.fail.lookup (source 0) =
      some (String.ofList (List.replicate 1000 '[')) := rfl
  rw [Scenario.overflows, hlookup]
  show (Report.message {} _).isNone = true
  rw [Report.message_brackets (by decide)]
  rfl

theorem report_withheld :
    trial.Readable nested [("b.js", .text "")] ∧
      executeIn [0, 1, 2] trial [("b.js", .text "")] nested = .error (.service .exhausted) := by
  have hb : trial.Readable nested [("b.js", .text "")] := ⟨rfl, rfl⟩
  have ho : ∃ i ∈ [0, 1, 2], nested.overflows (i : Nat) = true := ⟨0, by simp, overflows_nested⟩
  exact ⟨hb, executeIn_overflow nested (by decide) hb ho⟩

end AssetTranspiler.Stress
