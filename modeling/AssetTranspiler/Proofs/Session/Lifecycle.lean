import AssetTranspiler.Proofs.Session.Operation

namespace AssetTranspiler

open Trace

structure Ledger where
  service : Service
  published : List Nat := []
  retired : List Nat := []

namespace Ledger

def closedBetween (s t : Service) (contexts : List Nat) : List Nat :=
  contexts.filter fun i => closings i s.history < closings i t.history

def newly (s t : Service) : List Nat :=
  if t.manager.context = s.manager.context then [] else t.manager.context.toList

def record (setup : Setup) (l : Ledger) (op : Operation) : Ledger :=
  let t := op.result setup l.service
  { service := t
    published := l.published ++ newly l.service t
    retired := l.retired ++
      if op.val.resets then closedBetween l.service t l.published else [] }

def after (setup : Setup) (s : Service) (ops : List Operation) : Ledger :=
  ops.foldl (record setup) { service := s }

theorem after_service (setup : Setup) (s : Service) (ops : List Operation) :
    (after setup s ops).service = Operation.run setup s ops := by
  suffices h : ∀ l : Ledger, (ops.foldl (record setup) l).service =
      Operation.run setup l.service ops from h _
  induction ops with
  | nil => intro l; rfl
  | cons op ops ih =>
      intro l
      exact ih (record setup l op)

/-- The accounts of a ledger: every context published is either held or retired, in this order. -/
structure Balanced (o : Origin) (l : Ledger) : Prop where
  coherent : Coherent o l.service false l.service
  order : l.published = l.retired ++ l.service.manager.context.toList
  builds : l.service.manager.builds = l.published.length
  bounded : ∀ i ∈ l.published, i < creations l.service.history
  nodup : l.published.Nodup
  closed : ∀ i ∈ l.retired, phase o.setup.host i l.service.history = .closed

variable {o : Origin} {l : Ledger}

theorem balanced_initial (o : Origin) : Balanced o { service := o.service } where
  coherent := .initial o
  order := rfl
  builds := rfl
  bounded := by simp
  nodup := .nil
  closed := by simp

namespace Balanced

theorem bounded_of_suffix {past : History} (h : Balanced o l) (hs : l.service.history <:+ past) :
    ∀ i ∈ l.published, i < creations past := by
  intro i hi
  exact Nat.lt_of_lt_of_le (h.bounded i hi) hs.sublist.countP_le

theorem closed_of_suffix {past : History} (h : Balanced o l) (ho : o.rules.Orderly past)
    (hs : l.service.history <:+ past) :
    ∀ i ∈ l.retired, phase o.setup.host i past = .closed := by
  intro i hi
  exact Trace.closed_of_suffix ho hs (h.closed i hi)

theorem keep (h : Balanced o l) {t : Service} (ht : Coherent o l.service false t) :
    Balanced o
      { service := t, published := l.published ++ newly l.service t, retired := l.retired } := by
  have hs := ht.sound
  have hbounded := h.bounded_of_suffix hs.continues
  have hclosed := h.closed_of_suffix hs.orderly hs.continues
  rcases ht.holding with ⟨hc, hb⟩ | ⟨hnone, hb, n, hc, hn⟩
  · have hnew : newly l.service t = [] := if_pos hc
    rw [hnew, List.append_nil]
    refine ⟨ht.restart, ?_, hb.trans h.builds, hbounded, h.nodup, hclosed⟩
    rw [h.order, hc]
  · have hnew : newly l.service t = [n] := by
      rw [newly, if_neg (by rw [hc, hnone]; simp), hc]
      rfl
    have hlatest : n + 1 = creations t.history := by
      rw [hc] at hs
      exact (hs.latest n .equipped rfl).1
    rw [hnew]
    refine ⟨ht.restart, ?_, ?_, ?_, ?_, hclosed⟩
    · rw [h.order, hnone, hc]
      simp
    · rw [hb, h.builds, List.length_append]
      rfl
    · intro i hi
      rcases List.mem_append.mp hi with hi | hi
      · exact hbounded i hi
      · rw [List.mem_singleton.mp hi]
        exact Nat.lt_of_succ_le (Nat.le_of_eq hlatest)
    · refine List.nodup_append.mpr ⟨h.nodup, List.pairwise_singleton _ n, ?_⟩
      intro i hi j hj
      rw [List.mem_singleton.mp hj]
      have := h.bounded i hi
      omega

theorem closedBetween_published (h : Balanced o l) {t : Service}
    (ht : Vacated o l.service false t) :
    closedBetween l.service t l.published = l.service.manager.context.toList := by
  have hs := h.coherent.sound
  have ho := ht.coherent.sound.orderly
  -- what is retired was closed before, so its closings do not grow
  have hold : l.retired.filter
      (fun i => closings i l.service.history < closings i t.history) = [] := by
    rw [List.filter_eq_nil_iff]
    intro i hi
    have hc : phase o.rules.host i l.service.history = .closed := h.closed i hi
    have hd : phase o.rules.host i t.history = .closed :=
      Trace.closed_of_suffix ho ht.continues hc
    rw [closings_eq hs.orderly, closings_eq ho, if_pos hc, if_pos hd]
    simp
  rw [closedBetween, h.order, List.filter_append, hold, List.nil_append]
  cases hc : l.service.manager.context with
  | none => rfl
  | some n =>
      rw [hc] at hs
      have he : phase o.rules.host n l.service.history = .equipped := (hs.latest n .equipped rfl).2
      have hd : phase o.rules.host n t.history = .closed := ht.closed n hc
      simp [closings_eq hs.orderly, closings_eq ho, he, hd]

theorem retire (h : Balanced o l) {t : Service} (ht : Vacated o l.service false t) :
    Balanced o
      { service := t, published := l.published ++ newly l.service t
        retired := l.retired ++ closedBetween l.service t l.published } := by
  have hs := ht.coherent.sound
  have hnew : newly l.service t = [] := by
    rw [newly, ht.context]
    split <;> rfl
  rw [hnew, List.append_nil, h.closedBetween_published ht]
  refine ⟨ht.coherent, ?_, ht.builds.trans h.builds, h.bounded_of_suffix ht.continues, h.nodup, ?_⟩
  · rw [ht.context, h.order]
    simp
  · intro i hi
    rcases List.mem_append.mp hi with hi | hi
    · exact h.closed_of_suffix hs.orderly ht.continues i hi
    · exact ht.closed i (by simpa using hi)

theorem record (h : Balanced o l) (op : Operation) : Balanced o (l.record o.setup op) := by
  cases hr : op.val.resets with
  | true =>
      rw [Ledger.record, hr]
      exact h.retire (op.vacated_result hr h.coherent)
  | false =>
      rw [Ledger.record, hr]
      simpa using h.keep (op.coherent_result hr h.coherent)

end Balanced

theorem balanced_after (o : Origin) (ops : List Operation) :
    Balanced o (after o.setup o.service ops) := by
  suffices h : ∀ l : Ledger, Balanced o l → Balanced o (ops.foldl (record o.setup) l) from
    h _ (balanced_initial o)
  induction ops with
  | nil => intro l h; exact h
  | cons op ops ih =>
      intro l h
      exact ih (l.record o.setup op) (h.record op)

structure Consistent (l : Ledger) : Prop where
  state_iff : l.service.manager.state = .ready ↔ l.service.manager.ready = true
  ready_iff : l.service.manager.ready = true ↔ l.service.manager.context.isSome = true
  held : ∀ i, l.service.manager.context = some i →
    l.service.life? i = some .ready ∧ closings i l.service.history = 0
  closings_le : ∀ i, closings i l.service.history ≤ 1
  published_eq : l.published = l.retired ++ l.service.manager.context.toList
  nodup : l.published.Nodup
  builds_eq_published : l.service.manager.builds = l.published.length
  builds_eq_retired : l.service.manager.builds =
    l.retired.length + if l.service.manager.state = .ready then 1 else 0
  unlocked : l.service.manager.locked = false

theorem Balanced.consistent (h : Balanced o l) : Consistent l := by
  have hc := h.coherent
  have hs := hc.sound
  refine ⟨?_, ?_, ?_, ?_, h.order, h.nodup, h.builds, ?_, hc.locked⟩
  · rw [hc.state, hc.ready]
  · rw [hc.ready]
  · intro i hi
    refine ⟨hc.alive i hi, ?_⟩
    rw [hi] at hs
    have he : phase o.rules.host i l.service.history = .equipped := (hs.latest i .equipped rfl).2
    rw [closings_eq hs.orderly, he]
    rfl
  · intro i
    rw [closings_eq hs.orderly]
    split
    · exact Nat.le_refl 1
    · exact Nat.zero_le 1
  · rw [h.builds, h.order, List.length_append]
    cases hi : l.service.manager.context with
    | none =>
        rw [if_neg (by rw [hc.state, hi]; simp)]
        rfl
    | some i =>
        rw [if_pos (by rw [hc.state, hi]; simp)]
        rfl

theorem consistent_after (o : Origin) (ops : List Operation) :
    Consistent (after o.setup o.service ops) :=
  (balanced_after o ops).consistent

end Ledger
end AssetTranspiler
