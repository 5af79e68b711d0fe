import AssetTranspiler.Proofs.Service.Trace

/-!
Console records in a history: what each engine has buffered, what its drains have handed out, and in
which order. A drain hands out all that its engine has buffered since the last one, or fails and
leaves it there. What an engine has buffered is lost only if the engine is closed before the next
drain that succeeds, or if an interruption has left it unfinished.
-/

namespace AssetTranspiler

namespace Host

def logged (host : Host) (past : History) : Event → List Value
  | .create _ => (host.create past).logged
  | .evaluate _ code _ => (host.evaluate past code).logged
  | .call _ function arguments _ => (host.call past function arguments).logged
  | .drain _ _ _ => (host.drain past).logged
  | .collect _ => (host.collect past).logged
  | .close _ => (host.close past).logged
  | _ => []

def handsOut (host : Host) (past : History) : Event → Bool
  | .drain _ _ _ => (host.drain past).result.isOk
  | _ => false

def isInterruption : Except Failure Value → Bool
  | .error f => f.isInterrupt
  | .ok _ => false

def interrupts (host : Host) (past : History) : Event → Bool
  | .evaluate _ code _ => isInterruption (host.evaluate past code).result
  | .load path =>
      match host.load with
      | some load => isInterruption (load past path)
      | none => false
  | _ => false

end Host

/-- A request in which the console works as its script has it. What is buffered is a level and a
message; a drain buffers nothing, and hands out the buffer or fails in the engine; and where no
engine was created nothing is buffered. -/
structure Proper (host : Host) (past : History) (e : Event) : Prop where
  pairs : ∀ v ∈ host.logged past e, ∃ level message, v = .list [.str level, .str message]
  silent : e.isDrain = true → (host.drain past).logged = []
  drained : e.isDrain = true → (host.drain past).result = .ok none ∨
    ∃ f, f.isEngine = true ∧ (host.drain past).result = .error f
  unborn : e.isCreate = true → ∀ f, (host.create past).result = .error f →
    (host.create past).logged = []

namespace Trace

def Regular (host : Host) : History → Prop
  | [] => True
  | e :: past => Proper host past e ∧ Regular host past

/-- What an engine has buffered since its last successful drain. -/
def buffered (host : Host) (i : Nat) : History → List Value
  | [] => []
  | e :: past =>
      if e.engine? = some i then
        if host.handsOut past e then [] else buffered host i past ++ host.logged past e
      else buffered host i past

/-- All records that were ever buffered, each with its engine, the earliest first. -/
def produced (host : Host) : History → List (Nat × Value)
  | [] => []
  | e :: past =>
      produced host past ++
        match e.engine? with
        | some i => (host.logged past e).map (i, ·)
        | none => []

/-- All records that drains have handed out, each with its engine, the earliest first. -/
def handed (host : Host) : History → List (Nat × Value)
  | [] => []
  | e :: past =>
      handed host past ++
        match e.engine? with
        | some i => if host.handsOut past e then (buffered host i past).map (i, ·) else []
        | none => []

def ofEngine (i : Nat) (records : List (Nat × Value)) : List Value :=
  records.filterMap fun r => if r.1 = i then some r.2 else none

def Ordered (host : Host) (i : Nat) (past : History) : Prop :=
  ∃ sent, produced host past = sent ++ (buffered host i past).map (i, ·) ∧
    (handed host past).Sublist sent

/-- An interruption has struck while the engine was being made: while a script was evaluated in it
that it had to have first, or while its bundle was loaded. -/
def Abandoned (host : Host) (i : Nat) : History → Prop
  | [] => False
  | e :: past =>
      (host.interrupts past e = true ∧ (e.engine? <|> latest? past) = some i ∧
        (phase host i past = .bare ∨ phase host i past = .console)) ∨
      Abandoned host i past

def Gone (host : Host) (i : Nat) (past : History) : Prop :=
  0 < closings i past ∨ Abandoned host i past

variable {host : Host} {i j : Nat} {e : Event} {past : History}

theorem buffered_cons_other (h : e.engine? ≠ some i) :
    buffered host i (e :: past) = buffered host i past := by
  rw [buffered, if_neg h]

theorem buffered_cons_self (h : e.engine? = some i) (hd : host.handsOut past e = false) :
    buffered host i (e :: past) = buffered host i past ++ host.logged past e := by
  rw [buffered, if_pos h, hd, if_neg Bool.false_ne_true]

theorem buffered_cons_drained (h : e.engine? = some i) (hd : host.handsOut past e = true) :
    buffered host i (e :: past) = [] := by
  rw [buffered, if_pos h, if_pos hd]

theorem produced_cons_none (h : e.engine? = none) :
    produced host (e :: past) = produced host past := by
  rw [produced, h, List.append_nil]

theorem produced_cons_some (h : e.engine? = some i) :
    produced host (e :: past) = produced host past ++ (host.logged past e).map (i, ·) := by
  rw [produced, h]

theorem handed_cons_of_not (hd : host.handsOut past e = false) :
    handed host (e :: past) = handed host past := by
  rw [handed, hd]
  cases e.engine? <;> simp

theorem handed_cons_drained (h : e.engine? = some i) (hd : host.handsOut past e = true) :
    handed host (e :: past) = handed host past ++ (buffered host i past).map (i, ·) := by
  rw [handed, h]
  simp [hd]

theorem closings_le_cons (i : Nat) (e : Event) (past : History) :
    closings i past ≤ closings i (e :: past) := by
  rw [closings, closings, List.countP_cons]
  exact Nat.le_add_right _ _

theorem Gone.cons (h : Gone host i past) (e : Event) : Gone host i (e :: past) := by
  rcases h with h | h
  · exact .inl (Nat.lt_of_lt_of_le h (closings_le_cons i e past))
  · exact .inr (.inr h)

theorem closings_close (i : Nat) (past : History) : 0 < closings i (.close i :: past) := by
  rw [closings, List.countP_cons_of_pos (by simp [Event.closes])]
  exact Nat.succ_pos _

theorem handsOut_of_outside (h : e.engine? = none) : host.handsOut past e = false := by
  cases e <;> simp [Event.engine?] at h <;> rfl

theorem logged_of_handsOut (hp : Proper host past e) (h : host.handsOut past e = true) :
    host.logged past e = [] := by
  cases e <;> simp only [Host.handsOut, Bool.false_eq_true] at h
  exact hp.silent rfl

theorem regular_of_proper (h : ∀ past e, Proper host past e) (past : History) :
    Regular host past := by
  induction past with
  | nil => trivial
  | cons e past ih => exact ⟨h past e, ih⟩

@[simp] theorem ofEngine_append (i : Nat) (as bs : List (Nat × Value)) :
    ofEngine i (as ++ bs) = ofEngine i as ++ ofEngine i bs :=
  List.filterMap_append

theorem ofEngine_self (i : Nat) (rs : List Value) : ofEngine i (rs.map (i, ·)) = rs := by
  have hown : (fun r : Nat × Value => if r.1 = i then some r.2 else none) ∘ (i, ·) = some := by
    funext v
    exact if_pos rfl
  rw [ofEngine, List.filterMap_map, hown, List.filterMap_some]

theorem ofEngine_other (h : j ≠ i) (rs : List Value) : ofEngine i (rs.map (j, ·)) = [] := by
  rw [ofEngine, List.filterMap_map, List.filterMap_eq_nil_iff]
  intro v _
  exact if_neg h

theorem handed_append_buffered (hr : Regular host past) (i : Nat) :
    ofEngine i (handed host past) ++ buffered host i past =
      ofEngine i (produced host past) := by
  induction past with
  | nil => rfl
  | cons e past ih =>
      replace ih := ih hr.2
      cases he : e.engine? with
      | none =>
          rw [handed_cons_of_not (handsOut_of_outside he), buffered_cons_other (by simp [he]),
            produced_cons_none he, ih]
      | some j =>
          cases hd : host.handsOut past e with
          | false =>
              rw [handed_cons_of_not hd, produced_cons_some he, ofEngine_append, ← ih]
              by_cases hj : j = i
              · subst hj
                rw [buffered_cons_self he hd, ofEngine_self, List.append_assoc]
              · rw [buffered_cons_other (by simp [he, hj]), ofEngine_other hj, List.append_nil]
          | true =>
              rw [handed_cons_drained he hd, produced_cons_some he, logged_of_handsOut hr.1 hd,
                List.map_nil, List.append_nil, ofEngine_append, ← ih]
              by_cases hj : j = i
              · subst hj
                rw [buffered_cons_drained he hd, ofEngine_self, List.append_nil]
              · rw [buffered_cons_other (by simp [he, hj]), ofEngine_other hj, List.append_nil]

namespace Ordered

theorem sublist (h : Ordered host i past) : (handed host past).Sublist (produced host past) := by
  obtain ⟨sent, hp, hs⟩ := h
  rw [hp]
  exact hs.trans (List.sublist_append_left _ _)

theorem start (h : (handed host past).Sublist (produced host past))
    (hi : buffered host i past = []) : Ordered host i past :=
  ⟨produced host past, by simp [hi], h⟩

theorem request (h : Ordered host i past) (he : e.engine? = some i)
    (hd : host.handsOut past e = false) : Ordered host i (e :: past) := by
  obtain ⟨sent, hp, hs⟩ := h
  refine ⟨sent, ?_, ?_⟩
  · rw [produced_cons_some he, buffered_cons_self he hd, hp]
    simp
  · rw [handed_cons_of_not hd]
    exact hs

theorem drain (hp : Proper host past e) (h : Ordered host i past) (he : e.engine? = some i)
    (hd : host.handsOut past e = true) : Ordered host i (e :: past) := by
  obtain ⟨sent, hsent, hs⟩ := h
  refine ⟨produced host (e :: past), ?_, ?_⟩
  · rw [buffered_cons_drained he hd, List.map_nil, List.append_nil]
  · rw [handed_cons_drained he hd, produced_cons_some he, logged_of_handsOut hp hd, List.map_nil,
      List.append_nil, hsent]
    exact hs.append (List.Sublist.refl _)

theorem outside (h : Ordered host i past) (he : e.engine? = none) :
    Ordered host i (e :: past) := by
  obtain ⟨sent, hp, hs⟩ := h
  refine ⟨sent, ?_, ?_⟩
  · rw [produced_cons_none he, buffered_cons_other (by simp [he]), hp]
  · rw [handed_cons_of_not (handsOut_of_outside he)]
    exact hs

end Ordered
end Trace
end AssetTranspiler
