import AssetTranspiler.Context.Manager

/-!
Traces of engines. Requests are judged by the requests before them: an engine is created, the console
and then the bundle are evaluated in it, it is used only after both evaluations have returned, and
it is closed at most once. An orderly history gives every engine such a course.
-/

namespace AssetTranspiler

namespace Event

def timeout? : Event → Option Int
  | .evaluate _ _ t => some t
  | .call _ _ _ t => some t
  | .drain _ _ t => some t
  | _ => none

def created? : Event → Option Nat
  | .create i => some i
  | _ => none

def closes (i : Nat) : Event → Bool
  | .close j => j == i
  | _ => false

def isUse (e : Event) : Bool :=
  match e with
  | .call _ _ _ _ => true
  | .drain _ _ _ => true
  | .collect _ => true
  | _ => false

variable {e : Event} {i : Nat}

theorem eq_create (he : e.engine? = some i) (hc : e.isCreate = true) : e = .create i := by
  cases e <;> simp only [isCreate, Bool.false_eq_true] at hc
  simp only [engine?, Option.some.injEq] at he
  rw [he]

theorem closes_eq_false (h : e.isClose = false) : e.closes i = false := by
  cases e <;> simp only [isClose, Bool.true_eq_false] at h <;> rfl

theorem closes_eq_true_iff : e.closes i = true ↔ e = .close i := by
  cases e <;> simp [closes]

end Event

def Host.returns (host : Host) (past : History) : Event → Bool
  | .create _ => (host.create past).result.isOk
  | .evaluate _ code _ => (host.evaluate past code).result.isOk
  | _ => true

inductive Phase where
  | absent
  | bare
  | console
  | equipped
  | spoiled
  | closed
  deriving DecidableEq, Repr

namespace Phase

def next (p : Phase) (returned : Bool) (e : Event) : Phase :=
  match e, p with
  | .create _, p => if returned then .bare else p
  | .evaluate _ _ _, .bare => if returned then .console else .spoiled
  | .evaluate _ _ _, .console => if returned then .equipped else .spoiled
  | .close _, _ => .closed
  | _, p => p

def Settled (p : Phase) : Prop :=
  p ≠ .bare ∧ p ≠ .equipped

end Phase

namespace Trace

def phase (host : Host) (i : Nat) : History → Phase
  | [] => .absent
  | e :: past =>
      if e.engine? = some i then (phase host i past).next (host.returns past e) e
      else phase host i past

def creations (past : History) : Nat :=
  past.countP Event.isCreate

def latest? (past : History) : Option Nat :=
  past.findSome? Event.created?

def closings (i : Nat) (past : History) : Nat :=
  past.countP (Event.closes i)

/-- What an engine has been asked since its creation, the earliest first, each request with the
requests before it. -/
def moments (i : Nat) : History → List (Event × History)
  | [] => []
  | e :: past =>
      if e.engine? = some i ∧ e.isCreate = false then moments i past ++ [(e, past)]
      else moments i past

variable {host : Host} {i : Nat} {e : Event} {past : History}

theorem phase_cons_other (h : e.engine? ≠ some i) :
    phase host i (e :: past) = phase host i past := by
  simp [phase, h]

theorem phase_cons_self (h : e.engine? = some i) :
    phase host i (e :: past) = (phase host i past).next (host.returns past e) e := by
  simp [phase, h]

theorem moments_cons_other (h : e.engine? ≠ some i) :
    moments i (e :: past) = moments i past := by
  simp [moments, h]

theorem moments_cons_create (j : Nat) : moments i (.create j :: past) = moments i past := by
  simp [moments, Event.isCreate]

theorem moments_cons_self (h : e.engine? = some i) (hc : e.isCreate = false) :
    moments i (e :: past) = moments i past ++ [(e, past)] := by
  simp [moments, h, hc]

theorem creations_cons_create (j : Nat) : creations (.create j :: past) = creations past + 1 :=
  List.countP_cons_of_pos rfl

theorem creations_cons_other (h : e.isCreate = false) :
    creations (e :: past) = creations past := by
  simp [creations, h]

theorem creations_le_cons (e : Event) (past : History) :
    creations past ≤ creations (e :: past) := by
  rw [creations, creations, List.countP_cons]
  exact Nat.le_add_right _ _

structure Rules where
  host : Host
  timeout : Int
  loaded? : History → Option String

def bundleScript (text : String) : String :=
  text ++ "\n//# sourceURL=js-processor.js"

namespace Rules

variable (r : Rules)

def Permits (past : History) : Event → Prop
  | .create i => i = creations past ∧ ∀ j, phase r.host j past ≠ .equipped
  | .evaluate i code t =>
      t = r.timeout ∧ i + 1 = creations past ∧
        ((phase r.host i past = .bare ∧ code = Console.shim) ∨
          (phase r.host i past = .console ∧
            ∃ text, r.loaded? past = some text ∧ code = bundleScript text))
  | .call i _ _ t => t = r.timeout ∧ i + 1 = creations past ∧ phase r.host i past = .equipped
  | .drain i _ t => t = r.timeout ∧ i + 1 = creations past ∧ phase r.host i past = .equipped
  | .collect i => i + 1 = creations past ∧ phase r.host i past = .equipped
  | .close i =>
      phase r.host i past = .console ∨ phase r.host i past = .spoiled ∨
        phase r.host i past = .equipped
  | _ => True

def Orderly : History → Prop
  | [] => True
  | e :: past => r.Permits past e ∧ Orderly past

def consoleEvent (i : Nat) : Event :=
  .evaluate i Console.shim r.timeout

def bundleEvent (i : Nat) (text : String) : Event :=
  .evaluate i (bundleScript text) r.timeout

inductive Life (i : Nat) : Phase → List (Event × History) → Prop
  | absent : Life i .absent []
  | bare : Life i .bare []
  | console (p : History) : r.host.returns p (r.consoleEvent i) = true →
      Life i .console [(r.consoleEvent i, p)]
  | mute (p : History) : Life i .spoiled [(r.consoleEvent i, p)]
  | broken (p q : History) (text : String) : r.host.returns p (r.consoleEvent i) = true →
      r.loaded? q = some text → Life i .spoiled [(r.consoleEvent i, p), (r.bundleEvent i text, q)]
  | equipped (p q : History) (text : String) (uses : List (Event × History)) :
      r.host.returns p (r.consoleEvent i) = true → r.loaded? q = some text →
      r.host.returns q (r.bundleEvent i text) = true → (∀ m ∈ uses, m.1.isUse = true) →
      Life i .equipped ((r.consoleEvent i, p) :: (r.bundleEvent i text, q) :: uses)
  | closed (p : Phase) (ms : List (Event × History)) (past : History) :
      p = .console ∨ p = .spoiled ∨ p = .equipped → Life i p ms →
      Life i .closed (ms ++ [(.close i, past)])

end Rules

variable {r : Rules}

theorem Rules.Permits.present (h : r.Permits past e) (he : e.engine? = some i)
    (hc : e.isCreate = false) : phase r.host i past ≠ .absent := by
  cases e <;> simp [Event.engine?, Event.isCreate] at he hc <;> subst he
  case evaluate => rcases h.2.2 with h | h <;> simp [h.1]
  case call => simp [h.2.2]
  case drain => simp [h.2.2]
  case collect => simp [h.2]
  case close => rcases h with h | h | h <;> simp [h]

theorem phase_of_creations_le (h : r.Orderly past) (hi : creations past ≤ i) :
    phase r.host i past = .absent := by
  induction past with
  | nil => rfl
  | cons e past ih =>
      obtain ⟨hp, ho⟩ := h
      have habsent := ih ho (Nat.le_trans (creations_le_cons e past) hi)
      by_cases he : e.engine? = some i
      · cases hc : e.isCreate with
        | false => exact absurd habsent (hp.present he hc)
        | true =>
            obtain rfl := Event.eq_create he hc
            have hn : i = creations past := hp.1
            rw [creations_cons_create] at hi
            omega
      · rw [phase_cons_other he]
        exact habsent

theorem Rules.Life.use {ms : List (Event × History)} (h : r.Life i .equipped ms)
    (he : e.isUse = true) (past : History) : r.Life i .equipped (ms ++ [(e, past)]) := by
  cases h with
  | equipped p q text uses hp hq hr hu =>
      refine .equipped p q text (uses ++ [(e, past)]) hp hq hr ?_
      intro m hm
      rcases List.mem_append.mp hm with hm | hm
      · exact hu m hm
      · rw [List.mem_singleton.mp hm]
        exact he

theorem Rules.Life.extend {ms : List (Event × History)} (h : r.Life i (phase r.host i past) ms)
    (hp : r.Permits past e) (he : e.engine? = some i) (hc : e.isCreate = false) :
    r.Life i (phase r.host i (e :: past)) (ms ++ [(e, past)]) := by
  rw [phase_cons_self he]
  cases e <;> simp [Event.engine?, Event.isCreate] at he hc <;> subst he
  case evaluate i code t =>
    obtain ⟨rfl, -, ⟨hb, rfl⟩ | ⟨hb, text, ht, rfl⟩⟩ := hp
    · rw [hb] at h ⊢
      cases h
      cases hr : r.host.returns past (.evaluate i Console.shim r.timeout) with
      | true => exact .console past hr
      | false => exact .mute past
    · rw [hb] at h ⊢
      cases h with
      | console p hp =>
          cases hr : r.host.returns past (.evaluate i (bundleScript text) r.timeout) with
          | true => exact .equipped p past text [] hp ht hr (by simp)
          | false => exact .broken p past text hp ht
  case call i function arguments t =>
    rw [hp.2.2] at h ⊢
    exact h.use rfl past
  case drain i _ t =>
    rw [hp.2.2] at h ⊢
    exact h.use rfl past
  case collect i =>
    rw [hp.2] at h ⊢
    exact h.use rfl past
  case close i =>
    exact .closed _ _ past hp h

theorem life_of_orderly (h : r.Orderly past) (i : Nat) :
    r.Life i (phase r.host i past) (moments i past) := by
  induction past with
  | nil => exact .absent
  | cons e past ih =>
      obtain ⟨hp, ho⟩ := h
      by_cases he : e.engine? = some i
      · cases e with
        | create j =>
            -- numbers are not used twice, so the engine has been asked nothing yet
            have hj : j = i := by simpa [Event.engine?] using he
            have ha := phase_of_creations_le ho (Nat.le_of_eq (hj ▸ hp.1).symm)
            have hl := ih ho
            rw [moments_cons_create, phase_cons_self he, ha]
            rw [ha] at hl
            generalize moments i past = ms at hl ⊢
            cases hl
            cases r.host.returns past (.create j) with
            | true => exact .bare
            | false => exact .absent
        | _ =>
            rw [moments_cons_self he rfl]
            exact (ih ho).extend hp he rfl
      · rw [phase_cons_other he, moments_cons_other he]
        exact ih ho

theorem closed_cons_iff (ho : r.Orderly past) (hp : r.Permits past e)
    (hc : e.closes i = false) :
    phase r.host i (e :: past) = .closed ↔ phase r.host i past = .closed := by
  by_cases he : e.engine? = some i
  · rw [phase_cons_self he]
    cases e <;> simp only [Event.engine?, Option.some.injEq, reduceCtorEq] at he <;> subst he
    case create i =>
      rw [phase_of_creations_le ho (Nat.le_of_eq hp.1.symm)]
      cases r.host.returns past (.create i) <;> simp [Phase.next]
    case evaluate i code t =>
      cases phase r.host i past <;> cases r.host.returns past (.evaluate i code t) <;>
        simp [Phase.next]
    case close i => simp [Event.closes] at hc
    all_goals rfl
  · rw [phase_cons_other he]

theorem closings_eq (h : r.Orderly past) (i : Nat) :
    closings i past = if phase r.host i past = .closed then 1 else 0 := by
  induction past with
  | nil => rfl
  | cons e past ih =>
      obtain ⟨hp, ho⟩ := h
      cases hc : e.closes i with
      | false =>
          rw [closings, List.countP_cons_of_neg (by simp [hc]), ← closings, ih ho]
          simp only [closed_cons_iff ho hp hc]
      | true =>
          rw [closings, List.countP_cons_of_pos hc, ← closings, ih ho]
          obtain rfl := Event.closes_eq_true_iff.mp hc
          rw [phase_cons_self rfl]
          rcases hp with hp | hp | hp <;> rw [hp] <;> rfl

theorem closed_of_suffix {past' : History} (h : r.Orderly past') (hs : past <:+ past')
    (hc : phase r.host i past = .closed) : phase r.host i past' = .closed := by
  induction past' with
  | nil =>
      rw [List.suffix_nil.mp hs] at hc
      exact hc
  | cons e past' ih =>
      obtain ⟨hp, ho⟩ := h
      rcases List.suffix_cons_iff.mp hs with rfl | hs
      · exact hc
      · cases he : e.closes i with
        | false => exact (closed_cons_iff ho hp he).mpr (ih ho hs)
        | true =>
            obtain rfl := Event.closes_eq_true_iff.mp he
            rw [phase_cons_self rfl]
            rfl

end Trace
end AssetTranspiler
