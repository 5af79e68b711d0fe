import AssetTranspiler.Proofs.Session.Operation

namespace AssetTranspiler

namespace Trace

variable {r : Rules} {host : Host} {i : Nat} {e : Event} {past older : History}

def Created (host : Host) (i : Nat) (past : History) : Prop :=
  ∃ older, .create i :: older <:+ past ∧ host.returns older (.create i) = true

namespace Rules

/-- What an engine that is still open has been asked: its console; then the bundle, if the console was
evaluated and the bundle was loaded; then any uses, if both evaluations have succeeded. -/
inductive Opening (r : Rules) (i : Nat) : List (Event × History) → Prop
  | console (p : History) : Opening r i [(r.consoleEvent i, p)]
  | bundle (p q : History) (text : String) : r.host.returns p (r.consoleEvent i) = true →
      r.loaded? q = some text → Opening r i [(r.consoleEvent i, p), (r.bundleEvent i text, q)]
  | uses (p q : History) (text : String) (uses : List (Event × History)) :
      r.host.returns p (r.consoleEvent i) = true → r.loaded? q = some text →
      r.host.returns q (r.bundleEvent i text) = true → (∀ m ∈ uses, m.1.isUse = true) →
      Opening r i ((r.consoleEvent i, p) :: (r.bundleEvent i text, q) :: uses)

def Course (r : Rules) (i : Nat) (ms : List (Event × History)) : Prop :=
  ∃ opening, r.Opening i opening ∧
    (ms = opening ∨ ∃ past, ms = opening ++ [(.close i, past)])

end Rules

theorem orderly_of_suffix (h : r.Orderly past) (hs : older <:+ past) : r.Orderly older := by
  induction past with
  | nil =>
      rw [List.suffix_nil.mp hs]
      trivial
  | cons e past ih =>
      rcases List.suffix_cons_iff.mp hs with rfl | hs
      · exact h
      · exact ih h.2 hs

theorem permits_of_suffix (h : r.Orderly past) (hs : e :: older <:+ past) : r.Permits older e :=
  (orderly_of_suffix h hs).1

theorem latest?_eq (h : r.Orderly past) (hi : i + 1 = creations past) :
    latest? past = some i := by
  induction past with
  | nil => simp [creations] at hi
  | cons e past ih =>
      obtain ⟨hp, ho⟩ := h
      cases e
      case create j =>
        rw [creations_cons_create] at hi
        have hj : i = j := (Nat.succ.inj hi).trans hp.1.symm
        rw [hj]
        rfl
      all_goals
        rw [creations_cons_other rfl] at hi
        exact ih ho hi

theorem created_cons_iff :
    Created host i (e :: past) ↔
      (e = .create i ∧ host.returns past e = true) ∨ Created host i past := by
  constructor
  · rintro ⟨older, hs, hr⟩
    rcases List.suffix_cons_iff.mp hs with heq | hs
    · obtain ⟨rfl, rfl⟩ := List.cons.inj heq
      exact .inl ⟨rfl, hr⟩
    · exact .inr ⟨older, hs, hr⟩
  · rintro (⟨rfl, hr⟩ | ⟨older, hs, hr⟩)
    · exact ⟨past, List.suffix_rfl, hr⟩
    · exact ⟨older, hs.trans (List.suffix_cons e past), hr⟩

theorem next_ne_absent {p : Phase} (h : p ≠ .absent) (returned : Bool) (e : Event) :
    p.next returned e ≠ .absent := by
  cases e <;> cases p <;> cases returned <;> simp_all [Phase.next]

theorem created_iff (h : r.Orderly past) (i : Nat) :
    Created r.host i past ↔ phase r.host i past ≠ .absent := by
  induction past with
  | nil => simp [Created, phase]
  | cons e past ih =>
      obtain ⟨hp, ho⟩ := h
      rw [created_cons_iff, ih ho]
      by_cases he : e.engine? = some i
      · rw [phase_cons_self he]
        cases hc : e.isCreate with
        | true =>
            obtain rfl := Event.eq_create he hc
            rw [phase_of_creations_le ho (Nat.le_of_eq hp.1.symm)]
            cases r.host.returns past (.create i) <;> simp [Phase.next]
        | false =>
            have hpresent := hp.present he hc
            exact iff_of_true (.inr hpresent) (next_ne_absent hpresent _ e)
      · rw [phase_cons_other he]
        refine or_iff_right ?_
        rintro ⟨rfl, -⟩
        exact he rfl

theorem opening_of_life {p : Phase} {ms : List (Event × History)} (h : r.Life i p ms)
    (hp : p = .console ∨ p = .spoiled ∨ p = .equipped) : r.Opening i ms := by
  cases h with
  | console p _ => exact .console p
  | mute p => exact .console p
  | broken p q text hr ht => exact .bundle p q text hr ht
  | equipped p q text uses hr ht hq hu => exact .uses p q text uses hr ht hq hu
  | _ => simp at hp

theorem course_of_life {p : Phase} {ms : List (Event × History)} (h : r.Life i p ms)
    (ha : p ≠ .absent) (hb : p ≠ .bare) : r.Course i ms := by
  cases h with
  | absent => exact absurd rfl ha
  | bare => exact absurd rfl hb
  | console p hr => exact ⟨_, .console p, .inl rfl⟩
  | mute p => exact ⟨_, .console p, .inl rfl⟩
  | broken p q text hr ht => exact ⟨_, .bundle p q text hr ht, .inl rfl⟩
  | equipped p q text uses hr ht hq hu => exact ⟨_, .uses p q text uses hr ht hq hu, .inl rfl⟩
  | closed p ms past hp hl => exact ⟨ms, opening_of_life hl hp, .inr ⟨past, rfl⟩⟩

theorem moments_of_life {ms : List (Event × History)} (h : r.Life i .absent ms) : ms = [] := by
  cases h
  rfl

end Trace

open Trace

structure Disciplined (o : Origin) (s : Service) : Prop where
  course : ∀ i, Created o.setup.host i s.history → o.rules.Course i (moments i s.history)
  silent : ∀ i, ¬ Created o.setup.host i s.history → moments i s.history = []
  created : ∀ i older, .create i :: older <:+ s.history →
    moments i older = [] ∧ ∀ j, phase o.setup.host j older ≠ .equipped
  used : ∀ e i older, e :: older <:+ s.history → e.isUse = true → e.engine? = some i →
    latest? older = some i ∧ phase o.setup.host i older = .equipped
  limited : ∀ e ∈ s.history, ∀ limit, e.timeout? = some limit → limit = o.setup.options.timeout
  usable_iff : ∀ i, s.manager.usable? = some i ↔ phase o.setup.host i s.history = .equipped

namespace Disciplined

variable {o : Origin} {start s : Service} {b : Bool}

theorem of_coherent (h : Coherent o start b s) : Disciplined o s where
  course i hi := by
    have hs := h.sound
    have hpresent := (created_iff hs.orderly i).mp hi
    exact course_of_life (life_of_orderly hs.orderly i) hpresent (h.phase_ne_bare i)
  silent i hi := by
    have hs := h.sound
    have habsent : phase o.rules.host i s.history = .absent :=
      Decidable.not_not.mp (mt (created_iff hs.orderly i).mpr hi)
    have hl := life_of_orderly hs.orderly i
    rw [habsent] at hl
    exact moments_of_life hl
  created i older hs := by
    have ho := h.sound.orderly
    have hp := permits_of_suffix ho hs
    have hl := life_of_orderly (orderly_of_suffix ho hs).2 i
    rw [phase_of_creations_le (orderly_of_suffix ho hs).2 (Nat.le_of_eq hp.1.symm)] at hl
    exact ⟨moments_of_life hl, hp.2⟩
  used e i older hs hu he := by
    have ho := orderly_of_suffix h.sound.orderly hs
    have hp := ho.1
    cases e <;> simp only [Event.isUse, Bool.false_eq_true] at hu <;>
      simp only [Event.engine?, Option.some.injEq] at he <;> subst he
    case call => exact ⟨latest?_eq ho.2 hp.2.1, hp.2.2⟩
    case drain => exact ⟨latest?_eq ho.2 hp.2.1, hp.2.2⟩
    case collect => exact ⟨latest?_eq ho.2 hp.1, hp.2⟩
  limited e he limit ht := by
    obtain ⟨newer, older, hs⟩ := List.append_of_mem he
    have hp := permits_of_suffix h.sound.orderly ⟨newer, hs.symm⟩
    cases e <;> simp only [Event.timeout?, Option.some.injEq, reduceCtorEq] at ht <;>
      rw [← ht] <;> exact hp.1
  usable_iff i := by
    rw [h.usable?_eq]
    exact h.context_iff i

end Disciplined

theorem disciplined_run (o : Origin) (ops : List Operation) :
    Disciplined o (Operation.run o.setup o.service ops) :=
  .of_coherent (Operation.coherent_run ops (.initial o))

end AssetTranspiler
