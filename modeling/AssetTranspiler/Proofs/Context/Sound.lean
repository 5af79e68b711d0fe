import AssetTranspiler.Proofs.Context.Request
import AssetTranspiler.Proofs.Service.Contract
import AssetTranspiler.Proofs.Service.Trace

/-!
Engines and their history. A sound state has an orderly history, and what it knows of its engines and
files is what the history tells. Making a context leads from sound states to sound states, at
whichever stage it breaks off.
-/

namespace AssetTranspiler

open Trace

structure Origin where
  setup : Setup
  settings : Settings
  files : Files

namespace Origin

variable (o : Origin)

def service : Service :=
  { settings := o.settings, files := o.files }

def bundlePath : String :=
  Bundle.orElse o.setup.options.processorPath o.settings.bundlePath

def target : String :=
  Files.join o.settings.appRoot (Bundle.orElse (some o.bundlePath) o.settings.bundlePath)

/-- The files after the requests of a history: each run of the build tool that has succeeded has
written its target. -/
def filesAfter : History → Files
  | [] => o.files
  | .run command _ :: past =>
      match o.setup.host.run past command with
      | .ok (.succeeded written _) => (filesAfter past).write o.target written
      | _ => filesAfter past
  | _ :: past => filesAfter past

def loaded? : History → Option String
  | .load path :: past =>
      match o.setup.host.load with
      | some load => (load past path).toOption.map Value.display
      | none => none
  | .openFile path :: past => ((o.filesAfter past).read path).toOption
  | _ => none

def rules : Rules where
  host := o.setup.host
  timeout := o.setup.options.timeout
  loaded? := o.loaded?

end Origin

/-- The state of a run that has the given manager and whose history goes on from `base`. At most one
engine is busy: it is the latest one, bare, with its console, or equipped. -/
structure Sound (o : Origin) (base : History) (m : Manager) (busy : Option (Nat × Phase))
    (s : Service) : Prop where
  manager : s.manager = m
  settings : s.settings = o.settings
  files : s.files = o.filesAfter s.history
  continues : base <:+ s.history
  orderly : o.rules.Orderly s.history
  length : s.engines.length = creations s.history
  closed : ∀ i, s.life? i = some .disposed ↔ phase o.setup.host i s.history = .closed
  latest : ∀ n p, busy = some (n, p) →
    n + 1 = creations s.history ∧ phase o.setup.host n s.history = p
  settled : ∀ i, (∀ p, busy ≠ some (i, p)) → (phase o.setup.host i s.history).Settled

namespace Sound

variable {o : Origin} {base : History} {m : Manager} {busy : Option (Nat × Phase)}
  {s t : Service} {e : Event} {n : Nat}

theorem congr {m' : Manager} (h : Sound o base m busy s) (hm : t.manager = m')
    (hs : t.settings = s.settings) (hf : t.files = s.files) (hh : t.history = s.history)
    (he : t.engines = s.engines) : Sound o base m' busy t where
  manager := hm
  settings := hs.trans h.settings
  files := by rw [hf, hh, h.files]
  continues := hh ▸ h.continues
  orderly := hh ▸ h.orderly
  length := by rw [he, hh, h.length]
  closed i := by
    rw [hh, ← h.closed i, Service.life?, Service.life?, he]
  latest := hh ▸ h.latest
  settled := hh ▸ h.settled

theorem lt_length {p : Phase} (h : Sound o base m (some (n, p)) s) : n < s.engines.length := by
  have hl := (h.latest n p rfl).1
  rw [h.length]
  omega

theorem settled_of_ne {p : Phase} {i : Nat} (h : Sound o base m (some (n, p)) s) (hi : i ≠ n) :
    (phase o.setup.host i s.history).Settled := by
  apply h.settled i
  intro q hq
  exact hi (congrArg Prod.fst (Option.some.inj hq)).symm

theorem release {p : Phase} (h : Sound o base m (some (n, p)) s) (hp : p.Settled) :
    Sound o base m none s where
  manager := h.manager
  settings := h.settings
  files := h.files
  continues := h.continues
  orderly := h.orderly
  length := h.length
  closed := h.closed
  latest := by simp
  settled i _ := by
    by_cases hi : i = n
    · rw [hi, (h.latest n p rfl).2]
      exact hp
    · exact h.settled_of_ne hi

variable {busy' : Option (Nat × Phase)}

theorem asked (h : Sound o base m busy s) (ha : s.Asked e t)
    (hp : o.rules.Permits s.history e) (hc : e.isCreate = false)
    (hw : o.filesAfter (e :: s.history) = o.filesAfter s.history)
    (hx : e.isClose = false)
    (hl : ∀ n p, busy' = some (n, p) →
      n + 1 = creations s.history ∧ phase o.setup.host n (e :: s.history) = p)
    (hs : ∀ i, (∀ p, busy' ≠ some (i, p)) → (phase o.setup.host i (e :: s.history)).Settled) :
    Sound o base m busy' t where
  manager := ha.manager.trans h.manager
  settings := ha.settings.trans h.settings
  files := by rw [ha.history, hw, ha.files, h.files]
  continues := ha.history ▸ h.continues.trans (List.suffix_cons _ _)
  orderly := ha.history ▸ ⟨hp, h.orderly⟩
  length := by rw [ha.length, ha.history, creations_cons_other hc, h.length]
  closed i := by
    rw [ha.life, ha.history, h.closed]
    exact (closed_cons_iff h.orderly hp (Event.closes_eq_false hx)).symm
  latest n p hb := by
    rw [ha.history, creations_cons_other hc]
    exact hl n p hb
  settled i hi := by
    rw [ha.history]
    exact hs i hi

theorem outside (h : Sound o base m busy s) (he : e.engine? = none) (hm : t.manager = s.manager)
    (hs : t.settings = s.settings) (hh : t.history = e :: s.history)
    (hg : t.engines = s.engines) (hf : t.files = o.filesAfter (e :: s.history)) :
    Sound o base m busy t := by
  have hphase : ∀ i, phase o.setup.host i t.history = phase o.setup.host i s.history := by
    intro i
    rw [hh]
    exact phase_cons_other (by simp [he])
  have hcreations : creations t.history = creations s.history := by
    rw [hh]
    apply creations_cons_other
    cases e <;> simp [Event.engine?] at he <;> rfl
  refine ⟨hm.trans h.manager, hs.trans h.settings, hh ▸ hf, ?_, ?_, ?_, ?_, ?_, ?_⟩
  · rw [hh]
    exact h.continues.trans (List.suffix_cons _ _)
  · rw [hh]
    refine ⟨?_, h.orderly⟩
    cases e <;> simp [Event.engine?] at he <;> trivial
  · rw [hg, hcreations, h.length]
  · intro i
    rw [hphase, ← h.closed i, Service.life?, Service.life?, hg]
  · intro n p hb
    rw [hcreations, hphase]
    exact h.latest n p hb
  · intro i hi
    rw [hphase]
    exact h.settled i hi

theorem use (h : Sound o base m (some (n, .equipped)) s) (ha : s.Asked e t)
    (hu : e.isUse = true) (hn : e.engine? = some n)
    (ht : ∀ limit, e.timeout? = some limit → limit = o.setup.options.timeout) :
    Sound o base m (some (n, .equipped)) t := by
  obtain ⟨hl, hp⟩ := h.latest n .equipped rfl
  have hphase : ∀ i, phase o.setup.host i (e :: s.history) = phase o.setup.host i s.history := by
    intro i
    by_cases hi : e.engine? = some i
    · rw [phase_cons_self hi]
      cases e <;> simp [Event.isUse] at hu <;> rfl
    · exact phase_cons_other hi
  have hpermits : o.rules.Permits s.history e := by
    cases e <;> simp [Event.isUse] at hu <;>
      simp only [Event.engine?, Option.some.injEq] at hn <;> subst hn
    case call => exact ⟨ht _ rfl, hl, hp⟩
    case drain => exact ⟨ht _ rfl, hl, hp⟩
    case collect => exact ⟨hl, hp⟩
  refine h.asked ha hpermits ?_ ?_ ?_ ?_ ?_
  · cases e <;> simp [Event.isUse] at hu <;> rfl
  · cases e <;> simp [Event.isUse] at hu <;> rfl
  · cases e <;> simp [Event.isUse] at hu <;> rfl
  · intro i p hb
    rw [hphase]
    exact h.latest i p hb
  · intro i hi
    rw [hphase]
    exact h.settled i hi

theorem evaluate {p : Phase} {code : String} (h : Sound o base m (some (n, p)) s)
    (ha : s.Asked (.evaluate n code o.setup.options.timeout) t)
    (hp : o.rules.Permits s.history (.evaluate n code o.setup.options.timeout)) :
    Sound o base m (some (n, p.next (o.setup.host.returns s.history
      (.evaluate n code o.setup.options.timeout)) (.evaluate n code o.setup.options.timeout))) t := by
  obtain ⟨hl, hn⟩ := h.latest n p rfl
  have hother : ∀ i, i ≠ n → phase o.setup.host i
      (.evaluate n code o.setup.options.timeout :: s.history) = phase o.setup.host i s.history :=
    fun i hi => phase_cons_other (by simpa [Event.engine?] using Ne.symm hi)
  have hself : phase o.setup.host n (.evaluate n code o.setup.options.timeout :: s.history) =
      (phase o.setup.host n s.history).next (o.setup.host.returns s.history
        (.evaluate n code o.setup.options.timeout)) (.evaluate n code o.setup.options.timeout) :=
    phase_cons_self rfl
  rw [hn] at hself
  refine h.asked ha hp rfl rfl rfl ?_ ?_
  · intro i q hq
    simp only [Option.some.injEq, Prod.mk.injEq] at hq
    obtain ⟨rfl, rfl⟩ := hq
    exact ⟨hl, hself⟩
  · intro i hi
    have hi' : i ≠ n := by
      rintro rfl
      exact hi _ rfl
    rw [hother i hi']
    exact h.settled_of_ne hi'

theorem create (h : Sound o base m none s) (ha : s.Added t) :
    Sound o base m (if o.setup.host.returns s.history (.create s.engines.length) then
      some (s.engines.length, .bare) else none) t := by
  have hnew := phase_of_creations_le h.orderly (Nat.le_of_eq h.length.symm)
  have hphase : phase o.setup.host s.engines.length (.create s.engines.length :: s.history) =
      Phase.absent.next (o.setup.host.returns s.history (.create s.engines.length))
        (.create s.engines.length) := by
    rw [phase_cons_self rfl]
    exact congrArg (fun p => Phase.next p _ _) hnew
  have hold : ∀ i, i ≠ s.engines.length → phase o.setup.host i
      (.create s.engines.length :: s.history) = phase o.setup.host i s.history :=
    fun i hi => phase_cons_other (by simpa [Event.engine?] using Ne.symm hi)
  -- no engine is busy, so none is equipped while this one is created
  have hsettled : ∀ i, (phase o.setup.host i s.history).Settled :=
    fun i => h.settled i (by simp)
  refine ⟨ha.manager.trans h.manager, ha.settings.trans h.settings, ?_, ?_, ?_, ?_, ?_, ?_, ?_⟩
  · rw [ha.files, ha.history, h.files]
    rfl
  · rw [ha.history]
    exact h.continues.trans (List.suffix_cons _ _)
  · rw [ha.history]
    exact ⟨⟨h.length, fun j => (hsettled j).2⟩, h.orderly⟩
  · rw [ha.length, ha.history, creations_cons_create, h.length]
  · intro i
    rw [ha.history]
    by_cases hi : i = s.engines.length
    · rw [hi, hphase]
      cases o.setup.host.returns s.history _ <;> simp [Phase.next, ha.life_self]
    · rw [hold i hi, ha.life_other i hi, h.closed]
  · intro i q hq
    rw [ha.history, creations_cons_create, ← h.length]
    cases hr : o.setup.host.returns s.history (.create s.engines.length) with
    | false => simp [hr] at hq
    | true =>
        simp only [hr, if_true, Option.some.injEq, Prod.mk.injEq] at hq
        obtain ⟨rfl, rfl⟩ := hq
        rw [hphase, hr]
        exact ⟨rfl, rfl⟩
  · intro i hi
    rw [ha.history]
    by_cases hn : i = s.engines.length
    · cases hr : o.setup.host.returns s.history (.create s.engines.length) with
      | false =>
          rw [hn, hphase, hr]
          exact ⟨by simp [Phase.next], by simp [Phase.next]⟩
      | true =>
          rw [hr, hn] at hi
          exact absurd rfl (hi .bare)
    · rw [hold i hn]
      exact hsettled i

theorem close (h : Sound o base m busy s) (hm : t.manager = s.manager)
    (hs : t.settings = s.settings) (hf : t.files = s.files)
    (hh : t.history = .close n :: s.history) (he : t.engines.length = s.engines.length)
    (hself : t.life? n = some .disposed) (hother : ∀ i, i ≠ n → t.life? i = s.life? i)
    (hp : phase o.setup.host n s.history = .console ∨
      phase o.setup.host n s.history = .spoiled ∨ phase o.setup.host n s.history = .equipped)
    (hrest : ∀ i, i ≠ n → (phase o.setup.host i s.history).Settled) :
    Sound o base m none t := by
  have hphase : phase o.setup.host n (.close n :: s.history) = .closed := by
    rw [phase_cons_self rfl]
    rcases hp with hp | hp | hp <;> rw [hp] <;> rfl
  have hold : ∀ i, i ≠ n → phase o.setup.host i (.close n :: s.history) =
      phase o.setup.host i s.history :=
    fun i hi => phase_cons_other (by simpa [Event.engine?] using Ne.symm hi)
  refine ⟨hm.trans h.manager, hs.trans h.settings, ?_, ?_, ?_, ?_, ?_, by simp, ?_⟩
  · rw [hf, hh, h.files]
    rfl
  · rw [hh]
    exact h.continues.trans (List.suffix_cons _ _)
  · rw [hh]
    exact ⟨hp, h.orderly⟩
  · rw [he, hh, creations_cons_other rfl, h.length]
  · intro i
    rw [hh]
    by_cases hi : i = n
    · rw [hi, hphase, hself]
      simp
    · rw [hold i hi, hother i hi, h.closed]
  · intro i _
    rw [hh]
    by_cases hi : i = n
    · rw [hi, hphase]
      exact ⟨by simp, by simp⟩
    · rw [hold i hi]
      exact hrest i hi

end Sound
end AssetTranspiler
