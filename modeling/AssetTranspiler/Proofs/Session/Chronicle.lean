import AssetTranspiler.Proofs.Bundle.Attempt
import AssetTranspiler.Proofs.Context.Clock
import AssetTranspiler.Proofs.Session.Aside

namespace AssetTranspiler

def Event.makes : Event → Bool
  | .create _ => true
  | .evaluate _ _ _ => true
  | .build _ => true
  | .load _ => true
  | .run _ _ => true
  | .openFile _ => true
  | _ => false

inductive Chronicle (setup : Setup) (settings : Settings) (fs : Files) : Files → History → Prop
  | fresh : Chronicle setup settings fs fs []
  | attempt {n : Nat} {made : Bool} {gs hs : Files} {past h : History} :
      Chronicle setup settings fs gs past → Attempt setup settings n gs past made hs h →
      Chronicle setup settings fs hs h
  | request {e : Event} {gs : Files} {past : History} :
      Chronicle setup settings fs gs past → e.makes = false →
      Chronicle setup settings fs gs (e :: past)

section
variable {setup : Setup} {settings : Settings} {n : Nat} {fs gs : Files} {past h : History}
  {e : Event}

theorem mem_of_run_cons {a : Event} (ha : a.isRun = false) (he : e ∈ a :: past)
    (hr : e.isRun = true) : e ∈ past := by
  rcases List.mem_cons.mp he with rfl | he
  · simp [ha] at hr
  · exact he

theorem Discarded.not_run (ha : Discarded n past h) (he : e ∈ h) (hr : e.isRun = true) :
    e ∈ past := by
  cases ha with
  | left => exact he
  | closed => exact mem_of_run_cons rfl he hr

theorem Loading.not_run {file : String} {made : Bool} (hl : Loading setup n file fs past made h)
    (he : e ∈ h) (hr : e.isRun = true) : e ∈ past := by
  have hconsole : ∀ {rest}, e ∈ setup.consoleEvent n :: .create n :: rest → e ∈ rest :=
    fun hm => mem_of_run_cons rfl (mem_of_run_cons rfl hm hr) hr
  cases hl with
  | uncreated _ => exact mem_of_run_cons rfl he hr
  | mute _ _ ha => exact hconsole (ha.not_run he hr)
  | unread _ _ _ ha => exact hconsole (mem_of_run_cons rfl (ha.not_run he hr) hr)
  | broken _ _ _ _ ha =>
      exact hconsole (mem_of_run_cons rfl (mem_of_run_cons rfl (ha.not_run he hr) hr) hr)
  | loaded _ _ _ _ => exact hconsole (mem_of_run_cons rfl (mem_of_run_cons rfl he hr) hr)

theorem Attempt.not_run {made : Bool} (ha : Attempt setup settings n fs past made gs h)
    (ho : setup.options.rebuild = false) (he : e ∈ h) (hr : e.isRun = true) : e ∈ past := by
  cases ha with
  | unbuilt hb => cases hb <;> simp_all
  | equipped hb hl =>
      cases hb with
      | kept _ => exact hl.not_run he hr
      | built ht => simp [ht] at ho

theorem Chronicle.discard (hc : Chronicle setup settings fs gs past) (ha : Discarded n past h) :
    Chronicle setup settings fs gs h := by
  cases ha with
  | left => exact hc
  | closed => exact .request hc rfl

theorem Chronicle.not_run (hc : Chronicle setup settings fs gs past)
    (ho : setup.options.rebuild = false) : ∀ e ∈ past, e.isRun = false := by
  induction hc with
  | fresh => simp
  | attempt _ ha ih =>
      intro e he
      cases hr : e.isRun with
      | false => rfl
      | true => exact absurd (ih e (ha.not_run ho he hr)) (by simp [hr])
  | @request e _ _ _ hm ih =>
      refine List.forall_mem_cons.mpr ⟨?_, ih⟩
      cases e <;> first | rfl | cases hm

end

structure Chronicled (setup : Setup) (settings : Settings) (fs : Files) (s : Service) : Prop where
  settings_eq : s.settings = settings
  chronicle : Chronicle setup settings fs s.files s.history

namespace Chronicled

variable {setup : Setup} {settings : Settings} {fs : Files} {s t : Service} {e : Event}

theorem congr (h : Chronicled setup settings fs s) (hs : t.settings = s.settings)
    (hf : t.files = s.files) (hh : t.history = s.history) : Chronicled setup settings fs t where
  settings_eq := hs.trans h.settings_eq
  chronicle := by
    rw [hf, hh]
    exact h.chronicle

theorem ask (h : Chronicled setup settings fs s) (he : e.makes = false) :
    Chronicled setup settings fs (s.ask e) :=
  ⟨h.settings_eq, .request h.chronicle he⟩

theorem asked (h : Chronicled setup settings fs s) (ha : s.Asked e t) (he : e.makes = false) :
    Chronicled setup settings fs t :=
  (h.ask he).congr ha.settings ha.files ha.history

theorem untimed (setup : Setup) (settings : Settings) (fs : Files) :
    Untimed (Chronicled setup settings fs) where
  manager _ _ _ _ _ h := h.congr rfl rfl rfl

theorem usable (i : Nat) : Usable setup (Chronicled setup settings fs) i where
  call function arguments := by
    intro s h
    apply h.asked (Engine.asked_call setup s i function arguments)
    rw [Engine.callEvent]
    split <;> rfl
  drain s h := h.asked (Engine.asked_drain setup s i []) rfl
  collect s h := h.asked (Engine.asked_collect setup s i) rfl
  log _ h := h.congr rfl rfl rfl

theorem keeps_dispose (i : Nat) :
    Job.Keeps setup (Chronicled setup settings fs) (Engine.dispose i) := by
  intro s h
  obtain ⟨ha, hf, hs⟩ := Context.discarded_dispose setup i s
  refine ⟨hs.trans h.settings_eq, ?_⟩
  rw [hf]
  exact h.chronicle.discard ha

theorem keeps_settings :
    Job.Keeps setup (fun s => s.settings = settings) Context.getOrCreate :=
  Aside.keeps_getOrCreate ⟨fun _ _ _ _ _ _ h => h⟩

theorem keeps_getOrCreate (hb : setup.host.build = none) (hl : setup.host.load = none) :
    Job.Keeps setup (Chronicled setup settings fs) Context.getOrCreate := by
  intro s h
  cases hu : s.manager.usable? with
  | some n =>
      rw [Context.exec_getOrCreate_of_usable setup s hu]
      exact h
  | none =>
      have ha := Context.attempt_getOrCreate hb hl hu
      rw [h.settings_eq] at ha
      exact ⟨keeps_settings _ h.settings_eq, .attempt h.chronicle ha⟩

theorem preserved (hb : setup.host.build = none) (hl : setup.host.load = none) :
    Preserved setup (Chronicled setup settings fs) false where
  aside _ _ _ h := h.congr rfl rfl rfl
  log _ _ h := h.congr rfl rfl rfl
  getOrCreate := keeps_getOrCreate hb hl
  call function arguments fetch _ := by
    rw [Gateway.call_eq]
    exact (untimed ..).keeps_withLock ((keeps_getOrCreate hb hl).bind fun i =>
      (usable i).keeps_serve (untimed ..).keeps_notifyIdle function arguments fetch)
  notifyIdle := (untimed ..).keeps_notifyIdle
  cancelIdle := (untimed ..).keeps_cancelIdle
  collectIfIdle held := (untimed ..).keeps_whileHeld
    ((untimed ..).keeps_collectIfIdle fun s i _ h => (usable i).keeps_collect s h) held
  settle held := (untimed ..).keeps_whileHeld
    ((untimed ..).keeps_settle fun s i _ h => (usable i).keeps_collect s h) held

theorem keeps_updateManager (f : Manager → Manager) :
    Job.Keeps setup (Chronicled setup settings fs) (Job.updateManager f) :=
  Job.keeps_updateManager fun _ h => h.congr rfl rfl rfl

theorem keeps_reset : Job.Keeps setup (Chronicled setup settings fs) Context.reset := by
  refine (keeps_updateManager _).bind fun _ => Job.keeps_get.bind fun s => ?_
  refine (keeps_updateManager _).bind fun _ => ?_
  cases s.manager.context with
  | none => exact Job.keeps_pure ()
  | some i => exact (keeps_dispose i).bind fun _ => fun _ h => h.congr rfl rfl rfl

theorem keeps_perform (hb : setup.host.build = none) (hl : setup.host.load = none) {step : Step}
    (ho : step.isOperation = true) :
    Job.Keeps setup (Chronicled setup settings fs) step.perform := by
  cases hr : step.resets with
  | false => exact (preserved hb hl).keeps_perform step ho hr (by simp)
  | true =>
      refine Step.keeps_resetting ((untimed ..).keeps_withLock keeps_reset) keeps_reset ?_ hr
      exact (keeps_updateManager _).bind fun _ => keeps_reset.bind fun _ => keeps_updateManager _

theorem final (hb : setup.host.build = none) (hl : setup.host.load = none) {steps : List Step}
    (ho : ∀ step ∈ steps, step.isOperation = true) (h : Chronicled setup settings fs s) :
    Chronicled setup settings fs (Session.final setup s steps) := by
  induction steps generalizing s with
  | nil => exact h
  | cons step steps ih =>
      obtain ⟨hstep, hsteps⟩ := List.forall_mem_cons.mp ho
      -- after every operation comes a collection, should one be due
      have hturn : Chronicled setup settings fs (Session.turn setup s step).2 := by
        rw [Session.state_turn]
        exact (preserved hb hl).settle false _ (keeps_perform hb hl hstep s h)
      exact ih hsteps hturn

end Chronicled

def Setup.standard (settings : Settings) (a : ManagerArguments) (host : Host) : Setup where
  options := .make settings a
  host := { host with build := none, load := none }

def checkout : Settings :=
  { appRoot := "/r" }

end AssetTranspiler
