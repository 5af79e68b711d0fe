import AssetTranspiler.Context.Engine
import AssetTranspiler.Proofs.Service.Contract

namespace AssetTranspiler

namespace Service

def ask (s : Service) (e : Event) : Service :=
  { s with history := e :: s.history }

def buffer (s : Service) (i : Nat) (records : List Value) : Service :=
  { s with engines := s.engines.modify i fun e => { e with pending := e.pending ++ records } }

def setLife (s : Service) (i : Nat) (state : Lifecycle) : Service :=
  { s with engines := s.engines.modify i fun e => { e with state := state } }

def addEngine (s : Service) : Service :=
  { s with engines := s.engines ++ [⟨.uninitialized, []⟩] }

def life? (s : Service) (i : Nat) : Option Lifecycle :=
  s.engines[i]?.map Engine.state

structure Asked (s : Service) (e : Event) (t : Service) : Prop where
  history : t.history = e :: s.history
  length : t.engines.length = s.engines.length
  life : ∀ i, t.life? i = s.life? i
  manager : t.manager = s.manager
  settings : t.settings = s.settings
  files : t.files = s.files

structure Added (s t : Service) : Prop where
  history : t.history = .create s.engines.length :: s.history
  length : t.engines.length = s.engines.length + 1
  life_self : t.life? s.engines.length ≠ some .disposed
  life_other : ∀ i, i ≠ s.engines.length → t.life? i = s.life? i
  manager : t.manager = s.manager
  settings : t.settings = s.settings
  files : t.files = s.files

variable (s : Service) (e : Event) (i : Nat) (rs : List Value) (st : Lifecycle)

@[simp] theorem history_ask : (s.ask e).history = e :: s.history := rfl

@[simp] theorem history_buffer : (s.buffer i rs).history = s.history := rfl

@[simp] theorem history_setLife : (s.setLife i st).history = s.history := rfl

@[simp] theorem life?_ask (j : Nat) : (s.ask e).life? j = s.life? j := rfl

@[simp] theorem life?_buffer (j : Nat) : (s.buffer i rs).life? j = s.life? j := by
  rw [life?, life?, buffer, List.getElem?_modify]
  cases s.engines[j]? with
  | none => rfl
  | some e => by_cases h : i = j <;> simp [h]

theorem life?_setLife_self (h : i < s.engines.length) : (s.setLife i st).life? i = some st := by
  simp [life?, setLife, h]

theorem life?_setLife_other {j : Nat} (h : j ≠ i) : (s.setLife i st).life? j = s.life? j := by
  simp [life?, setLife, Ne.symm h]

@[simp] theorem length_engines_buffer :
    (s.buffer i rs).engines.length = s.engines.length := by
  simp [buffer]

@[simp] theorem length_engines_setLife :
    (s.setLife i st).engines.length = s.engines.length := by
  simp [setLife]

theorem length_engines_addEngine : s.addEngine.engines.length = s.engines.length + 1 := by
  simp [addEngine]

theorem life?_addEngine_self : s.addEngine.life? s.engines.length = some .uninitialized := by
  simp [life?, addEngine]

theorem life?_addEngine_other (h : i ≠ s.engines.length) : s.addEngine.life? i = s.life? i := by
  rw [life?, life?, addEngine, List.getElem?_append]
  split
  · rfl
  · have hi : s.engines[i]? = none := by
      rw [List.getElem?_eq_none_iff]
      omega
    have hj : i - s.engines.length ≠ 0 := by omega
    rw [hi, List.getElem?_eq_none_iff.mpr (by simp; omega)]

theorem asked_buffer : s.Asked e ((s.ask e).buffer i rs) where
  history := rfl
  length := by simp [ask]
  life j := by simp
  manager := rfl
  settings := rfl
  files := rfl

theorem added_buffer :
    s.Added ((s.addEngine.ask (.create s.engines.length)).buffer s.engines.length rs) where
  history := rfl
  length := by simp [ask, length_engines_addEngine]
  life_self := by simp [life?_addEngine_self]
  life_other j hj := by simp [life?_addEngine_other s j hj]
  manager := rfl
  settings := rfl
  files := rfl

variable {s}

theorem Added.setLife {t : Service} (h : s.Added t) (hst : st ≠ .disposed) :
    s.Added (t.setLife s.engines.length st) where
  history := h.history
  length := by rw [length_engines_setLife, h.length]
  life_self := by
    rw [life?_setLife_self t _ st (by rw [h.length]; omega)]
    simpa using hst
  life_other j hj := by rw [life?_setLife_other t _ st hj, h.life_other j hj]
  manager := h.manager
  settings := h.settings
  files := h.files

end Service

namespace Engine

def callEvent (i : Nat) (function : String) (arguments : List Value) (timeout : Int) : Event :=
  if function = Console.drainFunction then .drain i arguments timeout
  else .call i function arguments timeout

variable {α : Type} (setup : Setup) (s : Service) (i : Nat)

theorem exec_setState (st : Lifecycle) :
    (setState i st).exec setup s = (.ok (), s.setLife i st) := rfl

theorem exec_state? : (state? i).exec setup s = (.ok (s.life? i), s) := rfl

theorem exec_accept (r : Reply α) :
    (accept i r).exec setup s = (r.result.mapError .raised, s.buffer i r.logged) := by
  simp [accept, update, Job.exec_bind, Service.buffer]

theorem exec_evaluate (code : String) :
    (evaluate i code).exec setup s =
      let r := setup.host.evaluate s.history code
      (r.result.mapError .raised,
        (s.ask (.evaluate i code setup.options.timeout)).buffer i r.logged) := by
  simp [evaluate, Job.exec_bind, exec_accept, Service.ask]

theorem exec_create :
    create.exec setup s =
      let n := s.engines.length
      let r := setup.host.create s.history
      let t := (s.addEngine.ask (.create n)).buffer n r.logged
      match r.result with
      | .ok () => (.ok n, t.setLife n .initializing)
      | .error f => (.error (.raised f), t) := by
  simp only [create, Job.exec_bind, Job.exec_get, Job.exec_request, Job.exec_update, exec_accept,
    exec_setState, Job.exec_pure, Service.addEngine, Service.ask]
  cases (setup.host.create s.history).result <;> rfl

theorem added_create : s.Added (create.exec setup s).2 := by
  have h := s.added_buffer (setup.host.create s.history).logged
  simp only [exec_create]
  cases (setup.host.create s.history).result with
  | error f => exact h
  | ok u => exact h.setLife .initializing (by simp)

theorem outcome_create :
    (create.exec setup s).1 =
      ((setup.host.create s.history).result.map fun _ => s.engines.length).mapError .raised := by
  simp only [exec_create]
  cases (setup.host.create s.history).result <;> rfl

theorem life?_of_create {s t : Service} (h : create.exec setup s = (.ok i, t)) :
    t.life? i = some .initializing := by
  rw [exec_create] at h
  cases hr : (setup.host.create s.history).result with
  | error f => simp [hr] at h
  | ok u =>
      simp only [hr, Prod.mk.injEq, Except.ok.injEq] at h
      obtain ⟨rfl, rfl⟩ := h
      apply Service.life?_setLife_self
      simp [Service.ask, Service.length_engines_addEngine]

theorem asked_evaluate (code : String) :
    s.Asked (.evaluate i code setup.options.timeout) ((evaluate i code).exec setup s).2 := by
  rw [exec_evaluate]
  exact s.asked_buffer _ _ _

theorem exec_drain (arguments : List Value) :
    (drain i arguments).exec setup s =
      let r := setup.host.drain s.history
      let t := (s.ask (.drain i arguments setup.options.timeout)).buffer i r.logged
      match r.result with
      | .error f => (.error (.raised f), t)
      | .ok (some v) => (.ok v, t)
      | .ok none => (takePending i).exec setup t := by
  simp only [drain, Job.exec_bind, Job.exec_read, Job.exec_request, exec_accept, Service.ask]
  rcases (setup.host.drain s.history).result with f | _ | v <;> rfl

theorem exec_takePending :
    (takePending i).exec setup s =
      (.ok (.list ((s.engines[i]?.map Engine.pending).getD [])),
        { s with engines := s.engines.modify i fun e => { e with pending := [] } }) := by
  simp [takePending, update, Job.exec_bind, Job.exec_map, Except.map]

theorem asked_drain (arguments : List Value) :
    s.Asked (.drain i arguments setup.options.timeout) ((drain i arguments).exec setup s).2 := by
  have h := s.asked_buffer (.drain i arguments setup.options.timeout) i
    (setup.host.drain s.history).logged
  simp only [exec_drain]
  rcases (setup.host.drain s.history).result with f | _ | v
  · exact h
  · simp only [exec_takePending]
    refine ⟨h.history, ?_, ?_, h.manager, h.settings, h.files⟩
    · rw [List.length_modify]
      exact h.length
    · intro j
      rw [← h.life j, Service.life?, Service.life?, List.getElem?_modify]
      cases ((s.ask _).buffer i _).engines[j]? with
      | none => rfl
      | some e => by_cases hj : i = j <;> simp [hj]
  · exact h

theorem exec_call_of_ne {function : String} (h : function ≠ Console.drainFunction)
    (arguments : List Value) :
    (call i function arguments).exec setup s =
      let r := setup.host.call s.history function arguments
      (r.result.mapError .raised,
        (s.ask (.call i function arguments setup.options.timeout)).buffer i r.logged) := by
  simp [call, h, Job.exec_bind, exec_accept, Service.ask]

theorem call_drainFunction (arguments : List Value) :
    call i Console.drainFunction arguments = drain i arguments := by
  simp [call]

theorem asked_call (function : String) (arguments : List Value) :
    s.Asked (callEvent i function arguments setup.options.timeout)
      ((call i function arguments).exec setup s).2 := by
  by_cases h : function = Console.drainFunction
  · rw [h, call_drainFunction, callEvent, if_pos rfl]
    exact asked_drain setup s i arguments
  · rw [exec_call_of_ne setup s i h, callEvent, if_neg h]
    exact s.asked_buffer _ _ _

theorem call_error {function : String} {arguments : List Value} {fault : Fault}
    (h : ((call i function arguments).exec setup s).1 = .error fault) :
    ∃ f, fault = .raised f := by
  by_cases hf : function = Console.drainFunction
  · subst hf
    simp only [call_drainFunction, exec_drain] at h
    rcases hr : (setup.host.drain s.history).result with f | _ | v <;> rw [hr] at h
    · exact ⟨f, (Except.error.inj h).symm⟩
    · simp [exec_takePending] at h
    · cases h
  · rw [exec_call_of_ne setup s i hf] at h
    cases hr : (setup.host.call s.history function arguments).result with
    | ok v => simp [hr] at h
    | error f =>
        simp only [hr, Job.mapError_error, Except.error.injEq] at h
        exact ⟨f, h.symm⟩

theorem exec_collect :
    (collect i).exec setup s =
      let r := setup.host.collect s.history
      (r.result.mapError .raised, (s.ask (.collect i)).buffer i r.logged) := by
  simp [collect, Job.exec_bind, exec_accept, Service.ask]

theorem asked_collect : s.Asked (.collect i) ((collect i).exec setup s).2 := by
  rw [exec_collect]
  exact s.asked_buffer _ _ _

theorem exec_close :
    (close i).exec setup s =
      let r := setup.host.close s.history
      (r.result.mapError .raised, (s.ask (.close i)).buffer i r.logged) := by
  simp [close, Job.exec_bind, exec_accept, Service.ask]

theorem exec_dispose_of_disposed (h : s.life? i = some .disposed) :
    (dispose i).exec setup s = (.ok (), s) := by
  simp [dispose, Job.exec_bind, exec_state?, h]

theorem exec_dispose (h : s.life? i ≠ some .disposed) :
    (dispose i).exec setup s = (close i).exec setup (s.setLife i .disposed) := by
  simp [dispose, Job.exec_bind, exec_state?, exec_setState, h]

end Engine
end AssetTranspiler
