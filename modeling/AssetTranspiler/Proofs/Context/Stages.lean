import AssetTranspiler.Proofs.Context.Request
import AssetTranspiler.Proofs.Service.Contract
import AssetTranspiler.Proofs.Service.Trace

namespace AssetTranspiler

namespace Service

def enter (s : Service) (state : Lifecycle) : Service :=
  { s with manager := { s.manager with state := state } }

def publish (s : Service) (n : Nat) : Service :=
  { s with
    manager := { s.manager with
      context := some n, state := .ready, builds := s.manager.builds + 1, ready := true }
    log := ⟨.context, .info, "JS processor context ready (build #" ++
      toString (s.manager.builds + 1) ++ ")", false⟩ :: s.log }

def renounce (s : Service) (fault : Fault) : Service :=
  if fault.isInterrupt then s
  else
    { s.enter .uninitialized with
      log := ⟨.context, .error, "JS processor context initialization failed", true⟩ :: s.log }

def vacate (s : Service) : Service :=
  { s with manager := { s.manager with
      pending := false, ready := false, context := none, state := .uninitialized } }

theorem history_renounce (s : Service) (fault : Fault) :
    (s.renounce fault).history = s.history := by
  rw [renounce]
  split <;> rfl

end Service

namespace Engine

variable {setup : Setup} {s : Service}

theorem returns_create :
    setup.host.returns s.history (.create s.engines.length) = (create.exec setup s).1.isOk := by
  rw [outcome_create, Host.returns]
  cases (setup.host.create s.history).result <;> rfl

theorem returns_evaluate {i : Nat} {code : String} {limit : Int} :
    setup.host.returns s.history (.evaluate i code limit) =
      ((evaluate i code).exec setup s).1.isOk := by
  simp only [exec_evaluate, Host.returns]
  cases (setup.host.evaluate s.history code).result <;> rfl

end Engine

theorem Manager.usable?_eq {m : Manager} (h : m.ready = m.context.isSome) :
    m.usable? = m.context := by
  rw [usable?, h]
  cases m.context <;> rfl

namespace Context

variable (setup : Setup) (s : Service)

def prepare : Job Value := do
  let path ← bundlePath
  if (← read).options.rebuild then buildBundle path else pure (.str path)

theorem exec_getOrCreate_of_usable {n : Nat} (h : s.manager.usable? = some n) :
    getOrCreate.exec setup s = (.ok n, s) := by
  simp [getOrCreate, Job.exec_bind, h]

theorem exec_getOrCreate (h : s.manager.usable? = none) :
    getOrCreate.exec setup s =
      match construct.exec setup (s.enter .initializing) with
      | (.ok n, t) => (.ok n, t.publish n)
      | (.error fault, t) => (.error fault, t.renounce fault) := by
  simp only [getOrCreate, setState, Job.exec_bind, Job.exec_get, h, Job.exec_updateManager,
    Job.exec_attempt, Service.enter]
  rcases construct.exec setup { s with manager := { s.manager with state := .initializing } } with
    ⟨fault | n, t⟩
  · cases hf : fault.isInterrupt with
    | true => simp [Service.renounce, hf]
    | false =>
        simp only [Service.renounce, hf, Job.exec_bind, Job.exec_updateManager, Job.exec_logFailure,
          Job.exec_throw, Bool.false_eq_true, if_false]
        rfl
  · rfl

theorem exec_reset :
    reset.exec setup s =
      match s.manager.context with
      | none => (.ok (), s.vacate)
      | some n =>
          match (Engine.dispose n).exec setup s.vacate with
          | (.ok (), t) =>
              (.ok (), { t with
                log := ⟨.context, .info, "JS processor context disposed", false⟩ :: t.log })
          | (.error fault, t) => (.error fault, t) := by
  simp only [reset, cancelIdle, Job.exec_bind, Job.exec_updateManager, Job.exec_get]
  cases s.manager.context with
  | none => rfl
  | some n =>
      simp only [Job.exec_bind, Service.vacate]
      generalize (Engine.dispose n).exec setup _ = x
      rcases x with ⟨fault | u, t⟩ <;> rfl

theorem reset_ok (h : ∀ past, (setup.host.close past).result = .ok ()) :
    (reset.exec setup s).1 = .ok () := by
  have hdispose (i : Nat) (s : Service) : ∃ t, (Engine.dispose i).exec setup s = (.ok (), t) := by
    by_cases hl : s.life? i = some .disposed
    · exact ⟨s, Engine.exec_dispose_of_disposed _ _ _ hl⟩
    · simp only [Engine.exec_dispose _ _ _ hl, Engine.exec_close, h]
      exact ⟨_, rfl⟩
  rw [exec_reset]
  cases s.manager.context with
  | none => rfl
  | some i =>
      obtain ⟨t, ht⟩ := hdispose i s.vacate
      simp only [ht]

theorem dispose_ok (h : ∀ past, (setup.host.close past).result = .ok ()) :
    (dispose.exec setup s).1 = .ok () := by
  have hreset := reset_ok setup { s with manager := { s.manager with
    collector := .absent, pending := false } } h
  simp only [dispose, Job.exec_bind, Job.exec_updateManager]
  rcases hr : reset.exec setup { s with manager := { s.manager with
    collector := .absent, pending := false } } with ⟨fault | u, t⟩ <;> rw [hr] at hreset
  · cases hreset
  · rfl

theorem construct_eq :
    construct = (do
      let path ← prepare
      let i ← Engine.create
      match ← Job.attempt (equip i path) with
      | .ok () =>
          Engine.setState i .ready
          return i
      | .error fault =>
          unless fault.isInterrupt do
            Engine.dispose i
          throw fault) := by
  simp only [construct, prepare, bind_assoc]
  refine bind_congr fun path => bind_congr fun setup => ?_
  split <;> rfl

theorem exec_construct :
    construct.exec setup s =
      match prepare.exec setup s with
      | (.error fault, t) => (.error fault, t)
      | (.ok path, t) =>
          match Engine.create.exec setup t with
          | (.error fault, t) => (.error fault, t)
          | (.ok i, t) =>
              match (equip i path).exec setup t with
              | (.ok (), t) => (.ok i, t.setLife i .ready)
              | (.error fault, t) =>
                  if fault.isInterrupt then (.error fault, t)
                  else
                    match (Engine.dispose i).exec setup t with
                    | (.ok (), t) => (.error fault, t)
                    | (.error masking, t) => (.error masking, t) := by
  rw [construct_eq, Job.exec_bind]
  rcases prepare.exec setup s with ⟨fault | path, t⟩
  · rfl
  simp only [Job.exec_bind]
  rcases Engine.create.exec setup t with ⟨fault | i, t⟩
  · rfl
  simp only [Job.exec_attempt]
  rcases (equip i path).exec setup t with ⟨fault | u, t⟩
  · cases hf : fault.isInterrupt with
    | true => simp [hf]
    | false =>
        simp only [hf, Bool.false_eq_true, if_false, Job.exec_bind]
        rcases (Engine.dispose i).exec setup t with ⟨masking | u, t⟩ <;> rfl
  · rfl

theorem keeps_loadBundle {P : Service → Prop} {setup : Setup}
    (hr : ∀ {s : Service} (e : Event), e.engine? = none → P s → P (s.ask e)) (path : Value) :
    Job.Keeps setup P (loadBundle path) := by
  have hrequest : ∀ {α : Type} (e : Event) (answer : Host → History → α), e.engine? = none →
      Job.Keeps setup P (Job.request e answer) := fun e _ he _ hs => hr e he hs
  refine Job.keeps_read.bind fun setup' => ?_
  cases setup'.host.load with
  | none =>
      cases path with
      | str p =>
          exact Job.keeps_get.bind fun _ => (hrequest _ _ rfl).bind fun _ =>
            Job.keeps_get.bind fun _ => Job.keeps_ofExcept _
      | _ => exact Job.keeps_throw _
  | some load =>
      exact (hrequest _ _ rfl).bind fun _ => (Job.keeps_ofExcept _).bind fun _ =>
        Job.keeps_pure _

end Context

/-- A property of the service that requests to the tools and to the files do not bear upon, nor do the
files, nor what the service itself logs. -/
structure Outside (P : Service → Prop) : Prop where
  request : ∀ {s} (e : Event), e.engine? = none → P s → P (s.ask e)
  files : ∀ {s} (fs : Files), P s → P { s with files := fs }
  log : ∀ {s} (r : LogRecord), r.source ≠ .console → P s → P { s with log := r :: s.log }

/-- A property of the service that no stage of making a context bears upon: it looks neither at the
engines nor at the files or the log, and of the requests only at those that use or close an engine. -/
structure Steady (P : Service → Prop) : Prop where
  request : ∀ {s} (e : Event), e.isUse = false → e.isClose = false → P s → P (s.ask e)
  engines : ∀ {s} (es : List Engine), P s → P { s with engines := es }
  files : ∀ {s} (fs : Files), P s → P { s with files := fs }
  log : ∀ {s} (r : LogRecord), r.source ≠ .console → P s → P { s with log := r :: s.log }

structure Quiet (P : Service → Prop) : Prop extends Steady P where
  close : ∀ {s} (i : Nat), P s → P (s.ask (.close i))

namespace Outside

variable {P : Service → Prop} {setup : Setup}

theorem keeps_request (h : Outside P) {α : Type} {e : Event} (he : e.engine? = none)
    (answer : Host → History → α) : Job.Keeps setup P (Job.request e answer) :=
  fun _ hs => h.request e he hs

theorem keeps_log (h : Outside P) {source : LogSource} (hs : source ≠ .console)
    (level : LogLevel) (message : String) : Job.Keeps setup P (Job.log source level message) :=
  fun _ hp => h.log _ hs hp

theorem keeps_build (h : Outside P) (output directory : Option String) :
    Job.Keeps setup P (Bundle.build output directory) := by
  refine Job.keeps_get.bind fun s => ?_
  refine (Job.keeps_ofExcept _).bind fun command => ?_
  refine (h.keeps_log (by decide) _ _).bind fun _ => ?_
  refine (h.keeps_request rfl _).bind fun result => ?_
  rcases result with f | ⟨written, notes⟩ | ⟨exit, notes⟩
  · exact Job.keeps_throw _
  · refine Job.Keeps.bind (Job.keeps_update fun s hs => h.files _ hs) fun _ => ?_
    cases notes.isEmpty with
    | true => exact Job.keeps_pure _
    | false => exact (h.keeps_log (by decide) _ _).bind fun _ => Job.keeps_pure _
  · exact (h.keeps_log (by decide) _ _).bind fun _ => Job.keeps_throw _

theorem keeps_prepare (h : Outside P) : Job.Keeps setup P Context.prepare := by
  refine (Job.keeps_read.bind fun _ => Job.keeps_get.bind fun _ => Job.keeps_pure _).bind
    fun path => ?_
  refine Job.keeps_read.bind fun setup' => ?_
  split
  · refine Job.keeps_read.bind fun setup' => ?_
    cases setup'.host.build with
    | none => exact (h.keeps_build _ _).bind fun _ => Job.keeps_pure _
    | some build => exact (h.keeps_request rfl _).bind fun _ => Job.keeps_ofExcept _
  · exact Job.keeps_pure _

theorem keeps_loadBundle (h : Outside P) (path : Value) :
    Job.Keeps setup P (Context.loadBundle path) :=
  Context.keeps_loadBundle h.request path

end Outside

namespace Steady

variable {P : Service → Prop} {setup : Setup}

theorem keeps_request (h : Steady P) {α : Type} {e : Event} (hu : e.isUse = false)
    (hc : e.isClose = false) (answer : Host → History → α) :
    Job.Keeps setup P (Job.request e answer) :=
  fun _ hs => h.request e hu hc hs

theorem keeps_updateEngine (h : Steady P) (i : Nat) (f : Engine → Engine) :
    Job.Keeps setup P (Engine.update i f) :=
  fun _ hs => h.engines _ hs

theorem keeps_accept (h : Steady P) {α : Type} (i : Nat) (r : Reply α) :
    Job.Keeps setup P (Engine.accept i r) :=
  (h.keeps_updateEngine i _).bind fun _ => Job.keeps_ofExcept _

theorem keeps_create (h : Steady P) : Job.Keeps setup P Engine.create := by
  refine Job.keeps_get.bind fun s => ?_
  refine (h.keeps_request rfl rfl _).bind fun r => ?_
  refine Job.Keeps.bind (Job.keeps_update fun s hs => h.engines _ hs) fun _ => ?_
  refine (h.keeps_accept _ r).bind fun _ => ?_
  exact (h.keeps_updateEngine _ _).bind fun _ => Job.keeps_pure _

theorem keeps_evaluate (h : Steady P) (i : Nat) (code : String) :
    Job.Keeps setup P (Engine.evaluate i code) :=
  Job.keeps_read.bind fun _ => (h.keeps_request rfl rfl _).bind fun r => h.keeps_accept i r

theorem outside (h : Steady P) : Outside P where
  request e he hs := by
    cases e <;> simp only [Event.engine?, reduceCtorEq] at he <;> exact h.request _ rfl rfl hs
  files := h.files
  log := h.log

theorem keeps_equip (h : Steady P) (i : Nat) (path : Value) :
    Job.Keeps setup P (Context.equip i path) :=
  ((h.keeps_evaluate i _).map _).bind fun _ => (h.outside.keeps_loadBundle path).bind fun _ =>
    (h.keeps_evaluate i _).map _

end Steady

namespace Quiet

variable {P : Service → Prop} {setup : Setup}

theorem ofManager (m : Manager) : Quiet fun s => s.manager = m where
  request _ _ _ h := h
  engines _ h := h
  files _ h := h
  log _ _ h := h
  close _ h := h

theorem keeps_close (h : Quiet P) (i : Nat) : Job.Keeps setup P (Engine.close i) :=
  Job.Keeps.bind (fun _ hs => h.close i hs) fun r => h.keeps_accept i r

theorem keeps_dispose (h : Quiet P) (i : Nat) : Job.Keeps setup P (Engine.dispose i) := by
  refine (Job.keeps_get.bind fun s => Job.keeps_pure _).bind fun life => ?_
  split
  · exact Job.keeps_pure ()
  · exact (h.keeps_updateEngine i _).bind fun _ => h.keeps_close i

theorem keeps_construct (h : Quiet P) : Job.Keeps setup P Context.construct := by
  rw [Context.construct_eq]
  refine h.outside.keeps_prepare.bind fun path => h.keeps_create.bind fun i => ?_
  refine (h.keeps_equip i path).attempt.bind fun outcome => ?_
  cases outcome with
  | ok u => exact (h.keeps_updateEngine i _).bind fun _ => Job.keeps_pure i
  | error fault =>
      cases hf : fault.isInterrupt with
      | true => simpa [hf] using Job.keeps_throw fault
      | false => simpa [hf] using (h.keeps_dispose i).bind fun _ => Job.keeps_throw fault

theorem keeps_getOrCreate (h : Quiet P)
    (hm : ∀ {s : Service} (m : Manager), m.pending = s.manager.pending →
      m.lastCall = s.manager.lastCall → m.collector = s.manager.collector → P s →
      P { s with manager := m }) :
    Job.Keeps setup P Context.getOrCreate := by
  intro s hs
  cases hu : s.manager.usable? with
  | some n =>
      rw [Context.exec_getOrCreate_of_usable setup s hu]
      exact hs
  | none =>
      have hc : P (Context.construct.exec setup (s.enter .initializing)).2 :=
        h.keeps_construct _ (hm _ rfl rfl rfl hs)
      rw [Context.exec_getOrCreate setup s hu]
      rcases hr : Context.construct.exec setup (s.enter .initializing) with ⟨fault | n, t⟩ <;>
        rw [hr] at hc
      · simp only [Service.renounce]
        split
        · exact hc
        · exact h.log _ (by simp) (hm _ rfl rfl rfl hc)
      · have hp : P { t with manager := (t.publish n).manager } := hm _ rfl rfl rfl hc
        exact h.log _ (by simp) hp

end Quiet
end AssetTranspiler
