import AssetTranspiler.Log.Console
import AssetTranspiler.Service.State

namespace AssetTranspiler

abbrev Job (α : Type) := ReaderT Setup (ExceptT Fault (StateM Service)) α

namespace Job

def exec {α : Type} (job : Job α) (setup : Setup) (s : Service) : Except Fault α × Service :=
  (job.run setup).run.run s

/-- A job's outcome as a value; its changes stay. -/
def attempt {α : Type} (job : Job α) : Job (Except Fault α) :=
  fun setup => ExceptT.mk do return .ok (← (job.run setup).run)

def ofExcept {α : Type} : Except Fault α → Job α
  | .ok a => pure a
  | .error f => throw f

def update (f : Service → Service) : Job Unit :=
  modify f

def updateManager (f : Manager → Manager) : Job Unit :=
  modify fun s => { s with manager := f s.manager }

def log (source : LogSource) (level : LogLevel) (message : String) : Job Unit :=
  modify fun s => { s with log := ⟨source, level, message, false⟩ :: s.log }

def logFailure (source : LogSource) (level : LogLevel) (message : String) : Job Unit :=
  modify fun s => { s with log := ⟨source, level, message, true⟩ :: s.log }

/-- Records a request; the answer is worked out from the requests before it. -/
def request {α : Type} (e : Event) (answer : Host → History → α) : Job α := do
  let past := (← get).history
  modify fun s => { s with history := e :: s.history }
  return answer (← read).host past

section
variable {α β : Type} (setup : Setup) (s : Service)

@[simp] theorem exec_pure (a : α) : (pure a : Job α).exec setup s = (.ok a, s) := rfl

@[simp] theorem exec_throw (f : Fault) : (throw f : Job α).exec setup s = (.error f, s) := rfl

theorem exec_bind (m : Job α) (k : α → Job β) :
    (m >>= k).exec setup s =
      match m.exec setup s with
      | (.ok a, t) => (k a).exec setup t
      | (.error f, t) => (.error f, t) := by
  simp only [exec, ReaderT.run, bind, ReaderT.bind, ExceptT.bind, ExceptT.mk, ExceptT.run,
    StateT.bind, StateT.run]
  rcases m setup s with ⟨r, t⟩
  cases r <;> rfl

theorem exec_map (g : α → β) (m : Job α) :
    (g <$> m).exec setup s = ((m.exec setup s).1.map g, (m.exec setup s).2) := by
  rw [map_eq_pure_bind, exec_bind]
  rcases m.exec setup s with ⟨r, t⟩
  cases r <;> rfl

@[simp] theorem exec_read : (read : Job Setup).exec setup s = (.ok setup, s) := rfl

@[simp] theorem exec_get : (get : Job Service).exec setup s = (.ok s, s) := rfl

@[simp] theorem exec_update (f : Service → Service) :
    (update f).exec setup s = (.ok (), f s) := rfl

@[simp] theorem exec_updateManager (f : Manager → Manager) :
    (updateManager f).exec setup s = (.ok (), { s with manager := f s.manager }) := rfl

@[simp] theorem exec_log (source : LogSource) (level : LogLevel) (message : String) :
    (log source level message).exec setup s =
      (.ok (), { s with log := ⟨source, level, message, false⟩ :: s.log }) := rfl

@[simp] theorem exec_logFailure (source : LogSource) (level : LogLevel) (message : String) :
    (logFailure source level message).exec setup s =
      (.ok (), { s with log := ⟨source, level, message, true⟩ :: s.log }) := rfl

@[simp] theorem exec_ofExcept (r : Except Fault α) :
    (ofExcept r).exec setup s = (r, s) := by
  cases r <;> rfl

@[simp] theorem exec_attempt (job : Job α) :
    (attempt job).exec setup s = (.ok (job.exec setup s).1, (job.exec setup s).2) := rfl

@[simp] theorem exec_request (e : Event) (answer : Host → History → α) :
    (request e answer).exec setup s =
      (.ok (answer setup.host s.history), { s with history := e :: s.history }) := rfl

end

end Job
end AssetTranspiler
