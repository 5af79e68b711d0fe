import AssetTranspiler.Context.Manager

/-!
Shrinking the heap of an idle engine. Each finished call puts the collection off; once no call has
followed for the manager's delay, a thread asks the engine to collect.
-/

namespace AssetTranspiler.Context

def notifyIdle : Job Unit := do
  if (← read).options.idleDelay ≤ 0 then return
  let now := (← get).now
  Job.updateManager fun m =>
    { m with
      lastCall := now
      pending := true
      collector := if m.collector = .absent then .waiting else m.collector }

def collect (i : Nat) : Job Unit := do
  match ← Job.attempt (Engine.collect i) with
  | .ok () => Job.log .context .debug "JS processor idle GC"
  | .error (.raised f) =>
      if f.isInterrupt then throw (.raised f)
      Job.log .context .warning ("JS processor idle GC failed: " ++ f.text)
  | .error fault => throw fault

def setLocked (locked : Bool) : Job Unit :=
  Job.updateManager fun m => { m with locked := locked }

def withLock {α : Type} (job : Job α) : Job α := do
  setLocked true
  let outcome ← Job.attempt job
  setLocked false
  Job.ofExcept outcome

theorem exec_withLock {α : Type} (job : Job α) (setup : Setup) (s : Service) :
    (withLock job).exec setup s =
      let t := job.exec setup { s with manager := { s.manager with locked := true } }
      (t.1, { t.2 with manager := { t.2.manager with locked := false } }) := by
  simp [withLock, setLocked, Job.exec_bind]

def collectIfIdle : Job Unit := do
  if (← get).manager.locked then return
  withLock do
    match (← get).manager.usable? with
    | none => return
    | some i => collect i

def isDue (delay : Int) (now : Nat) (m : Manager) : Bool :=
  m.collector == .waiting && m.pending && (m.lastCall : Int) + delay ≤ now

/-- What the collector does as soon as it can. An interruption ends it. -/
def settle : Job Unit := do
  let s ← get
  if isDue (← read).options.idleDelay s.now s.manager then
    cancelIdle
    match ← Job.attempt collectIfIdle with
    | .ok () => return
    | .error _ => Job.updateManager fun m => { m with collector := .broken }

def advance (milliseconds : Nat) : Job Unit :=
  Job.update fun s => { s with now := s.now + milliseconds }

end AssetTranspiler.Context
