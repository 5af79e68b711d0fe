import AssetTranspiler.Service.Job

namespace AssetTranspiler.Engine

def update (i : Nat) (f : Engine → Engine) : Job Unit :=
  Job.update fun s => { s with engines := s.engines.modify i f }

def setState (i : Nat) (state : Lifecycle) : Job Unit :=
  update i fun e => { e with state := state }

def state? (i : Nat) : Job (Option Lifecycle) :=
  return (← get).engines[i]?.map Engine.state

def accept {α : Type} (i : Nat) (r : Reply α) : Job α := do
  update i fun e => { e with pending := e.pending ++ r.logged }
  Job.ofExcept (r.result.mapError .raised)

/-- Creates an engine. Its number is used up even when this fails. -/
def create : Job Nat := do
  let i := (← get).engines.length
  let r ← Job.request (.create i) Host.create
  Job.update fun s => { s with engines := s.engines ++ [⟨.uninitialized, []⟩] }
  accept i r
  setState i .initializing
  return i

def evaluate (i : Nat) (code : String) : Job Value := do
  let timeout := (← read).options.timeout
  let r ← Job.request (.evaluate i code timeout) fun host past => host.evaluate past code
  accept i r

def takePending (i : Nat) : Job Value := do
  let records := ((← get).engines[i]?.map Engine.pending).getD []
  update i fun e => { e with pending := [] }
  return .list records

/-- The drain function makes nothing of its arguments. -/
def drain (i : Nat) (arguments : List Value := []) : Job Value := do
  let timeout := (← read).options.timeout
  let r ← Job.request (.drain i arguments timeout) Host.drain
  match ← accept i r with
  | some v => return v
  | none => takePending i

def call (i : Nat) (function : String) (arguments : List Value) : Job Value := do
  if function = Console.drainFunction then drain i arguments
  else
    let timeout := (← read).options.timeout
    let r ← Job.request (.call i function arguments timeout) fun host past =>
      host.call past function arguments
    accept i r

def collect (i : Nat) : Job Unit := do
  accept i (← Job.request (.collect i) Host.collect)

def close (i : Nat) : Job Unit := do
  accept i (← Job.request (.close i) Host.close)

def dispose (i : Nat) : Job Unit := do
  if (← state? i) = some .disposed then return
  setState i .disposed
  close i

def named (code : String) (filename : Option String) : String :=
  match filename with
  | none => code
  | some name => if name.isEmpty then code else code ++ "\n//# sourceURL=" ++ name

end AssetTranspiler.Engine
