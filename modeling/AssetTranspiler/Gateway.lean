import AssetTranspiler.Context.Idle

/-!
Calls into the script context. They are made one at a time. Failures of the engine are translated;
after each call the console is drained into the log, and the engine is known to be idle.
-/

namespace AssetTranspiler.Gateway

def consoleRecord (entry : LogLevel × String) : LogRecord :=
  ⟨.console, entry.1, entry.2, false⟩

def forward (records : Value) : Job Nat := do
  match Console.entries? records with
  | none => throw .mismatch
  | some entries =>
      Job.update fun s => { s with log := (entries.map consoleRecord).reverse ++ s.log }
      return entries.length

def forwardConsole (i : Nat) : Job Unit := do
  match ← Job.attempt (Engine.drain i) with
  | .ok records => discard <| forward records
  | .error (.raised f) =>
      if f.isEngine then
        Job.log .gateway .debug ("Could not drain JS processor log: " ++ f.text)
      else throw (.raised f)
  | .error fault => throw fault

def invoke (i : Nat) (function : String) (arguments : List Value) (fetch : Option String) :
    Job Value := do
  let result ← Engine.call i function arguments
  match fetch with
  | none => return result
  | some f => if f.isEmpty then return result else Engine.call i f []

def announce (function : String) : Option TranspileError → Job Value
  | none => throw .exhausted
  | some error => do
      Job.log .gateway .warning ("JS processor " ++ function ++ " failed: " ++ error.message)
      throw (.transpile error)

def translate (function : String) (fault : Fault) : Job Value := do
  match fault with
  | .raised f =>
      if f.isEngine then announce function (TranspileError.ofFailure (← read).host.stack f)
      else throw fault
  | _ => throw fault

def call (function : String) (arguments : List Value) (fetch : Option String := none) :
    Job Value :=
  Context.withLock do
    let i ← Context.getOrCreate
    let outcome ← Job.attempt do
      match ← Job.attempt (invoke i function arguments fetch) with
      | .ok result => return result
      | .error fault => translate function fault
    forwardConsole i
    Context.notifyIdle
    Job.ofExcept outcome

def reset : Job Unit :=
  Context.withLock Context.reset

end AssetTranspiler.Gateway
