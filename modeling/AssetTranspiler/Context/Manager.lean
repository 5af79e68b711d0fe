import AssetTranspiler.Bundle.Build
import AssetTranspiler.Context.Engine

/-!
The life of the script context. It is made when it is first needed: the bundle is built, unless that
is switched off, an engine is created, and the console and the bundle are evaluated in it. A context
that could not be completed is never published.
-/

namespace AssetTranspiler.Context

def bundleName : String := "js-processor.js"

def bundlePath : Job String := do
  return Bundle.orElse (← read).options.processorPath (← get).settings.bundlePath

def buildBundle (path : String) : Job Value := do
  match (← read).host.build with
  | none => return .str (← Bundle.build (some path) none)
  | some build =>
      let result ← Job.request (.build path) fun _ past => build past path
      Job.ofExcept (result.mapError .raised)

def loadBundle (path : Value) : Job String := do
  match (← read).host.load with
  | none =>
      match path with
      | .str p => Bundle.read p none
      | _ => throw .mismatch
  | some load =>
      let result ← Job.request (.load path) fun _ past => load past path
      return (← Job.ofExcept (result.mapError .raised)).display

def equip (i : Nat) (path : Value) : Job Unit := do
  discard <| Engine.evaluate i Console.shim
  let code ← loadBundle path
  discard <| Engine.evaluate i (Engine.named code (some bundleName))

/-- Makes a context. An engine that could not be equipped is closed, unless the process was
interrupted. -/
def construct : Job Nat := do
  let path ← bundlePath
  let path ← if (← read).options.rebuild then buildBundle path else pure (.str path)
  let i ← Engine.create
  match ← Job.attempt (equip i path) with
  | .ok () =>
      Engine.setState i .ready
      return i
  | .error fault =>
      unless fault.isInterrupt do
        Engine.dispose i
      throw fault

def setState (state : Lifecycle) : Job Unit :=
  Job.updateManager fun m => { m with state := state }

def getOrCreate : Job Nat := do
  match (← get).manager.usable? with
  | some i => return i
  | none =>
      setState .initializing
      match ← Job.attempt construct with
      | .ok i =>
          Job.updateManager fun m =>
            { m with context := some i, state := .ready, builds := m.builds + 1, ready := true }
          let builds := (← get).manager.builds
          Job.log .context .info
            ("JS processor context ready (build #" ++ toString builds ++ ")")
          return i
      | .error fault =>
          unless fault.isInterrupt do
            setState .uninitialized
            Job.logFailure .context .error "JS processor context initialization failed"
          throw fault

def cancelIdle : Job Unit :=
  Job.updateManager fun m => { m with pending := false }

def reset : Job Unit := do
  cancelIdle
  let held := (← get).manager.context
  Job.updateManager fun m => { m with ready := false, context := none, state := .uninitialized }
  match held with
  | none => return
  | some i =>
      Engine.dispose i
      Job.log .context .info "JS processor context disposed"

def dispose : Job Unit := do
  Job.updateManager fun m => { m with collector := .absent, pending := false }
  reset
  setState .disposed

end AssetTranspiler.Context
