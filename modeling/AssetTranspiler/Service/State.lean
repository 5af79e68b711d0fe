import AssetTranspiler.Log.Console
import AssetTranspiler.Path.Registry
import AssetTranspiler.Plugin.Registry
import AssetTranspiler.Service.Host
import AssetTranspiler.Settings.Basic

namespace AssetTranspiler

inductive Lifecycle where
  | uninitialized
  | initializing
  | ready
  | disposed
  deriving DecidableEq, Repr

namespace Lifecycle

def name : Lifecycle → String
  | .uninitialized => "uninitialized"
  | .initializing => "initializing"
  | .ready => "ready"
  | .disposed => "disposed"

def all : List Lifecycle := [.uninitialized, .initializing, .ready, .disposed]

end Lifecycle

structure Engine where
  state : Lifecycle
  pending : List Value
  deriving Repr

/-- The thread that asks an idle engine to shrink its heap. Once interrupted it does nothing more. -/
inductive Collector where
  | absent
  | waiting
  | broken
  deriving DecidableEq, Repr

structure Manager where
  state : Lifecycle := .uninitialized
  context : Option Nat := none
  ready : Bool := false
  builds : Nat := 0
  locked : Bool := false
  collector : Collector := .absent
  /-- Whether a collection is due once the engine has been idle for long enough. -/
  pending : Bool := false
  lastCall : Nat := 0
  deriving DecidableEq, Repr

namespace Manager

def usable? (m : Manager) : Option Nat :=
  if m.ready then m.context else none

end Manager

structure Service where
  settings : Settings
  paths : PathRegistry := .empty
  plugins : PluginRegistry := .empty
  manager : Manager := {}
  engines : List Engine := []
  files : Files := []
  /-- Milliseconds since the service was started. -/
  now : Nat := 0
  /-- All requests so far, the latest first. -/
  history : History := []
  /-- All log records so far, the latest first. -/
  log : List LogRecord := []

structure ManagerOptions where
  rebuild : Bool
  processorPath : Option String
  timeout : Int
  idleDelay : Int
  deriving DecidableEq, Repr

structure ManagerArguments where
  rebuild : Option Bool := none
  processorPath : Option String := none
  timeout : Option Int := none
  idleDelay : Option Int := none

def ManagerOptions.make (settings : Settings) (a : ManagerArguments) : ManagerOptions where
  rebuild := a.rebuild.getD !settings.isProduction
  processorPath := a.processorPath
  timeout := a.timeout.getD settings.timeout
  idleDelay := a.idleDelay.getD settings.idleDelay

structure Setup where
  options : ManagerOptions
  host : Host

end AssetTranspiler
