import AssetTranspiler.Value.Display

namespace AssetTranspiler

inductive LogLevel where
  | debug
  | info
  | warning
  | error
  deriving DecidableEq, Repr

inductive LogSource where
  | paths
  | plugins
  | bundle
  | context
  | gateway
  | transpiler
  | console
  deriving DecidableEq, Repr

/-- A record; `failure` tells that the failure at hand is attached to it. -/
structure LogRecord where
  source : LogSource
  level : LogLevel
  message : String
  failure : Bool := false
  deriving DecidableEq, Repr

namespace LogLevel

def name : LogLevel → String
  | .debug => "DEBUG"
  | .info => "INFO"
  | .warning => "WARNING"
  | .error => "ERROR"

end LogLevel

namespace LogSource

def name : LogSource → String
  | .paths => "js_processor.core.paths"
  | .plugins => "js_processor.core.module_name"
  | .bundle => "js_processor.engines.js.builder"
  | .context => "js_processor.engines.js.context"
  | .gateway => "js_processor.engines.js.executor"
  | .transpiler => "js_processor.engines.transpiler"
  | .console => "js_processor.engines.js.console"

end LogSource
end AssetTranspiler

namespace AssetTranspiler.Console

def drainFunction : String := "__drainHostLog"

def shim : String :=
  "\nvar __hostLog = [];\n" ++
  "var rails = \x7b\n" ++
  "  logger: \x7b\n" ++
  "    info: function (msg) \x7b __hostLog.push([\"info\", String(msg)]); \x7d,\n" ++
  "    warn: function (msg) \x7b __hostLog.push([\"warn\", String(msg)]); \x7d,\n" ++
  "    error: function (msg) \x7b __hostLog.push([\"error\", String(msg)]); \x7d\n" ++
  "  \x7d\n" ++
  "\x7d;\n" ++
  "function " ++ drainFunction ++ "() \x7b\n" ++
  "  var out = __hostLog;\n" ++
  "  __hostLog = [];\n" ++
  "  return out;\n" ++
  "\x7d\n"

def level (name : String) : LogLevel :=
  if name = "warn" then .warning
  else if name = "error" then .error
  else .info

def entry (record : Value) : LogLevel × String :=
  match record.elements? with
  | some [name, message] => (level name.display, message.display)
  | _ => (.info, record.display)

def entries? (records : Value) : Option (List (LogLevel × String)) :=
  if records.truthy then records.elements?.map (·.map entry) else some []

theorem entry_pair (name message : String) :
    entry (.list [.str name, .str message]) = (level name, message) := rfl

theorem entries?_list (rs : List Value) : entries? (.list rs) = some (rs.map entry) := by
  cases rs <;> simp [entries?, Value.truthy, Value.elements?]

theorem entries?_of_not_truthy {v : Value} (h : v.truthy = false) : entries? v = some [] := by
  simp [entries?, h]

end AssetTranspiler.Console
