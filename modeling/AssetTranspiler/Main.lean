import AssetTranspiler.Stress.Run

namespace AssetTranspiler.Stress

def usage : String := "usage: stress [-h] [--bundle PATH] [--concurrent N] [--calls N]"

def readEnvironment : IO (List (String × String)) :=
  ["JS_PROCESSOR_BUNDLE", "CONCURRENT", "CALLS"].filterMapM fun name => do
    return (← IO.getEnv name).map fun value => (name, value)

def readBundle (path : String) : IO Files := do
  try
    return [(path, .bytes (← IO.FS.readBinFile path).toList)]
  catch
    | .noFileOrDirectory _ _ _ => return []
    | _ => return [(path, .directory)]

def readFiles : Arguments.Outcome → IO Files
  | .run a => readBundle a.bundle
  | _ => return []

def print (r : Report) : IO Unit := do
  IO.print r.output
  match r.errors with
  | some errors => IO.eprint errors
  | none => IO.eprintln usage

def run (args : List String) : IO UInt32 := do
  match plan args (← readEnvironment) with
  | .error problem =>
      IO.eprintln problem.message
      return 1
  | .ok outcome =>
      if outcome matches .help then IO.println usage
      match carryOut outcome (← readFiles outcome) {} with
      | .error problem =>
          IO.eprintln problem.message
          return 1
      | .ok r =>
          print r
          return r.exit.toUInt32

end AssetTranspiler.Stress

def main (args : List String) : IO UInt32 :=
  AssetTranspiler.Stress.run args
