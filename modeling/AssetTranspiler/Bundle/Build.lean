import AssetTranspiler.Command.Words
import AssetTranspiler.Service.Job
import AssetTranspiler.Settings.Basic
import AssetTranspiler.Text.Character

namespace AssetTranspiler.Bundle

def fixedOptions : List String :=
  ["--log-level=warning", "--bundle", "--external:fs",
    "--define:process=\x7b\"env\":\x7b\x7d\x7d"]

def orElse (s : Option String) (other : String) : String :=
  match s with
  | none => other
  | some t => if t.isEmpty then other else t

def command (settings : Settings) (output : String) (source : Option String := none) :
    Except Command.Problem (List String) :=
  (Command.words settings.buildCommand).map fun words =>
    words ++ fixedOptions ++ [orElse source settings.bundleSource, "--outfile=" ++ output]

theorem orElse_eq (s : Option String) (other : String) :
    orElse s other = (s.filter (· ≠ "")).getD other := by
  cases s with
  | none => rfl
  | some t => by_cases ht : t = "" <;> simp [orElse, Option.filter, ht]

def strip (s : String) : String :=
  String.ofList (Text.trim Text.isBlank s.toList)

def build (output directory : Option String) : Job String := do
  let settings := (← get).settings
  let out := orElse output settings.bundlePath
  let dir := orElse directory settings.appRoot
  let command ← Job.ofExcept ((command settings out).mapError .command)
  Job.log .bundle .info ("Building JS processor: " ++ out)
  let result ← Job.request (.run command dir) fun host past => host.run past command
  match result with
  | .error failure => throw (.raised failure)
  | .ok (.failed exit notes) =>
      Job.log .bundle .error
        ("JS processor build failed (exit " ++ toString exit ++ "): " ++ strip notes)
      throw (.build exit)
  | .ok (.succeeded written notes) =>
      Job.update fun s => { s with files := s.files.write (Files.join dir out) written }
      unless notes.isEmpty do
        Job.log .bundle .warning ("esbuild: " ++ strip notes)
      return out

def read (path : String) (directory : Option String) : Job String := do
  let settings := (← get).settings
  let full := Files.join (orElse directory settings.appRoot) path
  Job.request (.openFile full) fun _ _ => ()
  Job.ofExcept (((← get).files.read full).mapError .file)

end AssetTranspiler.Bundle
