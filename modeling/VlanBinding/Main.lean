import VlanBinding.Cli.Run

/-!
The tool as a program: it reads the file that its arguments name and puts out the lines of the run.
It has no connection of its own, so that asking the service ends as with a service that is down.
-/

namespace VlanBinding.Cli

/-- What is found under a path. -/
def readFile (path : String) : IO File := do
  match ← (IO.FS.readBinFile path).toBaseIO with
  | .ok content => pure ⟨path, some content⟩
  | .error _ => pure ⟨path, none⟩

/-- Runs the tool on files that have been read; under any other path there is none. -/
def outputOn (files : List File) (i : Invocation) : Output :=
  let find (path : String) : File := (files.find? (·.path == path)).getD ⟨path, none⟩
  (run {} find i {}).1.output

def outputOf (args : List String) : IO Output := do
  match Invocation.parse args with
  | .error e => pure e.output
  | .ok i => pure (outputOn (← i.command.files.mapM readFile) i)

end VlanBinding.Cli

def main (args : List String) : IO UInt32 := do
  let output ← VlanBinding.Cli.outputOf args
  output.out.forM (IO.println ·)
  output.err.forM (IO.eprintln ·)
  pure output.exitCode.toUInt32
