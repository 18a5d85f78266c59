import BindingGraph.CommandLine.Check

/-!
# The program

Runs the command line on the files of the machine.
-/

namespace BindingGraph.CommandLine

/-- Why the machine cannot read a file. -/
def ReadError.ofIO (e : IO.Error) : ReadError :=
  match e with
  | .noFileOrDirectory _ _ _ | .noSuchThing _ _ _ => .notFound
  | .inappropriateType _ code _ =>
    if code = 21 then .isDirectory
    else if code = 20 then .notDirectory
    else .other (toString e)
  | e => .other (toString e)

def readMachineFile (path : String) : IO (Except ReadError ByteArray) := do
  try
    return .ok (← IO.FS.readBinFile path)
  catch e =>
    return .error (.ofIO e)

/-- The files of the machine. A path leads to a file unless reading finds that there is
none; whether the bytes may be read is another question. -/
def machineFiles : Files IO where
  isFile path := do
    match ← readMachineFile path with
    | .ok _ | .error (.other _) => return true
    | .error _ => return false
  bytes := readMachineFile

end BindingGraph.CommandLine

def main (args : List String) : IO UInt32 := do
  let outcome ← BindingGraph.CommandLine.run BindingGraph.CommandLine.machineFiles args
  IO.print outcome.stdout
  IO.eprint outcome.stderr
  return outcome.exitCode.toUInt32
