import ConfirmedDelivery.Console.Basic

/-!
# The program

Reads the environment, the file of settings and the lines that are typed in, and puts out what the
console says. Nothing is decided here.
-/

namespace ConfirmedDelivery.Console

/-- The text of a file. -/
def readFile (path : String) : IO (Except FileFault String) := do
  match ← (IO.FS.readBinFile path).toBaseIO with
  | .ok bytes => pure (Settings.fileText bytes)
  | .error (.noFileOrDirectory ..) => pure (.error .missing)
  | .error (.inappropriateType ..) => pure (.error .directory)
  | .error fault => pure (.error (.other (toString fault)))

/-- Puts out one thing after another. -/
def put (outputs : List Output) : IO Unit := do
  for output in outputs do
    match output with
    | .complaint text => IO.eprintln text
    | output => IO.println output.text
  (← IO.getStdout).flush

/-- Follows a run to its end. -/
partial def drive (input : IO.FS.Stream) : Stage → IO UInt32
  | .ended status => pure (UInt32.ofNat status)
  | .asking desk => do
    put [.prompt]
    let line ← input.getLine
    if line.isEmpty then pure 0
    else
      let (outputs, stage) := desk.enter line
      put outputs
      drive input stage

/-- A run of the program, with a command line. -/
def attend (arguments : List String) : IO UInt32 := do
  let values ← consulted.mapM fun name => do pure (name, ← IO.getEnv name)
  let env : Settings.Environment := fun name => (values.lookup name).join
  let path := match Options.read env arguments with
    | .ok o => o.config
    | .error _ => none
  let file ← match path with
    | some path => readFile path
    | none => pure (.error .missing)
  let seed ← IO.rand 0 (twoPow 62)
  let (outputs, stage) := start arguments ⟨env, fun _ => file, UInt64.ofNat seed⟩
  put outputs
  drive (← IO.getStdin) stage

end ConfirmedDelivery.Console

/-- The program. -/
def main (arguments : List String) : IO UInt32 := ConfirmedDelivery.Console.attend arguments
