import QuickFix.Command.Run
import Std.Time.Format

/-!
# The program

Gathers what a run needs, and writes what it answers.
-/

set_option autoImplicit false

namespace QuickFix.Main

open QuickFix.Command

/-- All that a stream still holds, behind `read`. -/
partial def readAll (stream : IO.FS.Stream) (read : ByteArray) : IO ByteArray := do
  let chunk ← stream.read 65536
  if chunk.isEmpty then return read else readAll stream (read ++ chunk)

/-- Why the system refused something, with the number of the refusal where one is known. -/
def reason : IO.Error → String
  | .noFileOrDirectory .. => "No such file or directory (os error 2)"
  | .permissionDenied _ code details
  | .inappropriateType _ code details
  | .invalidArgument _ code details
  | .resourceExhausted _ code details
  | .resourceVanished code details
  | .hardwareFault code details
  | .otherError code details =>
    details ++ " (os error " ++ String.ofList (Numeral.digits code.toNat) ++ ")"
  | e => toString e

/-- What reading failed with, or the octets read. -/
def attempt (action : IO ByteArray) : IO (Except String (List UInt8)) := do
  try
    return .ok (← action).toList
  catch e => return .error (reason e)

/-- The argument that names the input, if the command line is understood. -/
def inputOf (arguments : List Argument) : Option Argument :=
  match Options.parse arguments with
  | .ok o => some o.input
  | .error _ => none

/-- The current time in UTC. -/
def stamp : IO String := do
  let time ← Std.Time.Timestamp.now
  return (Std.Time.PlainDateTime.ofWallTime (.ofTimestamp time .zero)).format
    "uuuu-MM-dd'T'HH:mm:ss.SSSSSSSSS'Z'"

/-- Runs the command line. A failing output stream is found by writing to it; the run is then
answered again with the reason. -/
def runWith (arguments : List Argument) : IO UInt32 := do
  let directory ← IO.currentDir
  let stdin ← IO.getStdin
  let stdout ← IO.getStdout
  let stderr ← IO.getStderr
  let input := inputOf arguments
  let fromStdin ←
    if input = some [some '-'] then attempt (readAll stdin .empty) else pure (.ok [])
  let fromFile ← match input with
    | some path =>
      if path = [some '-'] then pure (.ok []) else attempt (IO.FS.readBinFile path.shown)
    | none => pure (.ok [])
  let surroundings : Surroundings :=
    { workingDirectory := directory.toString.toList
      stdin := fromStdin
      file := fun _ => fromFile
      stdout := .ok ()
      stderr := .ok ()
      logging := .own }
  let outcome := run surroundings arguments
  let time ← stamp
  let final ←
    try
      stdout.putStr outcome.stdout
      stdout.flush
      pure outcome
    catch e => pure (run { surroundings with stdout := .error (reason e) } arguments)
  stderr.putStr (final.stderr time)
  return if final.success then 0 else 1

end QuickFix.Main

/-- Prints the quick fixes for a file's diagnostics. -/
def main (arguments : List String) : IO UInt32 :=
  QuickFix.Main.runWith (arguments.map QuickFix.Command.Argument.ofString)
