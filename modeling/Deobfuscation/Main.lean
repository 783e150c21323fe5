import Deobfuscation.CommandLine.Run

/-!
# The program

The outer layer: it opens the files that the arguments name, hands them to `Command.run` and puts
out what that gives.
-/

namespace Deobfuscation.Main

open CommandLine

/-- The wording of a system error by its number. -/
def systemText (code : UInt32) (details : String) : String :=
  let text := match code with
    | 2 => "No such file or directory"
    | 13 => "Permission denied"
    | 20 => "Not a directory"
    | 21 => "Is a directory"
    | _ => details.capitalize
  text ++ " (os error " ++ code.toNat.repr ++ ")"

/-- The wording of an error of the file system. -/
def errorText : IO.Error → String
  | .noFileOrDirectory _ code details | .permissionDenied _ code details
  | .inappropriateType _ code details | .invalidArgument _ code details
  | .resourceExhausted _ code details | .noSuchThing _ code details
  | .hardwareFault code details | .otherError code details => systemText code details
  | e => toString e

/-- Opens a file and reads what it delivers. -/
def openPath (path : String) : IO (Except String ByteSource) := do
  match ← (IO.FS.Handle.mk path .read).toBaseIO with
  | .error e => return .error (errorText e)
  | .ok handle =>
    match ← handle.readBinToEnd.toBaseIO with
    | .ok bytes => return .ok (.ofBytes bytes.data.toList)
    | .error e => return .ok ⟨[], some (errorText e)⟩

/-- The files that a command needs. -/
def directoryOf : Command → IO Directory
  | .deobfuscate invocation => do
    let symbolMap ← openPath invocation.symbolMap
    let log ← openPath invocation.log
    return fun path => if path = invocation.symbolMap then symbolMap else log
  | _ => return fun _ => .error ""

end Deobfuscation.Main

open Deobfuscation CommandLine in
/-- Runs the command that the arguments give. -/
def main (arguments : List String) : IO UInt32 := do
  let command := Command.ofArguments arguments
  let result := command.run (← Main.directoryOf command)
  (← IO.getStdout).putStr (String.ofList result.output)
  (← IO.getStderr).putStr result.diagnostics
  return UInt32.ofNat result.exitCode
