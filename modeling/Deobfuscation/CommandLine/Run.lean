import Deobfuscation.CommandLine.Arguments
import Deobfuscation.Deobfuscator.Log
import Deobfuscation.Gzip.Member

/-!
# Running a command

A deobfuscation opens the symbol map, reads it to its end, looks at the template, opens the log
and deobfuscates it, in this order; the first of these steps that fails ends it.  A file whose
extension is `gz` is compressed.

* `Directory` — the files that can be opened, and why others cannot;
* `Result` — the exit code, the output and the diagnostics of a command;
* `deobfuscate` — the steps of a deobfuscation;
* `Command.run` — the result of a command.
-/

namespace Deobfuscation.CommandLine

/-- The files of a directory: the content of a file, or why it cannot be opened. -/
abbrev Directory := String → Except String ByteSource

/-- What a command leaves. -/
structure Result where
  exitCode : Nat
  output : List Char
  diagnostics : String
  deriving DecidableEq, Repr

/-! ### Files -/

/-- The last component of a path. -/
def fileName (path : List Char) : List Char :=
  ((path.reverse.dropWhile (· == '/')).takeWhile (· != '/')).reverse

/-- The path has the extension of compressed files.  A name that is nothing but an extension
has none. -/
def isCompressed (path : String) : Bool :=
  match Text.cutLast? '.' (fileName path.toList) with
  | some (stem, extension) => !stem.isEmpty && extension == ['g', 'z']
  | none => false

/-- Opens a file, expanding it if it is compressed. -/
def openFile (directory : Directory) (path : String) : Except String ByteSource :=
  (directory path).map fun source => if isCompressed path then Gzip.unpack source else source

/-! ### Diagnostics -/

/-- The wording of a failure with its cause. -/
def failureText : Failure → String
  | .transfer cause => (Failure.transfer cause).message ++ ": " ++ cause
  | .invalidTemplate => Failure.invalidTemplate.message

/-- A step could not be taken. -/
def failed (step path cause : String) : String :=
  "error: failed to " ++ step ++ " " ++ path ++ ": " ++ cause ++ "\n"

/-! ### Steps -/

/-- The result of a deobfuscation that failed before its output. -/
def Result.failure (diagnostics : String) : Result := ⟨1, [], diagnostics⟩

/-- Opens the log and deobfuscates it. -/
def deobfuscateLog (directory : Directory) (d : Deobfuscator) (path : String) : Result :=
  match openFile directory path with
  | .error cause => .failure (failed "open" path cause)
  | .ok source =>
    match d.transfer source none with
    | (output, none) => ⟨0, output, ""⟩
    | (output, some failure) => ⟨1, output, failed "retrace" path (failureText failure)⟩

/-- Opens the symbol map, reads it, looks at the template and goes on to the log. -/
def deobfuscate (directory : Directory) (invocation : Invocation) : Result :=
  match openFile directory invocation.symbolMap with
  | .error cause => .failure (failed "open" invocation.symbolMap cause)
  | .ok source =>
    match Deobfuscator.ofSource source invocation.settings with
    | .error failure =>
      .failure (failed "load mapping" invocation.symbolMap (failureText failure))
    | .ok d => deobfuscateLog directory d invocation.log

/-! ### Commands -/

/-- The answer to a command for the version. -/
def versionText : String := "proguard-retrace 0.1.0\n"

/-- How the program is used. -/
def usageText : String := "Usage: proguard-retrace [OPTIONS] <MAPPING> <STACKTRACE>\n"

/-- The answer to a command for help. -/
def helpText : String :=
  "Retrace obfuscated Java stack traces using a proguard mapping file\n\n" ++ usageText ++
    "\nArguments:\n" ++
    "  <MAPPING>     The mapping file, optionally gzip compressed (`.gz`)\n" ++
    "  <STACKTRACE>  The obfuscated stack trace, optionally gzip compressed (`.gz`)\n" ++
    "\nOptions:\n" ++
    "      --verbose           Print field types and full method signatures\n" ++
    "      --all-class-names   " ++
    "Replace every obfuscated class name, also outside of stack frames\n" ++
    "      --regex <TEMPLATE>  Custom line template, using placeholders like `%c` and `%m`\n" ++
    "  -h, --help              Print help\n" ++
    "  -V, --version           Print version\n"

/-- The answer to arguments that are out of place. -/
def misuseText : String :=
  "error: invalid arguments\n\n" ++ usageText ++ "\nFor more information, try '--help'.\n"

/-- The result of a command. -/
def Command.run (directory : Directory) : Command → Result
  | .deobfuscate invocation => CommandLine.deobfuscate directory invocation
  | .version => ⟨0, versionText.toList, ""⟩
  | .help => ⟨0, helpText.toList, ""⟩
  | .misuse => ⟨2, [], misuseText⟩

end Deobfuscation.CommandLine
