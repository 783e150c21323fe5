import Deobfuscation.Deobfuscator.Basic

/-!
# Command line arguments

The arguments name two files, the symbol map and the log, and may ask for settings.  They are
read from left to right, and the first that is out of place, or that asks for the version or for
help, decides.  Options may stand before, between and after the files; after two hyphens alone
every argument is a file.  No option may be given twice, and no file has an empty name.

* `Invocation` — what a deobfuscation needs;
* `Command` — what the arguments ask for;
* `Command.ofArguments` — the command that arguments give.
-/

namespace Deobfuscation.CommandLine

/-- The settings and the files of a deobfuscation. -/
structure Invocation where
  settings : Settings
  symbolMap : String
  log : String
  deriving DecidableEq, Repr

/-- What a command line asks for. -/
inductive Command where
  | deobfuscate (invocation : Invocation)
  | version
  | help
  /-- The arguments are out of place. -/
  | misuse
  deriving DecidableEq, Repr

/-- The arguments read so far; files come newest first. -/
structure Arguments where
  settings : Settings
  files : List String
  deriving DecidableEq, Repr

namespace Arguments

/-- No argument is read yet. -/
def none : Arguments := ⟨⟨false, false, .none⟩, []⟩

/-- Takes a file. -/
def addFile? (a : Arguments) (name : String) : Option Arguments :=
  if name.isEmpty || 2 ≤ a.files.length then .none else some { a with files := name :: a.files }

/-- Sets a flag that is not set yet. -/
def setVerbose? (a : Arguments) : Option Arguments :=
  if a.settings.verbose then .none
  else some { a with settings := { a.settings with verbose := true } }

/-- Sets a flag that is not set yet. -/
def setAllClassNames? (a : Arguments) : Option Arguments :=
  if a.settings.allClassNames then .none
  else some { a with settings := { a.settings with allClassNames := true } }

/-- Takes a template where there is none yet. -/
def setTemplate? (a : Arguments) (template : String) : Option Arguments :=
  if a.settings.template.isSome then .none
  else some { a with settings := { a.settings with template := some template } }

/-- The command that the arguments give when all are read. -/
def command (a : Arguments) : Command :=
  match a.files with
  | [log, symbolMap] => .deobfuscate ⟨a.settings, symbolMap, log⟩
  | _ => .misuse

/-- Reads arguments that are all files. -/
def readFiles : Arguments → List String → Command
  | a, [] => a.command
  | a, name :: rest =>
    match a.addFile? name with
    | some a => a.readFiles rest
    | .none => .misuse

end Arguments

/-! ### Reading arguments -/

/-- How an argument is read. -/
inductive Word where
  /-- Two hyphens alone. -/
  | separator
  /-- Two hyphens and a name, perhaps with a value. -/
  | long (name : String) (value : Option String)
  /-- A hyphen and letters, of which the first decides. -/
  | short (letter : Char)
  /-- Anything else. -/
  | plain
  deriving DecidableEq, Repr

/-- The name of a long option and its value. -/
def longOption (s : List Char) : Word :=
  match Text.cut? ['='] s with
  | some (name, value) => .long (String.ofList name) (some (String.ofList value))
  | none => .long (String.ofList s) none

/-- How an argument is read. -/
def Word.ofArgument (argument : String) : Word :=
  match argument.toList with
  | ['-', '-'] => .separator
  | '-' :: '-' :: s => longOption s
  | '-' :: c :: _ => .short c
  | _ => .plain

/-- Reads the remaining arguments. -/
def readArguments : Arguments → List String → Command
  | a, [] => a.command
  | a, argument :: rest =>
    match Word.ofArgument argument with
    | .separator => a.readFiles rest
    | .plain =>
      match a.addFile? argument with
      | some a => readArguments a rest
      | none => .misuse
    | .short letter =>
      if letter = 'V' then .version else if letter = 'h' then .help else .misuse
    | .long "version" none => .version
    | .long "help" none => .help
    | .long "verbose" none =>
      match a.setVerbose? with
      | some a => readArguments a rest
      | none => .misuse
    | .long "all-class-names" none =>
      match a.setAllClassNames? with
      | some a => readArguments a rest
      | none => .misuse
    | .long "regex" (some template) =>
      match a.setTemplate? template with
      | some a => readArguments a rest
      | none => .misuse
    | .long "regex" none =>
      match rest with
      | [] => .misuse
      | template :: rest =>
        if Word.ofArgument template = .plain then
          match a.setTemplate? template with
          | some a => readArguments a rest
          | none => .misuse
        else .misuse
    | .long _ _ => .misuse

/-- The command that arguments give. -/
def Command.ofArguments (arguments : List String) : Command := readArguments .none arguments

end Deobfuscation.CommandLine
