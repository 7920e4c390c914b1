import Cadastre.Command.Basic
import Cadastre.Text.Numeral

/-!
Reading a command line. Options may be written `--name value`, `--name=value`, `-n value`, `-n=value`
and `-nvalue`; they are read from left to right, and the first one that asks for help, asks for the
version or is wrong decides.
-/

namespace Cadastre

inductive Invocation where
  | run (settingsFile : String) (command : Command)
  | help
  | version
  | misuse
  deriving DecidableEq, Repr

namespace Arguments

inductive Halt where
  | help
  | version
  | misuse
  deriving DecidableEq, Repr

def Halt.invocation : Halt → Invocation
  | .help => .help
  | .version => .version
  | .misuse => .misuse

/-- An option, and which values it takes if it takes one. -/
structure OptionForm where
  name : String
  letter : Option Char := none
  accepts : Option (String → Bool) := none
  halt : Option Halt := none

/-- The options that are given, each with its value; a value is empty if the option takes none. -/
abbrev Given := List (String × String)

def Given.value? (given : Given) (name : String) : Option String :=
  (given.find? fun option => option.1 = name).map Prod.snd

def Given.has (given : Given) (name : String) : Bool := (given.value? name).isSome

def Given.flag (given : Given) (form : OptionForm) : Except Halt Given :=
  match form.halt with
  | some halt => .error halt
  | none => if given.has form.name then .error .misuse else .ok (given ++ [(form.name, "")])

def Given.withValue (given : Given) (form : OptionForm) (accepts : String → Bool) (value : String) :
    Except Halt Given :=
  if given.has form.name || !accepts value then .error .misuse
  else .ok (given ++ [(form.name, value)])

/-- Whether an argument can be the value of the option before it. -/
def isValue (argument : String) : Bool := !argument.startsWith "-" || argument = "-"

/-- An option as it is written: its name or letter, and the value that is attached to it. -/
inductive Written where
  | byName (name : String) (attached : Option String)
  | byLetter (letter : Char) (attached : Option String)

/-- The option that an argument writes, if it writes one. -/
def written? (argument : String) : Option Written :=
  match argument.toList with
  | '-' :: '-' :: rest =>
    match rest.dropWhile (· ≠ '=') with
    | [] => some (.byName (.ofList rest) none)
    | _ :: value => some (.byName (.ofList (rest.takeWhile (· ≠ '='))) (some (.ofList value)))
  | ['-', letter] => some (.byLetter letter none)
  | '-' :: letter :: '=' :: value => some (.byLetter letter (some (.ofList value)))
  | '-' :: letter :: value => some (.byLetter letter (some (.ofList value)))
  | _ => none

def Written.attached : Written → Option String
  | .byName _ attached | .byLetter _ attached => attached

def Written.form? (written : Written) (forms : List OptionForm) : Option OptionForm :=
  match written with
  | .byName name _ => forms.find? fun form => form.name = name
  | .byLetter letter _ => forms.find? fun form => form.letter = some letter

/-- Takes an option that takes no value. Whatever is attached to its letter comes after it. -/
def Given.noValue (given : Given) (form : OptionForm) : Written → Except Halt Given
  | .byName _ (some _) => .error .misuse
  | .byLetter _ (some _) => (given.flag form).bind fun _ => .error .misuse
  | _ => given.flag form

/-- Reads options up to the first argument that is none. Two dashes end the options, and nothing may
follow those. -/
def scan (forms : List OptionForm) (given : Given) :
    List String → Except Halt (Given × List String)
  | [] => .ok (given, [])
  | argument :: rest =>
    if argument = "--" then if rest.isEmpty then .ok (given, []) else .error .misuse
    else
      match written? argument with
      | none => .ok (given, argument :: rest)
      | some written =>
        match written.form? forms with
        | none => .error .misuse
        | some form =>
          match form.accepts, written.attached with
          | none, _ => (given.noValue form written).bind fun given => scan forms given rest
          | some accepts, some value =>
            (given.withValue form accepts value).bind fun given => scan forms given rest
          | some accepts, none =>
            match rest with
            | [] => .error .misuse
            | value :: rest =>
              if isValue value then
                (given.withValue form accepts value).bind fun given => scan forms given rest
              else .error .misuse

/-- A whole number with or without a sign, if it fits thirty-two bits. -/
def number? (value : String) : Option UInt32 :=
  match value.toList with
  | '-' :: digits =>
    if !digits.isEmpty && digits.all (· = '0') then some 0 else none
  | _ => Text.readUInt32? value

def isNumber (value : String) : Bool := (number? value).isSome

def isPath (value : String) : Bool := !value.isEmpty

def settingsForm : OptionForm := { name := "config", accepts := some isPath }

def helpForm : OptionForm := { name := "help", letter := some 'h', halt := some .help }

def versionForm : OptionForm := { name := "version", letter := some 'V', halt := some .version }

def rootForms : List OptionForm := [settingsForm, helpForm, versionForm]

def selectionForms : List OptionForm :=
  [{ name := "row", accepts := some isNumber }, { name := "col", accepts := some isNumber },
    { name := "neighborhood", letter := some 'n', accepts := some isNumber }]

def jsonForm : OptionForm := { name := "json" }

def generateForms : List OptionForm :=
  [{ name := "path", accepts := some isPath }, { name := "width", accepts := some isNumber },
    { name := "output", letter := some 'o', accepts := some isPath }]

def Given.number? (given : Given) (name : String) : Option UInt32 :=
  (given.value? name).bind Arguments.number?

/-- The partition that the options name. A row goes with a column and not with a number; a column
goes with a row unless a number makes up for that. -/
def selection? (given : Given) : Option Selection :=
  let selection : Selection :=
    ⟨given.number? "row", given.number? "col", given.number? "neighborhood"⟩
  match selection.row, selection.col, selection.number with
  | some _, some _, none => some selection
  | some _, _, _ => none
  | none, some _, none => none
  | none, _, _ => some selection

structure Subcommand where
  name : String
  forms : List OptionForm
  command? : Given → Option Command

def subcommands : List Subcommand :=
  [⟨"upload", selectionForms, fun given => (selection? given).map .upload⟩,
    ⟨"sync", jsonForm :: selectionForms,
      fun given => (selection? given).map fun selection => .sync selection (given.has "json")⟩,
    ⟨"publish", jsonForm :: selectionForms,
      fun given => (selection? given).map fun selection => .publish selection (given.has "json")⟩,
    ⟨"status", selectionForms, fun given => (selection? given).map .status⟩,
    ⟨"generate-permutation", generateForms, fun given => do
      let path ← given.value? "path"
      let output ← given.value? "output"
      pure (.generatePermutation path (given.number? "width") output)⟩]

/-- The variable that names the settings file where no option does. -/
def settingsVariable : String := Environment.mark ++ Environment.fileVariable

def defaultSettingsFile : String := "tessera.toml"

/-- The settings file: that of the option behind the command, before it, of the environment, or the
default. The environment's may be empty only where it is not asked. -/
def settingsFile? (environment : Environment) (before behind : Option String) : Option String :=
  match before, behind, environment.get? settingsVariable with
  | some _, some path, _ => some path
  | _, _, some "" => none
  | before, behind, named => some (((behind.or before).or named).getD defaultSettingsFile)

/-- What follows the word `help`: at most one command, or that word again. -/
def help (topics : List String) : Halt :=
  match topics with
  | [] => .help
  | [topic] =>
    if topic = "help" || subcommands.any (·.name = topic) then .help else .misuse
  | _ => .misuse

def readFrom (environment : Environment) (arguments : List String) : Except Halt Invocation := do
  let (before, rest) ← scan rootForms [] arguments
  match rest with
  | [] => .error .misuse
  | name :: rest =>
    if name = "help" then .error (help rest)
    else
      match subcommands.find? (·.name = name) with
      | none => .error .misuse
      | some subcommand => do
        let (behind, rest) ← scan (settingsForm :: helpForm :: subcommand.forms) [] rest
        match rest, settingsFile? environment (before.value? "config") (behind.value? "config"),
          subcommand.command? behind with
        | [], some path, some command => .ok (.run path command)
        | _, _, _ => .error .misuse

def read (environment : Environment) (arguments : List String) : Invocation :=
  match readFrom environment arguments with
  | .ok invocation => invocation
  | .error halt => halt.invocation

end Arguments

end Cadastre
