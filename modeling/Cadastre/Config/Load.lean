import Cadastre.Config.Environment
import Cadastre.Config.Sections
import Cadastre.Machine.Basic
import Cadastre.Toml.Document

/-!
The settings that a command works with: those of the settings file, if there is one, with the
environment's laid over them.
-/

namespace Cadastre.Config

inductive LoadFault where
  /-- A variable has an escape whose place is within a character. -/
  | torn
  /-- The file or a variable does not say what settings say. -/
  | unreadable
  | invalid (fault : ConfigFault)

def check (config : Option Config) : Except LoadFault Config :=
  match config with
  | none => .error .unreadable
  | some config => config.fault?.elim (.ok config) fun fault => .error (.invalid fault)

/-- What the file says, none if it cannot be read. -/
def ofFile? : Option (Except SystemFault Bytes) → Option Setting.Members
  | none => some []
  | some reading => reading.toOption.bind Toml.read?

/-- Settings from the file and from the environment. A torn variable is found first. -/
def ofSources (file : Option (Except SystemFault Bytes)) (environment : Environment) :
    Except LoadFault Config :=
  match environment.settings with
  | .error _ => .error .torn
  | .ok above => check do
    let below ← ofFile? file
    ofSettings? ((Setting.table below).overlay above).members

def load (path : String) (environment : Environment) : Job Machine (Except LoadFault Config) := do
  let file ← match ← Machine.kindOf path with
    | .ok (some .file) => some <$> Machine.readFile path
    | _ => pure none
  pure (ofSources file environment)

end Cadastre.Config
