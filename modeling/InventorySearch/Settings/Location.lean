import InventorySearch.Failure
import InventorySearch.Files.Path

/-!
# Where settings are kept

The path of the settings file follows from the surroundings of the program: a
variable may name the file itself; otherwise it lies in a directory of its own
within the directory for the settings of all programs.
-/

namespace InventorySearch

/-- The surroundings of the program that settings depend on. -/
structure Environment where
  /-- The path of the settings file, `SEEK_CONFIG`. -/
  settingsFile : Option String := none
  /-- The directory for the settings of all programs, `XDG_CONFIG_HOME`. -/
  settingsDirectory : Option String := none
  /-- The home directory of the user, `HOME`. -/
  home : Option String := none
  /-- The home directory that the account of the user has, if it is known. -/
  accountHome : Option String := none
deriving DecidableEq, Repr

namespace Environment

/-- The home directory; an empty text names none, and then that of the account counts. -/
def homeDirectory? (env : Environment) : Option String :=
  (env.home.filter (!·.isEmpty)).or env.accountHome

/-- The directory for the settings of all programs.  One that is named has to start at the root. -/
def settingsRoot? (env : Environment) : Option String :=
  env.homeDirectory?.map fun home =>
    (env.settingsDirectory.filter Path.isAbsolute).getD (Path.join home ".config")

/-- The path of the settings file. -/
def settingsPath (env : Environment) : Except Failure String :=
  match env.settingsFile with
  | some path => .ok path
  | none =>
    match env.settingsRoot? with
    | some root => .ok (Path.join (Path.join root "seek") "config.toml")
    | none =>
      match env.home with
      | some home => .ok (Path.join home ".config/seek/config.toml")
      | none => .error .noSettingsDirectory

end Environment

end InventorySearch
