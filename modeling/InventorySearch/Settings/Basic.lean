import InventorySearch.Files.Access
import InventorySearch.Tolerance
import InventorySearch.Toml.Reader

/-!
# Settings

What a user can set, and the file that it is kept in.  A settings file is a TOML
text with a table `fuzzy` for the tolerance.  What it does not mention has its usual
value, and a file that is not there stands for the usual settings.
-/

namespace InventorySearch

/-- Reads a tolerance.  Written as a list it may have further elements, which are passed over. -/
def Tolerance.ofValue? (value : Value) : Option Tolerance := do
  let maxEdits ← Value.withDefault Tolerance.standard.maxEdits Value.toNat?
    (← value.member? 0 "max_edits")
  let minTypoLength ← Value.withDefault Tolerance.standard.minTypoLength Value.toNat?
    (← value.member? 1 "min_typo_len")
  return { maxEdits, minTypoLength }

/-- The greatest integer that TOML can write. -/
def greatestTomlInteger : Nat := power 2 63 - 1

/-- A line that gives a number to a key. -/
def settingLine (key : String) (n : Nat) : String :=
  key ++ " = " ++ String.ofList (Text.numeral n) ++ "\n"

/-- The settings and the file that they belong to. -/
structure Settings where
  /-- The path of the file. -/
  path : String
  /-- How many typing errors are forgiven. -/
  tolerance : Tolerance := .standard
deriving DecidableEq, Repr

namespace Settings

/-- The tolerance that a text describes. -/
def readText? (text : String) : Option Tolerance := do
  let value ← Toml.read? text
  Value.withDefault .standard Tolerance.ofValue? (← value.member? 0 "fuzzy")

/-- The text that describes a tolerance, if its numbers can be written. -/
def text? (tolerance : Tolerance) : Option String :=
  if tolerance.maxEdits ≤ greatestTomlInteger && tolerance.minTypoLength ≤ greatestTomlInteger then
    some ("[fuzzy]\n" ++ settingLine "max_edits" tolerance.maxEdits
      ++ settingLine "min_typo_len" tolerance.minTypoLength)
  else none

variable {m : Type → Type} [Monad m]

/-- Loads the settings of the file at a path. -/
def load (files : FileAccess m) (path : String) : m (Except Failure Settings) := do
  match ← files.probe path with
  | .absent => return .ok { path := path }
  | .unreadable fault => return .error (.file fault)
  | .text content =>
    match readText? content with
    | some tolerance => return .ok { path, tolerance }
    | none => return .error .malformedSettings

/-- Saves settings to their file.  Directories on the way are made first, even if the settings turn
out not to be writable. -/
def save (files : FileAccess m) (settings : Settings) : m (Except Failure Unit) := do
  match ← files.makeParents settings.path with
  | .error fault => return .error (.file fault)
  | .ok () =>
    match text? settings.tolerance with
    | none => return .error .unwritableSettings
    | some content =>
      match ← files.write settings.path content with
      | .error fault => return .error (.file fault)
      | .ok () => return .ok ()

end Settings

end InventorySearch
