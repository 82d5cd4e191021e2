import InventorySearch.Inventory.Validity

/-!
# Failures

What can go wrong with the files of the library: with reading and writing them, and
with what they say.  Searching never fails.
-/

namespace InventorySearch

/-- What the file system can answer instead of doing what it is asked for. -/
inductive FileFault where
  /-- Something on the way, or at its end, is not there. -/
  | notFound
  /-- There is a file where a directory should be made. -/
  | alreadyThere
  /-- A file is used as if it were a directory. -/
  | notDirectory
  /-- A directory is used as if it were a file. -/
  | isDirectory
  /-- A name, or a path as a whole, is longer than the system allows. -/
  | nameTooLong
  /-- A path has the character with code zero, which the system takes for its end. -/
  | zeroInPath
  /-- The bytes of a file are not a text. -/
  | notText
  /-- Another fault, in the words of the system. -/
  | other (words : String)
deriving DecidableEq, Repr

/-- The words for a fault. -/
def FileFault.message : FileFault → String
  | notFound => "No such file or directory (os error 2)"
  | alreadyThere => "File exists (os error 17)"
  | notDirectory => "Not a directory (os error 20)"
  | isDirectory => "Is a directory (os error 21)"
  | nameTooLong => "File name too long (os error 36)"
  | zeroInPath => "file name contained an unexpected NUL byte"
  | notText => "stream did not contain valid UTF-8"
  | other words => words

/-- What can go wrong. -/
inductive Failure where
  /-- A file cannot be read or written. -/
  | file (fault : FileFault)
  /-- A snapshot is no JSON text, or not one of an inventory. -/
  | json
  /-- A snapshot is no TOML text, or not one of an inventory. -/
  | toml
  /-- A settings file is no TOML text, or not one of settings. -/
  | malformedSettings
  /-- The settings have a number that TOML cannot write. -/
  | unwritableSettings
  /-- There is no directory for settings. -/
  | noSettingsDirectory
  /-- There is no snapshot at a path. -/
  | snapshotNotFound (path : String)
  /-- A snapshot is not valid. -/
  | invalidSnapshot (violation : Violation)
deriving DecidableEq, Repr

/-- The words for a failure. -/
def Failure.message : Failure → String
  | file fault => "IO error: " ++ fault.message
  | json => "JSON error"
  | toml => "TOML error"
  | malformedSettings => "Configuration error: Failed to parse config"
  | unwritableSettings => "Configuration error: Failed to serialize config"
  | noSettingsDirectory => "Configuration error: Could not determine home directory"
  | snapshotNotFound path => "Snapshot not found at " ++ path
  | invalidSnapshot violation => "Invalid snapshot: " ++ violation.message

end InventorySearch
