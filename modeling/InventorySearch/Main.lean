import InventorySearch.CommandLine.Run

/-!
# The program

The command line on the files of the machine.
-/

namespace InventorySearch

/-- The words of the system for a fault and its number. -/
def systemWords (words : String) (number : UInt32) : FileFault :=
  .other (words ++ " (os error " ++ toString number ++ ")")

/-- The fault that an error of the system stands for. -/
def faultOf : IO.Error → FileFault
  | .noFileOrDirectory _ number words => systemWords words number
  | .alreadyExists _ number words => systemWords words number
  | .inappropriateType _ number words => systemWords words number
  | .permissionDenied _ number words => systemWords words number
  | .resourceExhausted _ number words => systemWords words number
  | .invalidArgument _ number words => systemWords words number
  | .resourceBusy number words => systemWords words number
  | .unsatisfiedConstraints number words => systemWords words number
  | .hardwareFault number words => systemWords words number
  | .otherError number words => systemWords words number
  | error => .other (toString error)

/-- Does something that can fail. -/
def attempt {α : Type} (action : IO α) : IO (Except FileFault α) := do
  try
    return .ok (← action)
  catch error =>
    return .error (faultOf error)

/-- Looks at what is at a path of the machine. -/
def probeMachine (path : String) : IO Presence := do
  match ← attempt (IO.FS.realPath path) with
  | .error _ => return .absent
  | .ok _ =>
    match ← attempt (IO.FS.readBinFile path) with
    | .error fault => return .unreadable fault
    | .ok bytes =>
      match String.fromUTF8? bytes with
      | some content => return .text content
      | none => return .unreadable .notText

/-- Makes the directory that a path leads into, and all directories on the way to it. -/
def makeParentsOnMachine (path : String) : IO (Except FileFault Unit) := do
  match (Path.parent? path).filter (!·.isEmpty) with
  | some directory => attempt (IO.FS.createDirAll directory)
  | none => return .ok ()

/-- The files of the machine. -/
def machine : FileAccess IO where
  probe := probeMachine
  makeParents := makeParentsOnMachine
  write path content := attempt (IO.FS.writeFile path content)

/-- The surroundings of the program. -/
def surroundings : IO Environment := do
  return {
    settingsFile := ← IO.getEnv "SEEK_CONFIG"
    settingsDirectory := ← IO.getEnv "XDG_CONFIG_HOME"
    home := ← IO.getEnv "HOME" }

end InventorySearch

/-- Runs the program. -/
def main (words : List String) : IO UInt32 := do
  let outcome ← InventorySearch.CommandLine.run InventorySearch.machine
    (← InventorySearch.surroundings) words
  IO.print outcome.output
  IO.eprint outcome.complaint
  return outcome.code.toUInt32
