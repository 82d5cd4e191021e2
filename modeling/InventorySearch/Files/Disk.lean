import InventorySearch.Files.Access
import InventorySearch.Files.Path

/-!
# Disks

A file system as a value: directories and files by their location, and a working
directory.  There are no links.

A path is followed part by part: a dot stays where it is, two dots go back, and a
name has to be that of a directory.  The last part of a path is different.  If it is
a name, then what the name stands for, and whether it may be missing, depends on
what is asked for.

Names and paths have a greatest length in bytes.  A path that is too long leads
nowhere, and a name that is too long is only noticed when it is looked up.
-/

namespace InventorySearch

/-- A place in a file system: the names that lead there from the root, each with a slash before
it.  The root itself is the empty text. -/
abbrev Location := String

/-- What is at a location. -/
inductive DiskNode where
  /-- A directory. -/
  | directory
  /-- A file; it has no content if its bytes are not a text. -/
  | file (content : Option String)
deriving DecidableEq, Repr

/-- A file system. -/
structure Disk where
  /-- The directories and files, the root left out. -/
  nodes : List (Location × DiskNode) := []
  /-- The directory where relative paths start. -/
  workingDirectory : Location := ""
deriving DecidableEq, Repr

namespace Disk

/-- The location of a name in a directory. -/
def inside (directory : Location) (name : String) : Location := directory ++ "/" ++ name

/-- The location of the directory around a location; the root is around itself. -/
def around (location : Location) : Location :=
  String.ofList ((location.toList.reverse.dropWhile (· ≠ '/')).drop 1).reverse

/-- What is at a location. -/
def node? (disk : Disk) (location : Location) : Option DiskNode :=
  if location.isEmpty then some .directory else disk.nodes.lookup location

/-- Replaces what is at a location, or puts something new there behind everything else. -/
def putNode (location : Location) (node : DiskNode) :
    List (Location × DiskNode) → List (Location × DiskNode)
  | [] => [(location, node)]
  | (first, old) :: nodes =>
    if first = location then (location, node) :: nodes
    else (first, old) :: putNode location node nodes

/-- The disk with something at a location. -/
def put (disk : Disk) (location : Location) (node : DiskNode) : Disk :=
  { disk with nodes := putNode location node disk.nodes }

/-! ## Following paths -/

/-- The greatest length of a name, in bytes. -/
def nameLimit : Nat := 255

/-- The greatest length of a path, in bytes. -/
def pathLimit : Nat := 4095

/-- What a name stands for in a directory, if it stands for something. -/
def entry (disk : Disk) (directory : Location) (name : String) :
    Except FileFault (Option DiskNode) :=
  if nameLimit < name.utf8ByteSize then .error .nameTooLong
  else .ok (disk.node? (inside directory name))

/-- Goes from a directory to one that it holds. -/
def enter (disk : Disk) (directory : Location) (name : String) : Except FileFault Location :=
  match disk.entry directory name with
  | .ok (some .directory) => .ok (inside directory name)
  | .ok (some (.file _)) => .error .notDirectory
  | .ok none => .error .notFound
  | .error fault => .error fault

/-- Follows the parts of a path from a directory to a directory. -/
def follow (disk : Disk) (directory : Location) : List String → Except FileFault Location
  | [] => .ok directory
  | part :: rest =>
    if Path.isIdle part then disk.follow directory rest
    else if part = ".." then disk.follow (around directory) rest
    else
      match disk.enter directory part with
      | .ok location => disk.follow location rest
      | .error fault => .error fault

/-- Where a path leads. -/
inductive Target where
  /-- To a directory, by a path without a last name. -/
  | directory (location : Location)
  /-- To a name in a directory.  The flag says whether a slash follows the name. -/
  | name (directory : Location) (name : String) (slash : Bool)
deriving DecidableEq, Repr

/-- Where the parts of a path lead from a directory. -/
def target (disk : Disk) (start : Location) (written : List String) : Except FileFault Target :=
  match Path.lastStep? written with
  | none => (disk.follow start written).map .directory
  | some step => (disk.follow start step.directory).map (.name · step.name step.slash)

/-- The directory where a path starts. -/
def origin (disk : Disk) (path : String) : Location :=
  if Path.isAbsolute path then "" else disk.workingDirectory

/-- Where a path leads; the empty path leads nowhere. -/
def resolve (disk : Disk) (path : String) : Except FileFault Target :=
  if path.toList.contains '\x00' then .error .zeroInPath
  else if path.isEmpty then .error .notFound
  else if pathLimit < path.utf8ByteSize then .error .nameTooLong
  else disk.target (disk.origin path) (Path.rawParts path)

/-! ## Reading -/

/-- What is found of a file. -/
def presenceOf : Option String → Presence
  | some content => .text content
  | none => .unreadable .notText

/-- What is found at a path.  A slash behind the name of a file asks for a directory, which is not
there. -/
def probe (disk : Disk) (path : String) : Presence :=
  match disk.resolve path with
  | .ok (.directory _) => .unreadable .isDirectory
  | .ok (.name directory name slash) =>
    match disk.entry directory name with
    | .ok (some .directory) => .unreadable .isDirectory
    | .ok (some (.file content)) => if slash then .absent else presenceOf content
    | .ok none | .error _ => .absent
  | .error _ => .absent

/-! ## Writing -/

/-- Makes one directory; one that is there already will do. -/
def makeDirectory (disk : Disk) (path : String) : Except FileFault Disk :=
  match disk.resolve path with
  | .ok (.directory _) => .ok disk
  | .ok (.name directory name _) =>
    match disk.entry directory name with
    | .ok (some .directory) => .ok disk
    | .ok (some (.file _)) => .error .alreadyThere
    | .ok none => .ok (disk.put (inside directory name) .directory)
    | .error fault => .error fault
  | .error fault => .error fault

/-- Follows the parts of a path from a directory and makes the directories that are missing.  What
has been made stays even if a later part leads nowhere. -/
def makeAlong (directory : Location) : List String → Disk → Except FileFault Unit × Disk
  | [], disk => (.ok (), disk)
  | part :: rest, disk =>
    if Path.isIdle part then makeAlong directory rest disk
    else if part = ".." then makeAlong (around directory) rest disk
    else
      match disk.entry directory part with
      | .ok (some .directory) => makeAlong (inside directory part) rest disk
      | .ok (some (.file _)) => (.error .alreadyThere, disk)
      | .ok none =>
        makeAlong (inside directory part) rest (disk.put (inside directory part) .directory)
      | .error fault => (.error fault, disk)

/-- Makes a directory and, if something is missing on the way, all that is missing.  What is wrong
before the first missing part, or with the path as a whole, is noticed before anything is made. -/
def makeDirectories (path : String) (disk : Disk) : Except FileFault Unit × Disk :=
  match disk.makeDirectory path with
  | .ok disk => (.ok (), disk)
  | .error .notFound => makeAlong (disk.origin path) (Path.rawParts path) disk
  | .error fault => (.error fault, disk)

/-- Makes the directory that a path leads into, and all directories on the way to it. -/
def makeParents (path : String) (disk : Disk) : Except FileFault Unit × Disk :=
  match (Path.parent? path).filter (!·.isEmpty) with
  | some directory => makeDirectories directory disk
  | none => (.ok (), disk)

/-- Writes a file, without a content if its bytes are not a text.  A slash behind its name asks for
a directory, whether there is one or not. -/
def writeFile (path : String) (content : Option String) (disk : Disk) :
    Except FileFault Unit × Disk :=
  match disk.resolve path with
  | .ok (.directory _) | .ok (.name _ _ true) => (.error .isDirectory, disk)
  | .ok (.name directory name false) =>
    match disk.entry directory name with
    | .ok (some .directory) => (.error .isDirectory, disk)
    | .ok _ => (.ok (), disk.put (inside directory name) (.file content))
    | .error fault => (.error fault, disk)
  | .error fault => (.error fault, disk)

/-- Writes a text to a file. -/
def write (path content : String) (disk : Disk) : Except FileFault Unit × Disk :=
  writeFile path (some content) disk

/-- The disk as a file system. -/
def access : FileAccess (StateM Disk) where
  probe path := return (← get).probe path
  makeParents path := modifyGet (makeParents path)
  write path content := modifyGet (write path content)

end Disk

end InventorySearch
