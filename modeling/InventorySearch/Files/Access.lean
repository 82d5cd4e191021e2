import InventorySearch.Failure

/-!
# Access to files

What the library asks of a file system.  The same work can be done on the files of
the machine and on a disk that is a mere value.
-/

namespace InventorySearch

/-- What is found at a path. -/
inductive Presence where
  /-- Nothing that can be reached. -/
  | absent
  /-- Something that cannot be read as a text. -/
  | unreadable (fault : FileFault)
  /-- A file with this text. -/
  | text (content : String)
deriving DecidableEq, Repr

/-- The questions and requests to a file system. -/
structure FileAccess (m : Type → Type) where
  /-- Looks at what is there. -/
  probe : (path : String) → m Presence
  /-- Makes the directory that a path leads into, and all directories on the way to it. -/
  makeParents : (path : String) → m (Except FileFault Unit)
  /-- Writes a file, which may be there already. -/
  write : (path content : String) → m (Except FileFault Unit)

end InventorySearch
