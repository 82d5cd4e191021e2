import InventorySearch.Files.Access
import InventorySearch.Files.Path
import InventorySearch.Snapshot.Basic

/-!
# Loading snapshots

The inventory of a snapshot file.  The extension `json`, in any letter case, says
that the file is in JSON; all other files are in TOML.
-/

namespace InventorySearch

/-- The format of the file at a path. -/
def SnapshotFormat.ofPath (path : String) : SnapshotFormat :=
  if (Path.extension? path).map (·.map Char.toLower) = some ['j', 's', 'o', 'n'] then .json
  else .toml

/-- Loads the inventory of the snapshot at a path. -/
def Inventory.load {m : Type → Type} [Monad m] (files : FileAccess m) (path : String) :
    m (Except Failure Inventory) := do
  match ← files.probe path with
  | .absent => return .error (.snapshotNotFound path)
  | .unreadable fault => return .error (.file fault)
  | .text content => return Inventory.ofSnapshot (.ofPath path) content

end InventorySearch
