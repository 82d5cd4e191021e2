import InventorySearch.Failure
import InventorySearch.Inventory.Decoding
import InventorySearch.Json.Meaning
import InventorySearch.Json.Reader
import InventorySearch.Toml.Reader

/-!
# Snapshots

An inventory as the text of a file, in JSON or in TOML.  A text is only accepted if
the inventory it describes is valid.
-/

namespace InventorySearch

/-- The formats of snapshots. -/
inductive SnapshotFormat where
  | json
  | toml
deriving DecidableEq, Repr

namespace SnapshotFormat

/-- The data value of a text in a format. -/
def readValue? (format : SnapshotFormat) (text : String) : Option Value :=
  match format with
  | json => (Json.read? text).map Json.toValue
  | toml => Toml.read? text

/-- Whether a stack that is written as a list may have further elements behind its members. -/
def allowsSurplus : SnapshotFormat → Bool
  | json => false
  | toml => true

/-- The failure to read a text of a format. -/
def failure : SnapshotFormat → Failure
  | json => .json
  | toml => .toml

end SnapshotFormat

/-- The inventory that a text describes, whether it is valid or not. -/
def Inventory.ofText? (format : SnapshotFormat) (text : String) : Option Inventory :=
  (format.readValue? text).bind (Inventory.ofValue? format.allowsSurplus)

/-- The valid inventory that a text describes. -/
def Inventory.ofSnapshot (format : SnapshotFormat) (text : String) : Except Failure Inventory :=
  match Inventory.ofText? format text with
  | none => .error format.failure
  | some inv =>
    match inv.violation? with
    | some violation => .error (.invalidSnapshot violation)
    | none => .ok inv

end InventorySearch
