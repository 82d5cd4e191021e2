import InventorySearch.Inventory.Basic
import InventorySearch.Item.Search

/-!
# Highlighting

Which items of an inventory light up for a query.  An item that sits in an open
stack lights up with the whole stack, as soon as one member satisfies the query.
An item that holds a stack lights up as soon as one member of that stack does,
whatever the item itself is.  Every other item lights up if it satisfies the query.
-/

namespace InventorySearch.Inventory

/-- Whether there is an item at an index and it satisfies a query by itself. -/
def satisfiesAt (inv : Inventory) (tolerance : Tolerance) (query : Query) (id : ItemId) : Bool :=
  (inv.item? id).any (·.satisfies tolerance query)

/-- The stack that decides for an item: the one it sits in and otherwise the one it holds. -/
def governingStack? (inv : Inventory) (id : ItemId) : Option Stack :=
  (inv.parentStack? id).or (inv.heldStack? id)

/-- Whether an item lights up for a query. -/
def lightsUp (inv : Inventory) (tolerance : Tolerance) (query : Query) (id : ItemId) : Bool :=
  match inv.governingStack? id with
  | some stack => stack.members.any (inv.satisfiesAt tolerance query)
  | none => inv.satisfiesAt tolerance query id

/-- Whether an item lights up for a search text.  Nothing does for a blank one. -/
def lightsUpForText (inv : Inventory) (tolerance : Tolerance) (input : String) (id : ItemId) :
    Bool :=
  !Text.isBlank input && inv.lightsUp tolerance (.read input) id

/-- Those of some items that light up for a search text, in the given order. -/
def highlighted (inv : Inventory) (tolerance : Tolerance) (ids : List ItemId) (input : String) :
    List ItemId :=
  if Text.isBlank input then []
  else
    let query := Query.read input
    ids.filter (inv.lightsUp tolerance query)

/-- Those of some items that satisfy a search text by themselves, in the given order. -/
def satisfying (inv : Inventory) (tolerance : Tolerance) (ids : List ItemId) (input : String) :
    List ItemId :=
  ids.filter fun id => (inv.item? id).any (·.satisfiesText tolerance input)

end InventorySearch.Inventory
