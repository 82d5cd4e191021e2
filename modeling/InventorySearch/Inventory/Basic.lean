import InventorySearch.Item.Basic
import InventorySearch.Text.Numeral

/-!
# Inventories

An inventory is a row of items and a row of stacks, both addressed by index.  A
stack lists its members.  An item can sit in an open stack and can hold a stack
while it is closed, and each item records both on its own side.

Nothing here says that the two sides agree or that an index leads anywhere; see
`InventorySearch.Inventory.Validity`.  Looking up an index that leads nowhere gives
`none`.
-/

namespace InventorySearch

/-- The place of an item in an inventory. -/
structure ItemId where
  /-- How many items come before it. -/
  index : Nat
deriving DecidableEq, Repr

/-- The place of a stack in an inventory. -/
structure StackId where
  /-- How many stacks come before it. -/
  index : Nat
deriving DecidableEq, Repr

/-- How an item is named in messages and reports. -/
def ItemId.label (id : ItemId) : String := "#" ++ String.ofList (Text.numeral id.index)

/-- How a stack is named in messages and reports. -/
def StackId.label (id : StackId) : String := "s" ++ String.ofList (Text.numeral id.index)

/-- Items that share one slot. -/
structure Stack where
  /-- The items in order. -/
  members : List ItemId := []
deriving DecidableEq, Repr

/-- An item with its relations to stacks. -/
structure Entry where
  /-- The item itself. -/
  item : Item := {}
  /-- The open stack that it sits in. -/
  inStack : Option StackId := none
  /-- The stack that it holds while it is closed. -/
  holdsStack : Option StackId := none

instance : Inhabited Entry := ⟨{}⟩

/-- Items and stacks. -/
structure Inventory where
  /-- The items with their relations, by index. -/
  entries : List Entry := []
  /-- The stacks by index. -/
  allStacks : List Stack := []

instance : Inhabited Inventory := ⟨{}⟩

namespace Inventory

/-- The entry at an index. -/
def entry? (inv : Inventory) (id : ItemId) : Option Entry := inv.entries[id.index]?

/-- The stack at an index. -/
def stack? (inv : Inventory) (id : StackId) : Option Stack := inv.allStacks[id.index]?

/-- The item at an index. -/
def item? (inv : Inventory) (id : ItemId) : Option Item := (inv.entry? id).map Entry.item

/-- The open stack that an item sits in, if its reference leads to one. -/
def parentStack? (inv : Inventory) (id : ItemId) : Option Stack := do
  inv.stack? (← (← inv.entry? id).inStack)

/-- The stack that an item holds, if its reference leads to one. -/
def heldStack? (inv : Inventory) (id : ItemId) : Option Stack := do
  inv.stack? (← (← inv.entry? id).holdsStack)

/-- The indices of all items, ascending. -/
def ids (inv : Inventory) : List ItemId := (List.range inv.entries.length).map ItemId.mk

end Inventory

end InventorySearch
