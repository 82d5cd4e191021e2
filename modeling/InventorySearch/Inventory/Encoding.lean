import InventorySearch.Inventory.Basic
import InventorySearch.Item.Encoding

/-!
# Inventories as JSON

The JSON tree of an inventory: items with their relations to stacks behind their
own fields, and stacks with their members.
-/

namespace InventorySearch

/-- The JSON tree of an entry. -/
def Entry.toJson (entry : Entry) : Json :=
  .ofFields (entry.item.jsonFields
    ++ Json.optionalField "in_stack" (.ofNat ∘ StackId.index) entry.inStack
    ++ Json.optionalField "holds_stack" (.ofNat ∘ StackId.index) entry.holdsStack)

/-- The JSON tree of a stack. -/
def Stack.toJson (stack : Stack) : Json :=
  .ofFields [("members", .array (stack.members.map (.ofNat ∘ ItemId.index)))]

/-- The JSON tree of an inventory. -/
def Inventory.toJson (inv : Inventory) : Json :=
  .ofFields [("items", .array (inv.entries.map Entry.toJson)),
    ("stacks", .array (inv.allStacks.map Stack.toJson))]

end InventorySearch
