import InventorySearch.Inventory.Basic
import InventorySearch.Item.Decoding

/-!
# Inventories from data values

Reading an inventory from the record of a data file, a snapshot.  The parts of an
item and its relations to stacks share one record, which has to be written with
keys and of which every part has to make sense, known or not.

A stack may be written as a list with one element, the list of its members.  A
format can allow further elements behind it, which are passed over.
-/

namespace InventorySearch

/-- Reads an item with its relations to stacks. -/
def Entry.ofValue? (value : Value) : Option Entry :=
  match value with
  | .record _ => do
    guard value.isReadable
    let item ← Item.ofValue? value
    let inStack ← Value.optional Value.toNat? (← value.member? 0 "in_stack")
    let holdsStack ← Value.optional Value.toNat? (← value.member? 0 "holds_stack")
    return { item, inStack := inStack.map StackId.mk, holdsStack := holdsStack.map StackId.mk }
  | _ => none

/-- Reads a stack. -/
def Stack.ofValue? (allowSurplus : Bool) (value : Value) : Option Stack := do
  guard (allowSurplus || value.hasAtMost 1)
  let members ← Value.required (Value.toList? Value.toNat?) (← value.member? 0 "members")
  return { members := members.map ItemId.mk }

/-- Reads an inventory. -/
def Inventory.ofValue? (allowSurplus : Bool) (value : Value) : Option Inventory := do
  guard (value.hasAtMost 2)
  let entries ← Value.withDefault [] (Value.toList? Entry.ofValue?) (← value.member? 0 "items")
  let allStacks ← Value.withDefault [] (Value.toList? (Stack.ofValue? allowSurplus))
    (← value.member? 1 "stacks")
  return { entries, allStacks }

end InventorySearch
