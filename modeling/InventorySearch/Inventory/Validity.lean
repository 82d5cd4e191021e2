import InventorySearch.Inventory.Basic

/-!
# Validity of inventories

What has to hold of an inventory that is read from a snapshot, and the first place
where it does not:

* every member that a stack lists is the index of an item;
* every stack that an item refers to is the index of a stack;
* an item that sits in a stack is among its members.

A stack may list items that do not say that they sit in it.
-/

namespace InventorySearch

/-- A reference of an inventory that is not as it should be. -/
inductive Violation where
  /-- A stack lists an item that is not there. -/
  | unknownMember (stack : StackId) (member : ItemId)
  /-- An item refers to a stack that is not there. -/
  | unknownStack (item : ItemId) (stack : StackId)
  /-- An item sits in a stack that does not list it. -/
  | unlistedMember (item : ItemId) (stack : StackId)
deriving DecidableEq, Repr

/-- The sentence that reports a violation. -/
def Violation.message : Violation → String
  | unknownMember stack member =>
    "stack " ++ stack.label ++ " lists unknown item " ++ member.label
  | unknownStack item stack =>
    "item " ++ item.label ++ " refers to unknown stack " ++ stack.label
  | unlistedMember item stack =>
    "item " ++ item.label ++ " claims stack " ++ stack.label
      ++ " but is not one of its members"

namespace Inventory

/-- The first member of a stack that is not there. -/
def stackViolation? (inv : Inventory) (id : StackId) (stack : Stack) : Option Violation :=
  (stack.members.find? fun member => inv.entries.length ≤ member.index).map
    (.unknownMember id)

/-- The report that a referred stack is not there, if it is not. -/
def referenceViolation? (inv : Inventory) (id : ItemId) (reference : Option StackId) :
    Option Violation :=
  (reference.filter fun stack => inv.allStacks.length ≤ stack.index).map (.unknownStack id)

/-- The report that the stack an item sits in does not list it, if it does not. -/
def membershipViolation? (inv : Inventory) (id : ItemId) (entry : Entry) : Option Violation := do
  let reference ← entry.inStack
  let stack ← inv.stack? reference
  if id ∈ stack.members then none else some (.unlistedMember id reference)

/-- The first violation of an entry: unknown stacks come before a missing membership. -/
def entryViolation? (inv : Inventory) (id : ItemId) (entry : Entry) : Option Violation :=
  (inv.referenceViolation? id entry.inStack).or
    ((inv.referenceViolation? id entry.holdsStack).or (inv.membershipViolation? id entry))

/-- The first violation of an inventory, stacks before items and each by index. -/
def violation? (inv : Inventory) : Option Violation :=
  (inv.allStacks.zipIdx.findSome? fun (stack, index) => inv.stackViolation? ⟨index⟩ stack).or
    (inv.entries.zipIdx.findSome? fun (entry, index) => inv.entryViolation? ⟨index⟩ entry)

end Inventory

end InventorySearch
