import InventorySearch.Inventory.Basic

/-!
# Growing an inventory

New items and stacks come behind the old ones, so an index keeps its meaning.
-/

namespace InventorySearch.Inventory

/-- Adds an item that has no relation to any stack. -/
def addItem (inv : Inventory) (item : Item) : Inventory × ItemId :=
  (⟨inv.entries ++ [{ item := item }], inv.allStacks⟩, ⟨inv.entries.length⟩)

/-- Adds a stack that lists these members; the items themselves do not change. -/
def addStack (inv : Inventory) (members : List ItemId) : Inventory × StackId :=
  (⟨inv.entries, inv.allStacks ++ [⟨members⟩]⟩, ⟨inv.allStacks.length⟩)

/-- Changes the entry at an index, if there is one. -/
def updateEntry (inv : Inventory) (id : ItemId) (change : Entry → Entry) : Inventory :=
  ⟨inv.entries.modify id.index change, inv.allStacks⟩

/-- Changes the stack at an index, if there is one. -/
def updateStack (inv : Inventory) (id : StackId) (change : Stack → Stack) : Inventory :=
  ⟨inv.entries, inv.allStacks.modify id.index change⟩

/-- Puts an item into a stack: the item refers to the stack, and the stack lists the item last.
Each of the two is done if its own index leads somewhere, whatever the other one does. -/
def place (inv : Inventory) (item : ItemId) (stack : StackId) : Inventory :=
  (inv.updateEntry item fun entry => { entry with inStack := some stack }).updateStack stack
    fun s => ⟨s.members ++ [item]⟩

/-- Adds new items and puts each of them into a stack. -/
def addMembers (inv : Inventory) (stack : StackId) : List Item → Inventory × List ItemId
  | [] => (inv, [])
  | item :: items =>
    let (inv, id) := inv.addItem item
    let (inv, ids) := (inv.place id stack).addMembers stack items
    (inv, id :: ids)

/-- Adds an open stack of new items; gives the stack and its members. -/
def addOpenStack (inv : Inventory) (items : List Item) : Inventory × StackId × List ItemId :=
  let (inv, stack) := inv.addStack []
  let (inv, ids) := inv.addMembers stack items
  (inv, stack, ids)

/-- Adds a closed container that holds a new stack of new items; gives the container. -/
def addClosedStack (inv : Inventory) (container : Item) (items : List Item) :
    Inventory × ItemId :=
  let (inv, stack, _) := inv.addOpenStack items
  let (inv, id) := inv.addItem container
  (inv.updateEntry id fun entry => { entry with holdsStack := some stack }, id)

end InventorySearch.Inventory
