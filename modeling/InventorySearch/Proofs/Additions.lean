import InventorySearch.Proofs.AcceptedSnapshot
import InventorySearch.Proofs.GrownInventory
import Mathlib.Data.List.Nodup

/-!
# Adding to an inventory

Adding items and stacks to an inventory leaves alone what is there.  Whatever is added, it
comes behind the old entries and the old stacks, so every addition is an `extend`; for
additions of several items at once this is what `addMembers_eq`, `addOpenStack_eq` and
`addClosedStack_eq` say.

* An old index still leads to the same entry or stack (`entry?_extend`, `stack?_extend`).
* In a valid inventory an old item refers to old stacks, and these list old items, so the
  same items light up as before (`lightsUp_extend`).  Without validity a reference that
  leads nowhere could come to lead to something new.
* What an addition answers are indices that were free (`IsNewStack`).

Later additions may list items that are not there, so an inventory need not stay valid; but
only the one at the start has to be.
-/

namespace InventorySearch.Inventory

variable {inv : Inventory} {id : ItemId} {s : StackId} {newEntries : List Entry}
  {newStacks : List Stack} {items : List Item}

/-! ## Every addition extends -/

/-- More entries and more stacks behind the old ones. -/
def extend (inv : Inventory) (newEntries : List Entry) (newStacks : List Stack) : Inventory :=
  ⟨inv.entries ++ newEntries, inv.allStacks ++ newStacks⟩

/-- The indices that the next so many items get. -/
def nextIds (inv : Inventory) (count : Nat) : List ItemId :=
  (List.range' inv.entries.length count).map ItemId.mk

/-- The entries of items that sit in a stack. -/
def membersOf (s : StackId) (items : List Item) : List Entry :=
  items.map fun item => { item := item, inStack := some s }

theorem extend_extend (inv : Inventory) (newEntries others : List Entry)
    (newStacks more : List Stack) :
    (inv.extend newEntries newStacks).extend others more =
      inv.extend (newEntries ++ others) (newStacks ++ more) := by
  simp only [extend, List.append_assoc]

theorem addItem_eq (inv : Inventory) (item : Item) :
    inv.addItem item = (inv.extend [{ item := item }] [], ⟨inv.entries.length⟩) := by
  rw [addItem, extend, List.append_nil]

theorem addStack_eq (inv : Inventory) (members : List ItemId) :
    inv.addStack members = (inv.extend [] [⟨members⟩], ⟨inv.allStacks.length⟩) := by
  rw [addStack, extend, List.append_nil]

/-- A change at the end of a list. -/
theorem modify_concat_length {α : Type} (l : List α) (x : α) (change : α → α) :
    (l ++ [x]).modify l.length change = l ++ [change x] :=
  List.modifyTailIdx_add (List.modifyHead change) 0 l [x]

/-- All members at once: they sit in the stack from the start, and it lists them in order. -/
theorem addMembers_eq (inv : Inventory) (s : StackId) (items : List Item) :
    inv.addMembers s items =
      (⟨inv.entries ++ membersOf s items,
        inv.allStacks.modify s.index fun stack => ⟨stack.members ++ inv.nextIds items.length⟩⟩,
        inv.nextIds items.length) := by
  induction items generalizing inv with
  | nil =>
    have hmodify : inv.allStacks.modify s.index (fun stack => ⟨stack.members⟩) = inv.allStacks :=
      List.modify_id s.index inv.allStacks
    simp only [addMembers, membersOf, nextIds, List.map_nil, List.length_nil, List.range'_zero,
      List.append_nil, hmodify]
  | cons item items ih =>
    have hplace : (inv.addItem item).1.place (inv.addItem item).2 s =
        ⟨inv.entries ++ [{ item := item, inStack := some s }],
          inv.allStacks.modify s.index fun stack => ⟨stack.members ++ [⟨inv.entries.length⟩]⟩⟩ := by
      rw [addItem, place, updateEntry, updateStack, modify_concat_length]
    rw [addMembers]
    dsimp only
    rw [hplace, ih]
    simp only [nextIds, membersOf, List.length_append, List.length_cons, List.length_nil,
      List.map_cons, List.append_assoc, List.singleton_append, List.modify_modify_eq,
      List.range'_succ, Function.comp_def]
    rfl

theorem addOpenStack_eq (inv : Inventory) (items : List Item) :
    inv.addOpenStack items =
      (inv.extend (membersOf ⟨inv.allStacks.length⟩ items) [⟨inv.nextIds items.length⟩],
        ⟨inv.allStacks.length⟩, inv.nextIds items.length) := by
  rw [addOpenStack]
  dsimp only
  rw [addMembers_eq, addStack]
  dsimp only
  rw [modify_concat_length, List.nil_append]
  rfl

theorem addClosedStack_eq (inv : Inventory) (container : Item) (items : List Item) :
    inv.addClosedStack container items =
      (inv.extend (membersOf ⟨inv.allStacks.length⟩ items ++
          [{ item := container, holdsStack := some ⟨inv.allStacks.length⟩ }])
        [⟨inv.nextIds items.length⟩], ⟨inv.entries.length + items.length⟩) := by
  have hlength : (inv.entries ++ membersOf ⟨inv.allStacks.length⟩ items).length =
      inv.entries.length + items.length := by
    rw [List.length_append, membersOf, List.length_map]
  rw [addClosedStack]
  dsimp only
  rw [addOpenStack_eq, addItem]
  dsimp only [extend, updateEntry]
  rw [modify_concat_length, hlength, List.append_assoc]

/-! ## Additions -/

/-- Something that is added to an inventory. -/
inductive Addition where
  /-- An item that sits in no stack. -/
  | looseItem (item : Item)
  /-- A stack that lists any items whatsoever. -/
  | listedStack (members : List ItemId)
  /-- An open stack of new items. -/
  | openStack (items : List Item)
  /-- A container that holds a new stack of new items. -/
  | closedStack (container : Item) (items : List Item)

/-- The inventory after an addition. -/
def Addition.apply (inv : Inventory) : Addition → Inventory
  | .looseItem item => (inv.addItem item).1
  | .listedStack members => (inv.addStack members).1
  | .openStack items => (inv.addOpenStack items).1
  | .closedStack container items => (inv.addClosedStack container items).1

/-- The inventory after some additions, one after the other. -/
def addAll (inv : Inventory) (additions : List Addition) : Inventory :=
  additions.foldl Addition.apply inv

theorem Addition.exists_extend (inv : Inventory) (addition : Addition) :
    ∃ newEntries newStacks, addition.apply inv = inv.extend newEntries newStacks := by
  cases addition with
  | looseItem item => exact ⟨_, _, congrArg Prod.fst (inv.addItem_eq item)⟩
  | listedStack members => exact ⟨_, _, congrArg Prod.fst (inv.addStack_eq members)⟩
  | openStack items => exact ⟨_, _, congrArg Prod.fst (inv.addOpenStack_eq items)⟩
  | closedStack container items =>
    exact ⟨_, _, congrArg Prod.fst (inv.addClosedStack_eq container items)⟩

theorem exists_extend_addAll (inv : Inventory) (additions : List Addition) :
    ∃ newEntries newStacks, inv.addAll additions = inv.extend newEntries newStacks := by
  induction additions generalizing inv with
  | nil => exact ⟨[], [], by simp only [addAll, List.foldl_nil, extend, List.append_nil]⟩
  | cons addition additions ih =>
    obtain ⟨newEntries, newStacks, hfirst⟩ := addition.exists_extend inv
    obtain ⟨others, more, hrest⟩ := ih (addition.apply inv)
    refine ⟨newEntries ++ others, newStacks ++ more, ?_⟩
    rw [← extend_extend, ← hfirst, ← hrest]
    rfl

/-! ## What was there before -/

theorem entry?_extend (hid : id.index < inv.entries.length) :
    entry? (inv.extend newEntries newStacks) id = inv.entry? id :=
  List.getElem?_append_left hid

theorem stack?_extend (hs : s.index < inv.allStacks.length) :
    (inv.extend newEntries newStacks).stack? s = inv.stack? s :=
  List.getElem?_append_left hs

theorem satisfiesAt_extend (hid : id.index < inv.entries.length) (tolerance : Tolerance)
    (query : Query) :
    (inv.extend newEntries newStacks).satisfiesAt tolerance query id =
      inv.satisfiesAt tolerance query id := by
  rw [satisfiesAt, satisfiesAt, item?, item?, entry?_extend hid]

/-- A reference of an old item leads where it led, if it led somewhere. -/
theorem bind_stack?_extend (hid : id.index < inv.entries.length)
    (reference : Entry → Option StackId)
    (hlt : ∀ entry s, inv.entry? id = some entry → reference entry = some s →
      s.index < inv.allStacks.length) :
    let grown := inv.extend newEntries newStacks
    ((grown.entry? id).bind fun entry => (reference entry).bind grown.stack?) =
      (inv.entry? id).bind fun entry => (reference entry).bind inv.stack? := by
  intro grown
  rw [entry?_extend hid]
  cases hentry : inv.entry? id with
  | none => rfl
  | some entry =>
    rw [Option.bind_some, Option.bind_some]
    cases hs : reference entry with
    | none => rfl
    | some s => exact stack?_extend (hlt entry s hentry hs)

theorem parentStack?_extend (h : inv.IsValid) (hid : id.index < inv.entries.length) :
    (inv.extend newEntries newStacks).parentStack? id = inv.parentStack? id :=
  bind_stack?_extend hid Entry.inStack (h.inStack_lt id)

theorem heldStack?_extend (h : inv.IsValid) (hid : id.index < inv.entries.length) :
    (inv.extend newEntries newStacks).heldStack? id = inv.heldStack? id :=
  bind_stack?_extend hid Entry.holdsStack (h.holdsStack_lt id)

/-- The stack that governs an item of a valid inventory lists items of it. -/
theorem IsValid.index_lt_of_governingStack? (h : inv.IsValid) {stack : Stack}
    (hstack : inv.governingStack? id = some stack) :
    ∀ member ∈ stack.members, member.index < inv.entries.length := by
  rcases Option.or_eq_some_iff.1 hstack with hparent | ⟨-, hheld⟩
  · obtain ⟨s, -, hs⟩ := parentStack?_eq_some_iff.1 hparent
    exact h.member_lt s stack hs
  · obtain ⟨s, -, hs⟩ := heldStack?_eq_some_iff.1 hheld
    exact h.member_lt s stack hs

theorem lightsUp_extend (h : inv.IsValid) (hid : id.index < inv.entries.length)
    (tolerance : Tolerance) (query : Query) :
    (inv.extend newEntries newStacks).lightsUp tolerance query id =
      inv.lightsUp tolerance query id := by
  have hgoverning : (inv.extend newEntries newStacks).governingStack? id =
      inv.governingStack? id := by
    rw [governingStack?, parentStack?_extend h hid, heldStack?_extend h hid, governingStack?]
  rw [lightsUp, lightsUp, hgoverning]
  cases hstack : inv.governingStack? id with
  | none => exact satisfiesAt_extend hid tolerance query
  | some stack =>
    have hold := h.index_lt_of_governingStack? hstack
    rw [Bool.eq_iff_iff, List.any_eq_true, List.any_eq_true]
    refine exists_congr fun member => and_congr_right fun hmember => ?_
    rw [satisfiesAt_extend (hold member hmember)]

/-! ## What is new -/

theorem entry?_eq_none_iff : inv.entry? id = none ↔ inv.entries.length ≤ id.index :=
  List.getElem?_eq_none_iff

theorem stack?_eq_none_iff : inv.stack? s = none ↔ inv.allStacks.length ≤ s.index :=
  List.getElem?_eq_none_iff

/-- The entry that comes so many places behind the old ones. -/
theorem entry?_extend_add (i : Nat) :
    entry? (inv.extend newEntries newStacks) ⟨inv.entries.length + i⟩ = newEntries[i]? := by
  unfold entry? extend
  rw [List.getElem?_append_right (Nat.le_add_right _ _), Nat.add_sub_cancel_left]

theorem stack?_extend_length (stack : Stack) :
    (inv.extend newEntries [stack]).stack? ⟨inv.allStacks.length⟩ = some stack :=
  List.getElem?_concat_length

/-- A new entry comes behind the old ones, and there are as many as were added. -/
theorem index_of_new_entry {entry : Entry} (hfree : inv.entry? id = none)
    (hentry : entry? (inv.extend newEntries newStacks) id = some entry) :
    inv.entries.length ≤ id.index ∧ id.index < inv.entries.length + newEntries.length := by
  have hlt := exists_entry?_iff.1 ⟨entry, hentry⟩
  rw [extend, List.length_append] at hlt
  exact ⟨entry?_eq_none_iff.1 hfree, hlt⟩

theorem mem_nextIds_iff {count : Nat} :
    id ∈ inv.nextIds count ↔
      inv.entries.length ≤ id.index ∧ id.index < inv.entries.length + count := by
  obtain ⟨index⟩ := id
  simp [nextIds, List.mem_range'_1]

theorem nodup_nextIds (count : Nat) : (inv.nextIds count).Nodup :=
  List.Nodup.map (fun _ _ => ItemId.mk.inj) List.nodup_range'

/-- A stack is new and lists new items, each once and in their order.  They sit in it and hold
nothing. -/
structure IsNewStack (inv grown : Inventory) (s : StackId) (ids : List ItemId) (items : List Item) :
    Prop where
  stack_new : inv.stack? s = none
  members_new : ∀ id ∈ ids, inv.entry? id = none
  nodup : ids.Nodup
  stack?_eq : grown.stack? s = some ⟨ids⟩
  entries_eq : ids.map grown.entry? = items.map fun item => some { item := item, inStack := some s }

theorem isNewStack_extend (inv : Inventory) (items : List Item) (others : List Entry) :
    inv.IsNewStack (inv.extend (membersOf ⟨inv.allStacks.length⟩ items ++ others)
        [⟨inv.nextIds items.length⟩])
      ⟨inv.allStacks.length⟩ (inv.nextIds items.length) items where
  stack_new := stack?_eq_none_iff.2 (Nat.le_refl _)
  members_new id hid := entry?_eq_none_iff.2 (mem_nextIds_iff.1 hid).1
  nodup := nodup_nextIds items.length
  stack?_eq := stack?_extend_length _
  entries_eq := by
    refine List.ext_getElem (by simp [nextIds]) fun i hi hi' => ?_
    have hlt : i < items.length := by simpa using hi'
    simp only [nextIds, List.getElem_map, List.getElem_range', Nat.one_mul, entry?_extend_add]
    rw [List.getElem?_append_left (by simpa [membersOf] using hlt)]
    simp [membersOf, hlt]

theorem addItem_isNew (inv : Inventory) (item : Item) :
    let (next, id) := inv.addItem item
    inv.entry? id = none ∧ next.entry? id = some { item := item } := by
  rw [addItem_eq]
  exact ⟨entry?_eq_none_iff.2 (Nat.le_refl _), entry?_extend_add 0⟩

theorem addStack_isNew (inv : Inventory) (members : List ItemId) :
    let (next, s) := inv.addStack members
    inv.stack? s = none ∧ next.stack? s = some ⟨members⟩ := by
  rw [addStack_eq]
  exact ⟨stack?_eq_none_iff.2 (Nat.le_refl _), stack?_extend_length _⟩

/-- A new open stack, and no new items but its members. -/
theorem addOpenStack_isNew (inv : Inventory) (items : List Item) :
    let (next, s, ids) := inv.addOpenStack items
    inv.IsNewStack next s ids items ∧
      ∀ id entry, inv.entry? id = none → next.entry? id = some entry → id ∈ ids := by
  rw [addOpenStack_eq]
  refine ⟨?_, ?_⟩
  · have hnew := inv.isNewStack_extend items []
    rwa [List.append_nil] at hnew
  · intro id entry hfree hentry
    have hindex := index_of_new_entry hfree hentry
    rw [membersOf, List.length_map] at hindex
    exact mem_nextIds_iff.2 hindex

/-- A new container that holds a new stack, and no new items but the container and the members. -/
theorem addClosedStack_isNew (inv : Inventory) (container : Item) (items : List Item) :
    let (next, holder) := inv.addClosedStack container items
    ∃ s ids, inv.IsNewStack next s ids items ∧ inv.entry? holder = none ∧ holder ∉ ids ∧
      next.entry? holder = some { item := container, holdsStack := some s } ∧
      ∀ id entry, inv.entry? id = none → next.entry? id = some entry → id ∈ ids ∨ id = holder := by
  rw [addClosedStack_eq]
  refine ⟨_, _, inv.isNewStack_extend items _, entry?_eq_none_iff.2 (Nat.le_add_right _ _),
    ?_, ?_, ?_⟩
  · intro hmem
    exact Nat.lt_irrefl _ (mem_nextIds_iff.1 hmem).2
  · show entry? _ _ = _
    rw [entry?_extend_add, List.getElem?_append_right (by simp [membersOf])]
    simp [membersOf]
  · intro id entry hfree hentry
    obtain ⟨hle, hlt⟩ := index_of_new_entry hfree hentry
    rw [List.length_append, membersOf, List.length_map, List.length_singleton] at hlt
    -- The last new place is that of the container, and all before it are those of members.
    rcases Nat.lt_or_ge id.index (inv.entries.length + items.length) with hmember | hlast
    · exact .inl (mem_nextIds_iff.2 ⟨hle, hmember⟩)
    · refine .inr (congrArg ItemId.mk ?_)
      omega

/-! ## Whole runs -/

/-- Additions leave what is there as it is, whatever they are: an old index leads to the same entry
or stack.  If the inventory was valid, the look-ups of an old item lead to the same stacks, and it
lights up for the same queries.  Wherever a run of additions has led, the next one answers indices
that were free: that of the new item, that of the new stack, or those of a new stack and of its new
members in their order.  A new container holds such a stack. -/
theorem addAll_keeps_the_old (inv : Inventory) (additions : List Addition) :
    let grown := inv.addAll additions
    (∀ id entry, inv.entry? id = some entry → grown.entry? id = some entry) ∧
    (∀ s stack, inv.stack? s = some stack → grown.stack? s = some stack) ∧
    (inv.violation? = none → ∀ id, id.index < inv.entries.length →
      grown.parentStack? id = inv.parentStack? id ∧ grown.heldStack? id = inv.heldStack? id ∧
      ∀ tolerance query, grown.lightsUp tolerance query id = inv.lightsUp tolerance query id) ∧
    (∀ item, let (next, id) := grown.addItem item
      grown.entry? id = none ∧ next.entry? id = some { item := item }) ∧
    (∀ members, let (next, s) := grown.addStack members
      grown.stack? s = none ∧ next.stack? s = some ⟨members⟩) ∧
    (∀ items, let (next, s, ids) := grown.addOpenStack items
      grown.IsNewStack next s ids items ∧
        ∀ id entry, grown.entry? id = none → next.entry? id = some entry → id ∈ ids) ∧
    ∀ container items, let (next, holder) := grown.addClosedStack container items
      ∃ s ids, grown.IsNewStack next s ids items ∧ grown.entry? holder = none ∧ holder ∉ ids ∧
        next.entry? holder = some { item := container, holdsStack := some s } ∧
        ∀ id entry, grown.entry? id = none → next.entry? id = some entry →
          id ∈ ids ∨ id = holder := by
  intro grown
  obtain ⟨newEntries, newStacks, hgrown⟩ := inv.exists_extend_addAll additions
  refine ⟨?_, ?_, ?_, grown.addItem_isNew, grown.addStack_isNew, grown.addOpenStack_isNew,
    grown.addClosedStack_isNew⟩
  · intro id entry hentry
    show entry? (inv.addAll additions) id = some entry
    rw [hgrown, entry?_extend (exists_entry?_iff.1 ⟨entry, hentry⟩), hentry]
  · intro s stack hstack
    show (inv.addAll additions).stack? s = some stack
    rw [hgrown, stack?_extend (List.getElem?_eq_some_iff.1 hstack).1, hstack]
  · intro hcheck id hid
    have hvalid := violation?_eq_none_iff.1 hcheck
    show (inv.addAll additions).parentStack? id = _ ∧ (inv.addAll additions).heldStack? id = _ ∧
      ∀ tolerance query, (inv.addAll additions).lightsUp tolerance query id = _
    rw [hgrown]
    exact ⟨parentStack?_extend hvalid hid, heldStack?_extend hvalid hid,
      lightsUp_extend hvalid hid⟩

/-- A sack of seeds stays as it was when a stack is added that lists an item which is not there yet,
and then items that come to be at the listed index. -/
theorem sack_stays_as_it_was :
    let named (name : String) : Item := { name := some name }
    let inv : Inventory :=
      ⟨[⟨named "Seed", some ⟨0⟩, none⟩, ⟨named "Sack", none, some ⟨0⟩⟩], [⟨[⟨0⟩]⟩]⟩
    let additions : List Addition :=
      [.listedStack [⟨0⟩, ⟨2⟩], .closedStack (named "Box") [named "Nail"]]
    inv.violation? = none ∧
      ∀ tolerance query, (inv.addAll additions).lightsUp tolerance query ⟨1⟩ =
        inv.lightsUp tolerance query ⟨1⟩ := by
  intro named inv additions
  have hvalid : inv.violation? = none := by decide
  exact ⟨hvalid, ((addAll_keeps_the_old inv additions).2.2.1 hvalid ⟨1⟩ (by decide)).2.2⟩

end InventorySearch.Inventory
