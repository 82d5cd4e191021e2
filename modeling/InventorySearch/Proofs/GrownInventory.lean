import InventorySearch.Inventory.Growth
import InventorySearch.Proofs.Membership

/-!
# Inventories that have grown from nothing

A run starts at the empty inventory and takes the steps of `Growth` one after the
other, in any order.  Two rules for putting an item into a stack are compared:

* `Growth.Leads` asks only that both indices lead somewhere.  An item can then move
  from one stack to another, and the old stack goes on listing it.  Every inventory on
  such a run is valid.
* `Growth.IsCareful` also asks that the item sits in no stack yet.  Then the two
  records of membership agree, which is `IsOrderly`.

A step that adds several items is a row of single additions and placements, so there
are four changes to look at: an item more, a stack more, an item placed, and a stack
given to its holder.  The lemmas of the first section say what each of them does to
`SitsIn`, `Holds` and `Lists`; both invariants are then carried through these.
-/

namespace InventorySearch.Inventory

variable {inv : Inventory} {item : Item} {id id' : ItemId} {s t : StackId}

/-- Gives an item a stack to hold, if there is an item at the index. -/
def hold (inv : Inventory) (id : ItemId) (s : StackId) : Inventory :=
  inv.updateEntry id fun entry => { entry with holdsStack := some s }

/-! ## What the changes do to the relations -/

section Relations

theorem exists_entry?_iff : (∃ entry, inv.entry? id = some entry) ↔
    id.index < inv.entries.length := by
  constructor
  · intro h
    obtain ⟨entry, hentry⟩ := h
    exact (List.getElem?_eq_some_iff.1 hentry).1
  · intro h
    exact ⟨_, List.getElem?_eq_getElem h⟩

theorem entry?_empty (id : ItemId) : entry? {} id = none :=
  rfl

theorem entry?_updateEntry (change : Entry → Entry) :
    entry? (inv.updateEntry id change) id' =
      (inv.entry? id').map fun entry => if id = id' then change entry else entry := by
  obtain ⟨i⟩ := id
  obtain ⟨j⟩ := id'
  simp only [updateEntry, entry?, List.getElem?_modify, ItemId.mk.injEq]
  cases inv.entries[j]? <;> simp

/-- A property of a changed entry is one of the entry before the change. -/
theorem exists_entry?_updateEntry {P : Entry → Prop} (change : Entry → Entry) :
    (∃ entry, entry? (inv.updateEntry id change) id' = some entry ∧ P entry) ↔
      ∃ entry, inv.entry? id' = some entry ∧ P (if id = id' then change entry else entry) := by
  rw [entry?_updateEntry]
  cases inv.entry? id' <;> simp

theorem stack?_updateStack (change : Stack → Stack) :
    (inv.updateStack s change).stack? t =
      (inv.stack? t).map fun stack => if s = t then change stack else stack := by
  obtain ⟨i⟩ := s
  obtain ⟨j⟩ := t
  simp only [stack?, updateStack, List.getElem?_modify, StackId.mk.injEq]
  cases inv.allStacks[j]? <;> simp

/-- A look-up in a list with one more element behind. -/
theorem getElem?_concat {α : Type} (l : List α) (a : α) (i : Nat) :
    (l ++ [a])[i]? = if i = l.length then some a else l[i]? := by
  rcases Nat.lt_trichotomy i l.length with hlt | rfl | hgt
  · rw [List.getElem?_append_left hlt, if_neg (Nat.ne_of_lt hlt)]
  · rw [List.getElem?_concat_length, if_pos rfl]
  · rw [List.getElem?_eq_none (by simp; omega), if_neg (Nat.ne_of_gt hgt),
      List.getElem?_eq_none (Nat.le_of_lt hgt)]

theorem entry?_addItem : entry? (inv.addItem item).1 id =
    if id.index = inv.entries.length then some { item := item } else inv.entry? id :=
  getElem?_concat _ _ _

theorem stack?_addStack : (inv.addStack []).1.stack? s =
    if s.index = inv.allStacks.length then some ⟨[]⟩ else inv.stack? s :=
  getElem?_concat _ _ _

/-- A property that the new entry does not have is one of the entries before. -/
theorem exists_entry?_addItem {P : Entry → Prop} (hnew : ¬P { item := item }) :
    (∃ entry, entry? (inv.addItem item).1 id = some entry ∧ P entry) ↔
      ∃ entry, inv.entry? id = some entry ∧ P entry := by
  rw [entry?_addItem]
  split
  · next h =>
    have hnone : inv.entry? id = none := List.getElem?_eq_none (Nat.le_of_eq h.symm)
    simp [hnone, hnew]
  · rfl

/-- A new item has no relation, and the others keep theirs. -/
theorem sitsIn_addItem : (inv.addItem item).1.SitsIn id s ↔ inv.SitsIn id s :=
  exists_entry?_addItem (by simp)

theorem holds_addItem : (inv.addItem item).1.Holds id s ↔ inv.Holds id s :=
  exists_entry?_addItem (by simp)

theorem lists_addItem : (inv.addItem item).1.Lists s id ↔ inv.Lists s id :=
  Iff.rfl

theorem isLoose_addItem : (inv.addItem item).1.IsLoose (inv.addItem item).2 := by
  refine ⟨{ item := item }, ?_, rfl⟩
  rw [entry?_addItem]
  exact if_pos rfl

/-- A new stack without members lists nobody. -/
theorem lists_addStack : (inv.addStack []).1.Lists s id ↔ inv.Lists s id := by
  unfold Lists
  rw [stack?_addStack]
  split
  · next h =>
    have hnone : inv.stack? s = none := List.getElem?_eq_none (Nat.le_of_eq h.symm)
    simp [hnone]
  · rfl

/-- Whoever is placed sits in that stack and in no other. -/
theorem sitsIn_place : (inv.place id s).SitsIn id' t ↔
    id = id' ∧ s = t ∧ id.index < inv.entries.length ∨ id ≠ id' ∧ inv.SitsIn id' t := by
  refine (exists_entry?_updateEntry _).trans ?_
  by_cases h : id = id'
  · subst h
    rw [← exists_entry?_iff]
    simp [and_comm]
  · simp [h, SitsIn]

theorem holds_place : (inv.place id s).Holds id' t ↔ inv.Holds id' t := by
  refine (exists_entry?_updateEntry _).trans ?_
  by_cases h : id = id' <;> simp [h, Holds]

/-- Placing an item changes one reference of one entry. -/
theorem entry?_place : entry? (inv.place id s) id' =
    (inv.entry? id').map fun entry =>
      if id = id' then { entry with inStack := some s } else entry :=
  entry?_updateEntry _

/-- Placing an item adds it to the members of one stack and takes it from none. -/
theorem stack?_place : (inv.place id s).stack? t =
    (inv.stack? t).map fun stack => if s = t then ⟨stack.members ++ [id]⟩ else stack :=
  stack?_updateStack _

theorem lists_place : (inv.place id s).Lists t id' ↔
    inv.Lists t id' ∨ id = id' ∧ s = t ∧ s.index < inv.allStacks.length := by
  unfold Lists
  rw [stack?_place]
  by_cases h : s = t
  · subst h
    rcases Nat.lt_or_ge s.index inv.allStacks.length with hlt | hge
    · obtain ⟨stack, hstack⟩ := stack?_eq_some_of_lt hlt
      simp [hstack, hlt, eq_comm]
    · have hnone : inv.stack? s = none := List.getElem?_eq_none hge
      simp [hnone, Nat.not_lt.2 hge]
  · simp [h]

theorem sitsIn_hold : (inv.hold id s).SitsIn id' t ↔ inv.SitsIn id' t := by
  refine (exists_entry?_updateEntry _).trans ?_
  by_cases h : id = id' <;> simp [h, SitsIn]

theorem holds_hold : (inv.hold id s).Holds id' t ↔
    id = id' ∧ s = t ∧ id.index < inv.entries.length ∨ id ≠ id' ∧ inv.Holds id' t := by
  refine (exists_entry?_updateEntry _).trans ?_
  by_cases h : id = id'
  · subst h
    rw [← exists_entry?_iff]
    simp [and_comm]
  · simp [h, Holds]

theorem length_entries_addItem :
    (inv.addItem item).1.entries.length = inv.entries.length + 1 := by
  simp [addItem]

theorem length_allStacks_addStack :
    (inv.addStack []).1.allStacks.length = inv.allStacks.length + 1 := by
  simp [addStack]

theorem length_entries_place : (inv.place id s).entries.length = inv.entries.length := by
  simp [place, updateEntry, updateStack]

theorem length_allStacks_place : (inv.place id s).allStacks.length = inv.allStacks.length := by
  simp [place, updateEntry, updateStack]

theorem length_entries_hold : (inv.hold id s).entries.length = inv.entries.length := by
  simp [hold, updateEntry]

end Relations

/-! ## Validity -/

namespace IsValid

theorem empty : IsValid {} where
  member_lt s stack hstack := absurd hstack (by simp [stack?])
  inStack_lt id entry s hentry := absurd hentry (by simp [entry?_empty])
  holdsStack_lt id entry s hentry := absurd hentry (by simp [entry?_empty])
  mem_members id entry s stack hentry := absurd hentry (by simp [entry?_empty])

theorem addItem (h : inv.IsValid) (item : Item) : (inv.addItem item).1.IsValid := by
  obtain ⟨hmember, hin, hholds, hlisted⟩ := isValid_iff.1 h
  refine isValid_iff.2 ⟨?_, ?_, ?_, ?_⟩
  · intro s id hlists
    rw [length_entries_addItem]
    exact Nat.lt_succ_of_lt (hmember s id (lists_addItem.1 hlists))
  · intro id s hsits
    exact hin id s (sitsIn_addItem.1 hsits)
  · intro id s hs
    exact hholds id s (holds_addItem.1 hs)
  · intro id s hsits
    exact lists_addItem.2 (hlisted id s (sitsIn_addItem.1 hsits))

theorem addStack (h : inv.IsValid) : (inv.addStack []).1.IsValid := by
  obtain ⟨hmember, hin, hholds, hlisted⟩ := isValid_iff.1 h
  refine isValid_iff.2 ⟨?_, ?_, ?_, ?_⟩
  · intro s id hlists
    exact hmember s id (lists_addStack.1 hlists)
  · intro id s hsits
    rw [length_allStacks_addStack]
    exact Nat.lt_succ_of_lt (hin id s hsits)
  · intro id s hs
    rw [length_allStacks_addStack]
    exact Nat.lt_succ_of_lt (hholds id s hs)
  · intro id s hsits
    exact lists_addStack.2 (hlisted id s hsits)

theorem place (h : inv.IsValid) (hid : id.index < inv.entries.length)
    (hs : s.index < inv.allStacks.length) : (inv.place id s).IsValid := by
  obtain ⟨hmember, hin, hholds, hlisted⟩ := isValid_iff.1 h
  refine isValid_iff.2 ⟨?_, ?_, ?_, ?_⟩
  · intro t id' hlists
    rw [length_entries_place]
    rcases lists_place.1 hlists with hbefore | ⟨rfl, -, -⟩
    · exact hmember t id' hbefore
    · exact hid
  · intro id' t hsits
    rw [length_allStacks_place]
    rcases sitsIn_place.1 hsits with ⟨-, rfl, -⟩ | ⟨-, hbefore⟩
    · exact hs
    · exact hin id' t hbefore
  · intro id' t ht
    rw [length_allStacks_place]
    exact hholds id' t (holds_place.1 ht)
  · intro id' t hsits
    rw [lists_place]
    rcases sitsIn_place.1 hsits with ⟨rfl, rfl, -⟩ | ⟨-, hbefore⟩
    · exact .inr ⟨rfl, rfl, hs⟩
    · exact .inl (hlisted id' t hbefore)

theorem hold (h : inv.IsValid) (hs : s.index < inv.allStacks.length) :
    (inv.hold id s).IsValid := by
  obtain ⟨hmember, hin, hholds, hlisted⟩ := isValid_iff.1 h
  refine isValid_iff.2 ⟨?_, ?_, ?_, ?_⟩
  · intro t id' hlists
    rw [length_entries_hold]
    exact hmember t id' hlists
  · intro id' t hsits
    exact hin id' t (sitsIn_hold.1 hsits)
  · intro id' t ht
    rcases holds_hold.1 ht with ⟨-, rfl, -⟩ | ⟨-, hbefore⟩
    · exact hs
    · exact hholds id' t hbefore
  · intro id' t hsits
    exact hlisted id' t (sitsIn_hold.1 hsits)

end IsValid

/-! ## The two records agree -/

/-- The two records of membership agree, nothing is listed twice, and a stack has one holder. -/
structure IsOrderly (inv : Inventory) : Prop where
  sitsIn_of_lists : ∀ s id, inv.Lists s id → inv.SitsIn id s
  nodup_members : ∀ s stack, inv.stack? s = some stack → stack.members.Nodup
  holder_unique : ∀ s id id', inv.Holds id s → inv.Holds id' s → id = id'

namespace IsOrderly

theorem empty : IsOrderly {} where
  sitsIn_of_lists s id hlists := by simp [Lists, stack?] at hlists
  nodup_members s stack hstack := absurd hstack (by simp [stack?])
  holder_unique s id id' hid := by simp [Holds, entry?] at hid

theorem addItem (h : inv.IsOrderly) (item : Item) : (inv.addItem item).1.IsOrderly where
  sitsIn_of_lists s id hlists := sitsIn_addItem.2 (h.sitsIn_of_lists s id hlists)
  nodup_members := h.nodup_members
  holder_unique s id id' hid hid' :=
    h.holder_unique s id id' (holds_addItem.1 hid) (holds_addItem.1 hid')

theorem addStack (h : inv.IsOrderly) : (inv.addStack []).1.IsOrderly where
  sitsIn_of_lists s id hlists := h.sitsIn_of_lists s id (lists_addStack.1 hlists)
  nodup_members s stack hstack := by
    rw [stack?_addStack] at hstack
    split at hstack
    · obtain rfl := Option.some.inj hstack
      exact List.nodup_nil
    · exact h.nodup_members s stack hstack
  holder_unique := h.holder_unique

/-- An item that sits in no stack is listed by none, so placing it lists it once. -/
theorem place (h : inv.IsOrderly) (hloose : inv.IsLoose id) : (inv.place id s).IsOrderly := by
  have hid : id.index < inv.entries.length := by
    obtain ⟨entry, hentry, -⟩ := hloose
    exact exists_entry?_iff.1 ⟨entry, hentry⟩
  have hunlisted : ∀ t, ¬inv.Lists t id := by
    intro t hlists
    exact hloose.not_sitsIn (h.sitsIn_of_lists t id hlists)
  refine ⟨?_, ?_, ?_⟩
  · intro t id' hlists
    rw [sitsIn_place]
    rcases lists_place.1 hlists with hbefore | ⟨rfl, rfl, -⟩
    -- Whoever was listed before is not the item that is placed, so it has not moved.
    · refine .inr ⟨?_, h.sitsIn_of_lists t id' hbefore⟩
      rintro rfl
      exact hunlisted t hbefore
    · exact .inl ⟨rfl, rfl, hid⟩
  · intro t stack hstack
    rw [stack?_place, Option.map_eq_some_iff] at hstack
    obtain ⟨before, hbefore, rfl⟩ := hstack
    have hnodup := h.nodup_members t before hbefore
    split
    · have hnew : id ∉ before.members := by
        intro hmem
        exact hunlisted t ⟨before, hbefore, hmem⟩
      rw [List.nodup_append]
      refine ⟨hnodup, by simp, ?_⟩
      intro a ha b hb
      rw [List.mem_singleton.1 hb]
      rintro rfl
      exact hnew ha
    · exact hnodup
  · intro t a b ha hb
    exact h.holder_unique t a b (holds_place.1 ha) (holds_place.1 hb)

theorem hold (h : inv.IsOrderly) (hfree : ∀ id, ¬inv.Holds id s) : (inv.hold id s).IsOrderly where
  sitsIn_of_lists t id' hlists := sitsIn_hold.2 (h.sitsIn_of_lists t id' hlists)
  nodup_members := h.nodup_members
  holder_unique t a b ha hb := by
    rcases holds_hold.1 ha with ⟨rfl, rfl, -⟩ | ⟨-, ha⟩
    · rcases holds_hold.1 hb with ⟨rfl, -, -⟩ | ⟨-, hb⟩
      · rfl
      · exact absurd hb (hfree b)
    · rcases holds_hold.1 hb with ⟨-, rfl, -⟩ | ⟨-, hb⟩
      · exact absurd ha (hfree a)
      · exact h.holder_unique t a b ha hb

end IsOrderly

/-! ## Several new members -/

/-- A stack that is there and that nobody holds. -/
structure IsUnheld (inv : Inventory) (s : StackId) : Prop where
  index_lt : s.index < inv.allStacks.length
  not_holds : ∀ id, ¬inv.Holds id s

/-- What one more member of a stack preserves, a row of them does. -/
theorem addMembers_induction {P : Inventory → Prop} (hstep : ∀ inv item, P inv →
    P ((inv.addItem item).1.place (inv.addItem item).2 s)) (items : List Item) (h : P inv) :
    P (inv.addMembers s items).1 := by
  induction items generalizing inv with
  | nil => exact h
  | cons item items ih => exact ih (hstep inv item h)

theorem IsValid.addMember (h : inv.IsValid) (hs : s.index < inv.allStacks.length) (item : Item) :
    ((inv.addItem item).1.place (inv.addItem item).2 s).IsValid := by
  refine (h.addItem item).place ?_ hs
  rw [length_entries_addItem]
  exact Nat.lt_succ_self _

theorem IsUnheld.addMember (h : inv.IsUnheld s) (item : Item) :
    ((inv.addItem item).1.place (inv.addItem item).2 s).IsUnheld s where
  index_lt := by
    rw [length_allStacks_place]
    exact h.index_lt
  not_holds id hid := h.not_holds id (holds_addItem.1 (holds_place.1 hid))

theorem IsValid.isUnheld_addStack (h : inv.IsValid) :
    (inv.addStack []).1.IsUnheld (inv.addStack []).2 where
  index_lt := by
    rw [length_allStacks_addStack]
    exact Nat.lt_succ_self _
  not_holds id hid := Nat.lt_irrefl _ ((isValid_iff.1 h).2.2.1 id _ hid)

theorem IsValid.addOpenStack (h : inv.IsValid) (items : List Item) :
    (inv.addOpenStack items).1.IsValid ∧
      (inv.addOpenStack items).1.IsUnheld (inv.addOpenStack items).2.1 := by
  refine addMembers_induction (P := fun inv => inv.IsValid ∧ inv.IsUnheld _) ?_ items
    ⟨h.addStack, h.isUnheld_addStack⟩
  intro inv item h
  obtain ⟨hvalid, hunheld⟩ := h
  exact ⟨hvalid.addMember hunheld.index_lt item, hunheld.addMember item⟩

theorem IsOrderly.addOpenStack (h : inv.IsOrderly) (items : List Item) :
    (inv.addOpenStack items).1.IsOrderly := by
  refine addMembers_induction ?_ items h.addStack
  intro inv item h
  exact (h.addItem item).place isLoose_addItem

theorem IsUnheld.addItem (h : inv.IsUnheld s) (item : Item) : (inv.addItem item).1.IsUnheld s where
  index_lt := h.index_lt
  not_holds id hid := h.not_holds id (holds_addItem.1 hid)

theorem IsValid.addClosedStack (h : inv.IsValid) (container : Item) (items : List Item) :
    (inv.addClosedStack container items).1.IsValid := by
  obtain ⟨hvalid, hunheld⟩ := h.addOpenStack items
  exact (hvalid.addItem container).hold hunheld.index_lt

theorem IsOrderly.addClosedStack (hvalid : inv.IsValid) (h : inv.IsOrderly) (container : Item)
    (items : List Item) : (inv.addClosedStack container items).1.IsOrderly := by
  obtain ⟨-, hunheld⟩ := hvalid.addOpenStack items
  exact ((h.addOpenStack items).addItem container).hold (hunheld.addItem container).not_holds

/-! ## Runs -/

/-- A step by which an inventory grows. -/
inductive Growth where
  /-- A new item in no stack. -/
  | looseItem (item : Item)
  /-- A new stack without members. -/
  | emptyStack
  /-- A new open stack of new items. -/
  | openStack (items : List Item)
  /-- A new container that holds a new stack of new items. -/
  | closedStack (container : Item) (items : List Item)
  /-- An item put into a stack. -/
  | place (id : ItemId) (s : StackId)

namespace Growth

/-- The inventory after a step. -/
def apply (inv : Inventory) : Growth → Inventory
  | looseItem item => (inv.addItem item).1
  | emptyStack => (inv.addStack []).1
  | openStack items => (inv.addOpenStack items).1
  | closedStack container items => (inv.addClosedStack container items).1
  | place id s => inv.place id s

/-- An item is only put into a stack if both are there. -/
def Leads (inv : Inventory) : Growth → Prop
  | place id s => id.index < inv.entries.length ∧ s.index < inv.allStacks.length
  | _ => True

/-- An item is only put into a stack if both are there and it sits in no stack yet. -/
def IsCareful (inv : Inventory) (growth : Growth) : Prop :=
  growth.Leads inv ∧ ∀ id s, growth = place id s → inv.IsLoose id

theorem isValid_apply (h : inv.IsValid) {growth : Growth} (hleads : growth.Leads inv) :
    (growth.apply inv).IsValid := by
  cases growth with
  | looseItem item => exact h.addItem item
  | emptyStack => exact h.addStack
  | openStack items => exact (h.addOpenStack items).1
  | closedStack container items => exact h.addClosedStack container items
  | place id s => exact h.place hleads.1 hleads.2

theorem isOrderly_apply (hvalid : inv.IsValid) (h : inv.IsOrderly) {growth : Growth}
    (hcareful : growth.IsCareful inv) : (growth.apply inv).IsOrderly := by
  cases growth with
  | looseItem item => exact h.addItem item
  | emptyStack => exact h.addStack
  | openStack items => exact h.addOpenStack items
  | closedStack container items => exact h.addClosedStack hvalid container items
  | place id s => exact h.place (hcareful.2 id s rfl)

end Growth

/-- An inventory that a run reaches from the empty one, each step allowed where it is taken. -/
inductive IsGrown (allowed : Inventory → Growth → Prop) : Inventory → Prop where
  | empty : IsGrown allowed {}
  | step {inv : Inventory} (growth : Growth) (h : IsGrown allowed inv)
    (hallowed : allowed inv growth) : IsGrown allowed (growth.apply inv)

namespace IsGrown

theorem mono {allowed allowed' : Inventory → Growth → Prop}
    (hallowed : ∀ inv growth, allowed inv growth → allowed' inv growth)
    (h : IsGrown allowed inv) : IsGrown allowed' inv := by
  induction h with
  | empty => exact .empty
  | step growth h hstep ih => exact .step growth ih (hallowed _ growth hstep)

theorem isValid (h : IsGrown Growth.Leads inv) : inv.IsValid := by
  induction h with
  | empty => exact IsValid.empty
  | step growth h hleads ih => exact growth.isValid_apply ih hleads

theorem leads_of_isCareful (h : IsGrown Growth.IsCareful inv) : IsGrown Growth.Leads inv :=
  h.mono fun _ _ hcareful => hcareful.1

theorem isOrderly (h : IsGrown Growth.IsCareful inv) : inv.IsOrderly := by
  induction h with
  | empty => exact IsOrderly.empty
  | step growth h hcareful ih =>
    exact growth.isOrderly_apply h.leads_of_isCareful.isValid ih hcareful

end IsGrown

/-- On an orderly inventory, the members of a stack and a loose holder of it are under the stack. -/
theorem IsOrderly.isGovernedBy (h : inv.IsOrderly)
    (hid : inv.Lists s id ∨ inv.IsLoose id ∧ inv.Holds id s) : inv.IsGovernedBy id s :=
  hid.imp_left (h.sitsIn_of_lists s id)

/-- Growing keeps an inventory valid, also when items move between stacks.  If only items that sit
in no stack are put into one, then the two records of membership always agree, no item is listed
twice, no stack has two holders, and the members of a stack light up together, along with a holder
that sits in no stack. -/
theorem isGrown_keeps_records :
    (∀ inv, IsGrown Growth.Leads inv → inv.violation? = none) ∧
    ∀ inv, IsGrown Growth.IsCareful inv →
      (∀ s id, inv.Lists s id ↔ inv.SitsIn id s) ∧
      (∀ s stack, inv.stack? s = some stack → stack.members.Nodup) ∧
      (∀ s t id, inv.Lists s id → inv.Lists t id → s = t) ∧
      (∀ s id id', inv.Holds id s → inv.Holds id' s → id = id') ∧
      ∀ tolerance query s id id',
        inv.Lists s id ∨ inv.IsLoose id ∧ inv.Holds id s →
        inv.Lists s id' ∨ inv.IsLoose id' ∧ inv.Holds id' s →
          inv.lightsUp tolerance query id = inv.lightsUp tolerance query id' := by
  constructor
  · intro inv hgrown
    exact violation?_eq_none_iff.2 hgrown.isValid
  · intro inv hgrown
    have hvalid := hgrown.leads_of_isCareful.isValid
    have horderly := hgrown.isOrderly
    refine ⟨?_, horderly.nodup_members, ?_, horderly.holder_unique, ?_⟩
    · intro s id
      exact ⟨horderly.sitsIn_of_lists s id, hvalid.lists_of_sitsIn⟩
    · intro s t id hs ht
      exact (horderly.sitsIn_of_lists s id hs).unique (horderly.sitsIn_of_lists t id ht)
    · intro tolerance query s id id' hid hid'
      exact lightsUp_eq_of_isGovernedBy hvalid (horderly.isGovernedBy hid)
        (horderly.isGovernedBy hid')

/-- A stone is put into the stack of a sack: from then on it lights up whenever the sack does. -/
theorem stone_lights_up_with_sack :
    let named (name : String) : Item := { name := some name }
    let run : List Growth := [.looseItem (named "Stone"),
      .closedStack (named "Sack") [named "Carrot", named "Seed"], .place ⟨0⟩ ⟨0⟩]
    let inv : Inventory := run.foldl Growth.apply {}
    IsGrown Growth.IsCareful inv ∧ inv.violation? = none ∧
      ∀ tolerance query, inv.lightsUp tolerance query ⟨0⟩ = inv.lightsUp tolerance query ⟨3⟩ := by
  intro named run inv
  have hfree : ∀ (inv : Inventory) growth, (∀ id s, growth ≠ Growth.place id s) →
      growth.Leads inv → growth.IsCareful inv :=
    fun inv growth hplace hleads => ⟨hleads, fun id s h => absurd h (hplace id s)⟩
  have hgrown : IsGrown Growth.IsCareful inv := by
    refine .step (.place ⟨0⟩ ⟨0⟩) (.step (.closedStack _ _) (.step (.looseItem _) .empty ?_) ?_) ?_
    · exact hfree _ _ (by simp) trivial
    · exact hfree _ _ (by simp) trivial
    · refine ⟨⟨by decide, by decide⟩, ?_⟩
      intro id s hplace
      obtain ⟨rfl, rfl⟩ := Growth.place.inj hplace
      exact ⟨_, rfl, rfl⟩
  obtain ⟨hvalid, hrecords⟩ := isGrown_keeps_records
  refine ⟨hgrown, hvalid inv hgrown.leads_of_isCareful, ?_⟩
  intro tolerance query
  exact (hrecords inv hgrown).2.2.2.2 tolerance query ⟨0⟩ ⟨0⟩ ⟨3⟩
    (.inl ⟨_, rfl, by decide⟩) (.inr ⟨⟨_, rfl, rfl⟩, ⟨_, rfl, rfl⟩⟩)

end InventorySearch.Inventory
