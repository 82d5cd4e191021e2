import InventorySearch.Inventory.Highlight
import InventorySearch.Proofs.ValidInventory

/-!
# Highlighting by stacks

Which items of a valid inventory light up, in terms of what each item satisfies by
itself.  `Entry.governor?` is the stack that decides for an item, read off its own
record: the one it sits in, otherwise the one it holds.

* `lightsUp_iff_of_governor`: with a governor, an item lights up with the members.
* `lightsUp_of_no_governor`: without one, it lights up for itself.
* `lightsUp_eq_false_iff`: an item that satisfies the query stays dark only as a
  container that sits in no stack.  An item that sits in a stack is one of its
  members, which is what the check of the inventory adds here.

`lightsUp_follows_stacks` puts them together, also for the lists of a search.
-/

namespace InventorySearch

namespace Entry

/-- The stack that decides for an item: the one it sits in, otherwise the one it holds. -/
def governor? (entry : Entry) : Option StackId := entry.inStack.or entry.holdsStack

variable {entry : Entry} {s : StackId}

theorem governor?_of_inStack (h : entry.inStack = some s) : entry.governor? = some s := by
  rw [governor?, h, Option.some_or]

theorem governor?_of_holdsStack (hin : entry.inStack = none) (h : entry.holdsStack = some s) :
    entry.governor? = some s := by
  rw [governor?, hin, h, Option.none_or]

theorem governor?_of_loose (hin : entry.inStack = none) (hholds : entry.holdsStack = none) :
    entry.governor? = none := by
  rw [governor?, hin, hholds, Option.none_or]

end Entry

namespace Inventory

/-! ## Vocabulary -/

/-- A stack lists an item that satisfies a query by itself. -/
def SomeMemberSatisfies (inv : Inventory) (tolerance : Tolerance) (query : Query) (s : StackId) :
    Prop :=
  ∃ stack, inv.stack? s = some stack ∧
    ∃ member ∈ stack.members, inv.satisfiesAt tolerance query member = true

/-- An item sits in no stack, and no member of the stack it holds satisfies a query. -/
def IsDarkContainer (inv : Inventory) (tolerance : Tolerance) (query : Query) (id : ItemId) :
    Prop :=
  ∃ entry s, inv.entry? id = some entry ∧ entry.inStack = none ∧ entry.holdsStack = some s ∧
    ¬inv.SomeMemberSatisfies tolerance query s

/-- An item is a listed member of the stack that governs another one. -/
def IsMemberForItem (inv : Inventory) (member id : ItemId) : Prop :=
  ∃ entry s stack, inv.entry? id = some entry ∧ entry.governor? = some s ∧
    inv.stack? s = some stack ∧ member ∈ stack.members

variable {inv : Inventory} {tolerance : Tolerance} {query : Query} {id : ItemId} {entry : Entry}
  {s : StackId}

/-! ## The stack that decides -/

/-- In a valid inventory the precedence between the two references of an item is the one between
the stacks that they lead to. -/
theorem governingStack?_eq (h : inv.IsValid) (hentry : inv.entry? id = some entry) :
    inv.governingStack? id = entry.governor?.bind inv.stack? := by
  unfold governingStack? parentStack? heldStack? Entry.governor?
  rw [hentry]
  cases hin : entry.inStack with
  | none => simp [hin]
  | some s =>
    obtain ⟨stack, hstack⟩ := stack?_eq_some_of_lt (h.inStack_lt id entry s hentry hin)
    simp [hin, hstack]

theorem exists_stack_of_governor (h : inv.IsValid) (hentry : inv.entry? id = some entry)
    (hs : entry.governor? = some s) : ∃ stack, inv.stack? s = some stack := by
  rcases Option.or_eq_some_iff.1 hs with hin | ⟨-, hholds⟩
  · exact stack?_eq_some_of_lt (h.inStack_lt id entry s hentry hin)
  · exact stack?_eq_some_of_lt (h.holdsStack_lt id entry s hentry hholds)

/-- A governed item lights up with the members of the stack, whatever it is itself. -/
theorem lightsUp_iff_of_governor (h : inv.IsValid) (hentry : inv.entry? id = some entry)
    (hs : entry.governor? = some s) :
    inv.lightsUp tolerance query id = true ↔ inv.SomeMemberSatisfies tolerance query s := by
  obtain ⟨stack, hstack⟩ := exists_stack_of_governor h hentry hs
  have hgoverning : inv.governingStack? id = some stack := by
    rw [governingStack?_eq h hentry, hs, Option.bind_some, hstack]
  rw [lightsUp, hgoverning]
  simp [SomeMemberSatisfies, hstack]

/-- No stack decides for what is not there. -/
theorem lightsUp_of_unknown (hnone : inv.entry? id = none) :
    inv.lightsUp tolerance query id = inv.satisfiesAt tolerance query id := by
  have hgoverning : inv.governingStack? id = none := by
    simp [governingStack?, parentStack?, heldStack?, hnone]
  rw [lightsUp, hgoverning]

/-- An item without a governor lights up if it satisfies the query. -/
theorem lightsUp_of_no_governor (h : inv.IsValid) (hentry : inv.entry? id = some entry)
    (hs : entry.governor? = none) :
    inv.lightsUp tolerance query id = inv.satisfiesAt tolerance query id := by
  rw [lightsUp, governingStack?_eq h hentry, hs]
  rfl

/-! ## Items that satisfy the query -/

theorem exists_entry_of_satisfiesAt (h : inv.satisfiesAt tolerance query id = true) :
    ∃ entry, inv.entry? id = some entry := by
  unfold satisfiesAt item? at h
  cases hentry : inv.entry? id with
  | none => simp [hentry] at h
  | some entry => exact ⟨entry, rfl⟩

/-- An item that satisfies the query lights the stack it sits in. -/
theorem someMemberSatisfies_of_inStack (h : inv.IsValid) (hentry : inv.entry? id = some entry)
    (hin : entry.inStack = some s) (hid : inv.satisfiesAt tolerance query id = true) :
    inv.SomeMemberSatisfies tolerance query s := by
  obtain ⟨stack, hstack⟩ := stack?_eq_some_of_lt (h.inStack_lt id entry s hentry hin)
  exact ⟨stack, hstack, id, h.mem_members id entry s stack hentry hin hstack, hid⟩

/-- Only a container outside of all stacks can satisfy the query and stay dark. -/
theorem lightsUp_eq_false_iff (h : inv.IsValid)
    (hid : inv.satisfiesAt tolerance query id = true) :
    inv.lightsUp tolerance query id = false ↔ inv.IsDarkContainer tolerance query id := by
  rw [Bool.eq_false_iff, ne_eq]
  constructor
  · intro hdark
    obtain ⟨entry, hentry⟩ := exists_entry_of_satisfiesAt hid
    cases hin : entry.inStack with
    | some s =>
      refine absurd ?_ hdark
      rw [lightsUp_iff_of_governor h hentry (Entry.governor?_of_inStack hin)]
      exact someMemberSatisfies_of_inStack h hentry hin hid
    | none =>
      cases hholds : entry.holdsStack with
      | some s =>
        rw [lightsUp_iff_of_governor h hentry (Entry.governor?_of_holdsStack hin hholds)] at hdark
        exact ⟨entry, s, hentry, hin, hholds, hdark⟩
      | none =>
        rw [lightsUp_of_no_governor h hentry (Entry.governor?_of_loose hin hholds)] at hdark
        exact absurd hid hdark
  · intro hcontainer
    obtain ⟨entry, s, hentry, hin, hholds, hdark⟩ := hcontainer
    rwa [lightsUp_iff_of_governor h hentry (Entry.governor?_of_holdsStack hin hholds)]

/-- Whatever lights up does so for an item that satisfies the query: itself or a member of the stack
that governs it. -/
theorem exists_witness_of_lightsUp (h : inv.IsValid)
    (hlit : inv.lightsUp tolerance query id = true) :
    ∃ witness, inv.satisfiesAt tolerance query witness = true ∧
      (witness = id ∨ inv.IsMemberForItem witness id) := by
  cases hentry : inv.entry? id with
  | none =>
    rw [lightsUp_of_unknown hentry] at hlit
    exact ⟨id, hlit, .inl rfl⟩
  | some entry =>
    cases hs : entry.governor? with
    | none =>
      rw [lightsUp_of_no_governor h hentry hs] at hlit
      exact ⟨id, hlit, .inl rfl⟩
    | some s =>
      obtain ⟨stack, hstack, member, hmember, hsatisfies⟩ :=
        (lightsUp_iff_of_governor h hentry hs).1 hlit
      exact ⟨member, hsatisfies, .inr ⟨entry, s, stack, hentry, hs, hstack, hmember⟩⟩

/-! ## Searches -/

theorem mem_highlighted_iff {ids : List ItemId} {input : String} :
    id ∈ inv.highlighted tolerance ids input ↔
      id ∈ ids ∧ Text.isBlank input = false ∧
        inv.lightsUp tolerance (.read input) id = true := by
  unfold highlighted
  cases Text.isBlank input <;> simp

theorem mem_satisfying_iff {ids : List ItemId} {input : String} :
    id ∈ inv.satisfying tolerance ids input ↔
      id ∈ ids ∧ Text.isBlank input = false ∧
        inv.satisfiesAt tolerance (.read input) id = true := by
  unfold satisfying satisfiesAt Item.satisfiesText
  cases Text.isBlank input <;> simp

/-- The search for highlighted items finds what the direct search finds, but for some containers. -/
theorem mem_highlighted_of_mem_satisfying (h : inv.IsValid) {ids : List ItemId} {input : String}
    (hid : id ∈ inv.satisfying tolerance ids input) :
    id ∈ inv.highlighted tolerance ids input ∨
      inv.IsDarkContainer tolerance (.read input) id := by
  obtain ⟨hmem, hblank, hsatisfies⟩ := mem_satisfying_iff.1 hid
  cases hlit : inv.lightsUp tolerance (.read input) id with
  | true => exact .inl (mem_highlighted_iff.2 ⟨hmem, hblank, hlit⟩)
  | false => exact .inr ((lightsUp_eq_false_iff h hsatisfies).1 hlit)

/-- What lights up in an inventory that passes the check.  An item that sits in a stack, or sits in
none and holds one, lights up exactly if a member of that stack satisfies the query; every other
item does exactly if it satisfies the query itself.  So what satisfies the query lights up, all but
the containers outside of stacks whose members do not satisfy it, and whatever lights up has a
witness.  The lists of the two searches differ accordingly, in every snapshot that is accepted. -/
theorem lightsUp_follows_stacks (inv : Inventory) (h : inv.violation? = none)
    (tolerance : Tolerance) (query : Query) :
    (∀ id entry s, inv.entry? id = some entry → entry.inStack = some s →
      (inv.lightsUp tolerance query id = true ↔ inv.SomeMemberSatisfies tolerance query s)) ∧
    (∀ id entry s, inv.entry? id = some entry → entry.inStack = none →
      entry.holdsStack = some s →
      (inv.lightsUp tolerance query id = true ↔ inv.SomeMemberSatisfies tolerance query s)) ∧
    (∀ id entry, inv.entry? id = some entry → entry.inStack = none → entry.holdsStack = none →
      inv.lightsUp tolerance query id = inv.satisfiesAt tolerance query id) ∧
    (∀ id, inv.satisfiesAt tolerance query id = true →
      (inv.lightsUp tolerance query id = false ↔ inv.IsDarkContainer tolerance query id)) ∧
    (∀ id, inv.lightsUp tolerance query id = true →
      ∃ witness, inv.satisfiesAt tolerance query witness = true ∧
        (witness = id ∨ inv.IsMemberForItem witness id)) ∧
    (∀ ids input, ∀ id ∈ inv.satisfying tolerance ids input,
      id ∈ inv.highlighted tolerance ids input ∨ inv.IsDarkContainer tolerance (.read input) id) ∧
    ∀ format text accepted, ofSnapshot format text = .ok accepted →
      ∀ input, ∀ id ∈ accepted.satisfying tolerance accepted.ids input,
        id ∈ accepted.highlighted tolerance accepted.ids input ∨
          accepted.IsDarkContainer tolerance (.read input) id := by
  have hvalid := violation?_eq_none_iff.1 h
  refine ⟨?_, ?_, ?_, ?_, ?_, ?_, ?_⟩
  · intro id entry s hentry hin
    exact lightsUp_iff_of_governor hvalid hentry (Entry.governor?_of_inStack hin)
  · intro id entry s hentry hin hholds
    exact lightsUp_iff_of_governor hvalid hentry (Entry.governor?_of_holdsStack hin hholds)
  · intro id entry hentry hin hholds
    exact lightsUp_of_no_governor hvalid hentry (Entry.governor?_of_loose hin hholds)
  · intro id hid
    exact lightsUp_eq_false_iff hvalid hid
  · intro id hlit
    exact exists_witness_of_lightsUp hvalid hlit
  · intro ids input id hid
    exact mem_highlighted_of_mem_satisfying hvalid hid
  · intro format text accepted haccepted input id hid
    have hsnapshot := violation?_eq_none_iff.1 (violation?_of_ofSnapshot haccepted)
    exact mem_highlighted_of_mem_satisfying hsnapshot hid

/-- A box of food that holds a stack without any food: the box is food, but it stays dark. -/
theorem foodBox_stays_dark :
    let box : Entry := { item := { food := some {} }, holdsStack := some ⟨0⟩ }
    let inv : Inventory := ⟨[{ inStack := some ⟨0⟩ }, box], [⟨[⟨0⟩]⟩]⟩
    let query : Query := .property .foodEnergy .any
    inv.violation? = none ∧ inv.satisfiesAt {} query ⟨1⟩ = true ∧
      inv.lightsUp {} query ⟨1⟩ = false := by
  intro box inv query
  have hvalid : inv.violation? = none := by decide
  have hbox : inv.satisfiesAt {} query ⟨1⟩ = true := rfl
  have hdark : inv.IsDarkContainer {} query ⟨1⟩ := by
    refine ⟨box, ⟨0⟩, rfl, rfl, rfl, ?_⟩
    intro hlit
    obtain ⟨stack, hstack, member, hmember, hsatisfies⟩ := hlit
    obtain rfl : ⟨[⟨0⟩]⟩ = stack := Option.some.inj hstack
    rw [List.mem_singleton.1 hmember] at hsatisfies
    exact absurd hsatisfies (by decide)
  exact ⟨hvalid, hbox, ((lightsUp_follows_stacks inv hvalid {} query).2.2.2.1 ⟨1⟩ hbox).2 hdark⟩

end Inventory

end InventorySearch
