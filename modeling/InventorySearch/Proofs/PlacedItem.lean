import InventorySearch.Proofs.GrownInventory

/-!
# Placing an item

What putting an item into a stack changes, and what it leaves alone.  Only one reference
of one entry and the members of one stack are touched, but the answers of many other items
hang on these members: of all items that the stack governs.

* `entry?_place_self`, `stack?_place_self` and their counterparts for other indices say
  what each look-up gives afterwards; no item itself changes, so neither does what an item
  satisfies by itself (`satisfiesAt_place`).
* `isGovernedBy_place_iff`: another item keeps the stack that governs it.
* `someMemberSatisfies_place`: one stack has one more member that can satisfy a query.

A governed item lights up with the members of its stack, so these three decide about every
other item.  The placed item itself is governed by its new stack from now on, also if it
holds one.  `place_lights_up_one_stack` puts them together.
-/

namespace InventorySearch.Inventory

variable {inv : Inventory} {id other : ItemId} {s t : StackId} {tolerance : Tolerance}
  {query : Query}

/-! ## Look-ups -/

theorem entry?_place_self : entry? (inv.place id s) id =
    (inv.entry? id).map fun entry => { entry with inStack := some s } := by
  rw [entry?_place]
  simp

theorem entry?_place_of_ne (h : other ≠ id) : entry? (inv.place id s) other = inv.entry? other := by
  rw [entry?_place]
  simp [h.symm]

theorem stack?_place_self : (inv.place id s).stack? s =
    (inv.stack? s).map fun stack => ⟨stack.members ++ [id]⟩ := by
  rw [stack?_place]
  simp

theorem stack?_place_of_ne (h : t ≠ s) : (inv.place id s).stack? t = inv.stack? t := by
  rw [stack?_place]
  simp [h.symm]

/-- No item changes itself. -/
theorem item?_place : (inv.place id s).item? other = inv.item? other := by
  unfold item?
  rw [entry?_place, Option.map_map]
  congr 1
  funext entry
  dsimp only [Function.comp]
  split <;> rfl

theorem satisfiesAt_place :
    (inv.place id s).satisfiesAt tolerance query other = inv.satisfiesAt tolerance query other := by
  rw [satisfiesAt, satisfiesAt, item?_place]

/-! ## The stack that governs an item -/

theorem isGovernedBy_place_iff (h : other ≠ id) :
    (inv.place id s).IsGovernedBy other t ↔ inv.IsGovernedBy other t := by
  rw [isGovernedBy_iff, isGovernedBy_iff, entry?_place_of_ne h]

theorem isGovernedBy_place_self (hid : id.index < inv.entries.length) :
    (inv.place id s).IsGovernedBy id s :=
  .inl (sitsIn_place.2 (.inl ⟨rfl, rfl, hid⟩))

/-- The placed item is one more member of its new stack, and no other stack has changed. -/
theorem someMemberSatisfies_place (hs : s.index < inv.allStacks.length) :
    (inv.place id s).SomeMemberSatisfies tolerance query t ↔
      inv.SomeMemberSatisfies tolerance query t ∨
        t = s ∧ inv.satisfiesAt tolerance query id = true := by
  unfold SomeMemberSatisfies
  simp only [satisfiesAt_place]
  by_cases h : t = s
  · subst h
    obtain ⟨stack, hstack⟩ := stack?_eq_some_of_lt hs
    simp [stack?_place_self, hstack, or_and_right, exists_or]
  · simp [stack?_place_of_ne h, h]

/-! ## What lights up -/

theorem lightsUp_place_of_isGovernedBy (h : inv.IsValid) (hid : id.index < inv.entries.length)
    (hs : s.index < inv.allStacks.length) (hne : other ≠ id)
    (hgoverned : inv.IsGovernedBy other t) :
    (inv.place id s).lightsUp tolerance query other = true ↔
      inv.lightsUp tolerance query other = true ∨
        t = s ∧ inv.satisfiesAt tolerance query id = true := by
  rw [lightsUp_iff_of_isGovernedBy (h.place hid hs) ((isGovernedBy_place_iff hne).2 hgoverned),
    someMemberSatisfies_place hs, lightsUp_iff_of_isGovernedBy h hgoverned]

/-- Whatever the stack does not govern keeps its answer. -/
theorem lightsUp_place_of_not_isGovernedBy (h : inv.IsValid) (hid : id.index < inv.entries.length)
    (hs : s.index < inv.allStacks.length) (hne : other ≠ id)
    (hnot : ¬inv.IsGovernedBy other s) :
    (inv.place id s).lightsUp tolerance query other = inv.lightsUp tolerance query other := by
  by_cases hfree : ∃ t, inv.IsGovernedBy other t
  · obtain ⟨t, ht⟩ := hfree
    have hts : t ≠ s := by
      rintro rfl
      exact hnot ht
    rw [Bool.eq_iff_iff, lightsUp_place_of_isGovernedBy h hid hs hne ht]
    simp [hts]
  · rw [not_exists] at hfree
    have hfree' : ∀ t, ¬(inv.place id s).IsGovernedBy other t := by
      intro t
      rw [isGovernedBy_place_iff hne]
      exact hfree t
    rw [lightsUp_of_not_isGovernedBy (h.place hid hs) hfree', lightsUp_of_not_isGovernedBy h hfree,
      satisfiesAt_place]

theorem lightsUp_place_self (h : inv.IsValid) (hid : id.index < inv.entries.length)
    (hs : s.index < inv.allStacks.length) :
    (inv.place id s).lightsUp tolerance query id = true ↔
      inv.SomeMemberSatisfies tolerance query s ∨ inv.satisfiesAt tolerance query id = true := by
  rw [lightsUp_iff_of_isGovernedBy (h.place hid hs) (isGovernedBy_place_self hid),
    someMemberSatisfies_place hs]
  simp

/-- Putting an item that sits in no stack into one, in an inventory that passes the check.  Every
other item that the stack governs lights up if it did before or if the placed item satisfies the
query; every other item keeps its answer.  The placed item lights up with its new stack, whatever it
holds.  No item changes, and of the relations only the reference of the placed item and the members
of the stack; and the inventory still passes the check. -/
theorem place_lights_up_one_stack (inv : Inventory) (h : inv.violation? = none) (id : ItemId)
    (hloose : inv.IsLoose id) (s : StackId) (hs : s.index < inv.allStacks.length) :
    let after := inv.place id s
    (∀ tolerance query,
      (∀ other, other ≠ id → inv.IsGovernedBy other s →
        (after.lightsUp tolerance query other = true ↔
          inv.lightsUp tolerance query other = true ∨
            inv.satisfiesAt tolerance query id = true)) ∧
      (∀ other, other ≠ id → ¬inv.IsGovernedBy other s →
        after.lightsUp tolerance query other = inv.lightsUp tolerance query other) ∧
      (after.lightsUp tolerance query id = true ↔
        inv.SomeMemberSatisfies tolerance query s ∨
          inv.satisfiesAt tolerance query id = true)) ∧
    (∀ other, after.item? other = inv.item? other) ∧
    (∀ other, other ≠ id → after.entry? other = inv.entry? other) ∧
    after.entry? id = (inv.entry? id).map (fun entry => { entry with inStack := some s }) ∧
    (∀ t, t ≠ s → after.stack? t = inv.stack? t) ∧
    after.stack? s = (inv.stack? s).map (fun stack => ⟨stack.members ++ [id]⟩) ∧
    after.violation? = none := by
  intro after
  have hvalid := violation?_eq_none_iff.1 h
  have hid : id.index < inv.entries.length := by
    obtain ⟨entry, hentry, -⟩ := hloose
    exact exists_entry?_iff.1 ⟨entry, hentry⟩
  refine ⟨?_, fun other => item?_place, fun other => entry?_place_of_ne, entry?_place_self,
    fun t => stack?_place_of_ne, stack?_place_self,
    violation?_eq_none_iff.2 (hvalid.place hid hs)⟩
  intro tolerance query
  refine ⟨?_, ?_, lightsUp_place_self hvalid hid hs⟩
  · intro other hne hgoverned
    rw [lightsUp_place_of_isGovernedBy hvalid hid hs hne hgoverned]
    simp
  · intro other hne hnot
    exact lightsUp_place_of_not_isGovernedBy hvalid hid hs hne hnot

/-- A box with a nail is put into the stack of a sack: from then on the sack lights up for the box,
and so does the box, which stayed dark as a container of nails.  The nail keeps its answers. -/
theorem sack_lights_up_for_box :
    let named (name : String) : Item := { name := some name }
    let inv : Inventory :=
      ⟨[⟨named "Carrot", some ⟨0⟩, none⟩, ⟨named "Sack", none, some ⟨0⟩⟩,
        ⟨named "Box", none, some ⟨1⟩⟩, ⟨named "Nail", some ⟨1⟩, none⟩], [⟨[⟨0⟩]⟩, ⟨[⟨3⟩]⟩]⟩
    let after := inv.place ⟨2⟩ ⟨0⟩
    let box : Query := .name "box"
    inv.violation? = none ∧ inv.IsLoose ⟨2⟩ ∧
      inv.lightsUp .standard box ⟨1⟩ = false ∧ after.lightsUp .standard box ⟨1⟩ = true ∧
      inv.lightsUp .standard box ⟨2⟩ = false ∧ after.lightsUp .standard box ⟨2⟩ = true ∧
      (∀ tolerance query,
        after.lightsUp tolerance query ⟨3⟩ = inv.lightsUp tolerance query ⟨3⟩) ∧
      after.violation? = none := by
  intro named inv after box
  have hvalid : inv.violation? = none := by decide
  have hloose : inv.IsLoose ⟨2⟩ := ⟨_, rfl, rfl⟩
  have hbox : inv.satisfiesAt .standard box ⟨2⟩ = true := by decide
  obtain ⟨hlit, -, -, -, -, -, hafter⟩ :=
    place_lights_up_one_stack inv hvalid ⟨2⟩ hloose ⟨0⟩ (by decide)
  have hsack : inv.IsGovernedBy ⟨1⟩ ⟨0⟩ := .inr ⟨⟨_, rfl, rfl⟩, ⟨_, rfl, rfl⟩⟩
  have hnail : ¬inv.IsGovernedBy ⟨3⟩ ⟨0⟩ := by
    rw [isGovernedBy_iff]
    rintro ⟨entry, hentry, hs⟩
    obtain rfl := Option.some.inj hentry
    exact absurd hs (by decide)
  obtain ⟨hgoverned, -, hself⟩ := hlit .standard box
  refine ⟨hvalid, hloose, by decide, ?_, by decide, ?_, ?_, hafter⟩
  · exact (hgoverned ⟨1⟩ (by decide) hsack).2 (.inr hbox)
  · exact hself.2 (.inr hbox)
  · intro tolerance query
    exact (hlit tolerance query).2.1 ⟨3⟩ (by decide) hnail

end InventorySearch.Inventory
