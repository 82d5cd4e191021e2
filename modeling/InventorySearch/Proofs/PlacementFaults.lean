import InventorySearch.Proofs.FirstViolation
import InventorySearch.Proofs.PlacedItem

/-!
# Placing with an unknown index

Putting an item into a stack has two halves: the item refers to the stack, and the stack
lists the item.  Each half is done if its own index leads somewhere, and skipped otherwise,
whatever becomes of the other one.  So a placement is not all or nothing: with one unknown
index the other half is done all the same, and leaves a reference that leads nowhere.

`isFaulty_place_cases` is the complete list of faults that a placement brings into a valid
inventory.  There are none if both indices lead somewhere or neither does; with one unknown
index they are at the reference that was written.  What the check reports is the reference
of the item if the stack is unknown (`violation?_place_of_unknown_stack`), that of the stack
if the item is (`violation?_place_of_unknown_item`), and nothing in the other cases
(`violation?_place_eq_none_iff`).  `place_does_each_half` puts this together with what each
half leaves alone, and `stone_refers_to_no_stack` is the smallest inventory that stops being
valid.
-/

namespace InventorySearch.Inventory

variable {inv : Inventory} {id : ItemId} {s : StackId} {site : Site} {violation : Violation}

/-! ## The two halves -/

/-- An unknown item leaves the items as they are. -/
theorem entries_place_of_unknown (hid : inv.entries.length ≤ id.index) :
    (inv.place id s).entries = inv.entries :=
  List.modify_eq_self hid

/-- An unknown stack leaves the stacks as they are. -/
theorem allStacks_place_of_unknown (hs : inv.allStacks.length ≤ s.index) :
    (inv.place id s).allStacks = inv.allStacks :=
  List.modify_eq_self hs

theorem place_eq_self (hid : inv.entries.length ≤ id.index)
    (hs : inv.allStacks.length ≤ s.index) : inv.place id s = inv := by
  show (⟨(inv.place id s).entries, (inv.place id s).allStacks⟩ : Inventory) = inv
  rw [entries_place_of_unknown hid, allStacks_place_of_unknown hs]

/-! ## The faults of a placement -/

/-- A fault after a placement into a valid inventory: the stack is there and lists the item last,
which is not, or the item is there and refers to the stack, which is not. -/
theorem isFaulty_place_cases (h : inv.IsValid)
    (hfaulty : (inv.place id s).IsFaulty site violation) :
    (inv.entries.length ≤ id.index ∧
      ∃ stack, inv.stack? s = some stack ∧ site = .member s stack.members.length ∧
        violation = .unknownMember s id) ∨
    id.index < inv.entries.length ∧ inv.allStacks.length ≤ s.index ∧
      (site = .inStack id ∧ violation = .unknownStack id s ∨
        site = .membership id ∧ violation = .unlistedMember id s) := by
  obtain ⟨hmember, hin, hholds, hlisted⟩ := isValid_iff.1 h
  cases hfaulty with
  | @member t stack position m hstack hm hunknown =>
    rw [length_entries_place] at hunknown
    have hold : ∀ t, ¬inv.Lists t m := by
      intro t hlists
      exact Nat.not_lt.2 hunknown (hmember t m hlists)
    rcases lists_place.1 ⟨stack, hstack, List.mem_of_getElem? hm⟩ with hbefore | ⟨rfl, rfl, hs⟩
    · exact absurd hbefore (hold t)
    · obtain ⟨before, hbefore⟩ := stack?_eq_some_of_lt hs
      rw [stack?_place_self, hbefore, Option.map_some, Option.some.injEq] at hstack
      subst hstack
      -- The old members are all there, so the position is the one behind them.
      have hposition : position = before.members.length := by
        by_contra hne
        rw [getElem?_concat, if_neg hne] at hm
        exact hold s ⟨before, hbefore, List.mem_of_getElem? hm⟩
      exact .inl ⟨hunknown, before, hbefore, by rw [hposition], rfl⟩
  | @inStack id' t hsits hs =>
    rw [length_allStacks_place] at hs
    rcases sitsIn_place.1 hsits with ⟨rfl, rfl, hid⟩ | ⟨-, hbefore⟩
    · exact .inr ⟨hid, hs, .inl ⟨rfl, rfl⟩⟩
    · exact absurd (hin id' t hbefore) (Nat.not_lt.2 hs)
  | @holdsStack id' t hplaced hs =>
    rw [length_allStacks_place] at hs
    exact absurd (hholds id' t (holds_place.1 hplaced)) (Nat.not_lt.2 hs)
  | @membership id' t hsits hlists =>
    rw [lists_place, not_or] at hlists
    rcases sitsIn_place.1 hsits with ⟨rfl, rfl, hid⟩ | ⟨-, hbefore⟩
    · have hs : inv.allStacks.length ≤ s.index := by
        by_contra hlt
        exact hlists.2 ⟨rfl, rfl, by omega⟩
      exact .inr ⟨hid, hs, .inr ⟨rfl, rfl⟩⟩
    · exact absurd (hlisted id' t hbefore) hlists.1

/-- An unknown stack is reported at the item that refers to it. -/
theorem violation?_place_of_unknown_stack (h : inv.IsValid) (hid : id.index < inv.entries.length)
    (hs : inv.allStacks.length ≤ s.index) :
    (inv.place id s).violation? = some (.unknownStack id s) := by
  refine violation?_eq_some_iff.2 ⟨.inStack id, ?_, ?_⟩
  · refine .inStack (sitsIn_place.2 (.inl ⟨rfl, rfl, hid⟩)) ?_
    rwa [length_allStacks_place]
  · intro earlier other hbefore hfaulty
    rcases isFaulty_place_cases h hfaulty with ⟨hunknown, -⟩ | ⟨-, -, ⟨rfl, -⟩ | ⟨rfl, -⟩⟩
    · omega
    · simp [Site.Before] at hbefore
    · simp [Site.Before, Site.rank] at hbefore

/-- An unknown item is reported at the stack that lists it. -/
theorem violation?_place_of_unknown_item (h : inv.IsValid) (hid : inv.entries.length ≤ id.index)
    (hs : s.index < inv.allStacks.length) :
    (inv.place id s).violation? = some (.unknownMember s id) := by
  obtain ⟨stack, hstack⟩ := stack?_eq_some_of_lt hs
  have hplaced : (inv.place id s).stack? s = some ⟨stack.members ++ [id]⟩ := by
    rw [stack?_place_self, hstack, Option.map_some]
  refine violation?_eq_some_iff.2 ⟨.member s stack.members.length, ?_, ?_⟩
  · refine .member hplaced (by simp) ?_
    rwa [length_entries_place]
  · intro earlier other hbefore hfaulty
    rcases isFaulty_place_cases h hfaulty with ⟨-, stack', hstack', rfl, -⟩ | ⟨hknown, -, -⟩
    · obtain rfl := Option.some.inj (hstack.symm.trans hstack')
      simp [Site.Before] at hbefore
    · omega

theorem violation?_place_eq_none_iff (h : inv.IsValid) :
    (inv.place id s).violation? = none ↔
      (id.index < inv.entries.length ↔ s.index < inv.allStacks.length) := by
  rcases Nat.lt_or_ge id.index inv.entries.length with hid | hid <;>
    rcases Nat.lt_or_ge s.index inv.allStacks.length with hs | hs
  · exact iff_of_true (violation?_eq_none_iff.2 (h.place hid hs)) (iff_of_true hid hs)
  · rw [violation?_place_of_unknown_stack h hid hs]
    simp [hid, hs]
  · rw [violation?_place_of_unknown_item h hid hs]
    simp [hid, hs]
  · rw [place_eq_self hid hs]
    exact iff_of_true (violation?_eq_none_iff.2 h) (iff_of_false (by omega) (by omega))

/-! ## Not all or nothing -/

/-- A stone is put into a stack where there is none: the stack is unknown, but the inventory is not
what it was, and it does not pass the check any more. -/
theorem stone_refers_to_no_stack :
    let inv : Inventory := ⟨[{ item := { name := some "Stone" } }], []⟩
    let after := inv.place ⟨0⟩ ⟨0⟩
    inv.violation? = none ∧ inv.stack? ⟨0⟩ = none ∧ after ≠ inv ∧
      after.violation? = some (.unknownStack ⟨0⟩ ⟨0⟩) := by
  intro inv after
  have hvalid : inv.violation? = none := by decide
  have hafter : after.violation? = some (.unknownStack ⟨0⟩ ⟨0⟩) := by decide
  refine ⟨hvalid, rfl, ?_, hafter⟩
  intro heq
  rw [heq, hvalid] at hafter
  exact absurd hafter (by simp)

/-- Putting an item into a stack of an inventory that passes the check, whatever the indices are.
The inventory still passes exactly if both indices lead somewhere or neither does, and in the second
case it is what it was.  If only the item is there, its reference is all that changes, and the check
reports the unknown stack; if only the stack is there, its members are, and the check reports the
unknown item. -/
theorem place_does_each_half (inv : Inventory) (h : inv.violation? = none) (id : ItemId)
    (s : StackId) :
    let after := inv.place id s
    (after.violation? = none ↔
      (id.index < inv.entries.length ↔ s.index < inv.allStacks.length)) ∧
    (inv.entries.length ≤ id.index → inv.allStacks.length ≤ s.index → after = inv) ∧
    (id.index < inv.entries.length → inv.allStacks.length ≤ s.index →
      after.allStacks = inv.allStacks ∧
      (∀ other, other ≠ id → after.entry? other = inv.entry? other) ∧
      after.entry? id = (inv.entry? id).map (fun entry => { entry with inStack := some s }) ∧
      after.violation? = some (.unknownStack id s)) ∧
    (inv.entries.length ≤ id.index → s.index < inv.allStacks.length →
      after.entries = inv.entries ∧
      (∀ t, t ≠ s → after.stack? t = inv.stack? t) ∧
      after.stack? s = (inv.stack? s).map (fun stack => ⟨stack.members ++ [id]⟩) ∧
      after.violation? = some (.unknownMember s id)) := by
  intro after
  have hvalid := violation?_eq_none_iff.1 h
  refine ⟨violation?_place_eq_none_iff hvalid, place_eq_self, ?_, ?_⟩
  · intro hid hs
    exact ⟨allStacks_place_of_unknown hs, fun other => entry?_place_of_ne, entry?_place_self,
      violation?_place_of_unknown_stack hvalid hid hs⟩
  · intro hid hs
    exact ⟨entries_place_of_unknown hid, fun t => stack?_place_of_ne, stack?_place_self,
      violation?_place_of_unknown_item hvalid hid hs⟩

/-- A stone, a stack, and an index of each that leads nowhere, in all combinations. -/
theorem stone_placed_in_all_ways :
    let inv : Inventory := ⟨[{ item := { name := some "Stone" } }], [⟨[]⟩]⟩
    inv.violation? = none ∧ (inv.place ⟨0⟩ ⟨0⟩).violation? = none ∧ inv.place ⟨1⟩ ⟨1⟩ = inv ∧
      (inv.place ⟨0⟩ ⟨1⟩).violation? = some (.unknownStack ⟨0⟩ ⟨1⟩) ∧
      (inv.place ⟨1⟩ ⟨0⟩).violation? = some (.unknownMember ⟨0⟩ ⟨1⟩) := by
  intro inv
  have hvalid : inv.violation? = none := by decide
  have hhalves := place_does_each_half inv hvalid
  refine ⟨hvalid, ?_, ?_, ?_, ?_⟩
  · exact (hhalves ⟨0⟩ ⟨0⟩).1.2 (iff_of_true (by decide) (by decide))
  · exact (hhalves ⟨1⟩ ⟨1⟩).2.1 (by decide) (by decide)
  · exact ((hhalves ⟨0⟩ ⟨1⟩).2.2.1 (by decide) (by decide)).2.2.2
  · exact ((hhalves ⟨1⟩ ⟨0⟩).2.2.2 (by decide) (by decide)).2.2.2

end InventorySearch.Inventory
