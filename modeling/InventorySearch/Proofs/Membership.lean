import InventorySearch.Proofs.StackRule

/-!
# The two records of membership

Whether an item belongs to a stack is written down twice: the stack lists its members,
and the item refers to the stack it sits in.  `Lists` and `SitsIn` are the two records,
`Holds` is the third kind of reference, and `IsGovernedBy` says which stack decides for
an item.

* `isValid_iff`: an inventory is valid if all references lead somewhere and whoever
  sits in a stack is listed there.  The converse is not asked for.
* `lightsUp_iff_of_isGovernedBy`: all items that one stack governs light up together.
* `lightsUp_of_not_isGovernedBy`: an item that no stack governs lights up for itself.
-/

namespace InventorySearch.Inventory

/-! ## The relations between items and stacks -/

/-- A stack lists an item. -/
def Lists (inv : Inventory) (s : StackId) (id : ItemId) : Prop :=
  ∃ stack, inv.stack? s = some stack ∧ id ∈ stack.members

/-- An item refers to a stack as the one it sits in. -/
def SitsIn (inv : Inventory) (id : ItemId) (s : StackId) : Prop :=
  ∃ entry, inv.entry? id = some entry ∧ entry.inStack = some s

/-- An item refers to a stack as the one it holds. -/
def Holds (inv : Inventory) (id : ItemId) (s : StackId) : Prop :=
  ∃ entry, inv.entry? id = some entry ∧ entry.holdsStack = some s

/-- An item that sits in no stack. -/
def IsLoose (inv : Inventory) (id : ItemId) : Prop :=
  ∃ entry, inv.entry? id = some entry ∧ entry.inStack = none

/-- A stack decides for an item: the item sits in it, or it sits in none and holds it. -/
def IsGovernedBy (inv : Inventory) (id : ItemId) (s : StackId) : Prop :=
  inv.SitsIn id s ∨ inv.IsLoose id ∧ inv.Holds id s

variable {inv : Inventory} {id : ItemId} {entry : Entry} {s t : StackId}

theorem sitsIn_iff_of_entry (h : inv.entry? id = some entry) :
    inv.SitsIn id s ↔ entry.inStack = some s := by
  simp [SitsIn, h]

theorem holds_iff_of_entry (h : inv.entry? id = some entry) :
    inv.Holds id s ↔ entry.holdsStack = some s := by
  simp [Holds, h]

theorem lists_iff_of_stack {stack : Stack} (h : inv.stack? s = some stack) :
    inv.Lists s id ↔ id ∈ stack.members := by
  simp [Lists, h]

/-- An item sits in at most one stack. -/
theorem SitsIn.unique (hs : inv.SitsIn id s) (ht : inv.SitsIn id t) : s = t := by
  obtain ⟨entry, hentry, hin⟩ := hs
  rw [sitsIn_iff_of_entry hentry] at ht
  exact Option.some.inj (hin.symm.trans ht)

/-- An item holds at most one stack. -/
theorem Holds.unique (hs : inv.Holds id s) (ht : inv.Holds id t) : s = t := by
  obtain ⟨entry, hentry, hholds⟩ := hs
  rw [holds_iff_of_entry hentry] at ht
  exact Option.some.inj (hholds.symm.trans ht)

theorem IsLoose.not_sitsIn (h : inv.IsLoose id) : ¬inv.SitsIn id s := by
  intro hsits
  obtain ⟨entry, hentry, hin⟩ := h
  rw [sitsIn_iff_of_entry hentry, hin] at hsits
  exact absurd hsits (by simp)

/-! ## Validity -/

/-- Validity in terms of the relations between items and stacks. -/
theorem isValid_iff : inv.IsValid ↔
    (∀ s id, inv.Lists s id → id.index < inv.entries.length) ∧
      (∀ id s, inv.SitsIn id s → s.index < inv.allStacks.length) ∧
        (∀ id s, inv.Holds id s → s.index < inv.allStacks.length) ∧
          ∀ id s, inv.SitsIn id s → inv.Lists s id := by
  constructor
  · intro h
    refine ⟨?_, ?_, ?_, ?_⟩
    · intro s id hlists
      obtain ⟨stack, hstack, hmem⟩ := hlists
      exact h.member_lt s stack hstack id hmem
    · intro id s hsits
      obtain ⟨entry, hentry, hin⟩ := hsits
      exact h.inStack_lt id entry s hentry hin
    · intro id s hholds
      obtain ⟨entry, hentry, hs⟩ := hholds
      exact h.holdsStack_lt id entry s hentry hs
    · intro id s hsits
      obtain ⟨entry, hentry, hin⟩ := hsits
      obtain ⟨stack, hstack⟩ := stack?_eq_some_of_lt (h.inStack_lt id entry s hentry hin)
      exact ⟨stack, hstack, h.mem_members id entry s stack hentry hin hstack⟩
  · intro h
    obtain ⟨hmember, hin, hholds, hlisted⟩ := h
    exact {
      member_lt := fun s stack hstack member hmem => hmember s member ⟨stack, hstack, hmem⟩
      inStack_lt := fun id entry s hentry hs => hin id s ⟨entry, hentry, hs⟩
      holdsStack_lt := fun id entry s hentry hs => hholds id s ⟨entry, hentry, hs⟩
      mem_members := by
        intro id entry s stack hentry hs hstack
        exact (lists_iff_of_stack hstack).1 (hlisted id s ⟨entry, hentry, hs⟩) }

theorem IsValid.lists_of_sitsIn (h : inv.IsValid) (hsits : inv.SitsIn id s) : inv.Lists s id :=
  (isValid_iff.1 h).2.2.2 id s hsits

/-! ## Items under one stack -/

/-- The stack that decides for an item, read off its own record. -/
theorem isGovernedBy_iff :
    inv.IsGovernedBy id s ↔ ∃ entry, inv.entry? id = some entry ∧ entry.governor? = some s := by
  unfold IsGovernedBy SitsIn IsLoose Holds Entry.governor?
  cases hentry : inv.entry? id with
  | none => simp
  | some entry =>
    simp [Option.or_eq_some_iff]

/-- Whatever a stack governs lights up exactly if one of its members satisfies the query. -/
theorem lightsUp_iff_of_isGovernedBy (h : inv.IsValid) {tolerance : Tolerance} {query : Query}
    (hgoverned : inv.IsGovernedBy id s) :
    inv.lightsUp tolerance query id = true ↔ inv.SomeMemberSatisfies tolerance query s := by
  obtain ⟨entry, hentry, hs⟩ := isGovernedBy_iff.1 hgoverned
  exact lightsUp_iff_of_governor h hentry hs

/-- Whatever no stack governs lights up for itself, if it is there or not. -/
theorem lightsUp_of_not_isGovernedBy (h : inv.IsValid) {tolerance : Tolerance} {query : Query}
    (hfree : ∀ t, ¬inv.IsGovernedBy id t) :
    inv.lightsUp tolerance query id = inv.satisfiesAt tolerance query id := by
  cases hentry : inv.entry? id with
  | none => exact lightsUp_of_unknown hentry
  | some entry =>
    apply lightsUp_of_no_governor h hentry
    rw [Option.eq_none_iff_forall_ne_some]
    intro t ht
    exact hfree t (isGovernedBy_iff.2 ⟨entry, hentry, ht⟩)

/-- Two items under one stack get the same answer. -/
theorem lightsUp_eq_of_isGovernedBy (h : inv.IsValid) {tolerance : Tolerance} {query : Query}
    {id' : ItemId} (hid : inv.IsGovernedBy id s) (hid' : inv.IsGovernedBy id' s) :
    inv.lightsUp tolerance query id = inv.lightsUp tolerance query id' := by
  rw [Bool.eq_iff_iff, lightsUp_iff_of_isGovernedBy h hid, lightsUp_iff_of_isGovernedBy h hid']

end InventorySearch.Inventory
