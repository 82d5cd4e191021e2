import InventorySearch.Inventory.Validity
import InventorySearch.Snapshot.Basic

/-!
# Valid inventories

The check of an inventory and what it promises.  `IsValid` says in terms of look-ups
that no reference leads nowhere and that an item which sits in a stack is listed
there; `violation?_eq_none_iff` says that the check finds no fault exactly then.
There is one lemma of this kind for each part of the check.

An inventory that is read from a snapshot has passed the check
(`violation?_of_ofSnapshot`).
-/

namespace InventorySearch.Inventory

/-! ## Validity -/

/-- Every reference leads somewhere, and an item is listed by the stack it sits in. -/
structure IsValid (inv : Inventory) : Prop where
  member_lt : ∀ s stack, inv.stack? s = some stack →
    ∀ member ∈ stack.members, member.index < inv.entries.length
  inStack_lt : ∀ id entry s, inv.entry? id = some entry → entry.inStack = some s →
    s.index < inv.allStacks.length
  holdsStack_lt : ∀ id entry s, inv.entry? id = some entry → entry.holdsStack = some s →
    s.index < inv.allStacks.length
  mem_members : ∀ id entry s stack, inv.entry? id = some entry → entry.inStack = some s →
    inv.stack? s = some stack → id ∈ stack.members

variable {inv : Inventory}

theorem stack?_eq_some_of_lt {s : StackId} (h : s.index < inv.allStacks.length) :
    ∃ stack, inv.stack? s = some stack :=
  ⟨_, List.getElem?_eq_getElem h⟩

/-! ## The parts of the check -/

theorem stackViolation?_eq_none_iff {s : StackId} {stack : Stack} :
    inv.stackViolation? s stack = none ↔
      ∀ member ∈ stack.members, member.index < inv.entries.length := by
  simp [stackViolation?]

theorem referenceViolation?_eq_none_iff {id : ItemId} {reference : Option StackId} :
    inv.referenceViolation? id reference = none ↔
      ∀ s, reference = some s → s.index < inv.allStacks.length := by
  simp [referenceViolation?, Option.filter_eq_none_iff]

theorem membershipViolation?_eq_none_iff {id : ItemId} {entry : Entry} :
    inv.membershipViolation? id entry = none ↔
      ∀ s stack, entry.inStack = some s → inv.stack? s = some stack → id ∈ stack.members := by
  constructor
  · intro h s stack hs hstack
    by_cases hmem : id ∈ stack.members
    · exact hmem
    · exact absurd h (by simp [membershipViolation?, hs, hstack, hmem])
  · intro h
    unfold membershipViolation?
    cases hs : entry.inStack with
    | none => rfl
    | some s =>
      cases hstack : inv.stack? s with
      | none => simp [hstack]
      | some stack => simp [hstack, h s stack hs hstack]

theorem entryViolation?_eq_none_iff {id : ItemId} {entry : Entry} :
    inv.entryViolation? id entry = none ↔
      (∀ s, entry.inStack = some s → s.index < inv.allStacks.length) ∧
        (∀ s, entry.holdsStack = some s → s.index < inv.allStacks.length) ∧
          ∀ s stack, entry.inStack = some s → inv.stack? s = some stack → id ∈ stack.members := by
  rw [entryViolation?, Option.or_eq_none_iff, Option.or_eq_none_iff,
    referenceViolation?_eq_none_iff, referenceViolation?_eq_none_iff,
    membershipViolation?_eq_none_iff]

/-! ## The whole check -/

/-- A search through a list with indices finds nothing if no look-up leads to a find. -/
theorem findSome?_zipIdx_eq_none_iff {α β : Type} {l : List α} {f : α × Nat → Option β} :
    l.zipIdx.findSome? f = none ↔ ∀ index x, l[index]? = some x → f (x, index) = none := by
  rw [List.findSome?_eq_none_iff]
  constructor
  · intro h index x hx
    exact h (x, index) (List.mk_mem_zipIdx_iff_getElem?.2 hx)
  · intro h found hmem
    obtain ⟨x, index⟩ := found
    exact h index x (List.mk_mem_zipIdx_iff_getElem?.1 hmem)

/-- The check finds no violation exactly in the valid inventories. -/
theorem violation?_eq_none_iff : inv.violation? = none ↔ inv.IsValid := by
  rw [violation?, Option.or_eq_none_iff, findSome?_zipIdx_eq_none_iff,
    findSome?_zipIdx_eq_none_iff]
  simp only [stackViolation?_eq_none_iff, entryViolation?_eq_none_iff]
  constructor
  · intro h
    obtain ⟨hstack, hentry⟩ := h
    exact {
      member_lt := fun s => hstack s.index
      inStack_lt := fun id entry s hid => (hentry id.index entry hid).1 s
      holdsStack_lt := fun id entry s hid => (hentry id.index entry hid).2.1 s
      mem_members := fun id entry s stack hid => (hentry id.index entry hid).2.2 s stack }
  · intro h
    refine ⟨fun index => h.member_lt ⟨index⟩, fun index entry hid => ⟨?_, ?_, ?_⟩⟩
    · exact fun s => h.inStack_lt ⟨index⟩ entry s hid
    · exact fun s => h.holdsStack_lt ⟨index⟩ entry s hid
    · exact fun s stack => h.mem_members ⟨index⟩ entry s stack hid

theorem violation?_of_ofSnapshot {format : SnapshotFormat} {text : String}
    (h : ofSnapshot format text = .ok inv) : inv.violation? = none := by
  unfold ofSnapshot at h
  split at h
  · exact absurd h (by simp)
  · split at h
    · exact absurd h (by simp)
    · next hnone =>
      obtain rfl := Except.ok.inj h
      exact hnone

end InventorySearch.Inventory
