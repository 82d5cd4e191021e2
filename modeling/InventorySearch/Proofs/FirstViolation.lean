import InventorySearch.Failure
import InventorySearch.Proofs.Membership
import InventorySearch.Proofs.NumberLiteral

/-!
# The violation that the check reports

A `Site` is a place of an inventory where a reference can be wrong, `IsFaulty` says
that the reference there is wrong and how, and `Site.Before` is the order in which the
check goes through the sites: the members of the stacks by index and position, and then
for each item the stack it sits in, the stack it holds, and its membership.

* `violation?_eq_some_iff`: the check reports the fault at the first faulty site.
* `trustingCheck_eq`: a check that looks stacks up without asking first whether they
  are there gives the same answer, so it never looks up one that is not.
* `Violation.message_injective`: the words of a report say which violation it is.
-/

namespace InventorySearch

namespace Inventory

/-! ## Sites and their order -/

/-- A place in an inventory where a reference stands. -/
inductive Site where
  /-- A member of a stack, by its position. -/
  | member (s : StackId) (position : Nat)
  /-- The stack that an item sits in. -/
  | inStack (id : ItemId)
  /-- The stack that an item holds. -/
  | holdsStack (id : ItemId)
  /-- The membership of an item in the stack that it sits in. -/
  | membership (id : ItemId)

namespace Site

/-- Stacks come before items, then the index counts, and then the place there. -/
def rank : Site → Nat × Nat × Nat
  | member s position => (0, s.index, position)
  | inStack id => (1, id.index, 0)
  | holdsStack id => (1, id.index, 1)
  | membership id => (1, id.index, 2)

/-- The order of the check. -/
def Before (a b : Site) : Prop :=
  a.rank.1 < b.rank.1 ∨ a.rank.1 = b.rank.1 ∧
    (a.rank.2.1 < b.rank.2.1 ∨ a.rank.2.1 = b.rank.2.1 ∧ a.rank.2.2 < b.rank.2.2)

/-- The item that a site belongs to, if it is not a stack. -/
def item? : Site → Option ItemId
  | member .. => none
  | inStack id | holdsStack id | membership id => some id

theorem rank_injective {a b : Site} (h : a.rank = b.rank) : a = b := by
  obtain ⟨⟨i⟩, p⟩ | ⟨⟨i⟩⟩ | ⟨⟨i⟩⟩ | ⟨⟨i⟩⟩ := a <;>
    obtain ⟨⟨j⟩, q⟩ | ⟨⟨j⟩⟩ | ⟨⟨j⟩⟩ | ⟨⟨j⟩⟩ := b <;> simp_all [rank]

/-- Any two sites stand in one order or the other. -/
theorem before_trichotomy (a b : Site) : a.Before b ∨ a = b ∨ b.Before a := by
  by_cases h : a.rank = b.rank
  · exact .inr (.inl (rank_injective h))
  · simp only [Prod.ext_iff] at h
    unfold Before
    omega

end Site

/-- The reference at a site is wrong, and this is the violation. -/
inductive IsFaulty (inv : Inventory) : Site → Violation → Prop where
  /-- A stack lists an item that is not there. -/
  | member {s : StackId} {stack : Stack} {position : Nat} {id : ItemId}
      (hstack : inv.stack? s = some stack) (hmember : stack.members[position]? = some id)
      (hid : inv.entries.length ≤ id.index) :
      inv.IsFaulty (.member s position) (.unknownMember s id)
  /-- An item sits in a stack that is not there. -/
  | inStack {id : ItemId} {s : StackId} (hsits : inv.SitsIn id s)
      (hs : inv.allStacks.length ≤ s.index) : inv.IsFaulty (.inStack id) (.unknownStack id s)
  /-- An item holds a stack that is not there. -/
  | holdsStack {id : ItemId} {s : StackId} (hholds : inv.Holds id s)
      (hs : inv.allStacks.length ≤ s.index) : inv.IsFaulty (.holdsStack id) (.unknownStack id s)
  /-- An item sits in a stack that does not list it. -/
  | membership {id : ItemId} {s : StackId} (hsits : inv.SitsIn id s) (hlists : ¬inv.Lists s id) :
      inv.IsFaulty (.membership id) (.unlistedMember id s)

/-- The reference at a site is wrong, and none before it is. -/
def IsFirstFault (inv : Inventory) (site : Site) (violation : Violation) : Prop :=
  inv.IsFaulty site violation ∧ ∀ earlier other, earlier.Before site → ¬inv.IsFaulty earlier other

variable {inv : Inventory} {site site' : Site} {violation violation' : Violation} {id : ItemId}
  {entry : Entry} {s : StackId} {stack : Stack}

theorem IsFaulty.unique (h : inv.IsFaulty site violation) (h' : inv.IsFaulty site violation') :
    violation = violation' := by
  cases h with
  | member hstack hmember hid =>
    cases h' with
    | member hstack' hmember' hid' =>
      obtain rfl := Option.some.inj (hstack.symm.trans hstack')
      obtain rfl := Option.some.inj (hmember.symm.trans hmember')
      rfl
  | inStack hsits hs =>
    cases h' with
    | inStack hsits' hs' => rw [hsits.unique hsits']
  | holdsStack hholds hs =>
    cases h' with
    | holdsStack hholds' hs' => rw [hholds.unique hholds']
  | membership hsits hlists =>
    cases h' with
    | membership hsits' hlists' => rw [hsits.unique hsits']

theorem IsFirstFault.unique (h : inv.IsFirstFault site violation)
    (h' : inv.IsFirstFault site' violation') : violation = violation' := by
  rcases site.before_trichotomy site' with hbefore | rfl | hafter
  · exact absurd h.1 (h'.2 site violation hbefore)
  · exact h.1.unique h'.1
  · exact absurd h'.1 (h.2 site' violation' hafter)

/-- A valid inventory has no faulty site. -/
theorem IsValid.not_isFaulty (h : inv.IsValid) : ¬inv.IsFaulty site violation := by
  obtain ⟨hmember, hin, hholds, hlisted⟩ := isValid_iff.1 h
  intro hfaulty
  cases hfaulty with
  | member hstack hmem hid =>
    exact Nat.not_lt.2 hid (hmember _ _ ⟨_, hstack, List.mem_of_getElem? hmem⟩)
  | inStack hsits hs => exact Nat.not_lt.2 hs (hin _ _ hsits)
  | holdsStack hs hlength => exact Nat.not_lt.2 hlength (hholds _ _ hs)
  | membership hsits hlists => exact hlists (hlisted _ _ hsits)

/-! ## The parts of the check -/

/-- A search through a list with indices gives what the first find gives. -/
theorem exists_of_findSome?_zipIdx {α β : Type} {l : List α} {f : α × Nat → Option β} {b : β}
    (h : l.zipIdx.findSome? f = some b) :
    ∃ index x, l[index]? = some x ∧ f (x, index) = some b ∧
      ∀ j < index, ∀ y, l[j]? = some y → f (y, j) = none := by
  obtain ⟨before, found, after, hsplit, hfound, hbefore⟩ := List.findSome?_eq_some_iff.1 h
  have hat : l.zipIdx[before.length]? = some found := by simp [hsplit]
  rw [List.getElem?_zipIdx, Option.map_eq_some_iff] at hat
  obtain ⟨x, hx, rfl⟩ := hat
  rw [Nat.zero_add] at hfound
  refine ⟨before.length, x, hx, hfound, ?_⟩
  intro j hj y hy
  have hy' : l.zipIdx[j]? = some (y, j) := by simp [List.getElem?_zipIdx, hy]
  rw [hsplit, List.getElem?_append_left hj] at hy'
  exact hbefore (y, j) (List.mem_of_getElem? hy')

theorem exists_of_stackViolation? (hstack : inv.stack? s = some stack)
    (h : inv.stackViolation? s stack = some violation) :
    ∃ position, inv.IsFaulty (.member s position) violation ∧
      ∀ earlier < position, ∀ other, ¬inv.IsFaulty (.member s earlier) other := by
  obtain ⟨id, hfind, rfl⟩ := Option.map_eq_some_iff.1 h
  obtain ⟨hid, position, hposition, hmember, hbefore⟩ := List.find?_eq_some_iff_getElem.1 hfind
  refine ⟨position, .member hstack ?_ (by simpa using hid), ?_⟩
  · rw [List.getElem?_eq_getElem hposition, hmember]
  · intro earlier hearlier other hfaulty
    cases hfaulty with
    | member hstack' hmember' hid' =>
      obtain rfl := Option.some.inj (hstack.symm.trans hstack')
      obtain ⟨hlength, rfl⟩ := List.getElem?_eq_some_iff.1 hmember'
      have hknown := hbefore earlier hearlier
      simp only [Bool.not_eq_true', decide_eq_false_iff_not] at hknown
      exact hknown hid'

theorem not_isFaulty_member (hstack : inv.stack? s = some stack)
    (h : inv.stackViolation? s stack = none) (position : Nat) (other : Violation) :
    ¬inv.IsFaulty (.member s position) other := by
  intro hfaulty
  cases hfaulty with
  | member hstack' hmember hid =>
    obtain rfl := Option.some.inj (hstack.symm.trans hstack')
    exact Nat.not_lt.2 hid (stackViolation?_eq_none_iff.1 h _ (List.mem_of_getElem? hmember))

theorem referenceViolation?_eq_some_iff {reference : Option StackId} :
    inv.referenceViolation? id reference = some violation ↔
      ∃ s, reference = some s ∧ inv.allStacks.length ≤ s.index ∧
        .unknownStack id s = violation := by
  simp [referenceViolation?, and_assoc]

theorem isFaulty_inStack_iff (hentry : inv.entry? id = some entry) :
    inv.IsFaulty (.inStack id) violation ↔
      inv.referenceViolation? id entry.inStack = some violation := by
  rw [referenceViolation?_eq_some_iff]
  constructor
  · intro h
    cases h with
    | inStack hsits hs => exact ⟨_, (sitsIn_iff_of_entry hentry).1 hsits, hs, rfl⟩
  · rintro ⟨s, hin, hs, rfl⟩
    exact .inStack ⟨entry, hentry, hin⟩ hs

theorem isFaulty_holdsStack_iff (hentry : inv.entry? id = some entry) :
    inv.IsFaulty (.holdsStack id) violation ↔
      inv.referenceViolation? id entry.holdsStack = some violation := by
  rw [referenceViolation?_eq_some_iff]
  constructor
  · intro h
    cases h with
    | holdsStack hholds hs => exact ⟨_, (holds_iff_of_entry hentry).1 hholds, hs, rfl⟩
  · rintro ⟨s, hholds, hs, rfl⟩
    exact .holdsStack ⟨entry, hentry, hholds⟩ hs

/-- The membership of an item is at fault when the check says so, provided that the stack it sits
in is there.  A stack that is not there lists nobody, but the check has reported that before. -/
theorem isFaulty_membership_iff (hentry : inv.entry? id = some entry)
    (hin : inv.referenceViolation? id entry.inStack = none) :
    inv.IsFaulty (.membership id) violation ↔
      inv.membershipViolation? id entry = some violation := by
  rw [referenceViolation?_eq_none_iff] at hin
  unfold membershipViolation?
  cases hs : entry.inStack with
  | none =>
    refine iff_of_false ?_ (by simp)
    intro h
    cases h with
    | membership hsits hlists =>
      exact absurd (hs.symm.trans ((sitsIn_iff_of_entry hentry).1 hsits)) (by simp)
  | some s =>
    obtain ⟨stack, hstack⟩ := stack?_eq_some_of_lt (hin s hs)
    have hlists : inv.Lists s id ↔ id ∈ stack.members := lists_iff_of_stack hstack
    simp only [Option.bind_eq_bind, Option.bind_some, hstack]
    constructor
    · intro h
      cases h with
      | membership hsits hnot =>
        obtain rfl := Option.some.inj (hs.symm.trans ((sitsIn_iff_of_entry hentry).1 hsits))
        rw [hlists] at hnot
        exact if_neg hnot
    · intro h
      by_cases hmem : id ∈ stack.members
      · simp [hmem] at h
      · rw [if_neg hmem] at h
        obtain rfl := Option.some.inj h
        exact .membership ⟨entry, hentry, hs⟩ (mt hlists.1 hmem)

/-- Whoever is at fault is there. -/
theorem IsFaulty.exists_entry (h : inv.IsFaulty site violation) (hid : site.item? = some id) :
    ∃ entry, inv.entry? id = some entry := by
  cases h with
  | member => exact absurd hid (by simp [Site.item?])
  | inStack hsits | membership hsits =>
    obtain rfl := Option.some.inj hid
    obtain ⟨entry, hentry, -⟩ := hsits
    exact ⟨entry, hentry⟩
  | holdsStack hholds =>
    obtain rfl := Option.some.inj hid
    obtain ⟨entry, hentry, -⟩ := hholds
    exact ⟨entry, hentry⟩

theorem not_isFaulty_of_entryViolation? (hentry : inv.entry? id = some entry)
    (h : inv.entryViolation? id entry = none) (hid : site.item? = some id) :
    ¬inv.IsFaulty site violation := by
  rw [entryViolation?, Option.or_eq_none_iff, Option.or_eq_none_iff] at h
  obtain ⟨hin, hholds, hmembership⟩ := h
  intro hfaulty
  cases site with
  | member => exact absurd hid (by simp [Site.item?])
  | inStack =>
    obtain rfl := Option.some.inj hid
    exact absurd ((isFaulty_inStack_iff hentry).1 hfaulty) (by simp [hin])
  | holdsStack =>
    obtain rfl := Option.some.inj hid
    exact absurd ((isFaulty_holdsStack_iff hentry).1 hfaulty) (by simp [hholds])
  | membership =>
    obtain rfl := Option.some.inj hid
    exact absurd ((isFaulty_membership_iff hentry hin).1 hfaulty) (by simp [hmembership])

/-- The violation of an entry is the fault at the first of its three sites that has one. -/
theorem exists_of_entryViolation? (hentry : inv.entry? id = some entry)
    (h : inv.entryViolation? id entry = some violation) :
    ∃ site : Site, site.item? = some id ∧ inv.IsFaulty site violation ∧
      ∀ earlier other, earlier.item? = some id → earlier.Before site →
        ¬inv.IsFaulty earlier other := by
  rw [entryViolation?, Option.or_eq_some_iff] at h
  rcases h with hin | ⟨hin, h⟩
  · refine ⟨.inStack id, rfl, (isFaulty_inStack_iff hentry).2 hin, ?_⟩
    intro earlier other hid hbefore
    cases earlier <;> simp_all [Site.item?, Site.Before, Site.rank]
  · have hnotIn : ∀ other, ¬inv.IsFaulty (.inStack id) other := by
      intro other hfaulty
      exact absurd ((isFaulty_inStack_iff hentry).1 hfaulty) (by simp [hin])
    rcases Option.or_eq_some_iff.1 h with hholds | ⟨hholds, hmembership⟩
    · refine ⟨.holdsStack id, rfl, (isFaulty_holdsStack_iff hentry).2 hholds, ?_⟩
      intro earlier other hid hbefore
      cases earlier <;> simp_all [Site.item?, Site.Before, Site.rank]
    · have hnotHolds : ∀ other, ¬inv.IsFaulty (.holdsStack id) other := by
        intro other hfaulty
        exact absurd ((isFaulty_holdsStack_iff hentry).1 hfaulty) (by simp [hholds])
      refine ⟨.membership id, rfl, (isFaulty_membership_iff hentry hin).2 hmembership, ?_⟩
      intro earlier other hid hbefore
      cases earlier <;> simp_all [Site.item?, Site.Before, Site.rank]

/-! ## The whole check -/

theorem exists_isFirstFault_of_stacks
    (h : (inv.allStacks.zipIdx.findSome? fun (stack, index) =>
      inv.stackViolation? ⟨index⟩ stack) = some violation) :
    ∃ site, inv.IsFirstFault site violation := by
  obtain ⟨index, stack, hstack, hviolation, hbefore⟩ := exists_of_findSome?_zipIdx h
  obtain ⟨position, hfaulty, hfirst⟩ := exists_of_stackViolation? (s := ⟨index⟩) hstack hviolation
  refine ⟨.member ⟨index⟩ position, hfaulty, ?_⟩
  intro earlier other hearlier hother
  cases hother with
  | @member t stack' p id hstack' hmember hid =>
    simp only [Site.Before, Site.rank, Nat.lt_irrefl, true_and, false_or] at hearlier
    rcases hearlier with hlt | ⟨heq, hlt⟩
    · exact not_isFaulty_member hstack' (hbefore t.index hlt stack' hstack') p _
        (.member hstack' hmember hid)
    · obtain rfl : t = ⟨index⟩ := congrArg StackId.mk heq
      exact hfirst p hlt _ (.member hstack' hmember hid)
  | inStack | holdsStack | membership => simp [Site.Before, Site.rank] at hearlier

theorem exists_isFirstFault_of_entries
    (hstacks : (inv.allStacks.zipIdx.findSome? fun (stack, index) =>
      inv.stackViolation? ⟨index⟩ stack) = none)
    (h : (inv.entries.zipIdx.findSome? fun (entry, index) =>
      inv.entryViolation? ⟨index⟩ entry) = some violation) :
    ∃ site, inv.IsFirstFault site violation := by
  obtain ⟨index, entry, hentry, hviolation, hbefore⟩ := exists_of_findSome?_zipIdx h
  have hentry' : inv.entry? ⟨index⟩ = some entry := hentry
  obtain ⟨site, hsite, hfaulty, hfirst⟩ := exists_of_entryViolation? hentry' hviolation
  refine ⟨site, hfaulty, ?_⟩
  intro earlier other hearlier hother
  -- An earlier site belongs to a stack, to an entry before this one, or to this entry.
  cases hid : earlier.item? with
  | none =>
    cases hother with
    | member hstack hmember hlength =>
      exact not_isFaulty_member hstack
        (findSome?_zipIdx_eq_none_iff.1 hstacks _ _ hstack) _ _ (.member hstack hmember hlength)
    | inStack | holdsStack | membership => exact absurd hid (by simp [Site.item?])
  | some id =>
    obtain ⟨other', hother'⟩ := hother.exists_entry hid
    have hindex : id.index < index ∨ id = ⟨index⟩ := by
      obtain ⟨i⟩ := id
      cases earlier <;> cases site <;>
        simp_all [Site.item?, Site.Before, Site.rank]
    rcases hindex with hlt | rfl
    · exact not_isFaulty_of_entryViolation? hother' (hbefore id.index hlt other' hother') hid hother
    · exact hfirst earlier other hid hearlier hother

/-- The check reports the fault at the first faulty site. -/
theorem violation?_eq_some_iff :
    inv.violation? = some violation ↔ ∃ site, inv.IsFirstFault site violation := by
  have hfirst : ∀ {found}, inv.violation? = some found → ∃ site, inv.IsFirstFault site found := by
    intro found h
    rcases Option.or_eq_some_iff.1 h with hstacks | ⟨hstacks, hentries⟩
    · exact exists_isFirstFault_of_stacks hstacks
    · exact exists_isFirstFault_of_entries hstacks hentries
  constructor
  · exact hfirst
  · intro h
    obtain ⟨site, hsite⟩ := h
    cases hfound : inv.violation? with
    | none => exact absurd hsite.1 (violation?_eq_none_iff.1 hfound).not_isFaulty
    | some found =>
      obtain ⟨site', hsite'⟩ := hfirst hfound
      rw [hsite.unique hsite']

/-! ## Looking up without asking -/

/-- What ends a check early: a look-up of a stack that is not there, or a violation. -/
inductive Interruption where
  | outOfRange (s : StackId)
  | violation (violation : Violation)

/-- Goes on if there is nothing to report. -/
def report : Option Violation → Except Interruption Unit
  | none => .ok ()
  | some violation => .error (.violation violation)

/-- The stack at an index that is taken to lead to one. -/
def stackAt (inv : Inventory) (s : StackId) : Except Interruption Stack :=
  match inv.stack? s with
  | some stack => .ok stack
  | none => .error (.outOfRange s)

/-- Checks an entry, and takes the stack that it sits in to be there. -/
def trustingEntryCheck (inv : Inventory) (id : ItemId) (entry : Entry) :
    Except Interruption Unit := do
  report (inv.referenceViolation? id entry.inStack)
  report (inv.referenceViolation? id entry.holdsStack)
  match entry.inStack with
  | none => return ()
  | some s =>
    let stack ← inv.stackAt s
    report (if id ∈ stack.members then none else some (.unlistedMember id s))

/-- Checks the stacks and then the entries. -/
def trustingCheck (inv : Inventory) : Except Interruption Unit := do
  forM inv.allStacks.zipIdx fun (stack, index) => report (inv.stackViolation? ⟨index⟩ stack)
  forM inv.entries.zipIdx fun (entry, index) => inv.trustingEntryCheck ⟨index⟩ entry

theorem report_or (first second : Option Violation) :
    report (first.or second) = (report first).bind fun _ => report second := by
  cases first <;> rfl

/-- Reports in a row are one report of the first find. -/
theorem forM_report {α : Type} (l : List α) (f : α → Option Violation) :
    (forM l fun x => report (f x)) = report (l.findSome? f) := by
  induction l with
  | nil => rfl
  | cons x l ih =>
    rw [List.forM_cons, ih, List.findSome?_cons]
    cases f x <;> rfl

/-- The look-up is only made when the stack is known to be there. -/
theorem trustingEntryCheck_eq (inv : Inventory) (id : ItemId) (entry : Entry) :
    inv.trustingEntryCheck id entry = report (inv.entryViolation? id entry) := by
  rw [entryViolation?, report_or, report_or]
  unfold trustingEntryCheck
  cases hin : inv.referenceViolation? id entry.inStack with
  | some violation => rfl
  | none =>
    cases hholds : inv.referenceViolation? id entry.holdsStack with
    | some violation => rfl
    | none =>
      cases hs : entry.inStack with
      | none => simp [membershipViolation?, hs, report, Except.bind, bind, pure, Except.pure]
      | some s =>
        obtain ⟨stack, hstack⟩ := stack?_eq_some_of_lt (referenceViolation?_eq_none_iff.1 hin s hs)
        simp [membershipViolation?, hs, hstack, stackAt, report, Except.bind, bind]

/-- The check never looks up a stack that is not there. -/
theorem trustingCheck_eq (inv : Inventory) : inv.trustingCheck = report inv.violation? := by
  rw [violation?, report_or, ← forM_report, ← forM_report]
  simp only [← trustingEntryCheck_eq]
  rfl

end Inventory

/-! ## Reports -/

theorem Text.numeral_injective {m n : Nat} (h : numeral m = numeral n) : m = n := by
  rw [← numeralValue_numeral m, h, numeralValue_numeral]

/-- The number in a text ends where a blank follows. -/
theorem Text.numeral_append_blank_injective {m n : Nat} {s t : List Char}
    (h : numeral m ++ ' ' :: s = numeral n ++ ' ' :: t) : m = n ∧ s = t := by
  have hspan : ∀ k (rest : List Char),
      (numeral k ++ ' ' :: rest).span Char.isDigit = (numeral k, ' ' :: rest) := by
    intro k rest
    refine span_append (fun c hc => isDigit_of_mem_numeral hc) ?_
    intro c hc
    obtain rfl : ' ' = c := Option.some.inj hc
    rfl
  have hparts := hspan m s
  rw [h, hspan n t, Prod.mk.injEq, List.cons.injEq] at hparts
  obtain ⟨hnumeral, -, hrest⟩ := hparts
  exact ⟨numeral_injective hnumeral.symm, hrest.symm⟩

namespace Violation

theorem toList_message_unknownMember (s : StackId) (id : ItemId) :
    (unknownMember s id).message.toList = "stack s".toList ++
      (Text.numeral s.index ++
        ' ' :: ("lists unknown item #".toList ++ Text.numeral id.index)) := by
  simp [message, StackId.label, ItemId.label]

theorem toList_message_unknownStack (id : ItemId) (s : StackId) :
    (unknownStack id s).message.toList = "item #".toList ++
      (Text.numeral id.index ++
        ' ' :: ("refers to unknown stack s".toList ++ Text.numeral s.index)) := by
  simp [message, StackId.label, ItemId.label]

theorem toList_message_unlistedMember (id : ItemId) (s : StackId) :
    (unlistedMember id s).message.toList = "item #".toList ++
      (Text.numeral id.index ++ ' ' :: ("claims stack s".toList ++
        (Text.numeral s.index ++ ' ' :: "but is not one of its members".toList))) := by
  simp [message, StackId.label, ItemId.label]

variable {id id' : ItemId} {s t : StackId}

theorem message_unknownMember_ne_unknownStack :
    (unknownMember s id).message ≠ (unknownStack id' t).message := by
  intro h
  have hlist := congrArg String.toList h
  rw [toList_message_unknownMember, toList_message_unknownStack] at hlist
  exact absurd hlist (by simp)

theorem message_unknownMember_ne_unlistedMember :
    (unknownMember s id).message ≠ (unlistedMember id' t).message := by
  intro h
  have hlist := congrArg String.toList h
  rw [toList_message_unknownMember, toList_message_unlistedMember] at hlist
  exact absurd hlist (by simp)

theorem message_unknownStack_ne_unlistedMember :
    (unknownStack id s).message ≠ (unlistedMember id' t).message := by
  intro h
  have hlist := congrArg String.toList h
  rw [toList_message_unknownStack, toList_message_unlistedMember, List.append_right_inj] at hlist
  exact absurd (Text.numeral_append_blank_injective hlist).2 (by simp)

/-- The words say what is wrong and where. -/
theorem message_injective {v w : Violation} (h : v.message = w.message) : v = w := by
  have hlist := congrArg String.toList h
  obtain ⟨⟨i⟩, ⟨j⟩⟩ | ⟨⟨i⟩, ⟨j⟩⟩ | ⟨⟨i⟩, ⟨j⟩⟩ := v
  case unknownMember =>
    cases w with
    | unknownMember =>
      rw [toList_message_unknownMember, toList_message_unknownMember,
        List.append_right_inj] at hlist
      obtain ⟨rfl, hrest⟩ := Text.numeral_append_blank_injective hlist
      obtain rfl := Text.numeral_injective (List.append_right_inj _ |>.1 hrest)
      rfl
    | unknownStack => exact absurd h message_unknownMember_ne_unknownStack
    | unlistedMember => exact absurd h message_unknownMember_ne_unlistedMember
  case unknownStack =>
    cases w with
    | unknownMember => exact absurd h.symm message_unknownMember_ne_unknownStack
    | unknownStack =>
      rw [toList_message_unknownStack, toList_message_unknownStack,
        List.append_right_inj] at hlist
      obtain ⟨rfl, hrest⟩ := Text.numeral_append_blank_injective hlist
      obtain rfl := Text.numeral_injective (List.append_right_inj _ |>.1 hrest)
      rfl
    | unlistedMember => exact absurd h message_unknownStack_ne_unlistedMember
  case unlistedMember =>
    cases w with
    | unknownMember => exact absurd h.symm message_unknownMember_ne_unlistedMember
    | unknownStack => exact absurd h.symm message_unknownStack_ne_unlistedMember
    | unlistedMember =>
      rw [toList_message_unlistedMember, toList_message_unlistedMember,
        List.append_right_inj] at hlist
      obtain ⟨rfl, hrest⟩ := Text.numeral_append_blank_injective hlist
      rw [List.append_right_inj] at hrest
      obtain ⟨rfl, -⟩ := Text.numeral_append_blank_injective hrest
      rfl

end Violation

/-- So do the words of the failure to accept a snapshot. -/
theorem Failure.invalidSnapshot_message_injective {v w : Violation}
    (h : (invalidSnapshot v).message = (invalidSnapshot w).message) : v = w :=
  Violation.message_injective ((String.append_right_inj "Invalid snapshot: ").1 h)

end InventorySearch
