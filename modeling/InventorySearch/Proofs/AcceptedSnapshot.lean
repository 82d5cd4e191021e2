import InventorySearch.Proofs.FirstViolation
import InventorySearch.Proofs.SnapshotRoundTrip

/-!
# Accepted snapshots

What can be relied on in the inventory of a snapshot that has been accepted.

* `LookUpsResolve` collects what the look-ups promise then: a reference leads to a stack,
  the stack that an item sits in lists it, and whatever a stack lists is there.
* The check asks for the record of membership in one direction only.  So the listed
  members of a stack need not light up together, and
  `lightsUp_eq_of_listed_and_governed` says which of them do.
-/

namespace InventorySearch.Inventory

variable {inv : Inventory} {id : ItemId} {s : StackId} {stack : Stack}

/-! ## Look-ups -/

/-- Where a reference of an item leads. -/
theorem bind_stack?_eq_some_iff (reference : Entry → Option StackId) :
    ((inv.entry? id).bind fun entry => (reference entry).bind inv.stack?) = some stack ↔
      ∃ s, (∃ entry, inv.entry? id = some entry ∧ reference entry = some s) ∧
        inv.stack? s = some stack := by
  simp only [Option.bind_eq_some_iff]
  constructor
  · rintro ⟨entry, hentry, s, hs, hstack⟩
    exact ⟨s, ⟨entry, hentry, hs⟩, hstack⟩
  · rintro ⟨s, ⟨entry, hentry, hs⟩, hstack⟩
    exact ⟨entry, hentry, s, hs, hstack⟩

theorem parentStack?_eq_some_iff :
    inv.parentStack? id = some stack ↔ ∃ s, inv.SitsIn id s ∧ inv.stack? s = some stack :=
  bind_stack?_eq_some_iff Entry.inStack

theorem heldStack?_eq_some_iff :
    inv.heldStack? id = some stack ↔ ∃ s, inv.Holds id s ∧ inv.stack? s = some stack :=
  bind_stack?_eq_some_iff Entry.holdsStack

/-- A look-up finds a stack exactly for a reference, if all such references are within range. -/
theorem isSome_iff_exists_reference {found : Option Stack} {Refers : StackId → Prop}
    (hfound : ∀ stack, found = some stack ↔ ∃ s, Refers s ∧ inv.stack? s = some stack)
    (hlt : ∀ s, Refers s → s.index < inv.allStacks.length) :
    found.isSome = true ↔ ∃ s, Refers s := by
  rw [Option.isSome_iff_exists]
  constructor
  · rintro ⟨stack, hstack⟩
    obtain ⟨s, hs, -⟩ := (hfound stack).1 hstack
    exact ⟨s, hs⟩
  · rintro ⟨s, hs⟩
    obtain ⟨stack, hstack⟩ := stack?_eq_some_of_lt (hlt s hs)
    exact ⟨stack, (hfound stack).2 ⟨s, hs, hstack⟩⟩

/-- The look-ups of an inventory lead somewhere. -/
structure LookUpsResolve (inv : Inventory) : Prop where
  /-- An item that sits in a stack has that stack, and no other item has one. -/
  parentStack?_isSome : ∀ id, (inv.parentStack? id).isSome = true ↔ ∃ s, inv.SitsIn id s
  /-- The same for the stack that an item holds. -/
  heldStack?_isSome : ∀ id, (inv.heldStack? id).isSome = true ↔ ∃ s, inv.Holds id s
  /-- The stack that an item sits in lists the item. -/
  mem_parentStack? : ∀ id stack, inv.parentStack? id = some stack → id ∈ stack.members
  /-- Whatever a stack lists is there. -/
  item?_isSome : ∀ s stack, inv.stack? s = some stack →
    ∀ member ∈ stack.members, (inv.item? member).isSome = true

theorem IsValid.lookUpsResolve (h : inv.IsValid) : inv.LookUpsResolve := by
  obtain ⟨hmember, hin, hholds, hlisted⟩ := isValid_iff.1 h
  refine ⟨?_, ?_, ?_, ?_⟩
  · intro id
    exact isSome_iff_exists_reference (fun _ => parentStack?_eq_some_iff) (hin id)
  · intro id
    exact isSome_iff_exists_reference (fun _ => heldStack?_eq_some_iff) (hholds id)
  · intro id stack hparent
    obtain ⟨s, hsits, hstack⟩ := parentStack?_eq_some_iff.1 hparent
    exact (lists_iff_of_stack hstack).1 (hlisted id s hsits)
  · intro s stack hstack member hmem
    have hlt := hmember s member ⟨stack, hstack, hmem⟩
    simp [item?, entry?, hlt]

/-! ## The answer of the check -/

theorem isValid_of_ofSnapshot {format : SnapshotFormat} {text : String}
    (h : ofSnapshot format text = .ok inv) : inv.IsValid :=
  violation?_eq_none_iff.1 (violation?_of_ofSnapshot h)

/-- The check of an inventory finds nothing exactly if all references lead somewhere and whoever
sits in a stack is listed there.  It never looks up a stack that is not there, and what it reports
is the fault at the first faulty site, in words that only fit this violation.  A text is answered
accordingly: the report becomes the failure, and in an inventory that is accepted all look-ups
resolve. -/
theorem check_reports_first_fault :
    (∀ inv : Inventory,
      (inv.violation? = none ↔
        (∀ s id, inv.Lists s id → id.index < inv.entries.length) ∧
          (∀ id s, inv.SitsIn id s → s.index < inv.allStacks.length) ∧
            (∀ id s, inv.Holds id s → s.index < inv.allStacks.length) ∧
              ∀ id s, inv.SitsIn id s → inv.Lists s id) ∧
      inv.trustingCheck = report inv.violation? ∧
      ∀ violation, inv.violation? = some violation ↔
        ∃ site, inv.IsFirstFault site violation) ∧
    (∀ v w : Violation,
      (Failure.invalidSnapshot v).message = (Failure.invalidSnapshot w).message → v = w) ∧
    ∀ format text inv,
      (∀ violation, ofText? format text = some inv → inv.violation? = some violation →
        ofSnapshot format text = .error (.invalidSnapshot violation)) ∧
      (ofSnapshot format text = .ok inv → inv.LookUpsResolve) := by
  refine ⟨?_, ?_, ?_⟩
  · intro inv
    exact ⟨violation?_eq_none_iff.trans isValid_iff, trustingCheck_eq inv,
      fun violation => violation?_eq_some_iff⟩
  · intro v w h
    exact Failure.invalidSnapshot_message_injective h
  · intro format text inv
    refine ⟨?_, ?_⟩
    · intro violation htext hviolation
      simp [ofSnapshot, htext, hviolation]
    · intro h
      exact (isValid_of_ofSnapshot h).lookUpsResolve

/-- A box that holds the stack of a nail is read and accepted, and its look-up leads to the nail. -/
theorem box_of_nail_resolves :
    let box : Item := { name := some "Box" }
    let nail : Item := { name := some "Nail" }
    let inv : Inventory :=
      ⟨[⟨box, none, some ⟨0⟩⟩, ⟨nail, some ⟨0⟩, none⟩], [⟨[⟨1⟩]⟩]⟩
    ofSnapshot .json (inv.toJson.render .compact) = .ok inv ∧ inv.LookUpsResolve := by
  intro box nail inv
  have haccepted : ofSnapshot .json (inv.toJson.render .compact) = .ok inv :=
    ofSnapshot_render_compact (by decide)
      (by simp [numbers, inv, box, nail, Item.numbers]) (by decide) (by decide) (by decide)
  exact ⟨haccepted, (check_reports_first_fault.2.2 .json _ inv).2 haccepted⟩

/-! ## Listed members -/

/-- The listed members of a stack do not always light up together, not even if one of them sits in
it: a plank is listed with an iron bar, but says nothing of a stack itself. -/
theorem plank_stays_dark :
    let bar : Item := { name := some "Iron Bar" }
    let plank : Item := { name := some "Plank" }
    let inv : Inventory :=
      ⟨[⟨bar, some ⟨0⟩, none⟩, ⟨plank, none, none⟩], [⟨[⟨0⟩, ⟨1⟩]⟩]⟩
    ofSnapshot .json (inv.toJson.render .compact) = .ok inv ∧
      inv.SitsIn ⟨0⟩ ⟨0⟩ ∧ inv.Lists ⟨0⟩ ⟨0⟩ ∧ inv.Lists ⟨0⟩ ⟨1⟩ ∧
        inv.highlighted .standard inv.ids "iron" = [⟨0⟩] := by
  intro bar plank inv
  have haccepted : ofSnapshot .json (inv.toJson.render .compact) = .ok inv :=
    ofSnapshot_render_compact (by decide)
      (by simp [numbers, inv, bar, plank, Item.numbers]) (by decide) (by decide) (by decide)
  refine ⟨haccepted, ⟨_, rfl, rfl⟩, ⟨_, rfl, by decide⟩, ⟨_, rfl, by decide⟩, ?_⟩
  decide +kernel

/-- In an inventory that is accepted, those listed members of a stack light up together that the
stack governs: the ones that sit in it, and the ones that sit in none and hold it.  A listed member
that refers to no stack can stay dark when they light up, but never the other way round. -/
theorem lightsUp_eq_of_listed_and_governed {format : SnapshotFormat} {text : String}
    (h : ofSnapshot format text = .ok inv) (s : StackId) (tolerance : Tolerance) (query : Query) :
    (∀ id id', inv.Lists s id → inv.Lists s id' → inv.IsGovernedBy id s → inv.IsGovernedBy id' s →
      inv.lightsUp tolerance query id = inv.lightsUp tolerance query id') ∧
    ∀ id id', inv.Lists s id → inv.IsLoose id → (∀ t, ¬inv.Holds id t) → inv.IsGovernedBy id' s →
      inv.lightsUp tolerance query id = true → inv.lightsUp tolerance query id' = true := by
  have hvalid := isValid_of_ofSnapshot h
  constructor
  · intro id id' _ _ hid hid'
    exact lightsUp_eq_of_isGovernedBy hvalid hid hid'
  · intro id id' hlists hloose hholds hid' hlit
    have hsatisfies : inv.satisfiesAt tolerance query id = true := by
      obtain ⟨entry, hentry, hin⟩ := hloose
      have hnone : entry.holdsStack = none := by
        rw [Option.eq_none_iff_forall_ne_some]
        intro t ht
        exact hholds t ⟨entry, hentry, ht⟩
      rwa [lightsUp_of_no_governor hvalid hentry (Entry.governor?_of_loose hin hnone)] at hlit
    obtain ⟨stack, hstack, hmem⟩ := hlists
    rw [lightsUp_iff_of_isGovernedBy hvalid hid']
    exact ⟨stack, hstack, id, hmem, hsatisfies⟩

/-- An iron bar and a bronze bar sit in a stack that also lists a plank: the two bars light up
together, and they do so whenever the plank does. -/
theorem bars_light_up_together :
    let named (name : String) : Item := { name := some name }
    let inv : Inventory :=
      ⟨[⟨named "Iron Bar", some ⟨0⟩, none⟩, ⟨named "Bronze Bar", some ⟨0⟩, none⟩,
        ⟨named "Plank", none, none⟩], [⟨[⟨0⟩, ⟨1⟩, ⟨2⟩]⟩]⟩
    ofSnapshot .json (inv.toJson.render .compact) = .ok inv ∧
      ∀ tolerance query, inv.lightsUp tolerance query ⟨0⟩ = inv.lightsUp tolerance query ⟨1⟩ ∧
        (inv.lightsUp tolerance query ⟨2⟩ = true → inv.lightsUp tolerance query ⟨0⟩ = true) := by
  intro named inv
  have haccepted : ofSnapshot .json (inv.toJson.render .compact) = .ok inv :=
    ofSnapshot_render_compact (by decide)
      (by simp [numbers, inv, named, Item.numbers]) (by decide) (by decide) (by decide)
  refine ⟨haccepted, ?_⟩
  intro tolerance query
  have hlists : ∀ id ∈ [(⟨0⟩ : ItemId), ⟨1⟩, ⟨2⟩], inv.Lists ⟨0⟩ id :=
    fun id hid => ⟨_, rfl, hid⟩
  have hiron : inv.SitsIn ⟨0⟩ ⟨0⟩ := ⟨_, rfl, rfl⟩
  have hbronze : inv.SitsIn ⟨1⟩ ⟨0⟩ := ⟨_, rfl, rfl⟩
  have hplank : inv.IsLoose ⟨2⟩ := ⟨_, rfl, rfl⟩
  have hholds : ∀ t, ¬inv.Holds ⟨2⟩ t := by
    intro t hholds
    obtain ⟨entry, hentry, ht⟩ := hholds
    obtain rfl := Option.some.inj hentry
    exact absurd ht (by simp)
  obtain ⟨htogether, hfollow⟩ := lightsUp_eq_of_listed_and_governed haccepted ⟨0⟩ tolerance query
  exact ⟨htogether ⟨0⟩ ⟨1⟩ (hlists _ (by simp)) (hlists _ (by simp)) (.inl hiron) (.inl hbronze),
    hfollow ⟨2⟩ ⟨0⟩ (hlists _ (by simp)) hplank hholds (.inl hiron)⟩

end InventorySearch.Inventory
