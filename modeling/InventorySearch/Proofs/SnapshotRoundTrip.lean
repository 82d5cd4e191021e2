import InventorySearch.CommandLine.Report
import InventorySearch.Proofs.ItemRoundTrip
import InventorySearch.Proofs.ValidInventory

/-!
# Snapshots, written and read

The JSON text of an inventory reads back as the inventory (`Inventory.ofText?_render`).
What this needs is that the numbers are read back, that the indices are machine words, and
that the text is nested no deeper than the reader allows.  A valid inventory is then
also accepted (`Inventory.ofSnapshot_render`).

An infinity and what is not a number are written as nothing, so the numbers have to be
finite.  That is not enough for all of them to be read back, because a literal is rounded
more than once; `Inventory.ReadsBackNumbers` is what is left to ask of the reader.
-/

namespace InventorySearch

open Json

variable {room : Nat}

/-! ## Entries -/

/-- The JSON fields of the relations of an item to stacks. -/
def Entry.relationFields (entry : Entry) : List (String × Json) :=
  Json.optionalField "in_stack" (.ofNat ∘ StackId.index) entry.inStack
    ++ Json.optionalField "holds_stack" (.ofNat ∘ StackId.index) entry.holdsStack

theorem Entry.toJson_eq (entry : Entry) :
    entry.toJson = .ofFields (entry.item.jsonFields ++ entry.relationFields) := by
  rw [Entry.toJson, Entry.relationFields, List.append_assoc]

/-- The indices that an entry writes down are machine words. -/
def Entry.HasWordIndices (entry : Entry) : Prop :=
  (∀ s ∈ entry.inStack, s.index < power 2 64) ∧ ∀ s ∈ entry.holdsStack, s.index < power 2 64

theorem Entry.isWritable_toJson {entry : Entry} (h : ∀ x ∈ entry.item.numbers, x.IsReadBack)
    (hwords : entry.HasWordIndices) : entry.toJson.IsWritable := by
  rw [entry.toJson_eq, isWritable_ofFields_iff, Entry.relationFields]
  simp only [List.forall_mem_append]
  exact ⟨entry.item.isWritable_jsonFields h,
    isWritable_optionalField fun s hs => isWritable_ofNat (hwords.1 s hs),
    isWritable_optionalField fun s hs => isWritable_ofNat (hwords.2 s hs)⟩

/-- The reference under the key of a relation reads back. -/
theorem optional_toNat?_of_index {reference : Option StackId}
    (h : ∀ s ∈ reference, s.index < power 2 64) (room : Nat) :
    Value.optional Value.toNat?
        ((reference.map (Json.ofNat ∘ StackId.index)).map (toValueWithin room)) =
      some (reference.map StackId.index) := by
  rw [← Option.map_map Json.ofNat]
  refine Value.optional_map Value.toNat? _ room rfl ?_
  intro index hindex
  obtain ⟨s, hs, rfl⟩ := Option.map_eq_some_iff.1 hindex
  exact toNat?_ofNat (h s hs) room

theorem Entry.ofValue?_toJson {entry : Entry} (h : ∀ x ∈ entry.item.numbers, x.IsReadBack)
    (hwords : entry.HasWordIndices) (hroom : entry.toJson.nesting ≤ room) :
    Entry.ofValue? (toValueWithin room entry.toJson) = some entry := by
  obtain ⟨hreadable, hdepth⟩ :=
    isReadable_and_nesting_le entry.toJson room (Entry.isWritable_toJson h hwords) hroom
  rw [entry.toJson_eq] at hroom hreadable hdepth ⊢
  -- The item is read from the whole record, and the depth of that record has levels enough.
  have hitem := Item.ofValueWithin?_ofFields entry.item entry.relationFields room _ h
    (by simp [Item.keys, Entry.relationFields, filter_optionalField]) hroom hdepth
  obtain ⟨room, rfl⟩ := exists_room_of_ofFields hroom
  have hmember (key : String) (part : Option Json)
      (h : (entry.item.jsonFields ++ entry.relationFields).filter (fun field => field.1 = key) =
        part.toList.map (key, ·)) := member?_ofFields h room 0
  have hinStack := hmember "in_stack" (entry.inStack.map (.ofNat ∘ StackId.index))
    (by simp [Item.jsonFields_eq, Entry.relationFields, filter_optionalField])
  have hholdsStack := hmember "holds_stack" (entry.holdsStack.map (.ofNat ∘ StackId.index))
    (by simp [Item.jsonFields_eq, Entry.relationFields, filter_optionalField])
  obtain ⟨fields, hrecord⟩ : ∃ fields, toValueWithin (room + 1)
      (.ofFields (entry.item.jsonFields ++ entry.relationFields)) = .record fields :=
    ⟨_, toValueWithin_ofFields room _⟩
  rw [hrecord] at hreadable hitem hinStack hholdsStack ⊢
  have hid (reference : Option StackId) :
      (reference.map StackId.index).map StackId.mk = reference := by
    cases reference <;> rfl
  simp only [Entry.ofValue?, hreadable, Item.ofValue?, hitem, hinStack, hholdsStack,
    optional_toNat?_of_index hwords.1, optional_toNat?_of_index hwords.2, guard_true,
    Option.pure_def, Option.bind_eq_bind, Option.bind_some, hid]

/-! ## Stacks -/

/-- The indices that a stack writes down are machine words. -/
def Stack.HasWordIndices (stack : Stack) : Prop :=
  ∀ member ∈ stack.members, member.index < power 2 64

theorem Stack.isWritable_toJson {stack : Stack} (h : stack.HasWordIndices) :
    stack.toJson.IsWritable := by
  simpa [Stack.toJson, isWritable_ofFields_iff, isWritable_array_iff] using
    fun member hmember => isWritable_ofNat (h member hmember)

theorem Stack.ofValue?_toJson {stack : Stack} (h : stack.HasWordIndices)
    (hroom : stack.toJson.nesting ≤ room) :
    Stack.ofValue? false (toValueWithin room stack.toJson) = some stack := by
  rw [Stack.toJson] at hroom ⊢
  obtain ⟨room, rfl⟩ := exists_room_of_ofFields hroom
  have hmembers : Value.toList? Value.toNat?
      (toValueWithin room (.array (stack.members.map (.ofNat ∘ ItemId.index)))) =
        some (stack.members.map ItemId.index) := by
    rw [← List.map_map] at hroom ⊢
    refine Value.toList?_array (nesting_ofFields_le_iff.1 hroom ("members", _) (by simp)) ?_
    intro index hindex inner _
    obtain ⟨member, hmember, rfl⟩ := List.mem_map.1 hindex
    exact toNat?_ofNat (h member hmember) inner
  have hid : ItemId.mk ∘ ItemId.index = id := rfl
  rw [toValueWithin_ofFields]
  simp [Stack.ofValue?, Value.hasAtMost, Value.member?, Value.valueOfKey?, Value.required,
    hmembers, hid]

/-! ## Inventories -/

namespace Inventory

variable {inv : Inventory}

/-- The numbers of all items, at every depth. -/
def numbers (inv : Inventory) : List Binary64 := inv.entries.flatMap fun entry => entry.item.numbers

/-- All numbers are finite. -/
def IsFinite (inv : Inventory) : Prop := ∀ x ∈ inv.numbers, x.isFinite = true

/-- The finite ones among the numbers are read from the literals under which they are written. -/
def ReadsBackNumbers (inv : Inventory) : Prop := ∀ x ∈ inv.numbers, x.isFinite = true → x.IsReadBack

/-- Numbers with few digits and a small power of ten are read back. -/
theorem readsBackNumbers_of_isShort (h : ∀ x ∈ inv.numbers, x.IsShort) : inv.ReadsBackNumbers :=
  fun x hx _ => (h x hx).isReadBack

/-- All indices that are written down are machine words. -/
def HasWordIndices (inv : Inventory) : Prop :=
  (∀ entry ∈ inv.entries, entry.HasWordIndices) ∧ ∀ stack ∈ inv.allStacks, stack.HasWordIndices

theorem isWritable_toJson (h : ∀ x ∈ inv.numbers, x.IsReadBack) (hwords : inv.HasWordIndices) :
    inv.toJson.IsWritable := by
  rw [numbers, List.forall_mem_flatMap] at h
  simpa [toJson, isWritable_ofFields_iff, isWritable_array_iff] using
    And.intro (fun entry hentry => Entry.isWritable_toJson (h entry hentry) (hwords.1 entry hentry))
      fun stack hstack => Stack.isWritable_toJson (hwords.2 stack hstack)

theorem ofValue?_toJson (h : ∀ x ∈ inv.numbers, x.IsReadBack) (hwords : inv.HasWordIndices)
    (hroom : inv.toJson.nesting ≤ room) :
    ofValue? false (toValueWithin room inv.toJson) = some inv := by
  rw [numbers, List.forall_mem_flatMap] at h
  rw [toJson] at hroom ⊢
  obtain ⟨room, rfl⟩ := exists_room_of_ofFields hroom
  have hparts := nesting_ofFields_le_iff.1 hroom
  have hentries : Value.toList? Entry.ofValue?
      (toValueWithin room (.array (inv.entries.map Entry.toJson))) = some inv.entries :=
    Value.toList?_array (hparts ("items", _) (by simp)) fun entry hentry inner hinner =>
      Entry.ofValue?_toJson (h entry hentry) (hwords.1 entry hentry) hinner
  have hstacks : Value.toList? (Stack.ofValue? false)
      (toValueWithin room (.array (inv.allStacks.map Stack.toJson))) = some inv.allStacks :=
    Value.toList?_array (hparts ("stacks", _) (by simp)) fun stack hstack inner hinner =>
      Stack.ofValue?_toJson (hwords.2 stack hstack) hinner
  rw [toValueWithin_ofFields]
  simp [ofValue?, Value.hasAtMost, Value.member?, Value.valueOfKey?, Value.withDefault, hentries,
    hstacks]

/-- The indices of a valid inventory are machine words if its items and stacks can be counted so. -/
theorem IsValid.hasWordIndices (h : inv.IsValid) (hitems : inv.entries.length ≤ power 2 64)
    (hstacks : inv.allStacks.length ≤ power 2 64) : inv.HasWordIndices := by
  refine ⟨?_, ?_⟩
  · intro entry hmem
    obtain ⟨index, hentry⟩ := List.mem_iff_getElem?.1 hmem
    refine ⟨?_, ?_⟩
    · intro s hs
      exact Nat.lt_of_lt_of_le (h.inStack_lt ⟨index⟩ entry s hentry hs) hstacks
    · intro s hs
      exact Nat.lt_of_lt_of_le (h.holdsStack_lt ⟨index⟩ entry s hentry hs) hstacks
  · intro stack hmem member hmember
    obtain ⟨index, hstack⟩ := List.mem_iff_getElem?.1 hmem
    exact Nat.lt_of_lt_of_le (h.member_lt ⟨index⟩ stack hstack member hmember) hitems

/-- The JSON text of an inventory reads back as the inventory, with blanks behind it or none. -/
theorem ofText?_render (h : ∀ x ∈ inv.numbers, x.IsReadBack) (hwords : inv.HasWordIndices)
    (hnesting : inv.toJson.nesting ≤ nestingLimit) (layout : Layout) (blanks : List Char)
    (hblanks : ∀ c ∈ blanks, isBlankCharacter c = true) :
    ofText? .json (inv.toJson.render layout ++ String.ofList blanks) = some inv := by
  have hread := read?_render layout (isWritable_toJson h hwords) hblanks
  have hvalue := ofValue?_toJson h hwords hnesting
  simp [ofText?, SnapshotFormat.readValue?, SnapshotFormat.allowsSurplus, hread, toValue, hvalue]

/-- The JSON text of a valid inventory is accepted and reads back as the inventory. -/
theorem ofSnapshot_render (hvalid : inv.violation? = none)
    (h : ∀ x ∈ inv.numbers, x.IsReadBack) (hwords : inv.HasWordIndices)
    (hnesting : inv.toJson.nesting ≤ nestingLimit) (layout : Layout) (blanks : List Char)
    (hblanks : ∀ c ∈ blanks, isBlankCharacter c = true) :
    ofSnapshot .json (inv.toJson.render layout ++ String.ofList blanks) = .ok inv := by
  simp [ofSnapshot, ofText?_render h hwords hnesting layout blanks hblanks, hvalid]

/-- This is so for the text without blanks, unless the inventory is too large for machine words. -/
theorem ofSnapshot_render_compact (hvalid : inv.violation? = none)
    (h : ∀ x ∈ inv.numbers, x.IsReadBack) (hitems : inv.entries.length ≤ power 2 64)
    (hstacks : inv.allStacks.length ≤ power 2 64) (hnesting : inv.toJson.nesting ≤ nestingLimit) :
    ofSnapshot .json (inv.toJson.render .compact) = .ok inv := by
  have hwords := (violation?_eq_none_iff.1 hvalid).hasWordIndices hitems hstacks
  simpa using ofSnapshot_render hvalid h hwords hnesting .compact [] (by simp)

/-- Both texts of an inventory, the one without blanks and the one that is printed over several
lines, read back as the inventory: what is absent stays absent, and what is there but empty stays
there.  Of the reader of number literals it is asked that it gives back the numbers of this
inventory, as it does for numbers of few digits (`readsBackNumbers_of_isShort`).  Of the indices it
is only asked that they are machine words, as they always are where an index has 64 bits;
`IsValid.hasWordIndices` says when that is so in a valid inventory. -/
theorem ofSnapshot_toJson (hvalid : inv.violation? = none) (hfinite : inv.IsFinite)
    (hreadBack : inv.ReadsBackNumbers) (hwords : inv.HasWordIndices)
    (hnesting : inv.toJson.nesting ≤ nestingLimit) :
    ofSnapshot .json (inv.toJson.render .compact) = .ok inv ∧
      ofSnapshot .json (CommandLine.inventoryJson inv) = .ok inv := by
  have hnumbers : ∀ x ∈ inv.numbers, x.IsReadBack := fun x hx => hreadBack x hx (hfinite x hx)
  have hcompact := ofSnapshot_render hvalid hnumbers hwords hnesting .compact [] (by simp)
  have hindented := ofSnapshot_render hvalid hnumbers hwords hnesting .indented ['\n']
    (by simp [isBlankCharacter])
  have hprinted : CommandLine.inventoryJson inv =
      inv.toJson.render .indented ++ String.ofList ['\n'] := by
    simp [CommandLine.inventoryJson, CommandLine.jsonReport, CommandLine.lines]
  rw [hprinted]
  refine ⟨?_, hindented⟩
  simpa using hcompact

/-- A sack holds the stack of a jug, and what the jug holds is described by two records: one with an
empty list of food events and contents without anything, and one without a name. -/
theorem jug_in_sack_reads_back :
    let water : Item := { name := some "Water", food := some {}, contents := some {} }
    let filling : Contents := { count := .ofInt 3, records := [water, {}] }
    let jug : Item := { contents := some filling }
    let sack : Item := { name := some "Sack", quality := some .zero }
    let inv : Inventory :=
      ⟨[⟨jug, some ⟨0⟩, none⟩, ⟨sack, none, some ⟨0⟩⟩], [⟨[⟨0⟩]⟩]⟩
    ofSnapshot .json (inv.toJson.render .compact) = .ok inv ∧
      ofSnapshot .json (CommandLine.inventoryJson inv) = .ok inv := by
  intro water filling jug sack inv
  have hvalid : inv.violation? = none := by decide
  have hwords := (violation?_eq_none_iff.1 hvalid).hasWordIndices (by decide) (by decide)
  have hnumbers : inv.numbers = [.ofInt 3, .zero, .zero] := by decide +kernel
  have hshort : ∀ x ∈ inv.numbers, x.IsShort := by
    rw [hnumbers]
    decide +kernel
  have hfinite : inv.IsFinite := by
    unfold IsFinite
    rw [hnumbers]
    decide +kernel
  refine ofSnapshot_toJson hvalid hfinite (readsBackNumbers_of_isShort hshort) hwords ?_
  decide +kernel

end Inventory

end InventorySearch
