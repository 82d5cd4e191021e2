import InventorySearch.Item.Encoding
import InventorySearch.Proofs.JsonTree

/-!
# Data values of JSON trees

What a tree says when its lists and objects are nested no deeper than there is room for.
`Json.nesting` counts that depth.  Within the room, every part of a writable tree makes
sense, and its value is at least as deep as the tree (`isReadable_and_nesting_le`).

The rest says how the parts of a record come back: the member under a key of an object
(`member?_ofFields`), and the readers of texts, numbers, lists and optional parts on what
the corresponding encoders wrote.
-/

namespace InventorySearch

/-- What is read as a number makes sense. -/
theorem Value.isReadable_of_toBinary64? {value : Value} {x : Binary64}
    (h : value.toBinary64? = some x) : value.isReadable = true := by
  cases value with
  | integer | real => rfl
  | _ => exact absurd h (by simp [toBinary64?])

namespace Json

/-! ## Nesting -/

mutual

/-- How many lists and objects, at most, are nested in one another. -/
def nesting : Json → Nat
  | array elements => nestingOfAll elements + 1
  | object fields => nestingOfFields fields + 1
  | _ => 0

/-- The greatest nesting of some trees. -/
def nestingOfAll : List Json → Nat
  | [] => 0
  | element :: elements => max element.nesting (nestingOfAll elements)

/-- The greatest nesting of the values of some fields. -/
def nestingOfFields : List (Option String × Json) → Nat
  | [] => 0
  | (_, value) :: fields => max value.nesting (nestingOfFields fields)

end

theorem nestingOfAll_le_iff {elements : List Json} {room : Nat} :
    nestingOfAll elements ≤ room ↔ ∀ element ∈ elements, element.nesting ≤ room := by
  induction elements with
  | nil => simp [nestingOfAll]
  | cons element elements ih => rw [nestingOfAll, Nat.max_le, ih, List.forall_mem_cons]

theorem nestingOfFields_le_iff {fields : List (Option String × Json)} {room : Nat} :
    nestingOfFields fields ≤ room ↔ ∀ field ∈ fields, field.2.nesting ≤ room := by
  induction fields with
  | nil => simp [nestingOfFields]
  | cons field fields ih =>
    obtain ⟨key, value⟩ := field
    rw [nestingOfFields, Nat.max_le, ih, List.forall_mem_cons]

theorem nesting_array_le_iff {elements : List Json} {room : Nat} :
    (array elements).nesting ≤ room + 1 ↔ ∀ element ∈ elements, element.nesting ≤ room := by
  rw [nesting, Nat.add_le_add_iff_right, nestingOfAll_le_iff]

theorem nesting_ofFields_le_iff {fields : List (String × Json)} {room : Nat} :
    (ofFields fields).nesting ≤ room + 1 ↔ ∀ field ∈ fields, field.2.nesting ≤ room := by
  rw [ofFields, nesting, Nat.add_le_add_iff_right, nestingOfFields_le_iff, List.forall_mem_map]

/-- A list or an object needs room for one more level. -/
theorem exists_room_of_array {elements : List Json} {room : Nat}
    (h : (array elements).nesting ≤ room) : ∃ inner, room = inner + 1 := by
  rw [nesting] at h
  exact ⟨room - 1, by omega⟩

theorem exists_room_of_ofFields {fields : List (String × Json)} {room : Nat}
    (h : (ofFields fields).nesting ≤ room) : ∃ inner, room = inner + 1 := by
  rw [ofFields, nesting] at h
  exact ⟨room - 1, by omega⟩

/-! ## Writable trees -/

theorem areWritable_iff {elements : List Json} :
    AreWritable elements ↔ ∀ element ∈ elements, element.IsWritable := by
  induction elements with
  | nil => simp [AreWritable]
  | cons element elements ih => simp [AreWritable, ih]

theorem isWritable_array_iff {elements : List Json} :
    (array elements).IsWritable ↔ ∀ element ∈ elements, element.IsWritable := by
  rw [IsWritable, areWritable_iff]

theorem isWritable_ofFields_iff {fields : List (String × Json)} :
    (ofFields fields).IsWritable ↔ ∀ field ∈ fields, field.2.IsWritable := by
  rw [ofFields, IsWritable]
  induction fields with
  | nil => simp [AreWritableFields]
  | cons field fields ih => simp [AreWritableFields, ih]

theorem isWritable_null : IsWritable null := by
  rw [IsWritable]
  trivial

theorem isWritable_ofString (s : String) : (ofString s).IsWritable := by
  rw [ofString, IsWritable]
  exact ⟨s, rfl⟩

/-- A double can be written if it is read back; otherwise its literal can be out of range. -/
theorem isWritable_ofBinary64 {x : Binary64} (h : x.IsReadBack) : (ofBinary64 x).IsWritable := by
  cases x with
  | nan | infinite => exact isWritable_null
  | finite negative quanta hrepresentable =>
    rw [ofBinary64, IsWritable]
    exact ⟨Number.isLiteral_ofDecimal _ _, Value.isReadable_of_toBinary64? h⟩

theorem isWritable_ofNat {k : Nat} (h : k < power 2 64) : (ofNat k).IsWritable := by
  rw [ofNat, IsWritable, Number.toValue_ofNat h]
  exact ⟨Number.isLiteral_ofNat k, rfl⟩

theorem isWritable_ofOption {α : Type} {encode : α → Json} {part : Option α}
    (h : ∀ x ∈ part, (encode x).IsWritable) : (ofOption encode part).IsWritable := by
  cases part with
  | none => exact isWritable_null
  | some x => exact h x rfl

theorem isWritable_optionalField {α : Type} {key : String} {encode : α → Json} {part : Option α}
    (h : ∀ x ∈ part, (encode x).IsWritable) :
    ∀ field ∈ optionalField key encode part, field.2.IsWritable := by
  cases part with
  | none => simp [optionalField]
  | some x => simpa [optionalField] using h x rfl

/-! ## Values within the room -/

theorem toValuesWithin_eq_map (room : Nat) (elements : List Json) :
    toValuesWithin room elements = elements.map (toValueWithin room) := by
  induction elements with
  | nil => rfl
  | cons element elements ih => rw [toValuesWithin, ih, List.map_cons]

theorem toValueWithin_array (room : Nat) (elements : List Json) :
    toValueWithin (room + 1) (array elements) = .list (elements.map (toValueWithin room)) := by
  rw [toValueWithin, toValuesWithin_eq_map]

theorem toFieldsWithin_eq_map (room : Nat) (fields : List (String × Json)) :
    toFieldsWithin room (fields.map fun field => (some field.1, field.2)) =
      some (fields.map fun field => (field.1, toValueWithin room field.2)) := by
  induction fields with
  | nil => rfl
  | cons field fields ih => simp [toFieldsWithin, ih]

theorem toValueWithin_ofFields (room : Nat) (fields : List (String × Json)) :
    toValueWithin (room + 1) (ofFields fields) =
      .record (fields.map fun field => (field.1, toValueWithin room field.2)) := by
  rw [ofFields, toValueWithin, toFieldsWithin_eq_map]
  rfl

mutual

/-- Within the room, every part of a writable tree makes sense, and nothing of its depth is lost. -/
theorem isReadable_and_nesting_le :
    ∀ (tree : Json) (room : Nat), tree.IsWritable → tree.nesting ≤ room →
      (toValueWithin room tree).isReadable = true ∧
        tree.nesting ≤ (toValueWithin room tree).depth
  | null, _, _, _ => by simp [toValueWithin, Value.isReadable, Value.depth, nesting]
  | truth _, _, _, _ => by simp [toValueWithin, Value.isReadable, Value.depth, nesting]
  | number literal, room, h, _ => by
    rw [IsWritable] at h
    simp [toValueWithin, h.2, nesting]
  | text content, room, h, _ => by
    rw [IsWritable] at h
    obtain ⟨s, rfl⟩ := h
    simp [toValueWithin, Value.isReadable, Value.depth, nesting]
  | array elements, room, h, hroom => by
    obtain ⟨room, rfl⟩ := exists_room_of_array hroom
    rw [IsWritable] at h
    rw [nesting, Nat.add_le_add_iff_right] at hroom
    obtain ⟨hreadable, hdepth⟩ := areReadable_and_nesting_le elements room h hroom
    rw [toValueWithin, Value.isReadable, Value.depth, nesting]
    exact ⟨hreadable, by omega⟩
  | object fields, room, h, hroom => by
    rw [IsWritable] at h
    rw [nesting] at hroom
    obtain ⟨room, rfl⟩ : ∃ inner, room = inner + 1 := ⟨room - 1, by omega⟩
    rw [Nat.add_le_add_iff_right] at hroom
    obtain ⟨values, hvalues, hreadable, hdepth⟩ :=
      areReadableFields_and_nesting_le fields room h hroom
    simp only [toValueWithin, hvalues, Option.map_some, Option.getD_some, Value.isReadable,
      Value.depth, nesting]
    exact ⟨hreadable, by omega⟩

theorem areReadable_and_nesting_le :
    ∀ (elements : List Json) (room : Nat), AreWritable elements → nestingOfAll elements ≤ room →
      Value.areReadable (toValuesWithin room elements) = true ∧
        nestingOfAll elements ≤ Value.depthOfAll (toValuesWithin room elements)
  | [], _, _, _ => by simp [toValuesWithin, Value.areReadable, Value.depthOfAll, nestingOfAll]
  | element :: elements, room, h, hroom => by
    rw [AreWritable] at h
    rw [nestingOfAll, Nat.max_le] at hroom
    obtain ⟨hreadable, hdepth⟩ := isReadable_and_nesting_le element room h.1 hroom.1
    obtain ⟨hreadables, hdepths⟩ := areReadable_and_nesting_le elements room h.2 hroom.2
    rw [toValuesWithin, Value.areReadable, Value.depthOfAll, nestingOfAll, hreadable, hreadables]
    exact ⟨rfl, by omega⟩

theorem areReadableFields_and_nesting_le :
    ∀ (fields : List (Option String × Json)) (room : Nat), AreWritableFields fields →
      nestingOfFields fields ≤ room → ∃ values, toFieldsWithin room fields = some values ∧
        Value.areReadableFields values = true ∧
          nestingOfFields fields ≤ Value.depthOfFields values
  | [], _, _, _ => ⟨[], rfl, rfl, Nat.zero_le _⟩
  | (key, value) :: fields, room, h, hroom => by
    rw [AreWritableFields] at h
    obtain ⟨⟨s, rfl⟩, hvalue, hfields⟩ := h
    rw [nestingOfFields, Nat.max_le] at hroom
    obtain ⟨hreadable, hdepth⟩ := isReadable_and_nesting_le value room hvalue hroom.1
    obtain ⟨values, hvalues, hreadables, hdepths⟩ :=
      areReadableFields_and_nesting_le fields room hfields hroom.2
    refine ⟨(s, toValueWithin room value) :: values, by simp [toFieldsWithin, hvalues], ?_, ?_⟩
    · rw [Value.areReadableFields, hreadable, hreadables]
      rfl
    · rw [nestingOfFields, Value.depthOfFields]
      omega

end

/-! ## Members -/

theorem filter_optionalField {α : Type} (key key' : String) (encode : α → Json)
    (part : Option α) :
    (optionalField key encode part).filter (fun field => field.1 = key') =
      if key = key' then (part.map encode).toList.map (key', ·) else [] := by
  cases part with
  | none => simp [optionalField]
  | some x => by_cases h : key = key' <;> simp [optionalField, h]

/-- The member of an object under a key, given the fields with that key. -/
theorem member?_ofFields {fields : List (String × Json)} {key : String} {part : Option Json}
    (h : fields.filter (fun field => field.1 = key) = part.toList.map (key, ·))
    (room position : Nat) :
    (toValueWithin (room + 1) (ofFields fields)).member? position key =
      some (part.map (toValueWithin room)) := by
  have hfilter : (fields.map fun field => (field.1, toValueWithin room field.2)).filter
      (fun field => field.1 = key) =
        part.toList.map fun value => (key, toValueWithin room value) := by
    rw [List.filter_map]
    simp [Function.comp_def, h]
  rw [toValueWithin_ofFields, Value.member?, Value.valueOfKey?, hfilter]
  cases part <;> rfl

/-! ## Readers -/

theorem toText?_ofString (room : Nat) (s : String) :
    (toValueWithin room (ofString s)).toText? = some s := by
  rw [ofString, toValueWithin]
  rfl

theorem toNat?_ofNat {k : Nat} (h : k < power 2 64) (room : Nat) :
    (toValueWithin room (ofNat k)).toNat? = some k := by
  rw [ofNat, toValueWithin, Number.toValue_ofNat h]
  simp [Value.toNat?]

theorem toBinary64?_ofBinary64 {x : Binary64} (h : x.IsReadBack) (room : Nat) :
    (toValueWithin room (ofBinary64 x)).toBinary64? = some x := by
  cases x with
  | nan | infinite => exact h
  | finite negative quanta hrepresentable =>
    rw [Binary64.IsReadBack, toValue, ofBinary64, toValueWithin] at h
    rwa [ofBinary64, toValueWithin]

end Json

namespace Value

theorem mapM_map {α : Type} {read : Value → Option α} {encode : α → Value} {l : List α}
    (h : ∀ x ∈ l, read (encode x) = some x) : (l.map encode).mapM read = some l := by
  induction l with
  | nil => rfl
  | cons x l ih =>
    have hrest := ih fun y hy => h y (List.mem_cons_of_mem x hy)
    rw [List.map_cons, List.mapM_cons, h x List.mem_cons_self, hrest]
    rfl

/-- A list that is written reads back if its elements do. -/
theorem toList?_array {α : Type} {read : Value → Option α} {encode : α → Json} {l : List α}
    {room : Nat} (hroom : (Json.array (l.map encode)).nesting ≤ room)
    (h : ∀ x ∈ l, ∀ inner, (encode x).nesting ≤ inner →
      read (Json.toValueWithin inner (encode x)) = some x) :
    toList? read (Json.toValueWithin room (.array (l.map encode))) = some l := by
  obtain ⟨room, rfl⟩ := Json.exists_room_of_array hroom
  rw [Json.toValueWithin_array, List.map_map]
  refine mapM_map fun x hx => h x hx room ?_
  exact Json.nesting_array_le_iff.1 hroom (encode x) (List.mem_map_of_mem hx)

/-- A part that is written only if it is there reads back if it is not taken for nothing. -/
theorem optional_map {α : Type} (read : Value → Option α) {encode : α → Json}
    (part : Option α) (room : Nat) (hnull : read .null = none)
    (h : ∀ x ∈ part, read (Json.toValueWithin room (encode x)) = some x) :
    optional read ((part.map encode).map (Json.toValueWithin room)) = some part := by
  cases part with
  | none => rfl
  | some x =>
    have hx := h x rfl
    rw [Option.map_some, Option.map_some]
    unfold optional
    split
    · next heq => exact absurd heq (by simp)
    · next heq =>
      rw [Option.some.inj heq, hnull] at hx
      exact absurd hx (by simp)
    · next heq => rw [← Option.some.inj heq, hx, Option.map_some]

/-- In an object, such a part is found under its key, whatever the other fields are. -/
theorem exists_member_of_optional {α : Type} {fields : List (String × Json)} {room : Nat}
    (hroom : (Json.ofFields fields).nesting ≤ room + 1) (position : Nat) (key : String)
    (read : Value → Option α) {encode : α → Json} (part : Option α) (hnull : read .null = none)
    (hfield : fields.filter (fun field => field.1 = key) = (part.map encode).toList.map (key, ·))
    (hread : ∀ x ∈ part, (encode x).nesting ≤ room →
      read (Json.toValueWithin room (encode x)) = some x) :
    ∃ member, (Json.toValueWithin (room + 1) (.ofFields fields)).member? position key =
      some member ∧ optional read member = some part := by
  refine ⟨_, Json.member?_ofFields hfield room position, ?_⟩
  refine optional_map read part room hnull ?_
  intro x hx
  have hmem : (key, encode x) ∈ fields.filter (fun field => field.1 = key) := by
    simp [hfield, Option.mem_def.1 hx]
  exact hread x hx (Json.nesting_ofFields_le_iff.1 hroom _ (List.mem_filter.1 hmem).1)

/-- So does a part that is written as nothing if it is not there. -/
theorem optional_ofOption {α : Type} (read : Value → Option α) {encode : α → Json}
    (part : Option α) (room : Nat) (hnull : read .null = none)
    (h : ∀ x ∈ part, read (Json.toValueWithin room (encode x)) = some x) :
    optional read (some (Json.toValueWithin room (.ofOption encode part))) = some part := by
  cases part with
  | none =>
    rw [Json.ofOption, Json.toValueWithin]
    rfl
  | some x => exact optional_map read (some x) room hnull h

end Value

end InventorySearch
