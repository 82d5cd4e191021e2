import Mathlib.Data.Option.Basic
import InventorySearch.Item.Decoding
import InventorySearch.Proofs.JsonValue

/-!
# Items, written and read

The JSON tree of an item can be written (`Item.isWritable_jsonFields`), and its data value
reads back as the item, provided that there is room for its nesting and that each of its
numbers is read back (`Binary64.IsReadBack`).  `Item.numbers` lists the numbers of an item, at
every depth.  The fields of an item can have others behind them, with keys of their own.

Contents and the records that describe them are nested in one another, and so is the
proof: `Contents.ofValueWithin?_of_records` and `Item.ofValueWithin?_of_contents` are its
two steps, from one level of nesting to the next.
-/

namespace InventorySearch

/-! ## Numbers -/

/-- The numbers of what studying grants. -/
def Curiosity.numbers (curiosity : Curiosity) : List Binary64 :=
  [curiosity.points, curiosity.pointsPerHour]

/-- The numbers of a food record. -/
def Food.numbers (food : Food) : List Binary64 := food.events.map FoodEvent.amount

mutual

/-- The numbers of what a container holds, at every depth. -/
def Contents.numbers : Contents → List Binary64
  | ⟨_, count, quality, records⟩ => count :: (quality.toList ++ Item.numbersOfAll records)

/-- The numbers of an item, at every depth. -/
def Item.numbers : Item → List Binary64
  | ⟨_, quality, curiosity, food, contents⟩ =>
    quality.toList ++ (curiosity.elim [] Curiosity.numbers ++ (food.elim [] Food.numbers ++
      match contents with
      | some contents => contents.numbers
      | none => []))

/-- The numbers of some items, one item after the other. -/
def Item.numbersOfAll : List Item → List Binary64
  | [] => []
  | item :: items => item.numbers ++ Item.numbersOfAll items

end

theorem Item.numbersOfAll_eq_flatMap (items : List Item) :
    Item.numbersOfAll items = items.flatMap Item.numbers := by
  induction items with
  | nil => rfl
  | cons item items ih => rw [Item.numbersOfAll, ih, List.flatMap_cons]

theorem Item.numbers_eq (item : Item) : item.numbers =
    item.quality.toList ++ (item.curiosity.elim [] Curiosity.numbers
      ++ (item.food.elim [] Food.numbers ++ item.contents.elim [] Contents.numbers)) := by
  obtain ⟨name, quality, curiosity, food, contents⟩ := item
  cases contents <;> rfl

section AllNumbers

variable {P : Binary64 → Prop}

theorem forall_mem_elim_iff {α : Type} {numbers : α → List Binary64} {part : Option α} :
    (∀ x ∈ part.elim [] numbers, P x) ↔ ∀ y ∈ part, ∀ x ∈ numbers y, P x := by
  cases part <;> simp

theorem Contents.forall_numbers_iff {contents : Contents} : (∀ x ∈ contents.numbers, P x) ↔
    P contents.count ∧ (∀ x ∈ contents.quality, P x) ∧
      ∀ record ∈ contents.records, ∀ x ∈ record.numbers, P x := by
  obtain ⟨name, count, quality, records⟩ := contents
  rw [Contents.numbers, Item.numbersOfAll_eq_flatMap]
  simp only [List.forall_mem_cons, List.forall_mem_append, Option.mem_toList, Option.mem_def,
    List.forall_mem_flatMap]

theorem Item.forall_numbers_iff {item : Item} : (∀ x ∈ item.numbers, P x) ↔
    (∀ x ∈ item.quality, P x) ∧ (∀ part ∈ item.curiosity, ∀ x ∈ part.numbers, P x) ∧
      (∀ part ∈ item.food, ∀ x ∈ part.numbers, P x) ∧
        ∀ part ∈ item.contents, ∀ x ∈ part.numbers, P x := by
  simp only [item.numbers_eq, List.forall_mem_append, Option.mem_toList, Option.mem_def,
    forall_mem_elim_iff]

end AllNumbers

open Json

variable {room levels : Nat}

/-! ## Trees of items -/

theorem Item.toJsons_eq_map (items : List Item) : Item.toJsons items = items.map Item.toJson := by
  induction items with
  | nil => rfl
  | cons item items ih =>
    rw [Item.toJsons, ih]
    rfl

theorem Contents.toJson_eq (contents : Contents) : contents.toJson =
    .ofFields [("name", .ofOption .ofString contents.name), ("count", .ofBinary64 contents.count),
      ("quality", .ofOption .ofBinary64 contents.quality),
      ("sub", .array (contents.records.map Item.toJson))] := by
  obtain ⟨name, count, quality, records⟩ := contents
  rw [Contents.toJson, Item.toJsons_eq_map]

theorem Item.jsonFields_eq (item : Item) : item.jsonFields =
    ("name", .ofOption .ofString item.name)
      :: (Json.optionalField "quality" .ofBinary64 item.quality
        ++ (Json.optionalField "curiosity" Curiosity.toJson item.curiosity
          ++ (Json.optionalField "food" Food.toJson item.food
            ++ Json.optionalField "content" Contents.toJson item.contents))) := by
  obtain ⟨name, quality, curiosity, food, contents⟩ := item
  cases contents <;> simp [Item.jsonFields, Json.optionalField]

/-- The keys of the fields of an item. -/
def Item.keys : List String := ["name", "quality", "curiosity", "food", "content"]

theorem Curiosity.isWritable_toJson {curiosity : Curiosity}
    (h : ∀ x ∈ curiosity.numbers, x.IsReadBack) : curiosity.toJson.IsWritable := by
  simp only [Curiosity.numbers, List.forall_mem_cons] at h
  simp [Curiosity.toJson, isWritable_ofFields_iff, isWritable_ofBinary64 h.1,
    isWritable_ofBinary64 h.2.1]

theorem FoodEvent.isWritable_toJson {event : FoodEvent} (h : event.amount.IsReadBack) :
    event.toJson.IsWritable := by
  have hstat : (Json.ofOption .ofString event.stat).IsWritable :=
    isWritable_ofOption fun s _ => isWritable_ofString s
  simp [FoodEvent.toJson, isWritable_ofFields_iff, isWritable_ofBinary64 h, hstat]

theorem Food.isWritable_toJson {food : Food} (h : ∀ x ∈ food.numbers, x.IsReadBack) :
    food.toJson.IsWritable := by
  rw [Food.numbers, List.forall_mem_map] at h
  simpa [Food.toJson, isWritable_ofFields_iff, isWritable_array_iff] using
    fun event hevent => FoodEvent.isWritable_toJson (h event hevent)

/-- The tree of contents can be written if those of the records that describe them can. -/
theorem Contents.isWritable_of_records {contents : Contents}
    (hcount : contents.count.IsReadBack) (hquality : ∀ x ∈ contents.quality, x.IsReadBack)
    (hrecords : ∀ record ∈ contents.records, record.toJson.IsWritable) :
    contents.toJson.IsWritable := by
  have hname : (Json.ofOption .ofString contents.name).IsWritable :=
    isWritable_ofOption fun s _ => isWritable_ofString s
  have hquality : (Json.ofOption .ofBinary64 contents.quality).IsWritable :=
    isWritable_ofOption fun x hx => isWritable_ofBinary64 (hquality x hx)
  rw [contents.toJson_eq]
  simpa [isWritable_ofFields_iff, isWritable_array_iff, isWritable_ofBinary64 hcount, hname,
    hquality] using hrecords

/-- The fields of an item can be written if its contents can. -/
theorem Item.isWritable_of_contents {item : Item} (h : ∀ x ∈ item.numbers, x.IsReadBack)
    (hcontents : ∀ contents ∈ item.contents, contents.toJson.IsWritable) :
    ∀ field ∈ item.jsonFields, field.2.IsWritable := by
  obtain ⟨hquality, hcuriosity, hfood, -⟩ := Item.forall_numbers_iff.1 h
  rw [item.jsonFields_eq]
  simp only [List.forall_mem_cons, List.forall_mem_append]
  exact ⟨isWritable_ofOption fun s _ => isWritable_ofString s,
    isWritable_optionalField fun x hx => isWritable_ofBinary64 (hquality x hx),
    isWritable_optionalField fun part hpart => part.isWritable_toJson (hcuriosity part hpart),
    isWritable_optionalField fun part hpart => part.isWritable_toJson (hfood part hpart),
    isWritable_optionalField hcontents⟩

mutual

theorem Contents.isWritable_toJson :
    ∀ contents : Contents, (∀ x ∈ contents.numbers, x.IsReadBack) → contents.toJson.IsWritable
  | ⟨_, _, _, records⟩, h => by
    obtain ⟨hcount, hquality, hrecords⟩ := Contents.forall_numbers_iff.1 h
    exact Contents.isWritable_of_records hcount hquality (Item.isWritable_of_mem records hrecords)

/-- The fields of an item can be written if its numbers are read back. -/
theorem Item.isWritable_jsonFields :
    ∀ item : Item, (∀ x ∈ item.numbers, x.IsReadBack) →
      ∀ field ∈ item.jsonFields, field.2.IsWritable
  | ⟨_, _, _, _, none⟩, h => Item.isWritable_of_contents h (by simp)
  | ⟨_, _, _, _, some contents⟩, h => by
    refine Item.isWritable_of_contents h ?_
    obtain ⟨-, -, -, hnumbers⟩ := Item.forall_numbers_iff.1 h
    intro found hfound
    obtain rfl := Option.some.inj hfound
    exact contents.isWritable_toJson (hnumbers contents rfl)

theorem Item.isWritable_of_mem :
    ∀ items : List Item, (∀ item ∈ items, ∀ x ∈ item.numbers, x.IsReadBack) →
      ∀ item ∈ items, item.toJson.IsWritable
  | [], _, _, hitem => absurd hitem List.not_mem_nil
  | first :: items, h, item, hitem => by
    obtain ⟨hfirst, hrest⟩ := List.forall_mem_cons.1 h
    have hfields := first.isWritable_jsonFields hfirst
    rcases List.mem_cons.1 hitem with heq | hmem
    · rw [heq]
      exact isWritable_ofFields_iff.2 hfields
    · exact Item.isWritable_of_mem items hrest item hmem

end

/-! ## Parts without nesting -/

theorem Curiosity.ofValue?_toJson {curiosity : Curiosity}
    (h : ∀ x ∈ curiosity.numbers, x.IsReadBack) (hroom : curiosity.toJson.nesting ≤ room) :
    Curiosity.ofValue? (toValueWithin room curiosity.toJson) = some curiosity := by
  obtain ⟨room, rfl⟩ := exists_room_of_ofFields hroom
  simp only [Curiosity.numbers, List.forall_mem_cons] at h
  have hpoints := toBinary64?_ofBinary64 h.1 room
  have hperHour := toBinary64?_ofBinary64 h.2.1 room
  rw [Curiosity.toJson, toValueWithin_ofFields]
  simp [Curiosity.ofValue?, Value.hasAtMost, Value.member?, Value.valueOfKey?, Value.required,
    Value.withDefault, hpoints, hperHour]

theorem FoodEvent.ofValue?_toJson {event : FoodEvent} (h : event.amount.IsReadBack)
    (hroom : event.toJson.nesting ≤ room) :
    FoodEvent.ofValue? (toValueWithin room event.toJson) = some event := by
  obtain ⟨room, rfl⟩ := exists_room_of_ofFields hroom
  have hstat := Value.optional_ofOption Value.toText? event.stat room rfl
    fun s _ => toText?_ofString room s
  have hamount := toBinary64?_ofBinary64 h room
  rw [FoodEvent.toJson, toValueWithin_ofFields]
  simp [FoodEvent.ofValue?, Value.hasAtMost, Value.member?, Value.valueOfKey?, Value.required,
    hstat, hamount]

theorem Food.ofValue?_toJson {food : Food} (h : ∀ x ∈ food.numbers, x.IsReadBack)
    (hroom : food.toJson.nesting ≤ room) :
    Food.ofValue? (toValueWithin room food.toJson) = some food := by
  rw [Food.numbers, List.forall_mem_map] at h
  obtain ⟨room, rfl⟩ := exists_room_of_ofFields hroom
  have hevents : Value.toList? FoodEvent.ofValue?
      (toValueWithin room (.array (food.events.map FoodEvent.toJson))) = some food.events := by
    refine Value.toList?_array ?_ fun event hevent inner hinner =>
      FoodEvent.ofValue?_toJson (h event hevent) hinner
    exact nesting_ofFields_le_iff.1 hroom ("events", _) (by simp)
  rw [Food.toJson, toValueWithin_ofFields]
  simp [Food.ofValue?, Value.hasAtMost, Value.member?, Value.valueOfKey?, Value.withDefault,
    hevents]

/-! ## From one level of nesting to the next -/

/-- Contents read back if the records that describe them do. -/
theorem Contents.ofValueWithin?_of_records {contents : Contents}
    (hcount : contents.count.IsReadBack) (hquality : ∀ x ∈ contents.quality, x.IsReadBack)
    (hroom : contents.toJson.nesting ≤ room)
    (hrecords : ∀ record ∈ contents.records, ∀ inner, record.toJson.nesting ≤ inner →
      Item.ofValueWithin? levels (toValueWithin inner record.toJson) = some record) :
    Contents.ofValueWithin? (levels + 1) (toValueWithin room contents.toJson) = some contents := by
  rw [contents.toJson_eq] at hroom ⊢
  obtain ⟨name, count, quality, records⟩ := contents
  dsimp only at hcount hquality hroom hrecords ⊢
  obtain ⟨room, rfl⟩ := exists_room_of_ofFields hroom
  have hname := Value.optional_ofOption Value.toText? name room rfl
    fun s _ => toText?_ofString room s
  have hcount := toBinary64?_ofBinary64 hcount room
  have hquality := Value.optional_ofOption Value.toBinary64? quality room rfl
    fun x hx => toBinary64?_ofBinary64 (hquality x hx) room
  have hsub : Value.toList? (Item.ofValueWithin? levels)
      (toValueWithin room (.array (records.map Item.toJson))) = some records :=
    Value.toList?_array (nesting_ofFields_le_iff.1 hroom ("sub", _) (by simp)) hrecords
  rw [toValueWithin_ofFields]
  simp [Contents.ofValueWithin?, Value.hasAtMost, Value.member?, Value.valueOfKey?,
    Value.withDefault, hname, hcount, hquality, hsub]

/-- An item reads back if its contents do, whatever other fields are written behind its own. -/
theorem Item.ofValueWithin?_of_contents {item : Item} {extra : List (String × Json)}
    (h : ∀ x ∈ item.numbers, x.IsReadBack)
    (hextra : ∀ key ∈ Item.keys, extra.filter (fun field => field.1 = key) = [])
    (hroom : (Json.ofFields (item.jsonFields ++ extra)).nesting ≤ room)
    (hcontents : ∀ contents ∈ item.contents, ∀ inner, contents.toJson.nesting ≤ inner →
      Contents.ofValueWithin? levels (toValueWithin inner contents.toJson) = some contents) :
    Item.ofValueWithin? (levels + 1)
      (toValueWithin room (.ofFields (item.jsonFields ++ extra))) = some item := by
  obtain ⟨hquality, hcuriosity, hfood, -⟩ := Item.forall_numbers_iff.1 h
  obtain ⟨room, rfl⟩ := exists_room_of_ofFields hroom
  simp only [Item.keys, List.forall_mem_cons, List.not_mem_nil, false_imp_iff, implies_true]
    at hextra
  obtain ⟨hextraName, hextraQuality, hextraCuriosity, hextraFood, hextraContent, -⟩ := hextra
  have hnameField : (item.jsonFields ++ extra).filter (fun field => field.1 = "name") =
      (some (Json.ofOption .ofString item.name)).toList.map ("name", ·) := by
    simp [item.jsonFields_eq, filter_optionalField, hextraName]
  have hname := member?_ofFields hnameField room 0
  have hnameRead := Value.optional_ofOption Value.toText? item.name room rfl
    fun s _ => toText?_ofString room s
  obtain ⟨quality, hqualityMember, hqualityRead⟩ :=
    Value.exists_member_of_optional hroom 1 "quality" Value.toBinary64? item.quality rfl
      (by simp [item.jsonFields_eq, filter_optionalField, hextraQuality])
      fun x hx _ => toBinary64?_ofBinary64 (hquality x hx) room
  obtain ⟨curiosity, hcuriosityMember, hcuriosityRead⟩ :=
    Value.exists_member_of_optional hroom 2 "curiosity" Curiosity.ofValue? item.curiosity rfl
      (by simp [item.jsonFields_eq, filter_optionalField, hextraCuriosity])
      fun x hx => Curiosity.ofValue?_toJson (hcuriosity x hx)
  obtain ⟨food, hfoodMember, hfoodRead⟩ :=
    Value.exists_member_of_optional hroom 3 "food" Food.ofValue? item.food rfl
      (by simp [item.jsonFields_eq, filter_optionalField, hextraFood])
      fun x hx => Food.ofValue?_toJson (hfood x hx)
  obtain ⟨content, hcontentMember, hcontentRead⟩ :=
    Value.exists_member_of_optional hroom 4 "content" (Contents.ofValueWithin? levels)
      item.contents (by cases levels <;> rfl)
      (by simp [item.jsonFields_eq, filter_optionalField, hextraContent])
      fun x hx => hcontents x hx room
  have hatMost : (toValueWithin (room + 1) (.ofFields (item.jsonFields ++ extra))).hasAtMost 5 =
      true := by
    rw [toValueWithin_ofFields]
    rfl
  rw [Option.map_some] at hname
  simp only [Item.ofValueWithin?, hatMost, hname, hnameRead, hqualityMember, hqualityRead,
    hcuriosityMember, hcuriosityRead, hfoodMember, hfoodRead, hcontentMember, hcontentRead,
    guard_true, Option.pure_def, Option.bind_eq_bind, Option.bind_some]
  cases item
  rfl

/-! ## All levels -/

-- The recursion is on the item; room and levels only have to keep up with its nesting.
mutual

/-- What a container holds reads back. -/
theorem Contents.ofValueWithin?_toJson :
    ∀ (contents : Contents) (room levels : Nat), (∀ x ∈ contents.numbers, x.IsReadBack) →
      contents.toJson.nesting ≤ room → contents.toJson.nesting ≤ levels →
      Contents.ofValueWithin? levels (toValueWithin room contents.toJson) = some contents
  | ⟨name, count, quality, records⟩, room, levels, h, hroom, hlevels => by
    obtain ⟨hcount, hquality, hrecords⟩ := Contents.forall_numbers_iff.1 h
    have hnesting := hlevels
    rw [Contents.toJson_eq] at hnesting
    obtain ⟨levels, rfl⟩ := exists_room_of_ofFields hnesting
    have hsub := nesting_ofFields_le_iff.1 hnesting ("sub", .array (records.map Item.toJson))
      (by simp)
    refine Contents.ofValueWithin?_of_records hcount hquality hroom ?_
    intro record hrecord inner hinner
    exact Item.ofValueWithin?_of_mem records levels hrecords hsub record hrecord inner hinner

/-- An item reads back, whatever other fields are written behind its own. -/
theorem Item.ofValueWithin?_ofFields :
    ∀ (item : Item) (extra : List (String × Json)) (room levels : Nat),
      (∀ x ∈ item.numbers, x.IsReadBack) →
      (∀ key ∈ Item.keys, extra.filter (fun field => field.1 = key) = []) →
      (Json.ofFields (item.jsonFields ++ extra)).nesting ≤ room →
      (Json.ofFields (item.jsonFields ++ extra)).nesting ≤ levels →
      Item.ofValueWithin? levels (toValueWithin room (.ofFields (item.jsonFields ++ extra))) =
        some item
  | ⟨name, quality, curiosity, food, none⟩, extra, room, levels, h, hextra, hroom, hlevels => by
    obtain ⟨levels, rfl⟩ := exists_room_of_ofFields hlevels
    refine Item.ofValueWithin?_of_contents h hextra hroom ?_
    intro contents hcontents
    exact absurd hcontents (by simp)
  | ⟨name, quality, curiosity, food, some contents⟩, extra, room, levels, h, hextra, hroom,
      hlevels => by
    obtain ⟨-, -, -, hnumbers⟩ := Item.forall_numbers_iff.1 h
    obtain ⟨levels, rfl⟩ := exists_room_of_ofFields hlevels
    have hcontent := nesting_ofFields_le_iff.1 hlevels ("content", contents.toJson)
      (by simp [Item.jsonFields_eq, Json.optionalField])
    refine Item.ofValueWithin?_of_contents h hextra hroom ?_
    intro found hfound inner hinner
    obtain rfl := Option.some.inj hfound
    exact Contents.ofValueWithin?_toJson contents inner levels (hnumbers contents rfl) hinner
      hcontent

/-- Each of some items reads back. -/
theorem Item.ofValueWithin?_of_mem :
    ∀ (items : List Item) (levels : Nat), (∀ item ∈ items, ∀ x ∈ item.numbers, x.IsReadBack) →
      (Json.array (items.map Item.toJson)).nesting ≤ levels →
      ∀ item ∈ items, ∀ room, item.toJson.nesting ≤ room →
        Item.ofValueWithin? levels (toValueWithin room item.toJson) = some item
  | [], _, _, _, item, hitem, _, _ => absurd hitem List.not_mem_nil
  | first :: items, levels, h, hlevels, item, hitem, room, hroom => by
    obtain ⟨hnumbers, hothers⟩ := List.forall_mem_cons.1 h
    obtain ⟨inner, rfl⟩ := exists_room_of_array hlevels
    rw [nesting_array_le_iff, List.map_cons, List.forall_mem_cons] at hlevels
    obtain ⟨hfirst, hrest⟩ := hlevels
    have hread := Item.ofValueWithin?_ofFields first [] room (inner + 1) hnumbers (by simp)
    rw [List.append_nil] at hread
    rcases List.mem_cons.1 hitem with heq | hmem
    · rw [heq] at hroom ⊢
      exact hread hroom (Nat.le_succ_of_le hfirst)
    · exact Item.ofValueWithin?_of_mem items (inner + 1) hothers (nesting_array_le_iff.2 hrest)
        item hmem room hroom

end

end InventorySearch
