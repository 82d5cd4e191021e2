import InventorySearch.Item.Basic
import InventorySearch.Json.Basic

/-!
# Items as JSON

The JSON tree of an item.  Of the parts of an item only the name is always written;
the parts of its parts all are.
-/

namespace InventorySearch

namespace Json

/-- The field of a part that is written only if it is there. -/
def optionalField {α : Type} (key : String) (encode : α → Json) : Option α → List (String × Json)
  | some part => [(key, encode part)]
  | none => []

end Json

/-- The JSON tree of what studying grants. -/
def Curiosity.toJson (curiosity : Curiosity) : Json :=
  .ofFields [("exp", .ofBinary64 curiosity.points), ("lph", .ofBinary64 curiosity.pointsPerHour)]

/-- The JSON tree of a food event. -/
def FoodEvent.toJson (event : FoodEvent) : Json :=
  .ofFields [("name", .ofOption .ofString event.stat), ("amount", .ofBinary64 event.amount)]

/-- The JSON tree of what eating grants. -/
def Food.toJson (food : Food) : Json :=
  .ofFields [("events", .array (food.events.map FoodEvent.toJson))]

mutual

/-- The JSON tree of what a container holds. -/
def Contents.toJson : Contents → Json
  | ⟨name, count, quality, records⟩ =>
    .ofFields [("name", .ofOption .ofString name), ("count", .ofBinary64 count),
      ("quality", .ofOption .ofBinary64 quality), ("sub", .array (Item.toJsons records))]

/-- The JSON fields of an item. -/
def Item.jsonFields : Item → List (String × Json)
  | ⟨name, quality, curiosity, food, contents⟩ =>
    ("name", .ofOption .ofString name)
      :: Json.optionalField "quality" .ofBinary64 quality
      ++ Json.optionalField "curiosity" Curiosity.toJson curiosity
      ++ Json.optionalField "food" Food.toJson food
      ++ (match contents with
        | some contents => [("content", contents.toJson)]
        | none => [])

/-- The JSON trees of some items. -/
def Item.toJsons : List Item → List Json
  | [] => []
  | item :: items => .ofFields item.jsonFields :: Item.toJsons items

end

/-- The JSON tree of an item. -/
def Item.toJson (item : Item) : Json := .ofFields item.jsonFields

end InventorySearch
