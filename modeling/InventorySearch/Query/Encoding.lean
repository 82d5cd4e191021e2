import InventorySearch.Json.Basic
import InventorySearch.Query.Basic

/-!
# Queries as JSON

The JSON tree of a query: its kind, and then its text or its property and filter.
-/

namespace InventorySearch

/-- The name of a comparison in JSON. -/
def Comparison.code : Comparison → String
  | greater => "gt"
  | atLeast => "gte"
  | less => "lt"
  | atMost => "lte"
  | equal => "eq"

/-- The name of a property in JSON. -/
def Property.code : Property → String
  | learningPoints => "learning_points"
  | learningPointsPerHour => "learning_points_per_hour"
  | foodEnergy => "food_energy"

/-- The JSON tree of a filter. -/
def Filter.toJson : Filter → Json
  | any => .ofFields [("type", .ofString "any")]
  | named name => .ofFields [("type", .ofString "type"), ("name", .ofString name)]
  | numeric comparison target =>
    .ofFields [("type", .ofString "numeric"),
      ("op", .ofOption (.ofString ∘ Comparison.code) comparison),
      ("value", .ofBinary64 target)]

/-- The JSON tree of a query. -/
def Query.toJson : Query → Json
  | name text => .ofFields [("kind", .ofString "name"), ("text", .ofString text)]
  | property subject filter =>
    .ofFields [("kind", .ofString "property"), ("property", .ofString subject.code),
      ("filter", filter.toJson)]

end InventorySearch
