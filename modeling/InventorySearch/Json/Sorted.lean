import InventorySearch.Json.Basic

/-!
# Sorted objects

The same tree with the fields of every object in ascending order of their keys.
-/

namespace InventorySearch.Json

/-- Puts a field in front of the first field with a greater key. -/
def insertField (field : Option String × Json) :
    List (Option String × Json) → List (Option String × Json)
  | [] => [field]
  | first :: fields =>
    if (field.1.getD "") < (first.1.getD "") then field :: first :: fields
    else first :: insertField field fields

mutual

/-- The tree with the fields of every object in ascending order of their keys. -/
def sorted : Json → Json
  | array elements => array (sortedElements elements)
  | object fields => object (sortedFields fields)
  | tree => tree

/-- The trees, each sorted. -/
def sortedElements : List Json → List Json
  | [] => []
  | element :: elements => sorted element :: sortedElements elements

/-- The fields in ascending order of their keys, each tree sorted. -/
def sortedFields : List (Option String × Json) → List (Option String × Json)
  | [] => []
  | (key, value) :: fields => insertField (key, sorted value) (sortedFields fields)

end

end InventorySearch.Json
