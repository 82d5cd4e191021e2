import InventorySearch.Json.Number

/-!
# JSON trees

The tree of a JSON text, close to how it is written: number literals keep their
parts, and the fields of an object keep their order and may repeat a key.

A text can spell half of a surrogate pair with an escape.  It is then well formed
but stands for no sequence of characters, so its content is `none`.
-/

namespace InventorySearch

/-- The tree of a JSON text. -/
inductive Json where
  /-- The literal for nothing. -/
  | null
  /-- A truth value. -/
  | truth (value : Bool)
  /-- A number literal. -/
  | number (literal : Json.Number)
  /-- A text, if its escapes stand for characters. -/
  | text (content : Option String)
  /-- A list of trees. -/
  | array (elements : List Json)
  /-- Keys with their trees, in the order of the text. -/
  | object (fields : List (Option String × Json))

namespace Json

/-- The tree of a text. -/
def ofString (s : String) : Json := .text (some s)

/-- The tree of a natural number. -/
def ofNat (n : Nat) : Json := .number (.ofNat n)

/-- The tree of a double; infinities and not-a-number have no literal. -/
def ofBinary64 : Binary64 → Json
  | .finite negative quanta _ => .number (.ofDecimal negative (Binary64.shortest .even quanta))
  | _ => .null

/-- The tree of something that may be absent. -/
def ofOption {α : Type} (encode : α → Json) : Option α → Json
  | some x => encode x
  | none => .null

/-- The object with these fields. -/
def ofFields (fields : List (String × Json)) : Json :=
  .object (fields.map fun field => (some field.1, field.2))

end Json

end InventorySearch
