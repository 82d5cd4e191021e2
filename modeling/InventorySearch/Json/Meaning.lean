import InventorySearch.Json.Basic
import InventorySearch.Value

/-!
# What a JSON tree says

The data value of a JSON tree.  Three things make no sense: a text with half of a
surrogate pair, a number beyond the range of doubles, and lists or objects nested
deeper than the limit.
-/

namespace InventorySearch.Json

/-- How many lists and objects may be nested in one another. -/
def nestingLimit : Nat := 127

/-- What a literal says.  Integers of 64 bits are exact, signed or not, and all other literals are
doubles; negative zero is one of these. -/
def Number.toValue (n : Number) : Value :=
  let coefficient := n.toDecimal.digits
  if n.isInteger && !n.negative && coefficient < power 2 64 then .integer coefficient
  else if n.isInteger && n.negative && coefficient ≠ 0 && coefficient ≤ power 2 63 then
    .integer (-coefficient)
  else (n.toBinary64?.map Value.real).getD .unreadable

mutual

/-- What a tree says when so many more lists and objects may be nested. -/
def toValueWithin (room : Nat) : Json → Value
  | null => .null
  | truth value => .truth value
  | number literal => literal.toValue
  | text (some content) => .text content
  | text none => .unreadable
  | array elements =>
    match room with
    | 0 => .unreadable
    | room + 1 => .list (toValuesWithin room elements)
  | object fields =>
    match room with
    | 0 => .unreadable
    | room + 1 => ((toFieldsWithin room fields).map Value.record).getD .unreadable

/-- What some trees say. -/
def toValuesWithin (room : Nat) : List Json → List Value
  | [] => []
  | element :: elements => toValueWithin room element :: toValuesWithin room elements

/-- What some fields say, if all keys make sense. -/
def toFieldsWithin (room : Nat) : List (Option String × Json) → Option (List (String × Value))
  | [] => some []
  | (none, _) :: _ => none
  | (some key, value) :: fields =>
    (toFieldsWithin room fields).map ((key, toValueWithin room value) :: ·)

end

/-- What a tree says. -/
def toValue (tree : Json) : Value := toValueWithin nestingLimit tree

end InventorySearch.Json
