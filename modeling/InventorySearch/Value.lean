import InventorySearch.Binary64.Rounding

/-!
# Data values

What a data file says, whatever its format: nothing, truth values, numbers, texts,
lists and records.  A record keeps the order of its fields and may repeat a key.

Parts of a file that nobody asks for need not make sense.  A part that makes none
is `unreadable`, and only asking for it is an error.
-/

namespace InventorySearch

/-- A value of a data file. -/
inductive Value where
  /-- Nothing. -/
  | null
  /-- A truth value. -/
  | truth (value : Bool)
  /-- A whole number. -/
  | integer (n : Int)
  /-- Any other number. -/
  | real (x : Binary64)
  /-- A text. -/
  | text (content : String)
  /-- A list of values. -/
  | list (elements : List Value)
  /-- Keys with their values, in the order of the file. -/
  | record (fields : List (String × Value))
  /-- Something that makes no sense. -/
  | unreadable

namespace Value

mutual

/-- Whether every part of a value makes sense. -/
def isReadable : Value → Bool
  | unreadable => false
  | list elements => areReadable elements
  | record fields => areReadableFields fields
  | _ => true

/-- Whether every part of some values makes sense. -/
def areReadable : List Value → Bool
  | [] => true
  | element :: elements => element.isReadable && areReadable elements

/-- Whether every part of some fields makes sense. -/
def areReadableFields : List (String × Value) → Bool
  | [] => true
  | (_, value) :: fields => value.isReadable && areReadableFields fields

end

mutual

/-- How many values, at most, are nested in one another. -/
def depth : Value → Nat
  | list elements => depthOfAll elements + 1
  | record fields => depthOfFields fields + 1
  | _ => 1

/-- The greatest depth of some values. -/
def depthOfAll : List Value → Nat
  | [] => 0
  | element :: elements => max element.depth (depthOfAll elements)

/-- The greatest depth of the values of some fields. -/
def depthOfFields : List (String × Value) → Nat
  | [] => 0
  | (_, value) :: fields => max value.depth (depthOfFields fields)

end

/-! ## Members

A record can be written in two ways, with keys or as a list of its members in their
fixed order. -/

/-- The value under a key, unless the key is repeated. -/
def valueOfKey? (key : String) (fields : List (String × Value)) : Option (Option Value) :=
  match fields.filter (·.1 = key) with
  | [] => some none
  | [(_, value)] => some (some value)
  | _ => none

/-- The member with a key and a position, if it is there.  There is no answer for a value that is no
record, and none for a repeated key. -/
def member? (position : Nat) (key : String) : Value → Option (Option Value)
  | record fields => valueOfKey? key fields
  | list elements => some elements[position]?
  | _ => none

/-- Whether a record has no more members than it should: only one written as a list can. -/
def hasAtMost (members : Nat) : Value → Bool
  | list elements => elements.length ≤ members
  | _ => true

/-! ## Reading -/

/-- Reads a number. -/
def toBinary64? : Value → Option Binary64
  | integer n => some (.ofInt n)
  | real x => some x
  | _ => none

/-- Reads a text. -/
def toText? : Value → Option String
  | text content => some content
  | _ => none

/-- Reads a whole number that is not negative. -/
def toNat? : Value → Option Nat
  | integer n => if 0 ≤ n then some n.toNat else none
  | _ => none

/-- Reads a list. -/
def toList? {α : Type} (read : Value → Option α) : Value → Option (List α)
  | list elements => elements.mapM read
  | _ => none

/-- Reads a member that has to be there. -/
def required {α : Type} (read : Value → Option α) (member : Option Value) : Option α :=
  member.bind read

/-- Reads a member that stands for a default when it is missing. -/
def withDefault {α : Type} (default : α) (read : Value → Option α) : Option Value → Option α
  | some value => read value
  | none => some default

/-- Reads a member that may be missing or null. -/
def optional {α : Type} (read : Value → Option α) : Option Value → Option (Option α)
  | none => some none
  | some null => some none
  | some value => (read value).map some

end Value

end InventorySearch
