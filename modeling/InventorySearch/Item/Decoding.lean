import InventorySearch.Item.Basic
import InventorySearch.Value

/-!
# Items from data values

Reading an item from the record of a data file.  Unknown keys are passed over.  A
part of a part may be written as a list of its members in their fixed order, and
then there may be no more elements than members.

Contents and the records that describe them are nested in one another, so reading
goes down to a given level.  The depth of the value is always low enough.
-/

namespace InventorySearch

/-- Reads what studying grants. -/
def Curiosity.ofValue? (value : Value) : Option Curiosity := do
  guard (value.hasAtMost 2)
  let points ← Value.required Value.toBinary64? (← value.member? 0 "exp")
  let pointsPerHour ← Value.withDefault .zero Value.toBinary64? (← value.member? 1 "lph")
  return { points, pointsPerHour }

/-- Reads a food event. -/
def FoodEvent.ofValue? (value : Value) : Option FoodEvent := do
  guard (value.hasAtMost 2)
  let stat ← Value.optional Value.toText? (← value.member? 0 "name")
  let amount ← Value.required Value.toBinary64? (← value.member? 1 "amount")
  return { stat, amount }

/-- Reads what eating grants. -/
def Food.ofValue? (value : Value) : Option Food := do
  guard (value.hasAtMost 1)
  let events ← Value.withDefault [] (Value.toList? FoodEvent.ofValue?)
    (← value.member? 0 "events")
  return { events := events }

mutual

/-- Reads what a container holds, with so many levels of nesting below it. -/
def Contents.ofValueWithin? : Nat → Value → Option Contents
  | 0, _ => none
  | levels + 1, value => do
    guard (value.hasAtMost 4)
    let name ← Value.optional Value.toText? (← value.member? 0 "name")
    let count ← Value.withDefault .zero Value.toBinary64? (← value.member? 1 "count")
    let quality ← Value.optional Value.toBinary64? (← value.member? 2 "quality")
    let records ← Value.withDefault [] (Value.toList? (Item.ofValueWithin? levels))
      (← value.member? 3 "sub")
    return { name, count, quality, records }

/-- Reads an item, with so many levels of nesting below it. -/
def Item.ofValueWithin? : Nat → Value → Option Item
  | 0, _ => none
  | levels + 1, value => do
    guard (value.hasAtMost 5)
    let name ← Value.optional Value.toText? (← value.member? 0 "name")
    let quality ← Value.optional Value.toBinary64? (← value.member? 1 "quality")
    let curiosity ← Value.optional Curiosity.ofValue? (← value.member? 2 "curiosity")
    let food ← Value.optional Food.ofValue? (← value.member? 3 "food")
    let contents ← Value.optional (Contents.ofValueWithin? levels) (← value.member? 4 "content")
    return { name, quality, curiosity, food, contents }

end

/-- Reads an item. -/
def Item.ofValue? (value : Value) : Option Item := Item.ofValueWithin? value.depth value

end InventorySearch
