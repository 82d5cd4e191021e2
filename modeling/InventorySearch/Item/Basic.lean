import InventorySearch.Binary64.Rounding
import InventorySearch.Text.Lowercase

/-!
# Items

What is known about an item of an inventory.  Every part may be missing.

A container can hold something that is described by records of its own, and such a
record has the same parts as an item, so the two types are defined together.
-/

namespace InventorySearch

/-- What studying an item grants. -/
structure Curiosity where
  /-- The learning points in total. -/
  points : Binary64
  /-- The learning points per hour of study. -/
  pointsPerHour : Binary64 := .zero
deriving DecidableEq

/-- Points towards one stat of the eater, granted by eating an item. -/
structure FoodEvent where
  /-- The stat, if it is known. -/
  stat : Option String := none
  /-- The points. -/
  amount : Binary64
deriving DecidableEq

/-- What eating an item grants. -/
structure Food where
  /-- The events in order. -/
  events : List FoodEvent := []
deriving DecidableEq

namespace Food

/-- The points of all events together. -/
def total (food : Food) : Binary64 := .sum (food.events.map FoodEvent.amount)

/-- The known stats in lower case. -/
def knownStats (food : Food) : List String :=
  (food.events.filterMap FoodEvent.stat).map Text.lowercase

end Food

mutual

/-- What a container holds. -/
structure Contents where
  /-- What it is called. -/
  name : Option String := none
  /-- How much of it there is. -/
  count : Binary64 := .zero
  /-- Its quality, when it is reported directly. -/
  quality : Option Binary64 := none
  /-- Records that describe it further. -/
  records : List Item := []

/-- An item, or a record that describes the contents of a container. -/
structure Item where
  /-- The display name. -/
  name : Option String := none
  /-- The quality. -/
  quality : Option Binary64 := none
  /-- What studying it grants, if it can be studied. -/
  curiosity : Option Curiosity := none
  /-- What eating it grants, if it can be eaten. -/
  food : Option Food := none
  /-- What it holds, if it is a container. -/
  contents : Option Contents := none

end

instance : Inhabited Item := ⟨{}⟩

namespace Contents

/-- Whether the container holds anything. -/
def isFilled (contents : Contents) : Bool := Binary64.zero.less contents.count

end Contents

end InventorySearch
