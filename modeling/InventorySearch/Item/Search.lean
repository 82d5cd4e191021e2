import InventorySearch.Item.Basic
import InventorySearch.Query.Reading
import InventorySearch.Tolerance

/-!
# Items that satisfy a query

Whether one item, taken by itself, is what a query asks for.  What is not known
about the item satisfies nothing.
-/

namespace InventorySearch

/-- Whether a number is what a filter asks of a statistic of study.  Without a number in the filter
it only has to be positive. -/
def Filter.admitsStatistic (filter : Filter) (actual : Binary64) : Bool :=
  match filter with
  | .numeric comparison target => (comparison.getD .equal).holds actual target
  | .any | .named _ => Binary64.zero.less actual

/-- Whether a food is what a filter asks for: any food, one with an event towards a named
stat, or one whose points in total compare with a number. -/
def Filter.admitsFood (filter : Filter) (tolerance : Tolerance) (food : Food) : Bool :=
  match filter with
  | .any => true
  | .named name => food.knownStats.any (tolerance.accepts · name)
  | .numeric comparison target => (comparison.getD .equal).holds food.total target

namespace Item

/-- Whether an item has a property that a filter admits. -/
def hasProperty (item : Item) (tolerance : Tolerance) (subject : Property) (filter : Filter) :
    Bool :=
  match subject with
  | .learningPoints => item.curiosity.any (filter.admitsStatistic ·.points)
  | .learningPointsPerHour => item.curiosity.any (filter.admitsStatistic ·.pointsPerHour)
  | .foodEnergy => item.food.any (filter.admitsFood tolerance)

/-- Whether an item is what a query asks for.  The empty name is in no item. -/
def satisfies (item : Item) (tolerance : Tolerance) : Query → Bool
  | .name text => !text.isEmpty && item.name.any (tolerance.accepts · text)
  | .property subject filter => item.hasProperty tolerance subject filter

/-- Whether an item is what a search text asks for.  A blank text asks for nothing. -/
def satisfiesText (item : Item) (tolerance : Tolerance) (input : String) : Bool :=
  !Text.isBlank input && item.satisfies tolerance (.read input)

end Item

end InventorySearch
