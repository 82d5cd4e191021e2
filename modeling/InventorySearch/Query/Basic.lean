import InventorySearch.Comparison

/-!
# Queries

A query asks for items by name or by a property.  A property query names one of
three properties and a filter on it:

* no filter, which asks whether the item has the property;
* the name of a food event;
* a number with an optional comparison.
-/

namespace InventorySearch

/-- The properties of an item that a query can address. -/
inductive Property where
  /-- The learning points that studying the item grants. -/
  | learningPoints
  /-- The learning points per hour of study. -/
  | learningPointsPerHour
  /-- The points of the food events of eating the item. -/
  | foodEnergy
deriving DecidableEq, Repr

namespace Property

/-- The keyword under which a property is shown. -/
def keyword : Property → List Char
  | learningPoints => ['l', 'p']
  | learningPointsPerHour => ['l', 'p', 'h']
  | foodEnergy => ['f', 'e', 'p']

/-- The keywords of the properties: the shown ones and two longer words. -/
def keywords : List (List Char × Property) :=
  [(['l', 'p'], learningPoints), (['s', 't', 'u', 'd', 'y'], learningPoints),
   (['l', 'p', 'h'], learningPointsPerHour),
   (['f', 'e', 'p'], foodEnergy), (['f', 'o', 'o', 'd'], foodEnergy)]

/-- The property with a given keyword. -/
def ofKeyword? (word : List Char) : Option Property := keywords.lookup word

end Property

/-- What a property query asks of its property. -/
inductive Filter where
  /-- That it is there. -/
  | any
  /-- That it mentions a name. -/
  | named (name : String)
  /-- That it compares with a number; no comparison means equality. -/
  | numeric (comparison : Option Comparison) (target : Binary64)
deriving DecidableEq

/-- A search query. -/
inductive Query where
  /-- Asks for a text in the name of the item. -/
  | name (text : String)
  /-- Asks about a property of the item. -/
  | property (subject : Property) (filter : Filter)
deriving DecidableEq

namespace Query

/-- Whether a query asks about a property. -/
def isProperty : Query → Bool
  | property .. => true
  | name _ => false

/-- Whether a query asks for the empty name, which nothing matches. -/
def isEmpty : Query → Bool
  | name text => text.isEmpty
  | property .. => false

end Query

end InventorySearch
