import InventorySearch.Binary64.PlainText
import InventorySearch.Query.Basic

/-!
# Canonical form of queries

The text under which a query is shown: the shown keyword of its property, a colon,
and the modifier.
-/

namespace InventorySearch

/-- The modifier that stands for a filter. -/
def Filter.canonical : Filter → List Char
  | any => []
  | named name => name.toList
  | numeric comparison target => (comparison.elim [] Comparison.symbol) ++ target.plainText

/-- The canonical form of a query. -/
def Query.canonical : Query → String
  | name text => text
  | property subject filter => String.ofList (subject.keyword ++ ':' :: filter.canonical)

end InventorySearch
