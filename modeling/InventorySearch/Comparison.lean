import InventorySearch.Binary64.Rounding

/-!
# Comparisons

The five ways in which a query can compare a statistic of an item with a number,
their symbols, and when each holds.  Order is that of the numbers; equality allows
for a difference of less than a hundredth.
-/

namespace InventorySearch

/-- A way to compare a number with a target. -/
inductive Comparison where
  /-- Strictly greater. -/
  | greater
  /-- Greater or equal. -/
  | atLeast
  /-- Strictly less. -/
  | less
  /-- Less or equal. -/
  | atMost
  /-- Equal, near enough. -/
  | equal
deriving DecidableEq, Repr

namespace Comparison

/-- All comparisons. -/
def all : List Comparison := [greater, atLeast, less, atMost, equal]

/-- The operator that stands for a comparison in a query. -/
def symbol : Comparison → List Char
  | greater => ['>']
  | atLeast => ['>', '=']
  | less => ['<']
  | atMost => ['<', '=']
  | equal => ['=']

/-- The comparison with a given symbol. -/
def ofSymbol? (symbol : List Char) : Option Comparison :=
  all.find? (·.symbol = symbol)

@[simp]
theorem ofSymbol?_symbol (c : Comparison) : ofSymbol? c.symbol = some c := by
  cases c <;> rfl

/-- Equality holds for differences below this. -/
def equalityMargin : Binary64 := .ofRatio false 1 100

/-- Whether a comparison holds.  None holds when either side is not a number. -/
def holds (c : Comparison) (actual target : Binary64) : Bool :=
  match c with
  | greater => target.less actual
  | atLeast => target.atMost actual
  | less => actual.less target
  | atMost => actual.atMost target
  | equal => (actual.subtract target).magnitude.less equalityMargin

end Comparison

end InventorySearch
