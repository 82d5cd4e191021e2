import InventorySearch.Json.Basic
import InventorySearch.Json.Token

/-!
# Reading JSON

The tree of a JSON text.  Tokens are taken one at a time by a machine that keeps
the lists and objects it is inside of, the innermost first, so nesting is only
bounded by memory.
-/

namespace InventorySearch.Json

/-- A list or an object that is not complete.  Its members are kept with the latest first. -/
inductive Frame where
  /-- A list with the elements so far. -/
  | elements (before : List Json)
  /-- An object with the fields so far and the key whose value is being read. -/
  | fields (before : List (Option String × Json)) (key : Option String)

/-- Where the reader is in the text, with the incomplete lists and objects around it. -/
inductive Reader where
  /-- A value has to follow. -/
  | expectValue (outer : List Frame)
  /-- A list has just begun: a value or its end has to follow. -/
  | expectFirstElement (outer : List Frame)
  /-- An object has just begun: a key or its end has to follow. -/
  | expectFirstKey (outer : List Frame)
  /-- A key has to follow in an object with these fields. -/
  | expectKey (before : List (Option String × Json)) (outer : List Frame)
  /-- A colon has to follow this key. -/
  | expectColon (before : List (Option String × Json)) (key : Option String) (outer : List Frame)
  /-- This value is complete. -/
  | complete (tree : Json) (outer : List Frame)

namespace Reader

/-- Takes a token that begins a value. -/
def beginValue (outer : List Frame) : Token → Option Reader
  | .null => some (complete .null outer)
  | .truth value => some (complete (.truth value) outer)
  | .number literal => some (complete (.number literal) outer)
  | .text content => some (complete (.text content) outer)
  | .arrayStart => some (expectFirstElement outer)
  | .objectStart => some (expectFirstKey outer)
  | _ => none

/-- Takes the token behind a complete value. -/
def continueFrame (tree : Json) (outer : List Frame) : Frame → Token → Option Reader
  | .elements before, .comma => some (expectValue (.elements (tree :: before) :: outer))
  | .elements before, .arrayEnd => some (complete (.array (tree :: before).reverse) outer)
  | .fields before key, .comma => some (expectKey ((key, tree) :: before) outer)
  | .fields before key, .objectEnd =>
    some (complete (.object ((key, tree) :: before).reverse) outer)
  | _, _ => none

/-- Takes one token. -/
def step : Reader → Token → Option Reader
  | expectValue outer, token => beginValue outer token
  | expectFirstElement outer, .arrayEnd => some (complete (.array []) outer)
  | expectFirstElement outer, token => beginValue (.elements [] :: outer) token
  | expectFirstKey outer, .objectEnd => some (complete (.object []) outer)
  | expectFirstKey outer, .text content => some (expectColon [] content outer)
  | expectKey before outer, .text content => some (expectColon before content outer)
  | expectColon before key outer, .colon => some (expectValue (.fields before key :: outer))
  | complete tree (frame :: outer), token => continueFrame tree outer frame token
  | _, _ => none

/-- The tree, when a complete one has been read and nothing is open. -/
def result? : Reader → Option Json
  | complete tree [] => some tree
  | _ => none

end Reader

/-- The tree of a row of tokens, if it is that of one value. -/
def ofTokens? (tokens : List Token) : Option Json :=
  (tokens.foldlM Reader.step (.expectValue [])).bind Reader.result?

/-- The tree of a text, if it is a JSON text. -/
def read? (text : String) : Option Json := (tokens? text.toList).bind ofTokens?

end InventorySearch.Json
