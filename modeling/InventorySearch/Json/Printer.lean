import InventorySearch.Json.Basic

/-!
# Writing JSON

The text of a JSON tree, either without any blanks or over several lines, each
level of nesting indented by two blanks.  Lists and objects without members are
written on one line either way.
-/

namespace InventorySearch.Json

/-- How a text is spread over lines. -/
inductive Layout where
  /-- All on one line and no blanks. -/
  | compact
  /-- One member to a line, indented. -/
  | indented
deriving DecidableEq, Repr

namespace Layout

/-- What stands between a bracket or comma and the next member at a depth of nesting. -/
def lineBreak : Layout → Nat → List Char
  | compact, _ => []
  | indented, depth => '\n' :: List.replicate (2 * depth) ' '

/-- What stands between a key and its value. -/
def colon : Layout → List Char
  | compact => [':']
  | indented => [':', ' ']

end Layout

/-- The escape of a control character by its code. -/
def codeEscape (c : Char) : List Char :=
  '\\' :: 'u' :: (Nat.toDigits 16 c.toNat).leftpad 4 '0'

/-- A character as it is written inside a quoted text. -/
def escape (c : Char) : List Char :=
  if c = '"' then ['\\', '"']
  else if c = '\\' then ['\\', '\\']
  else if c = '\x08' then ['\\', 'b']
  else if c = '\x0c' then ['\\', 'f']
  else if c = '\n' then ['\\', 'n']
  else if c = '\r' then ['\\', 'r']
  else if c = '\t' then ['\\', 't']
  else if c.toNat < 0x20 then codeEscape c
  else [c]

/-- A text in quotes. -/
def quote (s : List Char) : List Char := '"' :: s.flatMap escape ++ ['"']

/-- The quoted form of the content of a text. -/
def quoteContent (content : Option String) : List Char := quote (content.getD "").toList

mutual

/-- Writes a tree at a depth of nesting. -/
def renderAt (layout : Layout) (depth : Nat) : Json → List Char
  | null => ['n', 'u', 'l', 'l']
  | truth true => ['t', 'r', 'u', 'e']
  | truth false => ['f', 'a', 'l', 's', 'e']
  | number literal => literal.text
  | text content => quoteContent content
  | array [] => ['[', ']']
  | array (element :: elements) =>
    '[' :: (layout.lineBreak (depth + 1) ++ renderAt layout (depth + 1) element
      ++ renderElements layout (depth + 1) elements ++ layout.lineBreak depth ++ [']'])
  | object [] => ['\x7b', '\x7d']
  | object ((key, value) :: fields) =>
    '\x7b' :: (layout.lineBreak (depth + 1) ++ quoteContent key ++ layout.colon
      ++ renderAt layout (depth + 1) value
      ++ renderFields layout (depth + 1) fields ++ layout.lineBreak depth ++ ['\x7d'])

/-- Writes the elements that follow the first one of a list. -/
def renderElements (layout : Layout) (depth : Nat) : List Json → List Char
  | [] => []
  | element :: elements =>
    ',' :: (layout.lineBreak depth ++ renderAt layout depth element
      ++ renderElements layout depth elements)

/-- Writes the fields that follow the first one of an object. -/
def renderFields (layout : Layout) (depth : Nat) : List (Option String × Json) → List Char
  | [] => []
  | (key, value) :: fields =>
    ',' :: (layout.lineBreak depth ++ quoteContent key ++ layout.colon
      ++ renderAt layout depth value ++ renderFields layout depth fields)

end

/-- The text of a tree. -/
def render (layout : Layout) (tree : Json) : String := String.ofList (renderAt layout 0 tree)

end InventorySearch.Json
