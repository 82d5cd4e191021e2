import InventorySearch.Toml.Date
import InventorySearch.Toml.Number
import InventorySearch.Toml.Table
import InventorySearch.Toml.Text

/-!
# Reading TOML

The record that a TOML text defines.  The text is read line by line into
assignments under headers, and the tables are then put together from these.

Lists and tables that are written as values may be nested 79 deep, and a key may
have 79 parts.
-/

namespace InventorySearch.Toml

/-- How deep values may be nested, and how many parts a key may have. -/
def nestingLimit : Nat := 79

/-- What is behind a byte order mark at the very beginning. -/
def skipByteOrderMark : List Char → List Char
  | c :: rest => if c = '\uFEFF' then rest else c :: rest
  | [] => []

/-! ## Keys -/

/-- Whether a character may stand in a key without quotes. -/
def isKeyCharacter (c : Char) : Bool := c.isAlphanum || c = '_' || c = '-'

/-- Reads a key without dots. -/
def readSimpleKey? (s : List Char) : Option (String × List Char) :=
  match s with
  | '"' :: rest => (readBasic? rest).map fun (key, rest) => (String.ofList key, rest)
  | '\'' :: rest => (readLiteral? rest).map fun (key, rest) => (String.ofList key, rest)
  | _ =>
    let (key, rest) := s.span isKeyCharacter
    if key.isEmpty then none else some (String.ofList key, rest)

/-- Reads at most so many parts of a key, with dots between them and blanks around them. -/
def readKeyParts? : Nat → List Char → Option (List String × List Char)
  | 0, _ => none
  | limit + 1, s => do
    let (part, s) ← readSimpleKey? (skipBlanks s)
    match skipBlanks s with
    | '.' :: s =>
      let (parts, s) ← readKeyParts? limit s
      return (part :: parts, s)
    | s => return ([part], s)

/-- Reads a key: the keys on the way and the last one. -/
def readKey? (s : List Char) : Option ((List String × String) × List Char) := do
  let (parts, s) ← readKeyParts? nestingLimit s
  return ((parts.dropLast, ← parts.getLast?), s)

/-! ## Values -/

/-- What is behind blanks, line ends and comments.  The flag says that the text begins inside a
comment, which a line end has to close. -/
def skipSpaceFrom? (inComment : Bool) : List Char → Option (List Char)
  | [] => if inComment then none else some []
  | '\n' :: rest => skipSpaceFrom? false rest
  | '\r' :: '\n' :: rest => skipSpaceFrom? false rest
  | c :: rest =>
    if inComment then if isTextCharacter c then skipSpaceFrom? true rest else none
    else if isBlankCharacter c then skipSpaceFrom? false rest
    else if c = '#' then skipSpaceFrom? true rest
    else some (c :: rest)

/-- What is behind blanks, line ends and comments. -/
def skipSpace? (s : List Char) : Option (List Char) := skipSpaceFrom? false s

/-- Reads the elements of a list up to its closing bracket, at most so many. -/
def readElements? (readValue : List Char → Option (Value × List Char)) :
    Nat → List Char → Option (List Value × List Char)
  | 0, _ => none
  | limit + 1, s => do
    match ← skipSpace? s with
    | ']' :: rest => return ([], rest)
    | s =>
      let (element, s) ← readValue s
      match ← skipSpace? s with
      | ',' :: s =>
        let (elements, s) ← readElements? readValue limit s
        return (element :: elements, s)
      | ']' :: s => return ([element], s)
      | _ => none

/-- Reads an assignment: a key, an equals sign and a value. -/
def readAssignment? (readValue : List Char → Option (Value × List Char)) (s : List Char) :
    Option (Assignment × List Char) := do
  let ((path, key), s) ← readKey? s
  let (value, s) ← readValue (skipBlanks (← skip? '=' s))
  return ({ path, key, value }, s)

/-- Reads the assignments of a table that is written as a value, at most so many, up to the closing
bracket.  None may be missing behind a comma. -/
def readInline? (readValue : List Char → Option (Value × List Char)) :
    Nat → List Char → Option (List Assignment × List Char)
  | 0, _ => none
  | limit + 1, s => do
    let (assignment, s) ← readAssignment? readValue s
    match skipBlanks s with
    | ',' :: s =>
      let (assignments, s) ← readInline? readValue limit s
      return (assignment :: assignments, s)
    | '\x7d' :: s => return ([assignment], s)
    | _ => none

/-- Reads a table that is written as a value, behind its opening bracket, with at most so many
assignments. -/
def readInlineTable? (readValue : List Char → Option (Value × List Char)) (limit : Nat)
    (s : List Char) : Option (Value × List Char) :=
  match skipBlanks s with
  | '\x7d' :: rest => some (.record [], rest)
  | s => do
    let (assignments, rest) ← readInline? readValue limit s
    return (← Document.toValue? { assignments, sections := [] }, rest)

/-- Reads a value that starts with a digit or a sign: a date, a time or a number. -/
def readDateOrNumber? (s : List Char) : Option (Value × List Char) :=
  if beginsDate s then do
    return (dateValue, ← skipTimeOfDate? (← skipDate? s))
  else if beginsTime s then do
    return (dateValue, ← skipTime? s)
  else readNumber? s

/-- Reads a value that has no parts. -/
def readScalar? (s : List Char) : Option (Value × List Char) :=
  match s with
  | '"' :: _ | '\'' :: _ =>
    (readQuoted? s).map fun (content, rest) => (.text (String.ofList content), rest)
  | 't' :: 'r' :: 'u' :: 'e' :: rest => some (.truth true, rest)
  | 'f' :: 'a' :: 'l' :: 's' :: 'e' :: rest => some (.truth false, rest)
  | s => readDateOrNumber? s

/-- Reads a value in which values may be nested so deep, each with at most so many parts. -/
def readValueWithin? (limit : Nat) : Nat → List Char → Option (Value × List Char)
  | 0, s => readScalar? s
  | room + 1, s =>
    match s with
    | '[' :: rest =>
      (readElements? (readValueWithin? limit room) limit rest).map fun (elements, rest) =>
        (.list elements, rest)
    | '\x7b' :: rest => readInlineTable? (readValueWithin? limit room) limit rest
    | s => readScalar? s

/-- Reads a value whose lists and tables have at most so many parts each. -/
def readValue? (limit : Nat) (s : List Char) : Option (Value × List Char) :=
  readValueWithin? limit nestingLimit s

/-! ## Lines -/

/-- A line that is not empty. -/
inductive Line where
  /-- A header. -/
  | header (header : Header)
  /-- An assignment. -/
  | assignment (assignment : Assignment)

/-- Reads a header behind its opening brackets. -/
def readHeader? (kind : HeaderKind) (s : List Char) : Option (Line × List Char) := do
  let ((path, key), s) ← readKey? s
  let s ← skip? ']' s
  let s ← if kind = .repeated then skip? ']' s else some s
  return (.header { kind, path, key }, s)

/-- Reads what a line holds, if it is not empty or a comment. -/
def readLine? (limit : Nat) : List Char → Option (Option Line × List Char)
  | '[' :: '[' :: rest => (readHeader? .repeated rest).map fun (line, s) => (some line, s)
  | '[' :: rest => (readHeader? .single rest).map fun (line, s) => (some line, s)
  | s =>
    if s.isEmpty || [some '#', some '\n', some '\r'].contains s.head? then some (none, s)
    else (readAssignment? (readValue? limit) s).map fun (assignment, s) =>
      (some (.assignment assignment), s)

/-- Reads at most so many lines, empty ones left out, whose lists and tables have at most `limit`
parts each. -/
def readLines? (limit : Nat) : Nat → List Char → Option (List Line)
  | _, [] => some []
  | 0, _ => none
  | lines + 1, s => do
    let (line, s) ← readLine? limit (skipBlanks s)
    let later ← readLines? limit lines (← skipLineEnd? s)
    return line.toList ++ later

/-- Sorts lines under the headers above them. -/
def Document.ofLines : List Line → Document
  | [] => ⟨[], []⟩
  | .assignment assignment :: lines =>
    let later := Document.ofLines lines
    ⟨assignment :: later.assignments, later.sections⟩
  | .header header :: lines =>
    let later := Document.ofLines lines
    ⟨[], ⟨header, later.assignments⟩ :: later.sections⟩

/-- The record that a text defines, if it is a TOML text.  Nothing in it has more parts than it has
characters, and one more for what follows the last of them. -/
def read? (text : String) : Option Value := do
  let s := skipByteOrderMark text.toList
  let limit := s.length + 1
  let lines ← readLines? limit limit s
  (Document.ofLines lines).toValue?

end InventorySearch.Toml
