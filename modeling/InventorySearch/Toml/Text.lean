import InventorySearch.Text.Numeral

/-!
# Texts in TOML

The characters, blanks, comments and quoted texts of TOML.  Every reader takes the
characters that are left and gives what it read together with the characters behind
it, or nothing if it cannot read there.
-/

namespace InventorySearch.Toml

/-- Whether a character is a blank that may stand within a line. -/
def isBlankCharacter (c : Char) : Bool := c = ' ' || c = '\t'

/-- Whether a character may stand in a comment or a text at all: all but the control characters
other than the tab. -/
def isTextCharacter (c : Char) : Bool := c = '\t' || (0x20 ≤ c.toNat && c.toNat ≠ 0x7F)

/-- What is behind the blanks. -/
def skipBlanks (s : List Char) : List Char := s.dropWhile isBlankCharacter

/-- What is behind a line end. -/
def skipNewline? : List Char → Option (List Char)
  | '\n' :: rest => some rest
  | '\r' :: '\n' :: rest => some rest
  | _ => none

/-- What is behind a comment, which reaches to the end of the line. -/
def skipComment (s : List Char) : List Char := s.dropWhile isTextCharacter

/-- What is behind blanks and a comment, if they reach to the end of a line or of the text. -/
def skipLineEnd? (s : List Char) : Option (List Char) :=
  let s := skipBlanks s
  let s := if s.head? = some '#' then skipComment s else s
  if s.isEmpty then some [] else skipNewline? s

/-- The character whose code point these hexadecimal digits spell. -/
def codedCharacter? (digits : List Char) : Option Char := do
  let values ← digits.mapM Text.hexDigit?
  let code := values.foldl (fun code value => code * 16 + value) 0
  if code.isValidChar then some (Char.ofNat code) else none

/-- The character that a short escape stands for. -/
def shortEscape? (c : Char) : Option Char :=
  [('b', '\x08'), ('t', '\t'), ('n', '\n'), ('f', '\x0c'), ('r', '\r'), ('"', '"'),
    ('\\', '\\')].lookup c

/-- Puts a character that has been read in front of the rest of its text. -/
def prepend (c : Char) (text : Option (List Char × List Char)) : Option (List Char × List Char) :=
  text.map fun (content, rest) => (c :: content, rest)

/-! ## Texts on one line -/

/-- Reads a text with escapes up to its closing quote. -/
def readBasic? : List Char → Option (List Char × List Char)
  | [] => none
  | '"' :: rest => some ([], rest)
  | '\\' :: 'u' :: a :: b :: c :: d :: rest => do
    prepend (← codedCharacter? [a, b, c, d]) (readBasic? rest)
  | '\\' :: 'U' :: a :: b :: c :: d :: e :: f :: g :: h :: rest => do
    prepend (← codedCharacter? [a, b, c, d, e, f, g, h]) (readBasic? rest)
  | '\\' :: mark :: rest => do prepend (← shortEscape? mark) (readBasic? rest)
  | c :: rest => if isTextCharacter c then prepend c (readBasic? rest) else none

/-- Reads a text without escapes up to its closing quote. -/
def readLiteral? : List Char → Option (List Char × List Char)
  | [] => none
  | '\'' :: rest => some ([], rest)
  | c :: rest => if isTextCharacter c then prepend c (readLiteral? rest) else none

/-! ## Texts over several lines -/

/-- Whether a backslash is followed by nothing but blanks up to a line end. -/
def endsLine (s : List Char) : Bool := (skipNewline? (skipBlanks s)).isSome

/-- Up to two quotes that belong to a text although three more close it. -/
def trailingQuotes (quote : Char) : List Char → List Char × List Char
  | a :: b :: rest =>
    if a = quote then
      if b = quote then ([quote, quote], rest) else ([quote], b :: rest)
    else ([], a :: b :: rest)
  | [a] => if a = quote then ([quote], []) else ([], [a])
  | [] => ([], [])

/-- Reads a text with escapes up to its three closing quotes.  The flag says that blanks and line
ends are being passed over, which a backslash at the end of a line asks for. -/
def readMultilineBasic? (trimming : Bool) : List Char → Option (List Char × List Char)
  | [] => none
  | '"' :: '"' :: '"' :: rest => some (trailingQuotes '"' rest)
  | '\r' :: '\n' :: rest =>
    if trimming then readMultilineBasic? true rest
    else prepend '\n' (readMultilineBasic? false rest)
  | '\\' :: 'u' :: a :: b :: c :: d :: rest => do
    prepend (← codedCharacter? [a, b, c, d]) (readMultilineBasic? false rest)
  | '\\' :: 'U' :: a :: b :: c :: d :: e :: f :: g :: h :: rest => do
    prepend (← codedCharacter? [a, b, c, d, e, f, g, h]) (readMultilineBasic? false rest)
  | '\\' :: mark :: rest =>
    if endsLine (mark :: rest) then readMultilineBasic? true (mark :: rest)
    else do prepend (← shortEscape? mark) (readMultilineBasic? false rest)
  | c :: rest =>
    if trimming && (isBlankCharacter c || c = '\n') then readMultilineBasic? true rest
    else if isTextCharacter c || c = '\n' then prepend c (readMultilineBasic? false rest)
    else none

/-- Reads a text without escapes up to its three closing quotes. -/
def readMultilineLiteral? : List Char → Option (List Char × List Char)
  | [] => none
  | '\'' :: '\'' :: '\'' :: rest => some (trailingQuotes '\'' rest)
  | '\r' :: '\n' :: rest => prepend '\n' (readMultilineLiteral? rest)
  | c :: rest =>
    if isTextCharacter c || c = '\n' then prepend c (readMultilineLiteral? rest) else none

/-- What is behind a line end that directly follows the opening quotes, which is no part of the
text. -/
def skipFirstNewline (s : List Char) : List Char := (skipNewline? s).getD s

/-- Reads a quoted text of any of the four kinds. -/
def readQuoted? : List Char → Option (List Char × List Char)
  | '"' :: '"' :: '"' :: rest => readMultilineBasic? false (skipFirstNewline rest)
  | '"' :: rest => readBasic? rest
  | '\'' :: '\'' :: '\'' :: rest => readMultilineLiteral? (skipFirstNewline rest)
  | '\'' :: rest => readLiteral? rest
  | _ => none

end InventorySearch.Toml
