import InventorySearch.Json.Number

/-!
# JSON tokens

A JSON text as a row of tokens.  The text is read one character at a time by a
machine that keeps the tokens found so far and what it is in the middle of.

A quoted text is first kept as written: characters, and code units from `\u`
escapes.  Only when the closing quote is reached are the units paired up.
-/

namespace InventorySearch.Json

/-- A token of a JSON text. -/
inductive Token where
  | arrayStart
  | arrayEnd
  | objectStart
  | objectEnd
  | colon
  | comma
  | null
  | truth (value : Bool)
  | number (literal : Number)
  /-- A quoted text; no content if a surrogate in it is not part of a pair. -/
  | text (content : Option String)
deriving DecidableEq, Repr

/-- A part of a quoted text. -/
inductive Piece where
  /-- A character, perhaps from a short escape. -/
  | character (c : Char)
  /-- A code unit from an escape by number. -/
  | unit (code : Nat)
deriving DecidableEq, Repr

/-- Whether a code unit is the first half of a surrogate pair. -/
def isHighSurrogate (code : Nat) : Bool := 0xD800 ≤ code && code < 0xDC00

/-- Whether a code unit is the second half of a surrogate pair. -/
def isLowSurrogate (code : Nat) : Bool := 0xDC00 ≤ code && code < 0xE000

/-- The character of a surrogate pair. -/
def ofSurrogates (high low : Nat) : Char :=
  Char.ofNat (0x10000 + (high - 0xD800) * 0x400 + (low - 0xDC00))

/-- The characters of a quoted text, unless a surrogate in it is not part of a pair. -/
def assemble : List Piece → Option (List Char)
  | [] => some []
  | .character c :: pieces => (assemble pieces).map (c :: ·)
  | .unit high :: .unit low :: pieces =>
    if isHighSurrogate high then
      if isLowSurrogate low then (assemble pieces).map (ofSurrogates high low :: ·) else none
    else if isLowSurrogate high then none
    else (assemble (.unit low :: pieces)).map (Char.ofNat high :: ·)
  | .unit code :: pieces =>
    if isHighSurrogate code || isLowSurrogate code then none
    else (assemble pieces).map (Char.ofNat code :: ·)

/-- The character that a short escape stands for. -/
def shortEscape? (c : Char) : Option Char :=
  [('"', '"'), ('\\', '\\'), ('/', '/'), ('b', '\x08'), ('f', '\x0c'), ('n', '\n'), ('r', '\r'),
    ('t', '\t')].lookup c

/-- The token of a bare word. -/
def wordToken? (word : List Char) : Option Token :=
  [(['n', 'u', 'l', 'l'], Token.null), (['t', 'r', 'u', 'e'], .truth true),
    (['f', 'a', 'l', 's', 'e'], .truth false)].lookup word

/-- The token of a character that is a token by itself. -/
def signToken? (c : Char) : Option Token :=
  [('[', Token.arrayStart), (']', .arrayEnd), ('\x7b', .objectStart), ('\x7d', .objectEnd),
    (':', .colon), (',', .comma)].lookup c

/-- Whether a character may stand between tokens. -/
def isBlankCharacter (c : Char) : Bool := c = ' ' || c = '\t' || c = '\n' || c = '\r'

/-- Whether a character can belong to a number literal. -/
def isNumberCharacter (c : Char) : Bool :=
  c.isDigit || c = '-' || c = '+' || c = '.' || c = 'e' || c = 'E'

/-- What the tokeniser is in the middle of.  Rows of characters and pieces have the latest first. -/
inductive Mode where
  /-- Between tokens. -/
  | between
  /-- Inside a bare word. -/
  | word (letters : List Char)
  /-- Inside a number literal. -/
  | number (characters : List Char)
  /-- Inside a quoted text. -/
  | quoted (pieces : List Piece)
  /-- Behind a backslash in a quoted text. -/
  | escaped (pieces : List Piece)
  /-- Inside an escape by number, with so many digits read and that value. -/
  | coded (pieces : List Piece) (digits : Nat) (code : Nat)

/-- The state of the tokeniser. -/
structure Tokeniser where
  /-- What it is in the middle of. -/
  mode : Mode
  /-- The tokens found so far, the latest first. -/
  found : List Token

namespace Tokeniser

/-- The state before the first character. -/
def start : Tokeniser := ⟨.between, []⟩

/-- Reads a character that stands between tokens or begins one. -/
def enter (found : List Token) (c : Char) : Option Tokeniser :=
  if isBlankCharacter c then some ⟨.between, found⟩
  else if c = '"' then some ⟨.quoted [], found⟩
  else if c.isDigit || c = '-' then some ⟨.number [c], found⟩
  else if c.isLower then some ⟨.word [c], found⟩
  else (signToken? c).map fun token => ⟨.between, token :: found⟩

/-- The tokens, when a token may end here: a bare word or a number literal ends where the next
character does not belong to it. -/
def settled? (t : Tokeniser) : Option (List Token) :=
  match t.mode with
  | .between => some t.found
  | .word letters => (wordToken? letters.reverse).map (· :: t.found)
  | .number characters => (Number.read? characters.reverse).map (.number · :: t.found)
  | _ => none

/-- Reads a character inside a quoted text. -/
def continueQuoted (found : List Token) (pieces : List Piece) (c : Char) : Option Tokeniser :=
  if c = '"' then
    some ⟨.between, .text ((assemble pieces.reverse).map String.ofList) :: found⟩
  else if c = '\\' then some ⟨.escaped pieces, found⟩
  else if c.toNat < 0x20 then none
  else some ⟨.quoted (.character c :: pieces), found⟩

/-- Reads the character behind a backslash. -/
def continueEscaped (found : List Token) (pieces : List Piece) (c : Char) : Option Tokeniser :=
  if c = 'u' then some ⟨.coded pieces 0 0, found⟩
  else (shortEscape? c).map fun character => ⟨.quoted (.character character :: pieces), found⟩

/-- Reads a digit of an escape by number; the fourth one completes it. -/
def continueCoded (found : List Token) (pieces : List Piece) (digits code : Nat) (c : Char) :
    Option Tokeniser :=
  (Text.hexDigit? c).map fun digit =>
    let code := code * 16 + digit
    if digits = 3 then ⟨.quoted (.unit code :: pieces), found⟩
    else ⟨.coded pieces (digits + 1) code, found⟩

/-- Reads one character. -/
def step (t : Tokeniser) (c : Char) : Option Tokeniser :=
  match t.mode with
  | .between => enter t.found c
  | .word letters =>
    if c.isLower then some ⟨.word (c :: letters), t.found⟩
    else t.settled?.bind (enter · c)
  | .number characters =>
    if isNumberCharacter c then some ⟨.number (c :: characters), t.found⟩
    else t.settled?.bind (enter · c)
  | .quoted pieces => continueQuoted t.found pieces c
  | .escaped pieces => continueEscaped t.found pieces c
  | .coded pieces digits code => continueCoded t.found pieces digits code c

end Tokeniser

/-- The tokens of a text, if it consists of tokens. -/
def tokens? (text : List Char) : Option (List Token) := do
  let final ← text.foldlM Tokeniser.step .start
  let found ← final.settled?
  return found.reverse

end InventorySearch.Json
