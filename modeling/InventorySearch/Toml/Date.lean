import InventorySearch.Text.Numeral
import InventorySearch.Value

/-!
# Dates and times in TOML

A date, a time of day, or both, the latter perhaps with the distance from universal
time.  Days are held against the length of their month.

No data of this library is a date, so all of them have the same value, a record
whose only key means nothing to any reader.
-/

namespace InventorySearch.Toml

/-- The value of every date and time. -/
def dateValue : Value := .record [("$date", .null)]

/-- Reads a number of exactly so many digits. -/
def readFixed? (width : Nat) (s : List Char) : Option (Nat × List Char) :=
  let digits := s.take width
  if digits.length = width && digits.all Char.isDigit then
    some (Text.numeralValue digits, s.drop width)
  else none

/-- Reads a number of two digits within bounds. -/
def readPair? (least greatest : Nat) (s : List Char) : Option (Nat × List Char) :=
  (readFixed? 2 s).filter fun (n, _) => least ≤ n && n ≤ greatest

/-- What is behind a character that has to be there. -/
def skip? (expected : Char) : List Char → Option (List Char)
  | c :: rest => if c = expected then some rest else none
  | [] => none

/-- Whether a year has a leap day. -/
def isLeapYear (year : Nat) : Bool := year % 4 = 0 && (year % 100 ≠ 0 || year % 400 = 0)

/-- How many days a month has. -/
def daysInMonth (year month : Nat) : Nat :=
  if month = 2 then if isLeapYear year then 29 else 28
  else if [4, 6, 9, 11].contains month then 30
  else 31

/-- What is behind a date. -/
def skipDate? (s : List Char) : Option (List Char) := do
  let (year, s) ← readFixed? 4 s
  let (month, s) ← readPair? 1 12 (← skip? '-' s)
  let (_, s) ← readPair? 1 (daysInMonth year month) (← skip? '-' s)
  return s

/-- What is behind a fraction of a second, if there is one. -/
def skipFraction? : List Char → Option (List Char)
  | '.' :: rest =>
    if (rest.head?.map Char.isDigit).getD false then some (rest.dropWhile Char.isDigit) else none
  | rest => some rest

/-- What is behind a time of day. -/
def skipTime? (s : List Char) : Option (List Char) := do
  let (_, s) ← readPair? 0 23 s
  let (_, s) ← readPair? 0 59 (← skip? ':' s)
  let (_, s) ← readPair? 0 60 (← skip? ':' s)
  skipFraction? s

/-- What is behind a distance from universal time, if there is one. -/
def skipOffset? : List Char → Option (List Char)
  | [] => some []
  | c :: rest =>
    if c = 'Z' || c = 'z' then some rest
    else if c = '+' || c = '-' then do
      let (_, rest) ← readPair? 0 23 rest
      let (_, rest) ← readPair? 0 59 (← skip? ':' rest)
      return rest
    else some (c :: rest)

/-- What is behind a time of day that follows a date, if one follows. -/
def skipTimeOfDate? : List Char → Option (List Char)
  | [] => some []
  | c :: rest =>
    if c = 'T' || c = 't' || c = ' ' then
      match skipTime? rest with
      | some rest => skipOffset? rest
      | none => some (c :: rest)
    else some (c :: rest)

/-- Whether the text begins like a date: four digits and a hyphen. -/
def beginsDate (s : List Char) : Bool :=
  (readFixed? 4 s).any fun (_, rest) => rest.head? = some '-'

/-- Whether the text begins like a time of day: two digits and a colon. -/
def beginsTime (s : List Char) : Bool :=
  (readFixed? 2 s).any fun (_, rest) => rest.head? = some ':'

end InventorySearch.Toml
