import InventorySearch.Decimal.Rounding
import InventorySearch.Text.Numeral
import InventorySearch.Value

/-!
# Numbers in TOML

Integers of 64 bits in four bases, and doubles.  Single underscores may stand
between digits.  A double that is too large is an error if it is positive and
minus infinity if it is negative.
-/

namespace InventorySearch.Toml

/-- Reads the digits behind a first one; an underscore has to be followed by a digit. -/
def readMoreDigits? (isDigit : Char → Bool) : List Char → Option (List Char × List Char)
  | [] => some ([], [])
  | '_' :: digit :: rest =>
    if isDigit digit then
      (readMoreDigits? isDigit rest).map fun (digits, rest) => (digit :: digits, rest)
    else none
  | c :: rest =>
    if isDigit c then
      (readMoreDigits? isDigit rest).map fun (digits, rest) => (c :: digits, rest)
    else if c = '_' then none
    else some ([], c :: rest)

/-- Reads one digit or more. -/
def readDigits? (isDigit : Char → Bool) : List Char → Option (List Char × List Char)
  | [] => none
  | c :: rest =>
    if isDigit c then (readMoreDigits? isDigit rest).map fun (digits, rest) => (c :: digits, rest)
    else none

/-- Reads the digits of an integer, which do not start with a zero unless it is the only digit. -/
def readWhole? : List Char → Option (List Char × List Char)
  | '0' :: rest => some (['0'], rest)
  | rest => readDigits? Char.isDigit rest

/-- Whether there is a minus sign, and what is behind the sign. -/
def splitSign : List Char → Bool × List Char
  | '-' :: rest => (true, rest)
  | '+' :: rest => (false, rest)
  | rest => (false, rest)

/-- An integer, if it has no more than 64 bits. -/
def integer? (n : Int) : Option Value :=
  if -(power 2 63 : Int) ≤ n ∧ n < power 2 63 then some (.integer n) else none

/-- Reads an integer of another base behind its mark. -/
def readBased? (base : Nat) (s : List Char) : Option (Value × List Char) := do
  let value? (c : Char) : Option Nat := (Text.hexDigit? c).filter (· < base)
  let (digits, rest) ← readDigits? (fun c => (value? c).isSome) s
  let n := (digits.filterMap value?).foldl (fun n digit => n * base + digit) 0
  return (← integer? n, rest)

/-- Reads an exponent, if there is one; otherwise the power is zero. -/
def readExponent? : List Char → Option (Int × List Char)
  | [] => some (0, [])
  | c :: rest =>
    if c = 'e' || c = 'E' then do
      let (negative, rest) := splitSign rest
      let (digits, rest) ← readDigits? Char.isDigit rest
      let power : Int := Text.numeralValue digits
      return (if negative then -power else power, rest)
    else some (0, c :: rest)

/-- The double of a sign, the digits before and behind the point, and a power of ten. -/
def real? (negative : Bool) (whole fraction : List Char) (power : Int) : Option Value :=
  let x := Decimal.toBinary64Bounded negative
    ⟨Text.numeralValue (whole ++ fraction), power - fraction.length⟩
  if x = .infinite false then none else some (.real x)

/-- Reads a decimal number behind its sign: an integer unless a point or an exponent follows. -/
def readDecimal? (negative : Bool) (s : List Char) : Option (Value × List Char) := do
  let (whole, rest) ← readWhole? s
  match rest with
  | '.' :: rest =>
    let (fraction, rest) ← readDigits? Char.isDigit rest
    let (power, rest) ← readExponent? rest
    return (← real? negative whole fraction power, rest)
  | 'e' :: _ | 'E' :: _ =>
    let (power, rest) ← readExponent? rest
    return (← real? negative whole [] power, rest)
  | rest =>
    let n : Int := Text.numeralValue whole
    return (← integer? (if negative then -n else n), rest)

/-- Reads a number behind its sign, in words or in digits. -/
def readUnsigned? (negative : Bool) : List Char → Option (Value × List Char)
  | 'i' :: 'n' :: 'f' :: rest => some (.real (.infinite negative), rest)
  | 'n' :: 'a' :: 'n' :: rest => some (.real .nan, rest)
  | rest => readDecimal? negative rest

/-- Reads a number. -/
def readNumber? : List Char → Option (Value × List Char)
  | '0' :: 'x' :: rest => readBased? 16 rest
  | '0' :: 'o' :: rest => readBased? 8 rest
  | '0' :: 'b' :: rest => readBased? 2 rest
  | '-' :: rest => readUnsigned? true rest
  | '+' :: rest => readUnsigned? false rest
  | rest => readUnsigned? false rest

end InventorySearch.Toml
