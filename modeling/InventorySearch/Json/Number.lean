import InventorySearch.Binary64.Scaling
import InventorySearch.Binary64.Shortest

/-!
# Number literals of JSON

A literal by its parts, reading and writing it, and the literal under which a
double is written: the shortest decimal that reads back, positional from `1e-5` up
to `1e16` with at least one digit behind the point, and otherwise with one digit
before the point and a signed exponent.

A literal is not rounded as a whole when it is read as a double.  Its digits go into a
significand of 64 bits, as many of them as fit.  The significand is rounded to a double,
and scaling that by a power of ten rounds it again.  So the double that is read can be
another one than the nearest, and a double can be written and read as another one.
-/

namespace InventorySearch.Json

/-- The parts of a number literal. -/
structure Number where
  /-- Whether it starts with a minus sign. -/
  negative : Bool
  /-- The digits before the point. -/
  whole : List Char
  /-- The digits behind the point; none if there is no point. -/
  fraction : List Char
  /-- The power of ten, if one is written. -/
  exponent : Option Int
deriving DecidableEq, Repr

namespace Number

/-- The literal of a natural number. -/
def ofNat (n : Nat) : Number := ⟨false, Text.numeral n, [], none⟩

/-- The number of a text that consists of one digit or more, and of nothing else. -/
def readDigits? (s : List Char) : Option Nat :=
  if !s.isEmpty && s.all Char.isDigit then some (Text.numeralValue s) else none

/-- Reads the exponent that may end a literal. -/
def readExponent? : List Char → Option (Option Int)
  | [] => some none
  | mark :: rest =>
    if mark = 'e' || mark = 'E' then
      match rest with
      | '-' :: digits => (readDigits? digits).map fun n => some (-(n : Int))
      | '+' :: digits => (readDigits? digits).map fun n => some (n : Int)
      | digits => (readDigits? digits).map fun n => some (n : Int)
    else none

/-- Whether digits may stand before the point: at least one, and no zero before others. -/
def isWhole : List Char → Bool
  | [] => false
  | ['0'] => true
  | lead :: _ => lead ≠ '0'

/-- Reads a literal behind its sign. -/
def readUnsigned? (negative : Bool) (s : List Char) : Option Number :=
  let (whole, rest) := s.span Char.isDigit
  if isWhole whole then
    match rest with
    | '.' :: rest =>
      let (fraction, rest) := rest.span Char.isDigit
      if fraction.isEmpty then none
      else (readExponent? rest).map (⟨negative, whole, fraction, ·⟩)
    | rest => (readExponent? rest).map (⟨negative, whole, [], ·⟩)
  else none

/-- Reads a literal that makes up a whole text. -/
def read? : List Char → Option Number
  | '-' :: rest => readUnsigned? true rest
  | rest => readUnsigned? false rest

/-- The text of an exponent, its sign always written. -/
def exponentText (power : Int) : List Char :=
  'e' :: (if power < 0 then '-' else '+') :: Text.numeral power.natAbs

/-- The text of a literal. -/
def text (n : Number) : List Char :=
  (if n.negative then ['-'] else []) ++ n.whole
    ++ (if n.fraction.isEmpty then [] else '.' :: n.fraction)
    ++ n.exponent.elim [] exponentText

/-- Whether a literal has neither a point nor an exponent. -/
def isInteger (n : Number) : Bool := n.fraction.isEmpty && n.exponent.isNone

/-- The decimal number of a literal, its sign aside. -/
def toDecimal (n : Number) : Decimal :=
  ⟨Text.numeralValue (n.whole ++ n.fraction), n.exponent.getD 0 - n.fraction.length⟩

/-- Puts digits behind a significand for as long as it stays within 64 bits.  The digits that are
left over are only counted. -/
def fill (significand : Nat) : List Char → Nat × Nat
  | [] => (significand, 0)
  | digit :: rest =>
    let next := 10 * significand + (digit.toNat - '0'.toNat)
    if next < power 2 64 then fill next rest else (significand, rest.length + 1)

/-- What is kept of a literal, its sign aside.  Digits before the point that are left over count for
the power of ten, and those behind it do not count.  The point starts a new attempt: a digit behind
it is taken if it fits, also where one before it was left over. -/
def kept (n : Number) : Decimal :=
  let (whole, dropped) := fill 0 n.whole
  let (significand, ignored) := fill whole n.fraction
  ⟨significand, n.exponent.getD 0 + dropped - (n.fraction.length - ignored : Nat)⟩

/-- The double that a literal is read as, unless it is out of range. -/
def toBinary64? (n : Number) : Option Binary64 :=
  let x := (Binary64.ofRatio false n.kept.digits 1).scale n.kept.exponent
  if x.isFinite then some (if n.negative then x.negate else x) else none

/-- The literal of a decimal number in scientific notation. -/
def scientific (negative : Bool) (d : Decimal) : Number :=
  let digits := Text.numeral d.digits
  ⟨negative, digits.take 1, digits.drop 1, some d.magnitude⟩

/-- The literal of a decimal number in positional notation, with at least one digit behind the
point. -/
def positional (negative : Bool) (d : Decimal) : Number :=
  ⟨negative, d.wholePart, if d.fractionPart.isEmpty then ['0'] else d.fractionPart, none⟩

/-- The literal of a decimal number in the notation that suits its size. -/
def ofDecimal (negative : Bool) (d : Decimal) : Number :=
  if -5 ≤ d.magnitude && d.magnitude < 16 then positional negative d
  else scientific negative d

end Number

end InventorySearch.Json
