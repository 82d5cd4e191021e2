import InventorySearch.Power

/-!
# Numerals

Decimal numerals of natural numbers: writing one, and the number that a row of
digits stands for.  Reading a numeral that was written gives the number back,
`numeralValue_numeral`.  Digits of other bases are read one at a time.
-/

namespace InventorySearch.Text

/-- The decimal numeral of a number: no leading zero but for zero itself. -/
def numeral (n : Nat) : List Char := Nat.toDigits 10 n

/-- The number that a row of decimal digits stands for; the empty row stands for zero. -/
def numeralValue (digits : List Char) : Nat := Nat.ofDigitChars 10 digits 0

/-- Reading a numeral gives back the number it was written for. -/
@[simp]
theorem numeralValue_numeral (n : Nat) : numeralValue (numeral n) = n :=
  Nat.ofDigitChars_ten_toDigits

theorem isDigit_of_mem_numeral {c : Char} {n : Nat} (h : c ∈ numeral n) : c.isDigit = true :=
  Nat.isDigit_of_mem_toDigits (by decide) (by decide) h

theorem numeral_ne_nil (n : Nat) : numeral n ≠ [] :=
  Nat.toDigits_ne_nil

theorem length_numeral_le {n k : Nat} (hk : 0 < k) (h : n < power 10 k) :
    (numeral n).length ≤ k :=
  (Nat.length_toDigits_le_iff (by decide) hk).2 h

/-- The digits behind count by their place. -/
theorem numeralValue_append (s t : List Char) :
    numeralValue (s ++ t) = numeralValue s * power 10 t.length + numeralValue t := by
  rw [numeralValue, Nat.ofDigitChars_append, Nat.ofDigitChars_eq_ofDigitChars_zero, Nat.mul_comm]
  rfl

/-- Leading zeros do not count. -/
@[simp]
theorem numeralValue_leftpad (k : Nat) (s : List Char) :
    numeralValue (s.leftpad k '0') = numeralValue s := by
  rw [List.leftpad, numeralValue, Nat.ofDigitChars_append, Nat.ofDigitChars_replicate_zero,
    Nat.mul_zero]
  rfl

/-- The value of a hexadecimal digit in either case. -/
def hexDigit? (c : Char) : Option Nat :=
  if c.isDigit then some (c.toNat - '0'.toNat)
  else if 'a' ≤ c && c ≤ 'f' then some (c.toNat - 'a'.toNat + 10)
  else if 'A' ≤ c && c ≤ 'F' then some (c.toNat - 'A'.toNat + 10)
  else none

end InventorySearch.Text
