import InventorySearch.Json.Meaning
import InventorySearch.Json.Token
import InventorySearch.Proofs.NumberLiteral
import InventorySearch.Proofs.ScaledDouble

/-!
# JSON number literals, written and read

`Number.IsLiteral` says which parts make up a literal: digits, with at least one before
the point and no zero in front of others.  Reading the text of a literal gives the same
parts back (`Number.read?_text`).

Two kinds of numbers are written.  The literal of a natural number of 64 bits means that
number (`Number.toValue_ofNat`).  That of a finite double need not mean that double, because
it is rounded more than once when it is read; `Binary64.IsReadBack` says that it does.  This
is so, with the sign also of zero, for all doubles whose literal has few digits and a small
power of ten (`Binary64.IsShort.isReadBack`).
-/

namespace InventorySearch

/-! ## Numerals -/

namespace Text

/-- No numeral but that of zero begins with a zero. -/
theorem head?_numeral_ne {n : Nat} (h : 0 < n) : ∀ c ∈ (numeral n).head?, c ≠ '0' := by
  have hdigit : ∀ d < 10, d ≠ 0 → Nat.digitChar d ≠ '0' := by decide
  induction n using Nat.strongRecOn with
  | ind n ih =>
    unfold numeral at ih ⊢
    rcases Nat.lt_or_ge n 10 with hlt | hge
    · rw [Nat.toDigits_of_lt_base hlt]
      intro c hc
      obtain rfl := Option.some.inj hc
      exact hdigit n hlt (by omega)
    · rw [Nat.toDigits_of_base_le (by decide) hge,
        List.head?_append, Option.or_of_isSome (by simp)]
      exact ih (n / 10) (by omega) (by omega)

end Text

namespace Json.Number

theorem readDigits?_numeral (n : Nat) : readDigits? (Text.numeral n) = some n := by
  have hne : (Text.numeral n).isEmpty = false :=
    List.isEmpty_eq_false_iff.2 (Text.numeral_ne_nil n)
  have hall : (Text.numeral n).all Char.isDigit = true :=
    List.all_eq_true.2 fun c hc => Text.isDigit_of_mem_numeral hc
  simp [readDigits?, hne, hall]

theorem isWhole_numeral (n : Nat) : isWhole (Text.numeral n) = true := by
  rcases Nat.eq_zero_or_pos n with rfl | hpos
  · rfl
  · have hhead := Text.head?_numeral_ne hpos
    cases hdigits : Text.numeral n with
    | nil => exact absurd hdigits (Text.numeral_ne_nil n)
    | cons c rest =>
      have hc : c ≠ '0' := hhead c (by simp [hdigits])
      unfold isWhole
      split <;> simp_all

theorem isWhole_singleton (c : Char) : isWhole [c] = true := by
  unfold isWhole
  split <;> simp_all

/-! ## Literals -/

/-- The parts of a number literal are what the grammar of JSON asks for. -/
structure IsLiteral (n : Number) : Prop where
  isWhole_whole : isWhole n.whole = true
  isDigit_whole : ∀ c ∈ n.whole, c.isDigit = true
  isDigit_fraction : ∀ c ∈ n.fraction, c.isDigit = true

/-- The point and what is behind it, up to the exponent. -/
def fractionText (n : Number) : List Char := if n.fraction.isEmpty then [] else '.' :: n.fraction

/-- The exponent as it is written, if there is one. -/
def exponentPart (n : Number) : List Char := n.exponent.elim [] exponentText

theorem text_eq (n : Number) : n.text =
    (if n.negative then ['-'] else []) ++ (n.whole ++ (n.fractionText ++ n.exponentPart)) := by
  simp [text, fractionText, exponentPart]

theorem readExponent?_exponentPart (n : Number) :
    readExponent? n.exponentPart = some n.exponent := by
  unfold exponentPart
  cases n.exponent with
  | none => rfl
  | some power =>
    rw [Option.elim_some, exponentText]
    by_cases hneg : power < 0
    · have hpower : -(power.natAbs : Int) = power := by omega
      rw [if_pos hneg]
      simp only [readExponent?, readDigits?_numeral]
      exact congrArg (fun power => some (some power)) hpower
    · have hpower : (power.natAbs : Int) = power := by omega
      rw [if_neg hneg]
      simp only [readExponent?, readDigits?_numeral]
      exact congrArg (fun power => some (some power)) hpower

theorem head?_exponentPart (n : Number) : ∀ c ∈ n.exponentPart.head?, c = 'e' := by
  unfold exponentPart
  cases n.exponent <;> simp [exponentText]

theorem head?_behind_whole (n : Number) :
    ∀ c ∈ (n.fractionText ++ n.exponentPart).head?, c.isDigit = false := by
  intro c hc
  unfold fractionText at hc
  split at hc
  · rw [n.head?_exponentPart c hc]
    rfl
  · obtain rfl : '.' = c := by simpa using hc
    rfl

variable {n : Number}

theorem IsLiteral.whole_eq_cons (h : n.IsLiteral) :
    ∃ c rest, n.whole = c :: rest ∧ c.isDigit = true := by
  cases hwhole : n.whole with
  | nil => exact absurd h.isWhole_whole (by simp [hwhole, isWhole])
  | cons c rest => exact ⟨c, rest, rfl, h.isDigit_whole c (by simp [hwhole])⟩

theorem readUnsigned?_text (h : n.IsLiteral) :
    readUnsigned? n.negative (n.whole ++ (n.fractionText ++ n.exponentPart)) = some n := by
  have hspan := Text.span_append h.isDigit_whole n.head?_behind_whole
  have hexponent := n.readExponent?_exponentPart
  unfold readUnsigned?
  rw [hspan]
  dsimp only
  rw [if_pos h.isWhole_whole, fractionText]
  by_cases hempty : n.fraction.isEmpty = true
  · have hnil : n.fraction = [] := List.isEmpty_iff.1 hempty
    rw [if_pos hempty, List.nil_append]
    split
    · next rest hrest =>
      have hpoint := n.head?_exponentPart '.' (by rw [hrest]; rfl)
      exact absurd hpoint (by decide)
    · rw [hexponent, Option.map_some, ← hnil]
  · have hspan' := Text.span_append (b := n.exponentPart) h.isDigit_fraction <| by
      intro c hc
      rw [n.head?_exponentPart c hc]
      rfl
    rw [if_neg hempty, List.cons_append]
    simp only [hspan', if_neg hempty, hexponent, Option.map_some]

/-- A literal that is written reads back. -/
theorem read?_text (h : n.IsLiteral) : read? n.text = some n := by
  have hunsigned := readUnsigned?_text h
  obtain ⟨c, rest, hwhole, hdigit⟩ := h.whole_eq_cons
  rw [text_eq]
  cases hnegative : n.negative with
  | true =>
    rw [hnegative] at hunsigned
    exact hunsigned
  | false =>
    rw [hnegative] at hunsigned
    rw [if_neg Bool.false_ne_true, List.nil_append]
    unfold read?
    split
    · next hminus =>
      rw [hwhole, List.cons_append] at hminus
      obtain rfl : c = '-' := List.head_eq_of_cons_eq hminus
      exact absurd hdigit (by decide)
    · exact hunsigned

/-! ## Characters of a literal -/

theorem isNumberCharacter_of_isDigit {c : Char} (h : c.isDigit = true) :
    isNumberCharacter c = true := by
  simp [isNumberCharacter, h]

theorem isNumberCharacter_of_mem_text (h : n.IsLiteral) {c : Char} (hc : c ∈ n.text) :
    isNumberCharacter c = true := by
  simp only [text_eq, List.mem_append] at hc
  rcases hc with hsign | hwhole | hfraction | hexponent
  · obtain rfl : c = '-' := by
      cases hnegative : n.negative <;> simp_all
    rfl
  · exact isNumberCharacter_of_isDigit (h.isDigit_whole c hwhole)
  · unfold fractionText at hfraction
    split at hfraction
    · exact absurd hfraction List.not_mem_nil
    · rcases List.mem_cons.1 hfraction with rfl | hdigit
      · rfl
      · exact isNumberCharacter_of_isDigit (h.isDigit_fraction c hdigit)
  · unfold exponentPart at hexponent
    cases hpower : n.exponent with
    | none => exact absurd hexponent (by simp [hpower])
    | some power =>
      simp only [hpower, Option.elim_some, exponentText, List.mem_cons] at hexponent
      rcases hexponent with rfl | hsign | hdigit
      · rfl
      · split at hsign <;> (subst hsign; rfl)
      · exact isNumberCharacter_of_isDigit (Text.isDigit_of_mem_numeral hdigit)

/-- A literal begins with a digit or a minus sign. -/
theorem exists_text_eq_cons (h : n.IsLiteral) :
    ∃ c rest, n.text = c :: rest ∧ (c.isDigit || c = '-') = true := by
  obtain ⟨c, rest, hwhole, hdigit⟩ := h.whole_eq_cons
  rw [text_eq, hwhole]
  cases n.negative with
  | true => exact ⟨'-', _, rfl, rfl⟩
  | false => exact ⟨c, _, rfl, by simp [hdigit]⟩

/-! ## Natural numbers -/

theorem isLiteral_ofNat (k : Nat) : (ofNat k).IsLiteral where
  isWhole_whole := isWhole_numeral k
  isDigit_whole _ hc := Text.isDigit_of_mem_numeral hc
  isDigit_fraction _ hc := absurd hc List.not_mem_nil

/-- A natural number of 64 bits is read as a whole number. -/
theorem toValue_ofNat {k : Nat} (h : k < power 2 64) : (ofNat k).toValue = .integer k := by
  have hdigits : (ofNat k).toDecimal.digits = k := by
    simp [ofNat, toDecimal]
  have hinteger : (ofNat k).isInteger = true := rfl
  have hpositive : (ofNat k).negative = false := rfl
  simp [toValue, hdigits, hinteger, hpositive, h]

/-! ## Doubles -/

theorem isDigit_of_mem_fraction {d : Decimal} {c : Char}
    (hc : c ∈ if d.fractionPart.isEmpty then ['0'] else d.fractionPart) : c.isDigit = true := by
  split at hc
  · rw [List.mem_singleton.1 hc]
    rfl
  · exact Decimal.isDigit_of_mem_fractionPart hc

theorem isLiteral_positional (negative : Bool) (d : Decimal) :
    (positional negative d).IsLiteral where
  isWhole_whole := isWhole_numeral _
  isDigit_whole _ hc := Text.isDigit_of_mem_numeral hc
  isDigit_fraction _ hc := isDigit_of_mem_fraction hc

theorem isLiteral_scientific (negative : Bool) (d : Decimal) :
    (scientific negative d).IsLiteral where
  isWhole_whole := by
    obtain ⟨c, rest, hdigits⟩ := List.exists_cons_of_ne_nil (Text.numeral_ne_nil d.digits)
    simp [scientific, hdigits, isWhole_singleton]
  isDigit_whole _ hc := Text.isDigit_of_mem_numeral (List.mem_of_mem_take hc)
  isDigit_fraction _ hc := Text.isDigit_of_mem_numeral (List.mem_of_mem_drop hc)

theorem isLiteral_ofDecimal (negative : Bool) (d : Decimal) : (ofDecimal negative d).IsLiteral := by
  unfold ofDecimal
  split
  · exact isLiteral_positional negative d
  · exact isLiteral_scientific negative d

theorem negative_ofDecimal (negative : Bool) (d : Decimal) :
    (ofDecimal negative d).negative = negative := by
  unfold ofDecimal
  split <;> rfl

/-- The literal of a decimal always has a point or an exponent. -/
theorem isInteger_ofDecimal (negative : Bool) (d : Decimal) :
    (ofDecimal negative d).isInteger = false := by
  unfold ofDecimal
  split
  · unfold positional isInteger
    dsimp only
    split
    · rfl
    · next h => simp [h]
  · simp [scientific, isInteger]

theorem toDecimal_scientific (negative : Bool) (d : Decimal) :
    (scientific negative d).toDecimal = d := by
  have hlength : 0 < (Text.numeral d.digits).length :=
    List.length_pos_iff.2 (Text.numeral_ne_nil d.digits)
  have hexponent : d.magnitude - ((Text.numeral d.digits).drop 1).length = d.exponent := by
    rw [Decimal.magnitude, List.length_drop]
    omega
  unfold scientific toDecimal
  dsimp only
  rw [List.take_append_drop, Text.numeralValue_numeral, Option.getD_some, hexponent]

theorem toDecimal_positional_of_neg (negative : Bool) {d : Decimal} (h : d.exponent < 0) :
    (positional negative d).toDecimal = d := by
  have hlength := d.length_fractionPart
  have hne : d.fractionPart.isEmpty = false := by
    rw [List.isEmpty_eq_false_iff, ← List.length_pos_iff]
    omega
  have hwhole : d.exponent.toNat = 0 := by omega
  have hdigits : Text.numeralValue (d.wholePart ++ d.fractionPart) = d.digits := by
    rw [Text.numeralValue_append, hlength, Decimal.fractionPart_of_neg h,
      Text.numeralValue_leftpad, Decimal.wholePart, Text.numeralValue_numeral,
      Text.numeralValue_numeral, hwhole, power_zero, Nat.mul_one, Nat.div_add_mod']
  have hexponent : 0 - ((-d.exponent).toNat : Int) = d.exponent := by omega
  unfold positional toDecimal
  dsimp only
  rw [hne, if_neg Bool.false_ne_true, hdigits, Option.getD_none, hlength, hexponent]

theorem toDecimal_positional_of_nonneg (negative : Bool) {d : Decimal} (h : ¬d.exponent < 0) :
    (positional negative d).toDecimal = ⟨10 * (d.digits * power 10 d.exponent.toNat), -1⟩ := by
  have hnone : d.fractionPart.isEmpty = true := by
    rw [Decimal.fractionPart_of_nonneg h]
    rfl
  have hden : (-d.exponent).toNat = 0 := by omega
  have hdigits : Text.numeralValue (d.wholePart ++ ['0']) =
      10 * (d.digits * power 10 d.exponent.toNat) := by
    rw [Text.numeralValue_append, Decimal.wholePart, Text.numeralValue_numeral, hden, power_zero,
      Nat.div_one, Nat.mul_comm 10]
    rfl
  unfold positional toDecimal
  dsimp only
  rw [hnone, if_pos rfl, hdigits]
  rfl

/-- The literal of a decimal rounds as the decimal does. -/
theorem toBinary64_toDecimal_ofDecimal (negative sign : Bool) (d : Decimal) :
    (ofDecimal negative d).toDecimal.toBinary64 sign = d.toBinary64 sign := by
  unfold ofDecimal
  split
  · by_cases h : d.exponent < 0
    · rw [toDecimal_positional_of_neg negative h]
    · have hpositive : (-d.exponent).toNat = 0 := by omega
      rw [toDecimal_positional_of_nonneg negative h]
      refine (Decimal.toBinary64_mul_ten sign _ (-1)).trans ?_
      simp [Decimal.toBinary64, hpositive]
  · rw [toDecimal_scientific]

/-! ## Reading doubles -/

theorem le_ofDigitChars (digits : List Char) (k : Nat) : k ≤ Nat.ofDigitChars 10 digits k := by
  rw [Nat.ofDigitChars_eq_ofDigitChars_zero]
  exact Nat.le_add_right_of_le (Nat.le_mul_of_pos_left k (Nat.pow_pos (by decide)))

/-- Digits that fit into 64 bits with those before them are all taken. -/
theorem fill_of_lt {digits : List Char} {significand : Nat}
    (h : Nat.ofDigitChars 10 digits significand < power 2 64) :
    fill significand digits = (Nat.ofDigitChars 10 digits significand, 0) := by
  induction digits generalizing significand with
  | nil => rfl
  | cons digit rest ih =>
    rw [Nat.ofDigitChars_cons] at h ⊢
    have hnext := Nat.lt_of_le_of_lt (le_ofDigitChars rest _) h
    rw [fill, if_pos hnext]
    exact ih h

/-- A literal whose digits fit into 64 bits is kept as it is. -/
theorem kept_eq_toDecimal (h : n.toDecimal.digits < power 2 64) : n.kept = n.toDecimal := by
  have hdigits : n.toDecimal.digits =
      Nat.ofDigitChars 10 n.fraction (Nat.ofDigitChars 10 n.whole 0) :=
    Nat.ofDigitChars_append 0
  rw [hdigits] at h
  have hwhole := fill_of_lt (Nat.lt_of_le_of_lt (le_ofDigitChars n.fraction _) h)
  rw [kept, hwhole]
  simp only [fill_of_lt h]
  rw [← hdigits]
  simp [toDecimal]

/-- A literal with few digits and a small power of ten is read as the double nearest to it. -/
theorem toBinary64?_of_short (hdigits : n.toDecimal.digits ≤ power 2 53)
    (hexponent : n.toDecimal.exponent.natAbs ≤ 22) {quanta : Nat} {h : Representable quanta}
    (hround : n.toDecimal.toBinary64 false = .finite false quanta h) :
    n.toBinary64? = some (.finite n.negative quanta h) := by
  have hkept := kept_eq_toDecimal (Nat.lt_of_le_of_lt hdigits (by decide))
  have hscaled := (Binary64.scale_ofRatio hdigits hexponent).trans hround
  simp only [toBinary64?, hkept, hscaled, Binary64.isFinite]
  cases n.negative <;> rfl

end Json.Number

/-! ## Doubles that are read back -/

namespace Binary64

/-- A double is read from the literal under which it is written. -/
def IsReadBack (x : Binary64) : Prop := (Json.ofBinary64 x).toValue.toBinary64? = some x

instance (x : Binary64) : Decidable x.IsReadBack :=
  inferInstanceAs (Decidable (_ = _))

/-- A double is written with few digits and a small power of ten. -/
def IsShort : Binary64 → Prop
  | finite negative quanta _ =>
    let literal := (Json.Number.ofDecimal negative (shortest .even quanta)).toDecimal
    literal.digits ≤ power 2 53 ∧ literal.exponent.natAbs ≤ 22
  | _ => False

instance : DecidablePred IsShort
  | nan | infinite _ => isFalse id
  | finite .. => inferInstanceAs (Decidable (_ ∧ _))

/-- The literal of a finite double always has a point or an exponent, so no integer is read. -/
theorem toValue_ofBinary64 (negative : Bool) {quanta : Nat} (h : Representable quanta) :
    (Json.ofBinary64 (finite negative quanta h)).toValue =
      ((Json.Number.ofDecimal negative (shortest .even quanta)).toBinary64?.map
        Value.real).getD .unreadable := by
  show (Json.Number.ofDecimal negative (shortest .even quanta)).toValue = _
  simp [Json.Number.toValue, Json.Number.isInteger_ofDecimal]

/-- A double is read back if its literal has few digits and a small power of ten. -/
theorem IsShort.isReadBack {x : Binary64} (h : x.IsShort) : x.IsReadBack := by
  cases x with
  | nan => exact h.elim
  | infinite => exact h.elim
  | finite negative quanta hrepresentable =>
    have hround := Json.Number.toBinary64_toDecimal_ofDecimal negative false (shortest .even quanta)
    rw [toBinary64_shortest .even hrepresentable] at hround
    have hread := Json.Number.toBinary64?_of_short h.1 h.2 hround
    rw [IsReadBack, toValue_ofBinary64, hread, Json.Number.negative_ofDecimal]
    rfl

-- Seventeen digits can be too many.  This double is read as the next greater one.
example : ¬((⟨51248178375505404, -15⟩ : Decimal).toBinary64 false).IsReadBack := by
  decide +kernel

end Binary64

end InventorySearch
