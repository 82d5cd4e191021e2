import InventorySearch.Binary64.PlainText
import InventorySearch.Proofs.DecimalRounding
import InventorySearch.Query.Reading
import Mathlib.Data.List.TakeDrop
import Mathlib.Data.List.TakeWhile

/-!
# Number literals

The numbers that a query can contain: digits, and perhaps a point and more digits.
`NumberLiteral` holds the parts of one with the proof that they are digits, and its
value is the double nearest to it (`NumberLiteral.isNearest_value`).

Three functions of the library meet here:

* `Query.readNumber?` accepts exactly the texts of literals and gives their values
  (`Query.readNumber?_text`, `Query.exists_literal_of_readNumber?`);
* `Binary64.ofPlainText?`, the general reader of numbers, gives the same value for
  each of them (`Binary64.ofPlainText?_text`), so no literal is refused;
* `Binary64.plainText` writes every finite number without a sign as a literal with
  that value (`Binary64.exists_literal_plainText`).
-/

namespace InventorySearch

namespace Text

/-- A text is cut behind its longest opening of characters with a property. -/
theorem span_append {p : Char → Bool} {a b : List Char} (ha : ∀ c ∈ a, p c = true)
    (hb : ∀ c ∈ b.head?, p c = false) : (a ++ b).span p = (a, b) := by
  rw [List.span_eq_takeWhile_dropWhile, List.takeWhile_append_of_pos ha,
    List.dropWhile_append_of_pos ha]
  cases b with
  | nil => simp
  | cons c b =>
    have hc : p c = false := hb c rfl
    simp [hc]

theorem span_self {p : Char → Bool} {a : List Char} (ha : ∀ c ∈ a, p c = true) :
    a.span p = (a, []) := by
  simpa using span_append ha (b := []) (by simp)

/-- What a cut gives: the parts make up the text, the first has the property throughout, and the
second does not begin with it. -/
theorem span_eq {p : Char → Bool} {s a b : List Char} (h : s.span p = (a, b)) :
    s = a ++ b ∧ (∀ c ∈ a, p c = true) ∧ ∀ c ∈ b.head?, p c = false := by
  rw [List.span_eq_takeWhile_dropWhile, Prod.mk.injEq] at h
  obtain ⟨rfl, rfl⟩ := h
  refine ⟨List.takeWhile_append_dropWhile.symm, fun c hc => List.mem_takeWhile_imp hc, ?_⟩
  intro c hc
  have hhead := List.head?_dropWhile_not p s
  rwa [Option.mem_def.1 hc] at hhead

end Text

/-- A number as it stands in a query. -/
structure NumberLiteral where
  /-- The digits before the point. -/
  whole : List Char
  /-- The digits behind the point, if there is a point. -/
  fraction : Option (List Char)
  whole_ne_nil : whole ≠ []
  isDigit_whole : ∀ c ∈ whole, c.isDigit = true
  isDigit_fraction : ∀ c ∈ fraction.getD [], c.isDigit = true

namespace NumberLiteral

/-- What stands behind the whole part: nothing, or a point and the fraction. -/
def tail (literal : NumberLiteral) : List Char := literal.fraction.elim [] ('.' :: ·)

/-- The text of a literal. -/
def text (literal : NumberLiteral) : List Char := literal.whole ++ literal.tail

/-- All digits of a literal. -/
def digits (literal : NumberLiteral) : List Char := literal.whole ++ literal.fraction.getD []

/-- How many digits stand behind the point. -/
def places (literal : NumberLiteral) : Nat := (literal.fraction.getD []).length

/-- The double that a literal stands for. -/
def value (literal : NumberLiteral) : Binary64 :=
  .ofRatio false (Text.numeralValue literal.digits) (power 10 literal.places)

theorem isNearest_value (literal : NumberLiteral) :
    literal.value.IsNearest false (Text.numeralValue literal.digits)
      (power 10 literal.places) := by
  rw [value]
  exact Binary64.isNearest_ofRatio false (power_pos _ (by decide))

theorem head?_tail (literal : NumberLiteral) : ∀ c ∈ literal.tail.head?, c = '.' := by
  cases h : literal.fraction <;> simp [tail, h]

theorem span_text (literal : NumberLiteral) :
    literal.text.span Char.isDigit = (literal.whole, literal.tail) := by
  refine Text.span_append literal.isDigit_whole fun c hc => ?_
  rw [literal.head?_tail c hc]
  rfl

theorem mem_text {literal : NumberLiteral} {c : Char} (h : c ∈ literal.text) :
    c.isDigit = true ∨ c = '.' := by
  have hfraction := literal.isDigit_fraction
  rw [text, List.mem_append] at h
  rcases h with hwhole | htail
  · exact .inl (literal.isDigit_whole c hwhole)
  · cases hf : literal.fraction with
    | none => simp [tail, hf] at htail
    | some fraction =>
      simp only [tail, hf, Option.elim_some, List.mem_cons] at htail
      rw [hf] at hfraction
      exact htail.symm.imp_left (hfraction c)

theorem exists_text_eq_cons (literal : NumberLiteral) :
    ∃ c rest, literal.text = c :: rest ∧ c.isDigit = true := by
  obtain ⟨c, whole, hwhole⟩ := List.exists_cons_of_ne_nil literal.whole_ne_nil
  refine ⟨c, whole ++ literal.tail, by rw [text, hwhole, List.cons_append], ?_⟩
  exact literal.isDigit_whole c (by simp [hwhole])

/-- What stands behind the whole part says whether there is a point and what is behind it. -/
theorem fraction_eq_of_tail_eq {l m : NumberLiteral} (h : l.tail = m.tail) :
    l.fraction = m.fraction := by
  unfold tail at h
  cases hl : l.fraction <;> cases hm : m.fraction <;> simp_all

/-- No two literals have the same text. -/
theorem text_injective {l m : NumberLiteral} (h : l.text = m.text) : l = m := by
  have hspan := l.span_text
  rw [h, m.span_text, Prod.mk.injEq] at hspan
  obtain ⟨hwhole, htail⟩ := hspan
  have hfraction := fraction_eq_of_tail_eq htail
  cases l
  cases m
  simp_all

end NumberLiteral

/-! ## Literals in positional notation -/

namespace Decimal

theorem fractionPart_of_neg {d : Decimal} (h : d.exponent < 0) :
    d.fractionPart = (Text.numeral (d.digits % power 10 (-d.exponent).toNat)).leftpad
      (-d.exponent).toNat '0' :=
  if_pos h

theorem fractionPart_of_nonneg {d : Decimal} (h : ¬d.exponent < 0) : d.fractionPart = [] :=
  if_neg h

/-- There are as many digits behind the point as the exponent asks for. -/
theorem length_fractionPart (d : Decimal) : d.fractionPart.length = (-d.exponent).toNat := by
  by_cases h : d.exponent < 0
  · have hlength := Text.length_numeral_le (k := (-d.exponent).toNat) (by omega)
      (Nat.mod_lt d.digits (power_pos _ (by decide)))
    rw [fractionPart_of_neg h, List.length_leftpad]
    exact Nat.max_eq_left hlength
  · rw [fractionPart_of_nonneg h, List.length_nil]
    omega

theorem isDigit_of_mem_fractionPart {d : Decimal} {c : Char} (h : c ∈ d.fractionPart) :
    c.isDigit = true := by
  by_cases hneg : d.exponent < 0
  · rw [fractionPart_of_neg hneg, List.leftpad, List.mem_append] at h
    rcases h with hzero | hdigit
    · rw [List.eq_of_mem_replicate hzero]
      rfl
    · exact Text.isDigit_of_mem_numeral hdigit
  · rw [fractionPart_of_nonneg hneg] at h
    exact absurd h List.not_mem_nil

/-- The positional notation of a decimal, cut at the point. -/
def literal (d : Decimal) : NumberLiteral where
  whole := d.wholePart
  fraction := if d.exponent < 0 then some d.fractionPart else none
  whole_ne_nil := Text.numeral_ne_nil _
  isDigit_whole _ hc := Text.isDigit_of_mem_numeral hc
  isDigit_fraction c hc := by
    split at hc
    · exact isDigit_of_mem_fractionPart hc
    · exact absurd hc List.not_mem_nil

theorem text_literal (d : Decimal) : d.literal.text = d.positional := by
  have hlength := d.length_fractionPart
  unfold positional NumberLiteral.text NumberLiteral.tail literal
  by_cases h : d.exponent < 0
  · have hne : d.fractionPart.isEmpty = false := by
      rw [List.isEmpty_eq_false_iff, ← List.length_pos_iff]
      omega
    simp [h, hne]
  · simp [h, fractionPart_of_nonneg h]

theorem value_literal (d : Decimal) : d.literal.value = d.toBinary64 false := by
  have hlength := d.length_fractionPart
  unfold NumberLiteral.value NumberLiteral.digits NumberLiteral.places literal toBinary64
  dsimp only
  by_cases h : d.exponent < 0
  · have hnum : d.exponent.toNat = 0 := by omega
    rw [if_pos h, Option.getD_some, Text.numeralValue_append, hlength, fractionPart_of_neg h,
      Text.numeralValue_leftpad, wholePart, Text.numeralValue_numeral,
      Text.numeralValue_numeral, hnum, power_zero, Nat.mul_one, Nat.div_add_mod']
  · have hden : (-d.exponent).toNat = 0 := by omega
    rw [if_neg h, Option.getD_none, List.append_nil, List.length_nil, wholePart,
      Text.numeralValue_numeral, hden, power_zero, Nat.div_one]

end Decimal

/-! ## Readers -/

namespace Query

theorem readNumber?_text (literal : NumberLiteral) :
    readNumber? literal.text = some literal.value := by
  have hspan := literal.span_text
  obtain ⟨whole, fraction, hne, hwhole, hfraction⟩ := literal
  obtain ⟨c, whole, rfl⟩ := List.exists_cons_of_ne_nil hne
  unfold readNumber?
  rw [hspan]
  cases fraction with
  | none =>
    simp [NumberLiteral.tail, NumberLiteral.value, NumberLiteral.digits, NumberLiteral.places]
  | some fraction =>
    have hall : fraction.all Char.isDigit = true := List.all_eq_true.2 hfraction
    simp [NumberLiteral.tail, NumberLiteral.value, NumberLiteral.digits, NumberLiteral.places,
      hall]

theorem exists_literal_of_readNumber? {text : List Char} {value : Binary64}
    (h : readNumber? text = some value) : ∃ literal : NumberLiteral, literal.text = text := by
  unfold readNumber? at h
  split at h
  · exact absurd h (by simp)
  · next whole hne hspan =>
    obtain ⟨rfl, hwhole, -⟩ := Text.span_eq hspan
    exact ⟨⟨whole, none, hne, hwhole, by simp⟩, rfl⟩
  · next whole fraction hne hspan =>
    obtain ⟨rfl, hwhole, -⟩ := Text.span_eq hspan
    split at h
    · next hall => exact ⟨⟨whole, some fraction, hne, hwhole, List.all_eq_true.1 hall⟩, rfl⟩
    · exact absurd h (by simp)
  · exact absurd h (by simp)

end Query

namespace Binary64

theorem toLower_of_isDigit {c : Char} (h : c.isDigit = true) : c.toLower = c := by
  simp only [Char.isDigit, Bool.and_eq_true, decide_eq_true_eq] at h
  unfold Char.toLower
  rw [dif_neg]
  intro hupper
  exact absurd (UInt32.le_trans hupper.1 h.2) (by decide)

theorem map_toLower_text (literal : NumberLiteral) :
    literal.text.map Char.toLower = literal.text := by
  have hlower : ∀ c ∈ literal.text, c.toLower = c := by
    intro c hc
    rcases NumberLiteral.mem_text hc with hdigit | rfl
    · exact toLower_of_isDigit hdigit
    · rfl
  exact (List.map_congr_left (g := id) hlower).trans (List.map_id _)

/-- The words for numbers that are not finite do not begin with a digit. -/
theorem text_not_word {literal : NumberLiteral} {c : Char} {word : List Char}
    (hc : c.isDigit = false) : literal.text ≠ c :: word := by
  obtain ⟨d, rest, htext, hdigit⟩ := literal.exists_text_eq_cons
  rw [htext]
  intro h
  obtain rfl : d = c := List.head_eq_of_cons_eq h
  rw [hc] at hdigit
  exact absurd hdigit Bool.false_ne_true

/-- The value of a literal is that of its digits as a decimal, by either way of rounding. -/
theorem value_eq_toBinary64Bounded (literal : NumberLiteral) :
    literal.value =
      Decimal.toBinary64Bounded false ⟨Text.numeralValue literal.digits, 0 - literal.places⟩ := by
  have hnum : (0 - (literal.places : Int)).toNat = 0 := by omega
  have hden : (-(0 - (literal.places : Int))).toNat = literal.places := by omega
  rw [Decimal.toBinary64Bounded_eq, Decimal.toBinary64, NumberLiteral.value]
  dsimp only
  rw [hnum, hden, power_zero, Nat.mul_one]

/-- Without a sign and in digits, a text is read from its whole part on. -/
theorem readMagnitude?_text (literal : NumberLiteral) :
    readMagnitude? false literal.text = some literal.value := by
  have hnan : literal.text ≠ ['n', 'a', 'n'] := text_not_word rfl
  have hinf : ["inf".toList, "infinity".toList].contains literal.text = false := by
    rw [List.contains_eq_mem, decide_eq_false_iff_not]
    intro hmem
    rcases List.mem_cons.1 hmem with h | h
    · exact text_not_word rfl h
    · exact text_not_word rfl (List.mem_singleton.1 h)
  have hwhole : literal.whole.isEmpty = false :=
    List.isEmpty_eq_false_iff.2 literal.whole_ne_nil
  have hdigits := literal.isDigit_fraction
  have hvalue := value_eq_toBinary64Bounded literal
  unfold NumberLiteral.digits NumberLiteral.places at hvalue
  unfold readMagnitude?
  rw [if_neg hnan, hinf, if_neg Bool.false_ne_true, literal.span_text, NumberLiteral.tail]
  cases hfraction : literal.fraction with
  | none =>
    rw [hfraction] at hvalue
    simp only [Option.elim_none, hwhole, Bool.false_and, Bool.false_eq_true, if_false, readPower?,
      Option.map_some, hvalue, Option.getD_none]
  | some fraction =>
    rw [hfraction] at hvalue hdigits
    have hspan : fraction.span Char.isDigit = (fraction, []) := Text.span_self hdigits
    simp only [Option.elim_some, hspan, hwhole, Bool.false_and, Bool.false_eq_true, if_false,
      readPower?, Option.map_some, hvalue, Option.getD_some]

/-- The general reader of numbers gives a literal its value. -/
theorem ofPlainText?_text (literal : NumberLiteral) :
    ofPlainText? literal.text = some literal.value := by
  unfold ofPlainText?
  rw [map_toLower_text]
  split
  · next hminus => exact absurd hminus (text_not_word rfl)
  · next hplus => exact absurd hplus (text_not_word rfl)
  · exact readMagnitude?_text literal

/-- A finite number without a sign is written as a literal with that value. -/
theorem exists_literal_plainText {quanta : Nat} (h : Representable quanta) :
    ∃ literal : NumberLiteral, literal.text = (finite false quanta h).plainText ∧
      literal.value = finite false quanta h := by
  refine ⟨(shortest .up quanta).literal, ?_, ?_⟩
  · rw [Decimal.text_literal]
    rfl
  · rw [Decimal.value_literal]
    exact toBinary64_shortest .up h

end Binary64

end InventorySearch
