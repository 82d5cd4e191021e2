import InventorySearch.Proofs.CanonicalForm
import InventorySearch.Proofs.SearchTexts
import Mathlib.Algebra.Order.Field.Basic
import Mathlib.Algebra.Order.Ring.Rat

/-!
# Searches that compare a statistic with a number

A search text of a keyword, perhaps an operator, and a number asks how a statistic of an
item compares with the number.  What such searches find fits together, whatever the item is.

* The order of doubles is total but for not-a-number (`Binary64.less_eq_not_atMost`), and
  not-a-number compares with nothing (`Comparison.holds_nan`).
* A greater literal has no lesser value (`NumberLiteral.value_atMost_of_exact_le`), because
  rounding keeps the order.
* `Item.satisfiesText_numericText` says what one search finds: it reads the text, picks the
  statistic that the keyword stands for and compares.

`Item.numericSearches_agree` puts them together for all operators and numbers.
-/

namespace InventorySearch

/-! ## The order of doubles -/

namespace Binary64

variable {x y z : Binary64}

theorem exists_position_of_ne_nan (h : x ≠ .nan) : ∃ p, x.position = some p := by
  cases x with
  | nan => exact absurd rfl h
  | infinite negative => exact ⟨_, rfl⟩
  | finite negative quanta representable => exact ⟨_, rfl⟩

theorem less_iff :
    x.less y = true ↔ ∃ p q, x.position = some p ∧ y.position = some q ∧ p < q := by
  unfold less
  cases x.position <;> cases y.position <;> simp

theorem atMost_iff :
    x.atMost y = true ↔ ∃ p q, x.position = some p ∧ y.position = some q ∧ p ≤ q := by
  unfold atMost
  cases x.position <;> cases y.position <;> simp

/-- Of two numbers either the first is less or the second is less or equal. -/
theorem less_eq_not_atMost (hx : x ≠ .nan) (hy : y ≠ .nan) : x.less y = !y.atMost x := by
  obtain ⟨p, hp⟩ := exists_position_of_ne_nan hx
  obtain ⟨q, hq⟩ := exists_position_of_ne_nan hy
  rw [Bool.eq_not, ne_eq, Bool.eq_iff_iff, less_iff, atMost_iff]
  simp only [hp, hq, Option.some.injEq, exists_eq_left', exists_and_left]
  omega

theorem atMost_trans (hxy : x.atMost y = true) (hyz : y.atMost z = true) : x.atMost z = true := by
  rw [atMost_iff] at hxy hyz ⊢
  obtain ⟨p, q, hp, hq, hle⟩ := hxy
  obtain ⟨q', r, hq', hr, hle'⟩ := hyz
  obtain rfl : q = q' := Option.some.inj (hq.symm.trans hq')
  exact ⟨p, r, hp, hr, by omega⟩

theorem less_of_atMost_of_less (hxy : x.atMost y = true) (hyz : y.less z = true) :
    x.less z = true := by
  rw [atMost_iff] at hxy
  rw [less_iff] at hyz ⊢
  obtain ⟨p, q, hp, hq, hle⟩ := hxy
  obtain ⟨q', r, hq', hr, hlt⟩ := hyz
  obtain rfl : q = q' := Option.some.inj (hq.symm.trans hq')
  exact ⟨p, r, hp, hr, by omega⟩

theorem less_of_less_of_atMost (hxy : x.less y = true) (hyz : y.atMost z = true) :
    x.less z = true := by
  rw [atMost_iff] at hyz
  rw [less_iff] at hxy ⊢
  obtain ⟨p, q, hp, hq, hlt⟩ := hxy
  obtain ⟨q', r, hq', hr, hle⟩ := hyz
  obtain rfl : q = q' := Option.some.inj (hq.symm.trans hq')
  exact ⟨p, r, hp, hr, by omega⟩

end Binary64

/-! ## Comparisons with one number and with two -/

namespace Comparison

variable {actual target other : Binary64}

/-- No comparison holds of what is not a number. -/
theorem holds_nan (c : Comparison) (target : Binary64) : c.holds .nan target = false := by
  cases c <;> cases target <;> rfl

theorem greater_holds_eq (hactual : actual ≠ .nan) (htarget : target ≠ .nan) :
    greater.holds actual target = !atMost.holds actual target := by
  simp only [holds]
  exact Binary64.less_eq_not_atMost htarget hactual

theorem less_holds_eq (hactual : actual ≠ .nan) (htarget : target ≠ .nan) :
    less.holds actual target = !atLeast.holds actual target := by
  simp only [holds]
  exact Binary64.less_eq_not_atMost hactual htarget

/-- What is greater than a number, or as great, is so for every lesser number. -/
theorem holds_of_atMost_left (h : target.atMost other = true) :
    (greater.holds actual other = true → greater.holds actual target = true) ∧
      (atLeast.holds actual other = true → atLeast.holds actual target = true) := by
  simp only [holds]
  exact ⟨Binary64.less_of_atMost_of_less h, Binary64.atMost_trans h⟩

/-- What is less than a number, or as little, is so for every greater number. -/
theorem holds_of_atMost_right (h : target.atMost other = true) :
    (less.holds actual target = true → less.holds actual other = true) ∧
      (atMost.holds actual target = true → atMost.holds actual other = true) := by
  simp only [holds]
  exact ⟨fun hless => Binary64.less_of_less_of_atMost hless h,
    fun hle => Binary64.atMost_trans hle h⟩

end Comparison

/-! ## Literals in order -/

namespace NumberLiteral

/-- The number that a literal stands for before it is rounded. -/
def exact (d : NumberLiteral) : ℚ := (Text.numeralValue d.digits : ℚ) / (power 10 d.places : ℚ)

theorem value_ne_nan (d : NumberLiteral) : d.value ≠ .nan := by
  obtain ⟨quanta, hposition, -⟩ := d.isNearest_value.exists_position
  intro hnan
  rw [hnan] at hposition
  exact absurd hposition (by simp [Binary64.position])

/-- Of two literals in order the values are in order. -/
theorem value_atMost_of_exact_le {d e : NumberLiteral} (h : d.exact ≤ e.exact) :
    d.value.atMost e.value = true := by
  have hd : 0 < power 10 d.places := power_pos _ (by decide)
  have he : 0 < power 10 e.places := power_pos _ (by decide)
  apply Binary64.atMost_ofRatio_of_le hd he
  rw [exact, exact, div_le_div_iff₀ (by exact_mod_cast hd) (by exact_mod_cast he)] at h
  exact_mod_cast h

end NumberLiteral

/-! ## What one search finds -/

namespace Query

/-- The search text of a keyword, operator characters and a number. -/
def numericText (keyword : Keyword) (operator : List Char) (literal : NumberLiteral) : String :=
  String.ofList (keyword.text ++ ':' :: (operator ++ literal.text))

/-- Whatever the operator characters are, the text is read as a comparison: the one that they spell,
or none. -/
theorem read_numericText {keyword : Keyword} {operator : List Char} {literal : NumberLiteral}
    (h : ∀ c ∈ operator, c = '<' ∨ c = '>' ∨ c = '=') :
    read (numericText keyword operator literal) =
      .property keyword.subject
        (.numeric (Comparison.ofSymbol? operator) literal.value) := by
  let d : Derivation := ⟨keyword, some (.number ⟨operator, h⟩ literal)⟩
  have htext : (numericText keyword operator literal).toList = d.text := String.toList_ofList
  have hplain : ∀ c ∈ d.text, Text.IsPlain c :=
    Derivation.isPlain_of_mem fun word hword => by simp [d] at hword
  rw [read_of_plain (by rwa [htext]), htext, readLower_text]
  rfl

end Query

namespace Item

/-- The statistic of an item that a property is about, if the item has it. -/
def statistic? (item : Item) : Property → Option Binary64
  | .learningPoints => item.curiosity.map Curiosity.points
  | .learningPointsPerHour => item.curiosity.map Curiosity.pointsPerHour
  | .foodEnergy => item.food.map Food.total

theorem satisfies_numeric (item : Item) (tolerance : Tolerance) (subject : Property)
    (comparison : Option Comparison) (target : Binary64) :
    item.satisfies tolerance (.property subject (.numeric comparison target)) =
      (item.statistic? subject).any ((comparison.getD .equal).holds · target) := by
  cases subject <;> simp only [statistic?, Option.any_map] <;> rfl

variable {item : Item} {tolerance : Tolerance} {keyword : Query.Keyword} {operator : List Char}

/-- A search by operator and number finds the items whose statistic compares as the operator says;
an unknown operator says what no operator says, that it is equal. -/
theorem satisfiesText_numericText (h : ∀ c ∈ operator, c = '<' ∨ c = '>' ∨ c = '=')
    (literal : NumberLiteral) :
    item.satisfiesText tolerance (Query.numericText keyword operator literal) =
      (item.statistic? keyword.subject).any
        (((Comparison.ofSymbol? operator).getD .equal).holds · literal.value) := by
  rw [satisfiesText_eq, Query.read_numericText h, satisfies_numeric]

/-- A search with the operator of a comparison. -/
theorem satisfiesText_symbol (c : Comparison) (literal : NumberLiteral) :
    item.satisfiesText tolerance (Query.numericText keyword c.symbol literal) =
      (item.statistic? keyword.subject).any (c.holds · literal.value) := by
  have hsymbol : ∀ d ∈ c.symbol, d = '<' ∨ d = '>' ∨ d = '=' := by
    cases c <;> simp [Comparison.symbol]
  rw [satisfiesText_numericText hsymbol, Comparison.ofSymbol?_symbol, Option.getD_some]

/-- Without a number to compare, no comparison finds the item. -/
theorem satisfiesText_of_no_number (h : ∀ actual ∈ item.statistic? keyword.subject, actual = .nan)
    (hoperator : ∀ c ∈ operator, c = '<' ∨ c = '>' ∨ c = '=') (literal : NumberLiteral) :
    item.satisfiesText tolerance (Query.numericText keyword operator literal) = false := by
  rw [satisfiesText_numericText hoperator, Option.any_eq_false]
  intro actual hactual
  simp [h actual hactual, Comparison.holds_nan]

/-- A comparison that keeps holding when the target moves finds no less then. -/
theorem satisfiesText_symbol_mono {c : Comparison} {d e : NumberLiteral}
    (hmono : ∀ actual, c.holds actual d.value = true → c.holds actual e.value = true)
    (h : item.satisfiesText tolerance (Query.numericText keyword c.symbol d) = true) :
    item.satisfiesText tolerance (Query.numericText keyword c.symbol e) = true := by
  rw [satisfiesText_symbol, Option.any_eq_true] at h ⊢
  obtain ⟨actual, hactual, hholds⟩ := h
  exact ⟨actual, hactual, hmono actual hholds⟩

/-- What searches with operators and numbers find in one item.  If the item has the statistic and it
is a number, it is found by exactly one of greater and less or equal, and by exactly one of less and
greater or equal; and moving the number down loses nothing that is greater, up nothing that is less.
If the item has no such number, nothing finds it.  An operator that is none of the five does what
no operator does and what an equals sign does. -/
theorem numericSearches_agree (item : Item) (tolerance : Tolerance) (keyword : Query.Keyword) :
    let found (operator : List Char) (d : NumberLiteral) :=
      item.satisfiesText tolerance (Query.numericText keyword operator d)
    (∀ actual, item.statistic? keyword.subject = some actual → actual ≠ .nan →
      ∀ d, found ['>'] d = !found ['<', '='] d ∧ found ['<'] d = !found ['>', '='] d) ∧
    (∀ d e : NumberLiteral, d.exact ≤ e.exact →
      (found ['>'] e = true → found ['>'] d = true) ∧
      (found ['>', '='] e = true → found ['>', '='] d = true) ∧
      (found ['<'] d = true → found ['<'] e = true) ∧
      (found ['<', '='] d = true → found ['<', '='] e = true)) ∧
    ((∀ actual, item.statistic? keyword.subject = some actual → actual = .nan) →
      ∀ d, ∀ operator ∈ [['>'], ['>', '='], ['<'], ['<', '='], ['='], []],
        found operator d = false) ∧
    ∀ operator : List Char, (∀ c ∈ operator, c = '<' ∨ c = '>' ∨ c = '=') →
      operator ∉ [['>'], ['>', '='], ['<'], ['<', '='], ['=']] →
      ∀ d, found operator d = found [] d ∧ found [] d = found ['='] d := by
  intro found
  refine ⟨?_, ?_, ?_, ?_⟩
  · intro actual hactual hnumber d
    have hfound : ∀ c : Comparison, found c.symbol d = c.holds actual d.value := by
      intro c
      show item.satisfiesText tolerance _ = _
      rw [satisfiesText_symbol, hactual, Option.any_some]
    constructor
    · calc found ['>'] d = Comparison.greater.holds actual d.value := hfound .greater
        _ = !Comparison.atMost.holds actual d.value :=
          Comparison.greater_holds_eq hnumber d.value_ne_nan
        _ = !found ['<', '='] d := congrArg not (hfound .atMost).symm
    · calc found ['<'] d = Comparison.less.holds actual d.value := hfound .less
        _ = !Comparison.atLeast.holds actual d.value :=
          Comparison.less_holds_eq hnumber d.value_ne_nan
        _ = !found ['>', '='] d := congrArg not (hfound .atLeast).symm
  · intro d e hle
    have hvalue := NumberLiteral.value_atMost_of_exact_le hle
    have hdown : ∀ c : Comparison,
        (∀ actual, c.holds actual e.value = true → c.holds actual d.value = true) →
          found c.symbol e = true → found c.symbol d = true :=
      fun c hmono => satisfiesText_symbol_mono hmono
    have hup : ∀ c : Comparison,
        (∀ actual, c.holds actual d.value = true → c.holds actual e.value = true) →
          found c.symbol d = true → found c.symbol e = true :=
      fun c hmono => satisfiesText_symbol_mono hmono
    refine ⟨?_, ?_, ?_, ?_⟩
    · exact hdown .greater fun _ => (Comparison.holds_of_atMost_left hvalue).1
    · exact hdown .atLeast fun _ => (Comparison.holds_of_atMost_left hvalue).2
    · exact hup .less fun _ => (Comparison.holds_of_atMost_right hvalue).1
    · exact hup .atMost fun _ => (Comparison.holds_of_atMost_right hvalue).2
  · intro hnone d operator hoperator
    apply satisfiesText_of_no_number hnone
    revert operator
    simp
  · intro operator hrun hunknown d
    have hsymbol : Comparison.ofSymbol? operator = none := by
      refine Option.eq_none_iff_forall_ne_some.2 fun c hc => hunknown ?_
      rw [Comparison.ofSymbol?_eq_some_iff.1 hc]
      cases c <;> simp [Comparison.symbol]
    have hequal : ∀ run : List Char, (∀ c ∈ run, c = '<' ∨ c = '>' ∨ c = '=') →
        (Comparison.ofSymbol? run).getD .equal = .equal →
        found run d = (item.statistic? keyword.subject).any (Comparison.equal.holds · d.value) := by
      intro run hrun hmeans
      show item.satisfiesText tolerance _ = _
      rw [satisfiesText_numericText hrun, hmeans]
    rw [hequal operator hrun (by rw [hsymbol]; rfl), hequal [] (by simp) rfl,
      hequal ['='] (by simp) rfl]
    exact ⟨rfl, rfl⟩

/-- A pipe that grants a hundred points, and nobody knows how many per hour. -/
theorem pipe_found_by_its_points :
    let pipe : Item := { curiosity := some ⟨.ofRatio false 100 1, .nan⟩ }
    let below : NumberLiteral := ⟨['9', '9'], some ['5'], by simp, by simp, by simp⟩
    let hundred : NumberLiteral := ⟨['1', '0', '0'], none, by simp, by simp, by simp⟩
    let found (keyword : Query.Keyword) (operator : List Char) (d : NumberLiteral) :=
      pipe.satisfiesText .standard (Query.numericText keyword operator d)
    found .lp ['>', '='] hundred = true ∧ found .lp ['>', '='] below = true ∧
      found .lp ['>'] hundred = !found .lp ['<', '='] hundred ∧
      found .lph ['<', '='] hundred = false ∧
      found .lp ['=', '>'] hundred = found .lp ['='] hundred := by
  intro pipe below hundred found
  obtain ⟨hone, hmono, -, hunknown⟩ := numericSearches_agree pipe .standard .lp
  obtain ⟨-, -, hnone, -⟩ := numericSearches_agree pipe .standard .lph
  have hle : below.exact ≤ hundred.exact := by decide +kernel
  have hfound : found .lp ['>', '='] hundred = true := by decide +kernel
  obtain ⟨hdropped, hequal⟩ := hunknown ['=', '>'] (by simp) (by decide) hundred
  refine ⟨hfound, (hmono below hundred hle).2.1 hfound, ?_, ?_, hdropped.trans hequal⟩
  · exact (hone _ rfl (by decide +kernel) hundred).1
  · exact hnone (fun actual h => (Option.some.inj h).symm) hundred ['<', '='] (by decide)

end Item

end InventorySearch
