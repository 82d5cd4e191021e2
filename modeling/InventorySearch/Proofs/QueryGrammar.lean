import InventorySearch.Proofs.NumberLiteral
import InventorySearch.Query.Reading

/-!
# The grammar of property queries

A property query is a keyword, a colon and perhaps a modifier.  A modifier is a word
of ASCII letters, or a run of `<`, `>` and `=` with a number behind it; the run can
be empty.

`Derivation` is a tree of this grammar, and `Derivation.Denotes` says what a tree
stands for: the property of its keyword, the letters of its word, the comparison that
the whole run spells, the double nearest to its number.

* `Derivation.text_injective`: no text has two trees.
* `readProperty?_text`: the reader gives every tree its query.
* `exists_derivation_of_readProperty?`: the reader accepts nothing else.

`read_follows_grammar` puts them together for the trimmed lower-case form of any input.
-/

namespace InventorySearch

/-! ## Classes of characters -/

namespace Text

theorem toNat_of_isDigit {c : Char} (h : c.isDigit = true) : 0x30 ≤ c.toNat ∧ c.toNat ≤ 0x39 :=
  Char.isDigit_iff_toNat.1 h

theorem toNat_of_isUpper {c : Char} (h : c.isUpper = true) : 0x41 ≤ c.toNat ∧ c.toNat ≤ 0x5A := by
  obtain ⟨hfirst, hlast⟩ : 'A'.val ≤ c.val ∧ c.val ≤ 'Z'.val := of_decide_eq_true h
  exact ⟨UInt32.le_iff_toNat_le.1 hfirst, UInt32.le_iff_toNat_le.1 hlast⟩

theorem toNat_of_isLower {c : Char} (h : c.isLower = true) : 0x61 ≤ c.toNat ∧ c.toNat ≤ 0x7A := by
  obtain ⟨hfirst, hlast⟩ : 'a'.val ≤ c.val ∧ c.val ≤ 'z'.val := by
    simpa using Bool.and_eq_true_iff.1 h
  exact ⟨UInt32.le_iff_toNat_le.1 hfirst, UInt32.le_iff_toNat_le.1 hlast⟩

theorem toNat_of_isAlpha {c : Char} (h : c.isAlpha = true) : 0x41 ≤ c.toNat ∧ c.toNat ≤ 0x7A := by
  rcases Bool.or_eq_true_iff.1 h with hupper | hlower
  · have hcode := toNat_of_isUpper hupper
    omega
  · have hcode := toNat_of_isLower hlower
    omega

theorem not_isAlpha_of_isDigit {c : Char} (h : c.isDigit = true) : c.isAlpha = false := by
  rw [Bool.eq_false_iff]
  intro halpha
  have hdigit := toNat_of_isDigit h
  have hletter := toNat_of_isAlpha halpha
  omega

end Text

theorem Comparison.ofSymbol?_eq_some_iff {symbol : List Char} {c : Comparison} :
    ofSymbol? symbol = some c ↔ symbol = c.symbol := by
  constructor
  · intro h
    have hfound : c.symbol = symbol := by simpa using List.find?_some h
    exact hfound.symm
  · intro h
    subst h
    exact ofSymbol?_symbol c

theorem Comparison.ofSymbol?_eq_none_iff {symbol : List Char} :
    ofSymbol? symbol = none ↔ ∀ c : Comparison, symbol ≠ c.symbol := by
  rw [Option.eq_none_iff_forall_ne_some]
  refine forall_congr' fun c => ?_
  rw [ne_eq, ofSymbol?_eq_some_iff]

namespace Query

/-! ## Trees -/

/-- The words that open a property query. -/
inductive Keyword where
  | lp
  | study
  | lph
  | fep
  | food
deriving DecidableEq

namespace Keyword

/-- A keyword as it is written. -/
def text : Keyword → List Char
  | lp => ['l', 'p']
  | study => ['s', 't', 'u', 'd', 'y']
  | lph => ['l', 'p', 'h']
  | fep => ['f', 'e', 'p']
  | food => ['f', 'o', 'o', 'd']

/-- The property that a keyword stands for. -/
def subject : Keyword → Property
  | lp | study => .learningPoints
  | lph => .learningPointsPerHour
  | fep | food => .foodEnergy

theorem text_injective {k l : Keyword} (h : k.text = l.text) : k = l := by
  cases k <;> cases l <;> first | rfl | exact absurd h (by decide)

theorem colon_not_mem (k : Keyword) : ∀ c ∈ k.text, decide (c ≠ ':') = true := by
  cases k <;> simp [text]

end Keyword

/-- A word of ASCII letters. -/
@[ext]
structure LetterWord where
  /-- The letters in order. -/
  text : List Char
  ne_nil : text ≠ []
  isAlpha : ∀ c ∈ text, c.isAlpha = true

/-- Operator characters in a row, perhaps none. -/
@[ext]
structure OperatorRun where
  /-- The characters in order. -/
  text : List Char
  isOperator : ∀ c ∈ text, c = '<' ∨ c = '>' ∨ c = '='

/-- What can stand behind the colon. -/
inductive Modifier where
  /-- The name of a food event. -/
  | letters (word : LetterWord)
  /-- A number, perhaps with an operator before it. -/
  | number (run : OperatorRun) (literal : NumberLiteral)

/-- A modifier as it is written. -/
def Modifier.text : Modifier → List Char
  | letters word => word.text
  | number run literal => run.text ++ literal.text

/-- The filter that a modifier stands for. -/
inductive Modifier.Denotes : Modifier → Filter → Prop where
  | letters (word : LetterWord) : Denotes (.letters word) (.named (String.ofList word.text))
  | number {run : OperatorRun} {literal : NumberLiteral} {comparison : Option Comparison}
      {target : Binary64} (spelled : ∀ c, comparison = some c ↔ run.text = c.symbol)
      (nearest : target.IsNearest false (Text.numeralValue literal.digits)
        (power 10 literal.places)) :
      Denotes (.number run literal) (.numeric comparison target)

/-- A tree of the grammar of property queries. -/
structure Derivation where
  /-- The word before the colon. -/
  keyword : Keyword
  /-- What stands behind the colon, if anything does. -/
  modifier : Option Modifier

/-- A property query as it is written. -/
def Derivation.text (d : Derivation) : List Char :=
  d.keyword.text ++ ':' :: d.modifier.elim [] Modifier.text

/-- The query that a tree stands for. -/
inductive Derivation.Denotes : Derivation → Query → Prop where
  | bare (keyword : Keyword) : Denotes ⟨keyword, none⟩ (.property keyword.subject .any)
  | modified (keyword : Keyword) {modifier : Modifier} {filter : Filter}
      (meaning : modifier.Denotes filter) :
      Denotes ⟨keyword, some modifier⟩ (.property keyword.subject filter)

/-! ## What a tree stands for -/

/-- The filter that a modifier stands for, computed. -/
def Modifier.filter : Modifier → Filter
  | letters word => .named (String.ofList word.text)
  | number run literal => .numeric (Comparison.ofSymbol? run.text) literal.value

/-- The query that a tree stands for, computed. -/
def Derivation.query (d : Derivation) : Query :=
  .property d.keyword.subject (d.modifier.elim .any Modifier.filter)

theorem Modifier.denotes_iff {m : Modifier} {f : Filter} : m.Denotes f ↔ f = m.filter := by
  constructor
  · intro h
    cases h with
    | letters word => rfl
    | @number run literal comparison target spelled nearest =>
      have hcomparison : comparison = Comparison.ofSymbol? run.text := by
        refine Option.ext fun c => ?_
        rw [spelled, Comparison.ofSymbol?_eq_some_iff]
      have htarget : target = literal.value :=
        nearest.unique (power_pos _ (by decide)) literal.isNearest_value
      rw [hcomparison, htarget, filter]
  · intro h
    subst h
    cases m with
    | letters word => exact .letters word
    | number run literal =>
      exact .number (fun c => Comparison.ofSymbol?_eq_some_iff) literal.isNearest_value

theorem Derivation.denotes_iff {d : Derivation} {q : Query} : d.Denotes q ↔ q = d.query := by
  constructor
  · intro h
    cases h with
    | bare keyword => rfl
    | modified keyword meaning =>
      rw [Modifier.denotes_iff.1 meaning]
      rfl
  · intro h
    subst h
    obtain ⟨keyword, _ | modifier⟩ := d
    · exact .bare keyword
    · exact .modified keyword (Modifier.denotes_iff.2 rfl)

/-! ## Every tree is read -/

theorem isOperatorCharacter_iff {c : Char} :
    isOperatorCharacter c = true ↔ c = '<' ∨ c = '>' ∨ c = '=' := by
  simp [isOperatorCharacter, or_assoc]

theorem not_isOperatorCharacter_of_isDigit {c : Char} (h : c.isDigit = true) :
    isOperatorCharacter c = false := by
  rw [Bool.eq_false_iff]
  intro hoperator
  rcases isOperatorCharacter_iff.1 hoperator with rfl | rfl | rfl <;> exact absurd h (by decide)

theorem LetterWord.all_isAlpha (word : LetterWord) : word.text.all Char.isAlpha = true :=
  List.all_eq_true.2 word.isAlpha

/-- A number is no word, whatever run stands before it. -/
theorem not_all_isAlpha_number (run : OperatorRun) (literal : NumberLiteral) :
    (Modifier.number run literal).text.all Char.isAlpha = false := by
  obtain ⟨c, rest, htext, hdigit⟩ := literal.exists_text_eq_cons
  rw [Modifier.text, htext, List.all_append, List.all_cons,
    Text.not_isAlpha_of_isDigit hdigit, Bool.false_and, Bool.and_false]

/-- The run of operator characters ends where the number begins. -/
theorem span_number (run : OperatorRun) (literal : NumberLiteral) :
    (Modifier.number run literal).text.span isOperatorCharacter = (run.text, literal.text) := by
  obtain ⟨c, rest, htext, hdigit⟩ := literal.exists_text_eq_cons
  refine Text.span_append (fun c hc => isOperatorCharacter_iff.2 (run.isOperator c hc)) ?_
  intro d hd
  rw [htext, List.head?_cons, Option.mem_some] at hd
  subst hd
  exact not_isOperatorCharacter_of_isDigit hdigit

/-- The keyword ends where the colon stands. -/
theorem span_text (d : Derivation) :
    d.text.span (· ≠ ':') = (d.keyword.text, ':' :: d.modifier.elim [] Modifier.text) :=
  Text.span_append d.keyword.colon_not_mem (by simp)

/-- Where a character of a property query can stand. -/
theorem Derivation.mem_text_iff {d : Derivation} {c : Char} :
    c ∈ d.text ↔ c ∈ d.keyword.text ∨ c = ':' ∨ ∃ m, d.modifier = some m ∧ c ∈ m.text := by
  rw [text, List.mem_append, List.mem_cons]
  cases d.modifier <;> simp

theorem Modifier.text_ne_nil (m : Modifier) : m.text ≠ [] := by
  cases m with
  | letters word => exact word.ne_nil
  | number run literal =>
    obtain ⟨c, rest, htext, -⟩ := literal.exists_text_eq_cons
    simp [text, htext]

theorem readFilter?_text (m : Modifier) : readFilter? m.text = some m.filter := by
  have hempty : m.text.isEmpty = false := List.isEmpty_eq_false_iff.2 m.text_ne_nil
  unfold readFilter?
  rw [hempty]
  cases m with
  | letters word =>
    rw [Modifier.text, word.all_isAlpha]
    rfl
  | number run literal =>
    rw [not_all_isAlpha_number, span_number]
    simp [readNumber?_text, Modifier.filter]

theorem ofKeyword?_text (k : Keyword) : Property.ofKeyword? k.text = some k.subject := by
  cases k <;> rfl

/-- The reader gives every tree its query. -/
theorem readProperty?_text (d : Derivation) : readProperty? d.text = some d.query := by
  have hfilter : readFilter? (d.modifier.elim [] Modifier.text) =
      some (d.modifier.elim .any Modifier.filter) := by
    cases d.modifier with
    | none => rfl
    | some m => exact readFilter?_text m
  unfold readProperty?
  rw [span_text]
  simp [ofKeyword?_text, hfilter, Derivation.query]

/-! ## Nothing else is read -/

theorem exists_keyword_of_ofKeyword? {word : List Char} {p : Property}
    (h : Property.ofKeyword? word = some p) : ∃ k : Keyword, k.text = word := by
  obtain ⟨before, behind, hkeywords, -⟩ := List.lookup_eq_some_iff.1 h
  have hmem : (word, p) ∈ Property.keywords := by simp [hkeywords]
  simp only [Property.keywords, List.mem_cons, Prod.mk.injEq, List.not_mem_nil, or_false] at hmem
  rcases hmem with ⟨rfl, -⟩ | ⟨rfl, -⟩ | ⟨rfl, -⟩ | ⟨rfl, -⟩ | ⟨rfl, -⟩
  · exact ⟨.lp, rfl⟩
  · exact ⟨.study, rfl⟩
  · exact ⟨.lph, rfl⟩
  · exact ⟨.fep, rfl⟩
  · exact ⟨.food, rfl⟩

theorem exists_modifier_of_readFilter? {text : List Char} {f : Filter}
    (h : readFilter? text = some f) :
    ∃ modifier : Option Modifier, modifier.elim [] Modifier.text = text := by
  unfold readFilter? at h
  split at h
  · next hempty => exact ⟨none, (List.isEmpty_iff.1 hempty).symm⟩
  · next hempty =>
    split at h
    · next hall =>
      have hne : text ≠ [] := fun hnil => hempty (List.isEmpty_iff.2 hnil)
      exact ⟨some (.letters ⟨text, hne, List.all_eq_true.1 hall⟩), rfl⟩
    · obtain ⟨hsplit, hrun, -⟩ := Text.span_eq (s := text) (p := isOperatorCharacter) rfl
      obtain ⟨value, hvalue, -⟩ := Option.map_eq_some_iff.1 h
      obtain ⟨literal, hliteral⟩ := exists_literal_of_readNumber? hvalue
      refine ⟨some (.number ⟨_, fun c hc => isOperatorCharacter_iff.1 (hrun c hc)⟩ literal), ?_⟩
      rw [Option.elim_some, Modifier.text, hliteral]
      exact hsplit.symm

/-- Whatever the reader accepts has a tree. -/
theorem exists_derivation_of_readProperty? {text : List Char} {q : Query}
    (h : readProperty? text = some q) : ∃ d : Derivation, d.text = text := by
  unfold readProperty? at h
  split at h
  · next word c modifier hspan =>
    obtain ⟨rfl, -, hcolon⟩ := Text.span_eq hspan
    have hc : c = ':' := by simpa using hcolon c rfl
    obtain ⟨p, hkeyword, hrest⟩ := Option.bind_eq_some_iff.1 h
    obtain ⟨f, hfilter, -⟩ := Option.bind_eq_some_iff.1 hrest
    obtain ⟨k, rfl⟩ := exists_keyword_of_ofKeyword? hkeyword
    obtain ⟨m, rfl⟩ := exists_modifier_of_readFilter? hfilter
    exact ⟨⟨k, m⟩, by rw [Derivation.text, hc]⟩
  · exact absurd h (by simp)

/-! ## No text has two trees -/

theorem Modifier.text_injective {m n : Modifier} (h : m.text = n.text) : m = n := by
  cases m with
  | letters word =>
    cases n with
    | letters word' => rw [LetterWord.ext h]
    | number run literal =>
      have hall := word.all_isAlpha
      rw [show word.text = _ from h, not_all_isAlpha_number] at hall
      exact absurd hall Bool.false_ne_true
  | number run literal =>
    cases n with
    | letters word =>
      have hall := word.all_isAlpha
      rw [show word.text = _ from h.symm, not_all_isAlpha_number] at hall
      exact absurd hall Bool.false_ne_true
    | number run' literal' =>
      have hspan := span_number run literal
      rw [h, span_number, Prod.mk.injEq] at hspan
      rw [OperatorRun.ext hspan.1.symm, NumberLiteral.text_injective hspan.2.symm]

theorem elim_text_injective {m n : Option Modifier}
    (h : m.elim [] Modifier.text = n.elim [] Modifier.text) : m = n := by
  cases m with
  | none =>
    cases n with
    | none => rfl
    | some n => exact absurd h.symm n.text_ne_nil
  | some m =>
    cases n with
    | none => exact absurd h m.text_ne_nil
    | some n => rw [Modifier.text_injective h]

/-- The grammar is unambiguous. -/
theorem Derivation.text_injective {d e : Derivation} (h : d.text = e.text) : d = e := by
  have hspan := span_text d
  rw [h, span_text, Prod.mk.injEq, List.cons.injEq] at hspan
  obtain ⟨hkeyword, -, hmodifier⟩ := hspan
  obtain ⟨k, m⟩ := d
  obtain ⟨l, n⟩ := e
  obtain rfl : l = k := Keyword.text_injective hkeyword
  obtain rfl : n = m := elim_text_injective hmodifier
  rfl

/-! ## The reader -/

theorem readLower_text (d : Derivation) : readLower d.text = d.query := by
  rw [readLower, readProperty?_text, Option.getD_some]

theorem readLower_of_no_tree {text : List Char} (h : ¬∃ d : Derivation, d.text = text) :
    readLower text = .name (String.ofList text) := by
  have hread : readProperty? text = none := by
    refine Option.eq_none_iff_forall_ne_some.2 fun q hq => ?_
    exact h (exists_derivation_of_readProperty? hq)
  rw [readLower, hread, Option.getD_none]

theorem readLower_cases (text : List Char) :
    (∃ d : Derivation, d.text = text ∧ readLower text = d.query) ∨
      readLower text = .name (String.ofList text) := by
  by_cases h : ∃ d : Derivation, d.text = text
  · obtain ⟨d, rfl⟩ := h
    exact .inl ⟨d, rfl, readLower_text d⟩
  · exact .inr (readLower_of_no_tree h)

/-- What any input is read as.  Its trimmed lower-case form is a property query exactly when it has
a tree, and then the tree, of which there is only one, says which query it is; every other text is
read as a name.  The general reader of numbers accepts every number of the grammar, so no tree is
lost to it. -/
theorem read_follows_grammar (input : String) :
    let text := Text.lower (Text.trim input.toList)
    ((read input).isProperty = true ↔ ∃ d : Derivation, d.text = text) ∧
      (∀ d : Derivation, d.text = text → ∀ q, d.Denotes q ↔ q = read input) ∧
      ((¬∃ d : Derivation, d.text = text) → read input = .name (String.ofList text)) ∧
      (∀ d e : Derivation, d.text = e.text → d = e) ∧
      ∀ literal : NumberLiteral, ∃ value, Binary64.ofPlainText? literal.text = some value ∧
        readNumber? literal.text = some value := by
  intro text
  have hderived : ∀ d : Derivation, d.text = text → read input = d.query := by
    intro d hd
    show readLower text = d.query
    rw [← hd, readLower_text]
  have hother : (¬∃ d : Derivation, d.text = text) → read input = .name (String.ofList text) :=
    readLower_of_no_tree
  refine ⟨⟨?_, ?_⟩, ?_, hother, fun d e => Derivation.text_injective, ?_⟩
  · intro hproperty
    by_contra hnone
    rw [hother hnone] at hproperty
    exact absurd hproperty Bool.false_ne_true
  · intro hexists
    obtain ⟨d, hd⟩ := hexists
    rw [hderived d hd]
    rfl
  · intro d hd q
    rw [hderived d hd]
    exact Derivation.denotes_iff
  · intro literal
    exact ⟨literal.value, Binary64.ofPlainText?_text literal, readNumber?_text literal⟩

end Query

end InventorySearch
