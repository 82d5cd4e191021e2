import InventorySearch.Proofs.LetterCase
import InventorySearch.Proofs.QueryGrammar
import InventorySearch.Query.Canonical

/-!
# Reading canonical forms

The canonical form of a query reads as that query, unless the query compares with an
infinite number (`read_canonical_iff`).

The writer and the reader meet at the trees of the grammar.  The canonical form of a
property query with a finite number is the text of a tree that stands for the same
query (`Derivation.exists_text_canonical`), and such a text has nothing to trim or to
lower-case, `IsPlain`.  A name is a trimmed lower-case text already, and the second
pass leaves it so.  An infinite number is written as a word, and no number of the
grammar has letters.
-/

namespace InventorySearch

/-! ## Plain characters -/

namespace Text

/-- A character is in lower case and no white space, so that trimming and lower-casing leave it
alone. -/
structure IsPlain (c : Char) : Prop where
  isLower : IsLower c
  not_white : isWhiteSpace c = false

theorem not_white_of_ascii {c : Char} (h : 0x21 ≤ c.toNat ∧ c.toNat ≤ 0x7E) :
    isWhiteSpace c = false := by
  have hranges : ∀ range ∈ whiteSpaceRanges, range.2 < 0x21 ∨ 0x7E < range.1 := by decide
  rw [Bool.eq_false_iff]
  intro hwhite
  obtain ⟨range, hrange, hbounds⟩ := CodeRanges.exists_of_containsCode hwhite
  have hapart := hranges range hrange
  omega

/-- The visible ASCII characters are plain, all but the capital letters. -/
theorem isPlain_of_ascii {c : Char} (h : 0x21 ≤ c.toNat ∧ c.toNat ≤ 0x7E)
    (hcapital : ¬(0x41 ≤ c.toNat ∧ c.toNat ≤ 0x5A)) : IsPlain c := by
  have hruns : ∀ run ∈ lowerRuns, 0x41 ≤ run.first ∧ run.last ≤ 0x5A ∨ 0x7E < run.first := by
    decide +kernel
  refine ⟨⟨?_, ?_⟩, not_white_of_ascii h⟩
  · intro run hrun
    have hapart := hruns run hrun
    rw [Bool.eq_false_iff]
    intro hcovers
    obtain ⟨hbounds, -⟩ := CaseRun.covers_iff.1 hcovers
    omega
  · intro hdotted
    subst hdotted
    exact absurd h (by decide)

/-- A plain text is read as it stands. -/
theorem lower_trim_of_plain {text : List Char} (h : ∀ c ∈ text, IsPlain c) :
    lower (trim text) = text := by
  have htrimmed : IsTrimmed text :=
    ⟨fun c hc => (h c (List.mem_of_mem_head? hc)).not_white,
      fun c hc => (h c (List.mem_of_mem_getLast? hc)).not_white⟩
  rw [htrimmed.trim_eq]
  exact lower_eq_self fun c hc => (h c hc).isLower

end Text

namespace Query

open Text

/-! ## Trees with a plain text -/

theorem Keyword.isPlain_of_mem {k : Keyword} {c : Char} (h : c ∈ k.text) : IsPlain c := by
  have hascii : ∀ d ∈ k.text, 0x61 ≤ d.toNat ∧ d.toNat ≤ 0x7A := by
    cases k <;> simp [Keyword.text]
  have hcode := hascii c h
  exact isPlain_of_ascii (by omega) (by omega)

theorem OperatorRun.isPlain_of_mem {run : OperatorRun} {c : Char} (h : c ∈ run.text) :
    IsPlain c := by
  rcases run.isOperator c h with rfl | rfl | rfl <;> exact isPlain_of_ascii (by decide) (by decide)

theorem isPlain_of_mem_literal {literal : NumberLiteral} {c : Char} (h : c ∈ literal.text) :
    IsPlain c := by
  rcases NumberLiteral.mem_text h with hdigit | rfl
  · have hcode := toNat_of_isDigit hdigit
    exact isPlain_of_ascii (by omega) (by omega)
  · exact isPlain_of_ascii (by decide) (by decide)

theorem isPlain_colon : IsPlain ':' :=
  isPlain_of_ascii (by decide) (by decide)

/-- The text of a tree is plain if its word, should it have one, is in lower case. -/
theorem Derivation.isPlain_of_mem {d : Derivation}
    (hword : ∀ word, d.modifier = some (.letters word) → ∀ c ∈ word.text, IsLower c) :
    ∀ c ∈ d.text, IsPlain c := by
  intro c hc
  rcases mem_text_iff.1 hc with hkeyword | rfl | ⟨word | ⟨run, literal⟩, hmodifier, hmem⟩
  · exact Keyword.isPlain_of_mem hkeyword
  · exact isPlain_colon
  · have hascii := toNat_of_isAlpha (word.isAlpha c hmem)
    exact ⟨hword word hmodifier c hmem, not_white_of_ascii (by omega)⟩
  · rcases List.mem_append.1 hmem with hrun | hliteral
    · exact OperatorRun.isPlain_of_mem hrun
    · exact isPlain_of_mem_literal hliteral

/-! ## Canonical trees -/

/-- The keyword under which a property is shown. -/
def Keyword.shown : Property → Keyword
  | .learningPoints => lp
  | .learningPointsPerHour => lph
  | .foodEnergy => fep

theorem Keyword.text_shown (p : Property) : (shown p).text = p.keyword := by
  cases p <;> rfl

theorem Keyword.subject_shown (p : Property) : (shown p).subject = p := by
  cases p <;> rfl

/-- The operator run that a comparison is shown with. -/
def OperatorRun.shown (comparison : Option Comparison) : OperatorRun where
  text := comparison.elim [] Comparison.symbol
  isOperator := by
    rcases comparison with _ | comparison
    · simp
    · cases comparison <;> simp [Comparison.symbol]

/-- A run that is dropped stays dropped, and an operator stays itself. -/
theorem ofSymbol?_shown (comparison : Option Comparison) :
    Comparison.ofSymbol? (OperatorRun.shown comparison).text = comparison := by
  cases comparison with
  | none => rfl
  | some comparison => exact Comparison.ofSymbol?_symbol comparison

/-- A query compares with an infinite number. -/
def ComparesWithInfinity (q : Query) : Prop :=
  ∃ subject comparison negative, q = .property subject (.numeric comparison (.infinite negative))

theorem toList_canonical (subject : Property) (filter : Filter) :
    (Query.property subject filter).canonical.toList =
      subject.keyword ++ ':' :: filter.canonical :=
  String.toList_ofList

/-- The canonical form of a filter with a finite number is the text of a modifier for the same
filter, and a word stays the same word. -/
theorem Modifier.exists_text_canonical (m : Modifier)
    (hm : ∀ comparison negative, m.filter ≠ .numeric comparison (.infinite negative)) :
    ∃ n : Modifier, n.text = m.filter.canonical ∧ n.filter = m.filter ∧
      ∀ word, n = .letters word → m = .letters word := by
  cases m with
  | letters word => exact ⟨.letters word, String.toList_ofList.symm, rfl, fun _ h => h⟩
  | number run literal =>
    rcases Binary64.ofRatio_cases false (Text.numeralValue literal.digits)
      (power 10 literal.places) with hvalue | ⟨quanta, hquanta, hvalue⟩
    · exact absurd (congrArg (Filter.numeric _) hvalue) (hm _ _)
    · have hfilter : (Modifier.number run literal).filter =
          .numeric (Comparison.ofSymbol? run.text) (.finite false quanta hquanta) :=
        congrArg (Filter.numeric _) hvalue
      obtain ⟨shown, htext, hshown⟩ := Binary64.exists_literal_plainText hquanta
      refine ⟨.number (OperatorRun.shown (Comparison.ofSymbol? run.text)) shown, ?_, ?_, by simp⟩
      · rw [hfilter, Filter.canonical, ← htext]
        rfl
      · rw [hfilter, Modifier.filter, ofSymbol?_shown, hshown]

/-- The canonical form of what a tree stands for has a tree too, one that stands for the same and
keeps the word. -/
theorem Derivation.exists_text_canonical (d : Derivation) (hd : ¬d.query.ComparesWithInfinity) :
    ∃ e : Derivation, e.text = d.query.canonical.toList ∧ e.query = d.query ∧
      ∀ word, e.modifier = some (.letters word) → d.modifier = some (.letters word) := by
  obtain ⟨keyword, _ | m⟩ := d
  · refine ⟨⟨.shown keyword.subject, none⟩, ?_, ?_, fun _ h => h⟩
    · rw [query, toList_canonical, text, Keyword.text_shown]
      rfl
    · rw [query, query, Keyword.subject_shown]
  · have hm : ∀ comparison negative, m.filter ≠ .numeric comparison (.infinite negative) :=
      fun comparison negative h => hd ⟨_, comparison, negative, congrArg (Query.property _) h⟩
    obtain ⟨n, htext, hfilter, hword⟩ := m.exists_text_canonical hm
    refine ⟨⟨.shown keyword.subject, some n⟩, ?_, ?_, ?_⟩
    · rw [query, toList_canonical, text, Keyword.text_shown, Option.elim_some, htext]
      rfl
    · rw [query, query, Keyword.subject_shown, Option.elim_some, Option.elim_some, hfilter]
    · intro word hn
      rw [hword word (Option.some.inj hn)]

/-! ## Infinite numbers -/

theorem isPlain_of_mem_infinite {negative : Bool} {c : Char}
    (h : c ∈ (Binary64.infinite negative).plainText) : IsPlain c := by
  have hascii : ∀ d ∈ (Binary64.infinite negative).plainText,
      (0x21 ≤ d.toNat ∧ d.toNat ≤ 0x7E) ∧ ¬(0x41 ≤ d.toNat ∧ d.toNat ≤ 0x5A) := by
    cases negative <;> simp [Binary64.plainText]
  exact isPlain_of_ascii (hascii c h).1 (hascii c h).2

/-- The canonical form of a comparison with an infinite number is plain. -/
theorem isPlain_canonical_infinite (subject : Property) (comparison : Option Comparison)
    (negative : Bool) :
    ∀ c ∈ (Query.property subject (.numeric comparison (.infinite negative))).canonical.toList,
      IsPlain c := by
  intro c hc
  rw [toList_canonical, List.mem_append, List.mem_cons, Filter.canonical, List.mem_append] at hc
  rcases hc with hkeyword | rfl | hrun | hinfinite
  · rw [← Keyword.text_shown] at hkeyword
    exact Keyword.isPlain_of_mem hkeyword
  · exact isPlain_colon
  · exact OperatorRun.isPlain_of_mem (show c ∈ (OperatorRun.shown comparison).text from hrun)
  · exact isPlain_of_mem_infinite hinfinite

/-- The words for infinite numbers contain an n. -/
theorem mem_canonical_infinite (subject : Property) (comparison : Option Comparison)
    (negative : Bool) :
    'n' ∈ (Query.property subject (.numeric comparison (.infinite negative))).canonical.toList := by
  have hn : 'n' ∈ (Binary64.infinite negative).plainText := by cases negative <;> decide
  rw [toList_canonical, Filter.canonical]
  simp [hn]

/-- A tree with a number has no n in its text. -/
theorem Derivation.not_mem_text_of_numeric {d : Derivation} {subject : Property}
    {comparison : Option Comparison} {target : Binary64}
    (h : d.query = .property subject (.numeric comparison target)) : 'n' ∉ d.text := by
  have hkeywords : ∀ k : Keyword, 'n' ∉ k.text := by
    intro k
    cases k <;> decide
  intro hn
  rcases mem_text_iff.1 hn with hkeyword | hcolon | ⟨word | ⟨run, literal⟩, hmodifier, hmem⟩
  · exact hkeywords d.keyword hkeyword
  · exact absurd hcolon (by decide)
  · rw [query, hmodifier] at h
    exact absurd h (by simp [Modifier.filter])
  · rcases List.mem_append.1 hmem with hrun | hliteral
    · exact absurd (run.isOperator _ hrun) (by decide)
    · exact absurd (NumberLiteral.mem_text hliteral) (by decide)

/-! ## The second reading -/

/-- A plain text is read as it stands. -/
theorem read_of_plain {text : String} (h : ∀ c ∈ text.toList, IsPlain c) :
    read text = readLower text.toList := by
  rw [read, lower_trim_of_plain h]

/-- No comparison with an infinite number is what its canonical form reads as. -/
theorem read_canonical_infinite_ne (subject : Property) (comparison : Option Comparison)
    (negative : Bool) :
    read (Query.property subject (.numeric comparison (.infinite negative))).canonical ≠
      .property subject (.numeric comparison (.infinite negative)) := by
  intro hread
  have hmem := mem_canonical_infinite subject comparison negative
  rw [read_of_plain (isPlain_canonical_infinite subject comparison negative)] at hread
  rcases readLower_cases (Query.property subject
    (.numeric comparison (.infinite negative))).canonical.toList with ⟨d, hd, hquery⟩ | hname
  · rw [hquery] at hread
    rw [← hd] at hmem
    exact d.not_mem_text_of_numeric hread hmem
  · rw [hname] at hread
    exact absurd hread (by simp)

/-- The canonical form of what was read reads as the same query, whatever was read, unless the
number in it was too large to be finite; then it never does. -/
theorem read_canonical_iff (s : String) :
    read (read s).canonical = read s ↔ ¬(read s).ComparesWithInfinity := by
  constructor
  · intro hread hinfinite
    obtain ⟨subject, comparison, negative, hquery⟩ := hinfinite
    rw [hquery] at hread
    exact read_canonical_infinite_ne subject comparison negative hread
  · intro hfinite
    rcases readLower_cases (lower (trim s.toList)) with ⟨d, hd, hquery⟩ | hname
    · have hread : read s = d.query := hquery
      rw [hread] at hfinite ⊢
      -- The tree of the canonical form is another one, but its word is a piece of the input.
      obtain ⟨e, htext, he, hword⟩ := d.exists_text_canonical hfinite
      have hplain : ∀ c ∈ e.text, IsPlain c := by
        refine Derivation.isPlain_of_mem fun word hmodifier c hc => ?_
        refine isLower_of_mem_lower (s := trim s.toList) ?_
        rw [← hd, Derivation.text, hword word hmodifier]
        exact List.mem_append_right _ (List.mem_cons_of_mem _ hc)
      rw [htext] at hplain
      rw [read_of_plain hplain, ← htext, readLower_text, he]
    · have hread : read s = .name (String.ofList (lower (trim s.toList))) := hname
      rw [hread, canonical, read, String.toList_ofList, lower_trim_lower_trim]
      exact hname

end Query

end InventorySearch
