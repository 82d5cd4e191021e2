import InventorySearch.Proofs.CanonicalForm
import InventorySearch.Proofs.ProgramRuns
import InventorySearch.Proofs.SearchTexts

/-!
# The note on an unknown operator

A number behind operator characters that make up none of the five operators is compared
for equality, and the report on the query says so in a second line.  The report does not
ask the reader of the query for it: it prints the note for a query with a number and no
comparison whose raw text has an operator character anywhere.

`parse_notes_unknown_operator` says that this comes to the same.

* `Text.mem_lower_trim_iff`: trimming and lower-casing neither make nor lose an operator
  character, because no other character has one for its lower form.
* `Query.Derivation.any_isOperatorCharacter_iff`: in a query that is read as a number with or
  without an operator, the operator is the only place for operator characters.
* `droppedOperator_query_iff`: so the test of the report is that of the grammar.
* `operatorNote_infix_queryText_iff`: the words of the note can also come from a name, which
  is printed as it is, but from nowhere else.
-/

namespace InventorySearch

namespace Text

/-! ## Pieces of a text -/

/-- A piece that does not begin with a character of what stands before a text begins in the text. -/
theorem infix_append_iff_of_head? {piece before text : List Char} {c : Char}
    (hc : piece.head? = some c) (hbefore : c ∉ before) :
    piece <:+: before ++ text ↔ piece <:+: text := by
  obtain ⟨rest, rfl⟩ := List.head?_eq_some_iff.1 hc
  induction before with
  | nil => rfl
  | cons d before ih =>
    rw [List.mem_cons, not_or] at hbefore
    have hnot : ¬c :: rest <+: d :: (before ++ text) := by
      intro hprefix
      exact hbefore.1 (List.cons_prefix_cons.1 hprefix).1
    rw [List.cons_append, List.infix_cons_iff, or_iff_right hnot, ih hbefore.2]

/-- A piece that does not end with a character of what stands behind a text ends in the text. -/
theorem infix_append_iff_of_getLast? {piece text behind : List Char} {c : Char}
    (hc : piece.getLast? = some c) (hbehind : c ∉ behind) :
    piece <:+: text ++ behind ↔ piece <:+: text := by
  have hreverse : piece.reverse.head? = some c := by rwa [List.head?_reverse]
  rw [← List.reverse_infix, List.reverse_append,
    infix_append_iff_of_head? hreverse (by simpa using hbehind), List.reverse_infix]

/-! ## Characters before the letters -/

/-- No other character has a character before the capital letters for its lower form. -/
theorem lowerOne_eq_iff_of_lt {c d : Char} (hd : d.toNat < 0x41) : lowerOne c = d ↔ c = d := by
  have hruns : ∀ run ∈ lowerRuns, 0x41 ≤ run.first ∧ 0x41 ≤ run.lowered run.first := by
    decide +kernel
  rcases lowerOne_cases c with hnone | ⟨run, hrun, hcovers, hlower⟩
  · rw [lowerOne_of_not_covers hnone]
  · obtain ⟨hfirst, hlowered⟩ := hruns run hrun
    obtain ⟨⟨hle, -⟩, -⟩ := CaseRun.covers_iff.1 hcovers
    constructor
    · intro h
      rw [← h, hlower] at hd
      unfold CaseRun.lowered at hd hlowered
      omega
    · intro h
      subst h
      omega

theorem mem_lowerFrom_iff_of_lt {d : Char} (hd : d.toNat < 0x41) (casedBefore : Bool)
    (s : List Char) : d ∈ lowerFrom casedBefore s ↔ d ∈ s := by
  have hne : ∀ e : Char, 0x41 ≤ e.toNat → d ≠ e := by
    rintro e he rfl
    omega
  induction s generalizing casedBefore with
  | nil => rfl
  | cons c rest ih =>
    have hlower : d = lowerOne c ↔ d = c := by
      rw [eq_comm, lowerOne_eq_iff_of_lt hd, eq_comm]
    rw [lowerFrom]
    split
    · next hsigma =>
      rw [List.mem_cons, List.mem_cons]
      refine or_congr ?_ (ih _)
      split
      · rw [hsigma]
        exact iff_of_false (hne _ (by decide)) (hne _ (by decide))
      · exact hlower
    · split
      · next hdotted =>
        have hi : d ≠ 'i' := hne _ (by decide)
        have hdot : d ≠ '\u0307' := hne _ (by decide)
        have hcapital : d ≠ dottedCapitalI := hne _ (by decide)
        rw [hdotted, List.mem_cons, List.mem_cons, List.mem_cons, or_iff_right hi,
          or_iff_right hdot, or_iff_right hcapital]
        exact ih _
      · rw [List.mem_cons, List.mem_cons]
        exact or_congr hlower (ih _)

theorem mem_trim_iff {d : Char} (hd : isWhiteSpace d = false) (s : List Char) :
    d ∈ trim s ↔ d ∈ s := by
  obtain ⟨before, behind, hs, hbefore, hbehind⟩ := exists_white_around_trim s
  have hnone : ∀ white : List Char, (∀ c ∈ white, isWhiteSpace c = true) → d ∉ white := by
    intro white hwhite hmem
    rw [hwhite d hmem] at hd
    exact absurd hd (by decide)
  conv_rhs => rw [hs]
  rw [List.mem_append, List.mem_append, or_iff_left (hnone behind hbehind),
    or_iff_right (hnone before hbefore)]

/-- Trimming and lower-casing neither make nor lose a character that stands before the letters and
is not white space. -/
theorem mem_lower_trim_iff {d : Char} (hd : d.toNat < 0x41) (hwhite : isWhiteSpace d = false)
    (s : List Char) : d ∈ lower (trim s) ↔ d ∈ s := by
  rw [lower, mem_lowerFrom_iff_of_lt hd, mem_trim_iff hwhite]

end Text

namespace Query

open Text

theorem any_isOperatorCharacter_lower_trim (s : List Char) :
    (lower (trim s)).any isOperatorCharacter = s.any isOperatorCharacter := by
  have hkept : ∀ c, isOperatorCharacter c = true → (c ∈ lower (trim s) ↔ c ∈ s) := by
    intro c hc
    rcases isOperatorCharacter_iff.1 hc with rfl | rfl | rfl <;>
      exact mem_lower_trim_iff (by decide) (by decide) s
  rw [Bool.eq_iff_iff, List.any_eq_true, List.any_eq_true]
  constructor
  · intro h
    obtain ⟨c, hmem, hc⟩ := h
    exact ⟨c, (hkept c hc).1 hmem, hc⟩
  · intro h
    obtain ⟨c, hmem, hc⟩ := h
    exact ⟨c, (hkept c hc).2 hmem, hc⟩

/-! ## Operators in the grammar -/

/-- A text is a keyword, a colon, and a number behind operator characters that are none of the five
operators. -/
def HasUnknownOperator (text : List Char) : Prop :=
  ∃ (keyword : Keyword) (run : OperatorRun) (literal : NumberLiteral),
    text = keyword.text ++ ':' :: (run.text ++ literal.text) ∧ run.text ≠ [] ∧
      ∀ c : Comparison, run.text ≠ c.symbol

theorem HasUnknownOperator.exists_tree {text : List Char} (h : HasUnknownOperator text) :
    ∃ d : Derivation, d.text = text := by
  obtain ⟨keyword, run, literal, rfl, -⟩ := h
  exact ⟨⟨keyword, some (.number run literal)⟩, rfl⟩

/-- As no text has two trees, it is the tree that says whether there is an unknown operator. -/
theorem Derivation.hasUnknownOperator_text_iff (d : Derivation) :
    HasUnknownOperator d.text ↔
      ∃ run literal, d.modifier = some (.number run literal) ∧ run.text ≠ [] ∧
        ∀ c : Comparison, run.text ≠ c.symbol := by
  constructor
  · intro hunknown
    obtain ⟨keyword, run, literal, htext, hrun⟩ := hunknown
    have htree : d = ⟨keyword, some (.number run literal)⟩ := Derivation.text_injective htext
    exact ⟨run, literal, by rw [htree], hrun⟩
  · intro hmodifier
    obtain ⟨run, literal, hmodifier, hrun⟩ := hmodifier
    refine ⟨d.keyword, run, literal, ?_, hrun⟩
    rw [Derivation.text, hmodifier]
    rfl

/-- Operator characters stand in a property query only where its operator does. -/
theorem Derivation.any_isOperatorCharacter_iff {d : Derivation} {run : OperatorRun}
    {literal : NumberLiteral} (h : d.modifier = some (.number run literal)) :
    d.text.any isOperatorCharacter = true ↔ run.text ≠ [] := by
  have hkeyword : ∀ k : Keyword, ∀ c ∈ k.text, isOperatorCharacter c = false := by
    intro k
    cases k <;> simp [Keyword.text, isOperatorCharacter]
  rw [List.any_eq_true]
  constructor
  · intro hany hnil
    obtain ⟨c, hc, hoperator⟩ := hany
    rcases Derivation.mem_text_iff.1 hc with hmem | rfl | ⟨m, hm, hmem⟩
    · rw [hkeyword d.keyword c hmem] at hoperator
      exact absurd hoperator Bool.false_ne_true
    · exact absurd hoperator (by decide)
    · obtain rfl : .number run literal = m := Option.some.inj (h.symm.trans hm)
      rw [Modifier.text, hnil, List.nil_append] at hmem
      rcases NumberLiteral.mem_text hmem with hdigit | rfl
      · rw [not_isOperatorCharacter_of_isDigit hdigit] at hoperator
        exact absurd hoperator Bool.false_ne_true
      · exact absurd hoperator (by decide)
  · intro hne
    obtain ⟨c, hc⟩ := List.exists_mem_of_ne_nil run.text hne
    refine ⟨c, ?_, isOperatorCharacter_iff.2 (run.isOperator c hc)⟩
    exact Derivation.mem_text_iff.2 (.inr (.inr ⟨_, h, List.mem_append_left _ hc⟩))

/-! ## Brackets -/

/-- A property query has no bracket in it. -/
theorem Derivation.bracket_not_mem_text (d : Derivation) : '(' ∉ d.text := by
  have hkeyword : ∀ k : Keyword, '(' ∉ k.text := by
    intro k
    cases k <;> decide
  intro h
  rcases Derivation.mem_text_iff.1 h with hmem | hcolon | ⟨word | ⟨run, literal⟩, -, hmem⟩
  · exact hkeyword d.keyword hmem
  · exact absurd hcolon (by decide)
  · exact absurd (word.isAlpha _ hmem) (by decide)
  · rcases List.mem_append.1 hmem with hrun | hliteral
    · exact absurd (run.isOperator _ hrun) (by decide)
    · exact absurd (NumberLiteral.mem_text hliteral) (by decide)

/-- Neither has the canonical form of one, also with an infinite number. -/
theorem Derivation.bracket_not_mem_canonical (d : Derivation) :
    '(' ∉ d.query.canonical.toList := by
  by_cases hinfinite : d.query.ComparesWithInfinity
  · obtain ⟨subject, comparison, negative, hquery⟩ := hinfinite
    rw [hquery, toList_canonical]
    rcases comparison with _ | comparison
    · cases subject <;> cases negative <;> decide
    · cases subject <;> cases comparison <;> cases negative <;> decide
  · obtain ⟨e, htext, -⟩ := d.exists_text_canonical hinfinite
    rw [← htext]
    exact e.bracket_not_mem_text

end Query

namespace CommandLine

open Text Query

variable {input : String}

/-! ## The report on a query -/

/-- The line that says that an operator was dropped. -/
def operatorNote : String := "(operator not recognized, comparing for equality)"

/-- The test of the report is that of the grammar. -/
theorem droppedOperator_query_iff {d : Derivation} (h : d.text = lower (trim input.toList)) :
    droppedOperator input d.query = true ↔ HasUnknownOperator d.text := by
  have hany := any_isOperatorCharacter_lower_trim input.toList
  rw [d.hasUnknownOperator_text_iff]
  rw [← h] at hany
  obtain ⟨keyword, _ | word | ⟨run, literal⟩⟩ := d
  · simp [Derivation.query, droppedOperator]
  · simp [Derivation.query, Modifier.filter, droppedOperator]
  · rw [Bool.eq_iff_iff, Derivation.any_isOperatorCharacter_iff rfl] at hany
    show droppedOperator input (.property keyword.subject
      (.numeric (Comparison.ofSymbol? run.text) literal.value)) = true ↔ _
    cases hsymbol : Comparison.ofSymbol? run.text with
    | none =>
      rw [Comparison.ofSymbol?_eq_none_iff] at hsymbol
      rw [droppedOperator, ← hany]
      simp [hsymbol]
    | some c =>
      rw [Comparison.ofSymbol?_eq_some_iff] at hsymbol
      simp [droppedOperator, hsymbol]

theorem queryText_of_tree {d : Derivation} (h : d.text = lower (trim input.toList)) :
    queryText input = lines (("property: " ++ (Query.read input).canonical) ::
      if droppedOperator input d.query then [operatorNote] else []) := by
  have hread : Query.read input = d.query := by rw [Query.read, ← h, readLower_text]
  have hproperty : (Query.read input).isProperty = true := by
    rw [hread]
    rfl
  have hblank : isBlank input = false := by
    rw [← isEmpty_read, hread]
    rfl
  rw [← hread]
  simp [queryText, hblank, hproperty, operatorNote]

theorem queryText_of_unknown (h : HasUnknownOperator (lower (trim input.toList))) :
    queryText input = lines ["property: " ++ (Query.read input).canonical, operatorNote] := by
  obtain ⟨d, hd⟩ := h.exists_tree
  rw [queryText_of_tree hd, if_pos]
  rwa [droppedOperator_query_iff hd, hd]

theorem queryText_of_known {d : Derivation} (hd : d.text = lower (trim input.toList))
    (h : ¬HasUnknownOperator (lower (trim input.toList))) :
    queryText input = lines ["property: " ++ (Query.read input).canonical] := by
  rw [queryText_of_tree hd, if_neg]
  rwa [droppedOperator_query_iff hd, hd]

/-- What is printed about a text that is no property query. -/
theorem queryText_of_no_tree (h : ¬∃ d : Derivation, d.text = lower (trim input.toList)) :
    queryText input = lines [if isBlank input then "(empty query - matches nothing)"
      else "name: " ++ String.ofList (lower (trim input.toList))] := by
  have hread : Query.read input = .name (String.ofList (lower (trim input.toList))) :=
    readLower_of_no_tree h
  cases hblank : isBlank input with
  | true => simp [queryText, hblank]
  | false => simp [queryText, hblank, hread, isProperty, canonical]

/-! ## The words of the note -/

theorem toList_lines (texts : List String) :
    (lines texts).toList = texts.flatMap fun text => text.toList ++ ['\n'] := by
  rw [lines, String.toList_join, List.flatMap_map]
  simp

/-- Only an unknown operator makes a second line behind that of a property query. -/
theorem queryText_eq_noted_iff :
    queryText input = lines ["property: " ++ (Query.read input).canonical, operatorNote] ↔
      HasUnknownOperator (lower (trim input.toList)) := by
  refine ⟨?_, queryText_of_unknown⟩
  intro hnoted
  by_contra hknown
  by_cases htree : ∃ d : Derivation, d.text = lower (trim input.toList)
  · obtain ⟨d, hd⟩ := htree
    rw [queryText_of_known hd hknown] at hnoted
    have hlength := congrArg (fun printed => printed.toList.length) hnoted
    simp [toList_lines] at hlength
  · rw [queryText_of_no_tree htree] at hnoted
    have hhead := congrArg (fun printed => printed.toList.head?) hnoted
    cases hblank : isBlank input <;> simp [toList_lines, hblank] at hhead

theorem not_infix_of_bracket_not_mem {text : List Char} (h : '(' ∉ text) :
    ¬operatorNote.toList <:+: text := by
  intro hnote
  exact h (hnote.subset (by decide))

/-- The words of the note come from an unknown operator, or they are part of a name. -/
theorem operatorNote_infix_queryText_iff :
    operatorNote.toList <:+: (queryText input).toList ↔
      HasUnknownOperator (lower (trim input.toList)) ∨
        operatorNote.toList <:+: lower (trim input.toList) := by
  by_cases hunknown : HasUnknownOperator (lower (trim input.toList))
  · refine iff_of_true ?_ (.inl hunknown)
    rw [queryText_of_unknown hunknown, toList_lines]
    exact ⟨("property: " ++ (Query.read input).canonical).toList ++ ['\n'], ['\n'], by simp⟩
  rw [or_iff_right hunknown]
  by_cases htree : ∃ d : Derivation, d.text = lower (trim input.toList)
  · obtain ⟨d, hd⟩ := htree
    have hcanonical : '(' ∉ (Query.read input).canonical.toList := by
      rw [Query.read, ← hd, readLower_text]
      exact d.bracket_not_mem_canonical
    rw [queryText_of_known hd hunknown, toList_lines, ← hd]
    have hprinted : '(' ∉ ["property: " ++ (Query.read input).canonical].flatMap fun text =>
        text.toList ++ ['\n'] := by
      simp [hcanonical]
    exact iff_of_false (not_infix_of_bracket_not_mem hprinted)
      (not_infix_of_bracket_not_mem d.bracket_not_mem_text)
  · rw [queryText_of_no_tree htree, toList_lines, List.flatMap_singleton]
    cases hblank : isBlank input with
    | true =>
      have hempty : lower (trim input.toList) = [] :=
        lower_eq_nil_iff.2 (List.isEmpty_iff.1 hblank)
      have hshort : ¬operatorNote.toList <:+:
          "(empty query - matches nothing)".toList ++ ['\n'] := by
        intro hnote
        exact absurd hnote.length_le (by decide)
      rw [hempty, List.infix_nil]
      exact iff_of_false hshort (by decide)
    | false =>
      have hfirst : operatorNote.toList.head? = some '(' := by decide
      have hlast : operatorNote.toList.getLast? = some ')' := by decide
      rw [if_neg Bool.false_ne_true, String.toList_append,
        infix_append_iff_of_getLast? hlast (by decide),
        infix_append_iff_of_head? hfirst (by decide), String.toList_ofList]

/-- Whatever a text is, `parse` prints the note about its operator exactly if in lower case and
without white space around it the text is a keyword, a colon, and a number behind operator
characters that are none of the five operators.  There is one line for every other property query,
be it bare, with a word, with a number alone or behind one of the operators, and for every name and
the empty query, whatever characters they have.  If the words of the note are found in what is
printed, then because of an unknown operator or within a name. -/
theorem parse_notes_unknown_operator (call : Invocation) (disk : Disk) {given : Option String}
    {input format : String}
    (hcommand : Request.ofWords call.words = .command given (.parse input format))
    (hformat : format ≠ "json") :
    let text := lower (trim input.toList)
    let line := "property: " ++ (Query.read input).canonical
    let outcome := (call.runOn disk).1
    outcome.code = 0 ∧
    (outcome.output = lines [line, operatorNote] ↔ HasUnknownOperator text) ∧
    (∀ d : Derivation, d.text = text →
      (∀ run literal, d.modifier = some (.number run literal) →
        run.text = [] ∨ ∃ c : Comparison, run.text = c.symbol) →
      outcome.output = lines [line]) ∧
    ((¬∃ d : Derivation, d.text = text) →
      outcome.output = lines [if isBlank input then "(empty query - matches nothing)"
        else "name: " ++ String.ofList text]) ∧
    (operatorNote.toList <:+: outcome.output.toList ↔
      HasUnknownOperator text ∨ operatorNote.toList <:+: text) := by
  intro text line outcome
  have houtcome : outcome = { code := 0, output := queryText input } := by
    have hreport : reportQuery input format = queryText input := by
      simp [reportQuery, isJson, hformat]
    show (call.runOn disk).1 = _
    rw [Invocation.runOn_of_command hcommand, ← hreport]
    rfl
  rw [houtcome]
  refine ⟨rfl, queryText_eq_noted_iff, ?_, queryText_of_no_tree, operatorNote_infix_queryText_iff⟩
  intro d hd hknown
  apply queryText_of_known hd
  intro hunknown
  have htree : HasUnknownOperator d.text := by rwa [hd]
  obtain ⟨run, literal, hmodifier, hne, hnone⟩ := d.hasUnknownOperator_text_iff.1 htree
  rcases hknown run literal hmodifier with hempty | ⟨c, hc⟩
  · exact hne hempty
  · exact hnone c hc

/-- The note stands behind a query in capitals whose operator is the wrong way round, and not behind
the same query with the operator that was meant. -/
theorem wrong_way_round_is_noted :
    let unknown : Invocation := { words := ["p", "Study:=>5.5 "] }
    let known : Invocation := { words := ["p", "Study:>=5.5 ", "--format", "table"] }
    Request.ofWords unknown.words = .command none (.parse "Study:=>5.5 " "text") ∧
      "text" ≠ "json" ∧
      (unknown.runOn {}).1.output = lines ["property: lp:5.5", operatorNote] ∧
    Request.ofWords known.words = .command none (.parse "Study:>=5.5 " "table") ∧
      "table" ≠ "json" ∧ (known.runOn {}).1.output = lines ["property: lp:>=5.5"] := by
  intro unknown known
  let literal : NumberLiteral := ⟨['5'], some ['5'], by simp, by simp, by simp⟩
  have hunknown : Request.ofWords unknown.words =
      .command none (.parse "Study:=>5.5 " "text") := by decide +kernel
  have hknown : Request.ofWords known.words =
      .command none (.parse "Study:>=5.5 " "table") := by decide +kernel
  obtain ⟨-, hnoted, -⟩ := parse_notes_unknown_operator unknown {} hunknown (by decide)
  obtain ⟨-, -, hsingle, -⟩ := parse_notes_unknown_operator known {} hknown (by decide)
  refine ⟨hunknown, by decide, ?_, hknown, by decide, ?_⟩
  · have hcanonical : (Query.read "Study:=>5.5 ").canonical = "lp:5.5" := by decide +kernel
    rw [hcanonical] at hnoted
    refine hnoted.2 ⟨.study, ⟨['=', '>'], by simp⟩, literal, by decide, by simp, ?_⟩
    intro c
    cases c <;> decide
  · have hcanonical : (Query.read "Study:>=5.5 ").canonical = "lp:>=5.5" := by decide +kernel
    rw [hcanonical] at hsingle
    refine hsingle ⟨.study, some (.number ⟨['>', '='], by simp⟩ literal)⟩ (by decide) ?_
    intro run number hmodifier
    obtain ⟨rfl, -⟩ := Modifier.number.inj (Option.some.inj hmodifier)
    exact .inr ⟨.atLeast, rfl⟩

end CommandLine

end InventorySearch
