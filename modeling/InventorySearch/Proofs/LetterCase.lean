import InventorySearch.Text.Lowercase
import InventorySearch.Text.WhiteSpace
import Mathlib.Data.List.DropRight

/-!
# Trimmed lower-case texts

Trimming a text and lower-casing it leaves nothing to do for a second pass
(`lower_trim_lower_trim`), although the lower form of a sigma depends on its
neighbours and that of a dotted capital I has two characters.

A character is in lower case, `IsLower`, when no run of the table covers it and it is
not the dotted capital I.  Then its lower form is itself, whatever stands around it.
What makes the table reach such characters in one step is that no lower form of one
run is covered by any other; `lowerRuns_closed` checks this for the ends of the runs,
and `CaseRun.not_covers_of_avoids` carries it over to their members.  Nor is a lower
form white space, so no end of a trimmed text becomes blank.

* `lowerFrom_cons`: what one character turns into.
* `isLower_of_mem_lowerFrom`: what a whole text turns into.
* `lowerFrom_eq_self`: a text in lower case stays as it is.
-/

namespace InventorySearch.Text

/-! ## Runs and their lower forms -/

namespace CaseRun

/-- All lower forms of a run are code points of characters. -/
def hasCharacters (run : CaseRun) : Bool :=
  0 ≤ run.first + run.shift &&
    (run.last + run.shift < 0xD800 ||
      0xDFFF < run.first + run.shift && run.last + run.shift < 0x110000)

/-- No lower form of a run lies in a range. -/
def misses (run : CaseRun) (range : Nat × Nat) : Bool :=
  run.lowered run.last < range.1 || range.2 < run.lowered run.first

/-- Another run covers no lower form of a run: they lie apart, or the forms fall between every two
neighbours of the other run. -/
def avoids (run other : CaseRun) : Bool :=
  run.misses (other.first, other.last) ||
    other.stride == 2 && (run.stride == 2 || run.first == run.last) &&
      (run.lowered run.first + other.first) % 2 == 1

theorem covers_iff {run : CaseRun} {code : Nat} :
    run.covers code = true ↔
      (run.first ≤ code ∧ code ≤ run.last) ∧ (code - run.first) % run.stride = 0 := by
  simp [covers]

theorem misses_iff {run : CaseRun} {range : Nat × Nat} :
    run.misses range = true ↔
      run.lowered run.last < range.1 ∨ range.2 < run.lowered run.first := by
  simp [misses]

/-- The test for lying apart in comparisons that are evaluated fast. -/
theorem misses_eq (run : CaseRun) : run.misses = fun range =>
    Nat.ble (run.lowered run.last + 1) range.1 ||
      Nat.ble (range.2 + 1) (run.lowered run.first) := by
  funext range
  rw [Bool.eq_iff_iff, misses_iff, Bool.or_eq_true, Nat.ble_eq, Nat.ble_eq, Nat.lt_iff_add_one_le,
    Nat.lt_iff_add_one_le]

theorem avoids_iff {run other : CaseRun} :
    run.avoids other = true ↔ run.misses (other.first, other.last) = true ∨
      (other.stride = 2 ∧ (run.stride = 2 ∨ run.first = run.last)) ∧
        (run.lowered run.first + other.first) % 2 = 1 := by
  simp [avoids]

theorem toNat_ofNat_lowered {run : CaseRun} {code : Nat} (h : run.hasCharacters = true)
    (hcode : run.covers code = true) :
    (Char.ofNat (run.lowered code)).toNat = run.lowered code := by
  have hvalid : (run.lowered code).isValidChar := by
    obtain ⟨⟨hfirst, hlast⟩, -⟩ := covers_iff.1 hcode
    simp only [hasCharacters, Bool.and_eq_true, Bool.or_eq_true, decide_eq_true_eq] at h
    unfold Nat.isValidChar lowered
    omega
  rw [Char.ofNat, dif_pos hvalid]
  rfl

theorem not_mem_range_of_misses {run : CaseRun} {range : Nat × Nat} {code : Nat}
    (h : run.misses range = true) (hcode : run.covers code = true) :
    ¬(range.1 ≤ run.lowered code ∧ run.lowered code ≤ range.2) := by
  obtain ⟨⟨hfirst, hlast⟩, -⟩ := covers_iff.1 hcode
  have happart := misses_iff.1 h
  unfold lowered at happart ⊢
  omega

theorem not_covers_of_avoids {run other : CaseRun} {code : Nat} (hrun : run.hasCharacters = true)
    (h : run.avoids other = true) (hcode : run.covers code = true) :
    other.covers (run.lowered code) = false := by
  rw [Bool.eq_false_iff]
  intro hother
  obtain ⟨hbounds, hstep⟩ := covers_iff.1 hcode
  obtain ⟨hbounds', hstep'⟩ := covers_iff.1 hother
  rcases avoids_iff.1 h with hmisses | ⟨⟨hstride, hsteps⟩, hodd⟩
  · exact not_mem_range_of_misses hmisses hcode hbounds'
  · simp only [hasCharacters, Bool.and_eq_true, decide_eq_true_eq] at hrun
    -- Within a run the lower forms have the parity of the first one.
    have heven : (code - run.first) % 2 = 0 := by
      rcases hsteps with htwo | hsingle
      · rwa [htwo] at hstep
      · omega
    rw [hstride] at hstep'
    unfold lowered at hodd hstep' hbounds'
    omega

end CaseRun

/-- The range of the dotted capital I alone. -/
def dottedRange : Nat × Nat := (dottedCapitalI.toNat, dottedCapitalI.toNat)

/-- The table is closed: its lower forms are characters that it does not cover, and none of them is
the dotted capital I or white space. -/
theorem lowerRuns_closed : ∀ run ∈ lowerRuns, run.hasCharacters = true ∧
    (∀ other ∈ lowerRuns, run.avoids other = true) ∧
    ∀ range ∈ dottedRange :: whiteSpaceRanges, run.misses range = true := by
  have hclosed : lowerRuns.all (fun run => run.hasCharacters && (lowerRuns.all run.avoids &&
      (dottedRange :: whiteSpaceRanges).all run.misses)) = true := by
    delta CaseRun.avoids
    simp only [CaseRun.misses_eq]
    decide +kernel
  intro run hrun
  have hpart := List.all_eq_true.1 hclosed run hrun
  rwa [Bool.and_eq_true, Bool.and_eq_true, List.all_eq_true, List.all_eq_true] at hpart

/-! ## Characters in lower case -/

/-- A character is in lower case. -/
structure IsLower (c : Char) : Prop where
  not_covers : ∀ run ∈ lowerRuns, run.covers c.toNat = false
  ne_dotted : c ≠ dottedCapitalI

theorem lowerOne_of_not_covers {c : Char} (h : ∀ run ∈ lowerRuns, run.covers c.toNat = false) :
    lowerOne c = c := by
  have hfind : lowerRuns.find? (·.covers c.toNat) = none := by
    rw [List.find?_eq_none]
    intro run hrun
    rw [h run hrun]
    exact Bool.false_ne_true
  rw [lowerOne, hfind]

/-- The table leaves a character alone, or one of its runs says what the lower form is. -/
theorem lowerOne_cases (c : Char) :
    (∀ run ∈ lowerRuns, run.covers c.toNat = false) ∨
      ∃ run ∈ lowerRuns, run.covers c.toNat = true ∧
        (lowerOne c).toNat = run.lowered c.toNat := by
  cases hfind : lowerRuns.find? (·.covers c.toNat) with
  | none =>
    refine .inl fun run hrun => ?_
    exact Bool.eq_false_iff.2 (List.find?_eq_none.1 hfind run hrun)
  | some run =>
    have hrun : run ∈ lowerRuns := List.mem_of_find?_eq_some hfind
    have hcovers : run.covers c.toNat = true := by simpa using List.find?_some hfind
    refine .inr ⟨run, hrun, hcovers, ?_⟩
    rw [lowerOne, hfind]
    exact CaseRun.toNat_ofNat_lowered (lowerRuns_closed run hrun).1 hcovers

theorem IsLower.lowerOne {c : Char} (h : IsLower c) : lowerOne c = c :=
  lowerOne_of_not_covers h.not_covers

theorem IsLower.ne_capitalSigma {c : Char} (h : IsLower c) : c ≠ capitalSigma := by
  intro hsigma
  subst hsigma
  exact absurd h.lowerOne (by decide)

/-- The table has a character in lower case for everything but the dotted capital I. -/
theorem isLower_lowerOne {c : Char} (hc : c ≠ dottedCapitalI) : IsLower (Text.lowerOne c) := by
  rcases lowerOne_cases c with hnone | ⟨run, hrun, hcovers, hlower⟩
  · rw [lowerOne_of_not_covers hnone]
    exact ⟨hnone, hc⟩
  · obtain ⟨hchars, havoids, hmisses⟩ := lowerRuns_closed run hrun
    constructor
    · intro other hother
      rw [hlower]
      exact CaseRun.not_covers_of_avoids hchars (havoids other hother) hcovers
    · intro hdotted
      refine CaseRun.not_mem_range_of_misses (hmisses dottedRange (by simp)) hcovers ?_
      rw [← hlower, hdotted]
      exact ⟨Nat.le_refl _, Nat.le_refl _⟩

theorem CodeRanges.exists_of_containsCode {ranges : CodeRanges} {code : Nat}
    (h : containsCode code ranges = true) : ∃ range ∈ ranges, range.1 ≤ code ∧ code ≤ range.2 := by
  induction ranges with
  | nil => exact absurd h Bool.false_ne_true
  | cons range ranges ih =>
    obtain ⟨first, last⟩ := range
    unfold containsCode at h
    split at h
    · exact absurd h Bool.false_ne_true
    · next hfirst =>
      rw [Bool.or_eq_true, decide_eq_true_eq] at h
      rcases h with hlast | hrest
      · exact ⟨(first, last), by simp, by omega, hlast⟩
      · obtain ⟨range, hrange, hbounds⟩ := ih hrest
        exact ⟨range, List.mem_cons_of_mem _ hrange, hbounds⟩

/-- Only white space has white space for its lower form. -/
theorem isWhiteSpace_of_lowerOne {c : Char} (h : isWhiteSpace (lowerOne c) = true) :
    isWhiteSpace c = true := by
  rcases lowerOne_cases c with hnone | ⟨run, hrun, hcovers, hlower⟩
  · rwa [lowerOne_of_not_covers hnone] at h
  · obtain ⟨-, -, hmisses⟩ := lowerRuns_closed run hrun
    obtain ⟨range, hrange, hbounds⟩ := CodeRanges.exists_of_containsCode h
    rw [hlower] at hbounds
    exact absurd hbounds (CaseRun.not_mem_range_of_misses
      (hmisses range (List.mem_cons_of_mem _ hrange)) hcovers)

/-! ## Lower-casing a text -/

/-- What one character turns into: characters in lower case, at least one, and white space only if
the character is. -/
theorem lowerFrom_cons (casedBefore : Bool) (c : Char) (rest : List Char) :
    ∃ casedHere block, lowerFrom casedBefore (c :: rest) = block ++ lowerFrom casedHere rest ∧
      block ≠ [] ∧ ∀ d ∈ block, IsLower d ∧ (isWhiteSpace d = true → isWhiteSpace c = true) := by
  refine ⟨if isCaseIgnorable c then casedBefore else isCased c, ?_⟩
  by_cases hsigma : c = capitalSigma
  · refine ⟨[_], by rw [lowerFrom, if_pos hsigma]; rfl, by simp, fun d hd => ?_⟩
    rw [List.mem_singleton.1 hd]
    split
    · exact ⟨⟨by decide +kernel, by decide⟩, fun hwhite => absurd hwhite (by decide)⟩
    · refine ⟨isLower_lowerOne ?_, isWhiteSpace_of_lowerOne⟩
      rw [hsigma]
      decide
  · by_cases hdotted : c = dottedCapitalI
    · refine ⟨['i', '\u0307'], ?_, by simp, ?_⟩
      · rw [lowerFrom, if_neg hsigma, if_pos hdotted]
        rfl
      intro d hd
      simp only [List.mem_cons, List.not_mem_nil, or_false] at hd
      rcases hd with rfl | rfl
      · exact ⟨⟨by decide +kernel, by decide⟩, fun hwhite => absurd hwhite (by decide)⟩
      · exact ⟨⟨by decide +kernel, by decide⟩, fun hwhite => absurd hwhite (by decide)⟩
    · refine ⟨[_], by rw [lowerFrom, if_neg hsigma, if_neg hdotted]; rfl, by simp, ?_⟩
      intro d hd
      rw [List.mem_singleton.1 hd]
      exact ⟨isLower_lowerOne hdotted, isWhiteSpace_of_lowerOne⟩

theorem isLower_of_mem_lowerFrom {casedBefore : Bool} {s : List Char} {c : Char}
    (h : c ∈ lowerFrom casedBefore s) : IsLower c := by
  induction s generalizing casedBefore with
  | nil => exact absurd h List.not_mem_nil
  | cons d rest ih =>
    obtain ⟨casedHere, block, hblock, -, hlower⟩ := lowerFrom_cons casedBefore d rest
    rw [hblock, List.mem_append] at h
    rcases h with hmem | hmem
    · exact (hlower c hmem).1
    · exact ih hmem

theorem isLower_of_mem_lower {s : List Char} {c : Char} (h : c ∈ lower s) : IsLower c :=
  isLower_of_mem_lowerFrom h

/-- A text in lower case stays as it is. -/
theorem lowerFrom_eq_self {s : List Char} (h : ∀ c ∈ s, IsLower c) (casedBefore : Bool) :
    lowerFrom casedBefore s = s := by
  induction s generalizing casedBefore with
  | nil => rfl
  | cons c rest ih =>
    have hc : IsLower c := h c (by simp)
    have hrest : ∀ d ∈ rest, IsLower d := fun d hd => h d (List.mem_cons_of_mem _ hd)
    rw [lowerFrom, if_neg hc.ne_capitalSigma, if_neg hc.ne_dotted, hc.lowerOne, ih hrest]

theorem lower_eq_self {s : List Char} (h : ∀ c ∈ s, IsLower c) : lower s = s :=
  lowerFrom_eq_self h false

/-! ## White space at the ends -/

/-- A text neither begins nor ends with white space. -/
structure IsTrimmed (s : List Char) : Prop where
  head : ∀ c ∈ s.head?, isWhiteSpace c = false
  last : ∀ c ∈ s.getLast?, isWhiteSpace c = false

theorem trim_eq (s : List Char) :
    trim s = (s.dropWhile isWhiteSpace).rdropWhile isWhiteSpace :=
  rfl

theorem isTrimmed_trim (s : List Char) : IsTrimmed (trim s) := by
  rw [trim_eq]
  constructor
  · intro c hc
    obtain ⟨dropped, hdropped⟩ := List.rdropWhile_prefix isWhiteSpace (s.dropWhile isWhiteSpace)
    have hhead := List.head?_dropWhile_not isWhiteSpace s
    rw [← hdropped, List.head?_append, Option.mem_def.1 hc] at hhead
    exact hhead
  · intro c hc
    obtain ⟨hne, rfl⟩ := List.mem_getLast?_eq_getLast hc
    exact Bool.eq_false_iff.2 (List.rdropWhile_last_not isWhiteSpace _ hne)

theorem IsTrimmed.trim_eq {s : List Char} (h : IsTrimmed s) : trim s = s := by
  have hhead : s.dropWhile isWhiteSpace = s := by
    cases s with
    | nil => rfl
    | cons c rest => rw [List.dropWhile_cons_of_neg (by simp [h.head c rfl])]
  rw [Text.trim_eq, hhead, List.rdropWhile_eq_self_iff]
  intro hne
  rw [h.last _ (List.getLast?_eq_some_getLast hne)]
  exact Bool.false_ne_true

theorem lowerFrom_ne_nil {s : List Char} (h : s ≠ []) (casedBefore : Bool) :
    lowerFrom casedBefore s ≠ [] := by
  obtain ⟨c, rest, rfl⟩ := List.exists_cons_of_ne_nil h
  obtain ⟨casedHere, block, hblock, hne, -⟩ := lowerFrom_cons casedBefore c rest
  rw [hblock]
  exact List.append_ne_nil_of_left_ne_nil hne _

theorem head_lowerFrom {casedBefore : Bool} {s : List Char}
    (h : ∀ c ∈ s.head?, isWhiteSpace c = false) :
    ∀ d ∈ (lowerFrom casedBefore s).head?, isWhiteSpace d = false := by
  intro d hd
  cases s with
  | nil => exact absurd hd (by simp [lowerFrom])
  | cons c rest =>
    obtain ⟨casedHere, block, hblock, hne, hlower⟩ := lowerFrom_cons casedBefore c rest
    rw [hblock, List.head?_append_of_ne_nil _ hne] at hd
    rw [Bool.eq_false_iff]
    intro hwhite
    have hc := (hlower d (List.mem_of_mem_head? hd)).2 hwhite
    exact absurd hc (by simp [h c rfl])

theorem last_lowerFrom {casedBefore : Bool} {s : List Char}
    (h : ∀ c ∈ s.getLast?, isWhiteSpace c = false) :
    ∀ d ∈ (lowerFrom casedBefore s).getLast?, isWhiteSpace d = false := by
  intro d hd
  induction s generalizing casedBefore with
  | nil => exact absurd hd (by simp [lowerFrom])
  | cons c rest ih =>
    obtain ⟨casedHere, block, hblock, hne, hlower⟩ := lowerFrom_cons casedBefore c rest
    by_cases hrest : rest = []
    · subst hrest
      rw [hblock, lowerFrom, List.append_nil] at hd
      rw [Bool.eq_false_iff]
      intro hwhite
      have hc := (hlower d (List.mem_of_mem_getLast? hd)).2 hwhite
      exact absurd hc (by simp [h c rfl])
    · rw [hblock, List.getLast?_append_of_ne_nil _ (lowerFrom_ne_nil hrest casedHere)] at hd
      rw [List.getLast?_cons_of_ne_nil hrest] at h
      exact ih h hd

theorem IsTrimmed.lower {s : List Char} (h : IsTrimmed s) : IsTrimmed (lower s) :=
  ⟨head_lowerFrom h.head, last_lowerFrom h.last⟩

/-- A second pass changes nothing. -/
theorem lower_trim_lower_trim (s : List Char) : lower (trim (lower (trim s))) = lower (trim s) := by
  rw [(isTrimmed_trim s).lower.trim_eq]
  exact lower_eq_self fun c hc => isLower_of_mem_lower hc

end InventorySearch.Text
