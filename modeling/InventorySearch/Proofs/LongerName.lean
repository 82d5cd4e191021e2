import InventorySearch.Proofs.VerbatimText
import InventorySearch.Proofs.WiderTolerance

/-!
# Names with more words

A search text that finds a name still finds it when words are added to the name, before it
or behind it, and a blank between.

Two things have to survive.  The lower form of the old name has to stand in that of the new
one, which it does because a blank is neither cased nor case-ignorable: no sigma looks past
it (`lower_append_white_cons`).  And the windows that are compared with the search text have
to be there with their word starts.  `wordDistance_around_le` says so for any text around a
name, as long as the text before it does not end in the middle of a word; the beginning of
the name is then a word start like any other.

`accepts_with_more_words` puts them together, for matches with and without typing errors.
-/

namespace InventorySearch

namespace Text

variable {before text behind word : List Char} {start stop k : Nat} {c : Char}

/-! ## Lower case across a blank -/

theorem not_isWordCharacter_of_isWhiteSpace (h : isWhiteSpace c = true) :
    isWordCharacter c = false :=
  CodeRanges.not_contains_of_apart (by decide +kernel) h

/-- White space inside a text parts it: both sides are lower-cased each by itself. -/
theorem lower_append_white_cons (hc : isWhiteSpace c = true) (s t : List Char) :
    lower (s ++ c :: t) = lower s ++ c :: lower t := by
  have hfront : lowerFrom false (s ++ c :: t) =
      lowerFrom false s ++ lowerFrom (casedAfter false s) (c :: t) := by
    apply lowerFrom_append
    intro p q _
    rw [casedNext_append_of_apart]
    intro d hd
    obtain rfl : c = d := Option.some.inj hd
    exact ⟨not_isCased_of_isWhiteSpace hc, not_isCaseIgnorable_of_isWhiteSpace hc⟩
  show lowerFrom false (s ++ c :: t) = lowerFrom false s ++ c :: lowerFrom false t
  rw [hfront, lowerFrom_white_cons hc]

/-! ## Windows in a longer text -/

/-- A word start of a text is one wherever the text stands, if what stands before it does not end in
the middle of a word. -/
theorem IsWordStart.around (hbefore : ∀ c ∈ before.getLast?, isWordCharacter c = false)
    (h : IsWordStart text start) :
    IsWordStart (before ++ text ++ behind) (before.length + start) := by
  obtain ⟨hlt, hstart⟩ := h
  refine ⟨by simp; omega, ?_⟩
  rw [List.append_assoc]
  by_cases hzero : start = 0
  · subst hzero
    -- The beginning of the text: its neighbour is the last character before it.
    rcases before.eq_nil_or_concat with rfl | ⟨init, c, rfl⟩
    · exact .inl rfl
    · refine .inr ⟨c, by simp, hbefore c (by simp)⟩
  · obtain ⟨c, hc, hword⟩ := hstart.resolve_left hzero
    refine .inr ⟨c, ?_, hword⟩
    rw [List.getElem?_append_right (by omega), List.getElem?_append_left (by omega)]
    rwa [show before.length + start - 1 - before.length = start - 1 by omega]

/-- A window of a text is one wherever the text stands. -/
theorem extract_around (hstop : stop ≤ text.length) :
    (before ++ text ++ behind).extract (before.length + start) (before.length + stop) =
      text.extract start stop := by
  rw [List.extract_eq_take_drop, List.extract_eq_take_drop, Nat.add_sub_add_left,
    List.append_assoc, List.drop_length_add_append]
  rcases Nat.le_total start stop with hle | hle
  · rw [List.drop_append_of_le_length (by omega), List.take_append_of_le_length (by simp; omega)]
  · rw [Nat.sub_eq_zero_of_le hle, List.take_zero, List.take_zero]

end Text

namespace Tolerance

open Text

variable {t : Tolerance} {before haystack behind needle : List Char} {k : Nat}

/-- More text brings a word no farther away. -/
theorem wordDistance_around_le (hbefore : ∀ c ∈ before.getLast?, isWordCharacter c = false)
    (hk : k < needle.length) (h : wordDistance haystack needle ≤ k) :
    wordDistance (before ++ haystack ++ behind) needle ≤ k := by
  rw [wordDistance_le_iff_exists_window hk] at h ⊢
  obtain ⟨start, stop, hle, hstop, hstart, n, hn, hscript⟩ := h
  refine ⟨before.length + start, before.length + stop, by omega, by simp; omega,
    hstart.around hbefore, n, hn, ?_⟩
  rwa [extract_around hstop]

theorem acceptsLower_around (hbefore : ∀ c ∈ before.getLast?, isWordCharacter c = false)
    (h : t.acceptsLower haystack needle = true) :
    t.acceptsLower (before ++ haystack ++ behind) needle = true := by
  rw [acceptsLower_iff] at h ⊢
  rcases h with hplain | ⟨hforgives, hdistance⟩
  · exact .inl (hplain.trans ⟨before, behind, rfl⟩)
  · have hbelow : t.maxEdits < needle.length := ((t.forgives_iff _).1 hforgives).2.2
    exact .inr ⟨hforgives, wordDistance_around_le hbefore hbelow hdistance⟩

/-- A search text that finds one of two names finds the name with the words of both, whatever is
forgiven: what occurred as it stands still does, and what came close at a word start still does. -/
theorem accepts_with_more_words (t : Tolerance) (front back needle : String)
    (h : t.accepts front needle = true ∨ t.accepts back needle = true) :
    t.accepts (front ++ " " ++ back) needle = true := by
  have hblank : isWhiteSpace ' ' = true := by decide
  have hlower : lower (front ++ " " ++ back).toList =
      lower front.toList ++ ' ' :: lower back.toList := by
    rw [String.toList_append, String.toList_append, List.append_assoc]
    exact lower_append_white_cons hblank _ _
  unfold accepts at h ⊢
  rw [hlower]
  rcases h with hfront | hback
  · have hlonger : t.acceptsLower ([] ++ lower front.toList ++ ' ' :: lower back.toList)
        (lower needle.toList) = true := acceptsLower_around (by simp) hfront
    exact hlonger
  · have hlonger : t.acceptsLower (lower front.toList ++ [' '] ++ lower back.toList ++ [])
        (lower needle.toList) = true :=
      acceptsLower_around (by simpa using not_isWordCharacter_of_isWhiteSpace hblank) hback
    simpa using hlonger

/-- A bronze bar is found with its typing error behind one more word, and wine whose name ends in a
capital sigma is found before one more word. -/
theorem bar_and_wine_found_with_more_words :
    let bar := "Bronze Bar"
    let wine := "\u039F\u0399\u039D\u039F\u03A3"
    standard.accepts bar "bronse" = true ∧ standard.accepts ("Old" ++ " " ++ bar) "bronse" = true ∧
      exact.accepts wine wine = true ∧
        exact.accepts (wine ++ " " ++ "\u03A3\u039F\u03A3") wine = true := by
  intro bar wine
  have hbar : standard.accepts bar "bronse" = true := by decide
  have hwine : exact.accepts wine wine = true := by decide
  exact ⟨hbar, accepts_with_more_words standard "Old" bar "bronse" (.inr hbar), hwine,
    accepts_with_more_words exact wine _ wine (.inl hwine)⟩

/-- Without the blank the match is lost: the word would start in the middle of a longer one. -/
example : standard.accepts "bronze" "bronse" = true ∧
    standard.accepts ("ca" ++ "bronze") "bronse" = false := by
  decide

end Tolerance

end InventorySearch
