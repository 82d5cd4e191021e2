import InventorySearch.Proofs.Containment
import InventorySearch.Proofs.SearchTexts

/-!
# Text that stands in a name as it is searched for

A name and a search text are lower-cased each by itself, and a search text that stands in
the name letter by letter is found if its lower form stands in the lower form of the name.
Lower-casing looks at neighbours in one case only: a capital sigma becomes a final one at
the end of a word, and cutting a piece out of a text can make a sigma the last letter of a
word, or take the word in front of it away.

* `lowerFrom_append`: a text is lower-cased piece by piece; what is behind a piece depends
  on the piece only through `casedAfter`.
* `KeepsSigmas` says that every capital sigma of a piece ends a word in the whole text
  exactly if it ends one in the piece.  Then the lower form of the piece stands in that of
  the text (`lower_infix_of_keepsSigmas`).
* `keepsSigmas_of_not_mem`, `keepsSigmas_of_apart`: pieces without a capital sigma, and
  pieces that are not in the middle of a word, keep theirs.

`found_if_verbatim` is the law for names and search texts, and `kosmos_part_not_found` shows
that it fails for a piece that ends in the middle of a word with a capital sigma.
-/

namespace InventorySearch

namespace Text

/-! ## The character before and the character behind -/

/-- Whether the last character of a text that is not case-ignorable is cased.  If there is none, the
flag says it for what comes before the text. -/
def casedAfter (casedBefore : Bool) : List Char → Bool
  | [] => casedBefore
  | c :: rest => casedAfter (if isCaseIgnorable c then casedBefore else isCased c) rest

theorem casedAfter_append (casedBefore : Bool) (s t : List Char) :
    casedAfter casedBefore (s ++ t) = casedAfter (casedAfter casedBefore s) t := by
  induction s generalizing casedBefore with
  | nil => rfl
  | cons c s ih =>
    rw [List.cons_append, casedAfter, casedAfter]
    apply ih

/-- Looking back is looking ahead in the reversed text. -/
theorem casedAfter_false_eq (s : List Char) : casedAfter false s = casedNext s.reverse := by
  induction s using List.reverseRecOn with
  | nil => rfl
  | append_singleton s c ih =>
    have hlast : casedAfter false (s ++ [c]) =
        if isCaseIgnorable c then casedAfter false s else isCased c :=
      casedAfter_append false s [c]
    rw [hlast, ih, List.reverse_concat]
    by_cases hignorable : isCaseIgnorable c = true
    · simp [casedNext, hignorable]
    · simp [casedNext, hignorable]

/-! ## Lower-casing piece by piece -/

/-- What follows a piece is lower-cased as behind its last character. -/
theorem exists_lowerFrom_append (casedBefore : Bool) (s rest : List Char) :
    ∃ block, lowerFrom casedBefore (s ++ rest) =
      block ++ lowerFrom (casedAfter casedBefore s) rest := by
  induction s generalizing casedBefore with
  | nil => exact ⟨[], rfl⟩
  | cons c s ih =>
    obtain ⟨block, hblock⟩ := ih (if isCaseIgnorable c then casedBefore else isCased c)
    rw [List.cons_append, lowerFrom, casedAfter]
    simp only [hblock]
    split
    · exact ⟨_ :: block, rfl⟩
    · split
      · exact ⟨'i' :: '\u0307' :: block, rfl⟩
      · exact ⟨_ :: block, rfl⟩

/-- A piece is lower-cased as it would be elsewhere, if the sigmas in it take the same form. -/
theorem lowerFrom_append {here elsewhere : Bool} {s rest : List Char}
    (h : ∀ p q, s = p ++ capitalSigma :: q →
      (casedAfter here p && !casedNext (q ++ rest)) = (casedAfter elsewhere p && !casedNext q)) :
    lowerFrom here (s ++ rest) =
      lowerFrom elsewhere s ++ lowerFrom (casedAfter here s) rest := by
  induction s generalizing here elsewhere with
  | nil => rfl
  | cons c s ih =>
    have hrest : lowerFrom (if isCaseIgnorable c then here else isCased c) (s ++ rest) =
        lowerFrom (if isCaseIgnorable c then elsewhere else isCased c) s ++
          lowerFrom (casedAfter (if isCaseIgnorable c then here else isCased c) s) rest :=
      ih fun p q hs => h (c :: p) q (congrArg (c :: ·) hs)
    rw [List.cons_append, lowerFrom, lowerFrom, casedAfter]
    simp only [hrest]
    by_cases hsigma : c = capitalSigma
    · have hform : (here && !casedNext (s ++ rest)) = (elsewhere && !casedNext s) :=
        h [] s (congrArg (· :: s) hsigma)
      rw [if_pos hsigma, if_pos hsigma, hform]
      rfl
    · rw [if_neg hsigma, if_neg hsigma]
      split <;> rfl

/-! ## Pieces that keep their sigmas -/

/-- Whether a capital sigma between two texts ends a word: case-ignorable characters passed over, a
cased character comes before it and none behind it. -/
def endsWord (before behind : List Char) : Bool :=
  casedNext before.reverse && !casedNext behind

/-- Every capital sigma of a piece ends a word in the whole text exactly if it ends one in the piece
by itself. -/
def KeepsSigmas (before piece behind : List Char) : Prop :=
  ∀ p q, piece = p ++ capitalSigma :: q → endsWord (before ++ p) (q ++ behind) = endsWord p q

variable {before piece behind : List Char}

/-- A piece that keeps its sigmas stands in lower case where it stood before. -/
theorem lower_infix_of_keepsSigmas (h : KeepsSigmas before piece behind) :
    lower piece <:+: lower (before ++ piece ++ behind) := by
  obtain ⟨block, hblock⟩ := exists_lowerFrom_append false before (piece ++ behind)
  have hpiece : lowerFrom (casedAfter false before) (piece ++ behind) =
      lower piece ++ lowerFrom (casedAfter (casedAfter false before) piece) behind := by
    apply lowerFrom_append
    intro p q hsigma
    rw [← casedAfter_append, casedAfter_false_eq, casedAfter_false_eq]
    exact h p q hsigma
  refine ⟨block, lowerFrom (casedAfter (casedAfter false before) piece) behind, ?_⟩
  show block ++ lower piece ++ _ = lowerFrom false (before ++ piece ++ behind)
  rw [List.append_assoc before, hblock, hpiece, List.append_assoc]

theorem keepsSigmas_of_not_mem (h : capitalSigma ∉ piece) : KeepsSigmas before piece behind := by
  rintro p q rfl
  exact absurd (by simp) h

/-- A piece between characters that are neither cased nor case-ignorable, such as blanks, or between
the ends of the text. -/
theorem keepsSigmas_of_apart
    (hbefore : ∀ c ∈ before.getLast?, isCased c = false ∧ isCaseIgnorable c = false)
    (hbehind : ∀ c ∈ behind.head?, isCased c = false ∧ isCaseIgnorable c = false) :
    KeepsSigmas before piece behind := by
  intro p q _
  have hback : casedNext (before ++ p).reverse = casedNext p.reverse := by
    rw [List.reverse_append]
    apply casedNext_append_of_apart
    rwa [List.head?_reverse]
  rw [endsWord, endsWord, hback, casedNext_append_of_apart hbehind]

end Text

open Text

theorem Tolerance.accepts_of_infix {t : Tolerance} {haystack needle : String}
    (h : lower needle.toList <:+: lower haystack.toList) : t.accepts haystack needle = true := by
  rw [accepts, acceptsLower, Bool.or_eq_true]
  exact .inl ((occursIn_iff _ _).2 h)

/-- Text that is in a name is found under every tolerance if it keeps its sigmas, and so is the item
of that name by a search for the text, white space around it left out.  Text without a capital sigma
keeps its sigmas wherever it stands, and any text keeps them that does not begin or end in the
middle of a word of the name. -/
theorem found_if_verbatim (tolerance : Tolerance) :
    (∀ before piece behind : String,
      KeepsSigmas before.toList piece.toList behind.toList →
        tolerance.accepts (before ++ piece ++ behind) piece = true) ∧
    (∀ (item : Item) (input before piece behind text : String),
      piece.toList = trim input.toList → item.name = some (before ++ piece ++ behind) →
      KeepsSigmas before.toList piece.toList behind.toList →
      Query.read input = .name text → text ≠ "" →
        item.satisfiesText tolerance input = true) ∧
    ∀ before piece behind : List Char,
      capitalSigma ∉ piece ∨
        ((∀ c ∈ before.getLast?, isCased c = false ∧ isCaseIgnorable c = false) ∧
          ∀ c ∈ behind.head?, isCased c = false ∧ isCaseIgnorable c = false) →
      KeepsSigmas before piece behind := by
  have hstands : ∀ before piece behind : String,
      KeepsSigmas before.toList piece.toList behind.toList →
        lower piece.toList <:+: lower (before ++ piece ++ behind).toList := by
    intro before piece behind hkeeps
    rw [String.toList_append, String.toList_append]
    exact lower_infix_of_keepsSigmas hkeeps
  refine ⟨?_, ?_, ?_⟩
  · intro before piece behind hkeeps
    exact Tolerance.accepts_of_infix (hstands before piece behind hkeeps)
  · intro item input before piece behind text htrim hname hkeeps hread hne
    have htext : text.toList = lower piece.toList := by
      rcases Query.readLower_cases (lower (trim input.toList)) with ⟨d, -, hquery⟩ | hquery
      · rw [Query.read, hquery] at hread
        exact absurd hread (by simp [Query.Derivation.query])
      · rw [Query.read, hquery] at hread
        rw [← Query.name.inj hread, String.toList_ofList, htrim]
    have haccepts : tolerance.accepts (before ++ piece ++ behind) text = true := by
      apply Tolerance.accepts_of_infix
      rw [htext, lower_lower]
      exact hstands before piece behind hkeeps
    rw [Item.satisfiesText_eq, hread, Item.satisfies, hname, Option.any_some, haccepts]
    simpa using hne
  · intro before piece behind h
    rcases h with hnone | ⟨hbefore, hbehind⟩
    · exact keepsSigmas_of_not_mem hnone
    · exact keepsSigmas_of_apart hbefore hbehind

/-- Dark wine is found by its first word in capitals, whose last letter is a sigma before a
blank. -/
theorem dark_wine_found_by_a_word :
    let dark := "\u039C\u0395\u039B\u0391\u03A3"
    let wine : Item := { name := some (dark ++ " \u039F\u0399\u039D\u039F\u03A3") }
    Tolerance.exact.accepts (dark ++ " \u039F\u0399\u039D\u039F\u03A3") dark = true ∧
      wine.satisfiesText .exact (dark ++ "\u3000") = true := by
  intro dark wine
  obtain ⟨hfound, hitem, hkeeps⟩ := found_if_verbatim .exact
  have hapart : KeepsSigmas "".toList dark.toList " \u039F\u0399\u039D\u039F\u03A3".toList := by
    refine hkeeps _ _ _ (.inr ⟨by simp, ?_⟩)
    intro c hc
    obtain rfl : ' ' = c := by simpa using hc
    decide
  constructor
  · exact hfound "" dark _ hapart
  · refine hitem wine _ "" dark _ "\u03BC\u03B5\u03BB\u03B1\u03C2" ?_ rfl hapart ?_ (by decide)
    · decide
    · decide

/-- The capitals of the word for the world are not found in it if they are cut behind the first
sigma: there the sigma is the last letter, and in the name it is not. -/
theorem kosmos_part_not_found :
    let part := "\u039A\u039F\u03A3"
    let kosmos : Item := { name := some ("" ++ part ++ "\u039C\u039F\u03A3") }
    Tolerance.standard.accepts ("" ++ part ++ "\u039C\u039F\u03A3") part = false ∧
      trim part.toList = part.toList ∧ Query.read part = .name "\u03BA\u03BF\u03C2" ∧
      kosmos.satisfiesText .standard part = false := by
  decide

end InventorySearch
