import InventorySearch.Item.Search
import InventorySearch.Proofs.LetterCase

/-!
# Letter case and white space in a search

An item is found or not whatever the letter case of the search text, of its name and of
the stats of its food, and whatever white space stands around the search text.

Lower-casing looks at neighbours, so it has to be shown that white space at the ends of
a text changes nothing for what is between.  White space is neither cased nor passed
over when the neighbours of a sigma are looked at, so a sigma is final before white
space exactly if it is final at the end of the text.

* `lower_white_append`, `lower_append_white`: white space around a text stays there.
* `trim_lower`: it does not matter whether a text is trimmed or lower-cased first.
* `Query.read_lowercase`, `Query.read_eq_of_trim_eq`: what this means for reading a query.
* `Item.folded` is an item with all its texts that are searched in lower case, and
  `satisfies_folded` says that it satisfies the same queries.

`satisfiesText_folds` puts them together.
-/

namespace InventorySearch

/-! ## White space among other characters -/

namespace Text

/-- No range of one class meets a range of the other. -/
def CodeRanges.areApart (ranges others : CodeRanges) : Bool :=
  ranges.all fun range => others.all fun other =>
    Nat.ble (range.2 + 1) other.1 || Nat.ble (other.2 + 1) range.1

/-- No code point belongs to two classes whose ranges are apart. -/
theorem CodeRanges.not_contains_of_apart {ranges others : CodeRanges} {c : Char}
    (hapart : areApart ranges others = true) (h : ranges.contains c = true) :
    others.contains c = false := by
  rw [Bool.eq_false_iff]
  intro hother
  obtain ⟨range, hrange, hbounds⟩ := exists_of_containsCode h
  obtain ⟨other, hmem, hbounds'⟩ := exists_of_containsCode hother
  have hdisjoint := List.all_eq_true.1 (List.all_eq_true.1 hapart range hrange) other hmem
  rw [Bool.or_eq_true, Nat.ble_eq, Nat.ble_eq] at hdisjoint
  omega

variable {c : Char}

theorem not_isCased_of_isWhiteSpace (h : isWhiteSpace c = true) : isCased c = false :=
  CodeRanges.not_contains_of_apart (by decide +kernel) h

theorem not_isCaseIgnorable_of_isWhiteSpace (h : isWhiteSpace c = true) :
    isCaseIgnorable c = false :=
  CodeRanges.not_contains_of_apart (by decide +kernel) h

/-- White space has no other lower form. -/
theorem isLower_of_isWhiteSpace (h : isWhiteSpace c = true) : IsLower c := by
  have hapart : ∀ run ∈ lowerRuns, ∀ range ∈ whiteSpaceRanges,
      run.last < range.1 ∨ range.2 < run.first := by
    decide +kernel
  constructor
  · intro run hrun
    obtain ⟨range, hrange, hbounds⟩ := CodeRanges.exists_of_containsCode h
    have hdisjoint := hapart run hrun range hrange
    rw [Bool.eq_false_iff]
    intro hcovers
    obtain ⟨hbounds', -⟩ := CaseRun.covers_iff.1 hcovers
    omega
  · rintro rfl
    exact absurd h (by decide)

/-! ## White space at the ends of a text -/

variable {white : List Char}

/-- What follows a character that is neither cased nor case-ignorable is not looked at. -/
theorem casedNext_append_of_apart {s t : List Char}
    (h : ∀ c ∈ t.head?, isCased c = false ∧ isCaseIgnorable c = false) :
    casedNext (s ++ t) = casedNext s := by
  unfold casedNext
  rw [List.dropWhile_append]
  cases hs : s.dropWhile isCaseIgnorable with
  | cons c rest => rfl
  | nil =>
    cases t with
    | nil => rfl
    | cons c rest =>
      obtain ⟨hcased, hignorable⟩ := h c rfl
      simp [hcased, hignorable]

/-- White space behind a text does not tell whether a cased character comes next in it. -/
theorem casedNext_append_white (hwhite : ∀ c ∈ white, isWhiteSpace c = true) (s : List Char) :
    casedNext (s ++ white) = casedNext s := by
  apply casedNext_append_of_apart
  intro c hc
  have hc : isWhiteSpace c = true := hwhite c (List.mem_of_mem_head? hc)
  exact ⟨not_isCased_of_isWhiteSpace hc, not_isCaseIgnorable_of_isWhiteSpace hc⟩

theorem lowerFrom_append_white (hwhite : ∀ c ∈ white, isWhiteSpace c = true)
    (casedBefore : Bool) (s : List Char) :
    lowerFrom casedBefore (s ++ white) = lowerFrom casedBefore s ++ white := by
  induction s generalizing casedBefore with
  | nil => exact lowerFrom_eq_self (fun c hc => isLower_of_isWhiteSpace (hwhite c hc)) casedBefore
  | cons c rest ih =>
    rw [List.cons_append, lowerFrom, lowerFrom, casedNext_append_white hwhite, ih]
    split
    · rfl
    · split <;> rfl

theorem lower_append_white (hwhite : ∀ c ∈ white, isWhiteSpace c = true) (s : List Char) :
    lower (s ++ white) = lower s ++ white :=
  lowerFrom_append_white hwhite false s

/-- White space stays, and what is behind it is lower-cased as at the beginning of a text. -/
theorem lowerFrom_white_cons (hc : isWhiteSpace c = true) (casedBefore : Bool) (s : List Char) :
    lowerFrom casedBefore (c :: s) = c :: lowerFrom false s := by
  have hlower : IsLower c := isLower_of_isWhiteSpace hc
  rw [lowerFrom, if_neg hlower.ne_capitalSigma, if_neg hlower.ne_dotted, hlower.lowerOne,
    not_isCaseIgnorable_of_isWhiteSpace hc, not_isCased_of_isWhiteSpace hc]
  rfl

theorem lower_white_append (hwhite : ∀ c ∈ white, isWhiteSpace c = true) (s : List Char) :
    lower (white ++ s) = white ++ lower s := by
  induction white with
  | nil => rfl
  | cons c rest ih =>
    have hc : isWhiteSpace c = true := hwhite c List.mem_cons_self
    have hrest : lower (rest ++ s) = rest ++ lower s :=
      ih fun d hd => hwhite d (List.mem_cons_of_mem c hd)
    rw [List.cons_append, lower, lowerFrom_white_cons hc]
    exact congrArg (c :: ·) hrest

/-! ## Trimming -/

/-- Trimming takes white space away from both ends, and nothing else. -/
theorem exists_white_around_trim (s : List Char) :
    ∃ before behind, s = before ++ trim s ++ behind ∧
      (∀ c ∈ before, isWhiteSpace c = true) ∧ ∀ c ∈ behind, isWhiteSpace c = true := by
  have hall : ∀ t : List Char, ∀ c ∈ t.takeWhile isWhiteSpace, isWhiteSpace c = true :=
    fun t c hc => List.mem_takeWhile_imp hc
  refine ⟨s.takeWhile isWhiteSpace,
    ((s.dropWhile isWhiteSpace).reverse.takeWhile isWhiteSpace).reverse, ?_, hall s, ?_⟩
  · rw [trim, List.append_assoc, ← List.reverse_append, List.takeWhile_append_dropWhile,
      List.reverse_reverse, List.takeWhile_append_dropWhile]
  · intro c hc
    exact hall _ c (List.mem_reverse.1 hc)

variable {before behind : List Char}

theorem trim_white_append (hbefore : ∀ c ∈ before, isWhiteSpace c = true) (s : List Char) :
    trim (before ++ s) = trim s := by
  rw [trim, List.dropWhile_append_of_pos hbefore, trim]

theorem trim_append_white (hbehind : ∀ c ∈ behind, isWhiteSpace c = true) (s : List Char) :
    trim (s ++ behind) = trim s := by
  unfold trim
  rw [List.dropWhile_append]
  split
  · next hempty =>
    rw [List.isEmpty_iff.1 hempty, List.dropWhile_eq_nil_iff.2 hbehind]
  · rw [List.reverse_append, List.dropWhile_append_of_pos]
    intro c hc
    exact hbehind c (List.mem_reverse.1 hc)

theorem trim_white_around (hbefore : ∀ c ∈ before, isWhiteSpace c = true)
    (hbehind : ∀ c ∈ behind, isWhiteSpace c = true) (s : List Char) :
    trim (before ++ s ++ behind) = trim s := by
  rw [trim_append_white hbehind, trim_white_append hbefore]

/-- Trimming and lower-casing can change places. -/
theorem trim_lower (s : List Char) : trim (lower s) = lower (trim s) := by
  obtain ⟨before, behind, hs, hbefore, hbehind⟩ := exists_white_around_trim s
  have hlower : lower s = before ++ lower (trim s) ++ behind := by
    conv_lhs => rw [hs]
    rw [lower_append_white hbehind, lower_white_append hbefore]
  rw [hlower, trim_white_around hbefore hbehind, (isTrimmed_trim s).lower.trim_eq]

/-- Lower-casing a second time changes nothing. -/
theorem lower_lower (s : List Char) : lower (lower s) = lower s :=
  lower_eq_self fun _ hc => isLower_of_mem_lower hc

theorem toList_lowercase (s : String) : (lowercase s).toList = lower s.toList :=
  String.toList_ofList

theorem lowercase_lowercase (s : String) : lowercase (lowercase s) = lowercase s := by
  rw [lowercase, toList_lowercase, lower_lower, lowercase]

theorem lower_eq_nil_iff {s : List Char} : lower s = [] ↔ s = [] := by
  constructor
  · intro h
    by_contra hne
    exact lowerFrom_ne_nil hne false h
  · rintro rfl
    rfl

theorem isBlank_lowercase (s : String) : isBlank (lowercase s) = isBlank s := by
  rw [isBlank, isBlank, toList_lowercase, trim_lower, Bool.eq_iff_iff, List.isEmpty_iff,
    List.isEmpty_iff, lower_eq_nil_iff]

end Text

/-! ## Reading and accepting -/

open Text

theorem Query.read_lowercase (input : String) : read (lowercase input) = read input := by
  rw [read, read, toList_lowercase, trim_lower, lower_lower]

/-- A query depends on its search text only through what trimming leaves of it. -/
theorem Query.read_eq_of_trim_eq {input other : String}
    (h : trim input.toList = trim other.toList) : read input = read other := by
  rw [read, read, h]

theorem Text.trim_toList_white_around {before behind : String}
    (hbefore : ∀ c ∈ before.toList, isWhiteSpace c = true)
    (hbehind : ∀ c ∈ behind.toList, isWhiteSpace c = true) (input : String) :
    trim (before ++ input ++ behind).toList = trim input.toList := by
  rw [String.toList_append, String.toList_append, trim_white_around hbefore hbehind]

/-- A name is accepted whatever its letter case is. -/
theorem Tolerance.accepts_lowercase (tolerance : Tolerance) (haystack needle : String) :
    tolerance.accepts (lowercase haystack) needle = tolerance.accepts haystack needle := by
  rw [accepts, accepts, toList_lowercase, lower_lower]

/-! ## Items in lower case -/

/-- A food event with its stat in lower case. -/
def FoodEvent.folded (event : FoodEvent) : FoodEvent :=
  { event with stat := event.stat.map lowercase }

/-- A food with all its stats in lower case. -/
def Food.folded (food : Food) : Food := ⟨food.events.map FoodEvent.folded⟩

/-- An item with its name and all stats of its food in lower case. -/
def Item.folded (item : Item) : Item :=
  { item with name := item.name.map lowercase, food := item.food.map Food.folded }

theorem Food.total_folded (food : Food) : food.folded.total = food.total := by
  rw [total, total, folded, List.map_map]
  rfl

theorem Food.knownStats_folded (food : Food) : food.folded.knownStats = food.knownStats := by
  rw [knownStats, knownStats, folded, List.filterMap_map, List.map_filterMap, List.map_filterMap]
  refine List.filterMap_congr fun event _ => ?_
  cases hstat : event.stat with
  | none => simp [FoodEvent.folded, hstat]
  | some stat => simp [FoodEvent.folded, hstat, lowercase_lowercase]

theorem Food.mem_knownStats_iff {food : Food} {known : String} :
    known ∈ food.knownStats ↔
      ∃ event ∈ food.events, ∃ stat, event.stat = some stat ∧ lowercase stat = known := by
  rw [knownStats, List.mem_map]
  constructor
  · rintro ⟨stat, hmem, hlower⟩
    obtain ⟨event, hevent, hstat⟩ := List.mem_filterMap.1 hmem
    exact ⟨event, hevent, stat, hstat, hlower⟩
  · rintro ⟨event, hevent, stat, hstat, hlower⟩
    exact ⟨stat, List.mem_filterMap.2 ⟨event, hevent, hstat⟩, hlower⟩

theorem Filter.admitsFood_folded (filter : Filter) (tolerance : Tolerance) (food : Food) :
    filter.admitsFood tolerance food.folded = filter.admitsFood tolerance food := by
  cases filter with
  | any => rfl
  | named name => rw [admitsFood, admitsFood, Food.knownStats_folded]
  | numeric comparison target => rw [admitsFood, admitsFood, Food.total_folded]

namespace Item

variable {tolerance : Tolerance}

theorem satisfies_folded (item : Item) (query : Query) :
    item.folded.satisfies tolerance query = item.satisfies tolerance query := by
  cases query with
  | name text =>
    simp only [satisfies, folded, Option.any_map, Tolerance.accepts_lowercase]
  | property subject filter =>
    cases subject with
    | learningPoints => rfl
    | learningPointsPerHour => rfl
    | foodEnergy =>
      simp only [satisfies, hasProperty, folded, Option.any_map, Filter.admitsFood_folded]

/-- An item is found by a stat exactly if its food has an event towards a known stat that is
accepted as it is written, although known stats are lower-cased before they are compared. -/
theorem satisfies_named_iff {item : Item} {name : String} :
    item.satisfies tolerance (.property .foodEnergy (.named name)) = true ↔
      ∃ food, item.food = some food ∧ ∃ event ∈ food.events, ∃ stat, event.stat = some stat ∧
        tolerance.accepts stat name = true := by
  have hfood : ∀ food : Food, (Filter.named name).admitsFood tolerance food = true ↔
      ∃ event ∈ food.events, ∃ stat, event.stat = some stat ∧
        tolerance.accepts stat name = true := by
    intro food
    rw [Filter.admitsFood, List.any_eq_true]
    constructor
    · rintro ⟨known, hknown, haccepts⟩
      obtain ⟨event, hevent, stat, hstat, rfl⟩ := Food.mem_knownStats_iff.1 hknown
      rw [Tolerance.accepts_lowercase] at haccepts
      exact ⟨event, hevent, stat, hstat, haccepts⟩
    · rintro ⟨event, hevent, stat, hstat, haccepts⟩
      refine ⟨_, Food.mem_knownStats_iff.2 ⟨event, hevent, stat, hstat, rfl⟩, ?_⟩
      rwa [Tolerance.accepts_lowercase]
  rw [satisfies, hasProperty, Option.any_eq_true]
  simp only [hfood]

/-- Whether an item is found depends neither on the letter case of the search text nor on white
space around it nor on the letter case of the name and of the stats of the item. -/
theorem satisfiesText_folds (item : Item) (tolerance : Tolerance) (input : String) :
    item.satisfiesText tolerance (lowercase input) = item.satisfiesText tolerance input ∧
    (∀ before behind : String, (∀ c ∈ before.toList, isWhiteSpace c = true) →
      (∀ c ∈ behind.toList, isWhiteSpace c = true) →
        item.satisfiesText tolerance (before ++ input ++ behind) =
          item.satisfiesText tolerance input) ∧
    item.folded.satisfiesText tolerance input = item.satisfiesText tolerance input ∧
    ∀ name, item.satisfies tolerance (.property .foodEnergy (.named name)) = true ↔
      ∃ food, item.food = some food ∧ ∃ event ∈ food.events, ∃ stat, event.stat = some stat ∧
        tolerance.accepts stat name = true := by
  refine ⟨?_, ?_, ?_, fun name => satisfies_named_iff⟩
  · rw [satisfiesText, satisfiesText, isBlank_lowercase, Query.read_lowercase]
  · intro before behind hbefore hbehind
    have htrim := Text.trim_toList_white_around hbefore hbehind input
    rw [satisfiesText, satisfiesText, isBlank, isBlank, htrim, Query.read_eq_of_trim_eq htrim]
  · rw [satisfiesText, satisfiesText, satisfies_folded]

/-- Wine whose name ends in a sigma is found by a search in capitals between wide blanks, where no
letter follows the sigma but the text goes on. -/
theorem wine_found_between_blanks :
    let wine : Item := { name := some "\u03BF\u03B9\u03BD\u03BF\u03C2" }
    let input := "\u039F\u0399\u039D\u039F\u03A3"
    let blanks := "\u3000\u0085"
    (∀ c ∈ blanks.toList, isWhiteSpace c = true) ∧ wine.satisfiesText .exact input = true ∧
      wine.satisfiesText .exact (blanks ++ input ++ blanks) = true := by
  intro wine input blanks
  have hblanks : ∀ c ∈ blanks.toList, isWhiteSpace c = true := List.all_eq_true.1 (by decide)
  have hfound : wine.satisfiesText .exact input = true := by decide
  have haround := (satisfiesText_folds wine .exact input).2.1 blanks blanks hblanks hblanks
  exact ⟨hblanks, hfound, haround.trans hfound⟩

end Item

end InventorySearch
