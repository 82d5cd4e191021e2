import InventorySearch.Proofs.DistanceColumn
import InventorySearch.Tolerance

/-!
# What the tolerance forgives

The meaning of `Tolerance.accepts`, with edit scripts in place of columns of
distances and positions in place of lists of remaining texts.

* `occursIn_iff`: the plain search finds exactly the blocks of consecutive
  characters.
* `mem_wordStarts_iff`: the remaining texts that are tried are those behind a
  position where a word starts.
* `wordDistance_le_iff`: a bound on the word distance is a window of the text that
  begins at such a position and can be edited into the word.

`Tolerance.accepts_iff` puts them together with the three guards.
-/

namespace InventorySearch

namespace Text

theorem occursIn_iff (needle text : List Char) :
    occursIn needle text = true ↔ needle <:+: text := by
  induction text with
  | nil => simp [occursIn]
  | cons c text ih =>
    rw [occursIn, Bool.or_eq_true, List.isPrefixOf_iff_prefix, ih, List.infix_cons_iff]

/-- A word of a text starts at a position: at its beginning, or right behind a character that is
neither a letter nor a digit. -/
def IsWordStart (text : List Char) (start : Nat) : Prop :=
  start < text.length ∧
    (start = 0 ∨ ∃ c, text[start - 1]? = some c ∧ isWordCharacter c = false)

/-- The same behind a text of which only the last character is known: the flag says whether that is
a word character. -/
def IsWordStartAfter (inWord : Bool) (text : List Char) : Nat → Prop
  | 0 => inWord = false
  | start + 1 => ∃ c, text[start]? = some c ∧ isWordCharacter c = false

theorem isWordStartAfter_cons_succ (inWord : Bool) (c : Char) (text : List Char) (start : Nat) :
    IsWordStartAfter inWord (c :: text) (start + 1) ↔
      IsWordStartAfter (isWordCharacter c) text start := by
  cases start <;> simp [IsWordStartAfter]

/-- The remaining texts that `wordStartsAfter` lists, by the positions where they begin. -/
theorem mem_wordStartsAfter_iff (inWord : Bool) (text rest : List Char) :
    rest ∈ wordStartsAfter inWord text ↔
      ∃ start < text.length, IsWordStartAfter inWord text start ∧ rest = text.drop start := by
  induction text generalizing inWord with
  | nil => simp [wordStartsAfter]
  | cons c text ih =>
    rw [List.length_cons, Nat.exists_lt_succ_left]
    simp only [isWordStartAfter_cons_succ, List.drop_succ_cons, ← ih]
    cases inWord <;> simp [wordStartsAfter, IsWordStartAfter]

theorem mem_wordStarts_iff (text rest : List Char) :
    rest ∈ wordStarts text ↔ ∃ start, IsWordStart text start ∧ rest = text.drop start := by
  have hstart : ∀ start, IsWordStart text start ↔
      start < text.length ∧ IsWordStartAfter false text start := by
    intro start
    cases start <;> simp [IsWordStart, IsWordStartAfter]
  simp only [wordStarts, mem_wordStartsAfter_iff, hstart, and_assoc]

/-- Only the empty text has no word start: all others have one at their beginning. -/
theorem wordStarts_eq_nil_iff {text : List Char} : wordStarts text = [] ↔ text = [] := by
  cases text <;> simp [wordStarts, wordStartsAfter]

end Text

namespace Tolerance

/-- The word distance is reached where a word of the text starts, or it is the length of the word
because the text is empty. -/
theorem wordDistance_le_iff_or {text word : List Char} {k : Nat} :
    wordDistance text word ≤ k ↔
      text = [] ∧ word.length ≤ k ∨
        ∃ rest ∈ Text.wordStarts text, Text.openingDistance rest word ≤ k := by
  unfold wordDistance
  cases hmin : ((Text.wordStarts text).map (Text.openingDistance · word)).min? with
  | none =>
    rw [List.min?_eq_none_iff, List.map_eq_nil_iff] at hmin
    obtain rfl := Text.wordStarts_eq_nil_iff.1 hmin
    simp [hmin]
  | some least =>
    rw [List.min?_eq_some_iff] at hmin
    obtain ⟨hmem, hleast⟩ := hmin
    obtain ⟨rest, hrest, rfl⟩ := List.mem_map.1 hmem
    rw [Option.getD_some]
    constructor
    · intro h
      exact .inr ⟨rest, hrest, h⟩
    · intro hreached
      rcases hreached with ⟨rfl, -⟩ | ⟨other, hother, h⟩
      · exact absurd hrest List.not_mem_nil
      · exact Nat.le_trans (hleast _ (List.mem_map_of_mem hother)) h

/-- Below the length of the word, the word distance is reached where a word of the text starts. -/
theorem wordDistance_le_iff {text word : List Char} {k : Nat} (hk : k < word.length) :
    wordDistance text word ≤ k ↔
      ∃ rest ∈ Text.wordStarts text, Text.openingDistance rest word ≤ k := by
  have hfar : ¬(text = [] ∧ word.length ≤ k) := by omega
  rw [wordDistance_le_iff_or, or_iff_right hfar]

/-- A bound on the word distance is a window that begins where a word starts and can be edited into
the word. -/
theorem wordDistance_le_iff_exists_window {text word : List Char} {k : Nat}
    (hk : k < word.length) :
    wordDistance text word ≤ k ↔
      ∃ start stop, start ≤ stop ∧ stop ≤ text.length ∧ Text.IsWordStart text start ∧
        ∃ n ≤ k, Text.EditScript n (text.extract start stop) word := by
  rw [wordDistance_le_iff hk]
  simp only [Text.openingDistance_le_iff, Text.mem_wordStarts_iff, Text.editDistance_le_iff]
  constructor
  · intro hopening
    obtain ⟨rest, ⟨start, hstart, rfl⟩, q, hq, n, hn, hscript⟩ := hopening
    have hlength := hq.length_le
    rw [List.length_drop] at hlength
    have hlt := hstart.1
    refine ⟨start, start + q.length, by omega, by omega, hstart, n, hn, ?_⟩
    rwa [List.extract_eq_take_drop, Nat.add_sub_cancel_left, ← List.prefix_iff_eq_take.1 hq]
  · intro hwindow
    obtain ⟨start, stop, hle, hstop, hstart, n, hn, hscript⟩ := hwindow
    refine ⟨_, ⟨start, hstart, rfl⟩, _, List.take_prefix (stop - start) _, n, hn, ?_⟩
    rwa [← List.extract_eq_take_drop]

theorem forgives_iff (t : Tolerance) (length : Nat) :
    t.forgives length = true ↔
      0 < t.maxEdits ∧ t.minTypoLength ≤ length ∧ t.maxEdits < length := by
  simp [forgives, Nat.pos_iff_ne_zero, and_assoc]

/-- A name contains a search text exactly when the lower-case search text occurs in the lower-case
name or, given that the search text is long enough, when a window of the name that begins where a
word starts can be turned into it by no more edits than are forgiven. -/
theorem accepts_iff (t : Tolerance) (haystack needle : String) :
    let h := Text.lower haystack.toList
    let n := Text.lower needle.toList
    t.accepts haystack needle = true ↔
      n <:+: h ∨
        (0 < t.maxEdits ∧ t.minTypoLength ≤ n.length ∧ t.maxEdits < n.length ∧
          ∃ start stop, start ≤ stop ∧ stop ≤ h.length ∧ start < h.length ∧
            (start = 0 ∨ ∃ c, h[start - 1]? = some c ∧ Text.isWordCharacter c = false) ∧
            ∃ k ≤ t.maxEdits, Text.EditScript k (h.extract start stop) n) := by
  intro h n
  rw [accepts, acceptsLower, Bool.or_eq_true, Bool.and_eq_true, Text.occursIn_iff, forgives_iff,
    decide_eq_true_eq]
  refine or_congr_right ?_
  constructor
  · intro hforgiven
    obtain ⟨⟨hedits, hlength, hbelow⟩, hwindow⟩ := hforgiven
    obtain ⟨start, stop, hle, hstop, ⟨hlt, hstart⟩, hscript⟩ :=
      (wordDistance_le_iff_exists_window hbelow).1 hwindow
    exact ⟨hedits, hlength, hbelow, start, stop, hle, hstop, hlt, hstart, hscript⟩
  · intro hwindow
    obtain ⟨hedits, hlength, hbelow, start, stop, hle, hstop, hlt, hstart, hscript⟩ := hwindow
    exact ⟨⟨hedits, hlength, hbelow⟩, (wordDistance_le_iff_exists_window hbelow).2
      ⟨start, stop, hle, hstop, ⟨hlt, hstart⟩, hscript⟩⟩

end Tolerance

end InventorySearch
