import InventorySearch.Proofs.Containment
import Mathlib.Order.Bounds.Defs

/-!
# Least distances

`openingDistance` and `wordDistance` are least numbers of edits: the first over all scripts
that turn an opening of a text into a word, the second over those that start where a word of
the text starts.  This module says so with `IsLeast`, without a bound on the distance, and
follows the column on the way there.

* `columnAfter` is the column once an opening of the text has been read, and
  `getElem?_columnAfter` is the meaning of each of its cells.
* `openingDistance_append`: wherever the reading is interrupted, the column and the best
  distance are all that is needed to take it up again.
* `isLeast_openingDistance`, `isLeast_wordDistance`: the results.

`distances_are_least` puts them together, with the reading that never stops early beside the
one that does.
-/

namespace InventorySearch

/-- A number is the least with a property if it is within exactly those bounds that a number with
the property is within. -/
theorem isLeast_of_le_iff {P : Nat → Prop} {least : Nat}
    (h : ∀ k, least ≤ k ↔ ∃ n ≤ k, P n) : IsLeast {n | P n} least := by
  have hbelow : ∀ n, P n → least ≤ n := by
    intro n hn
    exact (h n).2 ⟨n, Nat.le_refl n, hn⟩
  obtain ⟨n, hn, hmem⟩ := (h least).1 (Nat.le_refl least)
  obtain rfl : n = least := by
    have := hbelow n hmem
    omega
  exact ⟨hmem, hbelow⟩

namespace Text

/-! ## The cells of the column -/

theorem isLeast_editDistance (a b : List Char) :
    IsLeast {n | EditScript n a b} (editDistance a b) := by
  apply isLeast_of_le_iff
  intro k
  exact editDistance_le_iff

/-- The column once an opening of a text has been read. -/
def columnAfter (word opening : List Char) : List Nat :=
  opening.foldl (fun column c => nextColumn c word column) (List.range (word.length + 1))

theorem columnAfter_eq (word opening : List Char) :
    columnAfter word opening = distanceColumn word opening := by
  induction opening using List.reverseRecOn with
  | nil => exact range_eq_distanceColumn word
  | append_singleton opening c ih =>
    rw [← nextColumn_distanceColumn, ← ih, columnAfter, List.foldl_append]
    rfl

theorem length_columnAfter (word opening : List Char) :
    (columnAfter word opening).length = word.length + 1 := by
  rw [columnAfter_eq, distanceColumn, List.length_map, List.length_inits]

/-- A cell holds the distance to the opening of the word that is as long as the cell is deep. -/
theorem getElem?_columnAfter (opening : List Char) {word : List Char} {i : Nat}
    (hi : i ≤ word.length) :
    (columnAfter word opening)[i]? = some (editDistance opening (word.take i)) := by
  have hlt : i < word.inits.length := by
    rw [List.length_inits]
    omega
  rw [columnAfter_eq, distanceColumn, List.getElem?_map, List.getElem?_eq_getElem hlt,
    List.getElem_inits, Option.map_some]

/-! ## Reading on -/

/-- What has been read counts only through the column and the best distance. -/
theorem bestDistanceThroughout_append (word p q : List Char) (column : List Nat) (best : Nat) :
    bestDistanceThroughout word (p ++ q) column best =
      bestDistanceThroughout word q (p.foldl (fun column c => nextColumn c word column) column)
        (bestDistanceThroughout word p column best) := by
  induction p generalizing column best with
  | nil => rfl
  | cons c p ih => exact ih _ _

/-- A reading that is interrupted can be taken up again, whether or not it had stopped before. -/
theorem openingDistance_append (word p q : List Char) :
    openingDistance (p ++ q) word =
      bestDistance word q (columnAfter word p) (openingDistance p word) := by
  rw [openingDistance, bestDistance_eq_throughout, bestDistanceThroughout_append,
    ← bestDistance_eq_throughout, ← bestDistance_eq_throughout]
  rfl

/-! ## Openings -/

theorem openingDistance_le_iff_exists_script {text word : List Char} {k : Nat} :
    openingDistance text word ≤ k ↔ ∃ n ≤ k, ∃ p, p <+: text ∧ EditScript n p word := by
  rw [openingDistance_le_iff]
  simp only [editDistance_le_iff]
  constructor
  · intro hopening
    obtain ⟨p, hp, n, hn, hscript⟩ := hopening
    exact ⟨n, hn, p, hp, hscript⟩
  · intro hscript
    obtain ⟨n, hn, p, hp, hscript⟩ := hscript
    exact ⟨p, hp, n, hn, hscript⟩

theorem isLeast_openingDistance (text word : List Char) :
    IsLeast {n | ∃ p, p <+: text ∧ EditScript n p word} (openingDistance text word) := by
  apply isLeast_of_le_iff
  intro k
  exact openingDistance_le_iff_exists_script

/-- The empty opening is as far from a word as the word is long. -/
theorem openingDistance_le_length (text word : List Char) :
    openingDistance text word ≤ word.length := by
  rw [openingDistance_le_iff]
  exact ⟨[], List.nil_prefix, by simp⟩

/-- A text that is not empty is one of those that remain where a word starts. -/
theorem mem_wordStarts_self {text : List Char} (htext : text ≠ []) : text ∈ wordStarts text := by
  rw [mem_wordStarts_iff]
  exact ⟨0, ⟨List.length_pos_iff.2 htext, .inl rfl⟩, rfl⟩

end Text

namespace Tolerance

open Text

/-! ## Word starts -/

theorem isLeast_wordDistance {text : List Char} (htext : text ≠ []) (word : List Char) :
    IsLeast {n | ∃ start, IsWordStart text start ∧
      ∃ p, p <+: text.drop start ∧ EditScript n p word} (wordDistance text word) := by
  apply isLeast_of_le_iff
  intro k
  have hnonempty : ¬(text = [] ∧ word.length ≤ k) := by
    intro h
    exact htext h.1
  rw [wordDistance_le_iff_or, or_iff_right hnonempty]
  simp only [mem_wordStarts_iff, openingDistance_le_iff_exists_script]
  constructor
  · intro hopening
    obtain ⟨rest, ⟨start, hstart, rfl⟩, n, hn, hscript⟩ := hopening
    exact ⟨n, hn, start, hstart, hscript⟩
  · intro hscript
    obtain ⟨n, hn, start, hstart, hscript⟩ := hscript
    exact ⟨_, ⟨start, hstart, rfl⟩, n, hn, hscript⟩

theorem wordDistance_nil (word : List Char) : wordDistance [] word = word.length := rfl

theorem wordDistance_le_length (text word : List Char) :
    wordDistance text word ≤ word.length := by
  by_cases htext : text = []
  · subst htext
    exact Nat.le_of_eq (wordDistance_nil word)
  · rw [wordDistance_le_iff_or]
    exact .inr ⟨text, mem_wordStarts_self htext, openingDistance_le_length text word⟩

/-- The opening distance is the least number of edits that turn an opening of the text into the
word.  After any opening each cell of the column is such a least number for an opening of the word,
and from that column and the best distance so far the reading goes on to the same result; that it
stops early changes nothing.  So the word distance is the least number of edits over all places
where a word of the text starts.  It never exceeds the length of the word, which it is for the empty
text. -/
theorem distances_are_least (text word : List Char) :
    IsLeast {n | ∃ p, p <+: text ∧ EditScript n p word} (openingDistance text word) ∧
    (∀ opening : List Char, (columnAfter word opening).length = word.length + 1 ∧
      ∀ i ≤ word.length, ∃ cell, (columnAfter word opening)[i]? = some cell ∧
        IsLeast {n | EditScript n opening (word.take i)} cell) ∧
    (∀ p q : List Char, text = p ++ q → openingDistance text word =
      bestDistance word q (columnAfter word p) (openingDistance p word)) ∧
    openingDistance text word =
      bestDistanceThroughout word text (List.range (word.length + 1)) word.length ∧
    (text ≠ [] → IsLeast {n | ∃ start, IsWordStart text start ∧
      ∃ p, p <+: text.drop start ∧ EditScript n p word} (wordDistance text word)) ∧
    wordDistance text word ≤ word.length ∧ wordDistance [] word = word.length := by
  refine ⟨isLeast_openingDistance text word, ?_, ?_, ?_, ?_, wordDistance_le_length text word,
    wordDistance_nil word⟩
  · intro opening
    refine ⟨length_columnAfter word opening, ?_⟩
    intro i hi
    exact ⟨_, getElem?_columnAfter opening hi, isLeast_editDistance opening (word.take i)⟩
  · intro p q htext
    rw [htext]
    exact openingDistance_append word p q
  · exact bestDistance_eq_throughout word text _ _
  · intro htext
    exact isLeast_wordDistance htext word

/-- A word with a letter left out is one edit away from a bar behind another word.  After three
characters of the bar the column holds one edit for the first two letters, and from the column after
the whole word the reading goes on to the least distance of three from the beginning. -/
theorem brnze_one_edit_from_bar :
    let bar := "a bronze bar".toList
    let word := "brnze".toList
    (2 ≤ word.length ∧ (columnAfter word "bro".toList)[2]? = some 1 ∧
      IsLeast {n | EditScript n "bro".toList "br".toList} 1) ∧
    (bar = "a bronze".toList ++ " bar".toList ∧
      bestDistance word " bar".toList (columnAfter word "a bronze".toList) 3 = 3) ∧
    bar ≠ [] ∧ IsLeast {n | ∃ start, IsWordStart bar start ∧
      ∃ p, p <+: bar.drop start ∧ EditScript n p word} 1 := by
  intro bar word
  obtain ⟨-, hcells, hgoesOn, -, hleast, -⟩ := distances_are_least bar word
  have htwo : 2 ≤ word.length := by decide
  have hcell : (columnAfter word "bro".toList)[2]? = some 1 := by decide
  have hparts : bar = "a bronze".toList ++ " bar".toList := by decide
  have hne : bar ≠ [] := by decide
  have hwhole : openingDistance bar word = 3 := by decide
  have hpart : openingDistance "a bronze".toList word = 3 := by decide
  have hword : wordDistance bar word = 1 := by decide
  refine ⟨⟨htwo, hcell, ?_⟩, ⟨hparts, ?_⟩, hne, ?_⟩
  · obtain ⟨cell, hsome, hedits⟩ := (hcells "bro".toList).2 2 htwo
    obtain rfl : 1 = cell := Option.some.inj (hcell.symm.trans hsome)
    exact hedits
  · have hrest := hgoesOn _ _ hparts
    rw [hwhole, hpart] at hrest
    exact hrest.symm
  · have hreached := hleast hne
    rwa [hword] at hreached

end Tolerance

end InventorySearch
