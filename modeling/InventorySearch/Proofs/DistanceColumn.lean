import InventorySearch.Proofs.EditScript
import InventorySearch.Text.EditDistance

/-!
# The column of distances

`openingDistance` reads a text once and keeps one column of numbers, which it
overwrites at every character.  This module says what the numbers mean.

`distanceColumn word opening` lists the edit distances between what has been read
and every opening of the word.  It is the column before the first character
(`range_eq_distanceColumn`), and one more character takes it to the column of the
longer opening (`nextColumn_distanceColumn`).  So the last cell belongs to the
whole word, and `openingDistance_le_iff` says that the result is the least distance
between the word and any opening of the text.

Reading stops early once every cell exceeds the best distance.  Nothing is missed
(`bestDistance_eq_throughout`): a new cell is never less than all the old ones, whatever
numbers they are.
-/

namespace InventorySearch.Text

/-- The distances between an opening of a text and every opening of a word, the shortest first. -/
def distanceColumn (word opening : List Char) : List Nat :=
  word.inits.map (editDistance opening)

theorem inits_map_eq_cons {α : Type} (f : List Char → α) (w : List Char) :
    w.inits.map f = f [] :: (w.inits.map f).tail := by
  cases w <;> simp

/-- Before the first character the cells are the lengths of the openings of the word. -/
theorem range_eq_distanceColumn (word : List Char) :
    List.range (word.length + 1) = distanceColumn word [] := by
  unfold distanceColumn
  induction word with
  | nil => simp
  | cons w word ih =>
    rw [List.length_cons, List.range_succ_eq_map, ih, List.inits_cons]
    simp [Function.comp_def]

theorem getLastD_inits_map {α : Type} (f : List Char → α) (w : List Char) (d : α) :
    (w.inits.map f).getLastD d = f w := by
  induction w generalizing f d with
  | nil => simp
  | cons c w ih =>
    rw [List.inits_cons, List.map_cons, List.getLastD_cons, List.map_map]
    exact ih (f ∘ List.cons c) (f [])

/-- The last cell belongs to the whole word. -/
theorem getLastD_distanceColumn (word opening : List Char) (d : Nat) :
    (distanceColumn word opening).getLastD d = editDistance opening word :=
  getLastD_inits_map (editDistance opening) word d

/-- The cells below the one of `finished`, from the old cells on: the recursion over the rest of the
word is that of the distance by last characters. -/
theorem cellsBelow_eq (c : Char) (p finished rest : List Char) :
    cellsBelow c (editDistance (p ++ [c]) finished) rest
        (rest.inits.map fun u => editDistance p (finished ++ u)) =
      (rest.inits.map fun u => editDistance (p ++ [c]) (finished ++ u)).tail := by
  induction rest generalizing finished with
  | nil => simp [cellsBelow]
  | cons w rest ih =>
    have hnext : (rest.inits.map fun u => editDistance p (finished ++ w :: u)) =
        editDistance p (finished ++ [w]) ::
          (rest.inits.map fun u => editDistance p (finished ++ w :: u)).tail :=
      inits_map_eq_cons (fun u => editDistance p (finished ++ w :: u)) rest
    have ih := ih (finished ++ [w])
    simp only [List.append_assoc, List.singleton_append] at ih
    simp only [List.inits_cons, List.map_cons, List.map_map, Function.comp_def, List.tail_cons,
      List.append_nil]
    rw [hnext, cellsBelow, ← hnext, ← editDistance_concat_concat, ih]
    exact (inits_map_eq_cons (fun u => editDistance (p ++ [c]) (finished ++ w :: u)) rest).symm

/-- One more character takes the column to that of the longer opening. -/
theorem nextColumn_distanceColumn (c : Char) (word p : List Char) :
    nextColumn c word (distanceColumn word p) = distanceColumn word (p ++ [c]) := by
  have hfirst : editDistance p [] + 1 = editDistance (p ++ [c]) [] := by simp
  have hcells := cellsBelow_eq c p [] word
  simp only [List.nil_append] at hcells
  unfold distanceColumn
  rw [inits_map_eq_cons (editDistance p) word, nextColumn, ← inits_map_eq_cons, hfirst, hcells]
  exact (inits_map_eq_cons (editDistance (p ++ [c])) word).symm

/-- An opening of a text is empty or not. -/
theorem exists_opening_iff {text : List Char} {P : List Char → Prop} :
    (∃ q, q <+: text ∧ P q) ↔ P [] ∨ ∃ q, q ≠ [] ∧ q <+: text ∧ P q := by
  constructor
  · intro hopening
    obtain ⟨q, hq, h⟩ := hopening
    by_cases hne : q = []
    · subst hne
      exact .inl h
    · exact .inr ⟨q, hne, hq, h⟩
  · intro hcases
    rcases hcases with h | ⟨q, -, hq, h⟩
    · exact ⟨[], List.nil_prefix, h⟩
    · exact ⟨q, hq, h⟩

/-- A non-empty opening of a text that begins with `c` is `c` before an opening of the rest. -/
theorem exists_opening_cons {c : Char} {text : List Char} {P : List Char → Prop} :
    (∃ q, q ≠ [] ∧ q <+: c :: text ∧ P q) ↔ ∃ q, q <+: text ∧ P (c :: q) := by
  constructor
  · intro hopening
    obtain ⟨q, hne, hq, h⟩ := hopening
    rcases List.prefix_cons_iff.1 hq with rfl | ⟨q', rfl, hq'⟩
    · exact absurd rfl hne
    · exact ⟨q', hq', h⟩
  · intro hopening
    obtain ⟨q, hq, h⟩ := hopening
    exact ⟨c :: q, List.cons_ne_nil c q, List.cons_prefix_cons.2 ⟨rfl, hq⟩, h⟩

/-! ## Stopping early -/

/-- The least of the best distance so far and those of all longer openings, as `bestDistance` has
it, but with the text read to its end whatever the cells are. -/
def bestDistanceThroughout (word : List Char) : List Char → List Nat → Nat → Nat
  | [], _, best => best
  | c :: text, column, best =>
    let column := nextColumn c word column
    bestDistanceThroughout word text column (min best (column.getLastD best))

variable {c : Char} {word : List Char} {column : List Nat} {least : Nat}

theorem lt_of_mem_cellsBelow {cell : Nat} (hcell : least < cell)
    (hcolumn : ∀ old ∈ column, least < old) :
    ∀ next ∈ cellsBelow c cell word column, least < next := by
  induction word generalizing cell column with
  | nil => simp [cellsBelow]
  | cons w word ih =>
    rcases column with _ | ⟨beside, _ | ⟨below, column⟩⟩
    · simp [cellsBelow]
    · simp [cellsBelow]
    · obtain ⟨hbeside, hcolumn⟩ := List.forall_mem_cons.1 hcolumn
      obtain ⟨hbelow, -⟩ := List.forall_mem_cons.1 hcolumn
      rw [cellsBelow, List.forall_mem_cons]
      have hnext : least < min (beside + if w = c then 0 else 1) (min (below + 1) (cell + 1)) := by
        omega
      exact ⟨hnext, ih hnext hcolumn⟩

/-- One more character makes no cell less than all the old ones. -/
theorem lt_of_mem_nextColumn (hcolumn : ∀ old ∈ column, least < old) :
    ∀ next ∈ nextColumn c word column, least < next := by
  cases column with
  | nil => simp [nextColumn]
  | cons first column =>
    have hfirst : least < first := hcolumn first List.mem_cons_self
    rw [nextColumn, List.forall_mem_cons]
    exact ⟨by omega, lt_of_mem_cellsBelow (by omega) hcolumn⟩

/-- Once every cell exceeds the best distance, the rest of the text does not count. -/
theorem bestDistanceThroughout_eq_best (text : List Char)
    (hcolumn : ∀ cell ∈ column, least < cell) :
    bestDistanceThroughout word text column least = least := by
  induction text generalizing column with
  | nil => rfl
  | cons c text ih =>
    have hnext : ∀ cell ∈ nextColumn c word column, least < cell := lt_of_mem_nextColumn hcolumn
    have hlast : least ≤ (nextColumn c word column).getLastD least := by
      cases hcells : (nextColumn c word column).getLast? with
      | none => simp [List.getLastD_eq_getLast?, hcells]
      | some cell =>
        have hcell := hnext cell (List.mem_of_getLast? hcells)
        simp only [List.getLastD_eq_getLast?, hcells, Option.getD_some]
        omega
    rw [bestDistanceThroughout, Nat.min_eq_left hlast]
    exact ih hnext

/-- Stopping early never changes the result, from whatever column the reading goes on. -/
theorem bestDistance_eq_throughout (word text : List Char) (column : List Nat) (best : Nat) :
    bestDistance word text column best = bestDistanceThroughout word text column best := by
  induction text generalizing column best with
  | nil => rfl
  | cons c text ih =>
    simp only [bestDistance, bestDistanceThroughout]
    split
    · next hstop =>
      rw [bestDistanceThroughout_eq_best text (by simpa using hstop)]
    · exact ih _ _

/-! ## The least of all distances -/

/-- What reading on makes of the column of an opening: the least of the best distance so far and the
distances of all longer openings. -/
theorem bestDistanceThroughout_le_iff (word text p : List Char) (best k : Nat) :
    bestDistanceThroughout word text (distanceColumn word p) best ≤ k ↔
      best ≤ k ∨ ∃ q, q ≠ [] ∧ q <+: text ∧ editDistance (p ++ q) word ≤ k := by
  induction text generalizing p best with
  | nil =>
    simp only [bestDistanceThroughout, List.prefix_nil]
    exact ⟨.inl, fun h => h.elim id fun ⟨q, hne, hq, _⟩ => absurd hq hne⟩
  | cons c text ih =>
    have hopenings : (∃ q, q ≠ [] ∧ q <+: c :: text ∧ editDistance (p ++ q) word ≤ k) ↔
        ∃ q, q <+: text ∧ editDistance (p ++ [c] ++ q) word ≤ k := by
      simpa using exists_opening_cons (P := fun q => editDistance (p ++ q) word ≤ k)
    have hhere : min best (editDistance (p ++ [c]) word) ≤ k ↔
        best ≤ k ∨ editDistance (p ++ [c]) word ≤ k := by omega
    rw [bestDistanceThroughout, nextColumn_distanceColumn, getLastD_distanceColumn, ih, hhere,
      hopenings, exists_opening_iff, List.append_nil, or_assoc]

/-- The opening distance is the least distance between the word and an opening of the text. -/
theorem openingDistance_le_iff (text word : List Char) (k : Nat) :
    openingDistance text word ≤ k ↔ ∃ q, q <+: text ∧ editDistance q word ≤ k := by
  rw [openingDistance, range_eq_distanceColumn, bestDistance_eq_throughout,
    bestDistanceThroughout_le_iff, exists_opening_iff, editDistance_nil_left]
  simp only [List.nil_append]

end InventorySearch.Text
