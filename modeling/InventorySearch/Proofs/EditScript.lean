import Mathlib.Data.List.Infix

/-!
# Edit scripts

How far one text is from another, without any table.  An `Edit` inserts, deletes or
replaces one character anywhere in a text, and an `EditScript n a b` is a row of `n`
edits that leads from `a` to `b`.

Scripts are hard to take apart, because their edits can come in any order and undo
one another.  An `Alignment` is a script in order: it reads both texts from left to
right and counts the places where they differ.  The two agree on which distances
are possible:

* an edit after an alignment costs at most one difference (`Alignment.edit`), so a
  script of `n` edits gives an alignment with at most `n` differences;
* an alignment with `n` differences is a script of `n` edits (`Alignment.script`).

`editDistance` is the least number of differences, by recursion on both texts, and
`editDistance_le_iff` says that it is the length of the shortest script.
-/

namespace InventorySearch.Text

/-- One edit of a text: a character is inserted, deleted or replaced, with the same text before it
and behind it. -/
inductive Edit : List Char → List Char → Prop where
  | insertion (before behind : List Char) (c : Char) :
      Edit (before ++ behind) (before ++ c :: behind)
  | deletion (before behind : List Char) (c : Char) :
      Edit (before ++ c :: behind) (before ++ behind)
  | substitution (before behind : List Char) (c d : Char) :
      Edit (before ++ c :: behind) (before ++ d :: behind)

/-- A row of so many edits that leads from one text to another. -/
inductive EditScript : Nat → List Char → List Char → Prop where
  | done (a : List Char) : EditScript 0 a a
  | step {n : Nat} {a b c : List Char} (start : EditScript n a b) (last : Edit b c) :
      EditScript (n + 1) a c

/-- Two texts side by side, with the number of places where they differ. -/
inductive Alignment : Nat → List Char → List Char → Prop where
  | nil : Alignment 0 [] []
  | keep {n : Nat} {a b : List Char} (c : Char) (rest : Alignment n a b) :
      Alignment n (c :: a) (c :: b)
  | replace {n : Nat} {a b : List Char} (c d : Char) (rest : Alignment n a b) :
      Alignment (n + 1) (c :: a) (d :: b)
  | insert {n : Nat} {a b : List Char} (d : Char) (rest : Alignment n a b) :
      Alignment (n + 1) a (d :: b)
  | delete {n : Nat} {a b : List Char} (c : Char) (rest : Alignment n a b) :
      Alignment (n + 1) (c :: a) b

/-- The least number of edits that turn one text into another. -/
def editDistance : List Char → List Char → Nat
  | [], b => b.length
  | a, [] => a.length
  | c :: a, d :: b =>
    min (editDistance a b + if d = c then 0 else 1)
      (min (editDistance a (d :: b) + 1) (editDistance (c :: a) b + 1))
termination_by a b => a.length + b.length

/-! ## Alignments -/

namespace Alignment

theorem symm {n : Nat} {a b : List Char} (h : Alignment n a b) : Alignment n b a := by
  induction h with
  | nil => exact nil
  | keep c _ ih => exact ih.keep c
  | replace c d _ ih => exact ih.replace d c
  | insert d _ ih => exact ih.delete d
  | delete c _ ih => exact ih.insert c

theorem append {m n : Nat} {a b a' b' : List Char} (h : Alignment m a b)
    (h' : Alignment n a' b') : Alignment (m + n) (a ++ a') (b ++ b') := by
  induction h with
  | nil => simpa using h'
  | keep c _ ih => exact ih.keep c
  | replace c d _ ih =>
    rw [Nat.add_right_comm]
    exact ih.replace c d
  | insert d _ ih =>
    rw [Nat.add_right_comm]
    exact ih.insert d
  | delete c _ ih =>
    rw [Nat.add_right_comm]
    exact ih.delete c

/-- Of two alignments one has the lesser number of differences. -/
theorem least {m n : Nat} {a b : List Char} (h : Alignment m a b) (h' : Alignment n a b) :
    Alignment (min m n) a b := by
  rcases Nat.le_total m n with hle | hle
  · rwa [Nat.min_eq_left hle]
  · rwa [Nat.min_eq_right hle]

/-- A text can be deleted one character at a time. -/
theorem toNil (a : List Char) : Alignment a.length a [] := by
  induction a with
  | nil => exact nil
  | cons c a ih => exact ih.delete c

theorem reverse {n : Nat} {a b : List Char} (h : Alignment n a b) :
    Alignment n a.reverse b.reverse := by
  induction h with
  | nil => exact nil
  | keep c _ ih =>
    simp only [List.reverse_cons]
    exact ih.append (nil.keep c)
  | replace c d _ ih =>
    simp only [List.reverse_cons]
    exact ih.append (nil.replace c d)
  | insert d _ ih =>
    simpa using ih.append (nil.insert d)
  | delete c _ ih =>
    simpa using ih.append (nil.delete c)

/-- No alignment makes up for a difference in length without counting it. -/
theorem length_le {n : Nat} {a b : List Char} (h : Alignment n a b) :
    a.length ≤ b.length + n := by
  induction h with
  | nil => simp
  | keep | replace | insert | delete =>
    simp only [List.length_cons]
    omega

/-- The first character of a text takes an opening of the other text with it. -/
theorem uncons {n : Nat} {x : Char} {a w : List Char} (h : Alignment n (x :: a) w) :
    ∃ k m u v, w = u ++ v ∧ n = k + m ∧ Alignment k [x] u ∧ Alignment m a v := by
  generalize ha : x :: a = xs at h
  induction h with
  | nil => exact absurd ha (List.cons_ne_nil x a)
  | @keep n _ b c rest _ =>
    obtain ⟨rfl, rfl⟩ := List.cons.inj ha
    exact ⟨0, n, [x], b, rfl, by omega, nil.keep x, rest⟩
  | @replace n _ b c d rest _ =>
    obtain ⟨rfl, rfl⟩ := List.cons.inj ha
    exact ⟨1, n, [d], b, rfl, by omega, nil.replace x d, rest⟩
  | @insert n _ b d _ ih =>
    obtain ⟨k, m, u, v, rfl, rfl, hu, hv⟩ := ih ha
    exact ⟨k + 1, m, d :: u, v, rfl, by omega, hu.insert d, hv⟩
  | @delete n _ b c rest _ =>
    obtain ⟨rfl, rfl⟩ := List.cons.inj ha
    exact ⟨1, n, [], b, rfl, by omega, nil.delete x, rest⟩

/-- A cut of the first text cuts the second one too, and the differences fall to the two sides. -/
theorem split {n : Nat} {p q w : List Char} (h : Alignment n (p ++ q) w) :
    ∃ k m u v, w = u ++ v ∧ n = k + m ∧ Alignment k p u ∧ Alignment m q v := by
  induction p generalizing n w with
  | nil => exact ⟨0, n, [], w, rfl, by omega, nil, h⟩
  | cons x p ih =>
    obtain ⟨k, m, u, v, rfl, rfl, hu, hv⟩ := uncons h
    obtain ⟨k', m', u', v', rfl, rfl, hu', hv'⟩ := ih hv
    exact ⟨k + k', m', u ++ u', v', by simp, by omega, hu.append hu', hv'⟩

/-- What is aligned with one character can be aligned with any other text of at most one character
at the cost of one more difference. -/
theorem change_singleton {n : Nat} {a : List Char} {c : Char} (h : Alignment n a [c])
    (d : Char) :
    (∃ m ≤ n + 1, Alignment m a []) ∧ ∃ m ≤ n + 1, Alignment m a [d] := by
  have hlength : a.length ≤ n + 1 := by
    have := h.length_le
    simp only [List.length_singleton] at this
    omega
  refine ⟨⟨a.length, hlength, toNil a⟩, ?_⟩
  cases a with
  | nil => exact ⟨1, by omega, nil.insert d⟩
  | cons x a => exact ⟨a.length + 1, hlength, (toNil a).replace x d⟩

/-- An edit of the second text adds at most one difference. -/
theorem edit {n : Nat} {a b b' : List Char} (h : Alignment n a b) (hedit : Edit b b') :
    ∃ m ≤ n + 1, Alignment m a b' := by
  cases hedit with
  | insertion before behind c =>
    obtain ⟨k, m, u, v, rfl, rfl, hu, hv⟩ := h.symm.split
    exact ⟨k + (m + 1), by omega, hu.symm.append (hv.symm.insert c)⟩
  | deletion before behind c =>
    obtain ⟨k, m, u, v, rfl, rfl, hu, hv⟩ := h.symm.split
    obtain ⟨k', m', x, y, rfl, rfl, hx, hy⟩ := hv.uncons
    obtain ⟨j, hj, hchange⟩ := (hx.symm.change_singleton c).1
    exact ⟨k + (j + m'), by omega, hu.symm.append (hchange.append hy.symm)⟩
  | substitution before behind c d =>
    obtain ⟨k, m, u, v, rfl, rfl, hu, hv⟩ := h.symm.split
    obtain ⟨k', m', x, y, rfl, rfl, hx, hy⟩ := hv.uncons
    obtain ⟨j, hj, hchange⟩ := (hx.symm.change_singleton d).2
    exact ⟨k + (j + m'), by omega, hu.symm.append (hchange.append hy.symm)⟩

end Alignment

/-! ## Scripts -/

theorem Edit.cons {a b : List Char} (c : Char) (h : Edit a b) : Edit (c :: a) (c :: b) := by
  cases h with
  | insertion before behind d => exact insertion (c :: before) behind d
  | deletion before behind d => exact deletion (c :: before) behind d
  | substitution before behind d e => exact substitution (c :: before) behind d e

theorem EditScript.cons {n : Nat} {a b : List Char} (c : Char) (h : EditScript n a b) :
    EditScript n (c :: a) (c :: b) := by
  induction h with
  | done => exact done _
  | step _ last ih => exact ih.step (last.cons c)

/-- An alignment is a script: its differences, worked off from the right. -/
theorem Alignment.script {n : Nat} {a b : List Char} (h : Alignment n a b) :
    EditScript n a b := by
  induction h with
  | nil => exact .done []
  | keep c _ ih => exact ih.cons c
  | @replace n a b c d _ ih => exact (ih.cons c).step (.substitution [] b c d)
  | @insert n a b d _ ih => exact ih.step (.insertion [] b d)
  | @delete n a b c _ ih => exact (ih.cons c).step (.deletion [] b c)

/-- Every text is aligned with itself without a difference. -/
theorem Alignment.refl (a : List Char) : Alignment 0 a a := by
  induction a with
  | nil => exact nil
  | cons c a ih => exact ih.keep c

/-- A script can be put in order without getting longer. -/
theorem EditScript.alignment {n : Nat} {a b : List Char} (h : EditScript n a b) :
    ∃ m ≤ n, Alignment m a b := by
  induction h with
  | done => exact ⟨0, Nat.le_refl 0, .refl _⟩
  | step _ last ih =>
    obtain ⟨m, hm, halign⟩ := ih
    obtain ⟨m', hm', halign'⟩ := halign.edit last
    exact ⟨m', by omega, halign'⟩

/-! ## The distance -/

@[simp]
theorem editDistance_nil_left (b : List Char) : editDistance [] b = b.length := by
  rw [editDistance]

@[simp]
theorem editDistance_nil_right (a : List Char) : editDistance a [] = a.length := by
  cases a with
  | nil => rw [editDistance]
  | cons c a =>
    rw [editDistance]
    simp

theorem editDistance_cons_cons (c d : Char) (a b : List Char) :
    editDistance (c :: a) (d :: b) =
      min (editDistance a b + if d = c then 0 else 1)
        (min (editDistance a (d :: b) + 1) (editDistance (c :: a) b + 1)) := by
  rw [editDistance]

/-- The distance is the number of differences of some alignment. -/
theorem alignment_editDistance (a b : List Char) : Alignment (editDistance a b) a b := by
  fun_induction editDistance a b with
  | case1 b => exact (Alignment.toNil b).symm
  | case2 a => exact .toNil a
  | case3 c a d b ihdiagonal ihdelete ihinsert =>
    have hdiagonal :
        Alignment (editDistance a b + if d = c then 0 else 1) (c :: a) (d :: b) := by
      split
      · next h =>
        subst h
        exact ihdiagonal.keep d
      · exact ihdiagonal.replace c d
    exact hdiagonal.least ((ihdelete.delete c).least (ihinsert.insert d))

/-- No alignment has fewer differences than the distance. -/
theorem Alignment.editDistance_le {n : Nat} {a b : List Char} (h : Alignment n a b) :
    editDistance a b ≤ n := by
  induction h with
  | nil => simp
  | keep c _ ih =>
    rw [editDistance_cons_cons]
    simp
    omega
  | replace c d _ ih =>
    rw [editDistance_cons_cons]
    split <;> omega
  | @insert n a b d _ ih =>
    cases a with
    | nil => simpa using ih
    | cons c a =>
      rw [editDistance_cons_cons]
      omega
  | @delete n a b c _ ih =>
    cases b with
    | nil => simpa using ih
    | cons d b =>
      rw [editDistance_cons_cons]
      omega

/-- The distance is the length of the shortest script. -/
theorem editDistance_le_iff {a b : List Char} {k : Nat} :
    editDistance a b ≤ k ↔ ∃ n ≤ k, EditScript n a b := by
  constructor
  · intro h
    exact ⟨editDistance a b, h, (alignment_editDistance a b).script⟩
  · intro h
    obtain ⟨n, hn, hscript⟩ := h
    obtain ⟨m, hm, halign⟩ := hscript.alignment
    exact Nat.le_trans halign.editDistance_le (by omega)

/-- Reading both texts backwards does not change their distance. -/
theorem editDistance_reverse (a b : List Char) :
    editDistance a.reverse b.reverse = editDistance a b := by
  apply Nat.le_antisymm
  · exact (alignment_editDistance a b).reverse.editDistance_le
  · simpa using (alignment_editDistance a.reverse b.reverse).reverse.editDistance_le

/-- The distance by the last characters of both texts. -/
theorem editDistance_concat_concat (a b : List Char) (c d : Char) :
    editDistance (a ++ [c]) (b ++ [d]) =
      min (editDistance a b + if d = c then 0 else 1)
        (min (editDistance a (b ++ [d]) + 1) (editDistance (a ++ [c]) b + 1)) := by
  rw [← editDistance_reverse (a ++ [c]), ← editDistance_reverse a b,
    ← editDistance_reverse a (b ++ [d]), ← editDistance_reverse (a ++ [c]) b]
  simp only [List.reverse_append, List.reverse_singleton, List.singleton_append]
  exact editDistance_cons_cons c d a.reverse b.reverse

end InventorySearch.Text
