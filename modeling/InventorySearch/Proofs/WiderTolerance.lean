import InventorySearch.Proofs.CaseFolding
import InventorySearch.Proofs.Containment

/-!
# Wider tolerances

A tolerance that forgives more errors, or forgives them from a lower length on, finds no
less, as long as it forgives fewer errors than the search text has characters.  From there
on nothing is forgiven at all, and the tolerance finds what is found without one.

* `acceptsLower_iff`: an answer is that of the plain search, or a distance is forgiven.
* `acceptsLower_of_wider`: both parts stay true when the tolerance gets wider.
* `acceptsLower_of_not_forgives`: without forgiven errors the plain search is left.
* `exists_window_of_acceptsLower`: a window that is close enough to the search text is never
  empty, because the empty one is as far from it as the search text is long.

`accepts_widens` puts them together.
-/

namespace InventorySearch.Tolerance

variable {s t : Tolerance} {haystack needle : List Char}

theorem acceptsLower_iff :
    t.acceptsLower haystack needle = true ↔
      needle <:+: haystack ∨
        t.forgives needle.length = true ∧ wordDistance haystack needle ≤ t.maxEdits := by
  rw [acceptsLower, Bool.or_eq_true, Bool.and_eq_true, Text.occursIn_iff, decide_eq_true_eq]

/-- A wider tolerance forgives what a narrower one does, below the length of the text. -/
theorem forgives_of_wider {length : Nat} (hedits : s.maxEdits ≤ t.maxEdits)
    (hbelow : t.maxEdits < length) (htypo : t.minTypoLength ≤ s.minTypoLength)
    (h : s.forgives length = true) : t.forgives length = true := by
  rw [forgives_iff] at h ⊢
  omega

theorem acceptsLower_of_wider (hedits : s.maxEdits ≤ t.maxEdits)
    (hbelow : t.maxEdits < needle.length) (htypo : t.minTypoLength ≤ s.minTypoLength)
    (h : s.acceptsLower haystack needle = true) : t.acceptsLower haystack needle = true := by
  rw [acceptsLower_iff] at h ⊢
  rcases h with hplain | ⟨hforgives, hdistance⟩
  · exact .inl hplain
  · exact .inr ⟨forgives_of_wider hedits hbelow htypo hforgives, hdistance.trans hedits⟩

/-- A tolerance of no errors, or of as many as a text is long, forgives none. -/
theorem forgives_eq_false_of {length : Nat} (h : t.maxEdits = 0 ∨ length ≤ t.maxEdits) :
    t.forgives length = false := by
  rw [Bool.eq_false_iff, ne_eq, forgives_iff]
  omega

theorem acceptsLower_of_not_forgives (h : t.forgives needle.length = false) :
    t.acceptsLower haystack needle = Text.occursIn needle haystack := by
  rw [acceptsLower, h, Bool.false_and, Bool.or_false]

/-- What is found without occurring as it stands is close to a window of the text that is not
empty. -/
theorem exists_window_of_acceptsLower (h : t.acceptsLower haystack needle = true) :
    needle <:+: haystack ∨
      ∃ start stop, start < stop ∧ stop ≤ haystack.length ∧ Text.IsWordStart haystack start ∧
        ∃ k ≤ t.maxEdits, Text.EditScript k (haystack.extract start stop) needle := by
  rw [acceptsLower_iff] at h
  rcases h with hplain | ⟨hforgives, hdistance⟩
  · exact .inl hplain
  have hbelow : t.maxEdits < needle.length := ((t.forgives_iff _).1 hforgives).2.2
  obtain ⟨start, stop, hle, hstop, hstart, k, hk, hscript⟩ :=
    (wordDistance_le_iff_exists_window hbelow).1 hdistance
  refine .inr ⟨start, stop, ?_, hstop, hstart, k, hk, hscript⟩
  apply Nat.lt_of_le_of_ne hle
  intro hempty
  have hwindow : haystack.extract start stop = [] := by
    rw [hempty, List.extract_eq_take_drop, Nat.sub_self, List.take_zero]
  have hfar : Text.editDistance [] needle ≤ k :=
    Text.editDistance_le_iff.2 ⟨k, Nat.le_refl k, hwindow ▸ hscript⟩
  rw [Text.editDistance_nil_left] at hfar
  omega

/-- Below the length of the search text, a wider tolerance loses no match.  From that length on the
search text has to occur as it stands, as it has to without any tolerance.  Whatever the tolerance
is, what is found occurs as it stands or is close to a window that is not empty; so nothing but the
empty text is found in the empty name. -/
theorem accepts_widens (haystack needle : String) :
    (∀ s t : Tolerance, s.maxEdits ≤ t.maxEdits →
      t.maxEdits < (Text.lower needle.toList).length → t.minTypoLength ≤ s.minTypoLength →
      s.accepts haystack needle = true → t.accepts haystack needle = true) ∧
    (∀ t : Tolerance, (Text.lower needle.toList).length ≤ t.maxEdits →
      (t.accepts haystack needle = true ↔
        Text.lower needle.toList <:+: Text.lower haystack.toList) ∧
      ∀ s : Tolerance, s.maxEdits = 0 → t.accepts haystack needle = s.accepts haystack needle) ∧
    (∀ t : Tolerance, t.accepts haystack needle = true →
      Text.lower needle.toList <:+: Text.lower haystack.toList ∨
        ∃ start stop, start < stop ∧ stop ≤ (Text.lower haystack.toList).length ∧
          Text.IsWordStart (Text.lower haystack.toList) start ∧
          ∃ k ≤ t.maxEdits, Text.EditScript k
            ((Text.lower haystack.toList).extract start stop) (Text.lower needle.toList)) ∧
    (needle ≠ "" → ∀ t : Tolerance, t.accepts "" needle = false) := by
  refine ⟨?_, ?_, ?_, ?_⟩
  · intro s t hedits hbelow htypo
    exact acceptsLower_of_wider hedits hbelow htypo
  · intro t hlength
    have hplain : t.accepts haystack needle =
        Text.occursIn (Text.lower needle.toList) (Text.lower haystack.toList) :=
      acceptsLower_of_not_forgives (forgives_eq_false_of (.inr hlength))
    refine ⟨by rw [hplain, Text.occursIn_iff], ?_⟩
    intro s hnone
    rw [hplain]
    exact (acceptsLower_of_not_forgives (forgives_eq_false_of (.inl hnone))).symm
  · intro t
    exact exists_window_of_acceptsLower
  · intro hne t
    rw [Bool.eq_false_iff]
    intro haccepts
    rcases exists_window_of_acceptsLower haccepts with hplain | ⟨start, stop, hlt, hstop, -⟩
    · have hnil : Text.lower needle.toList = [] := List.infix_nil.1 hplain
      rw [Text.lower_eq_nil_iff, String.toList_eq_nil_iff] at hnil
      exact hne hnil
    · have hlength : (Text.lower "".toList).length = 0 := rfl
      omega

/-- The search text `bronse`, of six characters, finds a bronze bar under every tolerance of one to
five errors; under one of six it does not, and neither does it find the empty name. -/
theorem bronse_found_below_six_errors :
    let found (t : Tolerance) := t.accepts "Bronze Bar" "bronse"
    found ⟨1, 5⟩ = true ∧ found ⟨5, 0⟩ = true ∧ found ⟨6, 0⟩ = found .exact ∧
      found ⟨6, 0⟩ = false ∧ (⟨5, 0⟩ : Tolerance).accepts "" "bronse" = false := by
  intro found
  obtain ⟨hwider, hlength, -, hempty⟩ := accepts_widens "Bronze Bar" "bronse"
  have hsix : (Text.lower "bronse".toList).length = 6 := by decide
  have hone : found ⟨1, 5⟩ = true := by decide
  refine ⟨hone, ?_, ?_, by decide, hempty (by decide) _⟩
  · exact hwider ⟨1, 5⟩ ⟨5, 0⟩ (by decide) (by rw [hsix]; decide) (by decide) hone
  · exact (hlength ⟨6, 0⟩ (by rw [hsix])).2 .exact rfl

end InventorySearch.Tolerance
