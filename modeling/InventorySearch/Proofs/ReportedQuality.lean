import InventorySearch.Item.Quality
import Mathlib.Data.List.Basic

/-!
# Which quality is reported first

Contents and the records that describe them form a tree, and a quality can be reported at
every place of it.  `Contents.firstQuality` looks for one and goes back to the next record
when the contents of a record turn out to report none.

* `Contents.qualities` lists all the qualities of a tree in the order in which they are
  asked for: that of the contents, and then for each record in turn its own before those of
  its contents.
* `firstQuality_eq_head?`: the one that is found is the first of the list.
* `Contents.Reports` says without any order that a quality is reported somewhere in the
  tree, and `mem_qualities_iff` that the list has just these.

The types are nested in one another, and so are the proofs about whole trees: each is one
mutual theorem with a case per constructor.
-/

namespace InventorySearch

/-! ## All qualities of a tree -/

mutual

/-- The qualities that are reported for contents: their own, and then those of their records. -/
def Contents.qualities : Contents → List Binary64
  | ⟨_, _, quality, records⟩ => quality.toList ++ Item.qualitiesOfAll records

/-- The qualities that a record reports: its own, and then those of its contents. -/
def Item.qualities : Item → List Binary64
  | ⟨_, quality, _, _, none⟩ => quality.toList
  | ⟨_, quality, _, _, some contents⟩ => quality.toList ++ contents.qualities

/-- The qualities that some records report, one record after the other. -/
def Item.qualitiesOfAll : List Item → List Binary64
  | [] => []
  | record :: records => record.qualities ++ Item.qualitiesOfAll records

end

/-- A quality is reported somewhere in the tree of contents. -/
inductive Contents.Reports : Contents → Binary64 → Prop where
  /-- By the contents themselves. -/
  | own {contents : Contents} {q : Binary64} (h : contents.quality = some q) : contents.Reports q
  /-- By one of the records. -/
  | record {contents : Contents} {record : Item} {q : Binary64}
    (hrecord : record ∈ contents.records) (h : record.quality = some q) : contents.Reports q
  /-- Somewhere in the tree of the contents of a record. -/
  | nested {contents inner : Contents} {record : Item} {q : Binary64}
    (hrecord : record ∈ contents.records) (hinner : record.contents = some inner)
    (h : inner.Reports q) : contents.Reports q

theorem Item.qualitiesOfAll_eq_flatMap (records : List Item) :
    Item.qualitiesOfAll records = records.flatMap Item.qualities := by
  induction records with
  | nil => rfl
  | cons record records ih => rw [Item.qualitiesOfAll, ih, List.flatMap_cons]

theorem Contents.qualities_eq (contents : Contents) :
    contents.qualities = contents.quality.toList ++ contents.records.flatMap Item.qualities := by
  obtain ⟨name, count, quality, records⟩ := contents
  rw [Contents.qualities, Item.qualitiesOfAll_eq_flatMap]

theorem Item.qualities_eq (record : Item) :
    record.qualities = record.quality.toList ++ record.contents.elim [] Contents.qualities := by
  obtain ⟨name, quality, curiosity, food, contents⟩ := record
  cases contents with
  | none => rw [Item.qualities, Option.elim_none, List.append_nil]
  | some contents => rw [Item.qualities, Option.elim_some]

/-! ## The first of them -/

mutual

theorem Contents.firstQuality_eq_head? : ∀ contents : Contents,
    contents.firstQuality = contents.qualities.head?
  | ⟨_, _, some _, _⟩ => rfl
  | ⟨_, _, none, records⟩ => Item.firstQualityAmong_eq_head? records

theorem Item.firstQualityAmong_eq_head? : ∀ records : List Item,
    Item.firstQualityAmong records = (Item.qualitiesOfAll records).head?
  | [] => rfl
  | ⟨_, some quality, _, _, none⟩ :: records => rfl
  | ⟨_, some quality, _, _, some contents⟩ :: records => rfl
  | ⟨_, none, _, _, none⟩ :: records => Item.firstQualityAmong_eq_head? records
  | ⟨_, none, _, _, some contents⟩ :: records => by
    -- The answer of the inner tree counts, and only if it has none the next records are asked.
    have hinner : contents.firstQuality = contents.qualities.head? :=
      contents.firstQuality_eq_head?
    have hrest : Item.firstQualityAmong records = (Item.qualitiesOfAll records).head? :=
      Item.firstQualityAmong_eq_head? records
    show (match contents.firstQuality with
      | some quality => some quality
      | none => Item.firstQualityAmong records) =
        (contents.qualities ++ Item.qualitiesOfAll records).head?
    rw [List.head?_append, hinner, hrest]
    cases contents.qualities.head? <;> rfl

end

/-! ## Where they come from -/

theorem Contents.Reports.mem_qualities {contents : Contents} {q : Binary64}
    (h : contents.Reports q) : q ∈ contents.qualities := by
  induction h with
  | own h =>
    rw [Contents.qualities_eq, h]
    exact List.mem_append_left _ List.mem_cons_self
  | @record contents record q hrecord h =>
    rw [Contents.qualities_eq]
    refine List.mem_append_right _ (List.mem_flatMap.2 ⟨record, hrecord, ?_⟩)
    rw [Item.qualities_eq, h]
    exact List.mem_append_left _ List.mem_cons_self
  | @nested contents inner record q hrecord hinner _ ih =>
    rw [Contents.qualities_eq]
    refine List.mem_append_right _ (List.mem_flatMap.2 ⟨record, hrecord, ?_⟩)
    rw [Item.qualities_eq, hinner]
    exact List.mem_append_right _ ih

mutual

theorem Contents.reports_of_mem {q : Binary64} : ∀ contents : Contents,
    q ∈ contents.qualities → contents.Reports q
  | ⟨_, _, quality, records⟩, h => by
    rw [Contents.qualities, List.mem_append] at h
    rcases h with hown | hrecords
    · exact .own (Option.mem_toList.1 hown)
    · obtain ⟨record, hrecord, hq | ⟨inner, hinner, hq⟩⟩ :=
        Item.exists_record_of_mem records hrecords
      · exact .record hrecord hq
      · exact .nested hrecord hinner hq

theorem Item.exists_record_of_mem {q : Binary64} : ∀ records : List Item,
    q ∈ Item.qualitiesOfAll records → ∃ record ∈ records,
      record.quality = some q ∨ ∃ inner, record.contents = some inner ∧ inner.Reports q
  | [], h => absurd h List.not_mem_nil
  | ⟨name, quality, curiosity, food, contents⟩ :: records, h => by
    rw [Item.qualitiesOfAll, Item.qualities_eq, List.mem_append, List.mem_append] at h
    rcases h with (hown | hinner) | hrest
    · exact ⟨_, List.mem_cons_self, .inl (Option.mem_toList.1 hown)⟩
    · match contents, hinner with
      | none, hnone => exact absurd hnone List.not_mem_nil
      | some inner, hq =>
        exact ⟨_, List.mem_cons_self, .inr ⟨inner, rfl, Contents.reports_of_mem inner hq⟩⟩
    · obtain ⟨record, hrecord, hq⟩ := Item.exists_record_of_mem records hrest
      exact ⟨record, List.mem_cons_of_mem _ hrecord, hq⟩

end

/-- The list has exactly the qualities that are reported somewhere in the tree. -/
theorem Contents.mem_qualities_iff {contents : Contents} {q : Binary64} :
    q ∈ contents.qualities ↔ contents.Reports q :=
  ⟨contents.reports_of_mem, Contents.Reports.mem_qualities⟩

namespace Contents

/-- The quality of contents is the first in the list of all qualities of the tree: that of the
contents, and then for each record in turn its own and those of its contents.  There is none exactly
if nothing in the tree reports one, at whatever depth. -/
theorem firstQuality_is_first_reported (contents : Contents) :
    contents.qualities = contents.quality.toList ++ contents.records.flatMap Item.qualities ∧
    (∀ record : Item, record.qualities =
      record.quality.toList ++ record.contents.elim [] Contents.qualities) ∧
    contents.firstQuality = contents.qualities.head? ∧
    (∀ q, q ∈ contents.qualities ↔ contents.Reports q) ∧
    (contents.firstQuality = none ↔ ∀ q, ¬contents.Reports q) := by
  refine ⟨contents.qualities_eq, Item.qualities_eq, contents.firstQuality_eq_head?,
    fun q => mem_qualities_iff, ?_⟩
  rw [contents.firstQuality_eq_head?, List.head?_eq_none_iff, List.eq_nil_iff_forall_not_mem]
  simp only [mem_qualities_iff]

/-- A record whose contents report nothing does not keep the next one from being asked. -/
example (q : Binary64) :
    firstQuality { records := [{ contents := some { records := [{}] } },
      { contents := some { records := [{}, { quality := some q }] } },
      { quality := some .zero }] } = some q := rfl

end Contents

end InventorySearch
