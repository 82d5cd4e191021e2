import InventorySearch.Inventory.Highlight
import InventorySearch.Proofs.CaseFolding
import InventorySearch.Proofs.QueryGrammar

/-!
# Searching by text and by query

A search can start from a text or from the query that was read from it.  The functions
that take a text look first whether it is blank; those that take a query look whether it
asks for the empty name.  Both give the same answers, because exactly the blank texts are
read as the empty name (`isEmpty_read`) and nothing satisfies that.

* `Item.satisfiesText_eq`, `Inventory.lightsUpForText_eq`: the look at the blank text is
  not needed.
* `Inventory.highlighted_eq_filter`: reading the query once for many items is the same as
  reading it for each of them.
* `Query.ne_empty_of_read_name`, `Query.ne_empty_of_read_named`: what is left to search
  for in a name or in the stats of a food is never the empty text.

`search_agrees` puts them together.
-/

namespace InventorySearch

namespace Query

open Text

theorem Derivation.text_ne_nil (d : Derivation) : d.text ≠ [] := by
  simp [Derivation.text]

/-- A text is read as the query that nothing satisfies exactly if it is blank. -/
theorem isEmpty_read (input : String) : (read input).isEmpty = isBlank input := by
  rcases readLower_cases (lower (trim input.toList)) with ⟨d, hd, hquery⟩ | hname
  · have hne : trim input.toList ≠ [] := by
      intro hnil
      rw [hnil] at hd
      exact d.text_ne_nil hd
    rw [isBlank, List.isEmpty_eq_false_iff.2 hne, read, hquery]
    rfl
  · rw [read, hname, isEmpty, isBlank, Bool.eq_iff_iff, String.isEmpty_iff, List.isEmpty_iff,
      String.ofList_eq_empty_iff, lower_eq_nil_iff]

variable {input : String}

theorem ne_empty_of_read_name (hblank : isBlank input = false) {text : String}
    (h : read input = .name text) : text ≠ "" := by
  rintro rfl
  have hempty : (read input).isEmpty = true := by
    rw [h]
    rfl
  rw [isEmpty_read, hblank] at hempty
  exact Bool.false_ne_true hempty

/-- The name in a query for a stat is a word of the grammar, which has a letter. -/
theorem ne_empty_of_read_named {subject : Property} {name : String}
    (h : read input = .property subject (.named name)) : name ≠ "" := by
  rcases readLower_cases (lower (trim input.toList)) with ⟨d, -, hquery⟩ | hname
  · rw [read, hquery] at h
    obtain ⟨-, hfilter⟩ := Query.property.inj h
    obtain ⟨keyword, _ | word | ⟨run, literal⟩⟩ := d
    · exact absurd hfilter (by simp)
    · obtain rfl := Filter.named.inj hfilter
      rw [ne_eq, String.ofList_eq_empty_iff]
      exact word.ne_nil
    · exact absurd hfilter (by simp [Modifier.filter])
  · rw [read, hname] at h
    exact absurd h (by simp)

end Query

/-! ## The empty query -/

variable {tolerance : Tolerance} {query : Query}

/-- No item satisfies the empty query. -/
theorem Item.satisfies_of_isEmpty (hempty : query.isEmpty = true) (item : Item) :
    item.satisfies tolerance query = false := by
  cases query with
  | name text =>
    have htext : text.isEmpty = true := hempty
    rw [satisfies, htext]
    rfl
  | property subject filter => exact absurd hempty Bool.false_ne_true

namespace Inventory

theorem satisfiesAt_of_isEmpty (hempty : query.isEmpty = true) (inv : Inventory) (id : ItemId) :
    inv.satisfiesAt tolerance query id = false := by
  rw [satisfiesAt, Option.any_eq_false]
  intro item _
  exact Item.satisfies_of_isEmpty hempty item

/-- Nothing lights up for the empty query, neither by itself nor with a stack. -/
theorem lightsUp_of_isEmpty (hempty : query.isEmpty = true) (inv : Inventory) (id : ItemId) :
    inv.lightsUp tolerance query id = false := by
  unfold lightsUp
  split
  · rw [List.any_eq_false]
    intro member _
    rw [satisfiesAt_of_isEmpty hempty]
    exact Bool.false_ne_true
  · exact satisfiesAt_of_isEmpty hempty inv id

end Inventory

/-! ## From texts to queries -/

theorem Item.satisfiesText_eq (item : Item) (tolerance : Tolerance) (input : String) :
    item.satisfiesText tolerance input = item.satisfies tolerance (.read input) := by
  rw [satisfiesText]
  cases hblank : Text.isBlank input with
  | true => rw [satisfies_of_isEmpty (by rw [Query.isEmpty_read, hblank])]; rfl
  | false => rfl

namespace Inventory

variable (inv : Inventory) (tolerance : Tolerance) (ids : List ItemId) (input : String)

theorem lightsUpForText_eq (id : ItemId) :
    inv.lightsUpForText tolerance input id = inv.lightsUp tolerance (.read input) id := by
  rw [lightsUpForText]
  cases hblank : Text.isBlank input with
  | true => rw [lightsUp_of_isEmpty (by rw [Query.isEmpty_read, hblank])]; rfl
  | false => rfl

theorem highlighted_eq_filter :
    inv.highlighted tolerance ids input = ids.filter (inv.lightsUpForText tolerance input) := by
  rw [funext (inv.lightsUpForText_eq tolerance input), highlighted]
  cases hblank : Text.isBlank input with
  | true =>
    have hempty : (Query.read input).isEmpty = true := by rw [Query.isEmpty_read, hblank]
    rw [if_pos rfl, eq_comm, List.filter_eq_nil_iff]
    intro id _
    rw [lightsUp_of_isEmpty hempty]
    exact Bool.false_ne_true
  | false => rfl

theorem satisfying_eq_filter :
    inv.satisfying tolerance ids input = ids.filter (inv.satisfiesAt tolerance (.read input)) := by
  refine List.filter_congr fun id _ => ?_
  simp only [satisfiesAt, Item.satisfiesText_eq]

end Inventory

/-- Searching by a text is searching by the query that is read from it: for one item, for one item
with its stack, and for a list of items, whose order and repetitions stay.  Exactly the blank texts
are read as the empty query, for which nothing is found whatever it is, and any other text leaves
something to search for. -/
theorem search_agrees (tolerance : Tolerance) (input : String) :
    (∀ item : Item,
      item.satisfiesText tolerance input = item.satisfies tolerance (.read input)) ∧
    (∀ (inv : Inventory) (id : ItemId),
      inv.lightsUpForText tolerance input id = inv.lightsUp tolerance (.read input) id) ∧
    (∀ (inv : Inventory) (ids : List ItemId),
      inv.highlighted tolerance ids input = ids.filter (inv.lightsUpForText tolerance input) ∧
      inv.satisfying tolerance ids input =
        ids.filter (inv.satisfiesAt tolerance (.read input))) ∧
    (Query.read input).isEmpty = Text.isBlank input ∧
    (∀ query : Query, query.isEmpty = true →
      (∀ item : Item, item.satisfies tolerance query = false) ∧
      ∀ (inv : Inventory) (id : ItemId), inv.lightsUp tolerance query id = false) ∧
    (Text.isBlank input = false →
      (∀ text, Query.read input = .name text → text ≠ "") ∧
      ∀ subject name, Query.read input = .property subject (.named name) → name ≠ "") := by
  refine ⟨?_, ?_, ?_, Query.isEmpty_read input, ?_, ?_⟩
  · intro item
    exact item.satisfiesText_eq tolerance input
  · intro inv id
    exact inv.lightsUpForText_eq tolerance input id
  · intro inv ids
    exact ⟨inv.highlighted_eq_filter tolerance ids input,
      inv.satisfying_eq_filter tolerance ids input⟩
  · intro query hempty
    exact ⟨Item.satisfies_of_isEmpty hempty, Inventory.lightsUp_of_isEmpty hempty⟩
  · intro hblank
    exact ⟨fun text => Query.ne_empty_of_read_name hblank,
      fun subject name => Query.ne_empty_of_read_named⟩

/-- A wide blank is the empty query and lights up no sack of seeds; a stat between blanks is a query
for that stat. -/
theorem wide_blank_is_empty :
    let seed : Item := { name := some "Seed" }
    let sack : Item := { name := some "Sack" }
    let inv : Inventory := ⟨[⟨seed, some ⟨0⟩, none⟩, ⟨sack, none, some ⟨0⟩⟩], [⟨[⟨0⟩]⟩]⟩
    Query.read "\u2003" = .name "" ∧ inv.lightsUp .standard (.name "") ⟨1⟩ = false ∧
      Text.isBlank "\tFEP:Str " = false ∧
      Query.read "\tFEP:Str " = .property .foodEnergy (.named "str") ∧ "str" ≠ "" := by
  intro seed sack inv
  have hempty : Query.read "\u2003" = .name "" := by decide
  have hstat : Query.read "\tFEP:Str " = .property .foodEnergy (.named "str") := by decide
  have hblank : Text.isBlank "\tFEP:Str " = false := by decide
  refine ⟨hempty, ?_, hblank, hstat, ?_⟩
  · exact ((search_agrees .standard "\u2003").2.2.2.2.1 (.name "") rfl).2 inv ⟨1⟩
  · exact ((search_agrees .standard "\tFEP:Str ").2.2.2.2.2 hblank).2 .foodEnergy "str" hstat

end InventorySearch
