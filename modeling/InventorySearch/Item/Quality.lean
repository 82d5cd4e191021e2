import InventorySearch.Item.Basic

/-!
# The quality of the contents of a container

The quality of contents is the one reported directly.  Without one, it is the first
quality among the records that describe the contents, where a record that reports
none passes the question on to its own contents before the next record is asked.
-/

namespace InventorySearch

mutual

/-- The first quality that is reported for contents. -/
def Contents.firstQuality : Contents → Option Binary64
  | ⟨_, _, some quality, _⟩ => some quality
  | ⟨_, _, none, records⟩ => Item.firstQualityAmong records

/-- The first quality that is reported by some records. -/
def Item.firstQualityAmong : List Item → Option Binary64
  | [] => none
  | ⟨_, some quality, _, _, _⟩ :: _ => some quality
  | ⟨_, none, _, _, none⟩ :: records => Item.firstQualityAmong records
  | ⟨_, none, _, _, some contents⟩ :: records =>
    match contents.firstQuality with
    | some quality => some quality
    | none => Item.firstQualityAmong records

end

end InventorySearch
