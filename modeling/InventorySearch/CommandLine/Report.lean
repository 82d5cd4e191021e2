import InventorySearch.Inventory.Encoding
import InventorySearch.Inventory.Highlight
import InventorySearch.Item.Quality
import InventorySearch.Json.Printer
import InventorySearch.Json.Sorted
import InventorySearch.Query.Canonical
import InventorySearch.Query.Encoding
import InventorySearch.Settings.Basic

/-!
# Reports

The texts that the commands print: lines for a reader, or JSON.
-/

namespace InventorySearch.CommandLine

/-- Lines, each with its end. -/
def lines (texts : List String) : String := String.join (texts.map (· ++ "\n"))

/-- A JSON report. -/
def jsonReport (tree : Json) : String := lines [tree.render .indented]

/-! ## Queries -/

/-- Whether a query has a number and no comparison although its text has an operator. -/
def droppedOperator (input : String) : Query → Bool
  | .property _ (.numeric none _) => input.toList.any Query.isOperatorCharacter
  | _ => false

/-- How a query is understood, in lines. -/
def queryText (input : String) : String :=
  let query := Query.read input
  if Text.isBlank input then lines ["(empty query - matches nothing)"]
  else if query.isProperty then
    lines (("property: " ++ query.canonical) ::
      if droppedOperator input query then
        ["(operator not recognized, comparing for equality)"]
      else [])
  else lines ["name: " ++ query.canonical]

/-- How a query is understood, in JSON with sorted keys. -/
def queryJson (input : String) : String :=
  jsonReport (if Text.isBlank input then .null else (Query.read input).toJson.sorted)

/-! ## Items -/

/-- A text filled up with blanks behind it. -/
def leftAligned (width : Nat) (text : String) : String :=
  String.ofList (text.toList.rightpad width ' ')

/-- A text filled up with blanks before it. -/
def rightAligned (width : Nat) (text : String) : String :=
  String.ofList (text.toList.leftpad width ' ')

/-- A number in a report. -/
def numberText (x : Binary64) : String := String.ofList x.plainText

/-- A count in a report. -/
def countText (n : Nat) : String := String.ofList (Text.numeral n)

/-- The name of an item in a report. -/
def nameOf (entry : Entry) : String := entry.item.name.getD "<unnamed>"

/-- The relations of an item to stacks in a report. -/
def relationsOf (entry : Entry) : String :=
  match entry.inStack, entry.holdsStack with
  | some outer, some held => "in " ++ outer.label ++ ", holds " ++ held.label
  | some outer, none => "in " ++ outer.label
  | none, some held => "holds " ++ held.label
  | none, none => ""

/-- The line of an item that has been found. -/
def foundLine (id : ItemId) (entry : Entry) : String :=
  let relations := relationsOf entry
  if relations.isEmpty then leftAligned 5 id.label ++ " " ++ nameOf entry
  else leftAligned 5 id.label ++ " " ++ leftAligned 30 (nameOf entry) ++ " (" ++ relations ++ ")"

/-- The items that have been found, in lines. -/
def foundText (inv : Inventory) (ids : List ItemId) : String :=
  if ids.isEmpty then lines ["No matching items."]
  else lines (ids.map fun id => foundLine id ((inv.entry? id).getD {}))

/-- The items that have been found, in JSON. -/
def foundJson (inv : Inventory) (ids : List ItemId) : String :=
  jsonReport (.array (ids.map fun id =>
    .ofFields [("id", .ofNat id.index),
      ("name", .ofOption .ofString ((inv.item? id).bind Item.name))]))

/-! ## Snapshots -/

/-- A row of the table of items. -/
def tableRow (id name points perHour food contents relations : String) : String :=
  leftAligned 5 id ++ " " ++ leftAligned 24 name ++ " " ++ rightAligned 8 points ++ " "
    ++ rightAligned 6 perHour ++ " " ++ rightAligned 8 food ++ " " ++ leftAligned 16 contents
    ++ " " ++ relations

/-- What a container holds, in a report. -/
def contentsText (contents : Contents) : String :=
  let held := numberText contents.count ++ " " ++ contents.name.getD "?"
  match contents.firstQuality with
  | some quality => held ++ " q" ++ numberText quality
  | none => held

/-- The row of an item. -/
def itemRow (id : ItemId) (entry : Entry) : String :=
  let item := entry.item
  tableRow id.label (nameOf entry)
    (item.curiosity.elim "-" (numberText ·.points))
    (item.curiosity.elim "-" (numberText ·.pointsPerHour))
    (item.food.elim "-" (numberText ·.total))
    ((item.contents.filter Contents.isFilled).elim "-" contentsText)
    (relationsOf entry)

/-- An inventory as a table in lines. -/
def inventoryText (inv : Inventory) : String :=
  lines (tableRow "ID" "NAME" "LP" "LP/H" "FEP" "CONTENT" "STACK"
    :: String.ofList (List.replicate 80 '-')
    :: inv.entries.zipIdx.map (fun (entry, index) => itemRow ⟨index⟩ entry)
    ++ ["", countText inv.entries.length ++ " items, " ++ countText inv.allStacks.length
      ++ " stacks"])

/-- An inventory in JSON. -/
def inventoryJson (inv : Inventory) : String := jsonReport inv.toJson

/-! ## Settings -/

/-- The settings in lines. -/
def settingsText (settings : Settings) : String :=
  lines ["config: " ++ settings.path,
    "fuzzy.max_edits: " ++ countText settings.tolerance.maxEdits,
    "fuzzy.min_typo_len: " ++ countText settings.tolerance.minTypoLength]

end InventorySearch.CommandLine
