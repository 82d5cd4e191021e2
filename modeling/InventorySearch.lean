import InventorySearch.Binary64.Basic
import InventorySearch.Binary64.PlainText
import InventorySearch.Binary64.Rounding
import InventorySearch.Binary64.Scaling
import InventorySearch.Binary64.Shortest
import InventorySearch.CommandLine.Arguments
import InventorySearch.CommandLine.Options
import InventorySearch.CommandLine.Report
import InventorySearch.CommandLine.Run
import InventorySearch.Comparison
import InventorySearch.Decimal.Basic
import InventorySearch.Decimal.Rounding
import InventorySearch.Failure
import InventorySearch.Files.Access
import InventorySearch.Files.Disk
import InventorySearch.Files.Path
import InventorySearch.Inventory.Basic
import InventorySearch.Inventory.Decoding
import InventorySearch.Inventory.Encoding
import InventorySearch.Inventory.Growth
import InventorySearch.Inventory.Highlight
import InventorySearch.Inventory.Validity
import InventorySearch.Item.Basic
import InventorySearch.Item.Decoding
import InventorySearch.Item.Encoding
import InventorySearch.Item.Quality
import InventorySearch.Item.Search
import InventorySearch.Json.Basic
import InventorySearch.Json.Meaning
import InventorySearch.Json.Number
import InventorySearch.Json.Printer
import InventorySearch.Json.Reader
import InventorySearch.Json.Sorted
import InventorySearch.Json.Token
import InventorySearch.Main
import InventorySearch.Power
import InventorySearch.Proofs.AcceptedSnapshot
import InventorySearch.Proofs.Additions
import InventorySearch.Proofs.CanonicalForm
import InventorySearch.Proofs.CaseFolding
import InventorySearch.Proofs.Containment
import InventorySearch.Proofs.DecimalRounding
import InventorySearch.Proofs.DiskChanges
import InventorySearch.Proofs.DiskTree
import InventorySearch.Proofs.DistanceColumn
import InventorySearch.Proofs.EditScript
import InventorySearch.Proofs.FirstViolation
import InventorySearch.Proofs.GrownInventory
import InventorySearch.Proofs.ItemRoundTrip
import InventorySearch.Proofs.JsonLiteral
import InventorySearch.Proofs.JsonText
import InventorySearch.Proofs.JsonTree
import InventorySearch.Proofs.JsonValue
import InventorySearch.Proofs.LeastDistance
import InventorySearch.Proofs.LetterCase
import InventorySearch.Proofs.LongerName
import InventorySearch.Proofs.Membership
import InventorySearch.Proofs.NearestDouble
import InventorySearch.Proofs.NumberLiteral
import InventorySearch.Proofs.NumericSearch
import InventorySearch.Proofs.OperatorNote
import InventorySearch.Proofs.PlacedItem
import InventorySearch.Proofs.PlacementFaults
import InventorySearch.Proofs.ProgramRuns
import InventorySearch.Proofs.QueryGrammar
import InventorySearch.Proofs.ReportedQuality
import InventorySearch.Proofs.SavedSettings
import InventorySearch.Proofs.ScaledDouble
import InventorySearch.Proofs.SearchTexts
import InventorySearch.Proofs.SettingsText
import InventorySearch.Proofs.SnapshotRoundTrip
import InventorySearch.Proofs.StackRule
import InventorySearch.Proofs.ValidInventory
import InventorySearch.Proofs.VerbatimText
import InventorySearch.Proofs.WiderTolerance
import InventorySearch.Query.Basic
import InventorySearch.Query.Canonical
import InventorySearch.Query.Encoding
import InventorySearch.Query.Reading
import InventorySearch.Settings.Basic
import InventorySearch.Settings.Location
import InventorySearch.Snapshot.Basic
import InventorySearch.Snapshot.Loading
import InventorySearch.Text.Cased
import InventorySearch.Text.CodeRanges
import InventorySearch.Text.EditDistance
import InventorySearch.Text.Lowercase
import InventorySearch.Text.Numeral
import InventorySearch.Text.Occurrence
import InventorySearch.Text.WhiteSpace
import InventorySearch.Text.WordCharacter
import InventorySearch.Text.Words
import InventorySearch.Tolerance
import InventorySearch.Toml.Date
import InventorySearch.Toml.Number
import InventorySearch.Toml.Reader
import InventorySearch.Toml.Table
import InventorySearch.Toml.Text
import InventorySearch.Value
