import GameSheet.Content.Library
import GameSheet.Files.Tree
import GameSheet.Main
import GameSheet.Proofs.Codec.IntegerCells
import GameSheet.Proofs.Codec.Spellings
import GameSheet.Proofs.Command.Builds
import GameSheet.Proofs.Command.Inspections
import GameSheet.Proofs.Command.RowLines
import GameSheet.Proofs.Content.Catalogs
import GameSheet.Proofs.Content.Kinds
import GameSheet.Proofs.Content.NumberedRows
import GameSheet.Proofs.Content.Shipped
import GameSheet.Proofs.Content.TextLoad
import GameSheet.Proofs.Content.TypedTables
import GameSheet.Proofs.Schema.Columns
import GameSheet.Proofs.Sheet.Rendering
import GameSheet.Proofs.Table.Canonical
import GameSheet.Proofs.Table.CellAccess
import GameSheet.Proofs.Table.Comments
import GameSheet.Proofs.Table.ContentRows
import GameSheet.Proofs.Table.Delimited
import GameSheet.Proofs.Table.ExpectedFields
import GameSheet.Proofs.Table.Fallback
import GameSheet.Proofs.Table.Lookup
import GameSheet.Proofs.Table.PoolOrder
import GameSheet.Proofs.Table.Respelling
import GameSheet.Proofs.Table.RoundTrip
import GameSheet.Proofs.Table.TextMode
import GameSheet.Proofs.Table.Tiling
import GameSheet.Proofs.Table.Truncation
import GameSheet.Proofs.Wire.Buffers
import GameSheet.Proofs.Wire.Numerals
