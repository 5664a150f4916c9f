import SqlTree.Config.Json
import SqlTree.Draft
import SqlTree.Proofs.Absence
import SqlTree.Proofs.Changes.Statement
import SqlTree.Proofs.Changes.TableRef
import SqlTree.Proofs.ColumnOptions
import SqlTree.Proofs.DataType
import SqlTree.Proofs.Formatting
import SqlTree.Proofs.Grouping
import SqlTree.Proofs.Interleaving
import SqlTree.Proofs.Literal
import SqlTree.Proofs.MergeInsert
import SqlTree.Proofs.Operation.Statement
import SqlTree.Proofs.Select.RowCount
import SqlTree.Proofs.Spacing
import SqlTree.Proofs.Unescape.Accepted
