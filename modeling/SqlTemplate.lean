import SqlTemplate.Connection.Open
import SqlTemplate.Connection.Query
import SqlTemplate.Connection.Transaction
import SqlTemplate.Proofs.Template.Reference
import SqlTemplate.Proofs.Statement
import SqlTemplate.Settings.Ini
import SqlTemplate.Proofs.Session
import SqlTemplate.Proofs.Connection.Work
import SqlTemplate.Proofs.Connection.Query
import SqlTemplate.Proofs.Connection.Report
import SqlTemplate.Proofs.Connection.Texts
import SqlTemplate.Proofs.Value.Plain
import SqlTemplate.Proofs.Parameter
import SqlTemplate.Proofs.Connection.Policy
import SqlTemplate.Proofs.Template.Format
import SqlTemplate.Proofs.RowCursor.Basic
import SqlTemplate.Proofs.RowCursor.Forward
import SqlTemplate.Proofs.QueryResult
import SqlTemplate.Proofs.RowCursor.Absolute
import SqlTemplate.Proofs.Transaction
import SqlTemplate.Proofs.Number.Order
import SqlTemplate.Proofs.Connection.Accounting
import SqlTemplate.Proofs.Connection.Cursors
import SqlTemplate.Proofs.Connection.Refusal
import SqlTemplate.Proofs.Template.Respelled
import SqlTemplate.Proofs.Translation
import SqlTemplate.Proofs.Template.Overlong
import SqlTemplate.Proofs.RowCursor.Strict
import SqlTemplate.Proofs.Connection.RowNumber
import SqlTemplate.Proofs.Statement.Positions
import SqlTemplate.Proofs.Connection.Unsendable
import SqlTemplate.Proofs.Template.Replacement
import SqlTemplate.Proofs.Template.Filled
import SqlTemplate.Proofs.ValueType.Numeric
import SqlTemplate.Proofs.Statement.Escaped
import SqlTemplate.Proofs.Template.Listed
import SqlTemplate.Proofs.Settings.Rejection
import SqlTemplate.Proofs.Settings.Written
import SqlTemplate.Proofs.Connection.InsertId
import SqlTemplate.Proofs.Connection.Leaving
import SqlTemplate.Proofs.Closing
import SqlTemplate.Proofs.Finality
import SqlTemplate.Proofs.Connection.Asked
