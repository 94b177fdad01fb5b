import AskSql.Main
import AskSql.Store.Memory
import AskSql.Proofs.Text.Pieces
import AskSql.Proofs.Text.Quoted
import AskSql.Proofs.Text.Scanning
import AskSql.Proofs.Text.Casing
import AskSql.Proofs.Text.Replacing
import AskSql.Proofs.Text.Utf8
import AskSql.Proofs.Program
import AskSql.Proofs.Catalog.Reading
import AskSql.Proofs.Generation.Calls
import AskSql.Proofs.Schema.ColumnLine
import AskSql.Proofs.Schema.RoundTrip
import AskSql.Proofs.Schema.TableNames
import AskSql.Proofs.Service.Log
import AskSql.Proofs.Composer.Refinement
import AskSql.Proofs.Sql.Grammar.DataType
import AskSql.Proofs.Sql.Grammar.Expression
import AskSql.Proofs.Sql.Grammar.Query
import AskSql.Proofs.Sql.Grammar.Change
import AskSql.Proofs.Sql.Counting
import AskSql.Proofs.Sql.Ending
import AskSql.Proofs.Sql.Spelling
import AskSql.Proofs.Sql.LastToken
import AskSql.Proofs.Composer.Tokens
import AskSql.Proofs.Composer.Reading
import AskSql.Proofs.Composer.Confinement
import AskSql.Proofs.Generation.Degradation
import AskSql.Proofs.Generation.Terminated
import AskSql.Proofs.Generation.Normalized
import AskSql.Proofs.Generation.Isolation
import AskSql.Proofs.Service.SingleStatement
import AskSql.Proofs.Catalog.Keys
import AskSql.Proofs.Sql.Names
import AskSql.Proofs.Database.Pieces
import AskSql.Proofs.Composer.Pieces
import AskSql.Proofs.Database.Reading
import AskSql.Proofs.Composer.Validity
import AskSql.Proofs.Execution.Row
import AskSql.Proofs.Execution.Record
import AskSql.Proofs.Execution.Gate
import AskSql.Proofs.Database.Selection
import AskSql.Proofs.Execution.Materialization
import AskSql.Proofs.Schema.Canonical
import AskSql.Proofs.Schema.LineBreaks
import AskSql.Proofs.Schema.Annotations
import AskSql.Proofs.Schema.TrailingBlock
import AskSql.Proofs.Generation.Fenced
import AskSql.Proofs.Catalog.Discovery
import AskSql.Proofs.CommandLine.ExitCode
import AskSql.Proofs.Service.Envelope
import AskSql.Proofs.Text.Opacity
import AskSql.Proofs.Text.Enclosure
import AskSql.Proofs.Catalog.Wholeness
import AskSql.Proofs.Composer.Mention
import AskSql.Proofs.Database.Draft
import AskSql.Proofs.Database.Grammar.Expression
import AskSql.Proofs.Database.Grammar.Query
import AskSql.Proofs.Database.Grammar.Statement
import AskSql.Proofs.Database.KeyOrder
