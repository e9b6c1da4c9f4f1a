import RankedSql.Database
import RankedSql.Settings
import RankedSql.Proofs.Lexer
import RankedSql.Proofs.OpenSemicolon
import RankedSql.Proofs.AlikeParts
import RankedSql.Proofs.AlikeStatements
import RankedSql.Proofs.LiteralSafety
import RankedSql.Proofs.Spacing
import RankedSql.Proofs.Submission
import RankedSql.Proofs.TableLayout
import RankedSql.Proofs.ConstraintOrder
import RankedSql.Proofs.RenderedSegments
import RankedSql.Proofs.JoinScope
import RankedSql.Proofs.JoinChain
import RankedSql.Proofs.TableCalls
import RankedSql.Proofs.PendingStatement
import RankedSql.Proofs.CallOrder
import RankedSql.Proofs.DefinitionRuns
import RankedSql.Proofs.EngineTokens
import RankedSql.Proofs.RegistryGrowth
import RankedSql.Proofs.MergedColumns
import RankedSql.Proofs.DraftedColumns
import RankedSql.Proofs.ForeignKeys
import RankedSql.Proofs.Phrases
import RankedSql.Proofs.RecordedNullability
import RankedSql.Proofs.SignatureLanguage
import RankedSql.Proofs.InvokedHooks
import RankedSql.Proofs.DeclaredLayout
import RankedSql.Proofs.DefaultLiterals
import RankedSql.Proofs.JoinFrame
import RankedSql.Proofs.JoinNames
import RankedSql.Proofs.HookFrame
import RankedSql.Proofs.DeclaredFacts
import RankedSql.Proofs.InsertionOrder
import RankedSql.Proofs.TypeNames
import RankedSql.Proofs.JsonReader
import RankedSql.Proofs.RecordedJson
import RankedSql.Proofs.Calendar
import RankedSql.Proofs.ByteOrder
import RankedSql.Proofs.SortedTimes
