import DatabaseMod.LittleEndian
import DatabaseMod.MachineInteger
import DatabaseMod.CivilCalendar
import DatabaseMod.CoreGlue
import DatabaseMod.CoreStrptime
import DatabaseMod.CoreDateTypes
import DatabaseMod.SqlTokens
import DatabaseMod.CoreDateParser
import DatabaseMod.LoggedPrograms
import DatabaseMod.CoreDateScanner
import DatabaseMod.CoreDateReading
import DatabaseMod.CoreDateOutcomes
import DatabaseMod.CoreTemporal
import DatabaseMod.CoreFormat
import DatabaseMod.SqlReading
import DatabaseMod.SqlPieces
import DatabaseMod.LoopRules
import DatabaseMod.StoppingPrograms
import DatabaseMod.OrmModel
import DatabaseMod.OrmModelBuilder
import DatabaseMod.OrmStatements
import DatabaseMod.OrmStatementReading
import DatabaseMod.OrmQuoting
import DatabaseMod.OrmColumns
import DatabaseMod.OrmConstraints
import DatabaseMod.CoreValues
import DatabaseMod.CoreResultSet
import DatabaseMod.OrmPostgresPlaceholders
import DatabaseMod.OrmBinding
import DatabaseMod.OrmAlignment
import DatabaseMod.SqlEngine
import DatabaseMod.CoreQuery
import DatabaseMod.CoreBindings
import DatabaseMod.CoreInvariant
import DatabaseMod.SqliteDriver
import DatabaseMod.SqliteSteps
import DatabaseMod.SqliteVerdict
import DatabaseMod.SqliteInvariant
import DatabaseMod.SqliteCursor
import DatabaseMod.SqliteRounds
import DatabaseMod.OrmSqliteRoundTrip
import DatabaseMod.SqliteParameters
import DatabaseMod.SqliteRecord
import DatabaseMod.SqliteRows
import DatabaseMod.SqlLedger
import DatabaseMod.SqliteConnection
import DatabaseMod.SqliteRegistry
import DatabaseMod.SqliteTransactions
import DatabaseMod.PostgresDriver
import DatabaseMod.PostgresParameters
import DatabaseMod.PostgresRecord
import DatabaseMod.PostgresColumns
import DatabaseMod.PostgresCursor
import DatabaseMod.PostgresTemporal
import DatabaseMod.PostgresValues
import DatabaseMod.OrmParams
import DatabaseMod.OrmOperations
import DatabaseMod.OrmFailures
import DatabaseMod.CoreReporting
import DatabaseMod.CoreErrorObjects
import DatabaseMod.MariaDriver
import DatabaseMod.MariaRecord
import DatabaseMod.OdbcDriver
import DatabaseMod.SqliteReporting
import DatabaseMod.OrmErrorObjects
import DatabaseMod.DriverReporting
import DatabaseMod.MariaRounds
import DatabaseMod.MariaValues
import DatabaseMod.DriverNulls
import DatabaseMod.ParameterCounts
import DatabaseMod.ParameterReferences
import DatabaseMod.MariaReferences
import DatabaseMod.OdbcReferences
import DatabaseMod.OdbcTexts
import DatabaseMod.OdbcRows
import DatabaseMod.FetchOutcomes
import DatabaseMod.OrmRewriting
import DatabaseMod.OrmPaging
import DatabaseMod.OrmTransaction
import DatabaseMod.PostgresPreparedNames
import DatabaseMod.OrmRegistry
import DatabaseMod.OrmNaming
import DatabaseMod.OrmNulls
import DatabaseMod.OrmSqliteQueries
import DatabaseMod.DecimalOrder
import DatabaseMod.OrmOrdering
import DatabaseMod.SqlNames
import DatabaseMod.TableInspection
import DatabaseMod.SqliteEnumeration
import DatabaseMod.OrmInspection
import DatabaseMod.CoreTextAttempts
import DatabaseMod.CoreDefaultTexts
import DatabaseMod.CoreFormatBuffer
import DatabaseMod.CoreTemporalObjects
import DatabaseMod.CoreTemporalValues
import DatabaseMod.CoreValueObjects
import DatabaseMod.CoreBindObjects
import DatabaseMod.CoreLoaders
import DatabaseMod.SqliteFieldNames
import DatabaseMod.CoreBlobOwnership
import DatabaseMod.PostgresParameterArrays
import DatabaseMod.TableColumns
import DatabaseMod.PostgresTables
import DatabaseMod.TableDrivers
import DatabaseMod.ResultObjects
import DatabaseMod.TableDefaults
import DatabaseMod.OrmIndexNames
import DatabaseMod.OrmFrees
import DatabaseMod.OrmStatementForms
import DatabaseMod.CoreErrorHistories
import DatabaseMod.MariaBuffers
import DatabaseMod.OrmWordSplitting
import DatabaseMod.KeyedRecords
import DatabaseMod.SqlCommands
import DatabaseMod.SqlDatabase
import DatabaseMod.SqliteOutcomes
import DatabaseMod.SqliteTransactionOutcomes
import DatabaseMod.OrmCommands
import DatabaseMod.OrmStoredRecords
import DatabaseMod.OrmKeyedStore
import DatabaseMod.OrmSessions
import DatabaseMod.OrmTransactionBlocks
import DatabaseMod.HandleLedger
import DatabaseMod.PostgresConnection
import DatabaseMod.MariaConnection
import DatabaseMod.OdbcConnection
import DatabaseMod.OdbcTransactions
import DatabaseMod.SqliteReads
import DatabaseMod.SqliteSchemas
import DatabaseMod.OrmValidation
