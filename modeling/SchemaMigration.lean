import SchemaMigration.Config.Source
import SchemaMigration.Json.Codec
import SchemaMigration.Json.Printer
import SchemaMigration.Json.Reader
import SchemaMigration.Scenario.Step
import SchemaMigration.Sql.Connection
import SchemaMigration.Sql.Wire
import SchemaMigration.Proofs.Keyed
import SchemaMigration.Proofs.Sessions
import SchemaMigration.Proofs.Serving
import SchemaMigration.Proofs.Course
import SchemaMigration.Proofs.Ownership
import SchemaMigration.Proofs.Calls
import SchemaMigration.Proofs.Outcome
import SchemaMigration.Proofs.Owners
import SchemaMigration.Proofs.Launch
import SchemaMigration.Proofs.Commits
import SchemaMigration.Proofs.Reached
import SchemaMigration.Proofs.Exclusion
import SchemaMigration.Proofs.Scripts
import SchemaMigration.Proofs.Policy
import SchemaMigration.Proofs.Loading
import SchemaMigration.Proofs.History
import SchemaMigration.Proofs.Exchanges
import SchemaMigration.Proofs.Transactions
import SchemaMigration.Proofs.Cancelling
import SchemaMigration.Proofs.Ledger
import SchemaMigration.Proofs.Handles
import SchemaMigration.Proofs.Success
import SchemaMigration.Proofs.Turns
import SchemaMigration.Proofs.Passes
import SchemaMigration.Proofs.Unseen
import SchemaMigration.Proofs.Templates
import SchemaMigration.Proofs.Resolution
import SchemaMigration.Proofs.RowsRead
import SchemaMigration.Proofs.Failures
import SchemaMigration.Proofs.Leaving
import SchemaMigration.Proofs.Attempts
import SchemaMigration.Proofs.Releases
import SchemaMigration.Proofs.Grammar
import SchemaMigration.Proofs.Checks
import SchemaMigration.Proofs.Guards
import SchemaMigration.Proofs.Causes
import SchemaMigration.Proofs.Accounts
import SchemaMigration.Proofs.LockNames
import SchemaMigration.Proofs.WireValues
import SchemaMigration.Proofs.Questions
import SchemaMigration.Proofs.Temporal
import SchemaMigration.Proofs.IntegerColumns
import SchemaMigration.Proofs.JsonRecords
import SchemaMigration.Proofs.GuardLanguage
