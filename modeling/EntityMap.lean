import EntityMap.Declaration.Table
import EntityMap.Execution.Script
import EntityMap.Locator.Lemmas
import EntityMap.Locator.Memo
import EntityMap.Proofs.Declaration.Alignment
import EntityMap.Proofs.Declaration.Tags
import EntityMap.Proofs.Entity.CrossedColumns
import EntityMap.Proofs.Entity.RelationCount
import EntityMap.Proofs.Entity.Spellings
import EntityMap.Proofs.Entity.UnknownTokens
import EntityMap.Proofs.Execution.AtomicLoading
import EntityMap.Proofs.Execution.Checked
import EntityMap.Proofs.Execution.Conflict
import EntityMap.Proofs.Execution.FilledKeys
import EntityMap.Proofs.Execution.ForeignRecords
import EntityMap.Proofs.Execution.GeneratedKeys
import EntityMap.Proofs.Execution.Interleaving
import EntityMap.Proofs.Execution.Loading
import EntityMap.Proofs.Execution.Locking
import EntityMap.Proofs.Execution.Navigation
import EntityMap.Proofs.Execution.PlannedReconciliation
import EntityMap.Proofs.Execution.Reconciliation
import EntityMap.Proofs.Record.ShadowedColumns
import EntityMap.Proofs.Record.Writing
import EntityMap.Proofs.Schema.RememberedLookups
import EntityMap.Proofs.Statement.Addressing
import EntityMap.Proofs.Statement.Renaming
import EntityMap.Proofs.Statement.Updates
import EntityMap.Proofs.Statement.Writes
import EntityMap.Record.Assign
import EntityMap.Record.Lemmas
import EntityMap.Settings
import EntityMap.Statement.Reconciliation
import EntityMap.Uuid
