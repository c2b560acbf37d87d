import SecretAccess.Access.Rows
import SecretAccess.Schema.Tables
import SecretAccess.Startup
import SecretAccess.Transaction.Script
import SecretAccess.Proofs.Store.Journal
import SecretAccess.Proofs.Store.Return
import SecretAccess.Proofs.Store.Writes
import SecretAccess.Proofs.Store.WellFormed
import SecretAccess.Proofs.Store.Edges
import SecretAccess.Proofs.Transaction.Call
import SecretAccess.Proofs.Transaction.Run
import SecretAccess.Proofs.Transaction.Serial
import SecretAccess.Proofs.Transaction.Tickets
import SecretAccess.Proofs.Transaction.Rollback
import SecretAccess.Proofs.Access.Gather
import SecretAccess.Proofs.Access.Listing
import SecretAccess.Proofs.Access.Effect
import SecretAccess.Proofs.Access.View
import SecretAccess.Proofs.Access.Converse
import SecretAccess.Proofs.Transaction.Restored
import SecretAccess.Proofs.Transaction.Found
import SecretAccess.Proofs.Transaction.Interleaved
import SecretAccess.Proofs.Transaction.Lasting
import SecretAccess.Proofs.Transaction.InTurn
import SecretAccess.Proofs.Transaction.Chained
import SecretAccess.Proofs.Store.Same
import SecretAccess.Proofs.Access.RowOrder
import SecretAccess.Proofs.Transaction.Batch
import SecretAccess.Proofs.Access.Verdict
import SecretAccess.Proofs.Schema.Enforced
import SecretAccess.Proofs.Postgres.Ordered
import SecretAccess.Proofs.Transaction.Cascade
import SecretAccess.Proofs.Access.Reasons
import SecretAccess.Proofs.Access.Counts
import SecretAccess.Proofs.Transaction.Drawn
import SecretAccess.Proofs.Access.Collapse
import SecretAccess.Proofs.Access.Canonical
import SecretAccess.Proofs.Access.OneOrder
import SecretAccess.Proofs.Transaction.Shown
import SecretAccess.Proofs.Transaction.Apart
import SecretAccess.Proofs.Postgres.Sent
import SecretAccess.Proofs.Postgres.Created
import SecretAccess.Proofs.Config.Complaints
import SecretAccess.Proofs.Access.OneOrder
import SecretAccess.Transaction.Chain
import SecretAccess.Proofs.Transaction.Chain
