import ChainWatch.Api.Route
import ChainWatch.Health.Monitor
import ChainWatch.Main
import ChainWatch.Store.Intervention
import ChainWatch.Proofs.Rollback
import ChainWatch.Proofs.Effect
import ChainWatch.Proofs.Replay
import ChainWatch.Proofs.StartOver
import ChainWatch.Proofs.Frame
import ChainWatch.Proofs.Ledger
import ChainWatch.Proofs.Segmentation
import ChainWatch.Proofs.Contents
import ChainWatch.Proofs.Monitoring
import ChainWatch.Proofs.Volumes
import ChainWatch.Proofs.Totals
import ChainWatch.Proofs.Aggregate
import ChainWatch.Proofs.Orphans
import ChainWatch.Proofs.Relief
import ChainWatch.Proofs.SharedLedger
import ChainWatch.Proofs.Snapshots
import ChainWatch.Proofs.Interchange
import ChainWatch.Proofs.Days
import ChainWatch.Proofs.Activity
import ChainWatch.Proofs.Adoption
import ChainWatch.Proofs.Encoding
import ChainWatch.Proofs.Escaping
import ChainWatch.Proofs.History
import ChainWatch.Proofs.Printing
import ChainWatch.Proofs.BlockText
import ChainWatch.Proofs.Separation
import ChainWatch.Proofs.Acceptance
import ChainWatch.Proofs.Positions
import ChainWatch.Proofs.Recorded
import ChainWatch.Proofs.Summary
import ChainWatch.Proofs.SideRows
import ChainWatch.Proofs.Refusals
import ChainWatch.Proofs.RefusedRows
import ChainWatch.Proofs.Failures
import ChainWatch.Proofs.Blame
import ChainWatch.Proofs.Documents
import ChainWatch.Proofs.Liveness
import ChainWatch.Proofs.Heights
import ChainWatch.Proofs.Masking
import ChainWatch.Proofs.Payloads
import ChainWatch.Proofs.Exactness
