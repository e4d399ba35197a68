import EventRollup.Main
import EventRollup.Proofs.Isolation
import EventRollup.Proofs.Number.Rounding
import EventRollup.Proofs.Pipeline.Projections
import EventRollup.Proofs.Pipeline.Vocabulary
import EventRollup.Proofs.Query.Arrival
import EventRollup.Proofs.Query.Identity
import EventRollup.Proofs.Query.Integers
import EventRollup.Proofs.Query.Redating
import EventRollup.Proofs.Query.Respelling
import EventRollup.Proofs.Query.RollUp
import EventRollup.Proofs.Query.Series
import EventRollup.Proofs.Query.Timestamps
import EventRollup.Proofs.Session
import EventRollup.Proofs.Store.Comparisons
import EventRollup.Proofs.Store.Index
import EventRollup.Proofs.StoreCalls
import EventRollup.Proofs.Time.WrittenForms
import EventRollup.Proofs.Visibility
