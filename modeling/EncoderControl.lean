import EncoderControl.Session
import EncoderControl.Proofs.Ring.Entries
import EncoderControl.Proofs.Ring.Operations
import EncoderControl.Proofs.Ring.Edits
import EncoderControl.Proofs.Ring.Ledger
import EncoderControl.Proofs.Ring.Queue
import EncoderControl.Proofs.Ring.Service
import EncoderControl.Proofs.Ring.Order
import EncoderControl.Proofs.Ring.Turning
import EncoderControl.Proofs.Ring.Storage
import EncoderControl.Proofs.Ring.Replacement
import EncoderControl.Proofs.ReferenceSet.Table
import EncoderControl.Proofs.ReferenceSet.Decoding
import EncoderControl.Proofs.ReferenceSet.Derivation
import EncoderControl.Proofs.ReferenceSet.Shape
import EncoderControl.Proofs.ReferenceSet.Selection
import EncoderControl.Proofs.ReferenceSet.Comparison
import EncoderControl.Proofs.ReferenceSet.Reports
import EncoderControl.Proofs.ReferenceSet.Automatic
import EncoderControl.Proofs.ReferenceSet.Sorting
import EncoderControl.Proofs.ReferenceSet.Explicit
import EncoderControl.Proofs.ReferenceSet.Expansion
import EncoderControl.Proofs.ReferenceSet.Leading
import EncoderControl.Proofs.Scheduler.Batching
import EncoderControl.Proofs.Session.Feeding
import EncoderControl.Proofs.Session.Runs
import EncoderControl.Proofs.Session.Handovers
import EncoderControl.Proofs.Session.Rejection
import EncoderControl.Proofs.Session.Capacity
import EncoderControl.Proofs.Session.Idling
import EncoderControl.Proofs.Session.Filling
import EncoderControl.Proofs.Session.Room
import EncoderControl.Proofs.Ring.Waiting
import EncoderControl.Proofs.Session.Presentation
import EncoderControl.Proofs.Session.Accounting
import EncoderControl.Proofs.Session.Tracing
import EncoderControl.Proofs.Session.Lifetime
import EncoderControl.Proofs.Session.Failure
import EncoderControl.Proofs.Session.Fields
import EncoderControl.Proofs.Ring.Latest
import EncoderControl.Proofs.Session.WaitingFields
import EncoderControl.Proofs.Session.Interlacing
import EncoderControl.Proofs.Frame.Separation
import EncoderControl.Proofs.Frame.Weaving
import EncoderControl.Proofs.Quantizer.Decisions
import EncoderControl.Proofs.Rate.Derivation
import EncoderControl.Proofs.Rate.Scaling
import EncoderControl.Proofs.Rate.Units
import EncoderControl.Proofs.Quantizer.Switching
import EncoderControl.Proofs.ParameterSet.Lookups
import EncoderControl.Proofs.Session.Retuning
import EncoderControl.Proofs.Session.Tuning
import EncoderControl.Proofs.Tiles.Partition
import EncoderControl.Proofs.Session.Flushing
import EncoderControl.Proofs.Session.Admissions
import EncoderControl.Proofs.Session.NamedSets
import EncoderControl.Proofs.Session.Machine
import EncoderControl.Proofs.Session.InputChecks
import EncoderControl.Proofs.ParameterSet.ActiveReferences
import EncoderControl.Proofs.Rate.Clock
import EncoderControl.Proofs.Session.Totality
import EncoderControl.Proofs.Quantizer.Initial
import EncoderControl.Proofs.Session.Polling
import EncoderControl.Proofs.Frame.Slices
import EncoderControl.Proofs.ReferenceSet.Edits
import EncoderControl.Proofs.Picture.Activity
