import RowReader.Main
import RowReader.ByteFile.Scripted
import RowReader.Pass.Session
import RowReader.Remote.Scripted
import RowReader.RowFile.Session
import RowReader.Schema.Settings
import RowReader.Source.Scripted
import RowReader.Proofs.Source.Record
import RowReader.Proofs.Pass.Materialize
import RowReader.Proofs.Source.Listed
import RowReader.Proofs.Pass.Owed
import RowReader.Proofs.Pass.Lazy
import RowReader.Proofs.Pass.Closing
import RowReader.Proofs.ByteFile.Framing
import RowReader.Proofs.ByteFile.Layout
import RowReader.Proofs.ByteFile.Honest
import RowReader.Proofs.World.Stored
import RowReader.Proofs.Action.Collect
import RowReader.Proofs.RowGroup
import RowReader.Proofs.RowGroup.Answers
import RowReader.Proofs.Reader.Ready
import RowReader.Proofs.Reader.Groups
import RowReader.Proofs.Decoded.Fields
import RowReader.Proofs.RowFile.Read
import RowReader.Proofs.Reader.Requests
import RowReader.Proofs.Remote.Cursor
import RowReader.Proofs.Remote.History
import RowReader.Proofs.Remote.Holding
import RowReader.Proofs.Remote.RangeFile
import RowReader.Proofs.Remote.Recency
import RowReader.Proofs.Remote.Recovery
import RowReader.Proofs.Remote.Refinement
import RowReader.Proofs.Remote.Scripted
import RowReader.Proofs.Action.Corresponds
import RowReader.Proofs.Pass.Matching
import RowReader.Proofs.Reader.Settled
import RowReader.Proofs.Reader.Twins
import RowReader.Proofs.RowFile.Stream
import RowReader.Proofs.RowFile.Opening
import RowReader.Proofs.World.Ranged
import RowReader.Proofs.Action.Confined
import RowReader.Proofs.Remote.Failures
import RowReader.Proofs.World.Connecting
import RowReader.Proofs.RowFile.Places
import RowReader.Proofs.Faults
import RowReader.Proofs.Reader.Failures
import RowReader.Proofs.RowFile.Failures
import RowReader.Proofs.ByteFile.Record
import RowReader.Proofs.Reader.Lifetime
import RowReader.Proofs.Reader.Closing
import RowReader.Proofs.Reader.Container
import RowReader.Proofs.Reader.Opening
import RowReader.Proofs.RowFile.Projection
import RowReader.Proofs.RowFile.Totals
import RowReader.Proofs.FileSystem
import RowReader.Proofs.Number.Numeral
import RowReader.Proofs.Plain.Json
import RowReader.Proofs.Command.Invocation
import RowReader.Proofs.Report
import RowReader.Proofs.Report.Table
import RowReader.Proofs.Plain.Reading
import RowReader.Proofs.Plain.ReadBack
import RowReader.Proofs.Plain.Distinct
import RowReader.Proofs.Plain.Lines
import RowReader.Proofs.Value.Parts
import RowReader.Proofs.Row.Dictionary
import RowReader.Proofs.Plain.Reduction
import RowReader.Proofs.Dataset
import RowReader.Proofs.Plain.Grammar
import RowReader.Proofs.Number.Finite
import RowReader.Proofs.Plain.Valid
import RowReader.Proofs.Reader.Reach
import RowReader.Proofs.RowFile.Gather
import RowReader.Proofs.RowFile.Rows
import RowReader.Proofs.Command.Rows
import RowReader.Proofs.Action.InStep
import RowReader.Proofs.Reader.Alongside
import RowReader.Proofs.World.Counted
import RowReader.Proofs.RowFile.Apart
import RowReader.Proofs.RowFile.Session
import RowReader.Proofs.Report.Valid
import RowReader.Proofs.Pass.Informed
import RowReader.Proofs.Pass.Single
import RowReader.Proofs.Decoded.Tree
import RowReader.Proofs.ByteFile.Scripted
import RowReader.Proofs.Reader.Answers
import RowReader.Proofs.Reader.Attempts
import RowReader.Proofs.Reader.Retrying
import RowReader.Proofs.Reader.Limit
import RowReader.Proofs.Reader.Onward
import RowReader.Proofs.RowFile.Limit
import RowReader.Proofs.Remote.Bounds
import RowReader.Proofs.Report.Columns
import RowReader.Proofs.Row.Access
import RowReader.Proofs.Action.Upholds
import RowReader.Proofs.Options
import RowReader.Proofs.Pass.Named
import RowReader.Proofs.RowFile.Named
