import ScriptStreams.AddressSpace
import ScriptStreams.Bytes
import ScriptStreams.Config
import ScriptStreams.Device
import ScriptStreams.Event
import ScriptStreams.Files
import ScriptStreams.Handle
import ScriptStreams.Keyed
import ScriptStreams.Lock
import ScriptStreams.Lock.Board
import ScriptStreams.Memory
import ScriptStreams.Method
import ScriptStreams.Proofs.Custody
import ScriptStreams.Proofs.Moves
import ScriptStreams.Proofs.Reach
import ScriptStreams.Proofs.Registry
import ScriptStreams.Proofs.SessionMoves
import ScriptStreams.Scratch
import ScriptStreams.Scratch.Shelf
import ScriptStreams.Session.Basic
import ScriptStreams.Session.FileStep
import ScriptStreams.Session.HandleStep
import ScriptStreams.Session.Script
import ScriptStreams.Session.TableStep
import ScriptStreams.Source
import ScriptStreams.Table
import ScriptStreams.Text.GraphemeExtend
import ScriptStreams.Text.Nonprinting
import ScriptStreams.Text.Numeral
import ScriptStreams.Text.Quoted
import ScriptStreams.Text.Utf8
import ScriptStreams.Value
import ScriptStreams.World
import ScriptStreams.Proofs.Loading
import ScriptStreams.Proofs.Replacement
import ScriptStreams.Proofs.Simulation
import ScriptStreams.Proofs.NegativeLoad
import ScriptStreams.Proofs.Backing
import ScriptStreams.Proofs.Answers
import ScriptStreams.Proofs.Uniform
import ScriptStreams.Proofs.History
import ScriptStreams.Proofs.Lookups
import ScriptStreams.Proofs.TableRuns
import ScriptStreams.Proofs.ExactLoad
import ScriptStreams.Proofs.Accounting
import ScriptStreams.Proofs.Freshness
import ScriptStreams.Proofs.CallFaults
import ScriptStreams.Proofs.Windows
import ScriptStreams.Proofs.LockBoards
import ScriptStreams.Proofs.NestedWindows
import ScriptStreams.Proofs.DeviceAnswers
import ScriptStreams.Proofs.Independence
import ScriptStreams.Proofs.Exchange
import ScriptStreams.Proofs.Opening
import ScriptStreams.Proofs.Attaching
import ScriptStreams.Proofs.Spans
import ScriptStreams.Proofs.Draining
import ScriptStreams.Proofs.Records
import ScriptStreams.Proofs.Extent
import ScriptStreams.Proofs.ByteMap
import ScriptStreams.Proofs.ByteReads
import ScriptStreams.Proofs.PastEnd
import ScriptStreams.Proofs.Walks
import ScriptStreams.Proofs.Mapping
import ScriptStreams.Proofs.WindowWords
import ScriptStreams.Proofs.UnknownSize
import ScriptStreams.Proofs.ByteOrder
import ScriptStreams.Proofs.PoolRuns
import ScriptStreams.Proofs.Chunking
import ScriptStreams.Proofs.Refusals
import ScriptStreams.Proofs.Consumption
import ScriptStreams.Proofs.DisplayNames
import ScriptStreams.Proofs.HeapCharges
import ScriptStreams.Proofs.RemoteRoots
import ScriptStreams.Proofs.Filling
import ScriptStreams.Proofs.Signatures
