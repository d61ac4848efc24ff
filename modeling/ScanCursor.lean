import ScanCursor.Word
import ScanCursor.Location
import ScanCursor.Span
import ScanCursor.Source
import ScanCursor.Text
import ScanCursor.Collection
import ScanCursor.Unicode.CodeRange
import ScanCursor.Unicode.Category
import ScanCursor.Unicode.DefaultIgnorable
import ScanCursor.Unicode.GraphemeExtend
import ScanCursor.Unicode.Unassigned
import ScanCursor.Quoted
import ScanCursor.Item
import ScanCursor.Diagnostic
import ScanCursor.Counter
import ScanCursor.Cursor
import ScanCursor.Trace
import ScanCursor.Scan.Basic
import ScanCursor.Judge
import ScanCursor.Scan.Loop
import ScanCursor.Scan.Judged
import ScanCursor.Scan.Speculation
import ScanCursor.Bench
import ScanCursor.Script.Reply
import ScanCursor.Script.Test
import ScanCursor.Script.Basic
import ScanCursor.Proofs.Session
import ScanCursor.Proofs.Simulation
import ScanCursor.Proofs.Lockstep
import ScanCursor.Proofs.Transparency
import ScanCursor.Proofs.Invariant
import ScanCursor.Proofs.Stretch
import ScanCursor.Proofs.Place
import ScanCursor.Proofs.Erasure
import ScanCursor.Proofs.Lineage
import ScanCursor.Proofs.Extent
import ScanCursor.Proofs.Lines
import ScanCursor.Proofs.Views
import ScanCursor.Proofs.Stacked
import ScanCursor.Proofs.Tally
import ScanCursor.Proofs.Room
import ScanCursor.Proofs.Course
import ScanCursor.Proofs.Layers
import ScanCursor.Proofs.Replay
import ScanCursor.Proofs.Order
import ScanCursor.Proofs.Slice
import ScanCursor.Proofs.Tiling
import ScanCursor.Proofs.Greedy
import ScanCursor.Proofs.Ending
import ScanCursor.Proofs.Expecting
import ScanCursor.Proofs.Suffix
import ScanCursor.Proofs.Trial
import ScanCursor.Proofs.Lookahead
import ScanCursor.Proofs.Exhaustion
import ScanCursor.Proofs.Display
import ScanCursor.Proofs.Legible
import ScanCursor.Proofs.Readback
import ScanCursor.Proofs.Sentinel
import ScanCursor.Proofs.Shift
import ScanCursor.Proofs.Moves
