import Recompiler.Backend.Either
import Recompiler.Exchange.Json
import Recompiler.Exchange.Report
import Recompiler.Opcode.Table
import Recompiler.Session
import Recompiler.Proofs.Guest.Instruction
import Recompiler.Proofs.Loop.Trace
import Recompiler.Proofs.Loop.Result
import Recompiler.Proofs.Pacing.Counter
import Recompiler.Proofs.Pacing.Ledger
import Recompiler.Proofs.Pacing.Starvation
import Recompiler.Proofs.Loop.Reentry
import Recompiler.Proofs.Pacing.Independence
import Recompiler.Proofs.Loop.Record
import Recompiler.Proofs.Guest.Projection
import Recompiler.Proofs.Guest.Invariant
import Recompiler.Proofs.Loop.Invariant
import Recompiler.Proofs.Loop.Projection
import Recompiler.Proofs.Opcode.FloatGate
import Recompiler.Proofs.Arena.Bytes
import Recompiler.Proofs.Arena.Generation
import Recompiler.Proofs.Arena.Units
import Recompiler.Proofs.Opcode.Pattern
import Recompiler.Proofs.Opcode.Registration
import Recompiler.Proofs.Session.Calls
import Recompiler.Proofs.Session.Compilation
import Recompiler.Proofs.Session.Separation
import Recompiler.Proofs.Exception.Registers
import Recompiler.Proofs.Guest.DelaySlot
import Recompiler.Proofs.Opcode.NestedBranch
import Recompiler.Proofs.Loop.FailedFetch
import Recompiler.Proofs.Session.Hooks
import Recompiler.Proofs.Pacing.FlatCost
import Recompiler.Proofs.Guest.Depth
import Recompiler.Proofs.Guest.Supply
import Recompiler.Proofs.Loop.Supply
import Recompiler.Proofs.Opcode.Grammar
import Recompiler.Proofs.Session.Binding
import Recompiler.Proofs.Session.Placement
import Recompiler.Proofs.Arena.Views
import Recompiler.Proofs.Arena.Liveness
import Recompiler.Proofs.Session.Halt
import Recompiler.Proofs.Session.Overlap
import Recompiler.Proofs.Session.RunLog
import Recompiler.Proofs.Exception.Status
