import RegisterMachine.ByteTable
import RegisterMachine.StoredProgram
import RegisterMachine.Proofs.Execution.Atomicity
import RegisterMachine.Proofs.Exact.Processor
import RegisterMachine.Proofs.Exact.Refinement
import RegisterMachine.Proofs.Exact.Run
import RegisterMachine.Proofs.Program.Listing
import RegisterMachine.Proofs.Source.Concatenation
import RegisterMachine.Proofs.Source.Remarked
import RegisterMachine.Proofs.Source.Retyped
import RegisterMachine.Proofs.Source.NormalForm
import RegisterMachine.Proofs.Source.Account
import RegisterMachine.Proofs.Program.Account
import RegisterMachine.Proofs.Literal.Value
import RegisterMachine.Proofs.Program.Concatenation
import RegisterMachine.Proofs.Execution.Silence
import RegisterMachine.Proofs.Machine.Repetition
import RegisterMachine.Proofs.Machine.Silence
import RegisterMachine.Proofs.Execution.Attempts
import RegisterMachine.Proofs.Execution.Fault
import RegisterMachine.Proofs.Execution.Alike
import RegisterMachine.Proofs.Execution.Footprint
import RegisterMachine.Proofs.Execution.Folding
import RegisterMachine.Proofs.Execution.Independence
import RegisterMachine.Proofs.Execution.LastWriter
import RegisterMachine.Proofs.Execution.Trichotomy
import RegisterMachine.Proofs.Machine.Failure
import RegisterMachine.Proofs.Machine.LogStream
import RegisterMachine.Proofs.Machine.Buffering
import RegisterMachine.Proofs.Execution.Cell
