import BatchEval.Main
import BatchEval.Session
import BatchEval.Proofs.StagedResults
import BatchEval.Proofs.Batching
import BatchEval.Proofs.Session
import BatchEval.Proofs.Stride
import BatchEval.Proofs.Evaluation
import BatchEval.Proofs.Overlay
import BatchEval.Proofs.Lifecycle
import BatchEval.Proofs.Refusal
import BatchEval.Proofs.Sweep
import BatchEval.Proofs.AllOrNothing
import BatchEval.Proofs.Requests
import BatchEval.Proofs.Limits
import BatchEval.Proofs.Versions
import BatchEval.Proofs.CommandLine
import BatchEval.Proofs.Release
import BatchEval.Proofs.Verbosity
import BatchEval.Proofs.Names
import BatchEval.Proofs.Square
