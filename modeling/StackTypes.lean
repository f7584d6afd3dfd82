import StackTypes.Main
import StackTypes.Proofs.Cast.Spine
import StackTypes.Proofs.Descriptor.Balance
import StackTypes.Proofs.Param.Agreement
import StackTypes.Proofs.Param.Extension
import StackTypes.Proofs.Warmup.Release
import StackTypes.Proofs.Descriptor.Display
import StackTypes.Proofs.Expr.Alike
import StackTypes.Proofs.History
import StackTypes.Proofs.Cast.Result
import StackTypes.Proofs.Cast.Call
import StackTypes.Proofs.Descriptor.Again
import StackTypes.Proofs.Expr.Unambiguous
import StackTypes.Proofs.Expr.Packed
import StackTypes.Proofs.Command.Casting
import StackTypes.Proofs.Command.Attributes
import StackTypes.Proofs.Command.Failure
import StackTypes.Proofs.Cast.Character
import StackTypes.Proofs.Config
import StackTypes.Proofs.Warmup.Configured
import StackTypes.Proofs.Descriptor.Boundary
import StackTypes.Proofs.Interner.Several
import StackTypes.Proofs.Ty
