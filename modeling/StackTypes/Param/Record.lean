/-
Parameter records: what is known of a parameter once its definition has been read.
-/
import StackTypes.Text.Bytes

namespace StackTypes.Param

/-- A parameter: its id, the descriptor code of its values (zero if there is none), the default
values, and whether it switches itself off. -/
structure Record where
  id : Int64
  stackType : Int32 := 0
  defaultInt : Int32 := 0
  defaultString : Bytes := []
  autoDisable : Bool := true
deriving DecidableEq, Repr

end StackTypes.Param
