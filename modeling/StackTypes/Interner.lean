/-
The interner: for each sequence of two or more atomic types at most one registered composite, in the
order of first registration. Registration only appends, so a composite keeps its place and members.
-/
import StackTypes.Ty

namespace StackTypes

/-- Which interner it is, and the member sequences it has registered, in order. -/
structure Interner where
  home : Home
  rows : List (List Atomic) := []
deriving DecidableEq, Repr

namespace Interner

/-- The shared interner before anything is registered. -/
def shared : Interner := { home := .shared }

/-- The registered composites in order. -/
def composites (it : Interner) : List Composite :=
  it.rows.mapIdx fun i members => ⟨it.home, i, members⟩

/-- How many composites are registered. -/
def size (it : Interner) : Nat :=
  it.rows.length

/-- The type of a member sequence: none gives `void`, one gives itself, and two or more give their
composite, registered now unless it is already. -/
def of (it : Interner) : List Atomic → Ty × Interner
  | [] => (.atomic .void, it)
  | [a] => (.atomic a, it)
  | members =>
    match it.rows.idxOf? members with
    | some i => (.composite ⟨it.home, i, members⟩, it)
    | none =>
      (.composite ⟨it.home, it.rows.length, members⟩, { it with rows := it.rows ++ [members] })

end Interner

end StackTypes
