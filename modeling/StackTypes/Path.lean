/-
Paths as text: names divided by slashes. A path is cleaned by the text alone: single dots and empty
names go away, and a name goes away with the double dot after it.
-/
import StackTypes.Text.Bytes

namespace StackTypes.Path

/-- A slash. -/
def slash : UInt8 := 0x2F

/-- The parts of a text between slashes. -/
def split : Bytes → List Bytes
  | [] => [[]]
  | c :: s =>
    match split s with
    | part :: parts => if c = slash then [] :: part :: parts else (c :: part) :: parts
    | [] => [[c]]

/-- Does the path start at the root? -/
def isAbsolute (p : Bytes) : Bool :=
  p.head? == some slash

/-- The name of the directory itself. -/
def here : Bytes := utf8 "."

/-- The name of the directory above. -/
def above : Bytes := utf8 ".."

/-- One more name after names that are clean, the last of them first. -/
def cleanStep (rooted : Bool) (names : List Bytes) (name : Bytes) : List Bytes :=
  if name = [] ∨ name = here then names
  else if name = above then
    match names with
    | [] => if rooted then [] else [above]
    | last :: rest => if last = above then above :: last :: rest else rest
  else name :: names

/-- The shortest path with the same names. -/
def clean (p : Bytes) : Bytes :=
  let rooted := isAbsolute p
  let names := ((split p).foldl (cleanStep rooted) []).reverse
  if rooted then slash :: Bytes.joinWith [slash] names
  else if names.isEmpty then here
  else Bytes.joinWith [slash] names

/-- The directory that holds what the path names. -/
def dir (p : Bytes) : Bytes :=
  clean (p.reverse.dropWhile (· != slash)).reverse

/-- A path as seen from a directory. -/
def join (directory p : Bytes) : Bytes :=
  clean (directory ++ [slash] ++ p)

/-- The names from the root on that a path leads to by its text alone. -/
def namesFrom (directory : List Bytes) (p : Bytes) : List Bytes :=
  let start := if isAbsolute p then [] else directory.reverse
  ((split p).foldl (cleanStep true) start).reverse

/-- The path up to each of its names, the shortest first. -/
def leads (p : Bytes) : List Bytes :=
  let parts := split p
  (List.range parts.length).map fun n => Bytes.joinWith [slash] (parts.take (n + 1))

end StackTypes.Path
