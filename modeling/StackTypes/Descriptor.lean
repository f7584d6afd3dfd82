/-
Textual descriptors: the display name of an atomic type, or a group `name{member, member, ...}` of
descriptors whose name does not matter. Reading a group registers its composite, and those of the
groups inside it before; what was registered stays registered when a later member cannot be read.
-/
import StackTypes.Interner
import StackTypes.Text.Blank

namespace StackTypes.Descriptor

/-- The byte that opens a group. -/
def openBrace : UInt8 := 0x7B

/-- The byte that closes a group. -/
def closeBrace : UInt8 := 0x7D

/-- The byte between two members. -/
def comma : UInt8 := 0x2C

/-- The nesting depth after a byte. -/
def depthAfter (depth : Int) (c : UInt8) : Int :=
  if c = openBrace then depth + 1 else if c = closeBrace then depth - 1 else depth

/-- `c` put in front of the first part. -/
def consFirst (c : UInt8) : List Bytes → List Bytes
  | [] => [[c]]
  | p :: ps => (c :: p) :: ps

/-- The parts between the commas at depth zero, for a text that starts at the given depth. -/
def splitFrom (depth : Int) : Bytes → List Bytes
  | [] => [[]]
  | c :: s =>
    if c = comma ∧ depth = 0 then [] :: splitFrom depth s
    else consFirst c (splitFrom (depthAfter depth c) s)

/-- The parts between the commas that are not inside braces. -/
def splitMembers (s : Bytes) : List Bytes :=
  splitFrom 0 s

/-- The text between the first opening brace and a closing brace at the end, blanks aside. -/
def body? (s : Bytes) : Option Bytes :=
  match s.dropWhile (· != openBrace) with
  | [] => none
  | _ :: tail =>
    let t := Blank.trim tail
    if t.getLast? = some closeBrace then some t.dropLast else none

theorem length_le_of_mem_consFirst {c : UInt8} {ps : List Bytes} {p : Bytes} {n : Nat}
    (h : ∀ q ∈ ps, q.length ≤ n) (hp : p ∈ consFirst c ps) : p.length ≤ n + 1 := by
  cases ps with
  | nil =>
    simp only [consFirst, List.mem_singleton] at hp
    subst hp
    simp
  | cons q qs =>
    simp only [consFirst, List.mem_cons] at hp
    rcases hp with rfl | hp
    · simpa using h q (by simp)
    · exact Nat.le_succ_of_le (h p (by simp [hp]))

theorem length_le_of_mem_splitFrom {depth : Int} {s p : Bytes} (h : p ∈ splitFrom depth s) :
    p.length ≤ s.length := by
  induction s generalizing depth p with
  | nil => simp_all [splitFrom]
  | cons c s ih =>
    simp only [splitFrom] at h
    split at h
    · rcases List.mem_cons.1 h with rfl | h
      · simp
      · exact Nat.le_succ_of_le (ih h)
    · exact length_le_of_mem_consFirst (fun q hq => ih hq) h

theorem length_body?_lt {s b : Bytes} (h : body? s = some b) : b.length < s.length := by
  unfold body? at h
  split at h
  · cases h
  · rename_i c tail hd
    have hlen := (List.dropWhile_sublist (fun x : UInt8 => x != openBrace) (l := s)).length_le
    rw [hd] at hlen
    have htrim := Blank.length_trim_le tail
    simp only at h
    split at h
    · cases h
      simp only [List.length_dropLast, List.length_cons] at *
      omega
    · cases h

/-- A member of a group is shorter than the group. -/
theorem length_trim_lt {s b p : Bytes} (hb : body? s = some b) (hp : p ∈ splitMembers b) :
    (Blank.trim p).length < s.length := by
  have hpart := length_le_of_mem_splitFrom hp
  have htrim := Blank.length_trim_le p
  have hbody := length_body?_lt hb
  omega

/-- The atomic members of a group: its parts read by `read` from left to right, as far as they can
be. -/
def readMembers (read : Bytes → Interner → Option Ty × Interner) :
    List Bytes → Interner → Option (List Atomic) × Interner
  | [], it => (some [], it)
  | p :: ps, it =>
    match read (Blank.trim p) it with
    | (none, it) => (none, it)
    | (some t, it) =>
      match readMembers read ps it with
      | (none, it) => (none, it)
      | (some members, it) => (some (t.flatten ++ members), it)

/-- The type that a descriptor with groups less than `depth` deep stands for, if it can be read, and
the interner afterwards. -/
def parseWithin : (depth : Nat) → Bytes → Interner → Option Ty × Interner
  | 0, _, it => (none, it)
  | depth + 1, s, it =>
    match Atomic.ofName? s with
    | some a => (some (.atomic a), it)
    | none =>
      match body? s with
      | none => (none, it)
      | some b =>
        match readMembers (parseWithin depth) (splitMembers b) it with
        | (none, it) => (none, it)
        | (some members, it) =>
          let (t, it) := it.of members
          (some t, it)

/-- The type that a descriptor stands for, if it can be read, and the interner afterwards. No text
is nested deeper than it is long. -/
def parse (s : Bytes) (it : Interner) : Option Ty × Interner :=
  parseWithin (s.length + 1) s it

theorem readMembers_congr {f g : Bytes → Interner → Option Ty × Interner} {parts : List Bytes}
    (h : ∀ p ∈ parts, ∀ it, f (Blank.trim p) it = g (Blank.trim p) it) (it : Interner) :
    readMembers f parts it = readMembers g parts it := by
  induction parts generalizing it with
  | nil => rfl
  | cons p ps ih =>
    have hps : ∀ it, readMembers f ps it = readMembers g ps it :=
      ih fun q hq => h q (List.mem_cons_of_mem p hq)
    simp only [readMembers, h p List.mem_cons_self, hps]

theorem parseWithin_eq_parseWithin {m n : Nat} {s : Bytes} (hm : s.length < m) (hn : s.length < n)
    (it : Interner) : parseWithin m s it = parseWithin n s it := by
  induction m generalizing n s it with
  | zero => omega
  | succ m ih =>
    obtain ⟨n, rfl⟩ := Nat.exists_eq_add_of_lt (Nat.lt_of_le_of_lt (Nat.zero_le _) hn)
    rw [Nat.zero_add] at hn ⊢
    unfold parseWithin
    cases Atomic.ofName? s with
    | some a => rfl
    | none =>
      cases hb : body? s with
      | none => rfl
      | some b =>
        have hread : readMembers (parseWithin m) (splitMembers b) it =
            readMembers (parseWithin n) (splitMembers b) it := by
          refine readMembers_congr (fun p hp it => ih ?_ ?_ it) it <;>
          · have hlt := length_trim_lt hb hp
            omega
        simp only [hread]

/-- Reading a descriptor reads its members in the same way. -/
theorem parse_eq (s : Bytes) (it : Interner) :
    parse s it =
      match Atomic.ofName? s with
      | some a => (some (.atomic a), it)
      | none =>
        match body? s with
        | none => (none, it)
        | some b =>
          match readMembers parse (splitMembers b) it with
          | (none, it) => (none, it)
          | (some members, it) => (some (it.of members).1, (it.of members).2) := by
  rw [parse, parseWithin]
  cases Atomic.ofName? s with
  | some a => rfl
  | none =>
    cases hb : body? s with
    | none => rfl
    | some b =>
      have hread : readMembers (parseWithin s.length) (splitMembers b) it =
          readMembers parse (splitMembers b) it := by
        refine readMembers_congr (fun p hp it => ?_) it
        exact parseWithin_eq_parseWithin (length_trim_lt hb hp) (Nat.lt_succ_self _) it
      simp only [hread]

end StackTypes.Descriptor
