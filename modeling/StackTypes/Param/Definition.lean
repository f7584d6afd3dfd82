/-
Stored definitions: a parameter as a stream of fields, each an opcode with its operand, closed by a
zero byte. A later field of the same kind replaces an earlier one, and what follows the closing byte
does not matter. A stream that breaks off or holds an unknown opcode still gives the fields before
the break.
-/
import StackTypes.Param.Record
import StackTypes.Text.Numeral
import StackTypes.Text.Windows1252

namespace StackTypes.Param

/-- A field of a definition. -/
inductive Field where
  /-- The descriptor of the values, as a Windows-1252 byte. -/
  | stackType (b : UInt8)
  /-- The default number, its most significant byte first. -/
  | defaultInt (b₁ b₂ b₃ b₄ : UInt8)
  /-- The parameter does not switch itself off. -/
  | noAutoDisable
  /-- The default text, in Windows-1252 and without zero bytes. -/
  | defaultString (s : Bytes)
deriving DecidableEq, Repr

namespace Field

/-- The 32-bit number of four bytes, the most significant first. -/
def bigEndian (b₁ b₂ b₃ b₄ : UInt8) : Int32 :=
  Int32.ofNat (((b₁.toNat * 256 + b₂.toNat) * 256 + b₃.toNat) * 256 + b₄.toNat)

/-- The record after a field. -/
def apply (r : Record) : Field → Record
  | .stackType b => { r with stackType := Int32.ofNat (Windows1252.decode b) }
  | .defaultInt b₁ b₂ b₃ b₄ => { r with defaultInt := bigEndian b₁ b₂ b₃ b₄ }
  | .noAutoDisable => { r with autoDisable := false }
  | .defaultString s => { r with defaultString := Windows1252.decodeText s }

/-- The bytes of a field. -/
def encode : Field → Bytes
  | .stackType b => [1, b]
  | .defaultInt b₁ b₂ b₃ b₄ => [2, b₁, b₂, b₃, b₄]
  | .noAutoDisable => [4]
  | .defaultString s => [5] ++ s ++ [0]

end Field

/-- The part of a definition in which the bytes ran out. -/
inductive Part where
  | opcode
  | stackType
  | defaultInt
  | defaultString
deriving DecidableEq, Repr

/-- How the fields of a stream come to an end. -/
inductive Ending where
  /-- The closing byte. -/
  | closed
  /-- The bytes ran out. -/
  | truncated (part : Part)
  /-- A byte that starts no field. -/
  | unknown (opcode : UInt8)
deriving DecidableEq, Repr

/-- What a stream starts with: a field and the bytes after it, or its end. -/
inductive Start where
  | field (f : Field) (rest : Bytes)
  | ending (e : Ending)
deriving DecidableEq, Repr

/-- The first field of a stream. -/
def Start.read : Bytes → Start
  | [] => .ending (.truncated .opcode)
  | 0 :: _ => .ending .closed
  | 1 :: s =>
    match s with
    | b :: rest => .field (.stackType b) rest
    | [] => .ending (.truncated .stackType)
  | 2 :: s =>
    match s with
    | b₁ :: b₂ :: b₃ :: b₄ :: rest => .field (.defaultInt b₁ b₂ b₃ b₄) rest
    | _ => .ending (.truncated .defaultInt)
  | 4 :: s => .field .noAutoDisable s
  | 5 :: s =>
    match s.dropWhile (· != 0) with
    | _ :: rest => .field (.defaultString (s.takeWhile (· != 0))) rest
    | [] => .ending (.truncated .defaultString)
  | op :: _ => .ending (.unknown op)

theorem Start.length_read {s rest : Bytes} {f : Field} (h : Start.read s = .field f rest) :
    rest.length < s.length := by
  unfold Start.read at h
  split at h
  · cases h
  · cases h
  · split at h <;> cases h
    simp only [List.length_cons]; omega
  · split at h <;> cases h
    simp only [List.length_cons]; omega
  · cases h; simp
  · rename_i s
    split at h <;> cases h
    rename_i b hb
    have := (List.dropWhile_sublist (fun x : UInt8 => x != 0) (l := s)).length_le
    rw [hb] at this
    simp only [List.length_cons] at *
    omega
  · cases h

/-- All fields of a stream up to its end. -/
def readFields (s : Bytes) : List Field × Ending :=
  match _h : Start.read s with
  | .ending e => ([], e)
  | .field f rest =>
    let (fs, e) := readFields rest
    (f :: fs, e)
termination_by s.length
decreasing_by exact Start.length_read (by assumption)

/-- Why a definition cannot be read to its end. -/
inductive DefinitionError where
  | truncated (id : Int64) (part : Part)
  | unknownOpcode (id : Int64) (opcode : UInt8) (offset : Nat)
deriving DecidableEq, Repr

/-- The part named in front of an error, if the bytes ran out inside a field. -/
def Part.text : Part → Bytes
  | .opcode => []
  | .stackType => utf8 "stack type: "
  | .defaultInt => utf8 "default int: "
  | .defaultString => utf8 "default string: "

/-- The text of a definition error. -/
def DefinitionError.message : DefinitionError → Bytes
  | .truncated id part =>
    utf8 "param " ++ Numeral.ofInt id.toInt ++ utf8 ": " ++ part.text
      ++ utf8 "params: truncated definition"
  | .unknownOpcode id opcode offset =>
    utf8 "param " ++ Numeral.ofInt id.toInt ++ utf8 ": unknown opcode "
      ++ Numeral.ofNat opcode.toNat ++ utf8 " at offset " ++ Numeral.ofNat offset

/-- The bytes of fields one after the other. -/
def encodeFields (fs : List Field) : Bytes :=
  fs.flatMap Field.encode

/-- The record that the fields of a stream build up, and what is wrong with the stream. -/
def decode (id : Int64) (s : Bytes) : Record × Option DefinitionError :=
  let (fs, e) := readFields s
  let r := fs.foldl Field.apply { id := id }
  match e with
  | .closed => (r, none)
  | .truncated part => (r, some (.truncated id part))
  | .unknown op => (r, some (.unknownOpcode id op (encodeFields fs).length))

/-- The record of a definition that can be read to its end. -/
def decode? (id : Int64) (s : Bytes) : Except DefinitionError Record :=
  match decode id s with
  | (r, none) => .ok r
  | (_, some e) => .error e

end StackTypes.Param
