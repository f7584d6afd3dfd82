/-
Stored definitions as a language. A stream is read as the fields it starts with, one after the other,
and what stands behind them decides how the reading ends: `Starts` says once what a stream can start
with, and `readFields_eq_iff` follows it through the whole stream. So a stream is accepted exactly when
it is fields, the closing byte and anything, and there is only one way to see it so.

The record of some fields is the fold over them. `Latest` says the same without a fold: the last field
of each kind decides, and where there is none the record has its initial value.
-/
import StackTypes.Param.Definition
import Mathlib.Data.List.TakeWhile

namespace StackTypes.Param

/-! ## What a stream starts with -/

/-- The bytes that mean something where a field may start. -/
def opcodes : List UInt8 := [0, 1, 2, 4, 5]

namespace Field

/-- The field can be written: its text does not hold the byte that ends it. -/
def Writable : Field → Prop
  | .defaultString s => 0 ∉ s
  | _ => True

/-- The part that an error names when the bytes of the field run out. -/
def part : Field → Part
  | .stackType _ => .stackType
  | .defaultInt .. => .defaultInt
  | .noAutoDisable => .opcode
  | .defaultString _ => .defaultString

end Field

/-- What a stream starts with, by its bytes. -/
inductive Starts : Bytes → Start → Prop
  | field {f : Field} (hf : f.Writable) (rest : Bytes) : Starts (f.encode ++ rest) (.field f rest)
  | closed (rest : Bytes) : Starts (0 :: rest) (.ending .closed)
  | empty : Starts [] (.ending (.truncated .opcode))
  | cut {f : Field} {s : Bytes} (hf : f.Writable) (missing : Bytes) (h : f.encode = s ++ missing)
      (hs : s ≠ []) (hm : missing ≠ []) : Starts s (.ending (.truncated f.part))
  | unknown {op : UInt8} (h : op ∉ opcodes) (rest : Bytes) :
      Starts (op :: rest) (.ending (.unknown op))

/-- A number that breaks off is the start of a whole one. -/
theorem exists_defaultInt_encode {s : Bytes} (h : s.length < 4) :
    ∃ f : Field, ∃ missing, f.Writable ∧ f.part = .defaultInt ∧ f.encode = 2 :: s ++ missing ∧
      missing ≠ [] := by
  match s, h with
  | [], _ => exact ⟨.defaultInt 0 0 0 0, [0, 0, 0, 0], trivial, rfl, rfl, by simp⟩
  | [b₁], _ => exact ⟨.defaultInt b₁ 0 0 0, [0, 0, 0], trivial, rfl, rfl, by simp⟩
  | [b₁, b₂], _ => exact ⟨.defaultInt b₁ b₂ 0 0, [0, 0], trivial, rfl, rfl, by simp⟩
  | [b₁, b₂, b₃], _ => exact ⟨.defaultInt b₁ b₂ b₃ 0, [0], trivial, rfl, rfl, by simp⟩

theorem starts_read (s : Bytes) : Starts s (Start.read s) := by
  -- one case for each opcode, and in it one for the bytes that may be missing
  unfold Start.read
  split
  · exact .empty
  · exact .closed _
  · split
    · rename_i b rest; exact .field (f := .stackType b) trivial rest
    · exact .cut (f := .stackType 0) trivial [0] rfl (by simp) (by simp)
  · split
    · rename_i b₁ b₂ b₃ b₄ rest; exact .field (f := .defaultInt b₁ b₂ b₃ b₄) trivial rest
    · rename_i s _ hs
      have hlen : s.length < 4 := by
        match s with
        | [] | [_] | [_, _] | [_, _, _] => simp
        | b₁ :: b₂ :: b₃ :: b₄ :: rest => exact absurd rfl (hs b₁ b₂ b₃ b₄ rest)
      obtain ⟨f, missing, hf, hp, h, hm⟩ := exists_defaultInt_encode hlen
      rw [← hp]
      exact .cut hf missing h (by simp) hm
  · rename_i s; exact .field (f := .noAutoDisable) trivial s
  · rename_i s
    split
    · rename_i b rest h
      obtain ⟨hz, hs⟩ := Bytes.eq_append_of_dropWhile_ne h
      have := Starts.field (f := .defaultString (s.takeWhile (· != 0))) hz rest
      rwa [Field.encode, List.append_assoc, List.append_assoc, List.singleton_append,
        List.singleton_append, ← hs] at this
    · rename_i h
      have hz : 0 ∉ s := by
        intro hz
        have := List.dropWhile_eq_nil_iff.1 h 0 hz
        simp at this
      exact .cut (f := .defaultString s) hz [0] rfl (by simp) (by simp)
  · rename_i op rest h₀ h₁ h₂ h₄ h₅
    exact .unknown (by simp_all [opcodes]) rest

theorem starts_of_read {s : Bytes} {start : Start} (h : Start.read s = start) : Starts s start := by
  rw [← h]
  exact starts_read s

theorem read_encode {f : Field} (hf : f.Writable) (rest : Bytes) :
    Start.read (f.encode ++ rest) = .field f rest := by
  cases f with
  | stackType | defaultInt | noAutoDisable => rfl
  | defaultString s =>
    have hs : ∀ b ∈ s, (b != 0) = true := by
      intro b hb
      simpa using ne_of_mem_of_not_mem hb hf
    have hcons : Field.encode (.defaultString s) ++ rest = 5 :: (s ++ 0 :: rest) := by
      simp [Field.encode]
    rw [hcons]
    simp only [Start.read, List.dropWhile_append_of_pos hs, List.takeWhile_append_of_pos hs]
    simp

theorem read_eq_field_iff {s rest : Bytes} {f : Field} :
    Start.read s = .field f rest ↔ f.Writable ∧ s = f.encode ++ rest := by
  constructor
  · intro h
    cases starts_of_read h with
    | field hf => exact ⟨hf, rfl⟩
  · rintro ⟨hf, rfl⟩
    exact read_encode hf rest

theorem read_eq_closed_iff {s : Bytes} :
    Start.read s = .ending .closed ↔ ∃ rest, s = 0 :: rest := by
  constructor
  · intro h
    cases starts_of_read h with
    | closed rest => exact ⟨rest, rfl⟩
  · rintro ⟨rest, rfl⟩
    rfl

/-! ## All fields of a stream -/

theorem readFields_of_field {s rest : Bytes} {f : Field} (h : Start.read s = .field f rest) :
    readFields s = (f :: (readFields rest).1, (readFields rest).2) := by
  rw [readFields]
  split
  · simp_all
  · rename_i f' rest' h'
    rw [h] at h'
    cases h'
    rfl

theorem readFields_of_ending {s : Bytes} {e : Ending} (h : Start.read s = .ending e) :
    readFields s = ([], e) := by
  rw [readFields]
  split
  · rename_i e' h'
    rw [h] at h'
    cases h'
    rfl
  · simp_all

theorem encodeFields_cons (f : Field) (fs : List Field) :
    encodeFields (f :: fs) = f.encode ++ encodeFields fs := List.flatMap_cons

/-- Reading follows the fields that were written, and goes on with what stands behind them. -/
theorem readFields_encodeFields_append {fs : List Field} (hfs : ∀ f ∈ fs, f.Writable) (tail : Bytes) :
    readFields (encodeFields fs ++ tail) = (fs ++ (readFields tail).1, (readFields tail).2) := by
  induction fs with
  | nil => rfl
  | cons f fs ih =>
    obtain ⟨hf, hfs⟩ := List.forall_mem_cons.1 hfs
    rw [encodeFields_cons, List.append_assoc, readFields_of_field (read_encode hf _), ih hfs]
    rfl

/-- The fields that are read are what the stream holds, up to a place where no field starts. -/
theorem exists_tail_readFields (s : Bytes) :
    (∀ f ∈ (readFields s).1, f.Writable) ∧
      ∃ tail, s = encodeFields (readFields s).1 ++ tail ∧
        Start.read tail = .ending (readFields s).2 := by
  cases h : Start.read s with
  | ending e =>
    rw [readFields_of_ending h]
    exact ⟨by simp, s, rfl, h⟩
  | field f rest =>
    -- the tail of what follows the field is the tail of the whole
    have hlt := Start.length_read h
    obtain ⟨hf, hs⟩ := read_eq_field_iff.1 h
    obtain ⟨hfs, tail, hrest, htail⟩ := exists_tail_readFields rest
    rw [readFields_of_field h]
    refine ⟨List.forall_mem_cons.2 ⟨hf, hfs⟩, tail, ?_, htail⟩
    rw [encodeFields_cons, List.append_assoc, ← hrest, hs]
termination_by s.length

theorem readFields_eq_iff {s : Bytes} {fs : List Field} {e : Ending} :
    readFields s = (fs, e) ↔
      (∀ f ∈ fs, f.Writable) ∧ ∃ tail, s = encodeFields fs ++ tail ∧ Start.read tail = .ending e := by
  constructor
  · intro h
    have := exists_tail_readFields s
    rwa [h] at this
  · rintro ⟨hfs, tail, rfl, htail⟩
    rw [readFields_encodeFields_append hfs, readFields_of_ending htail, List.append_nil]

/-! ## The record of some fields -/

namespace Field

/-- The byte of a field for the descriptor. -/
def stackType? : Field → Option UInt8
  | .stackType b => some b
  | _ => none

/-- The bits of a field for the default number: its four bytes one after the other. -/
def defaultInt? : Field → Option (BitVec 32)
  | .defaultInt b₁ b₂ b₃ b₄ => some (b₁.toBitVec ++ b₂.toBitVec ++ b₃.toBitVec ++ b₄.toBitVec)
  | _ => none

/-- The bytes of a field for the default text. -/
def defaultString? : Field → Option Bytes
  | .defaultString s => some s
  | _ => none

/-- What the last of the fields says that say anything. -/
def last {α : Type} (given : Field → Option α) (fs : List Field) : Option α :=
  (fs.filterMap given).getLast?

theorem last_cons {α : Type} (given : Field → Option α) (f : Field) (fs : List Field) :
    last given (f :: fs) = (last given fs).or (given f) := by
  unfold last
  rw [List.filterMap_cons]
  cases given f with
  | none => simp
  | some a =>
    simp only [List.getLast?_cons]
    cases (fs.filterMap given).getLast? <;> rfl

/-- A part of a record that each field sets or leaves alone is in the end what the last field says
that sets it. -/
theorem foldl_apply_eq_last {α β : Type} (get : Record → β) (given : Field → Option α) (value : α → β)
    (step : ∀ r f, get (apply r f) = (given f).elim (get r) value) (r : Record) (fs : List Field) :
    get (fs.foldl apply r) = (last given fs).elim (get r) value := by
  induction fs generalizing r with
  | nil => rfl
  | cons f fs ih =>
    rw [List.foldl_cons, ih, step, last_cons]
    cases last given fs <;> rfl

end Field

theorem decode_lt (b : UInt8) : Windows1252.decode b < 65536 := by
  have all : ∀ n < 256, Windows1252.decode (UInt8.ofNat n) < 65536 := by decide +kernel
  have := all b.toNat b.toNat_lt
  rwa [UInt8.ofNat_toNat] at this

/-- The default number is the two's complement reading of its bytes. -/
theorem toBitVec_bigEndian (b₁ b₂ b₃ b₄ : UInt8) :
    (Field.bigEndian b₁ b₂ b₃ b₄).toBitVec =
      b₁.toBitVec ++ b₂.toBitVec ++ b₃.toBitVec ++ b₄.toBitVec := by
  have h₁ := b₁.toNat_lt
  have h₂ := b₂.toNat_lt
  have h₃ := b₃.toNat_lt
  have h₄ := b₄.toNat_lt
  apply BitVec.eq_of_toNat_eq
  unfold Field.bigEndian
  rw [Int32.toBitVec_ofNat']
  simp only [BitVec.toNat_append, UInt8.toNat_toBitVec, BitVec.toNat_ofNat]
  rw [← Nat.shiftLeft_add_eq_or_of_lt h₂, ← Nat.shiftLeft_add_eq_or_of_lt h₃,
    ← Nat.shiftLeft_add_eq_or_of_lt h₄]
  simp only [Nat.shiftLeft_eq]
  omega

/-- The record holds what the last field of each kind says, and an initial value where there is no
such field. -/
structure Latest (id : Int64) (fs : List Field) (r : Record) : Prop where
  id_eq : r.id = id
  stackType :
    r.stackType.toInt = (Field.last Field.stackType? fs).elim 0 fun b => (Windows1252.decode b : Int)
  defaultInt : r.defaultInt.toBitVec = (Field.last Field.defaultInt? fs).getD 0
  defaultString :
    r.defaultString = (Field.last Field.defaultString? fs).elim [] Windows1252.decodeText
  autoDisable : r.autoDisable = true ↔ Field.noAutoDisable ∉ fs

theorem id_foldl_apply (r : Record) (fs : List Field) : (fs.foldl Field.apply r).id = r.id := by
  induction fs generalizing r with
  | nil => rfl
  | cons f fs ih =>
    rw [List.foldl_cons, ih]
    cases f <;> rfl

theorem autoDisable_foldl_apply (r : Record) (fs : List Field) :
    (fs.foldl Field.apply r).autoDisable = true ↔
      r.autoDisable = true ∧ Field.noAutoDisable ∉ fs := by
  induction fs generalizing r with
  | nil => simp
  | cons f fs ih =>
    rw [List.foldl_cons, ih]
    cases f <;> simp [Field.apply]

theorem latest_foldl_apply (id : Int64) (fs : List Field) :
    Latest id fs (fs.foldl Field.apply { id := id }) where
  id_eq := id_foldl_apply _ fs
  stackType := by
    refine Field.foldl_apply_eq_last (fun r => r.stackType.toInt) _ _ (fun r f => ?_) _ fs
    cases f with
    | stackType b => exact Int32.toInt_ofNat_of_lt (Nat.lt_trans (decode_lt b) (by decide))
    | _ => rfl
  defaultInt := by
    have h := Field.foldl_apply_eq_last (fun r => r.defaultInt.toBitVec) Field.defaultInt? (fun n => n)
      (fun r f => by
        cases f with
        | defaultInt b₁ b₂ b₃ b₄ => exact toBitVec_bigEndian b₁ b₂ b₃ b₄
        | _ => rfl) { id := id } fs
    rw [h]
    cases Field.last Field.defaultInt? fs <;> rfl
  defaultString :=
    Field.foldl_apply_eq_last Record.defaultString _ _ (fun r f => by cases f <;> rfl) _ fs
  autoDisable := by
    rw [autoDisable_foldl_apply]
    simp

/-! ## Which streams are accepted -/

/-- The error of a stream that has these fields and this end. -/
def Ending.error? (id : Int64) (fs : List Field) : Ending → Option DefinitionError
  | .closed => none
  | .truncated part => some (.truncated id part)
  | .unknown op => some (.unknownOpcode id op (encodeFields fs).length)

theorem decode_eq {s : Bytes} {fs : List Field} {e : Ending} (h : readFields s = (fs, e))
    (id : Int64) : decode id s = (fs.foldl Field.apply { id := id }, e.error? id fs) := by
  unfold decode
  rw [h]
  cases e <;> rfl

/-- The stream is the fields, the closing byte and a rest. -/
structure Stored (fs : List Field) (rest s : Bytes) : Prop where
  writable : ∀ f ∈ fs, f.Writable
  text : s = encodeFields fs ++ 0 :: rest

theorem readFields_eq_closed_iff {s : Bytes} {fs : List Field} :
    readFields s = (fs, .closed) ↔ ∃ rest, Stored fs rest s := by
  rw [readFields_eq_iff]
  constructor
  · rintro ⟨hfs, tail, hs, htail⟩
    obtain ⟨rest, rfl⟩ := read_eq_closed_iff.1 htail
    exact ⟨rest, hfs, hs⟩
  · rintro ⟨rest, hfs, hs⟩
    exact ⟨hfs, 0 :: rest, hs, rfl⟩

/-- A stream can be seen as fields, closing byte and rest in one way only. -/
theorem Stored.unique {fs gs : List Field} {rest rest' s : Bytes} (h : Stored fs rest s)
    (h' : Stored gs rest' s) : gs = fs ∧ rest' = rest := by
  have hfs := readFields_eq_closed_iff.2 ⟨rest, h⟩
  have hgs := readFields_eq_closed_iff.2 ⟨rest', h'⟩
  rw [hfs] at hgs
  cases hgs
  have htext := h'.text
  rw [h.text, List.append_cancel_left_eq] at htext
  cases htext
  exact ⟨rfl, rfl⟩

theorem decode_error_eq_none_iff {id : Int64} {s : Bytes} :
    (decode id s).2 = none ↔ ∃ fs rest, Stored fs rest s := by
  rw [decode_eq (rfl : readFields s = ((readFields s).1, (readFields s).2)) id]
  constructor
  · intro h
    have hclosed : (readFields s).2 = .closed := by
      cases he : (readFields s).2 <;> simp_all [Ending.error?]
    exact ⟨(readFields s).1, readFields_eq_closed_iff.1 (Prod.ext rfl hclosed)⟩
  · rintro ⟨fs, rest, h⟩
    rw [readFields_eq_closed_iff.2 ⟨rest, h⟩]
    rfl

/-- A definition is accepted exactly when it is fields, the closing byte and a rest. There is one way
to see it so. The record is the fold of the fields in order, so the last field of a kind decides and
the rest does not matter. -/
theorem decode_accepts_exactly (id : Int64) (s : Bytes) :
    ((decode id s).2 = none ↔ ∃ fs rest, Stored fs rest s) ∧
    ∀ fs rest, Stored fs rest s →
      (∀ gs rest', Stored gs rest' s → gs = fs ∧ rest' = rest) ∧
      decode id s = (fs.foldl Field.apply
        { id := id, stackType := 0, defaultInt := 0, defaultString := [], autoDisable := true }, none) ∧
      Latest id fs (decode id s).1 := by
  refine ⟨decode_error_eq_none_iff, fun fs rest h => ?_⟩
  have hdecode := decode_eq (readFields_eq_closed_iff.2 ⟨rest, h⟩) id
  refine ⟨fun gs rest' h' => h.unique h', hdecode, ?_⟩
  rw [hdecode]
  exact latest_foldl_apply id fs

/-- A text that holds an opcode, a descriptor given twice, and a byte after the end. -/
theorem decode_repeated_field :
    let fs := [.noAutoDisable, .stackType 0x69, .defaultString [0x05, 0xA7], .stackType 0xD0]
    let s := [4, 1, 0x69, 5, 0x05, 0xA7, 0, 1, 0xD0, 0, 0x09]
    Stored fs [0x09] s ∧
      decode 7 s = ({ id := 7, stackType := 0xD0, defaultString := [0x05, 0xC2, 0xA7]
                      autoDisable := false }, none) := by
  intro fs s
  have h : Stored fs [0x09] s := by
    refine ⟨?_, rfl⟩
    simp [fs, Field.Writable]
  refine ⟨h, ?_⟩
  rw [((decode_accepts_exactly 7 s).2 fs [0x09] h).2.1]
  decide +kernel

end StackTypes.Param
