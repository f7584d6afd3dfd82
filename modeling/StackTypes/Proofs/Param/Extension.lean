/-
What more bytes can change. A stream is finished, cut off or refused: once its closing byte has come
nothing after it matters, a stream that broke off is the start of an accepted one, and an unknown
opcode is never mended. What was read before the break is kept, and no more: the record is that of the
fields that stand whole in front of it.
-/
import StackTypes.Proofs.Param.Definition

namespace StackTypes.Param

/-! ## Endings and what may follow them -/

theorem read_eq_unknown_iff {s : Bytes} {op : UInt8} :
    Start.read s = .ending (.unknown op) ↔ op ∉ opcodes ∧ ∃ rest, s = op :: rest := by
  constructor
  · intro h
    cases starts_of_read h with
    | unknown hop rest => exact ⟨hop, rest, rfl⟩
  · rintro ⟨hop, rest, rfl⟩
    simp only [opcodes, List.mem_cons, List.not_mem_nil, or_false, not_or] at hop
    unfold Start.read
    split <;> simp_all

/-- Where the closing byte or an unknown opcode stands, what follows does not matter. -/
theorem read_append_of_ending {s : Bytes} {e : Ending} (h : Start.read s = .ending e)
    (he : ∀ part, e ≠ .truncated part) (x : Bytes) : Start.read (s ++ x) = .ending e := by
  cases e with
  | closed =>
    obtain ⟨rest, rfl⟩ := read_eq_closed_iff.1 h
    rfl
  | truncated part => exact absurd rfl (he part)
  | unknown op =>
    obtain ⟨hop, rest, rfl⟩ := read_eq_unknown_iff.1 h
    exact read_eq_unknown_iff.2 ⟨hop, rest ++ x, rfl⟩

theorem readFields_append {s : Bytes} {fs : List Field} {e : Ending} (h : readFields s = (fs, e))
    (he : ∀ part, e ≠ .truncated part) (x : Bytes) : readFields (s ++ x) = (fs, e) := by
  obtain ⟨hfs, tail, rfl, htail⟩ := readFields_eq_iff.1 h
  refine readFields_eq_iff.2 ⟨hfs, tail ++ x, ?_, read_append_of_ending htail he x⟩
  rw [List.append_assoc]

/-- Bytes that broke off go on to a whole field or to the closing byte. -/
theorem exists_stored_append {s : Bytes} {fs : List Field} {part : Part}
    (h : readFields s = (fs, .truncated part)) : ∃ x gs rest, Stored gs rest (s ++ x) := by
  obtain ⟨hfs, tail, rfl, htail⟩ := readFields_eq_iff.1 h
  cases starts_of_read htail with
  | empty =>
    refine ⟨[0], fs, [], hfs, ?_⟩
    rw [List.append_nil]
  | @cut f _ hf missing hfm _ _ =>
    refine ⟨missing ++ [0], fs ++ [f], [], ?_, ?_⟩
    · rw [List.forall_mem_append]
      exact ⟨hfs, by simpa using hf⟩
    · simp [encodeFields, hfm]

/-! ## Finished, cut off or refused -/

/-- The fields that stand whole at the start of a stream, and the tail in which no other starts. -/
structure Whole (fs : List Field) (tail s : Bytes) : Prop where
  writable : ∀ f ∈ fs, f.Writable
  text : s = encodeFields fs ++ tail
  last : ∀ (f : Field) (rest : Bytes), f.Writable → tail ≠ f.encode ++ rest

theorem exists_whole {s : Bytes} {fs : List Field} {e : Ending} (h : readFields s = (fs, e)) :
    ∃ tail, Whole fs tail s ∧ Start.read tail = .ending e := by
  obtain ⟨hfs, tail, hs, htail⟩ := readFields_eq_iff.1 h
  refine ⟨tail, ⟨hfs, hs, ?_⟩, htail⟩
  rintro f rest hf rfl
  rw [read_encode hf] at htail
  cases htail

/-- The stream is fields and their closing byte, which gives the record of these fields, and anything
behind it changes nothing. -/
structure Finished (id : Int64) (s : Bytes) : Prop where
  outcome : ∃ fs rest, Stored fs rest s ∧ decode id s = (fs.foldl Field.apply { id := id }, none)
  settled : ∀ x, decode id (s ++ x) = decode id s

/-- A tail in which the bytes ran out, and the part in which they did: between two fields, or inside
one that has begun. -/
inductive Begun : Bytes → Part → Prop
  | between : Begun [] .opcode
  | inside {f : Field} {tail : Bytes} (hf : f.Writable) (h : tail <+: f.encode) (hne : tail ≠ []) :
      Begun tail f.part

/-- The bytes ran out, and more of them can make the stream an accepted one. The record is that of the
whole fields, and nothing of a field that has begun goes into it. -/
structure CutOff (id : Int64) (s : Bytes) : Prop where
  outcome : ∃ fs tail part, Whole fs tail s ∧ Begun tail part ∧
    decode id s = (fs.foldl Field.apply { id := id }, some (.truncated id part))
  message : ∀ e, (decode id s).2 = some e → utf8 "params: truncated definition" <:+ e.message
  extension : ∃ x, (decode id (s ++ x)).2 = none

/-- The byte at `offset` starts no field, and nothing behind it changes that. The record is that of
the whole fields in front of it. -/
structure Refused (id : Int64) (s : Bytes) (opcode : UInt8) (offset : Nat) : Prop where
  outcome : ∃ fs tail, Whole fs tail s ∧ offset = (encodeFields fs).length ∧
    decode id s = (fs.foldl Field.apply { id := id }, some (.unknownOpcode id opcode offset))
  message : ∀ e, (decode id s).2 = some e →
    utf8 "unknown opcode " ++ Numeral.ofNat opcode.toNat ++ utf8 " at offset " ++ Numeral.ofNat offset
      <:+ e.message
  settled : ∀ x, (decode id (s ++ x)).2 = some (.unknownOpcode id opcode offset)
  found : s[offset]? = some opcode
  unknown : opcode ∉ opcodes

theorem finished_of_closed {s : Bytes} {fs : List Field} (h : readFields s = (fs, .closed))
    (id : Int64) : Finished id s := by
  obtain ⟨rest, hstored⟩ := readFields_eq_closed_iff.1 h
  have hx : ∀ x, readFields (s ++ x) = (fs, .closed) := readFields_append h (by simp)
  constructor
  · exact ⟨fs, rest, hstored, decode_eq h id⟩
  · intro x
    rw [decode_eq (hx x), decode_eq h]

theorem cutOff_of_truncated {s : Bytes} {fs : List Field} {part : Part}
    (h : readFields s = (fs, .truncated part)) (id : Int64) : CutOff id s := by
  obtain ⟨tail, hwhole, htail⟩ := exists_whole h
  obtain ⟨x, hx⟩ := exists_stored_append h
  have hbegun : Begun tail part := by
    cases starts_of_read htail with
    | empty => exact .between
    | cut hf missing hfm hne _ => exact .inside hf ⟨missing, hfm.symm⟩ hne
  constructor
  · exact ⟨fs, tail, part, hwhole, hbegun, decode_eq h id⟩
  · intro e he
    rw [decode_eq h] at he
    cases he
    exact List.suffix_append _ _
  · exact ⟨x, decode_error_eq_none_iff.2 hx⟩

theorem refused_of_unknown {s : Bytes} {fs : List Field} {op : UInt8}
    (h : readFields s = (fs, .unknown op)) (id : Int64) :
    Refused id s op (encodeFields fs).length := by
  obtain ⟨tail, hwhole, htail⟩ := exists_whole h
  obtain ⟨hop, rest, rfl⟩ := read_eq_unknown_iff.1 htail
  constructor
  · exact ⟨fs, op :: rest, hwhole, rfl, decode_eq h id⟩
  · intro e he
    rw [decode_eq h] at he
    cases he
    have hlead : utf8 ": unknown opcode " = utf8 ": " ++ utf8 "unknown opcode " := by decide +kernel
    refine ⟨utf8 "param " ++ Numeral.ofInt id.toInt ++ utf8 ": ", ?_⟩
    simp only [DefinitionError.message, hlead, List.append_assoc]
  · intro x
    rw [decode_eq (readFields_append h (by simp) x)]
    rfl
  · rw [hwhole.text, List.getElem?_append_right (Nat.le_refl _), Nat.sub_self]
    rfl
  · exact hop

/-- Every stream is finished, cut off or refused, and only one of them. -/
theorem decode_trichotomy (id : Int64) (s : Bytes) :
    (Finished id s ∧ ¬ CutOff id s ∧ ¬ ∃ op k, Refused id s op k) ∨
    (¬ Finished id s ∧ CutOff id s ∧ ¬ ∃ op k, Refused id s op k) ∨
    (¬ Finished id s ∧ ¬ CutOff id s ∧ ∃ op k, Refused id s op k) := by
  -- the error alone tells the three apart
  have herror : ∀ {r r' : Record} {e e' : Option DefinitionError}, decode id s = (r, e) →
      decode id s = (r', e') → e = e' := fun h h' => congrArg Prod.snd (h.symm.trans h')
  have hfc : Finished id s → ¬ CutOff id s := by
    rintro ⟨⟨gs, rest, -, h⟩, -⟩ ⟨⟨fs, tail, part, -, -, h'⟩, -, -⟩
    cases herror h h'
  have hfr : Finished id s → ¬ ∃ op k, Refused id s op k := by
    rintro ⟨⟨gs, rest, -, h⟩, -⟩ ⟨op, k, ⟨fs, tail, -, -, h'⟩, -, -, -, -⟩
    cases herror h h'
  have hcr : CutOff id s → ¬ ∃ op k, Refused id s op k := by
    rintro ⟨⟨fs, tail, part, -, -, h⟩, -, -⟩ ⟨op, k, ⟨gs, tail', -, -, h'⟩, -, -, -, -⟩
    cases herror h h'
  rcases hread : readFields s with ⟨fs, e⟩
  cases e with
  | closed =>
    have h := finished_of_closed hread id
    exact .inl ⟨h, hfc h, hfr h⟩
  | truncated part =>
    have h := cutOff_of_truncated hread id
    exact .inr (.inl ⟨fun hf => hfc hf h, h, hcr h⟩)
  | unknown op =>
    have h : ∃ op k, Refused id s op k := ⟨op, _, refused_of_unknown hread id⟩
    exact .inr (.inr ⟨fun hf => hfr hf h, fun hc => hcr hc h, h⟩)

end StackTypes.Param
