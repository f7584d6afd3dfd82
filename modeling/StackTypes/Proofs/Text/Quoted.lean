/-
Quoted text can be read back. A piece of a text stands between the delimiters as itself or is spelled
with a backslash; in both cases it can be seen where it ends and which piece it is, and it does not
start with the delimiter. So a quoted text tells the text that was quoted and where the quotation
ends, whatever follows it.
-/
import StackTypes.Proofs.Text.Numeral
import StackTypes.Proofs.Text.Utf8
import StackTypes.Text.Quoted

namespace StackTypes.Quoted

open Utf8 Numeral

/-! ## Reading a piece -/

/-- The character that is meant by a letter after a backslash; any other stands for itself. -/
def ofLetter (c : UInt8) : Nat :=
  match c with
  | 0x61 => 0x07
  | 0x62 => 0x08
  | 0x66 => 0x0C
  | 0x6E => 0x0A
  | 0x72 => 0x0D
  | 0x74 => 0x09
  | 0x76 => 0x0B
  | _ => c.toNat

/-- The piece that is spelled by the character `c` after a backslash and the text behind it, and what
follows. -/
def readEscape (c : UInt8) (s : Bytes) : Piece × Bytes :=
  if c = 0x78 then
    let n := valueOf 16 (s.take 2)
    (if n < 0x80 then .code n else .stray n.toUInt8, s.drop 2)
  else if c = 0x75 then (.code (valueOf 16 (s.take 4)), s.drop 4)
  else if c = 0x55 then (.code (valueOf 16 (s.take 8)), s.drop 8)
  else (.code (ofLetter c), s)

/-- The piece at the start of what stands between delimiters, and what follows. -/
def readPiece : Bytes → Option (Piece × Bytes)
  | 0x5C :: c :: s => some (readEscape c s)
  | s => (decodeHead? s).map fun (n, r) => (.code n, r)

/-- How a piece is written: as it is, or by an escape that is read as this piece. -/
inductive Spelling (delimiter : Nat) : Piece → Bytes → Prop
  | plain {n : Nat} (hn : isScalar n = true) (hd : n ≠ delimiter) (hb : n ≠ 0x5C) :
      Spelling delimiter (.code n) (encode n)
  | escape {p : Piece} {c : UInt8} {t : Bytes} (h : ∀ r, readEscape c (t ++ r) = (p, r)) :
      Spelling delimiter p (0x5C :: c :: t)

theorem Spelling.of_lead {delimiter : Nat} {p : Piece} {lead t : Bytes} (c : UInt8)
    (hlead : lead = [0x5C, c]) (h : ∀ r, readEscape c (t ++ r) = (p, r)) :
    Spelling delimiter p (lead ++ t) := by
  rw [hlead]
  exact .escape h

theorem valueOf_hex_take {w n : Nat} (h : n < Nat.pow 16 (w + 1)) (r : Bytes) :
    valueOf 16 ((hex lower (w + 1) n ++ r).take (w + 1)) = n ∧
      (hex lower (w + 1) n ++ r).drop (w + 1) = r := by
  have hlen := length_hex lower h
  rw [List.take_left' hlen, List.drop_left' hlen, valueOf_hex fun _ => digit?_lower]
  exact ⟨rfl, rfl⟩

theorem readEscape_byte {n : Nat} (h : n < 256) (r : Bytes) :
    readEscape 0x78 (hex lower 2 n ++ r) = (if n < 0x80 then .code n else .stray n.toUInt8, r) := by
  obtain ⟨hvalue, hrest⟩ := valueOf_hex_take (w := 1) h r
  simp only [readEscape, if_true, hvalue, hrest]

theorem spelling_character {delimiter n : Nat} (hd : delimiter = 0x22 ∨ delimiter = 0x27)
    (hn : isScalar n = true) : Spelling delimiter (.code n) (character delimiter n) := by
  have hmax : n ≤ 0x10FFFF := by
    simp only [isScalar, Bool.or_eq_true, Bool.and_eq_true, decide_eq_true_eq] at hn
    omega
  unfold character
  split
  · rename_i h
    refine .escape fun r => ?_
    rcases h with rfl | rfl
    · rcases hd with rfl | rfl <;> rfl
    · rfl
  rename_i h
  rw [not_or] at h
  split
  · exact .plain hn h.1 h.2
  split
  · rename_i c hc
    refine .escape fun r => ?_
    unfold letter? at hc
    split at hc <;> cases hc <;> rfl
  split
  · refine .of_lead 0x78 (by decide +kernel) fun r => ?_
    rw [readEscape_byte (by omega), if_pos (by omega)]
  split
  · rename_i hlt
    refine .of_lead 0x75 (by decide +kernel) fun r => ?_
    obtain ⟨hvalue, hrest⟩ := valueOf_hex_take (w := 3) hlt r
    simp [readEscape, hvalue, hrest]
  · refine .of_lead 0x55 (by decide +kernel) fun r => ?_
    have hlt : n < Nat.pow 16 8 := Nat.lt_of_le_of_lt hmax (by decide)
    obtain ⟨hvalue, hrest⟩ := valueOf_hex_take (w := 7) hlt r
    simp [readEscape, hvalue, hrest]

theorem spelling_piece {delimiter : Nat} (hd : delimiter = 0x22 ∨ delimiter = 0x27) {p : Piece}
    (hp : p.Proper) : Spelling delimiter p (piece delimiter p) := by
  cases p with
  | code n => exact spelling_character hd hp
  | stray b =>
    have hb : 0x80 ≤ b.toNat := UInt8.le_iff_toNat_le.1 hp
    refine .of_lead 0x78 (by decide +kernel) fun r => ?_
    rw [readEscape_byte b.toNat_lt, if_neg (by omega), eq_toUInt8 rfl]

/-- The first byte of an encoding is the code point itself, or none of ASCII. -/
theorem encode_eq_cons {n : Nat} (hn : isScalar n = true) :
    ∃ a t, encode n = a :: t ∧ (a.toNat = n ∨ 0x80 ≤ a.toNat) := by
  obtain ⟨a, t, ha⟩ := List.exists_cons_of_ne_nil (encode_ne_nil n)
  refine ⟨a, t, ha, ?_⟩
  have hhead := decodeHead?_encode_append hn []
  rw [ha, List.append_nil] at hhead
  by_cases hlt : a < 0x80
  · simp only [decodeHead?, if_pos hlt, Option.some.injEq, Prod.mk.injEq] at hhead
    exact .inl hhead.1
  · exact .inr (UInt8.le_iff_toNat_le.1 (UInt8.not_lt.1 hlt))

theorem Spelling.readPiece_append {delimiter : Nat} {p : Piece} {t : Bytes}
    (h : Spelling delimiter p t) (r : Bytes) : readPiece (t ++ r) = some (p, r) := by
  cases h with
  | @plain n hn _ hb =>
    obtain ⟨a, t, hencode, ha⟩ := encode_eq_cons hn
    have hne : a ≠ 0x5C := by
      rintro rfl
      rcases ha with ha | ha
      · exact hb ha.symm
      · exact absurd ha (by decide)
    have hhead := decodeHead?_encode_append hn r
    rw [hencode, List.cons_append] at hhead ⊢
    unfold readPiece
    split
    · rename_i heq
      exact absurd (List.cons.inj heq).1 hne
    · rw [hhead]
      rfl
  | escape h =>
    show some (readEscape _ (_ ++ r)) = _
    rw [h]

theorem Spelling.ne_delimiter {delimiter : Nat} (hd : delimiter = 0x22 ∨ delimiter = 0x27) {p : Piece}
    {t : Bytes} (h : Spelling delimiter p t) (r s : Bytes) : t ++ r ≠ delimiter.toUInt8 :: s := by
  cases h with
  | @plain n hn hne _ =>
    obtain ⟨a, t, hencode, ha⟩ := encode_eq_cons hn
    rw [hencode]
    intro heq
    obtain rfl : a = delimiter.toUInt8 := (List.cons.inj heq).1
    rcases hd with rfl | rfl <;> rcases ha with ha | ha
    · exact hne ha.symm
    · exact absurd ha (by decide)
    · exact hne ha.symm
    · exact absurd ha (by decide)
  | escape =>
    intro heq
    rcases hd with rfl | rfl <;> exact absurd (List.cons.inj heq).1 (by decide)

/-! ## Reading a quotation -/

/-- What stands between delimiters tells the pieces and where it ends. -/
theorem pieces_append_inj {delimiter : Nat} (hd : delimiter = 0x22 ∨ delimiter = 0x27) {ps qs : List Piece}
    (hps : ∀ p ∈ ps, p.Proper) (hqs : ∀ q ∈ qs, q.Proper) {r s : Bytes}
    (h : ps.flatMap (piece delimiter) ++ delimiter.toUInt8 :: r =
      qs.flatMap (piece delimiter) ++ delimiter.toUInt8 :: s) : ps = qs ∧ r = s := by
  induction ps generalizing qs with
  | nil =>
    cases qs with
    | nil => exact ⟨rfl, (List.cons.inj h).2⟩
    | cons q qs =>
      have hq := spelling_piece hd (hqs q List.mem_cons_self)
      rw [List.flatMap_cons, List.append_assoc] at h
      exact absurd h.symm (hq.ne_delimiter hd _ _)
  | cons p ps ih =>
    have hp := spelling_piece hd (hps p List.mem_cons_self)
    rw [List.flatMap_cons, List.append_assoc] at h
    cases qs with
    | nil => exact absurd h (hp.ne_delimiter hd _ _)
    | cons q qs =>
      have hq := spelling_piece hd (hqs q List.mem_cons_self)
      rw [List.flatMap_cons, List.append_assoc] at h
      have hread := congrArg readPiece h
      rw [hp.readPiece_append, hq.readPiece_append, Option.some.injEq, Prod.mk.injEq] at hread
      obtain ⟨rfl, hrest⟩ := hread
      obtain ⟨rfl, hr⟩ := ih (fun p hp => hps p (List.mem_cons_of_mem _ hp))
        (fun q hq => hqs q (List.mem_cons_of_mem _ hq)) hrest
      exact ⟨rfl, hr⟩

/-- A quoted text tells what was quoted and where the quotation ends. -/
theorem text_append_inj {s t r u : Bytes} (h : text s ++ r = text t ++ u) : s = t ∧ r = u := by
  have hinner : (pieces s).flatMap (piece 0x22) ++ 0x22 :: r =
      (pieces t).flatMap (piece 0x22) ++ 0x22 :: u := by
    simpa [text] using h
  obtain ⟨hpieces, hr⟩ := pieces_append_inj (.inl rfl) (fun _ => proper_of_mem_pieces)
    (fun _ => proper_of_mem_pieces) hinner
  refine ⟨?_, hr⟩
  rw [← flatMap_bytes_pieces s, hpieces, flatMap_bytes_pieces]

/-- Is it the number of a code point? -/
def isCodePoint (v : Int32) : Bool :=
  0 ≤ v.toInt && isScalar v.toInt.toNat

theorem codePoint_append_inj {v w : Int32} (hv : isCodePoint v = true) (hw : isCodePoint w = true)
    {r u : Bytes} (h : codePoint v ++ r = codePoint w ++ u) : v = w ∧ r = u := by
  simp only [isCodePoint, Bool.and_eq_true, decide_eq_true_eq] at hv hw
  have hinner : [Piece.code v.toInt.toNat].flatMap (piece 0x27) ++ 0x27 :: r =
      [Piece.code w.toInt.toNat].flatMap (piece 0x27) ++ 0x27 :: u := by
    simp only [codePoint, if_pos hv, if_pos hw] at h
    simpa only [List.flatMap_cons, List.flatMap_nil, piece, List.append_nil, List.append_assoc,
      List.cons_append, List.nil_append, List.cons.injEq, true_and] using h
  obtain ⟨hpieces, hr⟩ := pieces_append_inj (.inr rfl) (by simpa [Piece.Proper] using hv.2)
    (by simpa [Piece.Proper] using hw.2) hinner
  have hnat : v.toInt.toNat = w.toInt.toNat := by simpa using hpieces
  refine ⟨Int32.toInt_inj.1 ?_, hr⟩
  have hv0 := hv.1
  have hw0 := hw.1
  omega

/-- The code point that a number counts as. -/
def shown (v : Int32) : Int32 :=
  if isCodePoint v then v else 0xFFFD

theorem isCodePoint_shown (v : Int32) : isCodePoint (shown v) = true := by
  unfold shown
  split
  · assumption
  · decide

theorem codePoint_shown (v : Int32) : codePoint (shown v) = codePoint v := by
  unfold shown
  split
  · rfl
  · rename_i hv
    have hnot : ¬ (0 ≤ v.toInt ∧ isScalar v.toInt.toNat = true) := by
      simpa only [isCodePoint, Bool.and_eq_true, decide_eq_true_eq] using hv
    rw [codePoint, codePoint, if_neg hnot]
    rfl

/-- Two numbers are quoted alike only if they count as the same code point. -/
theorem codePoint_eq_iff (v w : Int32) : codePoint v = codePoint w ↔ shown v = shown w := by
  constructor
  · intro h
    rw [← codePoint_shown v, ← codePoint_shown w] at h
    have happ : codePoint (shown v) ++ [] = codePoint (shown w) ++ [] := by rw [h]
    exact (codePoint_append_inj (isCodePoint_shown v) (isCodePoint_shown w) happ).1
  · intro h
    rw [← codePoint_shown v, h, codePoint_shown]

end StackTypes.Quoted
