/-
Printed expressions are unambiguous. An expression is printed as the text of its written form, and
what the form stands for can be told from the form alone: a word is a number, a reserved word, a
colour or else the name of a variable, and a packed coordinate or component is put together from its
parts. The text does not show the types of variables, nor that a number was one that can be null;
all the rest of an expression is told by its text.
-/
import StackTypes.Proofs.Expr.Alike
import StackTypes.Proofs.Expr.Form

namespace StackTypes

open Numeral Form Integer

/-! ## The form of an expression -/

namespace Expr

mutual

/-- The form that an expression is written in. -/
def form : Expr → Form
  | .int v => .word (ofInt v.toInt)
  | .long v => .word (ofInt v.toInt ++ utf8 "L")
  | .string s => .string s
  | .boolean b => .word (if b then utf8 "true" else utf8 "false")
  | .char v => .char v
  | .nullable v => .word (if v = -1 then utf8 "null" else ofInt v.toInt)
  | .var name _ => .word name
  | .placeholder t => .slot t.flatten
  | .location e =>
    match e.packed? with
    | some n =>
      .call (utf8 "location")
        [.word (ofNat (n / (axisSize * axisSize))), .word (ofNat (n / axisSize % axisSize)),
          .word (ofNat (n % axisSize))]
    | none => .call (utf8 "location") [e.form]
  | .widget e =>
    match e.packed? with
    | some n =>
      .call (utf8 "widget") [.word (ofNat (n / interfaceSize)), .word (ofNat (n % interfaceSize))]
    | none => .call (utf8 "widget") [e.form]
  | .color e =>
    match e.packed? with
    | some n => .word (colorText n)
    | none => .call (utf8 "color") [e.form]
  | .cast t e => .cast t.flatten e.form
  | .tuple es => .call [] (formAll es)

/-- The forms of several expressions, in order. -/
def formAll : List Expr → List Form
  | [] => []
  | e :: es => e.form :: formAll es

end

mutual

/-- An expression is printed as the text of its form. -/
theorem print_eq_text : (e : Expr) → e.print = e.form.text
  | .int _ | .long _ | .string _ | .boolean _ | .char _ | .nullable _ | .var _ _ => rfl
  | .placeholder t => by rw [print, form, text, Descriptor.toText_eq]
  | .location e | .widget e | .color e => by
    cases h : e.packed? with
    | none => simp only [print, form, h, text, textAll, print_eq_text e]
    | some n => simp only [print, form, h, text, textAll, locationText, widgetText]
  | .cast t e => by rw [print, form, text, Descriptor.toText_eq, print_eq_text e]
  | .tuple es => by rw [print, form, text, printAll_eq_textAll es]

theorem printAll_eq_textAll : (es : List Expr) → printAll es = textAll (formAll es)
  | [] => rfl
  | e :: es => by rw [printAll, formAll, textAll, print_eq_text e, printAll_eq_textAll es]

end

end Expr

/-! ## What a form stands for -/

namespace Form

/-- Does the word start as a number does? -/
def isNumber (w : Bytes) : Bool :=
  w.head?.any fun c => isDecimal c || c == 0x2D

/-- A number has a letter in it if it is a colour or a long integer. -/
def readNumber (w : Bytes) : Outline (List Atomic) :=
  if 0x78 ∈ w then .color (.int (Int32.ofInt (valueOf 16 (w.drop 2))))
  else if 0x4C ∈ w then .long (Int64.ofInt (readInt w.dropLast))
  else .int (Int32.ofInt (readInt w))

/-- What a word stands for: a number, a reserved word, or else a variable. -/
def readWord (w : Bytes) : Outline (List Atomic) :=
  if isNumber w then readNumber w
  else if w = utf8 "true" then .boolean true
  else if w = utf8 "false" then .boolean false
  else if w = utf8 "null" then .nullable (-1)
  else .var w []

/-- The operand that is written as some arguments: two are the parts of a component, three those of a
coordinate. -/
def readParts : List (Outline (List Atomic)) → Outline (List Atomic)
  | [o] => o
  | [.int parent, .int component] => .int (parent * 65536 + component)
  | [.int level, .int x, .int y] => .int (level * 268435456 + x * 16384 + y)
  | os => .tuple os

/-- What a call stands for: one of the three wrappers by its name, and a tuple otherwise. -/
def readCall (name : Bytes) (args : List (Outline (List Atomic))) : Outline (List Atomic) :=
  if name = utf8 "location" then .location (readParts args)
  else if name = utf8 "widget" then .widget (readParts args)
  else if name = utf8 "color" then .color (readParts args)
  else .tuple args

mutual

/-- What a form stands for. A variable is given no type, for its name does not tell one. -/
def meaning : Form → Outline (List Atomic)
  | .word w => readWord w
  | .string s => .string s
  | .char v => .char v
  | .slot members => .placeholder members
  | .call name args => readCall name (meaningAll args)
  | .cast members f => .cast members f.meaning

/-- What several forms stand for, in order. -/
def meaningAll : List Form → List (Outline (List Atomic))
  | [] => []
  | f :: fs => f.meaning :: meaningAll fs

end

/-! ## Words -/

/-- A word that starts with a decimal numeral is taken for a number. -/
theorem isNumber_ofInt_append (n : Int) (s : Bytes) : isNumber (ofInt n ++ s) = true := by
  cases h : ofInt n with
  | nil => exact absurd h (ofInt_ne_nil n)
  | cons c t => exact byte_of_mem_ofInt (n := n) (by simp [h])

theorem not_mem_ofInt {n : Int} {c : UInt8} (hc : (isDecimal c || c == 0x2D) = false) : c ∉ ofInt n := by
  intro hm
  rw [byte_of_mem_ofInt hm] at hc
  cases hc

/-- A decimal numeral stands for its integer. -/
theorem readWord_ofInt (n : Int) : readWord (ofInt n) = .int (Int32.ofInt n) := by
  have hnumber : isNumber (ofInt n) = true := by simpa using isNumber_ofInt_append n []
  rw [readWord, if_pos hnumber, readNumber, if_neg (not_mem_ofInt (by decide)),
    if_neg (not_mem_ofInt (by decide)), readInt_ofInt]

theorem readWord_ofNat (n : Nat) : readWord (ofNat n) = .int (Int32.ofInt n) :=
  readWord_ofInt n

/-- A decimal numeral with the letter after it stands for its long integer. -/
theorem readWord_long (n : Int) : readWord (ofInt n ++ utf8 "L") = .long (Int64.ofInt n) := by
  have hletter : utf8 "L" = [0x4C] := by decide +kernel
  have hx : (0x78 : UInt8) ∉ ofInt n ++ [0x4C] := by simp [not_mem_ofInt (n := n) (c := 0x78) (by decide)]
  rw [hletter, readWord, if_pos (isNumber_ofInt_append n _), readNumber, if_neg hx, if_pos (by simp),
    List.dropLast_concat, readInt_ofInt]

theorem utf8_hexLead : utf8 "0x" = [0x30, 0x78] := by decide +kernel

/-- A colour in hexadecimal stands for the colour of its number. -/
theorem readWord_colorText (n : Nat) : readWord (Expr.colorText n) = .color (.int (Int32.ofInt n)) := by
  have hvalue : valueOf 16 (hex upper 6 n) = n := valueOf_hex (fun _ => digit?_upper) 6 n
  simp [readWord, isNumber, isDecimal, readNumber, Expr.colorText, utf8_hexLead, hvalue]

theorem readWord_boolean (b : Bool) :
    readWord (if b then utf8 "true" else utf8 "false") = .boolean b := by
  cases b with
  | true => exact (if_neg (by decide +kernel)).trans (if_pos rfl)
  | false => exact (if_neg (by decide +kernel)).trans ((if_neg (by decide +kernel)).trans (if_pos rfl))

theorem readWord_null : readWord (utf8 "null") = .nullable (-1) := by
  rw [readWord, if_neg (by decide +kernel), if_neg (by decide +kernel), if_neg (by decide +kernel),
    if_pos rfl]

/-! ## Calls -/

/-- One argument alone is the operand itself. -/
theorem readParts_singleton (o : Outline (List Atomic)) : readParts [o] = o := by
  cases o <;> rfl

theorem readCall_location (args : List (Outline (List Atomic))) :
    readCall (utf8 "location") args = .location (readParts args) :=
  if_pos rfl

theorem readCall_widget (args : List (Outline (List Atomic))) :
    readCall (utf8 "widget") args = .widget (readParts args) := by
  rw [readCall, if_neg (by decide +kernel), if_pos rfl]

theorem readCall_color (args : List (Outline (List Atomic))) :
    readCall (utf8 "color") args = .color (readParts args) := by
  rw [readCall, if_neg (by decide +kernel), if_neg (by decide +kernel), if_pos rfl]

theorem readCall_nil (args : List (Outline (List Atomic))) : readCall [] args = .tuple args := by
  rw [readCall, if_neg (by decide +kernel), if_neg (by decide +kernel), if_neg (by decide +kernel)]

end Form

/-! ## Readable expressions -/

namespace Expr

/-- A letter or an underscore, then letters, digits and underscores. -/
def isName : Bytes → Bool
  | [] => false
  | c :: s => (isLetter c || c == 0x5F) && s.all fun c => isLetter c || isDecimal c || c == 0x5F

/-- The words that stand for constants. -/
def reserved : List Bytes :=
  [utf8 "true", utf8 "false", utf8 "null"]

mutual

/-- Variables have names that are not reserved, and the numbers of characters are code points. -/
def isReadable : Expr → Bool
  | .var name _ => isName name && !reserved.contains name
  | .char v => Quoted.isCodePoint v
  | .location e | .widget e | .color e | .cast _ e => e.isReadable
  | .tuple es => areReadable es
  | _ => true

/-- Is each of several expressions readable? -/
def areReadable : List Expr → Bool
  | [] => true
  | e :: es => e.isReadable && areReadable es

end

mutual

/-- An expression without the types of its variables, with the members of the other types, and with
an integer for each value that could be null and is not. -/
def erased : Expr → Outline (List Atomic)
  | .int v => .int v
  | .long v => .long v
  | .string s => .string s
  | .boolean b => .boolean b
  | .char v => .char v
  | .nullable v => if v = -1 then .nullable v else .int v
  | .var name _ => .var name []
  | .placeholder t => .placeholder t.flatten
  | .location e => .location e.erased
  | .widget e => .widget e.erased
  | .color e => .color e.erased
  | .cast t e => .cast t.flatten e.erased
  | .tuple es => .tuple (erasedAll es)

/-- Several expressions with all this erased, in order. -/
def erasedAll : List Expr → List (Outline (List Atomic))
  | [] => []
  | e :: es => e.erased :: erasedAll es

end

/-- A name is a word, and does not start as a number does. -/
theorem isName_bytes {s : Bytes} (h : isName s = true) :
    s ≠ [] ∧ (∀ c ∈ s, isWordByte c = true) ∧ isNumber s = false := by
  cases s with
  | nil => cases h
  | cons c s =>
    simp only [isName, Bool.and_eq_true, List.all_eq_true] at h
    have hfirst : ∀ n < 256, (isLetter n.toUInt8 || n.toUInt8 == 0x5F) = true →
        (isDecimal n.toUInt8 || n.toUInt8 == 0x2D) = false := by decide +kernel
    refine ⟨List.cons_ne_nil c s, ?_, ?_⟩
    · rintro d (_ | ⟨_, hd⟩)
      · rcases Bool.or_eq_true_iff.1 h.1 with hc | hc <;> simp [isWordByte, hc]
      · simp [isWordByte, h.2 d hd]
    · simpa [isNumber] using hfirst c.toNat c.toNat_lt (by simpa using h.1)

/-- A name that is not reserved stands for the variable. -/
theorem readWord_name {name : Bytes} (h : isName name = true) (hr : reserved.contains name = false) :
    readWord name = .var name [] := by
  simp only [reserved, List.contains_cons, List.contains_nil, Bool.or_false, Bool.or_eq_false_iff,
    beq_eq_false_iff_ne] at hr
  rw [readWord, if_neg (by simp [(isName_bytes h).2.2]), if_neg hr.1, if_neg hr.2.1, if_neg hr.2.2]

theorem clear_ofInt (n : Int) : (word (ofInt n)).Clear := by
  refine ⟨ofInt_ne_nil n, fun c hc => ?_⟩
  rcases Bool.or_eq_true_iff.1 (byte_of_mem_ofInt hc) with hc | hc <;> simp [isWordByte, hc]

theorem clear_ofNat (n : Nat) : (word (ofNat n)).Clear :=
  clear_ofInt n

theorem clear_colorText (n : Nat) : (word (colorText n)).Clear := by
  have hhex : ∀ n < 256, isHex n.toUInt8 = true → isWordByte n.toUInt8 = true := by decide +kernel
  rw [colorText, utf8_hexLead]
  refine ⟨by simp, ?_⟩
  rintro c (_ | ⟨_, _ | ⟨_, hc⟩⟩)
  · decide
  · decide
  · simpa using hhex c.toNat c.toNat_lt (by simpa using isHex_of_mem_hex_upper hc)

mutual

/-- The form of a readable expression is clear, so its text tells it. -/
theorem clear_form : (e : Expr) → e.isReadable = true → e.form.Clear
  | .int v, _ => clear_ofInt v.toInt
  | .long v, _ => by
    have hletter : ∀ c ∈ utf8 "L", isWordByte c = true := by decide +kernel
    refine ⟨by simp [ofInt_ne_nil], fun c hc => ?_⟩
    rcases List.mem_append.1 hc with hc | hc
    · exact (clear_ofInt v.toInt).2 c hc
    · exact hletter c hc
  | .string _, _ | .placeholder _, _ => trivial
  | .boolean b, _ => by cases b <;> exact ⟨by decide +kernel, by decide +kernel⟩
  | .char v, h => h
  | .nullable v, _ => by
    rw [form]
    split
    · exact ⟨by decide +kernel, by decide +kernel⟩
    · exact clear_ofInt v.toInt
  | .var name t, h => by
    have hname := isName_bytes (Bool.and_eq_true_iff.1 h).1
    exact ⟨hname.1, hname.2.1⟩
  | .location e, h => by
    rw [form]
    split
    · exact ⟨by decide +kernel, clear_ofNat _, clear_ofNat _, clear_ofNat _, trivial⟩
    · exact ⟨by decide +kernel, clear_form e h, trivial⟩
  | .widget e, h => by
    rw [form]
    split
    · exact ⟨by decide +kernel, clear_ofNat _, clear_ofNat _, trivial⟩
    · exact ⟨by decide +kernel, clear_form e h, trivial⟩
  | .color e, h => by
    rw [form]
    split
    · exact clear_colorText _
    · exact ⟨by decide +kernel, clear_form e h, trivial⟩
  | .cast t e, h => clear_form e h
  | .tuple es, h => ⟨by simp, clearAll_formAll es h⟩

theorem clearAll_formAll : (es : List Expr) → areReadable es = true → ClearAll (formAll es)
  | [], _ => trivial
  | e :: es, h => by
    obtain ⟨he, hes⟩ := Bool.and_eq_true_iff.1 h
    exact ⟨clear_form e he, clearAll_formAll es hes⟩

end

/-! ## Reading the form back -/

/-- Only an integer literal is packed, and its number tells it. -/
theorem eq_int_of_packed? {e : Expr} {n : Nat} (h : e.packed? = some n) :
    e = .int (Int32.ofInt n) := by
  cases e with
  | int v =>
    simp only [packed?] at h
    split at h
    · have hv : 0 ≤ v.toInt := Int32.le_iff_toInt_le.1 ‹0 ≤ v›
      rw [← Option.some.inj h, Int.toNat_of_nonneg hv, Int32.ofInt_toInt]
    · cases h
  | _ => cases h

/-- A coordinate is put together from its three parts. -/
theorem ofInt_location (n : Nat) :
    Int32.ofInt (n / (axisSize * axisSize) : Nat) * 268435456 + Int32.ofInt (n / axisSize % axisSize : Nat) * 16384 +
      Int32.ofInt (n % axisSize : Nat) = Int32.ofInt n := by
  have hn : (n : Int) = (n / (axisSize * axisSize) : Nat) * 268435456 +
      (n / axisSize % axisSize : Nat) * 16384 + (n % axisSize : Nat) := by
    simp only [axisSize]
    omega
  rw [hn, Int32.ofInt_add, Int32.ofInt_add, Int32.ofInt_mul, Int32.ofInt_mul]
  rfl

/-- A component is put together from its two parts. -/
theorem ofInt_widget (n : Nat) :
    Int32.ofInt (n / interfaceSize : Nat) * 65536 + Int32.ofInt (n % interfaceSize : Nat) = Int32.ofInt n := by
  have hn : (n : Int) = (n / interfaceSize : Nat) * 65536 + (n % interfaceSize : Nat) := by
    simp only [interfaceSize]
    omega
  rw [hn, Int32.ofInt_add, Int32.ofInt_mul]
  rfl

mutual

/-- The form of a readable expression stands for what is left of the expression when erased. -/
theorem meaning_form : (e : Expr) → e.isReadable = true → e.form.meaning = e.erased
  | .int v, _ => by rw [form, meaning, erased, readWord_ofInt, Int32.ofInt_toInt]
  | .long v, _ => by rw [form, meaning, erased, readWord_long, Int64.ofInt_toInt]
  | .string _, _ | .char _, _ | .placeholder _, _ => rfl
  | .boolean b, _ => readWord_boolean b
  | .nullable v, _ => by
    rw [form, meaning, erased]
    split
    · subst v
      exact readWord_null
    · rw [readWord_ofInt, Int32.ofInt_toInt]
  | .var name t, h => by
    obtain ⟨hname, hreserved⟩ := Bool.and_eq_true_iff.1 h
    exact readWord_name hname (by simpa using hreserved)
  | .location e, h => by
    rw [form, erased]
    cases hp : e.packed? with
    | none => simp only [meaning, meaningAll, readCall_location, readParts_singleton, meaning_form e h]
    | some n =>
      rw [eq_int_of_packed? hp]
      simp only [meaning, meaningAll, readWord_ofNat, readCall_location, readParts, ofInt_location,
        erased]
  | .widget e, h => by
    rw [form, erased]
    cases hp : e.packed? with
    | none => simp only [meaning, meaningAll, readCall_widget, readParts_singleton, meaning_form e h]
    | some n =>
      rw [eq_int_of_packed? hp]
      simp only [meaning, meaningAll, readWord_ofNat, readCall_widget, readParts, ofInt_widget, erased]
  | .color e, h => by
    rw [form, erased]
    cases hp : e.packed? with
    | none => simp only [meaning, meaningAll, readCall_color, readParts_singleton, meaning_form e h]
    | some n =>
      rw [eq_int_of_packed? hp]
      simp only [meaning, readWord_colorText, erased]
  | .cast t e, h => by rw [form, meaning, erased, meaning_form e h]
  | .tuple es, h => by
    rw [form, meaning, erased, meaningAll_formAll es h, readCall_nil]

theorem meaningAll_formAll : (es : List Expr) → areReadable es = true →
    meaningAll (formAll es) = erasedAll es
  | [], _ => rfl
  | e :: es, h => by
    obtain ⟨he, hes⟩ := Bool.and_eq_true_iff.1 h
    rw [formAll, meaningAll, erasedAll, meaning_form e he, meaningAll_formAll es hes]

end

/-- Readable expressions with the same text are the same but for the types of variables, the places of
the other types and integers that could be null. -/
theorem print_unambiguous {e f : Expr} (he : e.isReadable = true) (hf : f.isReadable = true)
    (h : e.print = f.print) : e.erased = f.erased := by
  rw [print_eq_text, print_eq_text] at h
  have hform := eq_of_text_eq (clear_form e he) (clear_form f hf) h
  rw [← meaning_form e he, hform, meaning_form f hf]

theorem print_of_retyped_pair :
    let t : Ty := .composite ⟨.shared, 0, [.int, .string]⟩
    let u : Ty := .composite ⟨.shared, 7, [.int, .string]⟩
    let e : Expr := .tuple [.nullable 5, .cast t (.location (.var (utf8 "x") t)), .char 0x28]
    let f : Expr := .tuple [.int 5, .cast u (.location (.var (utf8 "x") (.atomic .int))), .char 0x28]
    e.isReadable = true ∧ f.isReadable = true ∧ e.print = f.print ∧ e.erased = f.erased := by
  intro t u e f
  have he : e.isReadable = true := by decide +kernel
  have hf : f.isReadable = true := by decide +kernel
  have hprint : e.print = f.print := by rfl
  exact ⟨he, hf, hprint, print_unambiguous he hf hprint⟩

end Expr

end StackTypes
