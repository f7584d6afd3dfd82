/-
Written forms: words, quotations, slots for a type, calls and casts. The row of word bytes that a form
starts with and the byte after it tell what the form is, a tuple being a call without a name. Only a
cast and a tuple start alike: the first parenthesis that closes in a cast has a blank after it, which
in a tuple it never has unless something was opened before. So a text that starts with a form has one
form at its start, in front of everything that a form can stand in front of.
-/
import StackTypes.Expr.Printer
import StackTypes.Proofs.Descriptor.Display
import StackTypes.Proofs.Text.Quoted

namespace StackTypes

open Descriptor (memberText_singleton memberText_cons_cons memberText_injective mem_catalog)

/-- What an expression is written as. A tuple is a call without a name. -/
inductive Form where
  | word (w : Bytes)
  | string (s : Bytes)
  | char (v : Int32)
  | slot (members : List Atomic)
  | call (name : Bytes) (args : List Form)
  | cast (members : List Atomic) (f : Form)

namespace Form

mutual

/-- The text of a form. -/
def text : Form → Bytes
  | .word w => w
  | .string s => Quoted.text s
  | .char v => Quoted.codePoint v
  | .slot members => utf8 "<" ++ memberText members ++ utf8 "?>"
  | .call name args => Expr.call name (textAll args)
  | .cast members f => utf8 "(" ++ memberText members ++ utf8 ") " ++ f.text

/-- The texts of several forms, in order. -/
def textAll : List Form → List Bytes
  | [] => []
  | f :: fs => f.text :: textAll fs

end

/-! ## Bytes -/

/-- A letter from A to Z in either case. -/
def isLetter (c : UInt8) : Bool :=
  (0x41 ≤ c && c ≤ 0x5A) || (0x61 ≤ c && c ≤ 0x7A)

/-- A byte of a name, a reserved word or a numeral. -/
def isWordByte (c : UInt8) : Bool :=
  isLetter c || Integer.isDecimal c || c == 0x5F || c == 0x2D

/-- A quote, a parenthesis or an angle bracket that opens something. -/
def isOpening (c : UInt8) : Bool :=
  c == 0x22 || c == 0x27 || c == 0x28 || c == 0x3C

/-- Neither opens something nor closes a parenthesis. -/
def isFlat (c : UInt8) : Bool :=
  !isOpening c && c != 0x29

theorem utf8_open : utf8 "(" = [0x28] := by decide +kernel

theorem utf8_separator : utf8 ", " = [0x2C, 0x20] := by decide +kernel

theorem utf8_close : utf8 ")" = [0x29] := by decide +kernel

theorem isFlat_of_isWordByte {c : UInt8} (h : isWordByte c = true) : isFlat c = true := by
  have all : ∀ n < 256, isWordByte n.toUInt8 = true → isFlat n.toUInt8 = true := by decide +kernel
  simpa using all c.toNat c.toNat_lt (by simpa using h)

theorem isWordByte_eq_false_of_isOpening {c : UInt8} (h : isOpening c = true) : isWordByte c = false := by
  rw [Bool.eq_false_iff]
  intro hw
  have := isFlat_of_isWordByte hw
  simp [isFlat, h] at this

/-- The text of members opens nothing, closes no parenthesis and does not end a slot. -/
theorem flat_of_mem_memberText {s : List Atomic} :
    ∀ c ∈ memberText s, isFlat c = true ∧ c ≠ 0x3E := by
  have hname : ∀ a ∈ Atomic.catalog, ∀ c ∈ a.name, isFlat c = true ∧ c ≠ 0x3E := by decide +kernel
  induction s with
  | nil => simp [memberText, Bytes.joinWith]
  | cons a s ih =>
    cases s with
    | nil =>
      rw [memberText_singleton]
      exact hname a (mem_catalog a)
    | cons b s =>
      intro c hc
      rw [memberText_cons_cons, List.mem_append, List.mem_cons, List.mem_cons] at hc
      rcases hc with hc | rfl | rfl | hc
      · exact hname a (mem_catalog a) c hc
      · decide
      · decide
      · exact ih c hc

/-- Two texts are cut in the same way where the bytes of some kind end. -/
theorem append_inj_of_span {P : UInt8 → Prop} {u v x y : Bytes} (hu : ∀ c ∈ u, P c)
    (hv : ∀ c ∈ v, P c) (hx : ∀ c ∈ x.head?, ¬ P c) (hy : ∀ c ∈ y.head?, ¬ P c)
    (h : u ++ x = v ++ y) : u = v ∧ x = y := by
  induction u generalizing v with
  | nil =>
    cases v with
    | nil => exact ⟨rfl, h⟩
    | cons d v =>
      obtain rfl : x = d :: (v ++ y) := h
      exact absurd (hv d (List.mem_cons_self ..)) (hx d rfl)
  | cons c u ih =>
    cases v with
    | nil =>
      obtain rfl : c :: (u ++ x) = y := h
      exact absurd (hu c (List.mem_cons_self ..)) (hy c rfl)
    | cons d v =>
      obtain ⟨rfl, htail⟩ := List.cons.inj h
      obtain ⟨rfl, hxy⟩ := ih (fun c hc => hu c (List.mem_cons_of_mem _ hc))
        (fun c hc => hv c (List.mem_cons_of_mem _ hc)) htail
      exact ⟨rfl, hxy⟩

/-! ## The parts of a form -/

/-- The row of word bytes at the start. -/
def lead : Form → Bytes
  | .word w => w
  | .call name _ => name
  | _ => []

/-- The byte after them, if it belongs to the form. -/
def mark : Form → Option UInt8
  | .word _ => none
  | .string _ => some 0x22
  | .char _ => some 0x27
  | .slot _ => some 0x3C
  | .call _ _ | .cast _ _ => some 0x28

/-- What follows the first argument of a call. -/
def moreArgs : List Form → Bytes
  | [] => [0x29]
  | f :: fs => 0x2C :: 0x20 :: (f.text ++ moreArgs fs)

/-- What follows the opening parenthesis of a call. -/
def argsText : List Form → Bytes
  | [] => [0x29]
  | f :: fs => f.text ++ moreArgs fs

/-- What follows the byte after the first word bytes. -/
def rest : Form → Bytes
  | .word _ => []
  | .string s => (Quoted.text s).tail
  | .char v => (Quoted.codePoint v).tail
  | .slot members => memberText members ++ [0x3F] ++ [0x3E]
  | .call _ args => argsText args
  | .cast members f => memberText members ++ 0x29 :: 0x20 :: f.text

theorem joinWith_textAll (f : Form) (fs : List Form) :
    Bytes.joinWith [0x2C, 0x20] (textAll (f :: fs)) ++ [0x29] = f.text ++ moreArgs fs := by
  induction fs generalizing f with
  | nil => simp [textAll, Bytes.joinWith, moreArgs]
  | cons g gs ih =>
    have hg := ih g
    simp only [textAll, Bytes.joinWith] at hg ⊢
    simp [moreArgs, ← hg]

/-- A call is its name, an opening parenthesis and the arguments. -/
theorem text_call (name : Bytes) (args : List Form) :
    (call name args).text = name ++ 0x28 :: argsText args := by
  rw [text, Expr.call, utf8_open, utf8_separator, utf8_close]
  cases args with
  | nil => simp [textAll, Bytes.joinWith, argsText]
  | cons f fs =>
    rw [List.append_assoc, joinWith_textAll, argsText]
    simp

/-- The text of a form is put together from its three parts. -/
theorem text_eq (f : Form) : f.text = f.lead ++ (f.mark.toList ++ f.rest) := by
  cases f with
  | word w => simp [text, lead, mark, rest]
  | string s => simp [text, lead, mark, rest, Quoted.text]
  | char v => simp [text, lead, mark, rest, Quoted.codePoint]
  | slot members =>
    have hopen : utf8 "<" = [0x3C] := by decide +kernel
    have hclose : utf8 "?>" = [0x3F, 0x3E] := by decide +kernel
    simp [text, lead, mark, rest, hopen, hclose]
  | call name args => simp [text_call, lead, mark, rest]
  | cast members f =>
    have hclose : utf8 ") " = [0x29, 0x20] := by decide +kernel
    simp [text, lead, mark, rest, utf8_open, hclose]

theorem isOpening_of_mark {f : Form} {c : UInt8} (h : f.mark = some c) : isOpening c = true := by
  cases f <;> simp only [mark, Option.some.injEq, reduceCtorEq] at h <;> subst h <;> decide

theorem rest_of_mark {f : Form} (h : f.mark = none) : f.rest = [] := by
  cases f <;> simp_all [mark, rest]

/-! ## Clear forms -/

mutual

/-- Words and the names of calls are of word bytes, words are not empty, and the numbers in single
quotes are code points. -/
def Clear : Form → Prop
  | .word w => w ≠ [] ∧ ∀ c ∈ w, isWordByte c = true
  | .string _ | .slot _ => True
  | .char v => Quoted.isCodePoint v = true
  | .call name args => (∀ c ∈ name, isWordByte c = true) ∧ ClearAll args
  | .cast _ f => f.Clear

/-- All of several forms are clear. -/
def ClearAll : List Form → Prop
  | [] => True
  | f :: fs => f.Clear ∧ ClearAll fs

end

theorem Clear.lead_bytes {f : Form} (hf : f.Clear) : ∀ c ∈ f.lead, isWordByte c = true := by
  cases f with
  | word w => exact hf.2
  | call name args => exact hf.1
  | _ => simp [lead]

/-- What can stand after a form: nothing, a comma or a closing parenthesis. -/
def Ends (r : Bytes) : Prop :=
  ∀ c ∈ r.head?, c = 0x2C ∨ c = 0x29

theorem ends_moreArgs (fs : List Form) (r : Bytes) : Ends (moreArgs fs ++ r) := by
  cases fs <;> simp [Ends, moreArgs]

theorem Ends.not_blank {t : Bytes} : ¬ Ends (0x20 :: t) := by
  intro h
  exact absurd (h 0x20 rfl) (by decide)

theorem Ends.not_opening {c : UInt8} {t : Bytes} (h : Ends (c :: t)) : isOpening c = false := by
  rcases h c rfl with rfl | rfl <;> decide

/-- What stands after the word bytes at the start of a form is not one of them. -/
theorem head_after_lead (f : Form) {r : Bytes} (hr : Ends r) :
    ∀ c ∈ (f.mark.toList ++ f.rest ++ r).head?, ¬ isWordByte c = true := by
  intro c hc
  cases hm : f.mark with
  | none =>
    rw [hm, rest_of_mark hm] at hc
    rcases hr c (by simpa using hc) with rfl | rfl <;> decide
  | some d =>
    obtain rfl : d = c := by simpa [hm] using hc
    rw [isWordByte_eq_false_of_isOpening (isOpening_of_mark hm)]
    exact Bool.false_ne_true

/-- Texts that start with two forms and go on alike have the same parts. -/
theorem parts_eq {f g : Form} (hf : f.Clear) (hg : g.Clear) {r s : Bytes} (hr : Ends r) (hs : Ends s)
    (h : f.text ++ r = g.text ++ s) :
    f.lead = g.lead ∧ f.mark = g.mark ∧ f.rest ++ r = g.rest ++ s := by
  rw [text_eq, text_eq g, List.append_assoc f.lead, List.append_assoc g.lead] at h
  obtain ⟨hlead, hrest⟩ := append_inj_of_span hf.lead_bytes hg.lead_bytes (head_after_lead f hr)
    (head_after_lead g hs) h
  refine ⟨hlead, ?_⟩
  cases hm : f.mark with
  | none =>
    cases hn : g.mark with
    | none => simpa [hm, hn] using hrest
    | some d =>
      simp only [hm, hn, rest_of_mark hm, Option.toList, List.nil_append, List.cons_append] at hrest
      subst hrest
      exact absurd hr.not_opening (by simp [isOpening_of_mark hn])
  | some c =>
    cases hn : g.mark with
    | none =>
      simp only [hm, hn, rest_of_mark hn, Option.toList, List.nil_append, List.cons_append] at hrest
      subst hrest
      exact absurd hs.not_opening (by simp [isOpening_of_mark hm])
    | some d => simpa [hm, hn] using hrest

/-- A form does not start with a closing parenthesis. -/
theorem text_ne_close {f : Form} (hf : f.Clear) (r s : Bytes) : f.text ++ r ≠ 0x29 :: s := by
  intro h
  rw [text_eq] at h
  cases hl : f.lead with
  | nil =>
    cases hm : f.mark with
    | none =>
      cases f with
      | word w => exact hf.1 hl
      | _ => simp [mark] at hm
    | some c =>
      obtain ⟨rfl, -⟩ : c = 0x29 ∧ f.rest ++ r = s := by simpa [hl, hm] using h
      exact absurd (isOpening_of_mark hm) (by decide)
  | cons c u =>
    have hc := hf.lead_bytes c (by simp [hl])
    obtain ⟨rfl, -⟩ : c = 0x29 ∧ _ := by simpa [hl] using h
    exact absurd hc (by decide)

/-! ## Casts and tuples -/

/-- The first parenthesis of a text that closes stands in front of `r`, unless something is opened
before. -/
inductive Closes (r : Bytes) : Bytes → Prop
  | close : Closes r (0x29 :: r)
  | opens {c : UInt8} (hc : isOpening c = true) (t : Bytes) : Closes r (c :: t)
  | flat {c : UInt8} (hc : isFlat c = true) {t : Bytes} (ht : Closes r t) : Closes r (c :: t)

theorem Closes.append {r u t : Bytes} (hu : ∀ c ∈ u, isFlat c = true) (ht : Closes r t) :
    Closes r (u ++ t) := by
  induction u with
  | nil => exact ht
  | cons c u ih =>
    exact .flat (hu c (List.mem_cons_self ..)) (ih fun c hc => hu c (List.mem_cons_of_mem _ hc))

/-- A form in front keeps this: it opens something, or it is passed over. -/
theorem closes_text {f : Form} (hf : f.Clear) {r t : Bytes} (ht : Closes r t) :
    Closes r (f.text ++ t) := by
  have hflat : ∀ c ∈ f.lead, isFlat c = true := fun c hc => isFlat_of_isWordByte (hf.lead_bytes c hc)
  rw [text_eq, List.append_assoc]
  apply Closes.append hflat
  cases hm : f.mark with
  | none => rwa [rest_of_mark hm]
  | some c => exact .opens (isOpening_of_mark hm) _

theorem closes_moreArgs : {fs : List Form} → ClearAll fs → (r : Bytes) → Closes r (moreArgs fs ++ r)
  | [], _, _ => .close
  | f :: fs, ⟨hf, hfs⟩, r => by
    rw [moreArgs, List.cons_append, List.cons_append, List.append_assoc]
    exact .flat (by decide) (.flat (by decide) (closes_text hf (closes_moreArgs hfs r)))

/-- In the arguments of a call the first parenthesis that closes ends the call, unless something is
opened before. -/
theorem closes_argsText {fs : List Form} (h : ClearAll fs) (r : Bytes) : Closes r (argsText fs ++ r) := by
  cases fs with
  | nil => exact .close
  | cons f fs =>
    rw [argsText, List.append_assoc]
    exact closes_text h.1 (closes_moreArgs h.2 r)

/-- A parenthesis that closes with only flat bytes before it is the one in front of `r`. -/
theorem Closes.eq_of_flat {r t u : Bytes} (hu : ∀ c ∈ u, isFlat c = true)
    (h : Closes r (u ++ 0x29 :: t)) : t = r := by
  induction u with
  | nil =>
    cases h with
    | close => rfl
    | opens hc => exact absurd hc (by decide)
    | flat hc => exact absurd hc (by decide)
  | cons c u ih =>
    have hc := hu c (List.mem_cons_self ..)
    cases h with
    | close => exact absurd hc (by decide)
    | opens ho => simp [isFlat, ho] at hc
    | flat _ ht => exact ih (fun c hc => hu c (List.mem_cons_of_mem _ hc)) ht

/-- No cast reads as a tuple does, because of the blank after its first parenthesis that closes. -/
theorem rest_cast_ne_argsText {members : List Atomic} {t s : Bytes} {args : List Form}
    (hargs : ClearAll args) (hs : Ends s) :
    memberText members ++ 0x29 :: 0x20 :: t ≠ argsText args ++ s := by
  intro h
  have hclose := closes_argsText hargs s
  rw [← h] at hclose
  obtain rfl := hclose.eq_of_flat fun c hc => (flat_of_mem_memberText c hc).1
  exact hs.not_blank

/-! ## A text has one form at its start -/

mutual

/-- If two texts that start with clear forms are the same, so are the forms and what follows them. -/
theorem text_append_inj : (f g : Form) → f.Clear → g.Clear → {r s : Bytes} → Ends r → Ends s →
    f.text ++ r = g.text ++ s → f = g ∧ r = s
  | .word w, g, hf, hg, r, s, hr, hs, h => by
    obtain ⟨hlead, hmark, hrest⟩ := parts_eq hf hg hr hs h
    cases g with
    | word v => exact ⟨congrArg word hlead, hrest⟩
    | _ => cases hmark
  | .string t, g, hf, hg, r, s, hr, hs, h => by
    obtain ⟨-, hmark, -⟩ := parts_eq hf hg hr hs h
    cases g with
    | string u =>
      obtain ⟨rfl, hrs⟩ := Quoted.text_append_inj h
      exact ⟨rfl, hrs⟩
    | _ => cases hmark
  | .char v, g, hf, hg, r, s, hr, hs, h => by
    obtain ⟨-, hmark, -⟩ := parts_eq hf hg hr hs h
    cases g with
    | char w =>
      obtain ⟨rfl, hrs⟩ := Quoted.codePoint_append_inj hf hg h
      exact ⟨rfl, hrs⟩
    | _ => cases hmark
  | .slot m, g, hf, hg, r, s, hr, hs, h => by
    obtain ⟨-, hmark, hrest⟩ := parts_eq hf hg hr hs h
    cases g with
    | slot n =>
      -- the first `>` is the one that ends the slot
      have hbefore : ∀ m : List Atomic, ∀ c ∈ memberText m ++ [0x3F], c ≠ 0x3E := by
        intro m c hc
        rcases List.mem_append.1 hc with hc | hc
        · exact (flat_of_mem_memberText c hc).2
        · obtain rfl := List.mem_singleton.1 hc
          decide
      simp only [rest, List.append_assoc (memberText _ ++ [0x3F])] at hrest
      obtain ⟨hm, hrs⟩ := append_inj_of_span (hbefore m) (hbefore n) (by simp) (by simp) hrest
      rw [memberText_injective (List.append_cancel_right hm)]
      exact ⟨rfl, List.append_cancel_left hrs⟩
    | _ => cases hmark
  | .call name fs, g, hf, hg, r, s, hr, hs, h => by
    obtain ⟨hlead, hmark, hrest⟩ := parts_eq hf hg hr hs h
    cases g with
    | call other gs =>
      obtain rfl : name = other := hlead
      obtain ⟨rfl, hrs⟩ := argsText_append_inj fs gs hf.2 hg.2 hrest
      exact ⟨rfl, hrs⟩
    | cast m g =>
      simp only [rest, List.append_assoc, List.cons_append] at hrest
      exact absurd hrest.symm (rest_cast_ne_argsText hf.2 hr)
    | _ => cases hmark
  | .cast m f, g, hf, hg, r, s, hr, hs, h => by
    obtain ⟨-, hmark, hrest⟩ := parts_eq hf hg hr hs h
    cases g with
    | call name gs =>
      simp only [rest, List.append_assoc, List.cons_append] at hrest
      exact absurd hrest (rest_cast_ne_argsText hg.2 hs)
    | cast n g =>
      have hbefore : ∀ m : List Atomic, ∀ c ∈ memberText m, c ≠ 0x29 := by
        rintro m c hc rfl
        exact absurd (flat_of_mem_memberText _ hc).1 (by decide)
      simp only [rest, List.append_assoc, List.cons_append] at hrest
      obtain ⟨hm, htail⟩ := append_inj_of_span (hbefore m) (hbefore n) (by simp) (by simp) hrest
      simp only [List.cons.injEq, true_and] at htail
      obtain ⟨rfl, hrs⟩ := text_append_inj f g hf hg hr hs htail
      exact ⟨by rw [memberText_injective hm], hrs⟩
    | _ => cases hmark

theorem argsText_append_inj : (fs gs : List Form) → ClearAll fs → ClearAll gs → {r s : Bytes} →
    argsText fs ++ r = argsText gs ++ s → fs = gs ∧ r = s
  | [], [], _, _, _, _, h => ⟨rfl, (List.cons.inj h).2⟩
  | [], g :: gs, _, hgs, r, s, h => by
    rw [argsText, argsText, List.append_assoc] at h
    exact absurd h.symm (text_ne_close hgs.1 _ _)
  | f :: fs, [], hfs, _, r, s, h => by
    rw [argsText, argsText, List.append_assoc] at h
    exact absurd h (text_ne_close hfs.1 _ _)
  | f :: fs, g :: gs, hfs, hgs, r, s, h => by
    rw [argsText, argsText, List.append_assoc, List.append_assoc] at h
    obtain ⟨rfl, hmore⟩ := text_append_inj f g hfs.1 hgs.1 (ends_moreArgs fs r) (ends_moreArgs gs s) h
    obtain ⟨rfl, hrs⟩ := moreArgs_append_inj fs gs hfs.2 hgs.2 hmore
    exact ⟨rfl, hrs⟩

theorem moreArgs_append_inj : (fs gs : List Form) → ClearAll fs → ClearAll gs → {r s : Bytes} →
    moreArgs fs ++ r = moreArgs gs ++ s → fs = gs ∧ r = s
  | [], [], _, _, _, _, h => ⟨rfl, (List.cons.inj h).2⟩
  | [], _ :: _, _, _, _, _, h | _ :: _, [], _, _, _, _, h =>
    absurd (List.cons.inj h).1 (by decide)
  | f :: fs, g :: gs, hfs, hgs, r, s, h => by
    simp only [moreArgs, List.cons_append, List.append_assoc, List.cons.injEq, true_and] at h
    obtain ⟨rfl, hmore⟩ := text_append_inj f g hfs.1 hgs.1 (ends_moreArgs fs r) (ends_moreArgs gs s) h
    obtain ⟨rfl, hrs⟩ := moreArgs_append_inj fs gs hfs.2 hgs.2 hmore
    exact ⟨rfl, hrs⟩

end

/-- Clear forms with the same text are the same. -/
theorem eq_of_text_eq {f g : Form} (hf : f.Clear) (hg : g.Clear) (h : f.text = g.text) : f = g :=
  (text_append_inj f g hf hg (r := []) (s := []) (by simp [Ends]) (by simp [Ends]) (by rw [h])).1

end Form

end StackTypes
