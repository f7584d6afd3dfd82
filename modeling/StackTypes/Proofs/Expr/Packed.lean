/-
Packed constants are printed without loss. A coordinate and a component are printed as their parts, a
colour in hexadecimal, and a negative number, which has no parts, as the number itself. Each layout
tells the number that it was made for, and the minus sign tells the layouts apart, so no two numbers
have the same text.
-/
import StackTypes.Proofs.Expr.Form

namespace StackTypes

open Numeral

/-! ## Layouts -/

/-- A coordinate: three bits for its level and 14 bits for each axis. -/
@[ext]
structure Coordinate where
  level : Fin 8
  x : Fin 16384
  y : Fin 16384

/-- A component: 15 bits for its interface and 16 bits for its place there. -/
@[ext]
structure Component where
  interface : Fin 32768
  index : Fin 65536

namespace Coordinate

/-- The level stands above 28 bits, the first axis above 14. -/
def packed (c : Coordinate) : Nat :=
  c.level.val * 268435456 + c.x.val * 16384 + c.y.val

/-- Level and axes in decimal, without spare zeros. -/
def WrittenAs (c : Coordinate) (s : Bytes) : Prop :=
  ∃ level x y, decimal.Spells level c.level.val ∧ decimal.Spells x c.x.val ∧
    decimal.Spells y c.y.val ∧
    s = utf8 "location(" ++ level ++ utf8 ", " ++ x ++ utf8 ", " ++ y ++ utf8 ")"

end Coordinate

namespace Component

/-- The interface stands above 16 bits. -/
def packed (c : Component) : Nat :=
  c.interface.val * 65536 + c.index.val

/-- Interface and place in decimal, without spare zeros. -/
def WrittenAs (c : Component) (s : Bytes) : Prop :=
  ∃ interface index, decimal.Spells interface c.interface.val ∧ decimal.Spells index c.index.val ∧
    s = utf8 "widget(" ++ interface ++ utf8 ", " ++ index ++ utf8 ")"

end Component

/-- The expressions that are made of a packed number. -/
inductive Packing where
  | location
  | widget
  | color

namespace Packing

/-- The expression that is made of an operand. -/
def wrap : Packing → Expr → Expr
  | .location => .location
  | .widget => .widget
  | .color => .color

/-- The name of the call that it is printed as, unless it is a colour in hexadecimal. -/
def name : Packing → Bytes
  | .location => utf8 "location"
  | .widget => utf8 "widget"
  | .color => utf8 "color"

/-- How a number is written that is not negative. -/
def Layout : Packing → Nat → Bytes → Prop
  | .location, n, s => ∃ c : Coordinate, c.packed = n ∧ c.WrittenAs s
  | .widget, n, s => ∃ c : Component, c.packed = n ∧ c.WrittenAs s
  | .color, n, s => ∃ ds, sixHex.Spells ds n ∧ s = utf8 "0x" ++ ds

/-- How the number `-n` is written. -/
def Negated (p : Packing) (n : Nat) (s : Bytes) : Prop :=
  ∃ ds, decimal.Spells ds n ∧ s = p.name ++ utf8 "(-" ++ ds ++ utf8 ")"

/-! ## The printed texts have these layouts -/

theorem layout_locationText {n : Nat} (hn : n < 2147483648) :
    location.Layout n (Expr.locationText n) := by
  have hlevel : n / 268435456 < 8 := by omega
  have haxis : ∀ k, k % 16384 < 16384 := fun k => Nat.mod_lt k (by decide)
  refine ⟨⟨⟨n / 268435456, hlevel⟩, ⟨n / 16384 % 16384, haxis _⟩, ⟨n % 16384, haxis _⟩⟩, ?_,
    _, _, _, Style.spells_ofNat _, Style.spells_ofNat _, Style.spells_ofNat _, ?_⟩
  · simp only [Coordinate.packed]
    omega
  · have hopen : utf8 "location(" = utf8 "location" ++ utf8 "(" := by decide +kernel
    simp [Expr.locationText, Expr.call, Expr.axisSize, Bytes.joinWith, hopen]

theorem layout_widgetText {n : Nat} (hn : n < 2147483648) :
    widget.Layout n (Expr.widgetText n) := by
  have hinterface : n / 65536 < 32768 := by omega
  have hindex : n % 65536 < 65536 := Nat.mod_lt n (by decide)
  refine ⟨⟨⟨n / 65536, hinterface⟩, ⟨n % 65536, hindex⟩⟩, ?_,
    _, _, Style.spells_ofNat _, Style.spells_ofNat _, ?_⟩
  · simp only [Component.packed]
    omega
  · have hopen : utf8 "widget(" = utf8 "widget" ++ utf8 "(" := by decide +kernel
    simp [Expr.widgetText, Expr.call, Expr.interfaceSize, Bytes.joinWith, hopen]

theorem layout_colorText (n : Nat) : color.Layout n (Expr.colorText n) :=
  ⟨hex upper 6 n, Style.spells_hex n, rfl⟩

/-- A number that is not negative is printed in its layout. -/
theorem layout_print (p : Packing) {v : Int32} (hv : 0 ≤ v.toInt) :
    p.Layout v.toInt.toNat (p.wrap (.int v)).print := by
  have hle : 0 ≤ v := Int32.le_iff_toInt_le.2 hv
  have hpacked : (Expr.int v).packed? = some v.toInt.toNat := if_pos hle
  have hlt : v.toInt.toNat < 2147483648 := by
    have := v.toInt_lt
    omega
  cases p with
  | location =>
    simp only [wrap, Expr.print, hpacked]
    exact layout_locationText hlt
  | widget =>
    simp only [wrap, Expr.print, hpacked]
    exact layout_widgetText hlt
  | color =>
    simp only [wrap, Expr.print, hpacked]
    exact layout_colorText _

/-- A negative number is printed as the number. -/
theorem negated_print (p : Packing) {v : Int32} (hv : v.toInt < 0) :
    p.Negated v.toInt.natAbs (p.wrap (.int v)).print := by
  have hpacked : (Expr.int v).packed? = none :=
    if_neg fun h => absurd (Int32.le_iff_toInt_le.1 h) (Int.not_le.2 hv)
  have hprint : (p.wrap (.int v)).print = Expr.call p.name [ofInt v.toInt] := by
    cases p <;> simp only [wrap, name, Expr.print, hpacked]
  have hminus : utf8 "(-" = utf8 "(" ++ [0x2D] := by decide +kernel
  refine ⟨_, Style.spells_ofNat _, ?_⟩
  rw [hprint, ofInt, if_pos hv]
  simp [Expr.call, Bytes.joinWith, hminus]

end Packing

/-! ## A layout tells the number -/

/-- A numeral in front of a byte that is no digit tells its number and what follows. -/
theorem Numeral.Style.Spells.append_cons_inj {st : Style} {s t x y : Bytes} {m n : Nat} {c : UInt8}
    (hs : st.Spells s m) (ht : st.Spells t n) (hc : st.isDigit c = false)
    (h : s ++ c :: x = t ++ c :: y) : m = n ∧ x = y := by
  obtain ⟨rfl, hrest⟩ := Form.append_inj_of_span hs.digits ht.digits (by simp [hc]) (by simp [hc]) h
  exact ⟨hs.value.symm.trans ht.value, (List.cons.inj hrest).2⟩

theorem Numeral.Style.Spells.not_mem {st : Style} {s : Bytes} {n : Nat} {c : UInt8}
    (hs : st.Spells s n) (hc : st.isDigit c = false) : c ∉ s := by
  intro hmem
  rw [hs.digits c hmem] at hc
  cases hc

theorem Coordinate.WrittenAs.unique {c d : Coordinate} {s : Bytes} (hc : c.WrittenAs s)
    (hd : d.WrittenAs s) : c = d := by
  obtain ⟨l, x, y, hl, hx, hy, rfl⟩ := hc
  obtain ⟨l', x', y', hl', hx', hy', h⟩ := hd
  simp only [Form.utf8_separator, Form.utf8_close, List.append_assoc, List.cons_append,
    List.nil_append] at h
  obtain ⟨hlevel, h⟩ := hl.append_cons_inj hl' rfl (List.append_cancel_left h)
  obtain ⟨hfirst, h⟩ := hx.append_cons_inj hx' rfl (List.cons.inj h).2
  obtain ⟨hsecond, -⟩ := hy.append_cons_inj hy' rfl (List.cons.inj h).2
  exact Coordinate.ext (Fin.ext hlevel) (Fin.ext hfirst) (Fin.ext hsecond)

theorem Component.WrittenAs.unique {c d : Component} {s : Bytes} (hc : c.WrittenAs s)
    (hd : d.WrittenAs s) : c = d := by
  obtain ⟨i, k, hi, hk, rfl⟩ := hc
  obtain ⟨i', k', hi', hk', h⟩ := hd
  simp only [Form.utf8_separator, Form.utf8_close, List.append_assoc, List.cons_append,
    List.nil_append] at h
  obtain ⟨hinterface, h⟩ := hi.append_cons_inj hi' rfl (List.append_cancel_left h)
  obtain ⟨hindex, -⟩ := hk.append_cons_inj hk' rfl (List.cons.inj h).2
  exact Component.ext (Fin.ext hinterface) (Fin.ext hindex)

namespace Packing

/-- A number that is not negative is told by its layout. -/
theorem Layout.unique {p : Packing} {m n : Nat} {s : Bytes} (hm : p.Layout m s)
    (hn : p.Layout n s) : m = n := by
  cases p with
  | location =>
    obtain ⟨c, rfl, hc⟩ := hm
    obtain ⟨d, rfl, hd⟩ := hn
    rw [hc.unique hd]
  | widget =>
    obtain ⟨c, rfl, hc⟩ := hm
    obtain ⟨d, rfl, hd⟩ := hn
    rw [hc.unique hd]
  | color =>
    obtain ⟨ds, hds, rfl⟩ := hm
    obtain ⟨ds', hds', h⟩ := hn
    rw [← hds.value, List.append_cancel_left h, hds'.value]

/-- A negative number is told by its text. -/
theorem Negated.unique {p : Packing} {m n : Nat} {s : Bytes} (hm : p.Negated m s)
    (hn : p.Negated n s) : m = n := by
  obtain ⟨ds, hds, rfl⟩ := hm
  obtain ⟨ds', hds', h⟩ := hn
  rw [← hds.value, List.append_cancel_left (List.append_cancel_right h), hds'.value]

theorem Layout.minus_not_mem {p : Packing} {n : Nat} {s : Bytes} (h : p.Layout n s) : 0x2D ∉ s := by
  have hfixed : ∀ t ∈ ["location(", "widget(", "0x", ", ", ")"], (0x2D : UInt8) ∉ utf8 t := by
    decide +kernel
  have hdecimal : decimal.isDigit 0x2D = false := rfl
  cases p with
  | location =>
    obtain ⟨c, -, l, x, y, hl, hx, hy, rfl⟩ := h
    simp [hfixed, hl.not_mem hdecimal, hx.not_mem hdecimal, hy.not_mem hdecimal]
  | widget =>
    obtain ⟨c, -, i, k, hi, hk, rfl⟩ := h
    simp [hfixed, hi.not_mem hdecimal, hk.not_mem hdecimal]
  | color =>
    obtain ⟨ds, hds, rfl⟩ := h
    have hhex : sixHex.isDigit 0x2D = false := rfl
    simp [hfixed, hds.not_mem hhex]

theorem Negated.minus_mem {p : Packing} {n : Nat} {s : Bytes} (h : p.Negated n s) : 0x2D ∈ s := by
  have hminus : 0x2D ∈ utf8 "(-" := by decide +kernel
  obtain ⟨ds, -, rfl⟩ := h
  simp [hminus]

/-- A packed number that is not negative is printed in its layout, a negative one as the number, and
different numbers are printed differently. -/
theorem print_packed_lossless (p : Packing) :
    (∀ v : Int32, 0 ≤ v.toInt → p.Layout v.toInt.toNat (p.wrap (.int v)).print) ∧
      (∀ v : Int32, v.toInt < 0 → p.Negated v.toInt.natAbs (p.wrap (.int v)).print) ∧
      Function.Injective fun v : Int32 => (p.wrap (.int v)).print := by
  refine ⟨fun v => p.layout_print, fun v => p.negated_print, ?_⟩
  intro v w h
  have h : (p.wrap (.int v)).print = (p.wrap (.int w)).print := h
  rw [← Int32.toInt_inj]
  -- the minus sign shows which of the two ways a text is written in, and each way has one number
  rcases Int.lt_or_le v.toInt 0 with hv | hv
  · have hnegated := p.negated_print hv
    rw [h] at hnegated
    rcases Int.lt_or_le w.toInt 0 with hw | hw
    · have := hnegated.unique (p.negated_print hw)
      omega
    · exact absurd hnegated.minus_mem (p.layout_print hw).minus_not_mem
  · have hlayout := p.layout_print hv
    rw [h] at hlayout
    rcases Int.lt_or_le w.toInt 0 with hw | hw
    · exact absurd (p.negated_print hw).minus_mem hlayout.minus_not_mem
    · have := hlayout.unique (p.layout_print hw)
      omega

/-- The largest number, a colour of seven digits, the least number, and two components that have the
same digits. -/
theorem print_packed_at_limits :
    (0 ≤ (2147483647 : Int32).toInt ∧
        (Expr.location (.int 2147483647)).print = utf8 "location(7, 16383, 16383)" ∧
        location.Layout 2147483647 (Expr.location (.int 2147483647)).print) ∧
      (0 ≤ (16777216 : Int32).toInt ∧
        (Expr.color (.int 16777216)).print = utf8 "0x1000000" ∧
        color.Layout 16777216 (Expr.color (.int 16777216)).print) ∧
      ((-2147483648 : Int32).toInt < 0 ∧
        (Expr.color (.int (-2147483648))).print = utf8 "color(-2147483648)" ∧
        color.Negated 2147483648 (Expr.color (.int (-2147483648))).print) ∧
      (Expr.widget (.int 65547)).print = utf8 "widget(1, 11)" ∧
      (Expr.widget (.int 720897)).print = utf8 "widget(11, 1)" ∧
      (Expr.widget (.int 65547)).print ≠ (Expr.widget (.int 720897)).print := by
  refine ⟨⟨by decide, by decide +kernel, ?_⟩, ⟨by decide, by decide +kernel, ?_⟩,
    ⟨by decide, by decide +kernel, ?_⟩, by decide +kernel, by decide +kernel, ?_⟩
  · exact (print_packed_lossless location).1 2147483647 (by decide)
  · exact (print_packed_lossless color).1 16777216 (by decide)
  · exact (print_packed_lossless color).2.1 (-2147483648) (by decide)
  · intro h
    exact absurd ((print_packed_lossless widget).2.2 h) (by decide)

end Packing

end StackTypes
