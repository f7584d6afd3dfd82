/-
Flags as they are given on a command line, and how they are read. A flag with a value is given with
one dash or two, and its value stands behind an equals sign or is the next argument, which is taken
whatever it looks like. In each of these forms reading the flag gives its value to the state and goes
on behind it.
-/
import StackTypes.Command.Flag

namespace StackTypes.Flag

/-- A flag with its value, as it is given. -/
structure Given where
  name : Bytes
  value : Bytes
  /-- With two dashes, not one. -/
  double : Bool
  /-- With the value behind an equals sign, not as the next argument. -/
  attached : Bool
deriving DecidableEq, Repr

namespace Given

/-- The dashes in front of the name. -/
def dashes (g : Given) : Bytes :=
  if g.double then [0x2D, 0x2D] else [0x2D]

/-- The arguments that give the flag. -/
def words (g : Given) : List Bytes :=
  if g.attached then [g.dashes ++ g.name ++ 0x3D :: g.value] else [g.dashes ++ g.name, g.value]

end Given

/-- A name that a flag can be given by: it starts with something else than a dash, and has no equals
sign. -/
structure ProperName (name : Bytes) : Prop where
  starts : ∃ c s, name = c :: s ∧ c ≠ 0x2D
  no_equals : 0x3D ∉ name

theorem properName_cons {c : UInt8} {s : Bytes} (hc : c ≠ 0x2D) (hs : 0x3D ∉ c :: s) :
    ProperName (c :: s) :=
  ⟨⟨c, s, rfl, hc⟩, hs⟩

/-! ## The form of an argument -/

theorem dropWhile_of_not_mem {b : UInt8} {s : Bytes} (h : b ∉ s) (t : Bytes) :
    (s ++ t).dropWhile (· != b) = t.dropWhile (· != b) ∧
      (s ++ t).takeWhile (· != b) = s ++ t.takeWhile (· != b) := by
  have hs : ∀ c ∈ s, (c != b) = true := fun c hc => by
    simpa using fun heq : c = b => h (heq ▸ hc)
  exact ⟨List.dropWhile_append_of_pos hs, List.takeWhile_append_of_pos hs⟩

theorem splitValue_bare {name : Bytes} (h : ProperName name) : splitValue name = (name, none) := by
  obtain ⟨⟨c, s, rfl, -⟩, heq⟩ := h
  have hs : 0x3D ∉ s := fun hs => heq (List.mem_cons_of_mem c hs)
  have hdrop := (dropWhile_of_not_mem hs []).1
  rw [List.append_nil] at hdrop
  simp only [splitValue, hdrop, List.dropWhile_nil]

/-- A proper name is cut from its value at the first equals sign. -/
theorem splitValue_attached {name : Bytes} (h : ProperName name) (value : Bytes) :
    splitValue (name ++ 0x3D :: value) = (name, some value) := by
  obtain ⟨⟨c, s, rfl, -⟩, heq⟩ := h
  have hs : 0x3D ∉ s := fun hs => heq (List.mem_cons_of_mem c hs)
  obtain ⟨hdrop, htake⟩ := dropWhile_of_not_mem hs (0x3D :: value)
  simp [splitValue, hdrop, htake]

theorem ofArgument_dashes (g : Given) {c : UInt8} (hc : c ≠ 0x2D) (hequals : c ≠ 0x3D) (s : Bytes) :
    Form.ofArgument (g.dashes ++ c :: s) =
      .flag (splitValue (c :: s)).1 (splitValue (c :: s)).2 := by
  have hbody : Form.ofBody (c :: s) = .flag (splitValue (c :: s)).1 (splitValue (c :: s)).2 := by
    simp only [Form.ofBody, hc, hequals, or_self, if_false]
  rw [← hbody]
  unfold Given.dashes
  cases g.double with
  | true => rfl
  | false =>
    show Form.ofArgument (0x2D :: c :: s) = _
    unfold Form.ofArgument
    split
    · simp_all
    · simp_all
    · rename_i heq
      simp only [List.cons.injEq, true_and] at heq
      rw [← heq.1, ← heq.2]
    · simp_all

/-- A flag with its value behind an equals sign is read as both. -/
theorem ofArgument_attached (g : Given) (h : ProperName g.name) :
    Form.ofArgument (g.dashes ++ g.name ++ 0x3D :: g.value) = .flag g.name (some g.value) := by
  have hsplit := splitValue_attached h g.value
  obtain ⟨⟨c, s, hname, hc⟩, heq⟩ := h
  rw [hname] at heq hsplit ⊢
  rw [List.append_assoc, List.cons_append, ofArgument_dashes g hc (List.ne_of_not_mem_cons heq).symm,
    ← List.cons_append, hsplit]

/-- A flag without an equals sign is read as its name alone. -/
theorem ofArgument_bare (g : Given) (h : ProperName g.name) :
    Form.ofArgument (g.dashes ++ g.name) = .flag g.name none := by
  have hsplit := splitValue_bare h
  obtain ⟨⟨c, s, hname, hc⟩, heq⟩ := h
  rw [hname] at heq hsplit ⊢
  rw [ofArgument_dashes g hc (List.ne_of_not_mem_cons heq).symm, hsplit]

theorem ofArgument_plain {arg : Bytes} (h : arg.head? ≠ some 0x2D) : Form.ofArgument arg = .plain := by
  unfold Form.ofArgument
  split <;> simp_all

/-! ## Reading flags -/

section Parse

variable {σ : Type} {flags : List (Flag σ)}

/-- An argument that does not start with a dash ends the flags. -/
theorem parse_plain {arg : Bytes} (h : arg.head? ≠ some 0x2D) (args : List Bytes) (s : σ) :
    parse flags (arg :: args) s = (.ok (arg :: args), s) := by
  rw [parse, ofArgument_plain h]

/-- A flag gives its value to the state, and the reading goes on behind it unless the value is
refused. -/
theorem parse_words {g : Given} (hname : ProperName g.name) {f : Flag σ}
    (hfind : flags.find? (fun f => f.name == g.name) = some f)
    {set : Bytes → σ → Except ValueFault Unit × σ} (haction : f.action = .value set)
    (rest : List Bytes) (s : σ) :
    parse flags (g.words ++ rest) s =
      match give g.name g.value set s with
      | (none, s) => parse flags rest s
      | (some e, s) => (.error e, s) := by
  unfold Given.words
  split
  · show parse flags (_ :: rest) s = _
    rw [parse, ofArgument_attached g hname]
    rcases hgive : give g.name g.value set s with ⟨_ | e, s'⟩ <;> simp only [hfind, haction, hgive]
  · show parse flags (_ :: g.value :: rest) s = _
    rw [parse, ofArgument_bare g hname]
    rcases hgive : give g.name g.value set s with ⟨_ | e, s'⟩ <;> simp only [hfind, haction, hgive]

/-- A flag whose value is accepted is passed over, and has set what it sets. -/
theorem parse_words_ok {g : Given} (hname : ProperName g.name) {f : Flag σ}
    (hfind : flags.find? (fun f => f.name == g.name) = some f)
    {set : Bytes → σ → Except ValueFault Unit × σ} (haction : f.action = .value set) {s s' : σ}
    (hset : set g.value s = (.ok (), s')) (rest : List Bytes) :
    parse flags (g.words ++ rest) s = parse flags rest s' := by
  rw [parse_words hname hfind haction, give, hset]

end Parse

end StackTypes.Flag
