/-
Splitting a text at its commas outside braces. A stretch of text is passed over at some depth when
the commas in it are all nested and its braces match: then it ends up whole in one part. What is
passed over is closed under joining and under putting braces around it. Nothing is lost: the parts
with commas between them are the text again.
-/
import StackTypes.Descriptor

namespace StackTypes.Descriptor

/-- `p` put in front of the first part. -/
def prepend (p : Bytes) (parts : List Bytes) : List Bytes :=
  p.foldr consFirst parts

theorem prepend_append (p q : Bytes) (parts : List Bytes) :
    prepend (p ++ q) parts = prepend p (prepend q parts) := List.foldr_append

theorem prepend_cons (p q : Bytes) (parts : List Bytes) : prepend p (q :: parts) = (p ++ q) :: parts := by
  induction p with
  | nil => rfl
  | cons c p ih =>
    show consFirst c (prepend p (q :: parts)) = _
    rw [ih]; rfl

/-- A byte that neither nests nor separates. -/
def Plain (c : UInt8) : Prop := c ≠ openBrace ∧ c ≠ closeBrace ∧ c ≠ comma

instance (c : UInt8) : Decidable (Plain c) := inferInstanceAs (Decidable (_ ∧ _))

/-- At this depth `p` is not split, and the depth after it is the same. -/
def Passed (depth : Int) (p : Bytes) : Prop :=
  ∀ q, splitFrom depth (p ++ q) = prepend p (splitFrom depth q)

theorem Passed.append {depth : Int} {p q : Bytes} (hp : Passed depth p) (hq : Passed depth q) :
    Passed depth (p ++ q) := by
  intro r
  rw [List.append_assoc, hp, hq, prepend_append]

theorem passed_plain {depth : Int} {p : Bytes} (hp : ∀ c ∈ p, Plain c) : Passed depth p := by
  induction p with
  | nil => intro q; rfl
  | cons c p ih =>
    obtain ⟨ho, hc, hm⟩ := hp c List.mem_cons_self
    intro q
    rw [List.cons_append, splitFrom, if_neg (fun h => hm h.1), depthAfter, if_neg ho, if_neg hc,
      ih fun c hc => hp c (List.mem_cons_of_mem _ hc)]
    rfl

theorem passed_comma {depth : Int} (hd : depth ≠ 0) : Passed depth [comma] := by
  intro q
  rw [List.singleton_append, splitFrom, if_neg (fun h => hd h.2)]
  rfl

theorem Passed.braces {depth : Int} {p : Bytes} (hp : Passed (depth + 1) p) :
    Passed depth (openBrace :: p ++ [closeBrace]) := by
  intro q
  have hopen : ∀ s, splitFrom depth (openBrace :: s) = consFirst openBrace (splitFrom (depth + 1) s) := by
    intro s
    rw [splitFrom, if_neg (fun h => absurd h.1 (by decide)), depthAfter, if_pos rfl]
  have hclose : ∀ s, splitFrom (depth + 1) (closeBrace :: s) = consFirst closeBrace (splitFrom depth s) := by
    intro s
    rw [splitFrom, if_neg (fun h => absurd h.1 (by decide)), depthAfter, if_neg (by decide), if_pos rfl,
      Int.add_sub_cancel]
  rw [List.append_assoc, List.cons_append, hopen, hp, List.singleton_append, hclose]
  show _ = prepend (openBrace :: (p ++ [closeBrace])) _
  rw [← List.cons_append, prepend_append]
  rfl

/-- A group is passed over when the text between its braces is, one level deeper. -/
theorem Passed.group {depth : Int} {name p : Bytes} (hn : ∀ c ∈ name, Plain c)
    (hp : Passed (depth + 1) p) : Passed depth (name ++ openBrace :: p ++ [closeBrace]) := by
  rw [List.append_assoc]
  exact (passed_plain hn).append hp.braces

/-- A text that is passed over outside braces is one part. -/
theorem splitMembers_passed {p : Bytes} (hp : Passed 0 p) : splitMembers p = [p] := by
  have h := hp []
  rw [List.append_nil] at h
  rw [splitMembers, h]
  simp [splitFrom, prepend_cons]

/-- A comma after such a text ends its part. -/
theorem splitMembers_passed_comma {p : Bytes} (hp : Passed 0 p) (s : Bytes) :
    splitMembers (p ++ comma :: s) = p :: splitMembers s := by
  rw [splitMembers, hp, splitFrom, if_pos ⟨rfl, rfl⟩, prepend_cons, List.append_nil]
  rfl

/-! ## Joining the parts -/

theorem splitFrom_ne_nil (depth : Int) (s : Bytes) : splitFrom depth s ≠ [] := by
  cases s with
  | nil => simp [splitFrom]
  | cons c s =>
    rw [splitFrom]
    split
    · simp
    · cases splitFrom (depthAfter depth c) s <;> simp [consFirst]

theorem joinWith_cons (p : Bytes) {parts : List Bytes} (h : parts ≠ []) :
    Bytes.joinWith [comma] (p :: parts) = p ++ comma :: Bytes.joinWith [comma] parts := by
  cases parts with
  | nil => exact absurd rfl h
  | cons q parts => simp [Bytes.joinWith]

theorem joinWith_consFirst (c : UInt8) {parts : List Bytes} (h : parts ≠ []) :
    Bytes.joinWith [comma] (consFirst c parts) = c :: Bytes.joinWith [comma] parts := by
  cases parts with
  | nil => exact absurd rfl h
  | cons q parts => cases parts <;> simp [consFirst, Bytes.joinWith]

/-- Splitting loses nothing but the commas it splits at. -/
theorem joinWith_splitFrom (depth : Int) (s : Bytes) :
    Bytes.joinWith [comma] (splitFrom depth s) = s := by
  induction s generalizing depth with
  | nil => simp [splitFrom, Bytes.joinWith]
  | cons c s ih =>
    rw [splitFrom]
    split
    · rename_i h
      rw [joinWith_cons _ (splitFrom_ne_nil depth s), ih, h.1]
      rfl
    · rw [joinWith_consFirst _ (splitFrom_ne_nil _ s), ih]

end StackTypes.Descriptor
