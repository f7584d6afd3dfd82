/-
The command that casts, from its arguments to what it prints. The integers and variables asked for
come in the order of their flags, whatever kinds are mixed and however each flag is written, and each
variable is named for its place among all of them. What the command then does is the cast of a call
with these arguments: it prints one line for each type, or reports the error and prints nothing.
-/
import StackTypes.Command
import StackTypes.Proofs.Cast.Call
import StackTypes.Proofs.Command.Flag
import StackTypes.Proofs.History
import StackTypes.Proofs.Text.Integer

namespace StackTypes

open Interner StackTypes.Expr

/-! ## Single values -/

namespace Expr

/-- One value, not several at once. -/
def Single (e : Expr) : Prop :=
  ∀ es, e ≠ .tuple es

theorem Single.tupleSequences_eq {e : Expr} (h : e.Single) : e.tupleSequences = [] := by
  unfold tupleSequences
  split
  · exact absurd rfl (h _)
  · rfl

theorem tupleSequencesAll_of_single {es : List Expr} (h : ∀ e ∈ es, e.Single) :
    tupleSequencesAll es = [] := by
  induction es with
  | nil => rfl
  | cons e es ih =>
    obtain ⟨he, hes⟩ := List.forall_mem_cons.1 h
    rw [tupleSequencesAll, he.tupleSequences_eq, ih hes, List.append_nil]

/-- Asking for the type of a single value registers nothing. -/
theorem Single.type_state {e : Expr} (h : e.Single) (it : Interner) : (e.type it).2 = it := by
  rw [Expr.type_state, h.tupleSequences_eq, after_nil]

theorem Single.castTo {e : Expr} (h : e.Single) {t : Ty} {it : Interner} {c : Coercion}
    (hc : (e.castTo t it).1 = .ok c) : (c.apply e).Single := by
  have hcoerced := castTo_coerced e t it
  rw [hc] at hcoerced
  cases hcoerced with
  | same | unknown | stored => exact h
  | location | widget | reread => simp [Coercion.apply, Single]
  | color =>
    intro es
    show e.colorOf ≠ _
    unfold colorOf
    split <;> simp
  | literal _ _ hr => cases hr <;> simp [Coercion.apply, Single]

end Expr

theorem single_of_forall₂ {calls : List (Expr × Ty)} {results : List (Expr × Coercion)}
    (h : List.Forall₂ IsCast calls results) (hcalls : ∀ p ∈ calls, p.1.Single) :
    ∀ r ∈ results, (r.2.apply r.1).Single := by
  induction h with
  | nil => simp
  | cons hpr _ ih =>
    obtain ⟨hp, hcalls⟩ := List.forall_mem_cons.1 hcalls
    refine List.forall_mem_cons.2 ⟨?_, ih hcalls⟩
    rw [hpr.1]
    exact hp.castTo (hpr.2 .shared)

/-- A call with single values as arguments registers nothing, and its results are single values, one
for each type. -/
theorem castAll_single {es : List Expr} (hes : ∀ e ∈ es, e.Single) (ts : List Ty) (it : Interner) :
    (castAll es ts it).2 = it ∧ ∀ results, (castAll es ts it).1 = .ok results →
      results.length = ts.length ∧ ∀ r ∈ results, (r.2.apply r.1).Single := by
  by_cases hlen : es.length = ts.length
  · have hcalls : ∀ p ∈ es.zip ts, p.1.Single := fun p hp => hes p.1 (List.of_mem_zip hp).1
    have h := callOutcome_castFrom 0 (es.zip ts) it
    have hcast : castAll es ts it = castFrom 0 (es.zip ts) it := if_neg (not_not.2 hlen)
    rw [hcast]
    generalize castFrom 0 (es.zip ts) it = outcome at h ⊢
    cases h with
    | @all results h =>
      have hargs : ∀ e ∈ (es.zip ts).map Prod.fst, e.Single := by
        rw [List.map_fst_zip hlen.le]
        exact hes
      refine ⟨by rw [tupleSequencesAll_of_single hargs, after_nil], ?_⟩
      rintro _ ⟨⟩
      refine ⟨?_, single_of_forall₂ h hcalls⟩
      rw [← h.length_eq, List.length_zip, hlen, Nat.min_self]
    | @first before after e t cause hsplit _ _ =>
      have hargs : ∀ e' ∈ before.map Prod.fst ++ [e], e'.Single := by
        intro e' he'
        rcases List.mem_append.1 he' with he' | he'
        · obtain ⟨p, hp, rfl⟩ := List.mem_map.1 he'
          exact hcalls p (by rw [hsplit]; simp [hp])
        · obtain rfl := List.mem_singleton.1 he'
          exact hcalls (e', t) (by rw [hsplit]; simp)
      refine ⟨by rw [tupleSequencesAll_of_single hargs, after_nil], ?_⟩
      rintro _ ⟨⟩
  · have hcast : castAll es ts it = (.error (.arity ts.length es.length), it) := if_pos hlen
    rw [hcast]
    refine ⟨rfl, ?_⟩
    rintro _ ⟨⟩

namespace Command

/-! ## Arguments as they are asked for -/

/-- An argument that is asked for: an integer by a numeral, or a variable by the descriptor of its
type. -/
inductive CastItem where
  | int (v : Int32) (numeral : Bytes) (h : Integer.Decimal numeral v.toInt)
  | var (descriptor : Bytes) (h : Descriptor.Readable descriptor)

namespace CastItem

/-- The name of the flag that asks for the argument. -/
def flagName : CastItem → Bytes
  | .int .. => utf8 "int"
  | .var .. => utf8 "var"

/-- Its value: the numeral, or the descriptor. -/
def text : CastItem → Bytes
  | .int _ numeral _ => numeral
  | .var descriptor _ => descriptor

/-- What the argument is at a place: the integer, or a variable named for the place. -/
def outline (place : Nat) : CastItem → Outline Bytes
  | .int v _ _ => .int v
  | .var descriptor _ => .var (utf8 "v" ++ Numeral.ofNat place) descriptor

end CastItem

/-- An argument that is asked for, and how its flag is written. -/
structure CastFlag where
  item : CastItem
  double : Bool
  attached : Bool

/-- The flag with its name and value as they are given. -/
def CastFlag.given (f : CastFlag) : Flag.Given :=
  ⟨f.item.flagName, f.item.text, f.double, f.attached⟩

/-- What the arguments are, the first of them being at `place`. -/
def outlinesFrom (place : Nat) (flags : List CastFlag) : List (Outline Bytes) :=
  (flags.zipIdx place).map fun p => p.1.item.outline p.2

/-- The arguments of the call: those asked for in order, or a zero if there are none. -/
def castOutlines (flags : List CastFlag) : List (Outline Bytes) :=
  if flags.isEmpty then [.int 0] else outlinesFrom 0 flags

/-! ## Reading the flags -/

theorem readInt32_decimal {s : Bytes} {v : Int32} (h : Integer.Decimal s v.toInt) :
    CastArguments.readInt32 s = .ok v := by
  have hread : Integer.readInt 10 s = .ok v.toInt64 :=
    Integer.readInt_decimal (by rwa [Int32.toInt_toInt64])
  have hback : v.toInt64.toInt32 = v := Int32.toInt32_toInt64 v
  simp only [CastArguments.readInt32, hread, hback, if_true]

theorem properName_flagName (x : CastItem) : Flag.ProperName x.flagName := by
  cases x with
  | int => exact Flag.properName_cons (by decide) (by decide)
  | var => exact Flag.properName_cons (by decide) (by decide)

theorem find?_castFlags (x : CastItem) :
    castFlags.find? (fun f => f.name == x.flagName) =
      some ⟨x.flagName, .value (match x with
        | .int .. => CastArguments.addInt
        | .var .. => CastArguments.addVariable)⟩ := by
  cases x <;> rfl

theorem parse_castFlag (f : CastFlag) (rest : List Bytes) (args : CastArguments) :
    ∃ e it, (f.item.outline args.exprs.length).build args.interner = (some e, it) ∧ e.Single ∧
      Flag.parse castFlags (f.given.words ++ rest) args =
        Flag.parse castFlags rest ⟨e :: args.exprs, it⟩ := by
  have hparse := @Flag.parse_words_ok _ castFlags f.given (properName_flagName f.item) _
    (find?_castFlags f.item) _ rfl args
  obtain ⟨item, double, attached⟩ := f
  cases item with
  | int v numeral h =>
    refine ⟨.int v, args.interner, ?_, by simp [Single], hparse ?_ rest⟩
    · simp only [CastItem.outline, Outline.build]
      rfl
    · show CastArguments.addInt numeral args = _
      simp only [CastArguments.addInt, readInt32_decimal h]
  | var d h =>
    obtain ⟨t, it, ht⟩ := h.exists_parse args.interner
    refine ⟨.var (utf8 "v" ++ Numeral.ofNat args.exprs.length) t, it, ?_, by simp [Single],
      hparse ?_ rest⟩
    · simp only [CastItem.outline, Outline.build]
      rw [Asking.bind_apply, ht]
      rfl
    · show CastArguments.addVariable d args = _
      simp only [CastArguments.addVariable, ht]

theorem outlinesFrom_cons (place : Nat) (f : CastFlag) (flags : List CastFlag) :
    outlinesFrom place (f :: flags) = f.item.outline place :: outlinesFrom (place + 1) flags := rfl

theorem buildAll_cons {o : Outline Bytes} {os : List (Outline Bytes)} {e : Expr} {es : List Expr}
    {it it₁ it₂ : Interner} (ho : o.build it = (some e, it₁))
    (hos : Outline.buildAll os it₁ = (some es, it₂)) :
    Outline.buildAll (o :: os) it = (some (e :: es), it₂) := by
  rw [Outline.buildAll, Asking.bind_apply, ho]
  dsimp only
  rw [Asking.bind_apply, hos]
  rfl

/-- The flags collect the arguments in their order, the latest in front. -/
theorem parse_allCastFlags (flags : List CastFlag) (rest : List Bytes) (args : CastArguments) :
    ∃ es it, Outline.buildAll (outlinesFrom args.exprs.length flags) args.interner = (some es, it) ∧
      (∀ e ∈ es, e.Single) ∧ es.length = flags.length ∧
      Flag.parse castFlags (flags.flatMap (·.given.words) ++ rest) args =
        Flag.parse castFlags rest ⟨es.reverse ++ args.exprs, it⟩ := by
  induction flags generalizing args with
  | nil => exact ⟨[], args.interner, rfl, by simp, rfl, rfl⟩
  | cons f flags ih =>
    obtain ⟨e, it₁, he, hsingle, hparse⟩ :=
      parse_castFlag f (flags.flatMap (·.given.words) ++ rest) args
    obtain ⟨es, it₂, hes, hall, hlen, hrest⟩ := ih ⟨e :: args.exprs, it₁⟩
    refine ⟨e :: es, it₂, ?_, List.forall_mem_cons.2 ⟨hsingle, hall⟩, by simp [hlen], ?_⟩
    · rw [outlinesFrom_cons]
      exact buildAll_cons he hes
    · rw [List.flatMap_cons, List.append_assoc, hparse, hrest]
      simp

theorem parse_castArguments (flags : List CastFlag) {target : Bytes} (hdash : target.head? ≠ some 0x2D)
    (more : List Bytes) (it₀ : Interner) :
    ∃ es it collected, Outline.buildAll (castOutlines flags) it₀ = (some es, it) ∧
      (∀ e ∈ es, e.Single) ∧ es ≠ [] ∧
      Flag.parse castFlags (flags.flatMap (·.given.words) ++ target :: more) { interner := it₀ } =
        (.ok (target :: more), ⟨collected, it⟩) ∧
      castTargets collected.reverse = castTargets es := by
  obtain ⟨es, it, hbuild, hsingle, hlen, hflags⟩ :=
    parse_allCastFlags flags (target :: more) { interner := it₀ }
  rw [Flag.parse_plain hdash] at hflags
  cases flags with
  | nil =>
    -- without arguments the command takes a zero, and nothing has been read
    obtain rfl := List.length_eq_zero_iff.1 hlen
    obtain rfl : it₀ = it := congrArg Prod.snd hbuild
    exact ⟨[.int 0], it₀, [], rfl, by simp [Single], by simp, hflags, rfl⟩
  | cons f flags =>
    refine ⟨es, it, es.reverse ++ [], hbuild, hsingle, ?_, hflags, by simp⟩
    rintro rfl
    cases hlen

/-! ## Targets and results -/

/-- The types of several descriptors, read in order; it fails at one that cannot be read. -/
def readTypes (ds : List Bytes) : Asking (List Ty) :=
  ds.mapM fun d => (Descriptor.parse d : Asking Ty)

theorem parseTypes_readable {ds : List Bytes} (h : ∀ d ∈ ds, Descriptor.Readable d) (it : Interner) :
    ∃ ts it', readTypes ds it = (some ts, it') ∧ ts.length = ds.length ∧
      parseTypes ds it = (.ok ts, it') := by
  induction ds generalizing it with
  | nil => exact ⟨[], it, rfl, rfl, rfl⟩
  | cons d ds ih =>
    obtain ⟨hd, hds⟩ := List.forall_mem_cons.1 h
    obtain ⟨t, it₁, ht⟩ := hd.exists_parse it
    obtain ⟨ts, it₂, hts, hlen, hparse⟩ := ih hds it₁
    refine ⟨t :: ts, it₂, ?_, by simp [hlen], ?_⟩
    · unfold readTypes at hts ⊢
      rw [List.mapM_cons, Asking.bind_apply, ht]
      dsimp only
      rw [Asking.bind_apply, hts]
      rfl
    · simp only [parseTypes, ht, hparse]

/-- The line of a result: its text and its type. -/
def castLine (it : Interner) (r : Expr × Coercion) : Bytes :=
  (r.2.apply r.1).print ++ utf8 " : " ++ ((r.2.apply r.1).type it).1.toText ++ [0x0A]

theorem castLines_single {results : List (Expr × Coercion)}
    (h : ∀ r ∈ results, (r.2.apply r.1).Single) (it : Interner) :
    castLines (results.map fun (e, c) => c.apply e) it = (results.flatMap (castLine it), it) := by
  induction results with
  | nil => rfl
  | cons r results ih =>
    obtain ⟨hr, hresults⟩ := List.forall_mem_cons.1 h
    have hstate := hr.type_state it
    simp only [List.map_cons, castLines, hstate, ih hresults, List.flatMap_cons, castLine]

theorem castTargets_readable {es : List Expr} (hes : ∀ e ∈ es, e.Single) (hne : es ≠ [])
    {ds : List Bytes} {ts : List Ty} {it it' : Interner} (hparse : parseTypes ds it = (.ok ts, it')) :
    castTargets es ds it =
      (match (castAll es ts it').1 with
        | .ok results => .ofResults (results.flatMap (castLine it'))
        | .error e => .ofError (.call e), it') := by
  obtain ⟨hstate, hresults⟩ := castAll_single hes ts it'
  have hempty : es.isEmpty = false := by simpa using hne
  simp only [castTargets, hparse, hempty, Bool.false_eq_true, if_false]
  rcases hcast : castAll es ts it' with ⟨e | results, it''⟩
  · rw [hcast] at hstate
    simp only at hstate ⊢
    rw [hstate]
  · rw [hcast] at hstate hresults
    simp only at hstate ⊢
    rw [hstate, castLines_single (hresults results rfl).2]

/-- Integers and variables are cast to types as the arguments of a call are. They are asked for by
flags in any order, each written in any of its forms, and stand in the order of their flags; the
variables are named for their places, and without any of them a zero is cast. If the call has results,
the command prints a line with the text and the type of each, one for each type that is required, and
succeeds; otherwise it reports the error of the call and prints nothing. Only the types that are read
are registered. -/
theorem cast_prints_each_result (fs : FileSystem) (session : Session) (flags : List CastFlag)
    (target : Bytes) (more : List Bytes) (hdash : target.head? ≠ some 0x2D)
    (hread : ∀ d ∈ target :: more, Descriptor.Readable d) :
    let args := utf8 "cast" :: flags.flatMap (·.given.words) ++ target :: more
    ∃ es ts it it',
      Outline.buildAll (castOutlines flags) session.interner = (some es, it) ∧
      readTypes (target :: more) it = (some ts, it') ∧
      (∀ results, (castAll es ts it').1 = .ok results →
        results.length = (target :: more).length ∧
        run fs args session = ({ stdout := results.flatMap (castLine it'), stderr := [], code := 0 },
          { session with interner := it' })) ∧
      (∀ e, (castAll es ts it').1 = .error e →
        run fs args session =
          ({ stdout := [], stderr := utf8 "error: " ++ e.message ++ [0x0A], code := 1 },
            { session with interner := it' })) := by
  intro args
  obtain ⟨es, it, collected, hbuild, hsingle, hne, hflags, hsame⟩ :=
    parse_castArguments flags hdash more session.interner
  obtain ⟨ts, it', htypes, hlen, hparse⟩ := parseTypes_readable hread it
  have hrun : run fs args session = ((castTargets es (target :: more) it).1.outcome,
      { session with interner := (castTargets es (target :: more) it).2 }) := by
    show (let r := castReport (flags.flatMap (·.given.words) ++ target :: more) session
      (r.1.outcome, r.2)) = _
    simp only [castReport, hflags, hsame, List.isEmpty_cons, Bool.false_eq_true, if_false]
  rw [castTargets_readable hsingle hne hparse] at hrun
  refine ⟨es, ts, it, it', hbuild, htypes, fun results hresults => ⟨?_, ?_⟩, fun e he => ?_⟩
  · rw [((castAll_single hsingle ts it').2 results hresults).1, hlen]
  · rw [hrun, hresults]
    rfl
  · rw [hrun, he]
    simp only [Report.outcome, Report.ofError, CommandError.isUsage, Bool.false_eq_true, if_false,
      List.append_nil]
    rfl

/-- An integer, a variable and an integer with zeros in front, their flags written in three ways. -/
theorem cast_of_mixed_flags :
    let minusOne : CastItem := .int (-1) (Numeral.ofInt (-1)) (Integer.decimal_ofInt (-1))
    let seven : CastItem := .int 7 (utf8 "+007") (.plus ⟨by decide +kernel, by decide +kernel⟩)
    let pair : CastItem := .var (utf8 "P\x7bint, string\x7d") (by decide +kernel)
    let flags : List CastFlag := [⟨minusOne, false, false⟩, ⟨pair, true, true⟩, ⟨seven, false, true⟩]
    let target := utf8 "boolean"
    let more := [utf8 "\x7bint,string\x7d", utf8 "Sprite"]
    flags.flatMap (·.given.words) =
        [utf8 "-int", utf8 "-1", utf8 "--var=P\x7bint, string\x7d", utf8 "-int=+007"] ∧
      target.head? ≠ some 0x2D ∧ (∀ d ∈ target :: more, Descriptor.Readable d) ∧
      ∃ es ts it it' results, Outline.buildAll (castOutlines flags) .shared = (some es, it) ∧
        readTypes (target :: more) it = (some ts, it') ∧ (castAll es ts it').1 = .ok results ∧
        results.flatMap (castLine it') = utf8 "null : int\nv1 : int, string\n7 : int\n" := by
  intro minusOne seven pair flags target more
  have hdash : target.head? ≠ some 0x2D := by decide +kernel
  have hread : ∀ d ∈ target :: more, Descriptor.Readable d := by decide +kernel
  have hrun : (run {} (utf8 "cast" :: flags.flatMap (·.given.words) ++ target :: more) {}).1 =
      { stdout := utf8 "null : int\nv1 : int, string\n7 : int\n" } := by decide +kernel
  obtain ⟨es, ts, it, it', hbuild, htypes, hok, herror⟩ :=
    cast_prints_each_result {} {} flags target more hdash hread
  refine ⟨by decide +kernel, hdash, hread, es, ts, it, it', ?_⟩
  rcases hcast : (castAll es ts it').1 with e | results
  · rw [herror e hcast] at hrun
    cases congrArg Outcome.code hrun
  · rw [(hok results hcast).2] at hrun
    exact ⟨results, hbuild, htypes, rfl, congrArg Outcome.stdout hrun⟩

end Command

end StackTypes
