import RowDecoding.Proofs.Columns
import RowDecoding.Proofs.Indifference
import RowDecoding.Proofs.Upholding

/-!
# Steps that leave the session as it is

A step that decodes, converts and defaults by what is built in leaves the session as it is, and so
does a step that maps the whole row by a plan with such steps, nested however deep, if the targets
are made of their fields without hooks (`Step.IsBuiltin`). What such a step comes to may depend on
the number of levels, since on the lowest one nothing is made any more. That the session stays does
not.

The lemmas go up from the defaults of fields to constructors, targets and steps; for nested plans
the induction is on the way in which a step is built in.

> `Step.IsBuiltin.indifferent`: such steps take no notice of each other.
-/

namespace RowDecoding

/-! ## Targets without hooks -/

section

variable {σ : Session} {table : ClassTable} {c : ClassRef} {addressing : Addressing}
  {names : List (Option String)} (n : Nat)

theorem supply_upholds {s : Supply} (hs : s.isBuiltin = true) :
    Upholds (· = σ) ((Level.ofDepth n).supply s) := by
  rintro _ rfl
  cases n with
  | zero => cases s <;> rfl
  | succ n =>
    obtain ⟨v, hv⟩ := run_supply hs (Level.ofDepth n) _
    exact congrArg Prod.snd hv

/-- Fields without hooks are filled. -/
theorem fill_upholds {fields : List FieldDeclaration}
    (hfields : ∀ f ∈ fields, f.default.all Supply.isBuiltin = true) (bound : Bindings) :
    Upholds (· = σ) (Instance.fill (Level.ofDepth n) bound fields) := by
  induction fields with
  | nil => exact .pure []
  | cons f rest ih =>
    have hrest := ih fun g hg => hfields g (List.mem_cons_of_mem _ hg)
    unfold Instance.fill
    split
    next => exact hrest.bind fun held => .pure _
    next s _ hdefault =>
      have hs : s.isBuiltin = true := by simpa [hdefault] using hfields f (List.mem_cons_self ..)
      exact (supply_upholds n hs).bind fun v => hrest.bind fun held => .pure _
    next => exact hrest

/-- A constructor that takes fields makes an instance, or refuses its arguments. -/
theorem makeBy_upholds {maker : Constructor} (h : maker.Takes addressing names)
    (hhook : ∀ hook, table.attribute? c "post_init" ≠ some (.hook hook)) (positional : List Value)
    (keywords : Bindings) :
    Upholds (· = σ) (Instance.makeBy (Level.ofDepth n) table c maker positional keywords) := by
  have hannounced : ∀ v, Upholds (· = σ)
      (Instance.announce (Level.ofDepth n) table c "post_init" v) := by
    intro v
    unfold Instance.announce
    split
    next hook hattribute => exact absurd hattribute (hhook hook)
    next => exact .pure ()
  unfold Instance.makeBy
  refine (Upholds.lift _).bind fun bound => (fill_upholds n h.defaults bound).bind fun filled => ?_
  rcases h.kinds with ⟨hmaking, -⟩ | ⟨hmaking, -⟩ <;> rw [hmaking]
  · exact (hannounced _).bind fun _ => .pure _
  · exact .pure _

/-- A class that takes fields is called. -/
theorem construct_upholds (h : σ.classes.takes c addressing names = true)
    (positional : List Value) (keywords : Bindings) :
    Upholds (· = σ) ((Level.ofDepth n).construct (.declared c) positional keywords) := by
  cases n with
  | zero => exact .throw _
  | succ n =>
    obtain ⟨hform, hreplaced, hhook, maker, hmaker, htakes⟩ := takes_spec h
    refine .get_bind ?_
    rintro τ rfl
    show ((Instance.makeDeclared (Level.ofDepth n) τ.classes c positional keywords).run τ).2 = τ
    rw [makeDeclared_of_constructor hform hreplaced hmaker]
    exact makeBy_upholds n htakes hhook positional keywords _ rfl

/-- A target that is made of its fields is made. -/
theorem makeTarget_upholds {p : DecodePlan} (h : p.isAssembled σ.classes = true)
    (values : List Value) : Upholds (· = σ) (makeTarget (Level.ofDepth n) p values) := by
  unfold Plan.isAssembled at h
  unfold makeTarget
  refine Upholds.mapFailure ?_ _
  cases htarget : p.target with
  | declared c =>
    rw [htarget] at h
    split
    · split
      · exact construct_upholds n h _ _
      · exact .throw _
    · exact construct_upholds n h _ _
  | tupleOf | tupleOfAny =>
    rw [htarget] at h
    rw [Bool.and_eq_true, beq_iff_eq] at h
    rw [h.2]
    exact .pure _
  | _ =>
    rw [htarget] at h
    cases h

end

/-! ## Steps -/

/-- A step that uses what is built in: for a column its decoder, its converter and its default, and
for the whole row a plan of such steps whose target is made of its fields. -/
inductive Step.IsBuiltin (table : ClassTable) : DecodeStep → Prop
  | column {s : DecodeStep} (h : s.usesBuiltins = true) : IsBuiltin table s
  | flatten {s : DecodeStep} {p : DecodePlan} (strategy : s.strategy = .flatten (some (.plan p)))
      (converter : s.converter.all (·.isBuiltin) = true)
      (default : s.default.all Supply.isBuiltin = true) (assembled : p.isAssembled table = true)
      (steps : ∀ st ∈ p.steps, IsBuiltin table st) : IsBuiltin table s

/-- Whether a step uses what is built in, with plans nested in each other no deeper than `depth`. -/
def Step.isBuiltinWithin (table : ClassTable) : Nat → DecodeStep → Bool
  | 0, s => s.usesBuiltins
  | depth + 1, s =>
    s.usesBuiltins ||
      match s.strategy with
      | .flatten (some (.plan p)) =>
        s.converter.all (·.isBuiltin) && s.default.all Supply.isBuiltin && p.isAssembled table &&
          p.steps.all (isBuiltinWithin table depth)
      | _ => false

theorem Step.isBuiltin_of_within {table : ClassTable} {depth : Nat} {s : DecodeStep}
    (h : s.isBuiltinWithin table depth = true) : s.IsBuiltin table := by
  induction depth generalizing s with
  | zero => exact .column h
  | succ depth ih =>
    rw [isBuiltinWithin, Bool.or_eq_true] at h
    rcases h with h | h
    · exact .column h
    · split at h
      next p hstrategy =>
        simp only [Bool.and_eq_true, List.all_eq_true] at h
        obtain ⟨⟨⟨hconverter, hdefault⟩, hassembled⟩, hsteps⟩ := h
        exact .flatten hstrategy hconverter hdefault hassembled fun st hst => ih (hsteps st hst)
      next => cases h

section

variable {σ : Session} {s : DecodeStep} {row : Value} (n : Nat)

theorem Transform.run_upholds {t : Transform} (ht : t.isBuiltin = true) (l : Level) (v : Value) :
    Upholds (· = σ) (t.run l v) := by
  rintro _ rfl
  rw [Transform.run_builtin ht]

theorem convertDecoded_upholds (h : s.converter.all (·.isBuiltin) = true) (l : Level) (v : Value) :
    Upholds (· = σ) (convertDecoded l s v) := by
  unfold convertDecoded
  split
  next => exact .pure v
  next t ht => exact (Transform.run_upholds (by simpa [ht] using h) l v).mapFailure _

/-- A step leaves the session as it is if what it attempts does, and its default. -/
theorem runStep_upholds_of (h : s.default.all Supply.isBuiltin = true)
    (hattempt : Upholds (· = σ) (attempt (Level.ofDepth n) s row)) :
    Upholds (· = σ) (runStep (Level.ofDepth n) s row) := by
  refine hattempt.tryCatch fun f => ?_
  unfold recover
  split
  next supply _ hdefault => exact supply_upholds n (by simpa [hdefault] using h)
  next => exact .throw _

/-- A step that uses what is built in for a column leaves the session as it is. -/
theorem runStep_upholds_column (h : s.usesBuiltins = true) (hrow : Row.IsReady row) :
    Upholds (· = σ) (runStep (Level.ofDepth n) s row) := by
  obtain ⟨⟨d, hdecoder, hd⟩, hconverter, hdefault⟩ := usesBuiltins_spec h
  obtain ⟨key, hkey⟩ := Strategy.key_of_decoder hdecoder
  refine runStep_upholds_of n ((Option.all_eq_true _ _).mpr hdefault) ?_
  rw [attempt_direct hkey]
  refine Upholds.bind ?_ fun raw => Upholds.bind ?_ fun v => ?_
  · obtain ⟨form, columns, cells, rfl, -⟩ := hrow
    exact .lift _
  · unfold decodeRaw
    rw [hdecoder]
    exact (Transform.run_upholds (Transform.isBuiltin_of_decodes hd) _ _).mapFailure _
  · exact convertDecoded_upholds ((Option.all_eq_true _ _).mpr fun c hc =>
      Transform.isBuiltin_of_converts (hconverter c hc)) _ v

/-- **Built-in steps leave the session as it is**, on every level and whatever they come to. -/
theorem Step.IsBuiltin.runStep_upholds (h : s.IsBuiltin σ.classes) (hrow : Row.IsReady row) :
    Upholds (· = σ) (runStep (Level.ofDepth n) s row) := by
  induction h generalizing n with
  | column h => exact runStep_upholds_column n h hrow
  | @flatten s p hstrategy hconverter hdefault hassembled _ ih =>
    refine runStep_upholds_of n hdefault ?_
    unfold attempt
    rw [hstrategy]
    refine Upholds.bind ?_ fun v => convertDecoded_upholds hconverter _ v
    cases n with
    | zero => exact .throw _
    | succ n =>
      -- The nested plan runs one level below, on the row as it has been adapted.
      have hsteps : Upholds (· = σ) (p.steps.mapM fun st => runStep (Level.ofDepth n) st row) :=
        .mapM fun st hst => ih st hst n
      have hexecute : Upholds (· = σ) (executeOn (Level.ofDepth n) p row) :=
        hsteps.bind fun values => makeTarget_upholds n hassembled values
      rintro τ rfl
      show ((execute (Level.ofDepth n) p row).run τ).2 = τ
      unfold execute
      rw [Running.run_bind_of_ok (hrow.adapts _).run_rowOf]
      exact hexecute τ rfl

/-- Such a step takes no notice of what other ones do. -/
theorem Step.IsBuiltin.indifferent (h : s.IsBuiltin σ.classes) (hrow : Row.IsReady row) :
    (runStep (Level.ofDepth n) s row).Indifferent (· = σ) :=
  Run.indifferent_of_leaves (h.runStep_upholds n hrow σ rfl)

/-- Nor does a default without a hook. -/
theorem Supply.indifferent {supply : Supply} (h : supply.isBuiltin = true) :
    ((Level.ofDepth n).supply supply).Indifferent (· = σ) :=
  Run.indifferent_of_leaves (supply_upholds n h σ rfl)

end

end RowDecoding
