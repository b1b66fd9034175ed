import Mathlib.Data.List.Nodup
import RowDecoding.Execution.Depth
import RowDecoding.Proofs.Running

/-!
# Making targets of their fields

A class of records is called with the values of its fields, by name or by position, and its
constructor may refuse them. It does not if it takes exactly the fields of the plan and if it fills
the others without hooks (`Constructor.takes`). Then all arguments reach their parameters
(`bind_complete`), every other field gets a default that is made without failing, and the target is
made (`run_makeTarget`). A tuple type is no class and is made of any values.
-/

namespace RowDecoding

/-! ## Defaults without hooks -/

/-- Supplies that run no hook: constants, and what built-in classes make of nothing. -/
def Supply.isBuiltin : Supply → Bool
  | .constant _ => true
  | .make (.builtin b) => Registry.madeDefaults.contains b
  | _ => false

theorem makeBuiltin_nothing {b : Builtin} (hb : Registry.madeDefaults.contains b = true) :
    ∃ v, Instance.makeBuiltin b [] [] = .ok v := by
  cases b <;> first | exact ⟨_, rfl⟩ | exact absurd hb (by decide)

/-- A supply gives a value and leaves the session as it is. -/
def Supply.Serves (l : Level) (σ : Session) (s : Supply) : Prop :=
  ∃ v, (l.supply s).run σ = (.ok v, σ)

/-- A supply without hooks gives a value and leaves the session as it is. -/
theorem run_supply {s : Supply} (hs : s.isBuiltin = true) (l : Level) (σ : Session) :
    s.Serves l.above σ := by
  cases s with
  | constant v => exact ⟨v, rfl⟩
  | hook owner h => cases hs
  | make t =>
    cases t with
    | builtin b =>
      obtain ⟨v, hv⟩ := makeBuiltin_nothing hs
      have hsupply : l.above.supply (.make (.builtin b)) =
          Run.lift (Instance.makeBuiltin b [] []) := rfl
      unfold Supply.Serves
      rw [hsupply, hv]
      exact ⟨v, rfl⟩
    | _ => cases hs

/-! ## Arguments that reach their parameters -/

section

variable {title : String} {parameters : List Parameter} {keepsRest : Bool} {given : Bindings}

/-- Keyword arguments of different names that all belong to a parameter are placed in order. -/
theorem placeKeywords_named {keywords bound left : Bindings}
    (hnamed : ∀ a ∈ keywords, (parameters.any fun p => p.isNamed && p.name == a.1) = true)
    (hnew : ((bound ++ keywords).map (·.1)).Nodup) :
    Call.placeKeywords title parameters keepsRest given keywords (bound, left) =
      .ok (bound ++ keywords, left) := by
  induction keywords generalizing bound with
  | nil => rw [List.append_nil, Call.placeKeywords]
  | cons a rest ih =>
    obtain ⟨name, v⟩ := a
    have hfresh : (bound.any fun b => b.1 == name) = false := by
      rw [List.any_eq_false]
      intro b hb hname
      rw [List.map_append, List.nodup_append] at hnew
      exact hnew.2.2 b.1 (List.mem_map_of_mem hb) name (List.mem_cons_self ..) (beq_iff_eq.mp hname)
    have hmove : bound ++ (name, v) :: rest = bound ++ [(name, v)] ++ rest := by simp
    rw [hmove] at hnew ⊢
    rw [Call.placeKeywords, if_pos (hnamed _ (List.mem_cons_self ..)), hfresh,
      if_neg Bool.false_ne_true]
    exact ih (fun b hb => hnamed b (List.mem_cons_of_mem _ hb)) hnew

/-- Arguments that fill the first parameters by position and others by name, none of them twice,
reach their parameters; every one that has to be given is, and none takes what is left over. -/
theorem bind_complete {positional : List Value} {keywords bound : Bindings}
    (hplain : ∀ p ∈ parameters, p.isPositional = true ∨ p.isNamed = true)
    (hbound : bound = ((parameters.filter (·.isPositional)).zip positional).map
      fun a => (a.1.name, a.2))
    (hcount : positional.length ≤ (parameters.filter (·.isPositional)).length)
    (hnamed : ∀ a ∈ keywords, (parameters.any fun p => p.isNamed && p.name == a.1) = true)
    (hnew : ((bound ++ keywords).map (·.1)).Nodup)
    (hall : ∀ p ∈ parameters, p.name ∈ (bound ++ keywords).map (·.1)) :
    Call.bind title parameters positional keywords = .ok (bound ++ keywords) := by
  have hno : ∀ kind : ParameterKind, (kind = .spread ∨ kind = .keywordSpread) →
      parameters.find? (·.kind == kind) = none := by
    intro kind hkind
    rw [List.find?_eq_none]
    intro p hp hpkind
    have hp := hplain p hp
    rw [Parameter.isPositional, Parameter.isNamed, beq_iff_eq.mp hpkind] at hp
    rcases hkind with rfl | rfl <;> exact absurd hp (by decide)
  have hpresent : ∀ p ∈ parameters, ((bound ++ keywords).any fun b => b.1 == p.name) = true := by
    intro p hp
    obtain ⟨b, hb, hname⟩ := List.mem_map.mp (hall p hp)
    exact List.any_eq_true.mpr ⟨b, hb, beq_iff_eq.mpr hname⟩
  have hpositional : ((parameters.filter (·.isPositional)).filter fun p =>
      p.required && !(bound ++ keywords).any fun b => b.1 == p.name) = [] := by
    rw [List.filter_eq_nil_iff]
    intro p hp
    rw [hpresent p (List.mem_of_mem_filter hp), Bool.not_true, Bool.and_false]
    exact Bool.false_ne_true
  have hkeyword : (parameters.filter fun p => p.kind == .keywordOnly &&
      (p.required && !(bound ++ keywords).any fun b => b.1 == p.name)) = [] := by
    rw [List.filter_eq_nil_iff]
    intro p hp
    rw [hpresent p hp, Bool.not_true, Bool.and_false, Bool.and_false]
    exact Bool.false_ne_true
  have hextra : positional.drop (parameters.filter (·.isPositional)).length = [] :=
    List.drop_eq_nil_of_le hcount
  unfold Call.bind
  dsimp only
  rw [← hbound, hno .spread (Or.inl rfl), hno .keywordSpread (Or.inr rfl),
    placeKeywords_named hnamed hnew, hextra]
  dsimp only [bind, Except.bind]
  rw [hpositional, hkeyword]
  simp [pure, Except.pure]

end

/-! ## Constructors that take the fields of a plan -/

/-- The fields that a constructor takes. -/
def Constructor.taken (maker : Constructor) : List FieldDeclaration :=
  maker.parameters.filter (·.inConstructor)

/-- Whether a constructor takes exactly the fields of these names, in this order: by name if it fills
fields, by position if it fills positions. What it fills besides comes from no hook. -/
def Constructor.takes (maker : Constructor) (addressing : Addressing)
    (names : List (Option String)) : Bool :=
  maker.taken.map (fun f => some f.name) == names &&
    decide (maker.receiver :: maker.taken.map (·.name)).Nodup &&
    maker.parameters.all (fun f => f.default.all Supply.isBuiltin) &&
    match maker.making, addressing with
    | .fields, .byName => maker.taken.all fun f => f.kind == .ordinary || f.kind == .keywordOnly
    | .positions, .byPosition => maker.taken.all fun f => f.kind == .ordinary
    | _, _ => false

namespace Constructor

variable {maker : Constructor} {addressing : Addressing} {names : List (Option String)}

/-- What it means that a constructor takes fields. -/
structure Takes (maker : Constructor) (addressing : Addressing) (names : List (Option String)) :
    Prop where
  names : maker.taken.map (fun f => some f.name) = names
  nodup : (maker.receiver :: maker.taken.map (·.name)).Nodup
  defaults : ∀ f ∈ maker.parameters, f.default.all Supply.isBuiltin = true
  kinds : (maker.making = .fields ∧ addressing = .byName ∧
      ∀ f ∈ maker.taken, f.kind = .ordinary ∨ f.kind = .keywordOnly) ∨
    (maker.making = .positions ∧ addressing = .byPosition ∧
      ∀ f ∈ maker.taken, f.kind = .ordinary)

theorem takes_spec (h : maker.takes addressing names = true) : maker.Takes addressing names := by
  unfold takes at h
  simp only [Bool.and_eq_true, beq_iff_eq, decide_eq_true_eq, List.all_eq_true] at h
  obtain ⟨⟨⟨hnames, hnodup⟩, hdefaults⟩, hkinds⟩ := h
  refine ⟨hnames, hnodup, hdefaults, ?_⟩
  split at hkinds
  next hmaking =>
    refine Or.inl ⟨hmaking, rfl, fun f hf => ?_⟩
    simpa using List.all_eq_true.mp hkinds f hf
  next hmaking =>
    refine Or.inr ⟨hmaking, rfl, fun f hf => ?_⟩
    simpa using List.all_eq_true.mp hkinds f hf
  next => cases hkinds

/-- The parameters for the fields that a constructor takes. -/
theorem mem_signature {p : Parameter} :
    p ∈ maker.signature ↔ ∃ f ∈ maker.taken, p = ⟨f.name, f.kind,
      f.default.isNone && f.kind != .spread && f.kind != .keywordSpread⟩ := by
  have hmap : ∀ {q : Parameter}, q ∈ maker.taken.map (fun f => (⟨f.name, f.kind,
      f.default.isNone && f.kind != .spread && f.kind != .keywordSpread⟩ : Parameter)) ↔
      ∃ f ∈ maker.taken, q = ⟨f.name, f.kind,
        f.default.isNone && f.kind != .spread && f.kind != .keywordSpread⟩ := by
    intro q
    rw [List.mem_map]
    exact ⟨fun ⟨f, hf, h⟩ => ⟨f, hf, h.symm⟩, fun ⟨f, hf, h⟩ => ⟨f, hf, h.symm⟩⟩
  unfold signature
  dsimp only
  split
  · -- The fields that are given by name come last, but none is lost.
    rw [List.mem_append, List.mem_filter, List.mem_filter, ← and_or_left]
    refine (and_iff_left ?_).trans hmap
    cases hkind : p.kind == .keywordOnly <;> simp [bne, hkind]
  · exact hmap

/-- Fields that are given by name reach their parameters. -/
theorem bindInstance_byName (h : maker.Takes .byName names) {keywords : Bindings}
    (hkeywords : keywords.map (fun a => some a.1) = names) (title : String) :
    ∃ bound, Instance.bindInstance title maker [] keywords = .ok bound := by
  have hkinds : ∀ f ∈ maker.taken, f.kind = .ordinary ∨ f.kind = .keywordOnly := by
    rcases h.kinds with ⟨-, -, hkinds⟩ | ⟨-, hposition, -⟩
    · exact hkinds
    · cases hposition
  have hnames : keywords.map (·.1) = maker.taken.map (·.name) := by
    have hsome : (keywords.map (·.1)).map some = (maker.taken.map (·.name)).map some := by
      rw [List.map_map, List.map_map]
      exact hkeywords.trans h.names.symm
    exact List.map_injective_iff.mpr (fun _ _ => Option.some.inj) hsome
  have hplain : ∀ p ∈ maker.signature, p.isNamed = true := by
    intro p hp
    obtain ⟨f, hf, rfl⟩ := mem_signature.mp hp
    rw [Parameter.isNamed]
    dsimp only
    rcases hkinds f hf with hkind | hkind <;> rw [hkind] <;> rfl
  refine ⟨[(maker.receiver, .none)] ++ keywords, ?_⟩
  refine bind_complete (fun p hp => ?_) ?_ ?_ (fun a ha => ?_) ?_ (fun p hp => ?_)
  · rcases List.mem_cons.mp hp with rfl | hp
    · exact Or.inl rfl
    · exact Or.inr (hplain p hp)
  · rw [List.filter_cons_of_pos rfl, List.zip_cons_cons, List.zip_nil_right]
    rfl
  · rw [List.filter_cons_of_pos rfl]
    exact Nat.succ_le_succ (Nat.zero_le _)
  · have hname := hnames ▸ List.mem_map_of_mem (f := Prod.fst) ha
    obtain ⟨f, hf, hfname⟩ := List.mem_map.mp hname
    have hp := mem_signature.mpr ⟨f, hf, rfl⟩
    refine List.any_eq_true.mpr ⟨_, List.mem_cons_of_mem _ hp, ?_⟩
    rw [hplain _ hp, Bool.true_and]
    exact beq_iff_eq.mpr hfname
  · rw [List.map_append, hnames]
    exact h.nodup
  · rw [List.map_append, hnames]
    rcases List.mem_cons.mp hp with rfl | hp
    · exact List.mem_cons_self ..
    · obtain ⟨f, hf, rfl⟩ := mem_signature.mp hp
      exact List.mem_cons_of_mem _ (List.mem_map_of_mem (f := fun f => f.name) hf)

/-- Fields that are given by position reach their parameters. -/
theorem bindInstance_byPosition (h : maker.Takes .byPosition names) {values : List Value}
    (hvalues : values.length = names.length) (title : String) :
    ∃ bound, Instance.bindInstance title maker values [] = .ok bound := by
  obtain ⟨hmaking, hkinds⟩ : maker.making = .positions ∧ ∀ f ∈ maker.taken, f.kind = .ordinary := by
    rcases h.kinds with ⟨-, hname, -⟩ | ⟨hmaking, -, hkinds⟩
    · cases hname
    · exact ⟨hmaking, hkinds⟩
  have hplaces : ∀ p ∈ maker.signature, p.isPositional = true := by
    intro p hp
    obtain ⟨f, hf, rfl⟩ := mem_signature.mp hp
    rw [Parameter.isPositional]
    dsimp only
    rw [hkinds f hf]
    rfl
  have hsignature : maker.signature.map (·.name) = maker.taken.map (·.name) := by
    unfold signature
    rw [hmaking]
    dsimp only
    rw [List.map_map]
    rfl
  have hlength : maker.signature.length = values.length := by
    have hlengths := congrArg List.length hsignature
    rw [List.length_map, List.length_map] at hlengths
    rw [hlengths, hvalues, ← h.names, List.length_map]
  have hfirst : ((maker.signature.zip values).map fun a => (a.1.name, a.2)).map (·.1) =
      maker.taken.map (·.name) := by
    rw [← hsignature, List.map_map]
    conv_rhs => rw [← List.map_fst_zip (Nat.le_of_eq hlength), List.map_map]
    rfl
  refine ⟨(maker.receiver, .none) ::
    ((maker.signature.zip values).map fun a => (a.1.name, a.2)) ++ [], ?_⟩
  refine bind_complete (fun p hp => Or.inl ?_) ?_ ?_ (fun a ha => ?_) ?_ (fun p hp => ?_)
  · rcases List.mem_cons.mp hp with rfl | hp
    · rfl
    · exact hplaces p hp
  · rw [List.filter_cons_of_pos rfl, List.filter_eq_self.mpr hplaces]
    rfl
  · rw [List.filter_cons_of_pos rfl, List.filter_eq_self.mpr hplaces]
    exact Nat.succ_le_succ (Nat.le_of_eq hlength.symm)
  · cases ha
  · rw [List.append_nil, List.map_cons, hfirst]
    exact h.nodup
  · rw [List.append_nil, List.map_cons, hfirst, ← hsignature]
    rcases List.mem_cons.mp hp with rfl | hp
    · exact List.mem_cons_self ..
    · exact List.mem_cons_of_mem _ (List.mem_map_of_mem hp)

end Constructor

/-! ## Instances -/

/-- Fields whose defaults give values are filled, and the session stays as it is. -/
theorem run_fill_of_serves {fields : List FieldDeclaration} {l : Level} {σ : Session}
    (hfields : ∀ f ∈ fields, ∀ s, f.default = some s → s.Serves l σ) (bound : Bindings) :
    ∃ filled, (Instance.fill l bound fields).run σ = (.ok filled, σ) := by
  induction fields with
  | nil => exact ⟨[], rfl⟩
  | cons f rest ih =>
    obtain ⟨filled, hrest⟩ := ih fun g hg => hfields g (List.mem_cons_of_mem _ hg)
    unfold Instance.fill
    split
    next _ _ v _ =>
      refine ⟨(f.name, v) :: filled, ?_⟩
      rw [Running.run_bind_of_ok hrest]
      rfl
    next s _ hdefault =>
      obtain ⟨v, hv⟩ := hfields f (List.mem_cons_self ..) s hdefault
      refine ⟨(f.name, v) :: filled, ?_⟩
      rw [Running.run_bind_of_ok hv, Running.run_bind_of_ok hrest]
      rfl
    next => exact ⟨filled, hrest⟩

/-- Fields without hooks are filled, and the session stays as it is. -/
theorem run_fill {fields : List FieldDeclaration}
    (hfields : ∀ f ∈ fields, f.default.all Supply.isBuiltin = true) (l : Level) (bound : Bindings)
    (σ : Session) : ∃ filled, (Instance.fill l.above bound fields).run σ = (.ok filled, σ) :=
  run_fill_of_serves (fun f hf s hs => run_supply (by simpa [hs] using hfields f hf) l σ) bound

/-- Whether a class is made of fields of these names: nothing stands in the place of its constructor,
which takes them, and no hook runs for new instances. -/
def ClassTable.takes (table : ClassTable) (c : ClassRef) (addressing : Addressing)
    (names : List (Option String)) : Bool :=
  !c.form.isEnumeration && (table.info c).replaced.isNone &&
    (table.info c).constructor?.any (·.takes addressing names) &&
    match table.attribute? c "post_init" with
    | some (.hook _) => false
    | _ => true

section

variable {table : ClassTable} {c : ClassRef} {addressing : Addressing}
  {names : List (Option String)} {positional : List Value} {keywords : Bindings}

/-- A constructor that ends without a hook makes an instance of arguments that reach its parameters.
-/
theorem run_makeBy_of_fill {maker : Constructor} {l : Level} {σ : Session}
    (hhook : ∀ hook, table.attribute? c "post_init" ≠ some (.hook hook))
    (hending : ∀ hook, maker.making ≠ .written (some hook))
    (hbind : ∀ title, ∃ bound,
      Instance.bindInstance title maker positional keywords = .ok bound)
    (hfill : ∀ bound, ∃ filled, (Instance.fill l bound maker.parameters).run σ = (.ok filled, σ)) :
    ∃ filled, (Instance.makeBy l table c maker positional keywords).run σ =
      (.ok (.record c filled), σ) := by
  have hannounced : ∀ v, (Instance.announce l table c "post_init" v).run σ = (.ok ⟨⟩, σ) := by
    intro v
    unfold Instance.announce
    split
    next hook hattribute => exact absurd hattribute (hhook hook)
    next => rfl
  unfold Instance.makeBy
  dsimp only
  obtain ⟨bound, hbound⟩ := hbind _
  obtain ⟨filled, hfilled⟩ := hfill bound
  refine ⟨filled, ?_⟩
  rw [hbound]
  refine (Running.run_bind_of_ok (t := σ) (a := bound) rfl).trans ?_
  rw [Running.run_bind_of_ok hfilled]
  cases hmaking : maker.making with
  | fields =>
    dsimp only
    rw [Running.run_bind_of_ok (hannounced _)]
    rfl
  | written ending =>
    cases ending with
    | none => rfl
    | some hook => exact absurd hmaking (hending hook)
  | positions => rfl

/-- A constructor makes an instance of arguments that reach its parameters. -/
theorem run_makeBy {maker : Constructor} (h : maker.Takes addressing names)
    (hhook : ∀ hook, table.attribute? c "post_init" ≠ some (.hook hook))
    (hbind : ∀ title, ∃ bound,
      Instance.bindInstance title maker positional keywords = .ok bound)
    (l : Level) (σ : Session) :
    ∃ v, (Instance.makeBy l.above table c maker positional keywords).run σ = (.ok v, σ) := by
  have hending : ∀ hook, maker.making ≠ .written (some hook) := by
    rcases h.kinds with ⟨hmaking, -⟩ | ⟨hmaking, -⟩ <;> rw [hmaking] <;> exact fun _ => nofun
  obtain ⟨filled, hfilled⟩ := run_makeBy_of_fill hhook hending hbind
    fun bound => run_fill h.defaults l bound σ
  exact ⟨_, hfilled⟩

/-- What it means that a class is made of fields. -/
theorem takes_spec (h : table.takes c addressing names = true) :
    c.form.isEnumeration = false ∧ (table.info c).replaced = none ∧
      (∀ hook, table.attribute? c "post_init" ≠ some (.hook hook)) ∧
      ∃ maker, (table.info c).constructor? = some maker ∧ maker.Takes addressing names := by
  unfold ClassTable.takes at h
  simp only [Bool.and_eq_true, Bool.not_eq_true', Option.isNone_iff_eq_none,
    Option.any_eq_true] at h
  obtain ⟨⟨⟨hform, hreplaced⟩, maker, hmaker, htakes⟩, hhook⟩ := h
  refine ⟨hform, hreplaced, fun hook hattribute => ?_, maker, hmaker,
    Constructor.takes_spec htakes⟩
  rw [hattribute] at hhook
  cases hhook

/-- Where nothing stands in the place of the constructor of a class, it makes the instances. -/
theorem makeDeclared_of_constructor {maker : Constructor} (hform : c.form.isEnumeration = false)
    (hreplaced : (table.info c).replaced = none)
    (hmaker : (table.info c).constructor? = some maker) {l : Level} :
    Instance.makeDeclared l table c positional keywords =
      Instance.makeBy l table c maker positional keywords := by
  unfold Instance.makeDeclared
  dsimp only
  rw [hreplaced, hmaker]
  cases hc : c.form <;> first | rfl | (rw [hc] at hform; cases hform)

/-- A class that takes its arguments is made of them. -/
theorem run_construct (h : table.takes c addressing names = true)
    (hbind : ∀ maker : Constructor, maker.Takes addressing names → ∀ title, ∃ bound,
      Instance.bindInstance title maker positional keywords = .ok bound)
    (l : Level) {σ : Session} (hσ : σ.classes = table) :
    ∃ v, (l.above.above.construct (.declared c) positional keywords).run σ = (.ok v, σ) := by
  obtain ⟨hform, hreplaced, hhook, maker, hmaker, htakes⟩ := takes_spec h
  obtain ⟨v, hv⟩ := run_makeBy htakes hhook (hbind maker htakes) l σ
  refine ⟨v, ?_⟩
  have hconstruct : l.above.above.construct (.declared c) positional keywords =
      (do Instance.makeDeclared l.above (← get).classes c positional keywords) := rfl
  rw [hconstruct, Running.run_bind_of_ok (Running.run_get σ), hσ,
    makeDeclared_of_constructor hform hreplaced hmaker, hv]

end

/-! ## Targets -/

/-- Putting a value under a new name adds it at the end. -/
theorem Attributes.put_new {attributes : Attributes} {name : String}
    (hnew : name ∉ attributes.map (·.1)) (v : Value) :
    attributes.put name v = attributes ++ [(name, v)] := by
  induction attributes with
  | nil => rfl
  | cons a rest ih =>
    obtain ⟨n, old⟩ := a
    rw [List.map_cons, List.mem_cons, not_or] at hnew
    rw [Attributes.put, if_neg (by rw [beq_iff_eq]; exact fun h => hnew.1 h.symm), ih hnew.2]
    rfl

/-- Values that are put under new names, one after the other, stay under these names. -/
theorem foldl_put_names {steps : List DecodeStep} {values : List Value}
    (hlength : values.length = steps.length) {names : List String}
    (hnames : steps.map (·.fieldName) = names.map some) (bound : Bindings)
    (hnodup : (bound.map (·.1) ++ names).Nodup) :
    ((steps.zip values).foldl (fun bound a => Attributes.put bound (a.1.fieldName.getD "") a.2)
      bound).map (·.1) = bound.map (·.1) ++ names := by
  induction steps generalizing values names bound with
  | nil =>
    obtain rfl : names = [] := List.map_eq_nil_iff.mp hnames.symm
    rw [List.append_nil]
    rfl
  | cons s steps ih =>
    obtain ⟨name, names, rfl⟩ : ∃ name rest, names = name :: rest := by
      cases names with
      | nil => cases hnames
      | cons name rest => exact ⟨name, rest, rfl⟩
    obtain ⟨v, values, rfl⟩ := List.exists_cons_of_length_eq_add_one hlength
    rw [List.map_cons, List.map_cons, List.cons.injEq] at hnames
    have hmove : bound.map (·.1) ++ name :: names =
        (bound ++ [(name, v)]).map (·.1) ++ names := by simp
    have hnew : name ∉ bound.map (·.1) := by
      intro hmem
      rw [List.nodup_append] at hnodup
      exact hnodup.2.2 name hmem name (List.mem_cons_self ..) rfl
    rw [List.zip_cons_cons, List.foldl_cons, hnames.1, Option.getD_some,
      Attributes.put_new hnew, hmove]
    rw [hmove] at hnodup
    exact ih (Nat.succ.inj hlength) hnames.2 _ hnodup

/-- Steps with different names give one keyword argument each. -/
theorem keywordsOf_names {steps : List DecodeStep} {values : List Value}
    (hlength : values.length = steps.length) {names : List String}
    (hnames : steps.map (·.fieldName) = names.map some) (hnodup : names.Nodup) :
    (keywordsOf steps values).map (fun a => some a.1) = steps.map (·.fieldName) := by
  have hkeywords : (keywordsOf steps values).map (·.1) = names :=
    foldl_put_names hlength hnames [] hnodup
  rw [hnames, ← hkeywords, List.map_map]
  rfl

/-- Whether the target of a plan is made of its fields: a tuple type, or a class that takes them. -/
def Plan.isAssembled {M : Type} (table : ClassTable) (p : Plan M) : Bool :=
  match p.target with
  | .declared c => table.takes c p.addressing (p.steps.map (·.fieldName))
  | t => t.isTupleAlias && p.addressing == .byPosition

/-- **A target is made of its fields.** Whatever the values are, a tuple type, or a class that takes
the fields of a plan, is made of one value for each step, and the session stays as it is. -/
theorem run_makeTarget {p : DecodePlan} {σ : Session} (h : p.isAssembled σ.classes = true)
    {values : List Value} (hlength : values.length = p.steps.length) (l : Level) :
    ∃ v, (makeTarget l.above.above p values).run σ = (.ok v, σ) := by
  -- A target that is made without failing has no failure to change.
  have hmade : ∀ {m : Run Value} {change : Failure → Failure},
      (∃ v, m.run σ = (.ok v, σ)) → ∃ v, (m.mapFailure change).run σ = (.ok v, σ) := by
    rintro m change ⟨v, hv⟩
    exact ⟨v, by rw [Run.mapFailure, Running.run_tryCatch, hv]⟩
  unfold Plan.isAssembled at h
  unfold makeTarget
  refine hmade ?_
  cases htarget : p.target with
  | declared c =>
    rw [htarget] at h
    cases haddressing : p.addressing with
    | byName =>
      rw [haddressing] at h
      have hsome : ∀ maker : Constructor, maker.Takes .byName (p.steps.map (·.fieldName)) →
          p.steps.map (·.fieldName) = (maker.taken.map (·.name)).map some := by
        intro maker hmaker
        rw [← hmaker.names, List.map_map]
        rfl
      have hnamed : p.steps.all (·.fieldName.isSome) = true := by
        obtain ⟨-, -, -, maker, -, hmaker⟩ := takes_spec h
        rw [List.all_eq_true]
        intro s hs
        have hname : s.fieldName ∈ p.steps.map (·.fieldName) := List.mem_map_of_mem hs
        rw [hsome maker hmaker] at hname
        obtain ⟨name, -, hname⟩ := List.mem_map.mp hname
        rw [← hname]
        rfl
      dsimp only
      rw [if_pos hnamed]
      refine run_construct h (fun maker hmaker title => ?_) l rfl
      exact Constructor.bindInstance_byName hmaker
        (keywordsOf_names hlength (hsome maker hmaker) (List.nodup_cons.mp hmaker.nodup).2) title
    | byPosition =>
      rw [haddressing] at h
      refine run_construct h (fun maker hmaker title => ?_) l rfl
      exact Constructor.bindInstance_byPosition hmaker (by rw [hlength, List.length_map]) title
  | tupleOf | tupleOfAny =>
    rw [htarget] at h
    rw [Bool.and_eq_true, beq_iff_eq] at h
    rw [h.2]
    exact ⟨.tuple values, rfl⟩
  | _ =>
    rw [htarget] at h
    cases h

end RowDecoding
