import RowDecoding.Proofs.Assembling
import RowDecoding.Proofs.Determined
import RowDecoding.Proofs.Inhabitants
import RowDecoding.Proofs.Validating

/-!
# Defaults as values of their types

The default of a type is made in one of four ways: it is registered for the very type, it is nothing
because nothing is among the values, it is the default of the class that a generic type is made
from, or the class itself is called without arguments. Each way gives values that fit the types that
come to it, with three exceptions (`Misfit`): a tuple type with a place for every element gets the
empty tuple, identifiers of a class of their own cannot be made from nothing although the parameters
of the class say so, and a class of checked records may refuse its own defaults or have names in its
fields that stand for nothing.

What it means that a value fits a type is said by `ClassTable.inhabits`, part by part.

> `defaultFor_inhabits_iff`: a default is given and a value of its type just if the type is no
> misfit.
-/

namespace RowDecoding

/-! ## Registered defaults -/

/-- The defaults that every registry starts with are values of their classes. -/
theorem hasInstance_of_standardDefaults {b : Builtin} {s : Supply}
    (h : (b, s) ∈ Registry.standardDefaults) (l : Level) (σ : Session) :
    ∃ v, (l.above.supply s).run σ = (.ok v, σ) ∧ b.hasInstance v = true := by
  rcases List.mem_cons.mp h with h | h
  · cases h
    exact ⟨_, rfl, rfl⟩
  · obtain ⟨b', hb', h⟩ := List.mem_map.mp h
    cases h
    cases b <;> first | exact ⟨_, rfl, rfl⟩ | exact absurd hb' (by decide)

namespace Registry

variable {r : Registry} {name : String} {config : RegistryConfig} {t : TypeExpr} {s : Supply}

/-- Without registrations, the types with a default of their own are built-in classes. -/
theorem builtin_of_lookup_default (h : (create name config).defaults.lookup t.key = some s) :
    ∃ b, t = .builtin b ∧ (b, s) ∈ standardDefaults := by
  obtain ⟨⟨b, s'⟩, hb, heq⟩ := List.mem_map.mp (mem_of_lookup h)
  obtain ⟨hkey, rfl⟩ := Prod.mk.inj heq
  exact ⟨b, TypeExpr.sole_builtin b t hkey.symm, hb⟩

/-- Nothing is a value of a type that admits everything, or of which something is left without
nothing. -/
theorem inhabits_none (h : (t.admitsAll || t.optionalInner?.isSome) = true) (table : ClassTable) :
    table.inhabits t .none = true := by
  rcases Bool.or_eq_true _ _ |>.mp h with h | h
  · unfold TypeExpr.admitsAll TypeExpr.same at h
    rcases Bool.or_eq_true _ _ |>.mp h with h | h
    · rw [TypeExpr.sole_builtin .any t (eq_of_beq h)]
      rfl
    · rw [TypeExpr.sole_builtin .object t (eq_of_beq h)]
      rfl
  · cases t with
    | union form ms =>
      unfold TypeExpr.optionalInner? at h
      dsimp only at h
      split at h
      next hany =>
        obtain ⟨m, hm, hsame⟩ := List.any_eq_true.mp hany
        obtain rfl := TypeExpr.sole_builtin .noneType m (eq_of_beq hsame)
        exact ClassTable.inhabitsAny_of_membersOf rfl ms hm
      next => cases h
    | _ => cases h

/-- All defaults that a registry starts with are made by the class itself, but that of identifiers.
-/
theorem eq_make_of_standardDefaults {b : Builtin} (h : (b, s) ∈ standardDefaults)
    (hb : b ≠ .uuid) : s = .make (.builtin b) := by
  rcases List.mem_cons.mp h with h | h
  · cases h
    exact absurd rfl hb
  · obtain ⟨b', -, h⟩ := List.mem_map.mp h
    cases h
    rfl

/-- What a generic type has as a default is an empty container. It fits, unless it is a tuple that
has a place for an element. -/
theorem inhabits_of_origin
    (h : (t.originKey?.bind fun origin =>
      (create name config).defaults.lookup origin.key) = some s)
    (table : ClassTable) (l : Level) (σ : Session) :
    t.declared? = none ∧ ∃ v, (l.above.supply s).run σ = (.ok v, σ) ∧
      (table.inhabits t v = true ↔ ∀ form item items, t ≠ .tupleOf form (item :: items)) := by
  have hmake : ∀ {b : Builtin}, b ≠ .uuid →
      (create name config).defaults.lookup (TypeExpr.builtin b).key = some s →
        s = .make (.builtin b) := by
    intro b hb hlookup
    obtain ⟨b', hb', hmem⟩ := builtin_of_lookup_default hlookup
    cases hb'
    exact eq_make_of_standardDefaults hmem hb
  have hnone : ∀ v : Value, (create name config).defaults.lookup (TypeExpr.value v).key ≠ some s :=
    fun v hlookup => by
      obtain ⟨b, hb, -⟩ := builtin_of_lookup_default hlookup
      cases hb
  cases t with
  | listOf t =>
    obtain rfl := hmake (b := .list) (by decide) h
    exact ⟨rfl, .list [], rfl, fun _ _ _ _ => nofun, fun _ => rfl⟩
  | setOf t =>
    obtain rfl := hmake (b := .set) (by decide) h
    exact ⟨rfl, .set [], rfl, fun _ _ _ _ => nofun, fun _ => rfl⟩
  | frozensetOf t =>
    obtain rfl := hmake (b := .frozenset) (by decide) h
    exact ⟨rfl, .frozenset [], rfl, fun _ _ _ _ => nofun, fun _ => rfl⟩
  | dictOf k t =>
    obtain rfl := hmake (b := .dict) (by decide) h
    exact ⟨rfl, .dict [], rfl, fun _ _ _ _ => nofun, fun _ => rfl⟩
  | tupleOfAny t =>
    obtain rfl := hmake (b := .tuple) (by decide) h
    exact ⟨rfl, .tuple [], rfl, fun _ _ _ _ => nofun, fun _ => rfl⟩
  | tupleOf form types =>
    obtain rfl := hmake (b := .tuple) (by decide) h
    refine ⟨rfl, .tuple [], rfl, ?_⟩
    cases types with
    | nil => exact ⟨fun _ _ _ _ => nofun, fun _ => rfl⟩
    | cons item items => exact ⟨nofun, fun hno => absurd rfl (hno form item items)⟩
  | builtin b => exact absurd h (hnone .none)
  | declared c => exact absurd h (hnone .none)
  | forward name => exact absurd h (hnone .none)
  | value v => exact absurd h (hnone .none)
  | union form ms => cases h
  | literal choices => cases h
  | annotated base markers => cases h

end Registry

/-! ## Classes called without arguments -/

/-- A declared class without hooks: neither its attributes nor the end of its constructor are any.
-/
structure ClassTable.Hookless (table : ClassTable) (c : ClassRef) : Prop where
  known : table.Knows c
  attributes : ∀ name hook, table.attribute? c name ≠ some (.hook hook)
  ending : ∀ maker hook, (table.info c).constructor? = some maker →
    maker.making ≠ .written (some hook)

/-- The fields of a class have defaults that give values, those of its constructor as well as those
that it checks once the names in its fields are looked up. -/
structure Session.Stocks (σ : Session) (l : Level) (c : ClassRef) : Prop where
  parameters : ∀ maker, (σ.classes.info c).constructor? = some maker →
    ∀ f ∈ maker.parameters, ∀ s, f.default = some s → s.Serves l σ
  fields : ∀ info, Instance.completed σ.classes (σ.classes.info c) = .ok info →
    ∀ f ∈ info.fields, ∀ s, f.default = some s → s.Serves l (σ.noting info)

/-- Constants and what built-in classes make of nothing give values. -/
theorem Session.stocks_of_isBuiltin {σ : Session} {c : ClassRef}
    (hmaker : ∀ maker, (σ.classes.info c).constructor? = some maker →
      ∀ f ∈ maker.parameters, f.default.all Supply.isBuiltin = true)
    (hfields : ∀ f ∈ (σ.classes.info c).fields, f.default.all Supply.isBuiltin = true)
    (l : Level) : σ.Stocks l.above c where
  parameters maker hm f hf s hs := by
    have hbuiltin := hmaker maker hm f hf
    rw [hs] at hbuiltin
    exact run_supply hbuiltin l σ
  fields info hinfo f hf s hs := by
    obtain ⟨g, hg, hsame⟩ := mem_of_completed hinfo hf
    have hbuiltin := hfields g hg
    rw [show g.default = f.default from congrArg (·.default) hsame, hs] at hbuiltin
    exact run_supply hbuiltin l _

/-- A constructor without required parameters is called without arguments. -/
theorem bindInstance_nothing {maker : Constructor}
    (h : maker.signature.any (·.required) = false) (title : String) :
    ∃ bound, Instance.bindInstance title maker [] [] = .ok bound := by
  have hoptional : ∀ p ∈ maker.signature, p.required = false := by
    simpa using List.any_eq_false.mp h
  -- The only argument is the instance itself, which reaches the first parameter.
  have hpositional : (((⟨maker.receiver, .ordinary, true⟩ :: maker.signature).filter
      (·.isPositional)).filter fun p => p.required &&
        !([(maker.receiver, Value.none)].any fun b => b.1 == p.name)) = [] := by
    rw [List.filter_eq_nil_iff]
    intro p hp
    rcases List.mem_cons.mp (List.mem_of_mem_filter hp) with rfl | hp
    · simp
    · simp [hoptional p hp]
  have hkeyword : ((⟨maker.receiver, .ordinary, true⟩ :: maker.signature).filter fun p =>
      p.kind == .keywordOnly && (p.required &&
        !([(maker.receiver, Value.none)].any fun b => b.1 == p.name))) = [] := by
    rw [List.filter_eq_nil_iff]
    intro p hp
    rcases List.mem_cons.mp hp with rfl | hp
    · simp
    · simp [hoptional p hp]
  have hfilter : (⟨maker.receiver, .ordinary, true⟩ :: maker.signature).filter (·.isPositional) =
      ⟨maker.receiver, .ordinary, true⟩ :: maker.signature.filter (·.isPositional) :=
    List.filter_cons_of_pos rfl
  have hbound : (((⟨maker.receiver, .ordinary, true⟩ :: maker.signature).filter
      (·.isPositional)).zip [Value.none]).map (fun a => (a.1.name, a.2)) =
        [(maker.receiver, Value.none)] := by
    rw [hfilter, List.zip_cons_cons, List.zip_nil_right]
    rfl
  have hextra : [Value.none].drop ((⟨maker.receiver, .ordinary, true⟩ ::
      maker.signature).filter (·.isPositional)).length = [] := by
    rw [hfilter, List.length_cons, List.drop_succ_cons, List.drop_nil]
  unfold Instance.bindInstance Call.bind
  dsimp only
  rw [hbound, hextra, Call.placeKeywords]
  dsimp only [bind, Except.bind]
  rw [hpositional, hkeyword]
  exact ⟨_, rfl⟩

/-! ## Classes that are called without arguments -/

namespace Registry

/-- What it takes for a class to be called without arguments: its constructor asks for none, or it
has no constructor and is none of the classes whose parameters are not told or ask for something. -/
theorem madeFromNothing_spec {info : ClassInfo} (h : madeFromNothing info = true) :
    info.ref.form.isEnumeration = false ∧ info.replaced = none ∧
      ((∃ maker, info.constructor? = some maker ∧ maker.signature.any (·.required) = false) ∨
        (info.constructor? = none ∧ info.ref.form ≠ .wholeNumber ∧
          (∀ b, info.ref.form = .extension b → withoutSignature.contains b = false) ∧
          ∀ keys, info.ref.form = .model keys →
            ∀ f ∈ info.fields, f.inConstructor = true → f.default.isSome = true)) := by
  unfold madeFromNothing at h
  rcases hreplaced : info.replaced with _ | v
  · rcases hmaker : info.constructor? with _ | maker
    · rw [hreplaced, hmaker] at h
      cases hform : info.ref.form with
      | enumeration mixin => rw [hform] at h; cases h
      | wholeNumber => rw [hform] at h; cases h
      | extension b =>
        rw [hform] at h
        refine ⟨rfl, rfl, Or.inr ⟨rfl, nofun, fun b' hb' => ?_, fun _ => nofun⟩⟩
        cases hb'
        simpa using h
      | model keys =>
        rw [hform] at h
        refine ⟨rfl, rfl, Or.inr ⟨rfl, nofun, fun _ => nofun, fun _ _ f hf htaken => ?_⟩⟩
        simpa [htaken, Option.isSome_iff_ne_none] using
          List.any_eq_false.mp (Bool.not_eq_true' _ |>.mp h) f hf
      | _ => exact ⟨rfl, rfl, Or.inr ⟨rfl, nofun, fun _ => nofun, fun _ => nofun⟩⟩
    · rw [hreplaced, hmaker] at h
      cases hform : info.ref.form with
      | enumeration mixin => rw [hform] at h; cases h
      | _ => exact ⟨rfl, rfl, Or.inl ⟨maker, rfl, by rw [hform] at h; simpa using h⟩⟩
  · rw [hreplaced] at h
    cases hform : info.ref.form <;> rw [hform] at h <;> cases h

end Registry

section

variable {table : ClassTable} {c : ClassRef}

/-- A record of a class of the table is an instance of it. -/
theorem isInstance_record (hc : table.Knows c) (fields : List (String × Value)) :
    Check.isInstance table c (.record c fields) = true :=
  hc.any_lineage

/-- A class without a constructor and of no sort that is checked makes an instance of nothing, but
for identifiers. -/
theorem makeBare_nothing (hform : c.form.isEnumeration = false) (hwhole : c.form ≠ .wholeNumber)
    (hextension : ∀ b, c.form = .extension b → Registry.withoutSignature.contains b = false) :
    (c.form ≠ .extension .uuid → ∃ fields, Instance.makeBare c [] [] = .ok (.record c fields)) ∧
      (c.form = .extension .uuid → ∃ e, Instance.makeBare c [] [] = .error e) := by
  unfold Instance.makeBare
  cases h : c.form with
  | enumeration mixin => rw [h] at hform; cases hform
  | wholeNumber => exact absurd h hwhole
  | extension b =>
    have hb := hextension b h
    cases b <;> first
      | exact ⟨fun _ => ⟨_, rfl⟩, nofun⟩
      | exact ⟨fun hno => absurd rfl hno, fun _ => ⟨_, rfl⟩⟩
      | exact absurd hb (by decide)
  | _ => exact ⟨fun _ => ⟨_, rfl⟩, nofun⟩

/-! ### Checked records -/

variable {l : Level} {σ τ : Session} {info : ClassInfo}

/-- What is accepted as a record of a class is one. -/
theorem value_of_checkModelEntries {mode : Option Bool} {exactness : Exactness}
    {entries : List (Value × Value)} {fit : Fit}
    (h : (Instance.checkModelEntries l table mode exactness c info entries).run σ =
      (.ok (.ok fit), τ)) :
    ∃ fields, fit.value = .record c fields := by
  unfold Instance.checkModelEntries Instance.checkEntries at h
  dsimp only at h
  obtain ⟨results, σ₁, -, h⟩ := Running.run_bind_eq_ok.mp h
  split at h
  next fit' _ hwhole =>
    cases h
    obtain ⟨hgives, hrejects⟩ := Verdict.whole_spec
      (fun values => .record c (((info.fields.filter fun f =>
        f.inConstructor || f.default.isSome).map (·.name)).zip values)) exactness
      (results.map (·.2))
    by_cases hnone : Verdict.allIssues (results.map (·.2)) = []
    · obtain ⟨fit'', hfit, hvalue⟩ := hgives hnone
      rw [hfit] at hwhole
      cases hwhole
      exact ⟨_, hvalue⟩
    · rw [hrejects hnone] at hwhole
      cases hwhole
  next => cases h

/-! ### Checked defaults -/

/-- The default of a field is taken: it gives a value, and if defaults are checked, then the check of
the field by its type, its bounds and its validator finds no issue in it. -/
def FieldDeclaration.TakesDefault (l : Level) (table : ClassTable) (info : ClassInfo)
    (f : FieldDeclaration) (σ σ' : Session) : Prop :=
  ∃ s v τ verdict, f.default = some s ∧ (l.supply s).run σ = (.ok v, τ) ∧
    (Instance.checkDefault info.settings
      (Instance.checkField l table none info.settings info.ref f) v).run τ = (.ok verdict, σ') ∧
    verdict.issues = []

/-- The defaults of fields are taken in turn. -/
inductive TakeDefaults (l : Level) (table : ClassTable) (info : ClassInfo) :
    List FieldDeclaration → Session → Session → Prop
  | nil {σ : Session} : TakeDefaults l table info [] σ σ
  | cons {f : FieldDeclaration} {fields : List FieldDeclaration} {σ σ' σ'' : Session}
      (head : f.TakesDefault l table info σ σ') (tail : TakeDefaults l table info fields σ' σ'') :
      TakeDefaults l table info (f :: fields) σ σ''

theorem Verdict.issues_at_ {verdict : Verdict} {place : Value} :
    (verdict.at_ place).issues = [] ↔ verdict.issues = [] := by
  cases verdict with
  | ok fit => exact Iff.rfl
  | error found => exact List.map_eq_nil_iff

/-- Where nothing is given to a field, it is its default that is checked. -/
theorem checkEntry_nothing (f : FieldDeclaration) :
    Instance.checkEntry l table none info.settings info [] f =
      match f.default with
      | some supply => do
        let verdict ← Instance.checkDefault info.settings
          (Instance.checkField l table none info.settings info.ref f) (← l.supply supply)
        pure (none, verdict.at_ (Instance.placeOf info.settings f none))
      | none => pure (none, Check.missing.at_ (Instance.placeOf info.settings f none)) := by
  have hgiven : Instance.given? info.settings f [] = none := by
    unfold Instance.given?
    split
    · rfl
    · simp
  cases hdefault : f.default with
  | none => simp only [Instance.checkEntry, hgiven, hdefault]
  | some supply => simp only [Instance.checkEntry, hgiven, hdefault]

/-- Where nothing is given, a field is reported without issue just if its default is taken. -/
theorem run_checkEntry_nothing {f : FieldDeclaration} {result : Option String × Verdict}
    (h : (Instance.checkEntry l table none info.settings info [] f).run σ = (.ok result, τ)) :
    result.1 = none ∧ (result.2.issues = [] → f.TakesDefault l table info σ τ) := by
  rw [checkEntry_nothing] at h
  cases hdefault : f.default with
  | none =>
    rw [hdefault] at h
    cases h
    exact ⟨rfl, nofun⟩
  | some s =>
    rw [hdefault] at h
    obtain ⟨v, σ₁, hv, h⟩ := Running.run_bind_eq_ok.mp h
    obtain ⟨verdict, σ₂, hchecked, h⟩ := Running.run_bind_eq_ok.mp h
    cases h
    exact ⟨rfl, fun hissues =>
      ⟨s, v, σ₁, verdict, hdefault, hv, hchecked, Verdict.issues_at_.mp hissues⟩⟩

theorem FieldDeclaration.TakesDefault.run {f : FieldDeclaration}
    (h : f.TakesDefault l table info σ τ) :
    ∃ verdict, (Instance.checkEntry l table none info.settings info [] f).run σ =
      (.ok (none, verdict), τ) ∧ verdict.issues = [] := by
  obtain ⟨s, v, σ₁, verdict, hdefault, hv, hchecked, hissues⟩ := h
  refine ⟨verdict.at_ (Instance.placeOf info.settings f none), ?_,
    Verdict.issues_at_.mpr hissues⟩
  rw [checkEntry_nothing, hdefault]
  dsimp only
  rw [Running.run_bind_of_ok hv, Running.run_bind_of_ok hchecked]
  rfl

/-- Where nothing is given, fields are reported without issues just if their defaults are taken. -/
theorem run_mapM_checkEntry_nothing {fields : List FieldDeclaration} {σ : Session}
    {results : List (Option String × Verdict)}
    (h : (fields.mapM (Instance.checkEntry l table none info.settings info [])).run σ =
      (.ok results, τ)) :
    results.filterMap (·.1) = [] ∧
      (Verdict.allIssues (results.map (·.2)) = [] → TakeDefaults l table info fields σ τ) := by
  induction fields generalizing σ results with
  | nil =>
    cases h
    exact ⟨rfl, fun _ => .nil⟩
  | cons f rest ih =>
    obtain ⟨result, results', σ₁, hf, hrest, rfl⟩ := Running.run_mapM_cons_eq_ok.mp h
    obtain ⟨hnone, htakes⟩ := run_checkEntry_nothing hf
    obtain ⟨hnones, htake⟩ := ih hrest
    refine ⟨by rw [List.filterMap_cons_none hnone, hnones], fun hissues => ?_⟩
    obtain ⟨hissue, hissues⟩ := List.append_eq_nil_iff.mp hissues
    exact .cons (htakes hissue) (htake hissues)

theorem TakeDefaults.run {fields : List FieldDeclaration} (h : TakeDefaults l table info fields σ τ) :
    ∃ results, (fields.mapM (Instance.checkEntry l table none info.settings info [])).run σ =
      (.ok results, τ) ∧ Verdict.allIssues (results.map (·.2)) = [] := by
  induction h with
  | nil => exact ⟨[], rfl, rfl⟩
  | cons head _ ih =>
    obtain ⟨verdict, hrun, hissue⟩ := head.run
    obtain ⟨results, hresults, hissues⟩ := ih
    refine ⟨(none, verdict) :: results, ?_, List.append_eq_nil_iff.mpr ⟨hissue, hissues⟩⟩
    rw [List.mapM_cons, Running.run_bind_of_ok hrun, Running.run_bind_of_ok hresults]
    rfl

/-- A class of checked records is made of nothing just if its defaults are taken in turn. -/
theorem checkModelEntries_nothing {exactness : Exactness} :
    (∃ fit, (Instance.checkModelEntries l table none exactness c info []).run σ =
        (.ok (.ok fit), τ)) ↔
      TakeDefaults l table info (info.fields.filter fun f => f.inConstructor || f.default.isSome)
        σ τ := by
  have hmode : info.settings.inMode none = info.settings := rfl
  have hwhole := fun results : List (Option String × Verdict) =>
    Verdict.whole_spec (fun values => .record c (((info.fields.filter
      fun f => f.inConstructor || f.default.isSome).map (·.name)).zip values)) exactness
      (results.map (·.2))
  unfold Instance.checkModelEntries Instance.checkEntries
  dsimp only
  rw [hmode]
  constructor
  · rintro ⟨fit, h⟩
    obtain ⟨results, τ', hresults, h⟩ := Running.run_bind_eq_ok.mp h
    obtain ⟨htaken, htakes⟩ := run_mapM_checkEntry_nothing hresults
    -- Nothing is left over where nothing is given, so only the fields can have issues.
    by_cases hnone : Verdict.allIssues (results.map (·.2)) = []
    · split at h <;> cases h
      exact htakes hnone
    · rw [(hwhole results).2 hnone] at h
      split at h
      next heq => cases heq
      next => cases h
  · intro h
    obtain ⟨results, hresults, hissues⟩ := h.run
    obtain ⟨htaken, -⟩ := run_mapM_checkEntry_nothing hresults
    obtain ⟨fit, hfit, -⟩ := (hwhole results).1 hissues
    rw [Running.run_bind_of_ok hresults, htaken, hfit]
    cases info.settings.surplus <;> exact ⟨_, rfl⟩

/-- Defaults that give values are taken where they are not checked. -/
theorem takeDefaults_of_serves (hsettings : info.settings.checksDefaults = false)
    {fields : List FieldDeclaration} (hall : ∀ f ∈ fields, f.default.isSome = true)
    (hserves : ∀ f ∈ fields, ∀ s, f.default = some s → s.Serves l σ) :
    TakeDefaults l table info fields σ σ := by
  induction fields with
  | nil => exact .nil
  | cons f rest ih =>
    obtain ⟨s, hs⟩ := Option.isSome_iff_exists.mp (hall f (List.mem_cons_self ..))
    obtain ⟨v, hv⟩ := hserves f (List.mem_cons_self ..) s hs
    refine .cons ⟨s, v, σ, .accept v .exact, hs, hv, ?_, rfl⟩
      (ih (fun g hg => hall g (List.mem_cons_of_mem _ hg))
        fun g hg => hserves g (List.mem_cons_of_mem _ hg))
    unfold Instance.checkDefault
    rw [hsettings]
    rfl

/-- Defaults are taken in turn, or up to a first one that is not. -/
theorem takeDefaults_or (l : Level) (table : ClassTable) (info : ClassInfo)
    (fields : List FieldDeclaration) (σ : Session) :
    (∃ τ, TakeDefaults l table info fields σ τ) ∨
      ∃ before f after τ, fields = before ++ f :: after ∧ TakeDefaults l table info before σ τ ∧
        ∀ τ', ¬ f.TakesDefault l table info τ τ' := by
  induction fields generalizing σ with
  | nil => exact Or.inl ⟨σ, .nil⟩
  | cons f rest ih =>
    by_cases hf : ∃ τ, f.TakesDefault l table info σ τ
    · obtain ⟨τ, hf⟩ := hf
      rcases ih τ with ⟨τ', hrest⟩ | ⟨before, g, after, τ', rfl, hbefore, hrefused⟩
      · exact Or.inl ⟨τ', .cons hf hrest⟩
      · exact Or.inr ⟨f :: before, g, after, τ', rfl, .cons hf hbefore, hrefused⟩
    · exact Or.inr ⟨[], f, rest, σ, rfl, .nil, fun τ' h => hf ⟨τ', h⟩⟩

/-- What becomes of a session is determined. -/
theorem FieldDeclaration.TakesDefault.unique {f : FieldDeclaration} {τ' : Session}
    (h : f.TakesDefault l table info σ τ) (h' : f.TakesDefault l table info σ τ') : τ = τ' := by
  obtain ⟨s, v, σ₁, verdict, hs, hv, hchecked, -⟩ := h
  obtain ⟨s', v', σ₁', verdict', hs', hv', hchecked', -⟩ := h'
  cases hs.symm.trans hs'
  cases hv.symm.trans hv'
  exact (Prod.mk.inj (hchecked.symm.trans hchecked')).2

/-- Where all defaults are taken, each one is after those before it. -/
theorem TakeDefaults.next {before after : List FieldDeclaration} {f : FieldDeclaration}
    {τ' : Session} (h : TakeDefaults l table info (before ++ f :: after) σ τ')
    (hbefore : TakeDefaults l table info before σ τ) :
    ∃ τ'', f.TakesDefault l table info τ τ'' := by
  induction hbefore with
  | nil =>
    cases h with
    | cons head _ => exact ⟨_, head⟩
  | cons head _ ih =>
    cases h with
    | cons head' tail' =>
      obtain rfl := head.unique head'
      exact ih tail'

end

/-! ## Types whose default does not fit -/

/-- The types whose default is no value of theirs, or is not even given: tuple types with a place
for an element, identifiers of a class of their own, and classes of checked records with a name that
stands for nothing or with a field whose default its own type does not accept. -/
inductive Misfit (l : Level) (σ : Session) : TypeExpr → Prop
  | places (form : TupleForm) (item : TypeExpr) (items : List TypeExpr) :
      Misfit l σ (.tupleOf form (item :: items))
  | identifier {c : ClassRef} (unmade : (σ.classes.info c).constructor? = none)
      (form : c.form = .extension .uuid) : Misfit l σ (.declared c)
  | incomplete {c : ClassRef} {keys : KeyUse} {e : Fault}
      (unmade : (σ.classes.info c).constructor? = none) (form : c.form = .model keys)
      (h : Instance.completed σ.classes (σ.classes.info c) = .error e) : Misfit l σ (.declared c)
  /-- Defaults are checked, and those of the fields before `f` are taken in turn. But in whatever the
  default of `f` gives then, the check of `f` by its type, its bounds and its validator finds an issue,
  if it comes to an end at all. -/
  | refusing {c : ClassRef} {keys : KeyUse} {info : ClassInfo} {f : FieldDeclaration}
      {before after : List FieldDeclaration} {s : Supply} {τ : Session}
      (unmade : (σ.classes.info c).constructor? = none) (form : c.form = .model keys)
      (completed : Instance.completed σ.classes (σ.classes.info c) = .ok info)
      (checks : info.settings.checksDefaults = true)
      (fields : info.fields.filter (fun f => f.inConstructor || f.default.isSome) =
        before ++ f :: after)
      (taken : TakeDefaults l σ.classes info before (σ.noting info) τ) (default : f.default = some s)
      (refused : ∀ v τ₁ verdict τ₂, (l.supply s).run τ = (.ok v, τ₁) →
        (Instance.checkField l σ.classes none info.settings info.ref f v).run τ₁ =
          (.ok verdict, τ₂) → verdict.issues ≠ []) : Misfit l σ (.declared c)

section

variable {l : Level} {σ : Session} {c : ClassRef}

/-- A class of checked records with its names looked up is made by checking its entries. -/
theorem run_makeModel_completed {info : ClassInfo}
    (h : Instance.completed σ.classes (σ.classes.info c) = .ok info) :
    (Instance.makeModel l σ.classes (σ.classes.info c) [] []).run σ =
      (do
        match ← Instance.checkModelEntries l σ.classes none .lax info.ref info [] with
        | .ok fit => pure fit.value
        | .error issues => throw (.invalid issues) : Run Value).run (σ.noting info) := by
  unfold Instance.makeModel
  rw [h]
  rfl

/-- A class of checked records with its names looked up makes a record of nothing, unless it checks
its defaults and refuses some. -/
theorem makeModel_nothing {keys : KeyUse} (hc : σ.classes.Hookless c) (hstock : σ.Stocks l c)
    (hunmade : (σ.classes.info c).constructor? = none) (hform : c.form = .model keys)
    (hall : ∀ f ∈ (σ.classes.info c).fields, f.inConstructor = true → f.default.isSome = true) :
    (∃ v σ', (Instance.makeModel l σ.classes (σ.classes.info c) [] []).run σ = (.ok v, σ') ∧
      Check.isInstance σ.classes c v = true) ↔ ¬ Misfit l σ (.declared c) := by
  obtain ⟨own, hown⟩ := hc.known
  have href : (σ.classes.info c).ref = c := by
    rw [ClassTable.info_of_known hown, (ClassTable.known?_spec hown).2.1]
  cases hcompleted : Instance.completed σ.classes (σ.classes.info c) with
  | error e =>
    refine ⟨?_, fun hno => absurd (.incomplete hunmade hform hcompleted) hno⟩
    rintro ⟨v, σ', hrun, -⟩
    unfold Instance.makeModel at hrun
    rw [hcompleted] at hrun
    cases hrun
  | ok info =>
    have hinfo : info.ref = c := (completed_spec hcompleted).1.trans href
    rw [run_makeModel_completed hcompleted, Running.run_bind]
    constructor
    · rintro ⟨v, σ', h, -⟩ hmisfit
      cases hmisfit with
      | identifier _ hidentifier => rw [hform] at hidentifier; cases hidentifier
      | incomplete _ _ herror => rw [hcompleted] at herror; cases herror
      | refusing _ _ hok hchecks hfields htaken hdefault hrefused =>
        rw [hcompleted] at hok
        cases hok
        split at h
        next verdict τ hverdict =>
          cases verdict with
          | ok fit =>
            have htakes := checkModelEntries_nothing.mp ⟨fit, hverdict⟩
            rw [hfields] at htakes
            obtain ⟨_, s, v, _, _, hs, hv, hchecked, hissues⟩ := htakes.next htaken
            cases hs.symm.trans hdefault
            unfold Instance.checkDefault at hchecked
            rw [hchecks] at hchecked
            exact hrefused _ _ _ _ hv hchecked hissues
          | error issues => cases h
        next => cases h
    · intro hfits
      have hdefaults : ∀ f ∈ info.fields.filter (fun f => f.inConstructor || f.default.isSome),
          f ∈ info.fields ∧ f.default.isSome = true := by
        intro f hf
        obtain ⟨hf, hkept⟩ := List.mem_filter.mp hf
        refine ⟨hf, (Bool.or_eq_true _ _ |>.mp hkept).elim (fun htaken => ?_) id⟩
        obtain ⟨g, hg, hsame⟩ := mem_of_completed hcompleted hf
        have hdefault := hall g hg ((congrArg (·.inConstructor) hsame).trans htaken)
        rwa [show g.default = f.default from congrArg (·.default) hsame] at hdefault
      have htakes : ∃ τ, TakeDefaults l σ.classes info
          (info.fields.filter fun f => f.inConstructor || f.default.isSome) (σ.noting info) τ := by
        cases hchecks : info.settings.checksDefaults with
        | false =>
          exact ⟨_, takeDefaults_of_serves hchecks (fun f hf => (hdefaults f hf).2) fun f hf =>
            hstock.fields info hcompleted f (hdefaults f hf).1⟩
        | true =>
          refine (takeDefaults_or ..).resolve_right ?_
          rintro ⟨before, f, after, τ, hfields, htaken, hno⟩
          have hmem : f ∈ info.fields.filter (fun f => f.inConstructor || f.default.isSome) := by
            rw [hfields]
            exact List.mem_append_right _ (List.mem_cons_self ..)
          obtain ⟨s, hs⟩ := Option.isSome_iff_exists.mp (hdefaults f hmem).2
          refine hfits (.refusing hunmade hform hcompleted hchecks hfields htaken hs ?_)
          intro v τ₁ verdict τ₂ hv hchecked hissues
          refine hno τ₂ ⟨s, v, τ₁, verdict, hs, hv, ?_, hissues⟩
          unfold Instance.checkDefault
          rw [hchecks]
          exact hchecked
      obtain ⟨τ, htakes⟩ := htakes
      obtain ⟨fit, hfit⟩ := checkModelEntries_nothing.mpr htakes
      obtain ⟨fields, hvalue⟩ := value_of_checkModelEntries hfit
      rw [hfit]
      exact ⟨fit.value, τ, rfl, by rw [hvalue, hinfo]; exact isInstance_record hc.known fields⟩

/-- Where a class has no constructor and does not check, its instances are made bare. -/
theorem makeDeclared_bare (hplain : c.form.isEnumeration = false)
    (hreplaced : (σ.classes.info c).replaced = none)
    (hunmade : (σ.classes.info c).constructor? = none) (hmodel : ∀ keys, c.form ≠ .model keys) :
    Instance.makeDeclared l σ.classes c [] [] = Run.lift (Instance.makeBare c [] []) := by
  unfold Instance.makeDeclared
  dsimp only
  rw [hreplaced, hunmade]
  cases hform : c.form with
  | model keys => exact absurd hform (hmodel keys)
  | enumeration mixin => rw [hform] at hplain; cases hplain
  | _ => rfl

/-- A class without hooks that can be called without arguments as far as its parameters tell makes
an instance of itself, unless it is a misfit. -/
theorem make_declared_iff (hc : σ.classes.Hookless c) (hstock : σ.Stocks l c)
    (hmade : Registry.madeFromNothing (σ.classes.info c) = true) :
    (∃ v σ', (l.above.supply (.make (.declared c))).run σ = (.ok v, σ') ∧
      σ.classes.inhabits (.declared c) v = true) ↔ ¬ Misfit l σ (.declared c) := by
  obtain ⟨own, hown⟩ := hc.known
  have href : (σ.classes.info c).ref = c := by
    rw [ClassTable.info_of_known hown, (ClassTable.known?_spec hown).2.1]
  have hsupply : l.above.supply (.make (.declared c)) =
      (do Instance.makeDeclared l (← get).classes c [] []) := rfl
  rw [hsupply, Running.run_bind_of_ok (Running.run_get σ)]
  simp only [ClassTable.inhabits]
  obtain ⟨hplain, hreplaced, hways⟩ := Registry.madeFromNothing_spec hmade
  rw [href] at hplain hways
  rcases hways with ⟨maker, hmaker, hrequired⟩ | ⟨hunmade, hwhole, hextension, hall⟩
  · obtain ⟨filled, hfilled⟩ := run_makeBy_of_fill (c := c) (hc.attributes "post_init")
      (hc.ending maker · hmaker) (bindInstance_nothing hrequired)
      (run_fill_of_serves (hstock.parameters maker hmaker))
    rw [makeDeclared_of_constructor hplain hreplaced hmaker]
    refine iff_of_true ⟨_, σ, hfilled, isInstance_record hc.known filled⟩ fun hmisfit => ?_
    cases hmisfit with
    | identifier hunmade _ => rw [hmaker] at hunmade; cases hunmade
    | incomplete hunmade _ _ => rw [hmaker] at hunmade; cases hunmade
    | refusing hunmade => rw [hmaker] at hunmade; cases hunmade
  · by_cases hmodel : ∃ keys, c.form = .model keys
    · obtain ⟨keys, hkeys⟩ := hmodel
      have hdeclared : Instance.makeDeclared l σ.classes c [] [] =
          Instance.makeModel l σ.classes (σ.classes.info c) [] [] := by
        unfold Instance.makeDeclared
        dsimp only
        rw [hreplaced, hunmade, hkeys]
      rw [hdeclared]
      exact makeModel_nothing hc hstock hunmade hkeys (hall keys hkeys)
    · obtain ⟨hmakes, hrefuses⟩ := makeBare_nothing hplain hwhole hextension
      rw [makeDeclared_bare hplain hreplaced hunmade fun keys h => hmodel ⟨keys, h⟩]
      by_cases huuid : c.form = .extension .uuid
      · obtain ⟨e, he⟩ := hrefuses huuid
        rw [he]
        refine iff_of_false ?_ fun hno => hno (.identifier hunmade huuid)
        rintro ⟨v, σ', h, -⟩
        cases h
      · obtain ⟨fields, hmade⟩ := hmakes huuid
        rw [hmade]
        refine iff_of_true ⟨_, σ, rfl, isInstance_record hc.known fields⟩ fun hmisfit => ?_
        cases hmisfit with
        | identifier _ hform => exact huuid hform
        | incomplete _ hform _ => exact hmodel ⟨_, hform⟩
        | refusing _ hform => exact hmodel ⟨_, hform⟩

end

/-- **Defaults are values of their types.** Take a registry without registrations of defaults and
any type, of which a class is hookless with defaults for its fields that give values. If the type
has a default, asking for it succeeds and gives a value of the type, unless the type is one of the
misfits; with these it never does. -/
theorem defaultFor_inhabits_iff {σ : Session} {r : Registry} {name : String}
    {config : RegistryConfig} (hr : r.defaults = (Registry.create name config).defaults)
    {t : TypeExpr} {s : Supply} (h : r.defaultFor σ.classes t = .ok (some s))
    (hc : ∀ c, t = .declared c → σ.classes.Hookless c ∧ σ.Stocks (Level.ofDepth 999) c) :
    (∃ v σ', (Level.top.supply s).run σ = (.ok v, σ') ∧ σ.classes.inhabits t v = true) ↔
      ¬ Misfit (Level.ofDepth 999) σ t := by
  have htop : Level.top = (Level.ofDepth 999).above := rfl
  rw [htop]
  unfold Registry.defaultFor at h
  obtain ⟨key, hkey, h⟩ := Running.bind_eq_ok.mp h
  have hkeyed : key = t.key := by
    unfold Registry.keyOf at hkey
    split at hkey
    · cases hkey
    · exact (Except.ok.inj hkey).symm
  rw [hkeyed, hr] at h
  split at h
  next s' hlookup =>
    cases h
    obtain ⟨b, rfl, hmem⟩ := Registry.builtin_of_lookup_default hlookup
    obtain ⟨v, hv, hinstance⟩ := hasInstance_of_standardDefaults hmem (Level.ofDepth 999) σ
    exact iff_of_true ⟨v, σ, hv, hinstance⟩ nofun
  next =>
    split at h
    next hnothing =>
      cases h
      have hnone := Registry.inhabits_none hnothing σ.classes
      refine iff_of_true ⟨.none, σ, rfl, hnone⟩ fun hmisfit => ?_
      cases hmisfit <;> cases hnone
    next =>
      split at h
      next s' hlookup =>
        cases h
        obtain ⟨hdeclared, v, hv, hinhabits⟩ := Registry.inhabits_of_origin hlookup σ.classes
          (Level.ofDepth 999) σ
        constructor
        · rintro ⟨v', σ', hv', hfits⟩ hmisfit
          cases hv.symm.trans hv'
          cases hmisfit with
          | places form item items => exact hinhabits.mp hfits form item items rfl
          | _ => cases hdeclared
        · intro hno
          refine ⟨v, σ, hv, hinhabits.mpr fun form item items ht => hno ?_⟩
          rw [ht]
          exact .places form item items
      next =>
        split at h
        next c hdeclared =>
          obtain rfl : t = .declared c := by
            cases t <;> cases hdeclared
            rfl
          split at h
          next hmade =>
            cases h
            obtain ⟨hhookless, hstock⟩ := hc c rfl
            exact make_declared_iff hhookless hstock hmade
          next => cases h
        next => cases h

/-! ## A tuple with places, and a class with a default -/

/-- The default of a pair is the empty tuple. -/
theorem pair_default_empty :
    ¬ ∀ t s, (Registry.create "main" .standard).defaultFor (Session.create []).classes t =
        .ok (some s) →
      ∃ v σ', (Level.top.supply s).run (Session.create []) = (.ok v, σ') ∧
        (Session.create []).classes.inhabits t v = true := by
  intro h
  obtain ⟨v, σ', hv, hfits⟩ := h (.tupleOf .plain [.builtin .int, .builtin .str])
    (.make (.builtin .tuple)) (by with_unfolding_all rfl)
  obtain rfl : v = .tuple [] := (Except.ok.inj (Prod.mk.inj hv).1).symm
  cases hfits

namespace Sized

/-- A class whose only field has a default. -/
def size : ClassRef := ⟨"Size", 1, .dataclass .none⟩

def session : Session :=
  ((Derive.declare (.dataclass "Size" none
    [{ FieldDeclaration.given "width" (.builtin .int) with
      default := some (.constant (.int 1)) }]) none).run (Session.create [])).2

/-- Whether `size` has a constructor that ends without a hook and no attributes, and its defaults
are constants. -/
def isPlain : Bool :=
  (session.classes.known? size).any fun info =>
    info.attributes.isEmpty && info.ancestors.isEmpty &&
    info.fields.all (fun f => f.default.all Supply.isBuiltin) &&
    info.constructor?.any fun maker =>
      maker.parameters.all (fun f => f.default.all Supply.isBuiltin) &&
      maker.making matches .fields

/-- The class is made from nothing, and what is made is an instance of it. -/
theorem defaultFor_inhabits_size :
    (Registry.create "main" .standard).defaultFor session.classes (.declared size) =
        .ok (some (.make (.declared size))) ∧
      ∃ v σ', (Level.top.supply (.make (.declared size))).run session = (.ok v, σ') ∧
        session.classes.inhabits (.declared size) v = true := by
  have hplain : isPlain = true := by decide +kernel
  unfold isPlain at hplain
  rw [Option.any_eq_true] at hplain
  obtain ⟨info, hinfo, hplain⟩ := hplain
  rw [Bool.and_eq_true, Bool.and_eq_true, Bool.and_eq_true, Option.any_eq_true] at hplain
  obtain ⟨⟨⟨hattributes, hancestors⟩, hfields⟩, maker, hmaker, hmaking⟩ := hplain
  rw [Bool.and_eq_true] at hmaking
  obtain ⟨hparameters, hmaking⟩ := hmaking
  have hown := ClassTable.info_of_known hinfo
  have hhookless : session.classes.Hookless size := by
    refine ⟨⟨info, hinfo⟩, fun name hook h => ?_, fun maker' hook hm h => ?_⟩
    · unfold ClassTable.attribute? ClassTable.lineage at h
      rw [hinfo] at h
      dsimp only at h
      rw [List.isEmpty_iff.mp hancestors] at h
      simp [List.isEmpty_iff.mp hattributes] at h
    · rw [hown, hmaker] at hm
      cases hm
      rw [h] at hmaking
      cases hmaking
  have hstock : session.Stocks (Level.ofDepth 999) size := by
    refine Session.stocks_of_isBuiltin (fun maker' hm => ?_) (fun f hf => ?_) (Level.ofDepth 998)
    · rw [hown, hmaker] at hm
      cases hm
      exact List.all_eq_true.mp hparameters
    · rw [hown] at hf
      exact List.all_eq_true.mp hfields f hf
  have hdefault : (Registry.create "main" .standard).defaultFor session.classes
      (.declared size) = .ok (some (.make (.declared size))) := by
    with_unfolding_all rfl
  refine ⟨hdefault, (defaultFor_inhabits_iff rfl hdefault fun c h => ?_).mpr fun hmisfit => ?_⟩
  · cases h
    exact ⟨hhookless, hstock⟩
  · rw [← hown] at hmaker
    cases hmisfit with
    | identifier hunmade _ => cases hmaker.symm.trans hunmade
    | incomplete hunmade _ _ => cases hmaker.symm.trans hunmade
    | refusing hunmade => cases hmaker.symm.trans hunmade

end Sized

end RowDecoding
