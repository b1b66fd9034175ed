import RowDecoding.Mapping.Derive
import RowDecoding.Proofs.Recursion

/-!
# What classes say about their fields

A class may say something about all its fields, such as the convention for the names of their
columns. Nothing but the schema of the class depends on that: not how names in types are looked up,
not which decoders, conversions and defaults there are, not how whole rows are mapped. All of it is
the same for a table in which no class says anything (`ClassTable.silent`).

> `planWithin_congr`: classes that differ in what they say compile the same where nothing that is
> asked for says anything else.
-/

namespace RowDecoding

/-! ## What classes say about their fields -/

/-- The class without what it says about all its fields. -/
def ClassInfo.silent (info : ClassInfo) : ClassInfo :=
  { info with config := none }

/-- A change that keeps which class it is and where it comes from. -/
def KeepsOrigin (change : ClassInfo → ClassInfo) : Prop :=
  ∀ info, (change info).ref = info.ref ∧ (change info).ancestors = info.ancestors

theorem keepsOrigin_silent : KeepsOrigin ClassInfo.silent :=
  fun _ => ⟨rfl, rfl⟩

namespace ClassTable

/-- A table with each class changed. -/
def mapped (table : ClassTable) (change : ClassInfo → ClassInfo) : ClassTable :=
  { table with classes := table.classes.map change }

/-- The classes without what they say about all their fields. -/
def silent (table : ClassTable) : ClassTable :=
  table.mapped ClassInfo.silent

section

variable {change : ClassInfo → ClassInfo} (hchange : KeepsOrigin change) (table : ClassTable)

include hchange

theorem info?_mapped (serial : Nat) :
    (table.mapped change).info? serial = (table.info? serial).map change := by
  unfold info? mapped
  rw [List.find?_map]
  congr 2
  funext info
  show ((change info).ref.serial == serial) = _
  rw [(hchange info).1]

theorem known?_mapped (c : ClassRef) :
    (table.mapped change).known? c = (table.known? c).map change := by
  unfold known?
  rw [info?_mapped hchange]
  cases table.info? c.serial with
  | none => rfl
  | some info =>
    rw [Option.map_some, Option.filter_some, Option.filter_some, (hchange info).1]
    split <;> rfl

theorem lineage_mapped (c : ClassRef) :
    (table.mapped change).lineage c = (table.lineage c).map change := by
  unfold lineage
  rw [known?_mapped hchange]
  cases table.known? c with
  | none => rfl
  | some own =>
    dsimp only [Option.map_some]
    rw [List.map_cons, (hchange own).2, List.map_filterMap]
    congr 1
    exact List.filterMap_congr fun serial _ => info?_mapped hchange table serial

end

/-! ### One class changed -/

/-- A change of one class alone. -/
def onlyOf (c : ClassRef) (change : ClassInfo → ClassInfo) (info : ClassInfo) : ClassInfo :=
  if info.ref.serial == c.serial then change info else info

section

variable {change : ClassInfo → ClassInfo} (hchange : KeepsOrigin change) (table : ClassTable)
  (c : ClassRef)

include hchange

theorem keepsOrigin_onlyOf : KeepsOrigin (onlyOf c change) := by
  intro info
  unfold onlyOf
  split
  · exact hchange info
  · exact ⟨rfl, rfl⟩

theorem lineage_update (d : ClassRef) :
    (table.update c change).lineage d = (table.lineage d).map (onlyOf c change) :=
  lineage_mapped (keepsOrigin_onlyOf hchange c) table d

variable {table c} {own : ClassInfo} (hown : table.known? c = some own)

include hown

theorem known?_update : (table.update c change).known? c = some (change own) := by
  show (table.mapped (onlyOf c change)).known? c = _
  rw [known?_mapped (keepsOrigin_onlyOf hchange c), hown]
  show some (if own.ref.serial == c.serial then _ else _) = _
  rw [(known?_spec hown).2.1, if_pos (beq_self_eq_true _)]

theorem info_update : (table.update c change).info c = change own :=
  info_of_known (known?_update hchange hown)

end

/-! ### Classes that say nothing -/

section

variable (table : ClassTable)

theorem info?_silent (serial : Nat) :
    table.silent.info? serial = (table.info? serial).map ClassInfo.silent :=
  info?_mapped keepsOrigin_silent table serial

theorem lineage_silent (c : ClassRef) :
    table.silent.lineage c = (table.lineage c).map ClassInfo.silent :=
  lineage_mapped keepsOrigin_silent table c

theorem info_silent (c : ClassRef) : table.silent.info c = (table.info c).silent := by
  unfold info silent
  rw [known?_mapped keepsOrigin_silent]
  cases table.known? c <;> rfl

theorem attribute?_silent (c : ClassRef) (name : String) :
    table.silent.attribute? c name = table.attribute? c name := by
  unfold attribute?
  rw [lineage_silent, List.findSome?_map]
  rfl

theorem schemaOf?_silent (c : ClassRef) :
    table.silent.schemaOf? c = (table.schemaOf? c).map ClassInfo.silent := by
  unfold schemaOf?
  rw [lineage_silent, List.find?_map]
  rfl

theorem bound?_silent (name : String) : table.silent.bound? name = table.bound? name := by
  unfold bound?
  show (table.bindings.lookup name).bind _ = (table.bindings.lookup name).bind _
  congr 1
  funext serial
  rw [info?_silent]
  cases table.info? serial <;> rfl

theorem memberNamed?_silent (c : ClassRef) (name : String) :
    table.silent.memberNamed? c name = table.memberNamed? c name := by
  unfold memberNamed?
  rw [info_silent]
  rfl

theorem scope_silent : table.silent.scope = table.scope := by
  funext name
  unfold scope partOf?
  rw [bound?_silent]
  have hbound : table.silent.bound? = table.bound? := funext table.bound?_silent
  have hmember : table.silent.memberNamed? = table.memberNamed? :=
    funext fun c => funext fun name => table.memberNamed?_silent c name
  rw [hbound, hmember]

theorem lookUp_silent (t : TypeExpr) : table.silent.lookUp t = table.lookUp t := by
  unfold lookUp
  rw [scope_silent]

theorem fieldObstacle?_silent : table.silent.fieldObstacle? = table.fieldObstacle? := by
  funext foreign known f
  unfold fieldObstacle?
  rw [lookUp_silent]

theorem classObstacle?_silent (foreign : Bool) (known : List (Nat × Obstacle)) (c : ClassRef) :
    table.silent.classObstacle? foreign known c = table.classObstacle? foreign known c := by
  unfold classObstacle?
  rw [schemaOf?_silent, fieldObstacle?_silent]
  cases c.form <;> cases table.schemaOf? c <;> rfl

theorem obstacles_silent (foreign : Bool) :
    table.silent.obstacles foreign = table.obstacles foreign := by
  unfold obstacles
  have hclasses : table.silent.classes = table.classes.map ClassInfo.silent := rfl
  rw [hclasses, List.foldl_map]
  congr 1
  funext known info
  rw [List.filterMap_map]
  refine List.filterMap_congr fun info _ => ?_
  show (table.silent.classObstacle? foreign known info.ref).map _ = _
  rw [classObstacle?_silent]
  rfl

theorem structureOf_silent (t : TypeExpr) : table.silent.structureOf t = table.structureOf t := by
  unfold structureOf
  rw [obstacles_silent]

end

end ClassTable

/-! ## What does not depend on that -/

section

variable (table : ClassTable)

theorem Registry.ownDecoder_silent (r : Registry) (t : TypeExpr) :
    r.ownDecoder table.silent t = r.ownDecoder table t := by
  have hderived : r.derivedDecoder table.silent = r.derivedDecoder table := by
    funext t
    unfold derivedDecoder structuralDecoder
    rw [ClassTable.structureOf_silent]
  unfold ownDecoder
  rw [hderived]

theorem Registry.decoderFor_silent (r : Registry) (t : TypeExpr) :
    r.decoderFor table.silent t = r.decoderFor table t := by
  have hown : r.ownDecoder table.silent = r.ownDecoder table :=
    funext fun t => r.ownDecoder_silent table t
  unfold decoderFor directDecoder
  rw [hown]

theorem Registry.derivedConverter_silent (s t : TypeExpr) :
    derivedConverter table.silent s t = derivedConverter table s t := by
  unfold derivedConverter
  cases t.declared? with
  | none => rfl
  | some c =>
    dsimp only
    rw [ClassTable.attribute?_silent]

theorem Registry.converterFor_silent (r : Registry) (s t : TypeExpr) :
    r.converterFor table.silent s t = r.converterFor table s t := by
  unfold converterFor
  have hderived : derivedConverter table.silent = derivedConverter table :=
    funext fun s => funext fun t => derivedConverter_silent table s t
  rw [hderived]

theorem Registry.defaultFor_silent (r : Registry) (t : TypeExpr) :
    r.defaultFor table.silent t = r.defaultFor table t := by
  have hmade : ∀ c, madeFromNothing (table.silent.info c) = madeFromNothing (table.info c) :=
    fun c => by rw [ClassTable.info_silent]; rfl
  unfold defaultFor
  simp only [hmade]

theorem mappingOf_silent (t : TypeExpr) : mappingOf table.silent t = mappingOf table t := by
  unfold mappingOf
  cases t.declared? with
  | none => rfl
  | some c =>
    dsimp only
    rw [ClassTable.info_silent, ClassTable.attribute?_silent, ClassTable.schemaOf?_silent,
      Option.isSome_map]
    rfl

theorem resolveAnnotations_silent :
    resolveAnnotations table.silent = resolveAnnotations table := by
  funext schema annotations
  unfold resolveAnnotations
  simp only [ClassTable.lookUp_silent]

theorem declaredFields_silent (c : ClassRef) :
    declaredFields table.silent c = declaredFields table c := by
  unfold declaredFields
  rw [ClassTable.schemaOf?_silent]
  cases table.schemaOf? c with
  | none =>
    dsimp only [Option.map_none]
    rw [ClassTable.info_silent]
    unfold plainFields constructorFields
    rw [resolveAnnotations_silent]
    rfl
  | some info =>
    dsimp only [Option.map_some]
    unfold recordFields tupleClassFields
    rw [resolveAnnotations_silent]
    rfl

end

/-! ## Compiling with classes that say something else -/

/-- Equal computations. -/
def Lifting.same : Lifting Compile Compile where
  Rel m m' := m = m'
  pure _ := rfl
  throw _ := rfl
  bind hx hk := by rw [hx, funext hk]
  lift_bind {α β e k l} hk := by
    cases e with
    | error f => rfl
    | ok a => exact hk a rfl

namespace Compile

/-- Registries answer the same if their plans do. -/
theorem lookups_same {table : ClassTable} {Asked : TypeExpr → Prop}
    {plan plan' : TypeExpr → Compile DecodePlan} (h : ∀ v, Asked v → plan v = plan' v) :
    (lookups table plan).Related Lifting.same Asked (lookups table plan') where
  decoder _ := rfl
  converter _ _ := rfl
  default _ := rfl
  plan := h
  mark := rfl

theorem lookups_silent (table : ClassTable) (plan : TypeExpr → Compile DecodePlan) :
    lookups table.silent plan = lookups table plan := by
  unfold lookups decoderFor converterFor defaultFor
  simp only [Registry.decoderFor_silent, Registry.converterFor_silent,
    Registry.defaultFor_silent]

section

variable {table table' : ClassTable} (h : table'.silent = table.silent)

include h

theorem lookups_congr (plan : TypeExpr → Compile DecodePlan) :
    lookups table' plan = lookups table plan := by
  rw [← lookups_silent, h, lookups_silent]

theorem compileField_congr {m : Type → Type} [Monad m] [MonadExceptOf Failure m] (q : Lookups m) :
    compileField q table' = compileField q table := by
  have hmapping : mappingOf table' = mappingOf table :=
    funext fun t => by rw [← mappingOf_silent, h, mappingOf_silent]
  unfold compileField require satisfies stepOf strategyOf mapperFor
  rw [hmapping]

theorem declaredFields_congr : declaredFields table' = declaredFields table :=
  funext fun c => by rw [← declaredFields_silent, h, declaredFields_silent]

/-- A target has the same schema if its class says the same. -/
theorem introspect_congr {t : TypeExpr}
    (hconfig : ∀ c, t = .declared c → table'.config? c = table.config? c) :
    introspect table' t = introspect table t := by
  unfold introspect
  rw [declaredFields_congr h]
  split
  · rfl
  · split
    · rfl
    · split
      · rfl
      next c _ _ =>
        unfold containerOf
        rw [hconfig c rfl]
      · rfl

theorem buildWith_congr {m : Type → Type} [Monad m] [MonadExceptOf Failure m] {q : Lookups m}
    {t : TypeExpr} (hconfig : ∀ c, t = .declared c → table'.config? c = table.config? c)
    (overrides : Overrides) :
    buildWith q table' t overrides = buildWith q table t overrides := by
  unfold buildWith
  rw [introspect_congr h hconfig, compileField_congr h]

/-- A target compiles in the same way if its class and all that it leads to say the same. The
induction is on the levels. -/
theorem planWithin_congr : ∀ (n : Nat) {t : TypeExpr},
    (∀ c, t = .declared c ∨ Reaches table t (.declared c) →
      table'.config? c = table.config? c) →
    planWithin table' n t = planWithin table n t := by
  intro n
  induction n with
  | zero => exact fun _ => rfl
  | succ n ih =>
    intro t hconfig
    have hbuild : buildWith (lookups table' (planWithin table' n)) table' t Overrides.none =
        buildWith (lookups table (planWithin table n)) table t Overrides.none := by
      rw [buildWith_congr h fun c hc => hconfig c (.inl hc), lookups_congr h]
      have hplans : ∀ v, Flattens table Overrides.none t v →
          planWithin table' n v = planWithin table n v := by
        refine fun v hv => ih fun c hc => hconfig c (.inr ?_)
        rcases hc with rfl | hc
        · exact .single hv
        · exact .head hv hc
      exact buildWith_related (lookups_same hplans) fun _ hv => hv
    rw [planWithin_succ, planWithin_succ]
    unfold planStep
    rw [hbuild]

end

end Compile

end RowDecoding
