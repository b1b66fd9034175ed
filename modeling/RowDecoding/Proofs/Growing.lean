import RowDecoding.Proofs.Declaring
import RowDecoding.Proofs.FailedDerivation
import RowDecoding.Proofs.Recompiling
import RowDecoding.Proofs.Upholding

/-!
# Sessions that grow

Between two looks at a session classes are declared, rows are mapped, and plans are asked for. What
was known of a class is known of it later on (`ClassTable.Grows`), but for the names in the fields of
a class of checked records, which may be looked up in between. The classes change step by step
(`ClassTable.Change`), so those of an earlier moment lead to the later ones (`ClassTable.Leads`).

A registry keeps what it has resolved and compiled. Each plan that it keeps besides is one that it
compiles again, as it is then, for a target with its key, among the classes of some moment in between
(`Registry.Learns`). All of this holds from a session in good order (`Session.Sound`) to a later one,
which is in good order again: `Session.Later`.

> `Session.later_stable`: running plans and hooks leads to a later session.
-/

namespace RowDecoding

/-! ## What is known of a class -/

/-- What is known of a class at first and later on: only a class of checked records changes, and only
in its fields. -/
structure ClassInfo.Becomes (info info' : ClassInfo) : Prop where
  kept : { info' with fields := info.fields } = info
  fields : ¬info.ref.form.IsModel → info'.fields = info.fields

namespace ClassInfo.Becomes

variable {info info' info'' : ClassInfo}

theorem refl (info : ClassInfo) : info.Becomes info :=
  ⟨rfl, fun _ => rfl⟩

theorem ref (h : info.Becomes info') : info'.ref = info.ref :=
  congrArg (·.ref) h.kept

theorem ancestors (h : info.Becomes info') : info'.ancestors = info.ancestors :=
  congrArg (·.ancestors) h.kept

theorem attributes (h : info.Becomes info') : info'.attributes = info.attributes :=
  congrArg (·.attributes) h.kept

theorem config (h : info.Becomes info') : info'.config = info.config :=
  congrArg (·.config) h.kept

theorem plan (h : info.Becomes info') : info'.plan = info.plan :=
  congrArg (·.plan) h.kept

theorem trans (h : info.Becomes info') (h' : info'.Becomes info'') : info.Becomes info'' where
  kept := (congrArg (fun i : ClassInfo => { i with fields := info.fields }) h'.kept).trans h.kept
  fields hform := (h'.fields (h.ref ▸ hform)).trans (h.fields hform)

theorem symm (h : info.Becomes info') : info'.Becomes info where
  kept := (congrArg (fun i : ClassInfo => { i with fields := info'.fields }) h.kept).symm
  fields hform := (h.fields fun hmodel => hform (h.ref ▸ hmodel)).symm

end ClassInfo.Becomes

/-- What is the same for elements that belong together is found in both lists alike. -/
theorem findSome?_of_forall₂ {α β : Type} {R : α → α → Prop} {f : α → Option β} {l l' : List α}
    (h : List.Forall₂ R l l') (hf : ∀ a b, R a b → f b = f a) : l'.findSome? f = l.findSome? f := by
  induction h with
  | nil => rfl
  | cons hab _ ih => rw [List.findSome?_cons, List.findSome?_cons, hf _ _ hab, ih]

namespace ClassTable

variable {table table' table'' : ClassTable} {c : ClassRef} {own info : ClassInfo}
  {change : ClassInfo → ClassInfo}

theorem serial_of_info? {serial : Nat} (h : table.info? serial = some info) :
    info.ref.serial = serial := by
  unfold info? at h
  have hfound := List.find?_some h
  exact eq_of_beq hfound

/-- A change that keeps the number of a class is found under that number. -/
theorem info?_update (hchange : ∀ i, i.ref.serial = c.serial → (change i).ref.serial = c.serial)
    (serial : Nat) :
    (table.update c change).info? serial = (table.info? serial).map (onlyOf c change) := by
  unfold info? update
  rw [List.find?_map]
  congr 2
  funext i
  show ((if i.ref.serial == c.serial then change i else i).ref.serial == serial) = _
  split
  next h => rw [hchange i (eq_of_beq h), eq_of_beq h]
  next => rfl

theorem onlyOf_of_ne (h : info.ref.serial ≠ c.serial) : onlyOf c change info = info :=
  if_neg (by simpa using h)

theorem onlyOf_of_eq (h : info.ref.serial = c.serial) : onlyOf c change info = change info :=
  if_pos (by simpa using h)

/-! ### Numbers -/

/-- The classes of a table are numbered from one on, and the next class gets a new number. -/
structure Numbered (table : ClassTable) : Prop where
  below : table.IsNumbered
  positive : ∀ info ∈ table.classes, info.ref.serial ≠ 0

theorem Numbered.add (h : table.Numbered) (hserial : info.ref.serial = table.nextSerial) :
    (table.add info).Numbered where
  below := h.below.add hserial
  positive i hi := by
    rcases List.mem_append.mp hi with hi | hi
    · exact h.positive i hi
    · rw [List.mem_singleton.mp hi, hserial]
      exact Nat.succ_ne_zero _

theorem Numbered.update (h : table.Numbered)
    (hchange : ∀ i, i.ref.serial = c.serial → (change i).ref.serial = c.serial) :
    (table.update c change).Numbered := by
  have hserial : ∀ i ∈ (table.update c change).classes, ∃ old ∈ table.classes,
      i.ref.serial = old.ref.serial := by
    intro i hi
    obtain ⟨old, hold, rfl⟩ := List.mem_map.mp hi
    refine ⟨old, hold, ?_⟩
    split
    next h => rw [hchange old (eq_of_beq h), eq_of_beq h]
    next => rfl
  have hnext : (table.update c change).nextSerial = table.nextSerial := by
    unfold nextSerial ClassTable.update
    rw [List.length_map]
  refine ⟨fun i hi => ?_, fun i hi => ?_⟩
  · obtain ⟨old, hold, hi⟩ := hserial i hi
    rw [hi, hnext]
    exact h.below old hold
  · obtain ⟨old, hold, hi⟩ := hserial i hi
    rw [hi]
    exact h.positive old hold

/-- Nothing is known under the next number. -/
theorem Numbered.info?_next (h : table.Numbered) : table.info? table.nextSerial = none := by
  unfold info?
  rw [List.find?_eq_none]
  intro i hi hserial
  exact absurd (h.below i hi) (by rw [eq_of_beq hserial]; exact Nat.lt_irrefl _)

/-! ### Tables -/

/-- What was known of classes is known later on. -/
def Grows (table table' : ClassTable) : Prop :=
  ∀ serial info, table.info? serial = some info →
    ∃ info', table'.info? serial = some info' ∧ info.Becomes info'

namespace Grows

theorem refl (table : ClassTable) : table.Grows table :=
  fun _ info h => ⟨info, h, .refl info⟩

theorem trans (h : table.Grows table') (h' : table'.Grows table'') : table.Grows table'' := by
  intro serial info hinfo
  obtain ⟨info', hinfo', hbecomes⟩ := h serial info hinfo
  obtain ⟨info'', hinfo'', hbecomes'⟩ := h' serial info' hinfo'
  exact ⟨info'', hinfo'', hbecomes.trans hbecomes'⟩

theorem known (h : table.Grows table') (hc : table.known? c = some own) :
    ∃ own', table'.known? c = some own' ∧ own.Becomes own' := by
  obtain ⟨-, href, hfound⟩ := known?_spec hc
  obtain ⟨own', hown', hbecomes⟩ := h _ _ hfound
  refine ⟨own', ?_, hbecomes⟩
  unfold known?
  rw [hown', Option.filter_some, hbecomes.ref, if_pos (beq_iff_eq.mpr href)]

theorem knows (h : table.Grows table') (hc : table.Knows c) : table'.Knows c := by
  obtain ⟨own, hown⟩ := hc
  obtain ⟨own', hown', -⟩ := h.known hown
  exact ⟨own', hown'⟩

/-- One more class. -/
theorem of_add (table : ClassTable) (info : ClassInfo) : table.Grows (table.add info) := by
  intro serial i hi
  refine ⟨i, ?_, .refl i⟩
  unfold info? at hi ⊢
  unfold ClassTable.add
  rw [List.find?_append, hi, Option.some_or]

/-- A class that was not there changes as it likes. -/
theorem update_new (h : table.Grows table') (hnew : table.info? c.serial = none)
    (hchange : ∀ i, i.ref.serial = c.serial → (change i).ref.serial = c.serial) :
    table.Grows (table'.update c change) := by
  intro serial i hi
  obtain ⟨i', hi', hbecomes⟩ := h serial i hi
  have hne : i'.ref.serial ≠ c.serial := by
    intro heq
    rw [← heq, serial_of_info? hi', hi] at hnew
    cases hnew
  refine ⟨i', ?_, hbecomes⟩
  rw [info?_update hchange, hi', Option.map_some, onlyOf_of_ne hne]

end Grows

/-- A class of checked records differs in its fields, once their names are looked up. -/
theorem completed_ok (h : Instance.completed table own = .ok info) :
    ∃ fields, info = { own with fields } := by
  unfold Instance.completed at h
  cases hcompleted : table.completed own with
  | error name => rw [hcompleted] at h; cases h
  | ok found =>
    rw [hcompleted] at h
    cases h
    unfold completed at hcompleted
    split at hcompleted
    · cases hcompleted
    · cases hfields : table.lookUpFields own.fields with
      | error f =>
        rw [hfields] at hcompleted
        cases hcompleted
        exact ⟨_, rfl⟩
      | ok fields =>
        rw [hfields] at hcompleted
        cases hcompleted
        exact ⟨fields, rfl⟩

/-- Completing a class of checked records changes its fields. An unknown class is none of the table's:
what stands for it has no number. -/
theorem Numbered.grows_completed (h : table.Numbered) (hform : c.form.IsModel)
    (hcompleted : Instance.completed table (table.info c) = .ok info) :
    table.Grows (table.update info.ref fun _ => info) := by
  obtain ⟨fields, rfl⟩ := completed_ok hcompleted
  intro serial i hi
  have hserial := serial_of_info? hi
  let change : ClassInfo → ClassInfo := fun _ => { table.info c with fields }
  have hupdated : (table.update (table.info c).ref change).info? serial =
      (table.info? serial).map (onlyOf (table.info c).ref change) :=
    info?_update (show ∀ i, i.ref.serial = _ → (change i).ref.serial = _ from fun _ _ => rfl) serial
  rw [hi, Option.map_some] at hupdated
  refine ⟨_, hupdated, ?_⟩
  by_cases hsame : i.ref.serial = (table.info c).ref.serial
  · rw [onlyOf_of_eq hsame]
    have hi' : i = table.info c := by
      cases hc : table.known? c with
      | none =>
        -- What stands for an unknown class has the number zero.
        have hzero : table.info c = default := by rw [ClassTable.info, hc]; rfl
        rw [hzero] at hsame
        exact absurd hsame (h.positive i (List.mem_of_find?_eq_some hi))
      | some own =>
        obtain ⟨-, href, hfound⟩ := known?_spec hc
        rw [info_of_known hc] at hsame ⊢
        rw [← hserial, hsame, href, hfound] at hi
        exact (Option.some.inj hi).symm
    subst hi'
    refine ⟨rfl, fun hnot => ?_⟩
    cases hc : table.known? c with
    | none =>
      have hzero : table.info c = default := by rw [ClassTable.info, hc]; rfl
      exact absurd (congrArg (·.ref.serial) hzero) (h.positive _ (List.mem_of_find?_eq_some hi))
    | some own =>
      rw [info_of_known hc, (known?_spec hc).2.1] at hnot
      exact absurd hform hnot
  · rw [onlyOf_of_ne hsame]
    exact .refl i

/-! ### Ancestors -/

/-- The class is one of the table's, and so are those that it inherits from. -/
def Rooted (table : ClassTable) (c : ClassRef) : Prop :=
  ∃ own, table.known? c = some own ∧ ∀ serial ∈ own.ancestors, (table.info? serial).isSome

theorem lineage_of_known (h : table.known? c = some own) :
    table.lineage c = own :: own.ancestors.filterMap table.info? := by
  unfold lineage
  rw [h]

theorem Grows.rooted (h : table.Grows table') (hc : table.Rooted c) : table'.Rooted c := by
  obtain ⟨own, hown, hancestors⟩ := hc
  obtain ⟨own', hown', hbecomes⟩ := h.known hown
  refine ⟨own', hown', fun serial hserial => ?_⟩
  rw [hbecomes.ancestors] at hserial
  obtain ⟨info, hinfo⟩ := Option.isSome_iff_exists.mp (hancestors serial hserial)
  obtain ⟨info', hinfo', -⟩ := h _ _ hinfo
  rw [hinfo']
  rfl

/-- A class has the ancestors that it had. -/
theorem Grows.lineage (h : table.Grows table') (hc : table.Rooted c) :
    List.Forall₂ ClassInfo.Becomes (table.lineage c) (table'.lineage c) := by
  obtain ⟨own, hown, hancestors⟩ := hc
  obtain ⟨own', hown', hbecomes⟩ := h.known hown
  rw [lineage_of_known hown, lineage_of_known hown', hbecomes.ancestors]
  refine .cons hbecomes ?_
  generalize own.ancestors = serials at hancestors
  induction serials with
  | nil => exact .nil
  | cons serial rest ih =>
    have hfirst := hancestors serial (List.mem_cons_self ..)
    obtain ⟨info, hinfo⟩ := Option.isSome_iff_exists.mp hfirst
    obtain ⟨info', hinfo', hbecomes'⟩ := h _ _ hinfo
    rw [List.filterMap_cons_some hinfo, List.filterMap_cons_some hinfo']
    exact .cons hbecomes' (ih fun s hs => hancestors s (List.mem_cons_of_mem _ hs))

theorem Grows.config? (h : table.Grows table') (hc : table.Rooted c) :
    table'.config? c = table.config? c :=
  findSome?_of_forall₂ (h.lineage hc) fun _ _ hbecomes => hbecomes.config

end ClassTable

/-! ## Earlier classes -/

namespace ClassTable

/-- The class that was declared last. -/
def newest? (table : ClassTable) : Option ClassRef :=
  table.classes.getLast?.map (·.ref)

/-- One thing that happens to the classes of a session. -/
inductive Change : ClassTable → ClassTable → Prop where
  | declared {table table' : ClassTable} {d : Declaration} {c : ClassRef}
    (h : table.declare d = .ok (table', c)) : Change table table'
  /-- The name of the class that was declared last is bound to it. -/
  | bound {table : ClassTable} {c : ClassRef}
    (h : table.newest? = some c) : Change table (table.bind c)
  /-- A class of checked records looks up the names in its fields. -/
  | completed {table : ClassTable} {c : ClassRef} {info : ClassInfo} (hform : c.form.IsModel)
    (h : Instance.completed table (table.info c) = .ok info) :
    Change table (table.update info.ref fun _ => info)
  /-- A derivation notes its convention. -/
  | noted {table table' : ClassTable} {c : ClassRef} {convention : Value}
    (h : Derive.withConvention table c convention = .ok table') : Change table table'
  /-- A derivation attaches a plan. -/
  | attached (table : ClassTable) (c : ClassRef) (registry : String) (p : DecodePlan) :
    Change table (Derive.withPlan table c registry p)

/-- Classes and what has become of them. -/
abbrev Leads : ClassTable → ClassTable → Prop :=
  Relation.ReflTransGen Change

/-- Classes that there have been at some moment before there were those of the table. -/
structure Past (table past : ClassTable) : Prop where
  reached : Leads .empty past
  since : Leads past table

theorem Past.leads {table table' past : ClassTable} (h : table.Past past)
    (hleads : table.Leads table') : table'.Past past :=
  ⟨h.reached, h.since.trans hleads⟩

end ClassTable

/-! ## What a registry keeps -/

/-- The registry, as it is, compiles the plan for a target among these classes, but for the number of
the plan, and learns nothing from it. -/
def Registry.Reproduces (r : Registry) (table : ClassTable) (t : TypeExpr) (p : DecodePlan) : Prop :=
  ∃ number, Compiles table t Overrides.none r { p with serial := number }
    { r with compiled := number }

/-- A registry and a later one that remembers what it resolved and compiled. Plans that it keeps
besides it reproduces for targets with their keys, among classes of `S`. -/
structure Registry.Learns (S : ClassTable → Prop) (r r' : Registry) : Prop where
  lasts : r.Lasts r'
  plans : ∀ key p, r'.plans.lookup key = some p → r.plans.lookup key = some p ∨
    ∃ table t, S table ∧ t.key = key ∧ r'.Reproduces table t p

section

variable {table : ClassTable} {t : TypeExpr} {r r' r'' s : Registry} {p : DecodePlan}
  {S : ClassTable → Prop}

namespace Registry

/-- What was compiled is reproduced later on. -/
theorem reproduces_of_compiled {n : Nat}
    (h : (Compile.buildWith (Compile.lookups table (Compile.planWithin table n)) table t
      Overrides.none).run r = (.ok p, s)) (hlasts : s.Lasts r') : r'.Reproduces table t p :=
  ⟨_, compiles_recalled h hlasts⟩

theorem Reproduces.later (h : r.Reproduces table t p) (hlasts : r.Lasts r') :
    r'.Reproduces table t p := by
  obtain ⟨number, n, hrun⟩ := h
  have hlasts' : Registry.Lasts { r with compiled := number } r' :=
    ⟨hlasts.registrations, hlasts.resolved, hlasts.plans⟩
  exact ⟨_, compiles_recalled hrun hlasts'⟩

/-- Only a class of the table has a plan among its classes. -/
theorem Reproduces.known {c : ClassRef} (h : r.Reproduces table (.declared c) p) :
    table.Knows c := by
  obtain ⟨_, n, hrun⟩ := h
  obtain ⟨schema, -, -, -, -, hschema, -⟩ := Compile.run_buildWith_iff.mp hrun
  exact introspect_known hschema

namespace Learns

theorem refl (S : ClassTable → Prop) (r : Registry) : r.Learns S r :=
  ⟨.refl r, fun _ _ h => Or.inl h⟩

theorem trans (h : r.Learns S r') (h' : r'.Learns S r'') : r.Learns S r'' where
  lasts := h.lasts.trans h'.lasts
  plans key p hp := by
    rcases h'.plans key p hp with hold | hnew
    · refine (h.plans key p hold).imp_right ?_
      rintro ⟨table, t, hS, hkey, hreproduces⟩
      exact ⟨table, t, hS, hkey, hreproduces.later h'.lasts⟩
    · exact Or.inr hnew

theorem mono {S' : ClassTable → Prop} (h : r.Learns S r') (hS : ∀ table, S table → S' table) :
    r.Learns S' r' where
  lasts := h.lasts
  plans key p hp := by
    refine (h.plans key p hp).imp_right ?_
    rintro ⟨table, t, htable, hrest⟩
    exact ⟨table, t, hS table htable, hrest⟩

theorem name (h : r.Learns S r') : r'.name = r.name :=
  congrArg (·.name) h.lasts.registrations

/-- A plan of a class that is new is reproduced for that class. -/
theorem plans_declared (h : r.Learns S r') {c : ClassRef} (hp : r'.plans.lookup c.key = some p) :
    r.plans.lookup c.key = some p ∨ ∃ table, S table ∧ r'.Reproduces table (.declared c) p := by
  refine (h.plans c.key p hp).imp_right ?_
  rintro ⟨table, t, hS, hkey, hreproduces⟩
  obtain rfl := declared_of_key hkey
  exact ⟨table, hS, hreproduces⟩

/-- What leaves the plans as they are teaches none. -/
theorem of_plans (hlasts : r.Lasts r') (hplans : r'.plans = r.plans) : r.Learns S r' :=
  ⟨hlasts, fun _ _ hp => Or.inl (hplans ▸ hp)⟩

end Learns

end Registry

/-- What a registry answers teaches it plans at most, if its plans do. -/
theorem lookups_learn {plan : TypeExpr → Compile DecodePlan}
    (hplan : ∀ v (r : Registry), r.Learns (· = table) ((plan v).run r).2) :
    (Compile.lookups table plan).Related (Lifting.inRegistry (fun _ => True)
      (Registry.Learns (· = table)) (.refl _) .trans) (fun _ => True) Lookups.unknown where
  decoder t r _ := by
    have hlasts : r.Lasts ((Compile.decoderFor table t).run r).2 := (decoderFor_recalled t r).1
    refine ⟨trivial, .of_plans hlasts ?_, trivial⟩
    show ((Compile.decoderFor table t).run r).2.plans = r.plans
    rw [run_decoderFor, r.decoderFor_plans]
  converter s t r _ := by
    refine ⟨trivial, ?_, trivial⟩
    show r.Learns _ ((Compile.converterFor table s t).run r).2
    rw [run_converterFor]
    exact .refl _ r
  default t r _ := by
    refine ⟨trivial, ?_, trivial⟩
    show r.Learns _ ((Compile.defaultFor table t).run r).2
    rw [run_defaultFor]
    exact .refl _ r
  plan v _ r _ := ⟨trivial, hplan v r, trivial⟩
  mark r _ := ⟨trivial, .of_plans ⟨rfl, fun _ _ h => h, fun _ _ h => h⟩ rfl, trivial⟩

/-- Compiling a target teaches a registry plans at most, if the plans nested in it do. -/
theorem buildWith_learns {plan : TypeExpr → Compile DecodePlan}
    (hplan : ∀ v (r : Registry), r.Learns (· = table) ((plan v).run r).2) (t : TypeExpr)
    (overrides : Overrides) (r : Registry) :
    r.Learns (· = table)
      ((Compile.buildWith (Compile.lookups table plan) table t overrides).run r).2 :=
  (Compile.buildWith_related (lookups_learn hplan) (fun _ _ => trivial) r trivial).2.1

/-- By induction on the levels: a plan that is new was compiled on one of them. -/
theorem planWithin_learns (table : ClassTable) : ∀ (fuel : Nat) (t : TypeExpr) (r : Registry),
    r.Learns (· = table) ((Compile.planWithin table fuel t).run r).2 := by
  intro fuel
  induction fuel with
  | zero => exact fun _ r => .refl _ r
  | succ fuel ih =>
    intro t r
    have hlasts := planWithin_lasts table (fuel + 1) t r
    rw [run_planWithin] at hlasts ⊢
    cases hkeyOf : Registry.keyOf t with
    | error f => exact .refl _ r
    | ok key =>
      obtain ⟨-, rfl⟩ := Uncached.keyOf_ok.mp hkeyOf
      rw [hkeyOf] at hlasts
      dsimp only at hlasts ⊢
      cases hkept : r.plans.lookup t.key with
      | some p => exact .refl _ r
      | none =>
        rw [hkept] at hlasts
        dsimp only at hlasts ⊢
        split
        · exact .refl _ r
        next hmem =>
          rw [if_neg hmem, run_whileBuilding] at hlasts
          rw [run_whileBuilding]
          have hbuilt := buildWith_learns ih t Overrides.none
            { r with building := t.key :: r.building }
          have hnone := (buildWith_undisturbed table (planWithin_undisturbed table fuel) t
            Overrides.none { r with building := t.key :: r.building }).entered t.key
              (List.mem_cons_self ..) hkept
          rcases hrun : (Compile.buildWith (Compile.lookups table
            (Compile.planWithin table fuel)) table t Overrides.none).run
              { r with building := t.key :: r.building } with ⟨_ | p, r'⟩
          · rw [hrun] at hbuilt hlasts
            have hleft : r'.Learns (· = table)
                { r' with building := r'.building.filter (· != t.key) } :=
              .of_plans ⟨rfl, fun _ _ h => h, fun _ _ h => h⟩ rfl
            exact ⟨hlasts, (hbuilt.trans hleft).plans⟩
          · rw [hrun] at hbuilt hlasts hnone
            -- The target had no plan while it was being compiled.
            have hput : r'.Lasts { r' with
                building := r'.building.filter (· != t.key)
                plans := (t.key, p) :: r'.plans } :=
              ⟨rfl, fun _ _ h => h, KeepsPlans.putPlan (fun _ _ h => h) hnone p⟩
            have hleft : r'.Learns (· = table) { r' with
                building := r'.building.filter (· != t.key)
                plans := (t.key, p) :: r'.plans } := by
              refine ⟨hput, fun key q hq => ?_⟩
              rcases lookup_cons_some hq with ⟨rfl, rfl⟩ | hq
              · exact Or.inr ⟨table, t, rfl, rfl, Registry.reproduces_of_compiled hrun hput⟩
              · exact Or.inl hq
            exact ⟨hlasts, (hbuilt.trans hleft).plans⟩

end

/-! ## Sessions -/

/-- A session in good order: its classes have come about step by step and are numbered, nothing is
being compiled, and the registries keep plans of no other classes. -/
structure Session.Sound (σ : Session) : Prop where
  reached : ClassTable.Leads .empty σ.classes
  numbered : σ.classes.Numbered
  idle : ∀ r ∈ σ.registries, r.building = []
  known : ∀ r ∈ σ.registries, ∀ (c : ClassRef) p, r.plans.lookup c.key = some p →
    σ.classes.Knows c

/-- Classes of a moment between two others: what was known at the first one is known, and they lead to
those of the second one. -/
structure ClassTable.Between (table table' past : ClassTable) : Prop where
  grows : table.Grows past
  past : table'.Past past

/-- A session in good order that another one leads to. Its registries are the same ones, and what they
have learnt they reproduce among the classes of a moment in between. -/
structure Session.Later (σ σ' : Session) : Prop where
  sound : σ'.Sound
  leads : σ.classes.Leads σ'.classes
  classes : σ.classes.Grows σ'.classes
  registries : ∀ name r, σ.registryNamed? name = some r →
    ∃ r', σ'.registryNamed? name = some r' ∧ r.Learns (σ.classes.Between σ'.classes) r'
  noOthers : ∀ name, σ.registryNamed? name = none → σ'.registryNamed? name = none

namespace Session

variable {σ σ' σ'' : Session} {name : String} {c : ClassRef}

theorem create_sound (registries : List (String × RegistryConfig)) :
    (Session.create registries).Sound where
  reached := .refl
  numbered := ⟨(fun _ h => nomatch h), fun _ h => nomatch h⟩
  idle r hr := by
    rcases List.mem_cons.mp hr with rfl | hr
    · rfl
    · obtain ⟨_, -, rfl⟩ := List.mem_map.mp hr
      rfl
  known r hr c p hp := by
    rcases List.mem_cons.mp hr with rfl | hr
    · cases hp
    · obtain ⟨_, -, rfl⟩ := List.mem_map.mp hr
      cases hp

theorem mem_of_registryNamed? {r : Registry} (h : σ.registryNamed? name = some r) :
    r ∈ σ.registries :=
  List.mem_of_find?_eq_some h

theorem name_of_registryNamed? {r : Registry} (h : σ.registryNamed? name = some r) :
    r.name = name := by
  unfold registryNamed? at h
  have hfound := List.find?_some h
  exact eq_of_beq hfound

theorem mem_putRegistry {r r' : Registry} (h : r ∈ (σ.putRegistry r').registries) :
    r = r' ∨ r ∈ σ.registries := by
  obtain ⟨old, hold, rfl⟩ := List.mem_map.mp h
  split
  · exact Or.inl rfl
  · exact Or.inr hold

namespace Later

theorem refl (hσ : σ.Sound) : σ.Later σ :=
  ⟨hσ, .refl, .refl _, fun _ r hr => ⟨r, hr, .refl _ r⟩, fun _ h => h⟩

theorem trans (h : σ.Later σ') (h' : σ'.Later σ'') : σ.Later σ'' where
  sound := h'.sound
  leads := h.leads.trans h'.leads
  classes := h.classes.trans h'.classes
  registries name r hr := by
    obtain ⟨r', hr', hlearns⟩ := h.registries name r hr
    obtain ⟨r'', hr'', hlearns'⟩ := h'.registries name r' hr'
    -- A moment in either part of the time lies between its two ends.
    refine ⟨r'', hr'', .trans (hlearns.mono fun _ hpast => ?_) (hlearns'.mono fun _ hpast => ?_)⟩
    · exact ⟨hpast.grows, hpast.past.leads h'.leads⟩
    · exact ⟨h.classes.trans hpast.grows, hpast.past⟩
  noOthers name hname := h'.noOthers name (h.noOthers name hname)

/-- What has learnt in a later session has learnt from what it was in the earlier one. -/
theorem registry (h : σ.Later σ') {r' : Registry} (hr' : σ'.registryNamed? name = some r') :
    ∃ r, σ.registryNamed? name = some r ∧ r.Learns (σ.classes.Between σ'.classes) r' := by
  cases hr : σ.registryNamed? name with
  | none => rw [h.noOthers name hr] at hr'; cases hr'
  | some r =>
    obtain ⟨r'', hr'', hlearns⟩ := h.registries name r hr
    obtain rfl := Option.some.inj (hr''.symm.trans hr')
    exact ⟨r, rfl, hlearns⟩

end Later

/-- What else there is in a session does not matter. -/
theorem Later.aside (h : σ.Later σ') (hclasses : σ''.classes = σ'.classes)
    (hregistries : σ''.registries = σ'.registries) : σ.Later σ'' where
  sound := by
    obtain ⟨hreached, hnumbered, hidle, hknown⟩ := h.sound
    rw [← hclasses] at hreached hnumbered hknown
    rw [← hregistries] at hidle hknown
    exact ⟨hreached, hnumbered, hidle, hknown⟩
  leads := hclasses ▸ h.leads
  classes := hclasses ▸ h.classes
  registries := by
    unfold registryNamed?
    rw [hclasses, hregistries]
    exact h.registries
  noOthers := by
    unfold registryNamed?
    rw [hregistries]
    exact h.noOthers

/-- Other classes in a session: the registries stay what they are. -/
theorem Later.withClasses (h : σ.Later σ') {table : ClassTable}
    (hchange : σ'.classes.Change table) (hnumbered : table.Numbered)
    (hgrows : σ.classes.Grows table) (hknows : ∀ c, σ'.classes.Knows c → table.Knows c) :
    σ.Later { σ' with classes := table } where
  sound := ⟨h.sound.reached.tail hchange, hnumbered, h.sound.idle,
    fun r hr c p hp => hknows c (h.sound.known r hr c p hp)⟩
  leads := h.leads.tail hchange
  classes := hgrows
  registries name r hr := by
    obtain ⟨r', hr', hlearns⟩ := h.registries name r hr
    exact ⟨r', hr', hlearns.mono fun _ hpast => ⟨hpast.grows, hpast.past.leads (.single hchange)⟩⟩
  noOthers := h.noOthers

theorem run_getRegistry_unknown (hr : σ.registryNamed? name = none) :
    (getRegistry name).run σ = (.error (Failure.raised .key name), σ) := by
  unfold getRegistry
  rw [Running.run_bind_of_ok (Running.run_get σ), hr]
  rfl

/-- Nothing is done in a registry that is not there. -/
theorem run_inRegistry_unknown {α : Type} {m : Compile α} (hr : σ.registryNamed? name = none) :
    (inRegistry name m).run σ = (.error (Failure.raised .key name), σ) := by
  unfold inRegistry
  rw [Running.run_bind_of_error (run_getRegistry_unknown hr)]

/-- Asking for a plan changes no class. -/
theorem planFor_classes (name : String) (t : TypeExpr) (σ : Session) :
    ((planFor name t).run σ).2.classes = σ.classes := by
  cases hr : σ.registryNamed? name with
  | some r =>
    rw [run_planFor hr]
    rfl
  | none =>
    unfold planFor
    rw [Running.run_bind_of_ok (Running.run_get σ), run_inRegistry_unknown hr]

/-- What is compiled in one of the registries leads to a later session, however it ends. -/
theorem Sound.inRegistry_later (hσ : σ.Sound) {α : Type} {m : Compile α}
    (hlearns : ∀ r : Registry, r.Learns (· = σ.classes) (m.run r).2)
    (hidle : ∀ r : Registry, r.building = [] → (m.run r).2.building = []) (name : String) :
    σ.Later ((inRegistry name m).run σ).2 := by
  cases hr : σ.registryNamed? name with
  | none =>
    rw [run_inRegistry_unknown hr]
    exact .refl hσ
  | some r =>
    rw [run_inRegistry hr]
    have hnamed := name_of_registryNamed? hr
    have hnew := hlearns r
    have hname := hnew.name
    have hbuilding := hidle r (hσ.idle r (mem_of_registryNamed? hr))
    generalize (m.run r).2 = r' at hnew hname hbuilding
    -- The registry that was asked has learnt, and the other ones are as they were.
    refine ⟨⟨hσ.reached, hσ.numbered, fun s hs => ?_, fun s hs c p hp => ?_⟩, .refl, .refl _,
      fun other s hs => ?_, fun other hother => ?_⟩
    · rcases mem_putRegistry hs with rfl | hs
      · exact hbuilding
      · exact hσ.idle s hs
    · rcases mem_putRegistry hs with rfl | hs
      · rcases hnew.plans_declared hp with hold | ⟨table, rfl, hreproduces⟩
        · exact hσ.known r (mem_of_registryNamed? hr) c p hold
        · exact hreproduces.known
      · exact hσ.known s hs c p hp
    · by_cases hother : other = name
      · subst hother
        obtain rfl := Option.some.inj (hs.symm.trans hr)
        have hbetween : σ.classes.Between σ.classes σ.classes := ⟨.refl _, hσ.reached, .refl⟩
        exact ⟨r', registryNamed?_putRegistry hr hname,
          hnew.mono fun table htable => htable ▸ hbetween⟩
      · refine ⟨s, ?_, .refl _ s⟩
        rw [registryNamed?_putRegistry_ne (by rw [hname, hnamed]; exact hother), hs]
    · have hne : other ≠ name := by
        rintro rfl
        rw [hr] at hother
        cases hother
      rw [registryNamed?_putRegistry_ne (by rw [hname, hnamed]; exact hne), hother]

theorem Sound.planFor_later (hσ : σ.Sound) (name : String) (t : TypeExpr) :
    σ.Later ((planFor name t).run σ).2 := by
  unfold planFor
  rw [Running.run_bind_of_ok (Running.run_get σ)]
  refine hσ.inRegistry_later (planWithin_learns σ.classes _ t) (fun r hr => ?_) name
  exact (planWithin_undisturbed σ.classes _ t r).building.trans hr

theorem Sound.build_later (hσ : σ.Sound) (name : String) (t : TypeExpr) (overrides : Overrides) :
    σ.Later ((build name t overrides).run σ).2 := by
  unfold build
  rw [Running.run_bind_of_ok (Running.run_get σ)]
  have hlearns := planWithin_learns σ.classes (Compile.fuel σ.classes)
  have hplans := planWithin_undisturbed σ.classes (Compile.fuel σ.classes)
  refine hσ.inRegistry_later (buildWith_learns hlearns t overrides) (fun r hr => ?_) name
  exact (buildWith_undisturbed σ.classes hplans t overrides r).building.trans hr

/-- A plan that a session hands out is kept by the registry. -/
theorem planFor_keeps {p : DecodePlan} (h : (planFor name (.declared c)).run σ = (.ok p, σ')) :
    ∃ r, σ'.registryNamed? name = some r ∧ r.plans.lookup c.key = some p := by
  cases hr : σ.registryNamed? name with
  | none =>
    unfold planFor at h
    rw [Running.run_bind_of_ok (Running.run_get σ), run_inRegistry_unknown hr] at h
    cases h
  | some r =>
    rw [run_planFor hr] at h
    rcases hrun : (Compile.planFor σ.classes (.declared c)).run r with ⟨f | q, r'⟩
    · rw [hrun] at h
      cases h
    · rw [hrun] at h
      cases h
      obtain ⟨key, hkey, hkept⟩ := planFor_kept hrun
      have hname : r'.name = r.name := by
        have hlearns := planWithin_learns σ.classes (Compile.fuel σ.classes) (.declared c) r
        rw [show (Compile.planWithin σ.classes _ _).run r = _ from hrun] at hlearns
        exact hlearns.name
      obtain ⟨-, rfl⟩ := Uncached.keyOf_ok.mp hkey
      exact ⟨r', registryNamed?_putRegistry hr hname, hkept⟩

/-- **Running leads to a later session.** What hooks and constructors do, and questions to registries,
lead from a later session to a later one. -/
theorem later_stable (σ : Session) : Stable σ.Later where
  counted count h := h.aside rfl rfl
  noted notes h := h.aside rfl rfl
  completed hform hcompleted h := by
    have hgrows := h.sound.numbered.grows_completed hform hcompleted
    exact h.withClasses (.completed hform hcompleted) (h.sound.numbered.update fun _ _ => rfl)
      (h.classes.trans hgrows) fun _ => hgrows.knows
  planned name t h := h.trans (h.sound.planFor_later name t)

end Session

end RowDecoding
