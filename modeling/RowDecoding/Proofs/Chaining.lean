import Mathlib.Data.List.Chain
import RowDecoding.Proofs.Descending

/-!
# Subclasses of derived classes

A derivation attaches two things to a class: an operation that maps rows, which the classes below it
inherit together with its registry, and a plan, which they do not. So a class below a derived one has
its rows mapped by a plan that is compiled for itself.

A `Chain` is a list of classes, each declared with the one before it as its base and derived or not,
in a session in which anything else goes on but registrations. Each `Link` of a chain *stands*
(`Link.Stands`): its operation and the plan attached to it are those of its own derivation, and
whatever plan a registry keeps of it was compiled for itself. Each link *extends* the one before it
(`Link.Extends`). All of this holds at the start and is kept by each step (`Chain.holds`).

> `chain_decodes_by_own_schema`: each class of records in a chain decodes by its own schema.
-/

namespace RowDecoding

open ClassTable (onlyOf)

/-! ## Tables that say the same of a class -/

/-- What is known of a class, apart from what derivations attach to it. -/
def ClassInfo.bare (info : ClassInfo) : ClassInfo :=
  { info with plan := none, attributes := [] }

theorem ClassInfo.Becomes.bare {info info' : ClassInfo} (h : info.Becomes info') :
    info.bare.Becomes info'.bare :=
  ⟨congrArg ClassInfo.bare h.kept, h.fields⟩

namespace ClassTable

/-- Two tables know the same of the fields of a class and of what it says about them. -/
structure Agrees (table table' : ClassTable) (c : ClassRef) : Prop where
  config : table'.config? c = table.config? c
  known : ∃ own own', table.known? c = some own ∧ table'.known? c = some own' ∧
    own.bare.Becomes own'.bare

section

variable {table table' table'' : ClassTable} {c d : ClassRef} {own : ClassInfo}
  {change : ClassInfo → ClassInfo}

/-- The ancestors of a class are found under their numbers. -/
theorem serials_of_known (hc : table.Rooted c) (hown : table.known? c = some own) :
    (own.ancestors.filterMap table.info?).map (·.ref.serial) = own.ancestors := by
  obtain ⟨own', hown', hancestors⟩ := hc
  obtain rfl := Option.some.inj (hown'.symm.trans hown)
  rw [List.map_filterMap]
  refine (List.filterMap_congr fun serial hserial => ?_).trans List.filterMap_some
  obtain ⟨info, hinfo⟩ := Option.isSome_iff_exists.mp (hancestors serial hserial)
  rw [hinfo, Option.map_some, serial_of_info? hinfo]

theorem Grows.agrees (h : table.Grows table') (hc : table.Rooted c) : table.Agrees table' c := by
  obtain ⟨own, hown, -⟩ := id hc
  obtain ⟨own', hown', hbecomes⟩ := h.known hown
  exact ⟨h.config? hc, own, own', hown, hown', hbecomes.bare⟩

theorem Agrees.symm (h : table.Agrees table' c) : table'.Agrees table c := by
  obtain ⟨own, own', hown, hown', hbecomes⟩ := h.known
  exact ⟨h.config.symm, own', own, hown', hown, hbecomes.symm⟩

theorem Agrees.trans (h : table.Agrees table' c) (h' : table'.Agrees table'' c) :
    table.Agrees table'' c := by
  obtain ⟨own, own', hown, hown', hbecomes⟩ := h.known
  obtain ⟨other, own'', hother, hown'', hbecomes'⟩ := h'.known
  obtain rfl := Option.some.inj (hother.symm.trans hown')
  exact ⟨h'.config.trans h.config, own, own'', hown, hown'', hbecomes.trans hbecomes'⟩

theorem agrees_update (hchange : KeepsOrigin change) (hown : table.known? d = some own)
    (hconfig : (table.update c change).config? d = table.config? d)
    (hbare : (onlyOf c change own).bare = own.bare) : table.Agrees (table.update c change) d :=
  ⟨hconfig, own, _, hown, known?_update_onlyOf hchange hown, hbare ▸ .refl _⟩

/-- A class that is none of the ancestors of another one changes nothing there. -/
theorem lineage_update_of_outside (hchange : KeepsOrigin change)
    (houtside : ∀ i ∈ table.lineage d, i.ref.serial ≠ c.serial) :
    (table.update c change).lineage d = table.lineage d := by
  rw [lineage_update hchange]
  exact (List.map_congr_left fun i hi => onlyOf_of_ne (houtside i hi)).trans (List.map_id' _)

theorem config?_update (hchange : KeepsOrigin change)
    (hconfig : ∀ i, (change i).config = i.config) :
    (table.update c change).config? d = table.config? d := by
  unfold config?
  rw [lineage_update hchange, List.findSome?_map]
  congr 1
  funext i
  show (onlyOf c change i).config = i.config
  unfold onlyOf
  split
  · exact hconfig i
  · rfl

theorem Rooted.update (hc : table.Rooted d) (hchange : KeepsOrigin change) :
    (table.update c change).Rooted d := by
  obtain ⟨own, hown, hancestors⟩ := hc
  refine ⟨_, known?_update_onlyOf hchange hown, fun serial hserial => ?_⟩
  rw [(keepsOrigin_onlyOf hchange c own).2] at hserial
  rw [info?_update fun i hi => by rw [(hchange i).1, hi], Option.isSome_map]
  exact hancestors serial hserial

end

end ClassTable

/-! ## Plans of a class itself -/

/-- A plan for this class itself: the registry of this name, as it is, compiles it among the classes of
an earlier moment, which say the same of the class as those that there are now. -/
def Session.CompiledFor (σ : Session) (name : String) (c : ClassRef) (p : DecodePlan) : Prop :=
  ∃ r table, σ.registryNamed? name = some r ∧ σ.classes.Past table ∧
    table.Agrees σ.classes c ∧ r.Reproduces table (.declared c) p

namespace Session.CompiledFor

variable {σ σ' : Session} {name : String} {c : ClassRef} {p : DecodePlan} {classes : ClassTable}

theorem later (h : σ.CompiledFor name c p) (hlater : σ.Later σ') (hc : σ.classes.Rooted c) :
    σ'.CompiledFor name c p := by
  obtain ⟨r, table, hr, hpast, hagrees, hreproduces⟩ := h
  obtain ⟨r', hr', hlearns⟩ := hlater.registries name r hr
  exact ⟨r', table, hr', hpast.leads hlater.leads, hagrees.trans (hlater.classes.agrees hc),
    hreproduces.later hlearns.lasts⟩

/-- What is reproduced among the classes of a moment between a session and a later one is compiled for
the class as it is then. -/
theorem of_learnt {r : Registry} (hlater : σ.Later σ') (hc : σ.classes.Rooted c)
    (hr : σ'.registryNamed? name = some r) {table : ClassTable}
    (htable : σ.classes.Between σ'.classes table) (h : r.Reproduces table (.declared c) p) :
    σ'.CompiledFor name c p :=
  ⟨r, table, hr, htable.past, (htable.grows.agrees hc).symm.trans (hlater.classes.agrees hc), h⟩

theorem withClasses (h : σ.CompiledFor name c p) (hagrees : σ.classes.Agrees classes c)
    (hchange : σ.classes.Change classes) :
    ({ σ with classes } : Session).CompiledFor name c p := by
  obtain ⟨r, table, hr, hpast, htable, hreproduces⟩ := h
  exact ⟨r, table, hr, hpast.leads (.single hchange), htable.trans hagrees, hreproduces⟩

/-- It makes instances of the class. -/
theorem target (h : σ.CompiledFor name c p) : p.target = .declared c := by
  obtain ⟨_, table, -, -, -, _, n, hbuild⟩ := h
  obtain ⟨schema, -, -, -, -, hschema, -⟩ := Compile.run_buildWith_iff.mp hbuild
  have htarget := (covers_of_build hbuild hschema).target
  exact htarget.trans (introspect_ok hschema).1

/-- Its steps are for the fields of the class, in order. -/
theorem names {keys : KeyUse} (h : σ.CompiledFor name c p) (hform : c.form = .dataclass keys) :
    p.steps.map (·.fieldName) =
      ((σ.classes.info c).fields.filter (·.inConstructor)).map fun f => some f.name := by
  obtain ⟨_, table, -, -, hagrees, _, n, hbuild⟩ := h
  obtain ⟨schema, -, -, -, -, hschema, -⟩ := Compile.run_buildWith_iff.mp hbuild
  obtain ⟨own, own', hown, hown', hbecomes⟩ := hagrees.known
  have href : own.ref = c := (ClassTable.known?_spec hown).2.1
  have hfields : own'.fields = own.fields := by
    refine hbecomes.fields ?_
    rintro ⟨_, hmodel⟩
    have hmodel : own.ref.form = _ := hmodel
    rw [href, hform] at hmodel
    cases hmodel
  have hnames : table.fieldNames c = (own.fields.filter (·.inConstructor)).map (·.name) := by
    have hschemaOf : table.schemaOf? c = some own := by
      unfold ClassTable.schemaOf?
      rw [ClassTable.lineage_of_known hown, List.find?_cons_of_pos]
      rw [href, hform]
      rfl
    unfold ClassTable.fieldNames
    rw [hschemaOf]
    dsimp only
    unfold ClassInfo.ownNames
    rw [href, hform]
  have hsteps := (covers_of_build hbuild hschema).names
  dsimp only at hsteps
  rw [hsteps, (introspect_ordered hschema).names, ClassTable.info_of_known hown', hfields]
  show (table.fieldNames c).map some = _
  rw [hnames, List.map_map]
  rfl

end Session.CompiledFor

/-! ## Links of a chain -/

/-- A class of a chain, as it was declared and derived. -/
structure Link where
  declaration : Declaration
  request : Option Derive.Request
  ref : ClassRef

namespace Link

variable {K base : Link} {σ σ' : Session}

/-- The operation that maps rows, if the class has one of its own. -/
def mapping? (K : Link) : Option ClassAttribute :=
  match K.request with
  | some r => some (.rowMapping r.registry)
  | none => K.declaration.attributes.lookup "from_row"

/-- The class is not derived, and no registry keeps a plan of it. -/
def Unused (K : Link) (σ : Session) : Prop :=
  K.request = none ∧ ∀ r ∈ σ.registries, r.plans.lookup K.ref.key = none

/-- The class is not the other one and inherits nothing from it. -/
def Outside (K : Link) (σ : Session) (c : ClassRef) : Prop :=
  c.serial ∉ K.ref.serial :: (σ.classes.info K.ref).ancestors

/-- What holds of a class of a chain at any time: its own operation maps rows by the registry of its
own derivation, which has attached a plan of its own, and every plan that a registry keeps of it is
compiled for itself. -/
structure Stands (K : Link) (σ : Session) : Prop where
  rooted : σ.classes.Rooted K.ref
  older : ∀ serial ∈ (σ.classes.info K.ref).ancestors, serial < K.ref.serial
  form : K.declaration.kind = .dataclass → ∃ keys, K.ref.form = .dataclass keys
  mapping : (σ.classes.info K.ref).attributes.lookup "from_row" = K.mapping?
  underived : K.request = none → (σ.classes.info K.ref).plan = none
  derived : ∀ r, K.request = some r → ∃ p, (σ.classes.info K.ref).plan = some p ∧
    σ.CompiledFor r.registry K.ref p
  kept : ∀ name r p, σ.registryNamed? name = some r → r.plans.lookup K.ref.key = some p →
    σ.CompiledFor name K.ref p

/-- What a class has from the class before it in a chain. -/
structure Extends (σ : Session) (K base : Link) : Prop where
  ancestors : (σ.classes.info K.ref).ancestors =
    base.ref.serial :: (σ.classes.info base.ref).ancestors
  fields : K.declaration.kind = .dataclass → base.declaration.kind = .dataclass →
    (σ.classes.info K.ref).fields =
      overrideFields (σ.classes.info base.ref).fields K.declaration.fields

namespace Stands

theorem known (h : K.Stands σ) : σ.classes.known? K.ref = some (σ.classes.info K.ref) := by
  obtain ⟨own, hown, -⟩ := h.rooted
  rw [ClassTable.info_of_known hown, hown]

theorem becomes (h : K.Stands σ) (hlater : σ.Later σ') :
    (σ.classes.info K.ref).Becomes (σ'.classes.info K.ref) := by
  obtain ⟨own', hown', hbecomes⟩ := hlater.classes.known h.known
  rwa [ClassTable.info_of_known hown']

theorem later (h : K.Stands σ) (hlater : σ.Later σ') : K.Stands σ' where
  rooted := hlater.classes.rooted h.rooted
  older := (h.becomes hlater).ancestors ▸ h.older
  form := h.form
  mapping := (h.becomes hlater).attributes ▸ h.mapping
  underived := (h.becomes hlater).plan ▸ h.underived
  derived r hr := by
    obtain ⟨p, hp, hcompiled⟩ := h.derived r hr
    exact ⟨p, (h.becomes hlater).plan ▸ hp, hcompiled.later hlater h.rooted⟩
  kept name r' p hr' hp := by
    obtain ⟨r, hr, hlearns⟩ := hlater.registry hr'
    rcases hlearns.plans_declared hp with hold | ⟨table, htable, hreproduces⟩
    · exact (h.kept name r p hr hold).later hlater h.rooted
    · exact .of_learnt hlater h.rooted hr' htable hreproduces

section

variable {c : ClassRef} {change : ClassInfo → ClassInfo}

theorem info_update (h : K.Stands σ) (hchange : KeepsOrigin change) :
    (σ.classes.update c change).info K.ref = onlyOf c change (σ.classes.info K.ref) :=
  ClassTable.info_of_known (ClassTable.known?_update_onlyOf hchange h.known)

theorem info_of_outside (h : K.Stands σ) (houtside : K.Outside σ c) :
    onlyOf c change (σ.classes.info K.ref) = σ.classes.info K.ref := by
  refine ClassTable.onlyOf_of_ne fun hsame => houtside ?_
  rw [← hsame, (ClassTable.known?_spec h.known).2.1]
  exact List.mem_cons_self ..

/-- A change of a class that this one does not come from changes nothing of what it says. -/
theorem agrees_of_outside (h : K.Stands σ) (hchange : KeepsOrigin change)
    (houtside : K.Outside σ c) : σ.classes.Agrees (σ.classes.update c change) K.ref := by
  refine ClassTable.agrees_update hchange h.known ?_ (by rw [h.info_of_outside houtside])
  unfold ClassTable.config?
  rw [ClassTable.lineage_update_of_outside hchange fun i hi hsame => houtside ?_]
  rw [ClassTable.lineage_of_known h.known] at hi
  rcases List.mem_cons.mp hi with rfl | hi
  · rw [← hsame, (ClassTable.known?_spec h.known).2.1]
    exact List.mem_cons_self ..
  · obtain ⟨serial, hserial, hinfo⟩ := List.mem_filterMap.mp hi
    rw [← hsame, ClassTable.serial_of_info? hinfo]
    exact List.mem_cons_of_mem _ hserial

/-- A change of a class leaves another one of a chain what it is, as long as nothing is attached to
that one. What it says about its fields may change while it is unused. -/
theorem update (h : K.Stands σ) (hchange : KeepsOrigin change)
    (hstep : σ.classes.Change (σ.classes.update c change))
    (hattributes : (onlyOf c change (σ.classes.info K.ref)).attributes =
      (σ.classes.info K.ref).attributes)
    (hplan : (onlyOf c change (σ.classes.info K.ref)).plan = (σ.classes.info K.ref).plan)
    (hsaid : K.Unused σ ∨ σ.classes.Agrees (σ.classes.update c change) K.ref) :
    K.Stands { σ with classes := σ.classes.update c change } where
  rooted := h.rooted.update hchange
  older := by
    rw [h.info_update hchange, (ClassTable.keepsOrigin_onlyOf hchange c _).2]
    exact h.older
  form := h.form
  mapping := by
    rw [h.info_update hchange, hattributes]
    exact h.mapping
  underived hrequest := by
    rw [h.info_update hchange, hplan]
    exact h.underived hrequest
  derived r hr := by
    obtain ⟨p, hp, hcompiled⟩ := h.derived r hr
    rcases hsaid with ⟨hnone, -⟩ | hagrees
    · rw [hnone] at hr
      cases hr
    · refine ⟨p, ?_, hcompiled.withClasses hagrees hstep⟩
      rw [h.info_update hchange, hplan, hp]
  kept name r p hr hp := by
    rcases hsaid with ⟨-, hnone⟩ | hagrees
    · rw [hnone r (Session.mem_of_registryNamed? hr)] at hp
      cases hp
    · exact (h.kept name r p hr hp).withClasses hagrees hstep

end

end Stands

namespace Extends

theorem later (h : K.Extends σ base) (hK : K.Stands σ) (hbase : base.Stands σ)
    (hlater : σ.Later σ') : K.Extends σ' base where
  ancestors := by
    rw [(hK.becomes hlater).ancestors, (hbase.becomes hlater).ancestors, h.ancestors]
  fields hkind hkind' := by
    have hrecord : ∀ {L : Link}, L.Stands σ → L.declaration.kind = .dataclass →
        (σ'.classes.info L.ref).fields = (σ.classes.info L.ref).fields := by
      intro L hL hkind
      obtain ⟨keys, hform⟩ := hL.form hkind
      refine (hL.becomes hlater).fields ?_
      rw [(ClassTable.known?_spec hL.known).2.1, hform]
      exact nofun
    rw [hrecord hK hkind, hrecord hbase hkind', h.fields hkind hkind']

theorem update (h : K.Extends σ base) (hK : K.Stands σ) (hbase : base.Stands σ) {c : ClassRef}
    {change : ClassInfo → ClassInfo} (hchange : KeepsOrigin change)
    (hfields : ∀ L ∈ [K, base], (onlyOf c change (σ.classes.info L.ref)).fields =
      (σ.classes.info L.ref).fields) :
    K.Extends { σ with classes := σ.classes.update c change } base where
  ancestors := by
    rw [hK.info_update hchange, hbase.info_update hchange,
      (ClassTable.keepsOrigin_onlyOf hchange c _).2, (ClassTable.keepsOrigin_onlyOf hchange c _).2]
    exact h.ancestors
  fields hkind hkind' := by
    rw [hK.info_update hchange, hbase.info_update hchange, hfields K (List.mem_cons_self ..),
      hfields base (List.mem_cons_of_mem _ (List.mem_singleton_self _))]
    exact h.fields hkind hkind'

end Extends

end Link

/-! ## Chains in a session -/

/-- What holds of a chain at any time, the last class first: each class stands, and it extends the
one before it. -/
structure Session.Holds (σ : Session) (links : List Link) : Prop where
  sound : σ.Sound
  stands : ∀ K ∈ links, K.Stands σ
  chained : links.IsChain (Link.Extends σ)

namespace Session.Holds

variable {σ σ' : Session} {links above below : List Link} {K : Link} {c : ClassRef}
  {change : ClassInfo → ClassInfo}

theorem later (h : σ.Holds links) (hlater : σ.Later σ') : σ'.Holds links where
  sound := hlater.sound
  stands K hK := (h.stands K hK).later hlater
  chained := h.chained.imp_of_mem_imp fun K base hK hbase hextends =>
    hextends.later (h.stands K hK) (h.stands base hbase) hlater

/-- The classes of a chain are the newer the later they come in it. -/
theorem descending (h : σ.Holds links) :
    links.Pairwise fun K A => A.ref.serial < K.ref.serial := by
  have hchain : links.IsChain fun K A => A.ref.serial < K.ref.serial :=
    h.chained.imp_of_mem_imp fun K base hK _ (hextends : K.Extends σ base) =>
      (h.stands K hK).older _ (hextends.ancestors ▸ List.mem_cons_self ..)
  have : Trans (fun K A : Link => A.ref.serial < K.ref.serial)
      (fun K A : Link => A.ref.serial < K.ref.serial)
      (fun K A : Link => A.ref.serial < K.ref.serial) := ⟨fun h h' => Nat.lt_trans h' h⟩
  exact List.isChain_iff_pairwise.mp hchain

/-- Changes of the classes of a chain that keep their fields keep how they extend each other. -/
theorem chained_update (h : σ.Holds links) (hchange : KeepsOrigin change)
    (hfields : ∀ K ∈ links, (onlyOf c change (σ.classes.info K.ref)).fields =
      (σ.classes.info K.ref).fields) :
    links.IsChain (Link.Extends { σ with classes := σ.classes.update c change }) := by
  refine h.chained.imp_of_mem_imp fun K base hK hbase hextends =>
    hextends.update (h.stands K hK) (h.stands base hbase) hchange fun L hL => hfields L ?_
  rcases List.mem_cons.mp hL with rfl | hL
  · exact hK
  · rwa [List.mem_singleton.mp hL]

/-- A class outside of the chain may change as it likes. -/
theorem update_outside (h : σ.Holds links) (hchange : KeepsOrigin change)
    (hstep : σ.classes.Change (σ.classes.update c change))
    (houtside : ∀ K ∈ links, K.Outside σ c) :
    ({ σ with classes := σ.classes.update c change } : Session).Holds links := by
  have hsame : ∀ K ∈ links, onlyOf c change (σ.classes.info K.ref) = σ.classes.info K.ref :=
    fun K hK => (h.stands K hK).info_of_outside (houtside K hK)
  refine ⟨h.sound.update hchange hstep, fun K hK => ?_,
    h.chained_update hchange fun K hK => by rw [hsame K hK]⟩
  exact (h.stands K hK).update hchange hstep (by rw [hsame K hK]) (by rw [hsame K hK])
    (Or.inr ((h.stands K hK).agrees_of_outside hchange (houtside K hK)))

end Session.Holds

/-! ### Longer chains -/

theorem Declaration.mem_of_lineage {table : ClassTable} {d : Declaration} {i : ClassInfo}
    (h : i ∈ d.lineage table) : i ∈ table.classes := by
  unfold lineage at h
  cases hbase : d.base.bind (·.declared?) with
  | none =>
    rw [hbase] at h
    cases h
  | some c =>
    rw [hbase] at h
    exact ClassTable.mem_of_lineage h

section

variable {σ : Session} {d : Declaration} {info : ClassInfo}

theorem Session.Sound.info_added (hσ : σ.Sound) (hserial : info.ref.serial = σ.classes.nextSerial) :
    (σ.classes.add info).info info.ref = info :=
  ClassTable.info_of_known (hσ.numbered.below.known?_add info hserial)

namespace Link

/-- Nothing keeps a plan of a class that is new. -/
theorem unused_added (hσ : σ.Sound) (hserial : info.ref.serial = σ.classes.nextSerial) :
    Unused ⟨d, none, info.ref⟩ { σ with classes := σ.classes.add info } := by
  refine ⟨rfl, fun r hr => ?_⟩
  cases hkept : r.plans.lookup info.ref.key with
  | none => rfl
  | some p =>
    obtain ⟨own, hown⟩ := hσ.known r hr info.ref p hkept
    have hbelow := hσ.numbered.below own (ClassTable.mem_of_known? hown)
    rw [(ClassTable.known?_spec hown).2.1, hserial] at hbelow
    exact absurd hbelow (Nat.lt_irrefl _)

/-- A class that was declared stands. -/
theorem stands_added (hσ : σ.Sound) (hmakes : σ.classes.Makes d info) :
    Stands ⟨d, none, info.ref⟩ { σ with classes := σ.classes.add info } := by
  have hinfo := hσ.info_added hmakes.serial
  have hancestors : ∀ serial ∈ info.ancestors, ∃ i ∈ σ.classes.classes, i.ref.serial = serial := by
    intro serial hserial
    rw [hmakes.ancestors] at hserial
    obtain ⟨i, hi, rfl⟩ := List.mem_map.mp hserial
    exact ⟨i, Declaration.mem_of_lineage hi, rfl⟩
  exact {
    rooted := ⟨info, hσ.numbered.below.known?_add info hmakes.serial, fun serial hserial => by
      obtain ⟨i, hi, hsame⟩ := hancestors serial hserial
      unfold ClassTable.info? ClassTable.add
      rw [List.find?_isSome]
      exact ⟨i, List.mem_append_left _ hi, beq_iff_eq.mpr hsame⟩⟩
    older := by
      show ∀ serial ∈ ((σ.classes.add info).info info.ref).ancestors, serial < info.ref.serial
      rw [hinfo]
      intro serial hserial
      obtain ⟨i, hi, rfl⟩ := hancestors serial hserial
      exact hmakes.serial ▸ hσ.numbered.below i hi
    form := fun hkind => (hmakes.record hkind).1
    mapping := by
      show ((σ.classes.add info).info info.ref).attributes.lookup "from_row" = _
      rw [hinfo, hmakes.attributes]
      rfl
    underived := fun _ => by
      show ((σ.classes.add info).info info.ref).plan = none
      rw [hinfo, hmakes.plan]
    derived := nofun
    kept := fun name r p hr hp => by
      have hunused := (unused_added (d := d) hσ hmakes.serial).2
      rw [hunused r (Session.mem_of_registryNamed? hr)] at hp
      cases hp }

/-- A class extends the one that it was declared with as its base. -/
theorem Stands.extends_added {base : Link} (hbase : base.Stands σ) (hσ : σ.Sound)
    (hmakes : σ.classes.Makes d info) (hd : d.base = some (.declared base.ref)) :
    Extends { σ with classes := σ.classes.add info } ⟨d, none, info.ref⟩ base := by
  have hlineage : d.lineage σ.classes = σ.classes.lineage base.ref := by
    unfold Declaration.lineage
    rw [hd]
    rfl
  have href : (σ.classes.info base.ref).ref = base.ref := (ClassTable.known?_spec hbase.known).2.1
  have hnew : (σ.classes.add info).info info.ref = info := hσ.info_added hmakes.serial
  have hold : (σ.classes.add info).info base.ref = σ.classes.info base.ref :=
    ClassTable.info_of_known (ClassTable.known?_add_of_known hbase.known info)
  rw [ClassTable.lineage_of_known hbase.known] at hlineage
  constructor
  · show ((σ.classes.add info).info info.ref).ancestors =
      base.ref.serial :: ((σ.classes.add info).info base.ref).ancestors
    rw [hnew, hold, hmakes.ancestors, hlineage, List.map_cons, href,
      ClassTable.serials_of_known hbase.rooted hbase.known]
  · intro hkind hkind'
    obtain ⟨keys, hform⟩ := hbase.form hkind'
    show ((σ.classes.add info).info info.ref).fields =
      overrideFields ((σ.classes.add info).info base.ref).fields d.fields
    rw [hnew, hold, (hmakes.record hkind).2, hlineage, List.filter_cons_of_pos]
    · rfl
    · rw [href, hform]
      rfl

end Link

/-- A class that is declared with the last class of a chain as its base makes the chain longer. -/
theorem Session.Holds.add {links : List Link} (h : σ.Holds links)
    (hmakes : σ.classes.Makes d info)
    (hbase : ∀ base ∈ links.head?, d.base = some (.declared base.ref)) :
    ({ σ with classes := σ.classes.add info } : Session).Holds (⟨d, none, info.ref⟩ :: links) := by
  have hold := h.later ((Session.Later.refl h.sound).add hmakes)
  refine ⟨hold.sound, List.forall_mem_cons.mpr ⟨Link.stands_added h.sound hmakes, hold.stands⟩, ?_⟩
  cases links with
  | nil => exact .singleton _
  | cons base rest =>
    have hstands := h.stands base (List.mem_cons_self ..)
    exact List.isChain_cons_cons.mpr
      ⟨hstands.extends_added h.sound hmakes (hbase base rfl), hold.chained⟩

end

/-! ### Derived classes -/

namespace Session.Holds

section

variable {σ : Session} {above below : List Link} {K : Link} {name : String} {p : DecodePlan}

/-- The classes before one of a chain inherit nothing from it. -/
theorem outside (h : σ.Holds (above ++ K :: below)) : ∀ A ∈ below, A.Outside σ K.ref := by
  intro A hA hmem
  have hnewer := (List.pairwise_cons.mp (List.pairwise_append.mp h.descending).2.1).1 A hA
  have hstands := h.stands A (List.mem_append_right _ (List.mem_cons_of_mem _ hA))
  rcases List.mem_cons.mp hmem with hsame | hmem
  · exact absurd hnewer (by rw [hsame]; exact Nat.lt_irrefl _)
  · exact Nat.lt_asymm hnewer (hstands.older _ hmem)

/-- The classes after one of a chain are others. -/
theorem newer (h : σ.Holds (above ++ K :: below)) : ∀ L ∈ above, L.ref.serial ≠ K.ref.serial :=
  fun L hL =>
    Nat.ne_of_gt ((List.pairwise_append.mp h.descending).2.2 L hL K (List.mem_cons_self ..))

/-- A convention that is noted of a class keeps a chain in which that class and those after it are
unused. -/
theorem noted (h : σ.Holds (above ++ K :: below)) (renameAll : Option Value)
    (hunused : renameAll = none ∨ ∀ L ∈ above ++ [K], L.Unused σ) :
    ({ σ with classes := Derive.noted σ.classes K.ref renameAll } : Session).Holds
      (above ++ K :: below) := by
  cases renameAll with
  | none => exact h
  | some v =>
    cases hnoted : Derive.withConvention σ.classes K.ref v with
    | error f =>
      rw [Derive.noted_of_error hnoted]
      exact h
    | ok table =>
      rw [Derive.noted_of_ok hnoted]
      obtain ⟨own, -, rfl⟩ := withConvention_ok hnoted
      have hchange := ClassTable.keepsOrigin_saying (.dict (own.put "rename_all" v))
      have hunused := hunused.resolve_left (Option.some_ne_none v)
      have hkept : ∀ i, { onlyOf K.ref (ClassInfo.saying (.dict (own.put "rename_all" v))) i with
          config := i.config } = i := by
        intro i
        unfold onlyOf
        split <;> rfl
      refine ⟨h.sound.update hchange (.noted hnoted), fun L hL => ?_,
        h.chained_update hchange fun L _ => congrArg (·.fields) (hkept _)⟩
      have hstands := h.stands L hL
      refine hstands.update hchange (.noted hnoted) (congrArg (·.attributes) (hkept _))
        (congrArg (·.plan) (hkept _)) ?_
      rw [List.append_cons, List.mem_append] at hL
      exact hL.imp (hunused L) fun hbelow => hstands.agrees_of_outside hchange (h.outside L hbelow)

end

end Session.Holds

section

variable {σ σ' : Session} {above below : List Link} {K : Link} {name : String} {p : DecodePlan}

/-- What is attached to a class changes nothing of what it says about its fields. -/
theorem Link.Stands.agrees_attached (h : K.Stands σ) (c : ClassRef) :
    σ.classes.Agrees (Derive.withPlan σ.classes c name p) K.ref := by
  have hchange := Derive.keepsOrigin_withPlan name p
  refine ClassTable.agrees_update hchange h.known (ClassTable.config?_update hchange fun _ => rfl) ?_
  unfold onlyOf
  split <;> rfl

/-- A derived class stands by the plan that is attached to it. -/
theorem Link.Stands.attached (h : K.Stands σ) (hp : σ.CompiledFor name K.ref p)
    (renameAll : Option Value) :
    Stands { K with request := some ⟨renameAll, name⟩ }
      { σ with classes := Derive.withPlan σ.classes K.ref name p } := by
  have hchange := Derive.keepsOrigin_withPlan name p
  have hinfo : (Derive.withPlan σ.classes K.ref name p).info K.ref =
      Derive.attaching name p (σ.classes.info K.ref) :=
    (h.info_update hchange).trans (ClassTable.onlyOf_of_eq
      (congrArg (·.serial) (ClassTable.known?_spec h.known).2.1))
  have hagrees : σ.classes.Agrees (Derive.withPlan σ.classes K.ref name p) K.ref :=
    h.agrees_attached K.ref
  have hstep : σ.classes.Change (Derive.withPlan σ.classes K.ref name p) :=
    .attached σ.classes K.ref name p
  exact {
    rooted := h.rooted.update hchange
    older := by
      show ∀ serial ∈ ((Derive.withPlan σ.classes K.ref name p).info K.ref).ancestors,
        serial < K.ref.serial
      rw [hinfo]
      exact h.older
    form := h.form
    mapping := by
      show ((Derive.withPlan σ.classes K.ref name p).info K.ref).attributes.lookup "from_row" = _
      rw [hinfo]
      rfl
    underived := nofun
    derived := fun r hr => by
      cases hr
      refine ⟨p, ?_, hp.withClasses hagrees hstep⟩
      show ((Derive.withPlan σ.classes K.ref name p).info K.ref).plan = some p
      rw [hinfo]
      rfl
    kept := fun name r q hr hq => (h.kept name r q hr hq).withClasses hagrees hstep }

/-- How a class extends another one does not depend on how they are derived. -/
theorem Link.isChain_derived {request : Option Derive.Request}
    (h : (above ++ K :: below).IsChain (Link.Extends σ)) :
    (above ++ { K with request } :: below).IsChain (Link.Extends σ) := by
  -- Both chains are the same one where the requests are forgotten.
  let forget (L : Link) : Link := { L with request := none }
  have hforget : ∀ L base : Link, (forget L).Extends σ (forget base) ↔ L.Extends σ base :=
    fun _ _ => ⟨fun h => ⟨h.ancestors, h.fields⟩, fun h => ⟨h.ancestors, h.fields⟩⟩
  rw [← List.IsChain.iff hforget, ← List.isChain_map forget] at h ⊢
  rw [List.map_append, List.map_cons] at h ⊢
  exact h

namespace Session.Holds

/-- A plan that is attached to a class keeps the chain. -/
theorem attached (h : σ.Holds (above ++ K :: below)) (hp : σ.CompiledFor name K.ref p)
    (renameAll : Option Value) :
    ({ σ with classes := Derive.withPlan σ.classes K.ref name p } : Session).Holds
      (above ++ { K with request := some ⟨renameAll, name⟩ } :: below) := by
  have hchange := Derive.keepsOrigin_withPlan name p
  have hstep : σ.classes.Change (Derive.withPlan σ.classes K.ref name p) :=
    .attached σ.classes K.ref name p
  -- To the other classes of the chain nothing is attached.
  have hother : ∀ L ∈ above ++ K :: below, L.ref.serial ≠ K.ref.serial →
      L.Stands { σ with classes := Derive.withPlan σ.classes K.ref name p } := by
    intro L hL hne
    have hstands := h.stands L hL
    rw [← (ClassTable.known?_spec hstands.known).2.1] at hne
    have hsame : onlyOf K.ref (Derive.attaching name p) (σ.classes.info L.ref) =
        σ.classes.info L.ref := ClassTable.onlyOf_of_ne hne
    exact hstands.update hchange hstep (congrArg (·.attributes) hsame) (congrArg (·.plan) hsame)
      (Or.inr (hstands.agrees_attached K.ref))
  have hmem : ∀ {L}, L ∈ below → L ∈ above ++ K :: below := fun hL =>
    List.mem_append_right _ (List.mem_cons_of_mem _ hL)
  refine ⟨h.sound.update hchange hstep, fun L hL => ?_, Link.isChain_derived ?_⟩
  · rcases List.mem_append.mp hL with hL | hL
    · exact hother L (List.mem_append_left _ hL) (h.newer L hL)
    · rcases List.mem_cons.mp hL with rfl | hL
      · exact (h.stands K (List.mem_append_right _ (List.mem_cons_self ..))).attached hp renameAll
      · exact hother L (hmem hL) fun hsame =>
          h.outside L hL (List.mem_cons.mpr (Or.inl hsame.symm))
  · refine h.chained_update hchange fun L _ => ?_
    unfold onlyOf
    split <;> rfl

/-- A class of a chain that is derived, with a convention only if it and those after it are unused,
keeps the chain. -/
theorem derived (h : σ.Holds (above ++ K :: below)) {renameAll : Option Value}
    (hunused : renameAll = none ∨ ∀ L ∈ above ++ [K], L.Unused σ)
    (hrun : (Derive.derive K.ref renameAll name).run σ = (.ok ⟨⟩, σ')) :
    σ'.Holds (above ++ { K with request := some ⟨renameAll, name⟩ } :: below) := by
  have hnoted := h.noted renameAll hunused
  obtain ⟨p, σ₁, hplan, rfl⟩ := Derive.run_attach (Derive.run_derive_eq hrun)
  have hplanned := hnoted.later (hnoted.sound.planFor_later name (.declared K.ref))
  rw [hplan] at hplanned
  obtain ⟨r, hr, hkept⟩ := Session.planFor_keeps hplan
  have hK := hplanned.stands K (List.mem_append_right _ (List.mem_cons_self ..))
  exact hplanned.attached (hK.kept name r p hr hkept) renameAll

/-- A class outside of the chain that is derived, or tried to, keeps the chain. -/
theorem derive_outside {links : List Link} (h : σ.Holds links) {c : ClassRef}
    (houtside : ∀ K ∈ links, K.Outside σ c) (renameAll : Option Value) (name : String) :
    ((Derive.derive c renameAll name).run σ).2.Holds links := by
  -- Which classes are outside is said about a session, so this is carried along.
  have hupholds : Upholds (fun σ => σ.Holds links ∧ ∀ K ∈ links, K.Outside σ c)
      (Derive.derive c renameAll name) := by
    refine Derive.derive_upholds (fun {σ} name t ⟨h, houtside⟩ => ?_)
      fun {σ} change hchange hstep ⟨h, houtside⟩ => ⟨h.update_outside hchange hstep houtside, ?_⟩
    · have hlater := h.sound.planFor_later name t
      refine ⟨h.later hlater, fun K hK => ?_⟩
      unfold Link.Outside
      rw [((h.stands K hK).becomes hlater).ancestors]
      exact houtside K hK
    · intro K hK
      unfold Link.Outside
      rw [(h.stands K hK).info_update hchange, (ClassTable.keepsOrigin_onlyOf hchange c _).2]
      exact houtside K hK
  exact (hupholds σ ⟨h, houtside⟩).1

end Session.Holds

end

/-! ## Chains -/

/-- The classes of a chain, the last one first, in a session that they were declared in: each one
has the class before it as its base. A class is derived when it is declared or later on, once, and
then with a convention only if that class and those after it are unused. In between, other classes
are declared and derived, rows are mapped, plans are compiled and run; but once the chain has begun,
nothing is registered. -/
inductive Chain : List Link → Session → Prop where
  | start (registries : List (String × RegistryConfig)) : Chain [] (Session.create registries)
  | register {σ : Session} (h : Chain [] σ) (registry : String)
    {change : Registry → Except Failure Registry} (hchange : Registry.Registers change) :
    Chain [] ((Session.register registry change).run σ).2
  | work {links : List Link} {σ : Session} (h : Chain links σ) (activity : Activity) :
    Chain links (activity.run.run σ).2
  | derive {links : List Link} {σ : Session} (h : Chain links σ) {c : ClassRef}
    (houtside : ∀ K ∈ links, K.Outside σ c) (renameAll : Option Value) (registry : String) :
    Chain links ((Derive.derive c renameAll registry).run σ).2
  | declare {links : List Link} {σ σ' : Session} (h : Chain links σ) {d : Declaration}
    {request : Option Derive.Request} {c : ClassRef}
    (hbase : ∀ base ∈ links.head?, d.base = some (.declared base.ref))
    (hrun : (Derive.declare d request).run σ = (.ok ⟨⟩, σ'))
    (hbound : σ'.classes.bound? d.name = some c) : Chain (⟨d, request, c⟩ :: links) σ'
  | decorate {above below : List Link} {K : Link} {σ σ' : Session}
    (h : Chain (above ++ K :: below) σ) (honce : K.request = none) {renameAll : Option Value}
    {registry : String} (hunused : renameAll = none ∨ ∀ L ∈ above ++ [K], L.Unused σ)
    (hrun : (Derive.derive K.ref renameAll registry).run σ = (.ok ⟨⟩, σ')) :
    Chain (above ++ { K with request := some ⟨renameAll, registry⟩ } :: below) σ'

/-- A declared class that extends the last one of a chain, and is derived if asked to. -/
theorem Session.Holds.declare {σ σ' : Session} {links : List Link} (h : σ.Holds links)
    {d : Declaration} {request : Option Derive.Request} {c : ClassRef}
    (hbase : ∀ base ∈ links.head?, d.base = some (.declared base.ref))
    (hrun : (Derive.declare d request).run σ = (.ok ⟨⟩, σ'))
    (hbound : σ'.classes.bound? d.name = some c) : σ'.Holds (⟨d, request, c⟩ :: links) := by
  obtain ⟨info, σ₁, hmakes, hderive, rfl⟩ := Derive.run_declare_ok hrun
  have hadded := h.add hmakes hbase
  have hderived : σ₁.Holds (⟨d, request, info.ref⟩ :: links) := by
    cases request with
    | none =>
      cases hderive
      exact hadded
    | some r =>
      have hunused : ∀ L ∈ [⟨d, none, info.ref⟩],
          Link.Unused L { σ with classes := σ.classes.add info } := fun L hL => by
        rw [List.mem_singleton.mp hL]
        exact Link.unused_added h.sound hmakes.serial
      rw [← List.nil_append (_ :: links)] at hadded
      exact hadded.derived (Or.inr hunused) hderive
  -- The name of the class is bound to it.
  have hfound : σ₁.classes.info? info.ref.serial = some (σ₁.classes.info info.ref) :=
    (ClassTable.known?_spec (hderived.stands _ (List.mem_cons_self ..)).known).2.2
  have href : (σ₁.classes.info info.ref).ref = info.ref :=
    (ClassTable.known?_spec (hderived.stands _ (List.mem_cons_self ..)).known).2.1
  have hsame : (σ₁.classes.bind info.ref).bound? d.name = some info.ref := by
    unfold ClassTable.bound? ClassTable.bind
    rw [hmakes.name, List.lookup_cons_self]
    show (σ₁.classes.info? info.ref.serial >>= fun i => pure i.ref) = _
    rw [hfound]
    exact congrArg some href
  obtain rfl := Option.some.inj (hsame.symm.trans hbound)
  have hnewest := (Derive.deriveIf_newest request info.ref).of_run hderive
    (ClassTable.newest?_add σ.classes info)
  exact hderived.later ((Session.Later.refl hderived.sound).bind hnewest)

/-- By induction on what has happened. -/
theorem Chain.holds {links : List Link} {σ : Session} (h : Chain links σ) : σ.Holds links := by
  have hempty : ∀ {σ : Session}, σ.Sound → σ.Holds [] := fun hσ =>
    ⟨hσ, fun _ hK => absurd hK List.not_mem_nil, .nil⟩
  induction h with
  | start registries => exact hempty (Session.create_sound registries)
  | register _ registry hchange ih => exact hempty (Session.sound_register ih.sound registry hchange)
  | work _ activity ih => exact ih.later (activity.later ih.sound)
  | derive _ houtside renameAll registry ih => exact ih.derive_outside houtside renameAll registry
  | declare _ hbase hrun hbound ih => exact ih.declare hbase hrun hbound
  | decorate _ _ hunused hrun ih => exact ih.derived hunused hrun

/-! ## What a chain has in common -/

namespace Session.Holds

variable {σ : Session} {above below rest : List Link} {K base : Link} {m : ClassAttribute}

theorem suffix (h : σ.Holds (above ++ below)) : σ.Holds below where
  sound := h.sound
  stands K hK := h.stands K (List.mem_append_right _ hK)
  chained := (List.isChain_append.mp h.chained).2.1

/-- A class of a chain comes from the class before it and from what that one comes from. -/
theorem lineage (h : σ.Holds (K :: base :: rest)) :
    σ.classes.lineage K.ref = σ.classes.info K.ref :: σ.classes.lineage base.ref := by
  have hK := h.stands K (List.mem_cons_self ..)
  have hbase := h.stands base (List.mem_cons_of_mem _ (List.mem_cons_self ..))
  have hextends := (List.isChain_cons_cons.mp h.chained).1
  rw [ClassTable.lineage_of_known hK.known, ClassTable.lineage_of_known hbase.known,
    hextends.ancestors, List.filterMap_cons_some (ClassTable.known?_spec hbase.known).2.2]

/-- A class says what the class before it says, unless it says something itself. -/
theorem config? (h : σ.Holds (K :: base :: rest)) :
    σ.classes.config? K.ref = (σ.classes.info K.ref).config.or (σ.classes.config? base.ref) := by
  unfold ClassTable.config?
  rw [h.lineage, List.findSome?_cons]
  cases (σ.classes.info K.ref).config <;> rfl

/-- The operation that maps rows is that of the nearest class which has one of its own. -/
theorem attribute? (h : σ.Holds (K :: below)) (hm : (K :: below).findSome? Link.mapping? = some m) :
    σ.classes.attribute? K.ref "from_row" = some m := by
  induction below generalizing K with
  | nil =>
    have hK := h.stands K (List.mem_cons_self ..)
    rw [List.findSome?_singleton] at hm
    unfold ClassTable.attribute?
    rw [ClassTable.lineage_of_known hK.known, List.findSome?_cons, hK.mapping, hm]
  | cons base rest ih =>
    have hK := h.stands K (List.mem_cons_self ..)
    unfold ClassTable.attribute?
    rw [h.lineage, List.findSome?_cons, hK.mapping]
    rw [List.findSome?_cons] at hm
    cases hown : K.mapping? with
    | some m' =>
      rw [hown] at hm
      exact hm
    | none =>
      rw [hown] at hm
      have hrest : σ.Holds ([K] ++ base :: rest) := h
      exact ih hrest.suffix hm

end Session.Holds

/-! ## What a plan of records makes -/

section

variable {α β : Type} {P : β → Prop}

/-- What a computation gives, if it gives anything, is one of these. -/
def Run.Yields (P : β → Prop) (m : Run β) : Prop :=
  ∀ σ b σ', m.run σ = (.ok b, σ') → P b

theorem Run.Yields.bind {m : Run α} {k : α → Run β} (hk : ∀ a, (k a).Yields P) :
    (m >>= k).Yields P := by
  intro σ b σ' hrun
  obtain ⟨a, σ₁, -, hrest⟩ := Running.run_bind_eq_ok.mp hrun
  exact hk a σ₁ b σ' hrest

theorem Run.Yields.pure {b : β} (hb : P b) : (Pure.pure b : Run β).Yields P := by
  intro σ b' σ' hrun
  cases hrun
  exact hb

theorem Run.Yields.throw (f : Failure) : (MonadExcept.throw f : Run β).Yields P := by
  intro σ b σ' hrun
  cases hrun

theorem Run.Yields.mapFailure {m : Run β} (hm : m.Yields P) (change : Failure → Failure) :
    (m.mapFailure change).Yields P := by
  intro σ b σ' hrun
  unfold Run.mapFailure at hrun
  rw [Running.run_tryCatch] at hrun
  rcases hm' : m.run σ with ⟨f | a, σ₁⟩
  · rw [hm'] at hrun
    cases hrun
  · rw [hm'] at hrun
    cases hrun
    exact hm σ _ _ hm'

end

section

variable {l : Level} {c : ClassRef} {keys : KeyUse}

theorem Instance.makeDeclared_yields (hform : c.form = .dataclass keys) (table : ClassTable)
    (positional : List Value) (keywords : Bindings) :
    (makeDeclared l table c positional keywords).Yields fun v => ∃ fields, v = .record c fields := by
  have hmakeBy : ∀ maker : Constructor, (makeBy l table c maker positional keywords).Yields
      fun v => ∃ fields, v = .record c fields := by
    intro maker
    unfold makeBy
    refine .bind fun bound => .bind fun held => ?_
    split
    · exact .bind fun _ => .pure ⟨_, rfl⟩
    · exact .bind fun _ => .pure ⟨_, rfl⟩
    · exact .pure ⟨_, rfl⟩
    · exact .pure ⟨_, rfl⟩
  unfold makeDeclared
  dsimp only
  rw [hform]
  split
  next => contradiction
  next => exact hmakeBy _
  next =>
    split
    · exact .bind fun _ => .throw _
    · exact .throw _
  next => exact .throw _
  next => contradiction
  next =>
    unfold makeBare
    rw [hform]
    dsimp only
    split
    · exact .pure ⟨_, rfl⟩
    · exact .throw _

/-- A plan for a class of records makes instances of that class. -/
theorem execute_yields (hform : c.form = .dataclass keys) {p : DecodePlan}
    (htarget : p.target = .declared c) (row : Value) :
    (execute l.above p row).Yields fun v => ∃ fields, v = .record c fields := by
  have hconstruct : ∀ positional keywords,
      (l.above.construct p.target positional keywords).Yields
        fun v => ∃ fields, v = .record c fields := by
    intro positional keywords
    rw [htarget]
    exact .bind fun σ => Instance.makeDeclared_yields hform σ.classes positional keywords
  refine .bind fun adapted => .bind fun values => ?_
  unfold makeTarget
  refine .mapFailure ?_ _
  cases p.addressing with
  | byName =>
    dsimp only
    split
    · exact hconstruct _ _
    · exact .throw _
  | byPosition =>
    dsimp only
    rw [if_pos (by rw [htarget]; rfl)]
    exact hconstruct _ _

end

/-! ## Decoding by one's own schema -/

/-- A plan of a class of a chain is its own: it is one that the registry of this name, as it is,
compiles for the class itself, it has a step for each of its fields, and it is attached to no class
before it. -/
structure Session.OwnPlan (σ : Session) (K : Link) (below : List Link) (name : String)
    (p : DecodePlan) : Prop where
  target : p.target = .declared K.ref
  compiled : σ.CompiledFor name K.ref p
  names : p.steps.map (·.fieldName) =
    ((σ.classes.info K.ref).fields.filter (·.inConstructor)).map fun f => some f.name
  apart : ∀ A ∈ below, (σ.classes.info A.ref).plan ≠ some p

/-- A class of a chain decodes by its own schema, with the registry of this name. Its fields are
those of the class before it and its own ones, and what it says of them is what it says itself or
else what the class before it says. Every row has the outcome of running a plan of its own, unless
the class is not derived and the registry refuses to compile it: then every row has that failure. A
result is an instance of the class itself. -/
structure Link.DecodesByOwnSchema (K : Link) (σ : Session) (below : List Link) (name : String) :
    Prop where
  fields : ∀ base ∈ below.head?, base.declaration.kind = .dataclass →
    (σ.classes.info K.ref).fields =
      overrideFields (σ.classes.info base.ref).fields K.declaration.fields
  config : ∀ base ∈ below.head?,
    σ.classes.config? K.ref = (σ.classes.info K.ref).config.or (σ.classes.config? base.ref)
  outcome :
    (∃ p σ', (planOf K.ref name).run σ = (.ok p, σ') ∧ σ'.OwnPlan K below name p ∧
      ∀ row, (Derive.mapRow K.ref row).run σ = (execute Level.belowTop p row).run σ') ∨
    K.request = none ∧ ∃ f σ', (Session.planFor name (.declared K.ref)).run σ = (.error f, σ') ∧
      ∀ row, (Derive.mapRow K.ref row).run σ = (.error f, σ')
  instances : ∀ row v σ', (Derive.mapRow K.ref row).run σ = (.ok v, σ') →
    ∃ fields, v = .record K.ref fields

section

variable {σ : Session} {above below : List Link} {K : Link} {name : String} {p : DecodePlan}

theorem Session.Holds.ownPlan (h : σ.Holds (K :: below)) (hkind : K.declaration.kind = .dataclass)
    (hp : σ.CompiledFor name K.ref p) : σ.OwnPlan K below name p := by
  obtain ⟨keys, hform⟩ := (h.stands K (List.mem_cons_self ..)).form hkind
  refine ⟨hp.target, hp, hp.names hform, fun A hA hsame => ?_⟩
  have hstands := h.stands A (List.mem_cons_of_mem _ hA)
  have hne := (List.pairwise_cons.mp h.descending).1 A hA
  cases hrequest : A.request with
  | none =>
    rw [hstands.underived hrequest] at hsame
    cases hsame
  | some r =>
    obtain ⟨q, hq, hcompiled⟩ := hstands.derived r hrequest
    obtain rfl := Option.some.inj (hq.symm.trans hsame)
    have href := TypeExpr.declared.inj (hcompiled.target.symm.trans hp.target)
    exact absurd hne (by rw [href]; exact Nat.lt_irrefl _)

/-- The plan that rows are mapped to a class by is its own. Only a class that is not derived may have
none, because the registry refuses to compile it. -/
theorem Session.Holds.planOf_own (h : σ.Holds (K :: below))
    (hkind : K.declaration.kind = .dataclass)
    (hname : (K :: below).findSome? Link.mapping? = some (.rowMapping name)) :
    (∃ p σ', (planOf K.ref name).run σ = (.ok p, σ') ∧ σ'.OwnPlan K below name p) ∨
      K.request = none ∧ ∃ f σ', (planOf K.ref name).run σ = (.error f, σ') ∧
        (Session.planFor name (.declared K.ref)).run σ = (.error f, σ') := by
  have hK := h.stands K (List.mem_cons_self ..)
  cases hrequest : K.request with
  | some r =>
    -- The registry of a derived class is that of its own derivation.
    have hmapping : K.mapping? = some (.rowMapping r.registry) := by
      unfold Link.mapping?
      rw [hrequest]
    rw [List.findSome?_cons, hmapping] at hname
    cases hname
    obtain ⟨p, hp, hcompiled⟩ := hK.derived r hrequest
    exact Or.inl ⟨p, σ, Derive.run_planOf_attached hp, h.ownPlan hkind hcompiled⟩
  | none =>
    have hasked : (planOf K.ref name).run σ =
        (Session.planFor name (.declared K.ref)).run σ := by
      unfold planOf
      rw [Running.run_bind_of_ok (Running.run_get σ), hK.underived hrequest]
    rw [hasked]
    have hlater := h.sound.planFor_later name (.declared K.ref)
    rcases hrun : (Session.planFor name (.declared K.ref)).run σ with ⟨f | p, σ'⟩
    · exact Or.inr ⟨rfl, f, σ', rfl, rfl⟩
    · rw [hrun] at hlater
      obtain ⟨r, hr, hkept⟩ := Session.planFor_keeps hrun
      have hcompiled := (hK.later hlater).kept name r p hr hkept
      exact Or.inl ⟨p, σ', rfl, (h.later hlater).ownPlan hkind hcompiled⟩

/-- **Subclasses of derived classes decode by their own schema.** Take a class of records in a chain,
and the registry of the nearest derivation: its own one, or else that of the nearest class before it
that is derived. Then the class decodes by its own schema with that registry, whatever else is
derived in the chain and has gone on in the session. -/
theorem chain_decodes_by_own_schema (h : Chain (above ++ K :: below) σ)
    (hkind : K.declaration.kind = .dataclass)
    (hname : (K :: below).findSome? Link.mapping? = some (.rowMapping name)) :
    K.DecodesByOwnSchema σ below name := by
  have hholds : σ.Holds (K :: below) := h.holds.suffix
  have hmap := Derive.run_mapRow_of_attribute (hholds.attribute? hname)
  have hplan := hholds.planOf_own hkind hname
  constructor
  case fields =>
    intro base hbase
    obtain ⟨rest, rfl⟩ := List.head?_eq_some_iff.mp hbase
    exact (List.isChain_cons_cons.mp hholds.chained).1.fields hkind
  case config =>
    intro base hbase
    obtain ⟨rest, rfl⟩ := List.head?_eq_some_iff.mp hbase
    exact hholds.config?
  case outcome =>
    rcases hplan with ⟨p, σ', hrun, hown⟩ | ⟨hrequest, f, σ', hrun, hfailed⟩
    · exact Or.inl ⟨p, σ', hrun, hown, fun row => by
        rw [hmap, Running.run_bind_of_ok hrun]
        rfl⟩
    · exact Or.inr ⟨hrequest, f, σ', hfailed, fun row => by
        rw [hmap, Running.run_bind_of_error hrun]⟩
  case instances =>
    intro row v σ' hrun
    obtain ⟨keys, hform⟩ := (hholds.stands K (List.mem_cons_self ..)).form hkind
    rw [hmap] at hrun
    rcases hplan with ⟨p, σ₁, hplanned, hown⟩ | ⟨-, f, σ₁, hfailed, -⟩
    · rw [Running.run_bind_of_ok hplanned] at hrun
      exact execute_yields hform hown.target row σ₁ v σ' hrun
    · rw [Running.run_bind_of_error hfailed] at hrun
      cases hrun

end

/-! ## A chain of three classes -/

namespace Family

def base : ClassRef := ⟨"Base", 1, .dataclass .none⟩

def middle : ClassRef := ⟨"Middle", 2, .dataclass .none⟩

def leaf : ClassRef := ⟨"Leaf", 3, .dataclass .none⟩

/-- A derived class with a convention. -/
def baseLink : Link where
  declaration := .dataclass "Base" none [.given "row_id" (.builtin .int)]
  request := some ⟨some (.convention .camelCase), Session.standardRegistry⟩
  ref := base

/-- A class below it that is not derived. -/
def middleLink : Link where
  declaration := .dataclass "Middle" (some (.declared base)) [.given "full_name" (.builtin .str)]
  request := none
  ref := middle

/-- A class below that one, derived with a registry of its own. -/
def leafLink : Link where
  declaration := .dataclass "Leaf" (some (.declared middle)) [.given "net_weight" (.builtin .float)]
  request := some ⟨none, "own"⟩
  ref := leaf

/-- The session after a class of the chain is declared. -/
def declared (σ : Session) (L : Link) : Session :=
  ((Derive.declare L.declaration L.request).run σ).2

/-- Whether a class of the chain is declared as it stands there. -/
def isDeclared (σ : Session) (L : Link) : Bool :=
  ((Derive.declare L.declaration L.request).run σ).1.isOk &&
    (declared σ L).classes.bound? L.declaration.name == some L.ref

theorem chain_declared {links : List Link} {σ : Session} {L : Link} (h : Chain links σ)
    (hbase : ∀ b ∈ links.head?, L.declaration.base = some (.declared b.ref))
    (htest : isDeclared σ L = true) : Chain (L :: links) (declared σ L) := by
  obtain ⟨hok, hbound⟩ := Bool.and_eq_true_iff.mp htest
  refine .declare h hbase ?_ (eq_of_beq hbound)
  unfold declared
  obtain ⟨⟨⟩, σ', hrun⟩ := Running.exists_of_isOk hok
  rw [hrun]

def start : Session := Session.create [("own", .standard)]

/-- All three classes are declared. -/
def session : Session :=
  declared (declared (declared start baseLink) middleLink) leafLink

/-- A row with a column for each field of all three classes, by the convention of the first one. -/
def row : Value :=
  .dict [(.text "rowId", .int 7), (.text "fullName", .text "Ada"), (.text "netWeight", .int 2)]

/-- The classes are declared, and the last two map the row. -/
theorem checks :
    (isDeclared start baseLink && isDeclared (declared start baseLink) middleLink &&
      isDeclared (declared (declared start baseLink) middleLink) leafLink &&
      ((Derive.mapRow middle row).run session).1.isOk &&
      ((Derive.mapRow leaf row).run session).1.isOk) = true := by
  decide +kernel

theorem chain_session : Chain [leafLink, middleLink, baseLink] session := by
  have hchecks := checks
  simp only [Bool.and_eq_true] at hchecks
  obtain ⟨⟨⟨⟨hbase, hmiddle⟩, hleaf⟩, -⟩, -⟩ := hchecks
  refine chain_declared (chain_declared (chain_declared (.start _) (fun _ h => nomatch h) hbase) ?_
    hmiddle) ?_ hleaf
  · rintro b hb
    cases hb
    rfl
  · rintro b hb
    cases hb
    rfl

theorem exists_record_of_isOk {c : ClassRef} {σ : Session}
    (h : ((Derive.mapRow c row).run σ).1.isOk = true)
    (hinstances : ∀ row v σ', (Derive.mapRow c row).run σ = (.ok v, σ') →
      ∃ fields, v = .record c fields) :
    ∃ fields σ', (Derive.mapRow c row).run σ = (.ok (.record c fields), σ') := by
  obtain ⟨v, σ', hrun⟩ := Running.exists_of_isOk h
  obtain ⟨fields, rfl⟩ := hinstances row v σ' hrun
  exact ⟨fields, σ', hrun⟩

/-- The last class decodes with its own registry and the one before it with that of the first one;
both make instances of themselves of one row. -/
theorem family_decodes_by_own_schema :
    (leafLink.DecodesByOwnSchema session [middleLink, baseLink] "own" ∧
      ∃ fields σ', (Derive.mapRow leaf row).run session = (.ok (.record leaf fields), σ')) ∧
    middleLink.DecodesByOwnSchema session [baseLink] Session.standardRegistry ∧
      ∃ fields σ', (Derive.mapRow middle row).run session = (.ok (.record middle fields), σ') := by
  have hchecks := checks
  simp only [Bool.and_eq_true] at hchecks
  obtain ⟨⟨-, hmiddle⟩, hleaf⟩ := hchecks
  have hchain : Chain ([] ++ leafLink :: [middleLink, baseLink]) session := chain_session
  have hchain' : Chain ([leafLink] ++ middleLink :: [baseLink]) session := chain_session
  have hleaf' : leafLink.DecodesByOwnSchema session [middleLink, baseLink] "own" :=
    chain_decodes_by_own_schema hchain rfl rfl
  have hmiddle' : middleLink.DecodesByOwnSchema session [baseLink] Session.standardRegistry :=
    chain_decodes_by_own_schema hchain' rfl rfl
  exact ⟨⟨hleaf', exists_record_of_isOk hleaf hleaf'.instances⟩, hmiddle',
    exists_record_of_isOk hmiddle hmiddle'.instances⟩

end Family

end RowDecoding
