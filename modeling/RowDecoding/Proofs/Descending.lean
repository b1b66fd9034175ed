import RowDecoding.Proofs.Growing
import RowDecoding.Proofs.Redeclaring

/-!
# Declarations and derivations in a session

What a declaration adds to the classes (`ClassTable.Makes`), and what a derivation does besides: it
notes its convention, asks a registry for the plan of the class and attaches that
(`Derive.run_derive_eq`). Whatever else goes on in a session leads to a later one: classes are
declared and derived, rows are mapped, plans are compiled and run. Registrations are no such
`Activity`, and neither is a derivation of a class that is there already.

> `Activity.later`: an activity leads to a later session, however it ends.
-/

namespace RowDecoding

/-! ## What a declaration makes -/

/-- The classes that a class declared so inherits from, the nearest one first. -/
def Declaration.lineage (d : Declaration) (table : ClassTable) : List ClassInfo :=
  ((d.base.bind (·.declared?)).map table.lineage).getD []

/-- What is known of a class that is declared so. The fields of a class of records are those of its
base and its own ones. -/
structure ClassTable.Makes (table : ClassTable) (d : Declaration) (info : ClassInfo) : Prop where
  declared : table.declare d = .ok (table.add info, info.ref)
  name : info.ref.name = d.name
  serial : info.ref.serial = table.nextSerial
  ancestors : info.ancestors = (d.lineage table).map (·.ref.serial)
  attributes : info.attributes = d.attributes
  config : info.config = d.config
  plan : info.plan = none
  record : d.kind = .dataclass → (∃ keys, info.ref.form = .dataclass keys) ∧
    info.fields = overrideFields
      (((d.lineage table).filter (·.ref.form.isSchema)).headD default).fields d.fields

section

variable {table table' : ClassTable} {d : Declaration} {c : ClassRef}

/-- What a class that settles differs in are its fields, and only if they are checked. -/
theorem settled_becomes {info info' : ClassInfo} (h : table.settled info = .ok info') :
    info.Becomes info' := by
  unfold ClassTable.settled at h
  split at h
  next keys hform =>
    obtain ⟨fields, -, h⟩ := Running.bind_eq_ok.mp h
    obtain ⟨-, -, h⟩ := Running.bind_eq_ok.mp h
    cases h
    exact ⟨rfl, fun hnot => absurd ⟨keys, hform⟩ hnot⟩
  next =>
    cases h
    exact .refl info

/-- A declaration that is accepted adds a class. -/
theorem declare_makes (h : table.declare d = .ok (table', c)) :
    ∃ info, table' = table.add info ∧ info.ref = c ∧ table.Makes d info := by
  let bases := (d.lineage table).filter (·.ref.form.isSchema)
  have hmade : ∀ {fields : List FieldDeclaration} {own info : ClassInfo},
      d.allFields (bases.headD default).fields = .ok fields → table.settled own = .ok info →
      table.declare d = .ok (table.add info, own.ref) →
      own.ref = ⟨d.name, table.nextSerial, d.form bases⟩ →
      own.ancestors = (d.lineage table).map (·.ref.serial) → own.attributes = d.attributes →
      own.config = d.config → own.plan = none → own.fields = fields →
      info.ref = own.ref ∧ table.Makes d info := by
    intro fields own info hfields hsettled hdeclared href hancestors hattributes hconfig hplan hown
    have hbecomes := settled_becomes hsettled
    refine ⟨hbecomes.ref, by rw [hbecomes.ref]; exact hdeclared, ?_, ?_,
      hbecomes.ancestors.trans hancestors,
      hbecomes.attributes.trans hattributes, hbecomes.config.trans hconfig,
      hbecomes.plan.trans hplan, fun hkind => ?_⟩
    · rw [hbecomes.ref, href]
    · rw [hbecomes.ref, href]
    · have hform : ∃ keys, own.ref.form = .dataclass keys := by
        rw [href]
        unfold Declaration.form
        rw [hkind]
        exact ⟨_, rfl⟩
      obtain ⟨keys, hform⟩ := hform
      refine ⟨⟨keys, by rw [hbecomes.ref, hform]⟩, ?_⟩
      rw [hbecomes.fields (by rintro ⟨_, hmodel⟩; rw [hform] at hmodel; cases hmodel), hown]
      unfold Declaration.allFields at hfields
      rw [hkind] at hfields
      exact (Except.ok.inj hfields).symm
  have hdeclared := h
  unfold ClassTable.declare at h
  obtain ⟨-, -, h⟩ := Running.bind_eq_ok.mp h
  obtain ⟨fields, hfields, h⟩ := Running.bind_eq_ok.mp h
  dsimp only at h
  split at h
  all_goals
    try obtain ⟨-, -, h⟩ := Running.bind_eq_ok.mp h
    split at h
    all_goals
      obtain ⟨⟨members, memberNames⟩, -, h⟩ := Running.bind_eq_ok.mp h
      obtain ⟨info, hsettled, h⟩ := Running.bind_eq_ok.mp h
      cases h
      obtain ⟨href, hmakes⟩ := hmade hfields hsettled hdeclared rfl rfl rfl rfl rfl rfl
      exact ⟨info, rfl, href, hmakes⟩

end

/-! ## What a derivation does -/

namespace Derive

variable {σ σ' : Session} {c : ClassRef} {renameAll : Option Value} {name : String}

/-- A derivation notes its convention, if it can, and attaches the plan of the class. -/
theorem run_derive_eq (h : (derive c renameAll name).run σ = (.ok ⟨⟩, σ')) :
    (attach c name).run { σ with classes := noted σ.classes c renameAll } = (.ok ⟨⟩, σ') := by
  cases renameAll with
  | none => exact h
  | some v =>
    cases htable : withConvention σ.classes c v with
    | error f =>
      rw [run_derive_of_error htable] at h
      cases h
    | ok table =>
      rw [noted_of_ok htable]
      rwa [run_derive_of_ok htable] at h

/-- Attaching a plan succeeds where the registry hands one out. -/
theorem run_attach (h : (attach c name).run σ = (.ok ⟨⟩, σ')) :
    ∃ p σ₁, (Session.planFor name (.declared c)).run σ = (.ok p, σ₁) ∧
      σ' = { σ₁ with classes := withPlan σ₁.classes c name p } := by
  obtain ⟨p, σ₁, hplan, hattached⟩ := Running.run_bind_eq_ok.mp h
  cases hattached
  exact ⟨p, σ₁, hplan, rfl⟩

/-- A property of sessions that changing what a class says and what is attached to it does not touch,
and neither does asking a registry for a plan, is one that a derivation keeps. -/
theorem derive_upholds {I : Session → Prop}
    (hplan : ∀ {σ} name t, I σ → I ((Session.planFor name t).run σ).2)
    (hupdate : ∀ {σ : Session} change, KeepsOrigin change →
      σ.classes.Change (σ.classes.update c change) → I σ →
      I { σ with classes := σ.classes.update c change }) :
    Upholds I (derive c renameAll name) := by
  have hattach : Upholds I (attach c name) :=
    .bind (fun σ hσ => hplan name _ hσ) fun p =>
      .modify fun σ hσ => hupdate _ (keepsOrigin_withPlan name p) (.attached σ.classes c name p) hσ
  cases renameAll with
  | none => exact hattach
  | some v =>
    intro σ hσ
    cases htable : withConvention σ.classes c v with
    | error f =>
      rw [run_derive_of_error htable]
      exact hσ
    | ok table =>
      rw [run_derive_of_ok htable]
      obtain ⟨own, -, rfl⟩ := withConvention_ok htable
      exact hattach _ (hupdate _ (ClassTable.keepsOrigin_saying _) (.noted htable) hσ)

end Derive

namespace ClassTable

variable {table : ClassTable} {c d : ClassRef} {own : ClassInfo} {change : ClassInfo → ClassInfo}

theorem known?_update_onlyOf (hchange : KeepsOrigin change) (hown : table.known? d = some own) :
    (table.update c change).known? d = some (onlyOf c change own) := by
  show (table.mapped (onlyOf c change)).known? d = _
  rw [known?_mapped (keepsOrigin_onlyOf hchange c), hown]
  rfl

theorem knows_update (hchange : KeepsOrigin change) (hd : table.Knows d) :
    (table.update c change).Knows d := by
  obtain ⟨own, hown⟩ := hd
  exact ⟨_, known?_update_onlyOf hchange hown⟩

theorem newest?_add (table : ClassTable) (info : ClassInfo) :
    (table.add info).newest? = some info.ref := by
  unfold newest? add
  rw [List.getLast?_append, List.getLast?_singleton]
  rfl

/-- A class that changes is the newest one as before. -/
theorem newest?_update (hchange : ∀ i, (change i).ref = i.ref) :
    (table.update c change).newest? = table.newest? := by
  unfold newest? update
  rw [List.getLast?_map, Option.map_map]
  congr 1
  funext i
  dsimp only [Function.comp]
  split
  · exact hchange i
  · rfl

end ClassTable

namespace Session

variable {σ σ' : Session} {c : ClassRef} {change : ClassInfo → ClassInfo}

theorem Sound.update (hσ : σ.Sound) (hchange : KeepsOrigin change)
    (hstep : σ.classes.Change (σ.classes.update c change)) :
    ({ σ with classes := σ.classes.update c change } : Session).Sound where
  reached := hσ.reached.tail hstep
  numbered := hσ.numbered.update fun i hi => by rw [(hchange i).1, hi]
  idle := hσ.idle
  known r hr d p hp := ClassTable.knows_update hchange (hσ.known r hr d p hp)

/-- One more class leads to a later session. -/
theorem Later.add (h : σ.Later σ') {d : Declaration} {info : ClassInfo}
    (hmakes : σ'.classes.Makes d info) :
    σ.Later { σ' with classes := σ'.classes.add info } := by
  have hgrows := ClassTable.Grows.of_add σ'.classes info
  exact h.withClasses (.declared hmakes.declared) (h.sound.numbered.add hmakes.serial)
    (h.classes.trans hgrows) fun _ => hgrows.knows

/-- The name of the class that was declared last, bound to it, leads to a later session. -/
theorem Later.bind (h : σ.Later σ') (hnewest : σ'.classes.newest? = some c) :
    σ.Later { σ' with classes := σ'.classes.bind c } :=
  h.withClasses (.bound hnewest) ⟨h.sound.numbered.below, h.sound.numbered.positive⟩ h.classes
    fun _ hd => hd

end Session

namespace Derive

variable {σ σ' : Session} {d : Declaration} {request : Option Request}

/-- Derives the row mapping of a class if asked to. -/
def deriveIf (request : Option Request) (c : ClassRef) : Run Unit :=
  match request with
  | some r => derive c r.renameAll r.registry
  | none => pure ()

/-- What a declaration runs once its class is there. -/
theorem run_declare {table : ClassTable} {c : ClassRef}
    (h : σ.classes.declare d = .ok (table, c)) :
    (declare d request).run σ = (do
      deriveIf request c
      modify fun s => { s with classes := s.classes.bind c } : Run Unit).run
        { σ with classes := table } := by
  have hlift : (Run.lift (σ.classes.declare d)).run σ = (.ok (table, c), σ) := by
    rw [h]
    rfl
  unfold declare
  rw [Running.run_bind_of_ok (Running.run_get σ), Running.run_bind_of_ok hlift]
  dsimp only
  rw [Running.run_bind_of_ok (Running.run_modify _ σ)]
  cases request <;> rfl

theorem run_declare_error {f : Fault} (h : σ.classes.declare d = .error f) :
    (declare d request).run σ = (.error (Cause.failure f), σ) := by
  have hlift : (Run.lift (σ.classes.declare d)).run σ = (.error (Cause.failure f), σ) := by
    rw [h]
    rfl
  unfold declare
  rw [Running.run_bind_of_ok (Running.run_get σ), Running.run_bind_of_error hlift]

/-- A declaration that succeeds adds its class, derives it if asked to and binds its name. -/
theorem run_declare_ok (h : (declare d request).run σ = (.ok ⟨⟩, σ')) :
    ∃ info σ₁, σ.classes.Makes d info ∧
      (deriveIf request info.ref).run { σ with classes := σ.classes.add info } = (.ok ⟨⟩, σ₁) ∧
      σ' = { σ₁ with classes := σ₁.classes.bind info.ref } := by
  cases hdeclared : σ.classes.declare d with
  | error f =>
    rw [run_declare_error hdeclared] at h
    cases h
  | ok made =>
    obtain ⟨table, c⟩ := made
    obtain ⟨info, rfl, rfl, hmakes⟩ := declare_makes hdeclared
    rw [run_declare hdeclared] at h
    obtain ⟨⟨⟩, σ₁, hderived, hbound⟩ := Running.run_bind_eq_ok.mp h
    cases hbound
    exact ⟨info, σ₁, hmakes, hderived, rfl⟩

/-- A derivation declares no class. -/
theorem deriveIf_newest (request : Option Request) (c : ClassRef) {newest : Option ClassRef} :
    Upholds (fun σ => σ.classes.newest? = newest) (deriveIf request c) := by
  cases request with
  | none => exact .pure _
  | some r =>
    refine derive_upholds (fun {σ} name t h => ?_) fun {σ} change hchange _ h => ?_
    · rw [Session.planFor_classes, h]
    · rw [← h]
      exact ClassTable.newest?_update fun i => (hchange i).1

/-- Declaring a class, and deriving it, leads to a later session. -/
theorem declare_upholds (σ : Session) (d : Declaration) (request : Option Request) :
    Upholds σ.Later (declare d request) := by
  intro σ₁ h₁
  cases hdeclared : σ₁.classes.declare d with
  | error f =>
    rw [run_declare_error hdeclared]
    exact h₁
  | ok made =>
    obtain ⟨table, c⟩ := made
    obtain ⟨info, rfl, rfl, hmakes⟩ := declare_makes hdeclared
    -- The class is none of those that were there.
    have hnew : σ.classes.info? info.ref.serial = none := by
      cases hold : σ.classes.info? info.ref.serial with
      | none => rfl
      | some old =>
        obtain ⟨old', hold', -⟩ := h₁.classes _ _ hold
        rw [hmakes.serial, h₁.sound.numbered.info?_next] at hold'
        cases hold'
    have hupdate : ∀ {σ₂ : Session} change, KeepsOrigin change →
        σ₂.classes.Change (σ₂.classes.update info.ref change) → σ.Later σ₂ →
        σ.Later { σ₂ with classes := σ₂.classes.update info.ref change } := by
      intro σ₂ change hchange hstep h
      have hsame : ∀ i, i.ref.serial = info.ref.serial → (change i).ref.serial = info.ref.serial :=
        fun i hi => by rw [(hchange i).1, hi]
      exact h.withClasses hstep (h.sound.numbered.update hsame) (h.classes.update_new hnew hsame)
        fun _ => ClassTable.knows_update hchange
    have hderive : Upholds σ.Later (deriveIf request info.ref) := by
      cases request with
      | none => exact .pure _
      | some r =>
        exact derive_upholds (fun name t h => h.trans (h.sound.planFor_later name t)) hupdate
    have hlater := hderive _ (h₁.add hmakes)
    have hnewest := deriveIf_newest request info.ref { σ₁ with classes := σ₁.classes.add info }
      (ClassTable.newest?_add ..)
    rw [run_declare hdeclared, Running.run_bind]
    rcases hrun : (deriveIf request info.ref).run { σ₁ with classes := σ₁.classes.add info } with
      ⟨f | ⟨⟩, σ₂⟩ <;> rw [hrun] at hlater hnewest
    · exact hlater
    · exact hlater.bind hnewest

end Derive

/-! ## Registrations -/

/-- What is registered in a registry. -/
inductive Registry.Registers : (Registry → Except Failure Registry) → Prop where
  | decoder (t : TypeExpr) (decoder : Transform) : Registers (·.registerDecoder t decoder)
  | converter (source target : TypeExpr) (converter : Transform) :
    Registers (·.registerConverter source target converter)
  | default (t : TypeExpr) (supply : Supply) : Registers (·.registerDefault t supply)

/-- A registration drops the plans that were kept. -/
theorem Registry.Registers.spec {change : Registry → Except Failure Registry} (h : Registers change)
    {r r' : Registry} (hr : change r = .ok r') : r'.building = r.building ∧ r'.plans = [] := by
  cases h with
  | decoder t decoder =>
    unfold registerDecoder at hr
    cases hkey : keyOf t with
    | error f => rw [hkey] at hr; cases hr
    | ok key => rw [hkey] at hr; cases hr; exact ⟨rfl, rfl⟩
  | converter source target converter =>
    obtain ⟨s, -, hr⟩ := Running.bind_eq_ok.mp hr
    obtain ⟨t, -, hr⟩ := Running.bind_eq_ok.mp hr
    cases hr
    exact ⟨rfl, rfl⟩
  | default t supply =>
    unfold registerDefault at hr
    cases hkey : keyOf t with
    | error f => rw [hkey] at hr; cases hr
    | ok key => rw [hkey] at hr; cases hr; exact ⟨rfl, rfl⟩

/-- A registration leaves a session in good order. -/
theorem Session.sound_register {σ : Session} (hσ : σ.Sound) (name : String)
    {change : Registry → Except Failure Registry} (hchange : Registry.Registers change) :
    ((register name change).run σ).2.Sound := by
  unfold register
  cases hr : σ.registryNamed? name with
  | none =>
    rw [Running.run_bind_of_error (run_getRegistry_unknown hr)]
    exact hσ
  | some r =>
    rw [Running.run_bind_of_ok (run_getRegistry hr)]
    cases hnew : change r with
    | error f => exact hσ
    | ok r' =>
      obtain ⟨hbuilding, hplans⟩ := hchange.spec hnew
      refine ⟨hσ.reached, hσ.numbered, fun s hs => ?_, fun s hs c p hp => ?_⟩
      · rcases mem_putRegistry hs with rfl | hs
        · exact hbuilding.trans (hσ.idle r (mem_of_registryNamed? hr))
        · exact hσ.idle s hs
      · rcases mem_putRegistry hs with rfl | hs
        · rw [hplans] at hp
          cases hp
        · exact hσ.known s hs c p hp

/-! ## What goes on in a session -/

/-- Something that goes on in a session without a registration. -/
inductive Activity where
  | declare (d : Declaration) (request : Option Derive.Request)
  | map (c : ClassRef) (row : Value)
  | plan (registry : String) (t : TypeExpr)
  | build (registry : String) (t : TypeExpr) (overrides : Overrides)
  | execute (p : DecodePlan) (row : Value)
  | save (name : String) (thing : Saved)

namespace Activity

/-- What an activity runs, without its result. -/
def run : Activity → Run Unit
  | declare d request => Derive.declare d request
  | map c row => discard (Derive.mapRow c row)
  | plan registry t => discard (Session.planFor registry t)
  | build registry t overrides => discard (Session.build registry t overrides)
  | execute p row => discard (RowDecoding.execute Level.top p row)
  | save name thing => Session.save name thing

/-- **Activities lead to later sessions.** -/
theorem later {σ : Session} (hσ : σ.Sound) (activity : Activity) :
    σ.Later (activity.run.run σ).2 := by
  have hdiscard : ∀ {α : Type} {m : Run α}, Upholds σ.Later m → Upholds σ.Later (discard m) :=
    fun hm => hm.bind fun _ => .pure _
  have hstable := Session.later_stable σ
  have hupholds : Upholds σ.Later activity.run := by
    cases activity with
    | declare d request => exact Derive.declare_upholds σ d request
    | map c row => exact hdiscard (Derive.mapRow_upholds hstable c row)
    | plan registry t =>
      exact hdiscard fun σ₁ h => h.trans (h.sound.planFor_later registry t)
    | build registry t overrides =>
      exact hdiscard fun σ₁ h => h.trans (h.sound.build_later registry t overrides)
    | execute p row =>
      exact hdiscard (execute_upholds hstable Level.depth p row)
    | save name thing =>
      exact .modify fun σ₁ h => h.aside rfl rfl
  exact hupholds σ (.refl hσ)

end Activity

end RowDecoding
