import RowDecoding.Proofs.Binding

/-!
# Checked records

A class of checked records is called by the names of its fields, like any other class. But it takes
a field that has an alternative name under that name alone, and pays no heed to names of no field.
So the value of such a field is not taken: the field gets the value of another field if that is
called by the alternative name, or else its default; a field without a default is reported as
missing.

`Responds` says what a field makes of a call, and `RespondAll` what all of them do in turn. A record
is made of what the fields make of the call, whatever the row and the values of the steps.

> `execute_checked`: a row becomes the record of the values that the fields have accepted, or their
> issues are reported. The record holds the values of the steps just if each field has accepted its
> own one. It does so if no field has an alternative name and none refuses its own value.
-/

namespace RowDecoding

/-! ## Verdicts that give values -/

namespace Verdict

/-- A verdict that accepts a value, as this one. -/
def Gives (verdict : Verdict) (v : Value) : Prop :=
  ∃ fit : Fit, verdict = .ok fit ∧ fit.value = v

/-- The values that were accepted. -/
def values (verdicts : List Verdict) : List Value :=
  (fits verdicts).map (·.value)

theorem length_values_le (verdicts : List Verdict) :
    (values verdicts).length ≤ verdicts.length := by
  unfold values fits
  rw [List.length_map]
  exact List.length_filterMap_le ..

/-- As many verdicts as values give these in turn if there is no issue and these were accepted. -/
theorem gives_iff {verdicts : List Verdict} {given : List Value}
    (hlength : given.length = verdicts.length) :
    List.Forall₂ Gives verdicts given ↔ allIssues verdicts = [] ∧ values verdicts = given := by
  induction verdicts generalizing given with
  | nil =>
    obtain rfl := List.eq_nil_of_length_eq_zero hlength
    exact ⟨fun _ => ⟨rfl, rfl⟩, fun _ => .nil⟩
  | cons verdict verdicts ih =>
    obtain ⟨v, given, rfl⟩ := List.exists_cons_of_length_eq_add_one hlength
    rw [List.forall₂_cons, ih (Nat.succ.inj hlength)]
    cases verdict with
    | ok fit =>
      have hissues : allIssues (.ok fit :: verdicts) = allIssues verdicts := rfl
      have hvalues : values (.ok fit :: verdicts) = fit.value :: values verdicts := rfl
      rw [hissues, hvalues, List.cons.injEq]
      constructor
      · rintro ⟨⟨_, heq, hv⟩, hnone, hrest⟩
        cases heq
        exact ⟨hnone, hv, hrest⟩
      · rintro ⟨hnone, hv, hrest⟩
        exact ⟨⟨fit, rfl, hv⟩, hnone, hrest⟩
    | error found =>
      constructor
      · rintro ⟨⟨_, heq, -⟩, -⟩
        cases heq
      · -- One value would be too many for the verdicts that are left.
        rintro ⟨-, hrest⟩
        have hfew := length_values_le verdicts
        rw [show values verdicts = v :: given from hrest, hlength] at hfew
        exact absurd hfew (Nat.not_succ_le_self _)

theorem foldl_withPart_value (parts : List Fit) (whole : Fit) :
    (parts.foldl withPart whole).value = whole.value := by
  induction parts generalizing whole with
  | nil => rfl
  | cons part parts ih =>
    rw [List.foldl_cons, ih]
    unfold withPart
    split <;> rfl

/-- A whole is made of the values that were accepted, or all issues are reported. -/
theorem whole_spec (make : List Value → Value) (exactness : Exactness) (verdicts : List Verdict) :
    (allIssues verdicts = [] → (whole make exactness verdicts).Gives (make (values verdicts))) ∧
      (allIssues verdicts ≠ [] →
        whole make exactness verdicts = .error (allIssues verdicts)) := by
  unfold whole
  cases allIssues verdicts with
  | nil => exact ⟨fun _ => ⟨_, rfl, foldl_withPart_value _ _⟩, fun h => absurd rfl h⟩
  | cons issue rest => exact ⟨fun h => absurd h (List.cons_ne_nil _ _), fun _ => rfl⟩

end Verdict

/-! ## What fields make of a call -/

/-- The name under which a field is taken by the standard settings. -/
def FieldDeclaration.takenAs (f : FieldDeclaration) : String :=
  f.alternative.getD f.name

section

variable (k : Level) (table : ClassTable) (info : ClassInfo) (bound : Bindings)

/-- What a field makes of the arguments of a call: it checks the one with the name that it is taken
under. Without such an argument, it takes its default; without a default, it is missing. -/
def Responds (f : FieldDeclaration) (verdict : Verdict) (σ σ' : Session) : Prop :=
  match bound.lookup f.takenAs, f.default with
  | some v, _ => ∃ found,
    (Instance.checkField k table none .standard info.ref f v).run σ = (.ok found, σ') ∧
      verdict = found.at_ (.text f.takenAs)
  | none, some s => ∃ v, (k.supply s).run σ = (.ok v, σ') ∧ verdict = .exactly v
  | none, none => σ' = σ ∧ verdict = Check.missing.at_ (.text f.takenAs)

/-- What fields make of the arguments of a call in turn. -/
inductive RespondAll : List FieldDeclaration → List Verdict → Session → Session → Prop
  | nil {σ : Session} : RespondAll [] [] σ σ
  | cons {f : FieldDeclaration} {verdict : Verdict} {fields : List FieldDeclaration}
      {verdicts : List Verdict} {σ σ' σ'' : Session}
      (head : Responds k table info bound f verdict σ σ')
      (tail : RespondAll fields verdicts σ' σ'') :
      RespondAll (f :: fields) (verdict :: verdicts) σ σ''

end

namespace Instance

theorem takenUnder_standard (f : FieldDeclaration) : takenUnder .standard f = [f.takenAs] := by
  unfold takenUnder FieldDeclaration.takenAs
  cases f.alternative <;> rfl

/-- What is given for a field is the argument with the name that it is taken under. -/
theorem given?_standard {f : FieldDeclaration} (hf : f.inConstructor = true) (bound : Bindings) :
    given? .standard f (bound.map fun (k, v) => (.text k, v)) =
      (bound.lookup f.takenAs).map fun v => (f.takenAs, v) := by
  have hfind : ∀ name : String, ((bound.map fun (k, v) => (Value.text k, v)).find? fun a =>
      a.1.asText? == some name).map (·.2) = bound.lookup name := by
    intro name
    induction bound with
    | nil => rfl
    | cons a rest ih =>
      obtain ⟨k, v⟩ := a
      rw [List.map_cons, List.find?_cons, List.lookup_cons]
      have htext : ((Value.text k).asText? == some name) = (name == k) := by
        show (some k == some name) = _
        rw [Option.some_beq_some, Bool.beq_comm]
      dsimp only
      rw [htext]
      cases name == k with
      | true => rfl
      | false => exact ih
  unfold given?
  rw [hf, takenUnder_standard, ← hfind, Option.map_map]
  rw [if_neg (by decide), List.findSome?_cons, List.findSome?_nil]
  cases (bound.map fun (k, v) => (Value.text k, v)).find? fun a =>
    a.1.asText? == some f.takenAs <;> rfl

theorem placeOf_standard (f : FieldDeclaration) (taken : Option String)
    (htaken : taken = none ∨ taken = some f.takenAs) :
    placeOf .standard f taken = .text f.takenAs := by
  unfold placeOf
  rw [takenUnder_standard]
  rcases htaken with rfl | rfl <;> rfl

section

variable {k : Level} {table : ClassTable} {info : ClassInfo} {bound : Bindings}

/-- The verdict on a field in a call. -/
theorem run_checkEntry {f : FieldDeclaration} (htaken : f.inConstructor = true) {verdict : Verdict}
    {σ σ' : Session} (h : Responds k table info bound f verdict σ σ') :
    ∃ taken, (checkEntry k table none .standard info
      (bound.map fun (k, v) => (.text k, v)) f).run σ = (.ok (taken, verdict), σ') := by
  unfold checkEntry
  dsimp only
  rw [given?_standard htaken]
  unfold Responds at h
  split at h
  next v hlookup =>
    obtain ⟨found, hfound, rfl⟩ := h
    refine ⟨some f.takenAs, ?_⟩
    rw [hlookup, Option.map_some]
    dsimp only
    rw [Running.run_bind_of_ok hfound, placeOf_standard f _ (.inr rfl)]
    rfl
  next s hlookup hdefault =>
    obtain ⟨v, hv, rfl⟩ := h
    refine ⟨none, ?_⟩
    rw [hlookup, Option.map_none, hdefault]
    dsimp only
    rw [Running.run_bind_of_ok hv]
    rfl
  next hlookup hdefault =>
    obtain ⟨rfl, rfl⟩ := h
    refine ⟨none, ?_⟩
    rw [hlookup, Option.map_none, hdefault, placeOf_standard f _ (.inl rfl)]
    rfl

theorem run_mapM_checkEntry {fields : List FieldDeclaration} {verdicts : List Verdict}
    {σ σ' : Session} (h : RespondAll k table info bound fields verdicts σ σ')
    (htaken : ∀ f ∈ fields, f.inConstructor = true) :
    ∃ results, (fields.mapM (checkEntry k table none .standard info
      (bound.map fun (k, v) => (.text k, v)))).run σ = (.ok results, σ') ∧
        results.map (·.2) = verdicts := by
  induction h with
  | nil => exact ⟨[], rfl, rfl⟩
  | cons head tail ih =>
    obtain ⟨taken, hresult⟩ := run_checkEntry (htaken _ (List.mem_cons_self ..)) head
    obtain ⟨results, hresults, hverdicts⟩ := ih fun f hf => htaken f (List.mem_cons_of_mem _ hf)
    refine ⟨(taken, _) :: results, ?_, congrArg (_ :: ·) hverdicts⟩
    rw [List.mapM_cons, Running.run_bind_of_ok hresult, Running.run_bind_of_ok hresults]
    rfl

/-- The verdict on a call of a class of checked records: it is made of those on its fields. -/
theorem run_checkModelEntries (hsettings : info.settings = .standard)
    (htaken : ∀ f ∈ info.fields, f.inConstructor = true) {verdicts : List Verdict}
    {σ σ' : Session} (h : RespondAll k table info bound info.fields verdicts σ σ')
    (exactness : Exactness) (c : ClassRef) :
    ∃ verdict, (checkModelEntries k table none exactness c info
        (bound.map fun (k, v) => (.text k, v))).run σ = (.ok verdict, σ') ∧
      (Verdict.allIssues verdicts = [] → verdict.Gives
        (.record c ((info.fields.map (·.name)).zip (Verdict.values verdicts)))) ∧
      (Verdict.allIssues verdicts ≠ [] → verdict = .error (Verdict.allIssues verdicts)) := by
  obtain ⟨results, hrun, rfl⟩ := run_mapM_checkEntry h htaken
  have hfields : (info.fields.filter fun f => f.inConstructor || f.default.isSome) =
      info.fields :=
    List.filter_eq_self.mpr fun f hf => by rw [htaken f hf]; rfl
  have hmode : info.settings.inMode none = .standard := hsettings
  obtain ⟨hgives, hrejects⟩ := Verdict.whole_spec
    (fun values => .record c ((info.fields.map (·.name)).zip values)) exactness
    (results.map (·.2))
  unfold checkModelEntries
  dsimp only
  rw [hmode]
  unfold checkEntries
  dsimp only
  rw [hfields, Running.run_bind_of_ok hrun]
  by_cases hnone : Verdict.allIssues (results.map (·.2)) = []
  · obtain ⟨fit, hfit, hvalue⟩ := hgives hnone
    rw [hfit]
    exact ⟨_, rfl, fun _ => ⟨_, rfl, hvalue⟩, fun h => absurd hnone h⟩
  · rw [hrejects hnone]
    exact ⟨_, rfl, fun h => absurd h hnone, fun _ => congrArg Except.error (List.append_nil _)⟩

end

end Instance

/-! ## Classes of checked records -/

/-- A class of checked records with the standard settings that can be called: `info` is what is
known of it, with every name in its fields looked up. -/
structure ClassTable.Checks (table : ClassTable) (c : ClassRef) (info : ClassInfo) : Prop where
  form : ∃ keys, c.form = .model keys
  replaced : (table.info c).replaced = none
  unmade : (table.info c).constructor? = none
  completed : Instance.completed table (table.info c) = .ok info
  settings : info.settings = .standard
  taken : ∀ f ∈ info.fields, f.inConstructor = true
  nodup : (info.fields.map (·.name)).Nodup

/-- A field apart from its type. -/
def FieldDeclaration.untyped (f : FieldDeclaration) : FieldDeclaration :=
  { f with declaredType := none }

/-- Looking up the names in the fields of a class changes nothing but the types of these. -/
theorem completed_untyped {table : ClassTable} {info info' : ClassInfo}
    (h : Instance.completed table info = .ok info') :
    { info' with fields := info'.fields.map FieldDeclaration.untyped } =
      { info with fields := info.fields.map FieldDeclaration.untyped } := by
  have hfields : ∀ {fields : List FieldDeclaration} {scope : ClassTable},
      ∀ {l : List FieldDeclaration}, scope.lookUpFields l = .ok fields →
        fields.map FieldDeclaration.untyped = l.map FieldDeclaration.untyped := by
    intro fields scope l
    induction l generalizing fields with
    | nil =>
      intro h
      cases h
      rfl
    | cons f l ih =>
      intro h
      unfold ClassTable.lookUpFields at h ih
      rw [List.mapM_cons] at h
      obtain ⟨g, hg, h⟩ := Running.bind_eq_ok.mp h
      obtain ⟨rest, hrest, h⟩ := Running.bind_eq_ok.mp h
      cases h
      have huntyped : g.untyped = f.untyped := by
        split at hg
        · cases hg
          rfl
        · split at hg
          · cases hg
            rfl
          · cases hg
      rw [List.map_cons, List.map_cons, huntyped, ih hrest]
  unfold Instance.completed ClassTable.completed at h
  split at h
  next found hfound =>
    cases h
    split at hfound
    · cases hfound
    · cases hfound
      split
      next fields hlook => rw [hfields hlook]
      next => rfl
  next => cases h

/-- A field with its names looked up is one of the class apart from its type. -/
theorem mem_of_completed {table : ClassTable} {info info' : ClassInfo}
    (h : Instance.completed table info = .ok info') {f : FieldDeclaration} (hf : f ∈ info'.fields) :
    ∃ g ∈ info.fields, g.untyped = f.untyped := by
  have huntyped := congrArg (·.fields) (completed_untyped h)
  dsimp only at huntyped
  exact List.mem_map.mp (huntyped ▸ List.mem_map_of_mem (f := FieldDeclaration.untyped) hf)

/-- Looking up the names in the fields of a class keeps what the class is and how its fields are
called. -/
theorem completed_spec {table : ClassTable} {info info' : ClassInfo}
    (h : Instance.completed table info = .ok info') :
    info'.ref = info.ref ∧ info'.fields.map (·.name) = info.fields.map (·.name) := by
  have huntyped := completed_untyped h
  refine ⟨congrArg (·.ref) huntyped, ?_⟩
  have hnames := congrArg (fun i : ClassInfo => i.fields.map (·.name)) huntyped
  dsimp only at hnames
  rwa [List.map_map, List.map_map] at hnames

/-- What is known of a class by now is noted in the session. -/
def Session.noting (σ : Session) (info : ClassInfo) : Session :=
  { σ with classes := σ.classes.update info.ref fun _ => info }

/-- What a call comes to by the verdict on its arguments. -/
def verdictResult : Verdict → Except Failure Value
  | .ok fit => .ok fit.value
  | .error issues => .error (.invalid issues)

section

variable {k : Level} {σ σ' : Session} {c : ClassRef} {info : ClassInfo} {bound : Bindings}

/-- A call by name of a class of checked records. -/
theorem run_construct_checked (hc : σ.classes.Checks c info) (hknown : σ.classes.Knows c)
    {verdicts : List Verdict}
    (h : RespondAll k σ.classes info bound info.fields verdicts (σ.noting info) σ') :
    (Verdict.allIssues verdicts = [] → (k.above.construct (.declared c) [] bound).run σ =
      (.ok (.record c ((info.fields.map (·.name)).zip (Verdict.values verdicts))), σ')) ∧
    (Verdict.allIssues verdicts ≠ [] → (k.above.construct (.declared c) [] bound).run σ =
      (.error (.invalid (Verdict.allIssues verdicts)), σ')) := by
  obtain ⟨keys, hform⟩ := hc.form
  obtain ⟨own, hown⟩ := hknown
  have href : info.ref = c := by
    rw [(completed_spec hc.completed).1, ClassTable.info_of_known hown]
    exact (ClassTable.known?_spec hown).2.1
  obtain ⟨verdict, hverdict, hgives, hrejects⟩ :=
    Instance.run_checkModelEntries hc.settings hc.taken h .lax info.ref
  have hconstruct : k.above.construct (.declared c) [] bound =
      (do Instance.makeDeclared k (← get).classes c [] bound) := rfl
  have hlift : (Run.lift (Except.ok info : Except Fault ClassInfo)).run σ = (.ok info, σ) := rfl
  have hmade : (Instance.makeDeclared k σ.classes c [] bound).run σ =
      (verdictResult verdict, σ') := by
    unfold Instance.makeDeclared
    dsimp only
    rw [hform, hc.replaced, hc.unmade]
    unfold Instance.makeModel
    dsimp only
    rw [if_neg (by decide), hc.completed, Running.run_bind_of_ok hlift,
      Running.run_bind_of_ok (Running.run_modify _ σ)]
    show ((Instance.checkModelEntries k σ.classes none .lax info.ref info _) >>= _).run
      (σ.noting info) = _
    rw [Running.run_bind_of_ok hverdict]
    cases verdict <;> rfl
  rw [hconstruct, Running.run_bind_of_ok (Running.run_get σ), hmade]
  refine ⟨fun hnone => ?_, fun hsome => ?_⟩
  · obtain ⟨fit, rfl, hvalue⟩ := hgives hnone
    rw [verdictResult, hvalue, href]
  · rw [hrejects hsome]
    rfl

/-- The fields of a class of checked records are its own, in order, and it is called by their
names. -/
theorem introspect_checked {table : ClassTable} {schema : Schema}
    (hschema : introspect table (.declared c) = .ok schema) (hc : table.Checks c info) :
    schema.target = .declared c ∧ schema.addressing = .byName ∧
      schema.fields.map (·.name) = (info.fields.map (·.name)).map some := by
  obtain ⟨own, hown⟩ := introspect_known hschema
  obtain ⟨keys, hform⟩ := hc.form
  have href : own.ref = c := (ClassTable.known?_spec hown).2.1
  have hfields : info.fields.map (·.name) = own.fields.map (·.name) := by
    rw [(completed_spec hc.completed).2, ClassTable.info_of_known hown]
  have hschemaOf : table.schemaOf? c = some own := by
    unfold ClassTable.schemaOf? ClassTable.lineage
    rw [hown]
    dsimp only
    rw [List.find?_cons_of_pos (by rw [href, hform]; rfl)]
  obtain ⟨htarget, ⟨halias, -, -⟩ | ⟨b, hb, -⟩ | ⟨d, hd, hdeclared⟩⟩ := introspect_ok hschema
  · cases halias
  · cases hb
  · cases hd
    have hnames : table.fieldNames c = info.fields.map (·.name) := by
      unfold ClassTable.fieldNames
      rw [hschemaOf]
      dsimp only
      unfold ClassInfo.ownNames
      rw [href, hform, hfields]
    unfold declaredFields at hdeclared
    rw [hschemaOf] at hdeclared
    dsimp only at hdeclared
    rw [href, hform] at hdeclared
    refine ⟨htarget, (Prod.mk.inj (Except.ok.inj hdeclared)).1.symm, ?_⟩
    rw [(introspect_ordered hschema).names, ← hnames]
    rfl

/-- As many values as computations in turn that succeed. -/
theorem length_of_run_mapM {α β : Type} {f : α → Run β} :
    ∀ {l : List α} {bs : List β} {σ σ' : Session}, (l.mapM f).run σ = (.ok bs, σ') →
      bs.length = l.length := by
  intro l
  induction l with
  | nil =>
    intro bs σ σ' h
    cases h
    rfl
  | cons a l ih =>
    intro bs σ σ' h
    obtain ⟨b, rest, τ, -, hrest, rfl⟩ := Running.run_mapM_cons_eq_ok.mp h
    exact congrArg Nat.succ (ih hrest)

/-- A field accepts a value as it is. -/
def Accepts (k : Level) (table : ClassTable) (info : ClassInfo) (σ : Session)
    (f : FieldDeclaration) (v : Value) : Prop :=
  ∃ fit : Fit,
    (Instance.checkField k table none .standard info.ref f v).run σ = (.ok (.ok fit), σ) ∧
      fit.value = v

/-- Fields that are taken under their own names and accept their own values hold these. -/
theorem respondAll_of_ownNames {table : ClassTable} {fields : List FieldDeclaration}
    {values : List Value} (hlength : values.length = fields.length)
    (hnodup : (fields.map (·.name)).Nodup) (hown : ∀ f ∈ fields, f.takenAs = f.name)
    (haccepts : ∀ a ∈ fields.zip values, Accepts k table info σ a.1 a.2) :
    ∃ verdicts, RespondAll k table info ((fields.map (·.name)).zip values) fields verdicts σ σ ∧
      List.Forall₂ Verdict.Gives verdicts values := by
  -- Every field finds its own value among those of all fields.
  have hall : ∀ (l : List FieldDeclaration) (vs : List Value) (bound : Bindings),
      vs.length = l.length → (∀ f ∈ l, f.takenAs = f.name) →
      (∀ a ∈ l.zip vs, bound.lookup a.1.name = some a.2) →
      (∀ a ∈ l.zip vs, Accepts k table info σ a.1 a.2) →
      ∃ verdicts, RespondAll k table info bound l verdicts σ σ ∧
        List.Forall₂ Verdict.Gives verdicts vs := by
    intro l
    induction l with
    | nil =>
      intro vs _ hvs _ _ _
      obtain rfl := List.eq_nil_of_length_eq_zero hvs
      exact ⟨[], .nil, .nil⟩
    | cons f l ih =>
      intro vs bound hvs hown hfound haccepts
      obtain ⟨v, vs, rfl⟩ := List.exists_cons_of_length_eq_add_one hvs
      rw [List.zip_cons_cons] at hfound haccepts
      obtain ⟨verdicts, hresponds, hgives⟩ := ih vs bound (Nat.succ.inj hvs)
        (fun g hg => hown g (List.mem_cons_of_mem _ hg))
        (fun a ha => hfound a (List.mem_cons_of_mem _ ha))
        (fun a ha => haccepts a (List.mem_cons_of_mem _ ha))
      obtain ⟨fit, hfit, hv⟩ := haccepts (f, v) (List.mem_cons_self ..)
      have hlookup : bound.lookup f.takenAs = some v := by
        rw [hown f (List.mem_cons_self ..)]
        exact hfound (f, v) (List.mem_cons_self ..)
      refine ⟨.ok fit :: verdicts, .cons ?_ hresponds, .cons ⟨fit, rfl, hv⟩ hgives⟩
      unfold Responds
      rw [hlookup]
      exact ⟨.ok fit, hfit, rfl⟩
  refine hall fields values _ hlength hown (fun a ha => lookup_of_mem ?_ ?_) haccepts
  · rwa [List.map_fst_zip (Nat.le_of_eq (by rw [List.length_map, hlength]))]
  · rw [List.zip_map_left]
    exact List.mem_map_of_mem (f := Prod.map (·.name) id) ha

theorem length_of_respondAll {table : ClassTable} {fields : List FieldDeclaration}
    {verdicts : List Verdict} (h : RespondAll k table info bound fields verdicts σ σ') :
    verdicts.length = fields.length := by
  induction h with
  | nil => rfl
  | cons _ _ ih => exact congrArg Nat.succ ih

/-! ### Rows -/

section

variable {σ₁ σ₂ : Session} {schema : Schema} {p : DecodePlan} {row cells : Value}
  {values : List Value}

/-- The steps of a plan for the fields of a class of checked records give as many values as it has
fields. -/
theorem length_of_steps (hschema : introspect σ₂.classes (.declared c) = .ok schema)
    (hp : p.Covers schema) (hc : σ₂.classes.Checks c info)
    (hsteps : (p.steps.mapM fun s => runStep k.above s cells).run σ₁ = (.ok values, σ₂)) :
    values.length = info.fields.length := by
  have hcount := congrArg List.length (hp.names.trans (introspect_checked hschema hc).2.2)
  rw [List.length_map, List.length_map, List.length_map] at hcount
  rw [length_of_run_mapM hsteps, hcount]

/-- A row becomes what the class makes of the values of the steps, by the names of its fields. -/
theorem run_execute_checked (hschema : introspect σ₂.classes (.declared c) = .ok schema)
    (hp : p.Covers schema) (hc : σ₂.classes.Checks c info)
    (hrow : (Cell.rowOf row).run σ = (.ok cells, σ₁))
    (hsteps : (p.steps.mapM fun s => runStep k.above s cells).run σ₁ = (.ok values, σ₂)) :
    (execute k.above p row).run σ =
      ((k.above.construct (.declared c) [] ((info.fields.map (·.name)).zip values)).mapFailure
        (constructionFailure (.declared c))).run σ₂ := by
  obtain ⟨htarget, haddressing, hfields⟩ := introspect_checked hschema hc
  have hnames : p.steps.map (·.fieldName) = (info.fields.map (·.name)).map some :=
    hp.names.trans hfields
  have hlength := length_of_steps hschema hp hc hsteps
  have harguments : p.arguments values = ([], (info.fields.map (·.name)).zip values) := by
    unfold Plan.arguments
    rw [hp.addressing, haddressing]
    dsimp only
    rw [keywordsOf_eq_zip hnames hc.nodup (by rw [List.length_map, hlength])]
  unfold execute executeOn
  rw [Running.run_bind_of_ok hrow, Running.run_bind_of_ok hsteps,
    makeTarget_call (hp.target.trans htarget) hnames, harguments]

/-- A row becomes the record of what the fields have accepted, or a mismatch with their issues. -/
theorem execute_of_respondAll (hschema : introspect σ₂.classes (.declared c) = .ok schema)
    (hp : p.Covers schema) (hc : σ₂.classes.Checks c info)
    (hrow : (Cell.rowOf row).run σ = (.ok cells, σ₁))
    (hsteps : (p.steps.mapM fun s => runStep k.above s cells).run σ₁ = (.ok values, σ₂))
    {verdicts : List Verdict} {σ₃ : Session}
    (h : RespondAll k σ₂.classes info ((info.fields.map (·.name)).zip values) info.fields verdicts
      (σ₂.noting info) σ₃) :
    (Verdict.allIssues verdicts = [] → (execute k.above p row).run σ =
      (.ok (.record c ((info.fields.map (·.name)).zip (Verdict.values verdicts))), σ₃)) ∧
    (Verdict.allIssues verdicts ≠ [] → (execute k.above p row).run σ =
      (.error (constructionFailure (.declared c) (.invalid (Verdict.allIssues verdicts))),
        σ₃)) := by
  obtain ⟨hmakes, hrefuses⟩ := run_construct_checked hc (introspect_known hschema) h
  rw [run_execute_checked hschema hp hc hrow hsteps, Run.mapFailure, Running.run_tryCatch]
  exact ⟨fun hnone => by rw [hmakes hnone], fun hsome => by rw [hrefuses hsome]; rfl⟩

end

/-- **Checked records hold what their fields accept.** Take a plan for the fields of a class of
checked records, any row, and the values that the steps of the plan give. The row becomes the record
of what the fields have accepted, or a mismatch with all their issues. The record holds the values
of the steps just if every field has accepted its own one. If no field has an alternative name and
each would accept its own value, it does. -/
theorem execute_checked {σ₁ σ₂ : Session} {schema : Schema} {p : DecodePlan} {row cells : Value}
    {values : List Value} (hschema : introspect σ₂.classes (.declared c) = .ok schema)
    (hp : p.Covers schema) (hc : σ₂.classes.Checks c info)
    (hrow : (Cell.rowOf row).run σ = (.ok cells, σ₁))
    (hsteps : (p.steps.mapM fun s => runStep k.above s cells).run σ₁ = (.ok values, σ₂)) :
    (∀ verdicts σ₃,
      RespondAll k σ₂.classes info ((info.fields.map (·.name)).zip values) info.fields verdicts
        (σ₂.noting info) σ₃ →
      (Verdict.allIssues verdicts = [] → (execute k.above p row).run σ =
        (.ok (.record c ((info.fields.map (·.name)).zip (Verdict.values verdicts))), σ₃)) ∧
      (Verdict.allIssues verdicts ≠ [] → (execute k.above p row).run σ =
        (.error (constructionFailure (.declared c) (.invalid (Verdict.allIssues verdicts))), σ₃)) ∧
      ((∃ σ', (execute k.above p row).run σ =
          (.ok (.record c ((info.fields.map (·.name)).zip values)), σ')) ↔
        List.Forall₂ Verdict.Gives verdicts values)) ∧
    ((∀ f ∈ info.fields, f.takenAs = f.name) →
      (∀ a ∈ info.fields.zip values, Accepts k σ₂.classes info (σ₂.noting info) a.1 a.2) →
      (execute k.above p row).run σ =
        (.ok (.record c ((info.fields.map (·.name)).zip values)), σ₂.noting info)) := by
  have hlength := length_of_steps hschema hp hc hsteps
  refine ⟨fun verdicts σ₃ h => ?_, fun hown haccepts => ?_⟩
  · obtain ⟨hmakes, hrefuses⟩ := execute_of_respondAll hschema hp hc hrow hsteps h
    have hcount := length_of_respondAll h
    refine ⟨hmakes, hrefuses, ?_⟩
    rw [Verdict.gives_iff (hlength.trans hcount.symm)]
    by_cases hnone : Verdict.allIssues verdicts = []
    · have hsecond : ∀ l : List Value, l.length ≤ info.fields.length →
          ((info.fields.map (·.name)).zip l).map (·.2) = l := fun l hl =>
        List.map_snd_zip (by rwa [List.length_map])
      rw [hmakes hnone]
      constructor
      · rintro ⟨σ', heq⟩
        have hzip := (Value.record.inj (Except.ok.inj (Prod.mk.inj heq).1)).2
        have hvalues := congrArg (List.map (·.2)) hzip
        rw [hsecond _ (Nat.le_of_eq hlength),
          hsecond _ (Nat.le_trans (Verdict.length_values_le _) (Nat.le_of_eq hcount))] at hvalues
        exact ⟨hnone, hvalues⟩
      · rintro ⟨-, rfl⟩
        exact ⟨σ₃, rfl⟩
    · rw [hrefuses hnone]
      refine ⟨?_, fun h => absurd h.1 hnone⟩
      rintro ⟨σ', heq⟩
      cases heq
  · obtain ⟨verdicts, h, hgives⟩ := respondAll_of_ownNames hlength hc.nodup hown haccepts
    have hcount := length_of_respondAll h
    obtain ⟨hnone, hvalues⟩ := (Verdict.gives_iff (hlength.trans hcount.symm)).mp hgives
    rw [(execute_of_respondAll hschema hp hc hrow hsteps h).1 hnone, hvalues]

end

/-! ## A field with an alternative name and a default -/

namespace AlternativeName

/-- A class of checked records. -/
def user : ClassRef := ⟨"User", 1, .model .none⟩

/-- The fields of `user`: a number with a default, which may have an alternative name, and a text.
-/
def fields (alternative : Option String) : List FieldDeclaration :=
  [{ FieldDeclaration.given "user_id" (.builtin .int) with
      alternative, default := some (.constant (.int 0)) },
    .given "name" (.builtin .str)]

def session (alternative : Option String) : Session :=
  ((Derive.declare ⟨.model, "User", none, fields alternative, none, [], [], .standard, [], "self"⟩
    none).run (Session.create [])).2

/-- Compiles `user` in a new registry. -/
def compile (alternative : Option String) : Except Failure DecodePlan × Registry :=
  (Compile.buildWith (Compile.answers (session alternative).classes) (session alternative).classes
    (.declared user) Overrides.none).run (Registry.create "main" .standard)

/-- The plan for the fields of `user`. -/
def plan : DecodePlan where
  target := .declared user
  addressing := .byName
  steps :=
    [⟨some "user_id", 0, .builtin .int, .builtin .int, none, none,
        .byName (.text "user_id") (some (.decode .int))⟩,
      ⟨some "name", 1, .builtin .str, .builtin .str, none, none,
        .byName (.text "name") (some (.decode .str))⟩]
  requirements :=
    [⟨.decode, [.builtin .int]⟩, ⟨.typeCompatible, [.builtin .int]⟩,
      ⟨.decode, [.builtin .str]⟩, ⟨.typeCompatible, [.builtin .str]⟩]
  registry := "main"
  serial := 1

def row : Value :=
  .row .mapping [.text "user_id", .text "name"] [.int 7, .text "Zed"]

/-- The steps give what the row holds. -/
theorem run_steps (l : Level) (σ : Session) :
    (plan.steps.mapM fun s => runStep l s row).run σ = (.ok [.int 7, .text "Zed"], σ) :=
  rfl

/-- The number has an alternative name. The steps give seven and a text, and the record holds zero
and that text. -/
theorem value_replaced :
    (compile (some "userId")).1 = .ok plan ∧
    ((plan.steps.mapM fun s => runStep Level.top s row).run (session (some "userId"))).1 =
      .ok [.int 7, .text "Zed"] ∧
    ((execute Level.top plan row).run (session (some "userId"))).1 =
      .ok (.record user [("user_id", .int 0), ("name", .text "Zed")]) := by
  refine ⟨?_, congrArg Prod.fst (run_steps _ _), ?_⟩
  · with_unfolding_all rfl
  · with_unfolding_all rfl

theorem info_user : ((session none).classes.info user).fields = fields none := by
  with_unfolding_all rfl

/-- Without an alternative name, the record holds seven. -/
theorem execute_checked_user :
    ((execute Level.top plan row).run (session none)).1 =
      .ok (.record user [("user_id", .int 7), ("name", .text "Zed")]) := by
  have hcompiled : (compile none).1 = .ok plan := by with_unfolding_all rfl
  have hadapted : (Cell.rowOf row).run (session none) = (.ok row, session none) := by
    with_unfolding_all rfl
  have hchecks : (session none).classes.Checks user ((session none).classes.info user) := by
    refine ⟨⟨_, rfl⟩, ?_, ?_, ?_, ?_, ?_, ?_⟩
    · with_unfolding_all rfl
    · with_unfolding_all rfl
    · with_unfolding_all rfl
    · with_unfolding_all rfl
    · rw [info_user]
      decide
    · rw [info_user]
      decide
  rcases hrun : compile none with ⟨e, r'⟩
  rw [hrun] at hcompiled
  obtain rfl : e = .ok plan := hcompiled
  obtain ⟨schema, _, hschema, -⟩ := Compile.buildWith_ok (buildWith_possible hrun)
  have hexecuted := (execute_checked (k := Level.ofDepth 999) hschema (covers_of_build hrun hschema)
    hchecks hadapted (run_steps _ _)).2
  rw [info_user] at hexecuted
  refine congrArg Prod.fst (hexecuted ?_ ?_)
  · decide
  · intro a ha
    rcases List.mem_cons.mp ha with rfl | ha
    · exact ⟨_, rfl, rfl⟩
    · obtain rfl := List.mem_singleton.mp ha
      exact ⟨_, rfl, rfl⟩

end AlternativeName

end RowDecoding
