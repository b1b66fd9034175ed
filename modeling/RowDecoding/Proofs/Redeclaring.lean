import RowDecoding.Proofs.Binding
import RowDecoding.Proofs.Indifference

/-!
# Records with their fields in another order

A constructor that was made for fields takes them by name, so it binds the same arguments in any
order (`Constructor.IsGenerated.bind_iff`). Two classes that declare the same fields in two orders
(`ClassInfo.Reorders`) are followed from there through everything that comes of their declarations:
the annotations and the schema are read field by field, the instances hold the same under every name
(`construct_alike`), and the plans have the same steps at other places.

What a step makes of a row is taken from `Indifferent` computations here: the steps run in another
order, so none may take notice of what another one does.

> `record_reordered`: the plans of the two classes make the same of every row.
-/

namespace RowDecoding

/-! ## Constructors that take their fields by name -/

theorem Call.named_of_placeKeywords {title : String} {parameters : List Parameter}
    {given keywords bound left bound' left' : Bindings}
    (h : placeKeywords title parameters false given keywords (bound, left) = .ok (bound', left')) :
    ∀ a ∈ keywords, (parameters.any fun p => p.isNamed && p.name == a.1) = true := by
  induction keywords generalizing bound left with
  | nil => exact fun a ha => absurd ha List.not_mem_nil
  | cons a rest ih =>
    obtain ⟨name, v⟩ := a
    rw [placeKeywords] at h
    split at h
    next hnamed =>
      split at h
      · cases h
      · exact List.forall_mem_cons.mpr ⟨hnamed, ih h⟩
    next =>
      rw [if_neg Bool.false_ne_true] at h
      dsimp only at h
      split at h <;> cases h

/-- A constructor that was made for fields: it takes each of them by name and holds what it is
given. -/
structure Constructor.IsGenerated (maker : Constructor) : Prop where
  making : maker.making = .fields
  kinds : ∀ f ∈ maker.taken, f.kind = .ordinary ∨ f.kind = .keywordOnly
  nodup : (maker.receiver :: maker.parameters.map (·.name)).Nodup

/-- Fields of these names are all taken, and none that has to be given is missing. -/
structure Constructor.Accepts (maker : Constructor) (names : List String) : Prop where
  taken : ∀ name ∈ names, ∃ f ∈ maker.taken, f.name = name
  given : ∀ f ∈ maker.taken, f.default = none → f.name ∈ names

namespace Constructor

variable {maker maker' : Constructor} {names names' : List String} {keywords : Bindings}

theorem Accepts.perm (h : maker.Accepts names) (hmaker : maker'.parameters.Perm maker.parameters)
    (hnames : names'.Perm names) : maker'.Accepts names' := by
  have hmem : ∀ f, f ∈ maker'.taken ↔ f ∈ maker.taken := fun f => (hmaker.filter _).mem_iff
  refine ⟨fun name hname => ?_, fun f hf hdefault => ?_⟩
  · obtain ⟨f, hf, hsame⟩ := h.taken name (hnames.mem_iff.mp hname)
    exact ⟨f, (hmem f).mpr hf, hsame⟩
  · exact hnames.mem_iff.mpr (h.given f ((hmem f).mp hf) hdefault)

theorem IsGenerated.isNamed (hmaker : maker.IsGenerated) {p : Parameter}
    (hp : p ∈ maker.signature) : p.isNamed = true ∧ p.kind.isSpread = false := by
  obtain ⟨f, hf, rfl⟩ := mem_signature.mp hp
  unfold Parameter.isNamed
  dsimp only
  rcases hmaker.kinds f hf with hkind | hkind <;> rw [hkind] <;> exact ⟨rfl, rfl⟩

theorem IsGenerated.receiver_ne (hmaker : maker.IsGenerated) {f : FieldDeclaration}
    (hf : f ∈ maker.parameters) : f.name ≠ maker.receiver := fun h =>
  (List.nodup_cons.mp hmaker.nodup).1 (h ▸ List.mem_map_of_mem hf)

/-- What is placed of a call by different names that all belong to parameters. -/
theorem IsGenerated.placed (hmaker : maker.IsGenerated) (hnodup : (keywords.map (·.1)).Nodup)
    (htaken : ∀ a ∈ keywords, ∃ f ∈ maker.taken, f.name = a.1) (title : String) :
    Call.placeKeywords title (withReceiver maker.receiver maker.signature) false keywords keywords
      ([(maker.receiver, .none)], []) = .ok ((maker.receiver, .none) :: keywords, []) := by
  show _ = Except.ok ([(maker.receiver, Value.none)] ++ keywords, [])
  refine placeKeywords_named (fun a ha => ?_) ?_
  · obtain ⟨f, hf, hname⟩ := htaken a ha
    have hp := mem_signature.mpr ⟨f, hf, rfl⟩
    refine List.any_eq_true.mpr ⟨_, List.mem_cons_of_mem _ hp, ?_⟩
    rw [(hmaker.isNamed hp).1, Bool.true_and, beq_iff_eq]
    exact hname
  · refine List.nodup_cons.mpr ⟨fun hmem => ?_, hnodup⟩
    obtain ⟨a, ha, hreceiver⟩ := List.mem_map.mp hmem
    obtain ⟨f, hf, hname⟩ := htaken a ha
    exact hmaker.receiver_ne (List.mem_of_mem_filter hf) (hname.trans hreceiver)

/-- Whether a parameter has been given something. -/
theorem any_bound_iff {receiver name : String} :
    (((receiver, Value.none) :: keywords).any fun b => b.1 == name) = true ↔
      name = receiver ∨ name ∈ keywords.map (·.1) := by
  rw [List.any_cons, Bool.or_eq_true, beq_iff_eq, List.any_eq_true, List.mem_map]
  simp only [beq_iff_eq]
  rw [eq_comm]

/-- **Calls by name.** A call of such a constructor by different names binds just if it accepts the
names, and what is given is bound. -/
theorem IsGenerated.bind_iff (hmaker : maker.IsGenerated) (hnodup : (keywords.map (·.1)).Nodup)
    {title : String} {bound : Bindings} :
    Instance.bindInstance title maker [] keywords = .ok bound ↔
      maker.Accepts (keywords.map (·.1)) ∧ bound = (maker.receiver, .none) :: keywords := by
  have hspread : ∀ kind : ParameterKind, kind.isSpread = true →
      (withReceiver maker.receiver maker.signature).find? (·.kind == kind) = none := by
    intro kind hkind
    rw [List.find?_eq_none]
    intro p hp hsame
    rw [← eq_of_beq hsame] at hkind
    rcases List.mem_cons.mp hp with rfl | hp
    · cases hkind
    · rw [(hmaker.isNamed hp).2] at hkind
      cases hkind
  have hplaced : Call.placed (withReceiver maker.receiver maker.signature) [.none] =
      [(maker.receiver, .none)] := by
    rw [placed_withReceiver, List.zip_nil_right]
  have hsurplus : Call.surplus (withReceiver maker.receiver maker.signature) [.none] = [] := by
    rw [surplus_withReceiver, Call.surplus, List.drop_nil]
  have hleftover : ∀ left,
      Call.leftover (withReceiver maker.receiver maker.signature) [.none] left = [] := by
    intro left
    rw [Call.leftover, hspread .spread rfl, hspread .keywordSpread rfl]
    rfl
  unfold Instance.bindInstance
  rw [Call.bind_eq_ok_iff, hspread .keywordSpread rfl, hplaced]
  simp only [Option.isSome_none, hleftover, List.append_nil]
  constructor
  · rintro ⟨bound, left, hkeywords, -, hrequired, rfl⟩
    have hnamed := Call.named_of_placeKeywords hkeywords
    have htaken : ∀ a ∈ keywords, ∃ f ∈ maker.taken, f.name = a.1 := by
      intro a ha
      obtain ⟨p, hp, hname⟩ := List.any_eq_true.mp (hnamed a ha)
      rw [Bool.and_eq_true, beq_iff_eq] at hname
      rcases List.mem_cons.mp hp with rfl | hp
      · exact absurd hname.2 ((Call.placeKeywords_ok hkeywords).2 a ha (hnamed a ha) _
          (List.mem_singleton_self _))
      · obtain ⟨f, hf, rfl⟩ := mem_signature.mp hp
        exact ⟨f, hf, hname.2⟩
    rw [hmaker.placed hnodup htaken] at hkeywords
    cases hkeywords
    refine ⟨⟨fun name hname => ?_, fun f hf hdefault => ?_⟩, rfl⟩
    · obtain ⟨a, ha, rfl⟩ := List.mem_map.mp hname
      exact htaken a ha
    · have hp := mem_signature.mpr ⟨f, hf, rfl⟩
      have hgiven := any_bound_iff.mp (hrequired _ (List.mem_cons_of_mem _ hp) (by
        rw [hdefault]
        rcases hmaker.kinds f hf with hkind | hkind <;> rw [hkind] <;> rfl) (hmaker.isNamed hp).2)
      exact hgiven.resolve_left (hmaker.receiver_ne (List.mem_of_mem_filter hf))
  · rintro ⟨haccepts, rfl⟩
    have htaken : ∀ a ∈ keywords, ∃ f ∈ maker.taken, f.name = a.1 :=
      fun a ha => haccepts.taken a.1 (List.mem_map_of_mem ha)
    refine ⟨_, _, hmaker.placed hnodup htaken title, Or.inl hsurplus, fun p hp hrequired _ =>
      any_bound_iff.mpr ?_, rfl⟩
    rcases List.mem_cons.mp hp with rfl | hp
    · exact Or.inl rfl
    · obtain ⟨f, hf, rfl⟩ := mem_signature.mp hp
      refine Or.inr (haccepts.given f hf ?_)
      rw [Bool.and_eq_true, Bool.and_eq_true] at hrequired
      exact Option.isNone_iff_eq_none.mp hrequired.1.1

end Constructor

/-! ## Classes of records -/

/-- A class of records without a hook for new instances, whose constructor was made for fields, if it
has one. -/
structure ClassTable.Records (table : ClassTable) (c : ClassRef) (info : ClassInfo) : Prop where
  known : table.known? c = some info
  form : ∃ keys, c.form = .dataclass keys
  nodup : (info.fields.map (·.name)).Nodup
  generated : ∀ maker, info.constructor? = some maker → maker.IsGenerated
  silent : ∀ h, table.attribute? c "post_init" ≠ some (.hook h)

/-- A class that declares the fields of another one in another order. -/
structure ClassInfo.Reorders (info info' : ClassInfo) : Prop where
  fields : info'.fields.Perm info.fields
  annotations : info'.annotations.Perm info.annotations
  hints : ∀ name, info'.annotations.reverse.lookup name = info.annotations.reverse.lookup name
  made : ∀ maker, info.constructor? = some maker →
    ∃ maker', info'.constructor? = some maker' ∧ maker'.parameters.Perm maker.parameters
  unmade : info.constructor? = none → info'.constructor? = none
  replaced : info'.replaced = info.replaced

section

variable {table : ClassTable} {annotations annotations' resolved : List (String × TypeExpr)}
  {name : String}

theorem mapM_eq_ok_iff {ε α β : Type} {k : α → Except ε β} {l : List α} {bs : List β} :
    l.mapM k = .ok bs ↔ List.Forall₂ (fun a b => k a = .ok b) l bs := by
  induction l generalizing bs with
  | nil =>
    rw [List.mapM_nil, List.forall₂_nil_left_iff]
    exact ⟨fun h => (Except.ok.inj h).symm, fun h => h ▸ rfl⟩
  | cons a l ih =>
    rw [List.mapM_cons, Running.bind_eq_ok]
    constructor
    · rintro ⟨b, hb, h⟩
      obtain ⟨bs', hbs', h⟩ := Running.bind_eq_ok.mp h
      cases h
      exact .cons hb (ih.mp hbs')
    · rintro (_ | ⟨hb, hbs⟩)
      exact ⟨_, hb, Running.bind_eq_ok.mpr ⟨_, ih.mpr hbs, rfl⟩⟩

/-- Annotations are resolved each by itself, in reverse. -/
theorem resolveAnnotations_eq_ok_iff :
    resolveAnnotations table name annotations = .ok resolved ↔
      List.Forall₂ (fun a b => b.1 = a.1 ∧ table.lookUp a.2.ofNone = .ok b.2) annotations
        resolved.reverse := by
  have hone : ∀ (a b : String × TypeExpr),
      (table.lookUp a.2.ofNone).map (fun r => (a.1, r)) = .ok b ↔
        b.1 = a.1 ∧ table.lookUp a.2.ofNone = .ok b.2 := by
    intro a b
    cases table.lookUp a.2.ofNone with
    | error f => exact iff_of_false nofun fun h => nomatch h.2
    | ok r =>
      show Except.ok (a.1, r) = .ok b ↔ _
      rw [Except.ok.injEq, Except.ok.injEq, Prod.ext_iff, eq_comm (a := b.1)]
  have hall : annotations.mapM (fun a => (table.lookUp a.2.ofNone).map fun r => (a.1, r)) =
      .ok resolved.reverse ↔ _ := mapM_eq_ok_iff
  simp only [hone] at hall
  rw [← hall]
  unfold resolveAnnotations
  split
  next found hfound =>
    rw [show annotations.mapM _ = .ok found from hfound, Except.ok.injEq, Except.ok.injEq,
      List.reverse_eq_iff]
  next f hf =>
    rw [show annotations.mapM _ = .error f from hf]
    exact iff_of_false nofun nofun

/-- The annotation that counts is the last one. -/
theorem lookup_resolveAnnotations (h : resolveAnnotations table name annotations = .ok resolved)
    (field : String) : resolved.lookup field =
      (annotations.reverse.lookup field).bind fun t => (table.lookUp t.ofNone).toOption := by
  have hall := List.rel_reverse (resolveAnnotations_eq_ok_iff.mp h)
  rw [List.reverse_reverse] at hall
  clear h
  generalize annotations.reverse = said at hall
  induction hall with
  | nil => rfl
  | @cons a b _ _ hab _ ih =>
    obtain ⟨hname, htype⟩ := hab
    rw [List.lookup_cons, List.lookup_cons, hname]
    cases field == a.1 with
    | true =>
      show some b.2 = (table.lookUp a.2.ofNone).toOption
      rw [htype]
      rfl
    | false => exact ih

theorem resolveAnnotations_perm (h : resolveAnnotations table name annotations = .ok resolved)
    (hperm : annotations'.Perm annotations) (name' : String) :
    ∃ resolved', resolveAnnotations table name' annotations' = .ok resolved' := by
  have hall : ∀ a ∈ annotations', ∃ b : String × TypeExpr,
      b.1 = a.1 ∧ table.lookUp a.2.ofNone = .ok b.2 := by
    intro a ha
    obtain ⟨b, -, hb⟩ :=
      Forall₂.exists_right (resolveAnnotations_eq_ok_iff.mp h) (hperm.mem_iff.mp ha)
    exact ⟨b, hb⟩
  choose! found hfound using hall
  refine ⟨(annotations'.map found).reverse, resolveAnnotations_eq_ok_iff.mpr ?_⟩
  rw [List.reverse_reverse, List.forall₂_map_right_iff, List.forall₂_same]
  exact hfound

/-! ## Schemas of records -/

/-- The field of a schema that a declared field is, without its place. -/
def fieldOf (resolved : List (String × TypeExpr)) (f : FieldDeclaration) : FieldSchema :=
  ⟨some f.name, (typeAndMarks resolved f.name).1, 0,
    f.metadata.merge (typeAndMarks resolved f.name).2, f.default⟩

theorem numbered_unplaced (fields : List (String × TypeExpr × Attributes × Option Supply)) :
    (numbered fields).map (·.placed 0) =
      fields.map fun e => ⟨some e.1, e.2.1, 0, e.2.2.1, e.2.2.2⟩ := by
  rw [numbered, List.map_map]
  conv_rhs => rw [← List.zipIdx_map_fst 0 fields, List.map_map]
  rfl

/-- The fields of a record are those that its constructor takes, each with the last annotation of
its name. -/
theorem recordFields_eq_ok {info : ClassInfo} {fields : List FieldSchema}
    (h : recordFields table name info = .ok fields) :
    ∃ resolved, resolveAnnotations table name info.annotations = .ok resolved ∧
      fields.map (·.placed 0) =
        (info.fields.filter (·.inConstructor)).map (fieldOf resolved) := by
  unfold recordFields at h
  obtain ⟨resolved, hresolved, h⟩ := Running.bind_eq_ok.mp h
  cases h
  refine ⟨resolved, hresolved, ?_⟩
  rw [numbered_unplaced, List.map_map]
  rfl

/-- The fields of a class and those of one that declares them in another order are read alike. -/
theorem recordFields_reorders {info info' : ClassInfo} (hsame : info.Reorders info')
    {fields : List FieldSchema} (h : recordFields table name info = .ok fields) (name' : String) :
    ∃ (resolved : List (String × TypeExpr)) (fields' : List FieldSchema),
      recordFields table name' info' = .ok fields' ∧
      fields.map (·.placed 0) = (info.fields.filter (·.inConstructor)).map (fieldOf resolved) ∧
      fields'.map (·.placed 0) = (info'.fields.filter (·.inConstructor)).map (fieldOf resolved) := by
  obtain ⟨resolved, hresolved, hfields⟩ := recordFields_eq_ok h
  obtain ⟨resolved', hresolved'⟩ := resolveAnnotations_perm hresolved hsame.annotations name'
  have hlookup : ∀ field, resolved'.lookup field = resolved.lookup field := by
    intro field
    rw [lookup_resolveAnnotations hresolved, lookup_resolveAnnotations hresolved', hsame.hints]
  have hfieldOf : fieldOf resolved' = fieldOf resolved := by
    funext f
    unfold fieldOf typeAndMarks
    rw [hlookup]
  obtain ⟨fields', h'⟩ : ∃ fields', recordFields table name' info' = .ok fields' := by
    unfold recordFields
    rw [hresolved']
    exact ⟨_, rfl⟩
  obtain ⟨resolved'', hresolved'', hfields'⟩ := recordFields_eq_ok h'
  obtain rfl : resolved' = resolved'' := Except.ok.inj (hresolved'.symm.trans hresolved'')
  exact ⟨resolved, fields', h', hfields, hfieldOf ▸ hfields'⟩

namespace ClassTable.Records

variable {c : ClassRef} {info : ClassInfo}

theorem ref (hc : table.Records c info) : info.ref = c :=
  (known?_spec hc.known).2.1

theorem schema (hc : table.Records c info) : table.schemaOf? c = some info := by
  obtain ⟨keys, hform⟩ := hc.form
  unfold schemaOf? lineage
  rw [hc.known]
  dsimp only
  rw [List.find?_cons_of_pos]
  rw [hc.ref, hform]
  rfl

theorem not_isEnumeration (hc : table.Records c info) : c.form.isEnumeration = false := by
  obtain ⟨keys, hform⟩ := hc.form
  rw [hform]
  rfl

/-- The schema of a record. -/
theorem introspect_iff (hc : table.Records c info) {schema : Schema} :
    introspect table (.declared c) = .ok schema ↔
      ∃ container fields, containerOf table c = .ok container ∧
        recordFields table c.name info = .ok fields ∧ fields ≠ [] ∧
        schema = ⟨.declared c, .byName, fields, container⟩ := by
  have hwritable : (TypeExpr.declared c).isUnwritable = false :=
    TypeExpr.isUnwritable_of_isClass rfl
  have hdeclared : declaredFields table c =
      (recordFields table c.name info >>= fun fields => pure (.byName, fields)) := by
    obtain ⟨keys, hform⟩ := hc.form
    unfold declaredFields
    rw [hc.schema]
    dsimp only
    rw [hc.ref, hform]
  unfold introspect
  rw [hwritable, if_neg Bool.false_ne_true, if_neg (by exact Bool.false_ne_true)]
  dsimp only
  rw [hc.not_isEnumeration, if_neg Bool.false_ne_true, hdeclared, Running.bind_eq_ok]
  constructor
  · rintro ⟨container, hcontainer, h⟩
    obtain ⟨_, hread, h⟩ := Running.bind_eq_ok.mp h
    obtain ⟨fields, hfields, hread⟩ := Running.bind_eq_ok.mp hread
    cases hread
    obtain ⟨hne, rfl⟩ := nonEmpty_eq_ok_iff.mp h
    exact ⟨container, fields, hcontainer, hfields, hne, rfl⟩
  · rintro ⟨container, fields, hcontainer, hfields, hne, rfl⟩
    refine ⟨container, hcontainer, Running.bind_eq_ok.mpr ⟨(.byName, fields), ?_, ?_⟩⟩
    · exact Running.bind_eq_ok.mpr ⟨fields, hfields, rfl⟩
    · exact nonEmpty_eq_ok_iff.mpr ⟨hne, rfl⟩

end ClassTable.Records

end

/-! ## Making records -/

/-- Entries under different names are the same in every order. -/
theorem lookup_perm {β : Type} {bound bound' : List (String × β)} (hperm : bound'.Perm bound)
    (hnodup : (bound.map (·.1)).Nodup) (name : String) :
    bound'.lookup name = bound.lookup name := by
  have hnodup' : (bound'.map (·.1)).Nodup := (hperm.map _).nodup_iff.mpr hnodup
  refine Option.ext fun v => ⟨fun h => ?_, fun h => ?_⟩
  · exact lookup_of_mem hnodup (hperm.mem_iff.mp (mem_of_lookup h))
  · exact lookup_of_mem hnodup' (hperm.mem_iff.mpr (mem_of_lookup h))

/-- Two computations both fail, or they make records of two classes that hold the same under every
name. -/
def Run.MakeAlike (S : Session → Prop) (c c' : ClassRef) (m m' : Run Value) : Prop :=
  m.Gives S none ∧ m'.Gives S none ∨
    ∃ fields fields', (∀ name, fields'.lookup name = fields.lookup name) ∧
      m.Gives S (some (.record c fields)) ∧ m'.Gives S (some (.record c' fields'))

section

variable {table : ClassTable} {c c' : ClassRef} {info info' : ClassInfo} {maker : Constructor}
  {S : Session → Prop} {l : Level} {keywords keywords' : Bindings}
  {supplied : FieldDeclaration → Option Value}

/-- A class that is still what it was in a table. -/
theorem ClassTable.Records.of_lineage (hc : table.Records c info) {table' : ClassTable}
    (h : table'.lineage c = table.lineage c) : table'.Records c info := by
  have hknown : table'.known? c = some info := by
    unfold ClassTable.lineage at h
    rw [hc.known] at h
    cases hknown : table'.known? c with
    | none =>
      rw [hknown] at h
      cases h
    | some own =>
      rw [hknown] at h
      rw [(List.cons.inj h).1]
  refine { hc with known := hknown, silent := ?_ }
  unfold ClassTable.attribute?
  rw [h]
  exact hc.silent

namespace ClassTable.Records

theorem construct_unmade (hc : table.Records c info)
    (hclass : ∀ σ, S σ → σ.classes.lineage c = table.lineage c) (hkeywords : keywords ≠ [])
    (hunmade : info.replaced ≠ none ∨ info.constructor? = none) :
    (l.above.construct (.declared c) [] keywords).Gives S none := by
  obtain ⟨keys, hform⟩ := hc.form
  refine .of_error fun σ hσ => ?_
  have hinfo : σ.classes.info c = info := info_of_known (hc.of_lineage (hclass σ hσ)).known
  refine run_construct_unmade hform hkeywords ?_ ?_ l
  · rw [hinfo]
    exact fun maker hmaker => (hc.generated maker hmaker).making
  · rw [hinfo]
    exact hunmade

theorem construct_refused (hc : table.Records c info)
    (hclass : ∀ σ, S σ → σ.classes.lineage c = table.lineage c)
    (hnodup : (keywords.map (·.1)).Nodup) (hreplaced : info.replaced = none)
    (hmaker : info.constructor? = some maker)
    (hrefused : ¬maker.Accepts (keywords.map (·.1))) :
    (l.above.construct (.declared c) [] keywords).Gives S none := by
  refine .of_error fun σ hσ => ?_
  have hstill := hc.of_lineage (hclass σ hσ)
  have hinfo : σ.classes.info c = info := info_of_known hstill.known
  rw [run_construct_fields hc.not_isEnumeration (hinfo ▸ hreplaced) (hinfo ▸ hmaker)
    (hc.generated maker hmaker).making hstill.silent]
  cases hbind : Instance.bindInstance (maker.owner ++ ".__init__()") maker [] keywords with
  | error f => exact ⟨f, rfl⟩
  | ok bound => exact absurd (((hc.generated maker hmaker).bind_iff hnodup).mp hbind).1 hrefused

theorem construct_gives (hc : table.Records c info)
    (hclass : ∀ σ, S σ → σ.classes.lineage c = table.lineage c)
    (hnodup : (keywords.map (·.1)).Nodup) (hreplaced : info.replaced = none)
    (hmaker : info.constructor? = some maker) (haccepts : maker.Accepts (keywords.map (·.1)))
    (hsupplied : ∀ f ∈ maker.parameters, ∀ s, f.default = some s →
      (l.supply s).Gives S (supplied f)) :
    (l.above.construct (.declared c) [] keywords).Gives S
      ((maker.parameters.mapM (FieldDeclaration.held keywords supplied)).map
        fun held => .record c held.flatten) := by
  have hgenerated := hc.generated maker hmaker
  have hfilled : (Instance.fill l ((maker.receiver, .none) :: keywords) maker.parameters).Gives S
      ((maker.parameters.mapM (FieldDeclaration.held keywords supplied)).map List.flatten) := by
    refine fill_gives (fun f hf => ?_) hsupplied
    rw [List.lookup_cons, beq_eq_false_iff_ne.mpr (hgenerated.receiver_ne hf)]
  have hmade := hfilled.map (k := fun held => pure (Value.record c held)) fun _ => rfl
  rw [Option.map_map] at hmade
  refine hmade.of_run_eq fun σ hσ => ?_
  have hstill := hc.of_lineage (hclass σ hσ)
  have hinfo : σ.classes.info c = info := info_of_known hstill.known
  rw [run_construct_fields hc.not_isEnumeration (hinfo ▸ hreplaced) (hinfo ▸ hmaker)
    hgenerated.making hstill.silent, (hgenerated.bind_iff hnodup).mpr ⟨haccepts, rfl⟩]
  rfl

/-- **Records are made alike of the same fields in any order.** -/
theorem construct_alike (hc : table.Records c info) (hc' : table.Records c' info')
    (hsame : info.Reorders info') (hperm : keywords'.Perm keywords)
    (hnodup : (keywords.map (·.1)).Nodup) (hkeywords : keywords ≠ [])
    (hclass : ∀ σ, S σ → σ.classes.lineage c = table.lineage c)
    (hclass' : ∀ σ, S σ → σ.classes.lineage c' = table.lineage c')
    (hsupplied : ∀ maker, info.constructor? = some maker → ∀ f ∈ maker.parameters, ∀ s,
      f.default = some s → (l.supply s).Indifferent S) :
    Run.MakeAlike S c c' (l.above.construct (.declared c) [] keywords)
      (l.above.construct (.declared c') [] keywords') := by
  have hnodup' : (keywords'.map (·.1)).Nodup := (hperm.map _).nodup_iff.mpr hnodup
  have hkeywords' : keywords' ≠ [] := fun h => hkeywords (h ▸ hperm).nil_eq.symm
  by_cases hunmade : info.replaced ≠ none ∨ info.constructor? = none
  · refine Or.inl ⟨hc.construct_unmade hclass hkeywords hunmade,
      hc'.construct_unmade hclass' hkeywords' ?_⟩
    rw [hsame.replaced]
    exact hunmade.imp_right hsame.unmade
  rw [not_or, not_not] at hunmade
  obtain ⟨hreplaced, hmade⟩ := hunmade
  obtain ⟨maker, hmaker⟩ := Option.ne_none_iff_exists'.mp hmade
  obtain ⟨maker', hmaker', hparameters⟩ := hsame.made maker hmaker
  have hreplaced' : info'.replaced = none := hsame.replaced.trans hreplaced
  by_cases haccepts : maker.Accepts (keywords.map (·.1))
  · have hchosen : ∀ f ∈ maker.parameters, ∃ v, ∀ s, f.default = some s →
        (l.supply s).Gives S v := by
      intro f hf
      cases hs : f.default with
      | none => exact ⟨none, nofun⟩
      | some s =>
        obtain ⟨v, hv⟩ := hsupplied maker hmaker f hf s hs
        exact ⟨v, fun s' h => Option.some.inj h ▸ hv⟩
    choose! supplied hsupplied using hchosen
    have hgives := hc.construct_gives hclass hnodup hreplaced hmaker haccepts hsupplied
    have hgives' := hc'.construct_gives hclass' hnodup' hreplaced' hmaker'
      (haccepts.perm hparameters (hperm.map _))
      fun f hf => hsupplied f (hparameters.mem_iff.mp hf)
    -- What is given under a name is the same for both, so each field holds the same.
    have hheld : FieldDeclaration.held keywords' supplied =
        FieldDeclaration.held keywords supplied := by
      funext f
      unfold FieldDeclaration.held
      rw [lookup_perm hperm hnodup]
    rw [hheld] at hgives'
    rcases mapM_perm hparameters (FieldDeclaration.held keywords supplied) with
      ⟨hnone, hnone'⟩ | ⟨held, held', hall, hall', hpermuted⟩
    · rw [hnone] at hgives
      rw [hnone'] at hgives'
      exact Or.inl ⟨hgives, hgives'⟩
    · rw [hall] at hgives
      rw [hall'] at hgives'
      have hnames : (held.flatten.map (·.1)).Nodup :=
        (List.nodup_cons.mp (hc.generated maker hmaker).nodup).2.sublist (held_names hall)
      exact Or.inr ⟨_, _, lookup_perm hpermuted.flatten hnames, hgives, hgives'⟩
  · refine Or.inl ⟨hc.construct_refused hclass hnodup hreplaced hmaker haccepts,
      hc'.construct_refused hclass' hnodup' hreplaced' hmaker' fun h => haccepts ?_⟩
    exact h.perm hparameters.symm (hperm.symm.map _)

end ClassTable.Records

end

/-! ## Plans of records -/

/-- The level at which a class that a plan makes gets its defaults. -/
def Level.belowTop : Level := ofDepth 999

/-- The schema of a record, each field of which is read off its declaration. -/
structure ReadsRecord (table : ClassTable) (c : ClassRef) (info : ClassInfo)
    (read : FieldDeclaration → FieldSchema) (schema : Schema) : Prop where
  introspected : introspect table (.declared c) = .ok schema
  addressing : schema.addressing = .byName
  fields : schema.fields.map (·.placed 0) = (info.fields.filter (·.inConstructor)).map read
  named : ∀ f, (read f).name = some f.name
  taken : info.fields.filter (·.inConstructor) ≠ []

section

variable {table : ClassTable} {overrides : Overrides} {r s r' : Registry} {p : DecodePlan}
  {c c' : ClassRef} {info info' : ClassInfo} {S : Session → Prop}

/-- A record that a registry compiled is compiled with its fields in another order as well, and then
each field has the same step. -/
theorem Compiles.reordered (hc : table.Records c info) (hc' : table.Records c' info')
    (hsame : info.Reorders info') (hconfig : table.config? c' = table.config? c)
    (h : Compiles table (.declared c) overrides r p s) (hlasts : s.Lasts r') :
    ∃ read schema schema' step, ReadsRecord table c info read schema ∧
      ReadsRecord table c' info' read schema' ∧ p.Places schema step ∧
      (∃ p' s', Compiles table (.declared c') overrides r' p' s') ∧
      ∀ p' s', Compiles table (.declared c') overrides r' p' s' → p'.Places schema' step := by
  obtain ⟨schema, -, -, -, -, hschema, -⟩ := Compile.run_buildWith_iff.mp h.choose_spec
  obtain ⟨container, fields, hcontainer, hfields, hne, rfl⟩ := hc.introspect_iff.mp hschema
  obtain ⟨resolved, fields', hfields', hread, hread'⟩ := recordFields_reorders hsame hfields c'.name
  have htaken : (info'.fields.filter (·.inConstructor)).Perm
      (info.fields.filter (·.inConstructor)) := hsame.fields.filter _
  have hperm : (fields'.map (·.placed 0)).Perm (fields.map (·.placed 0)) := by
    rw [hread, hread']
    exact htaken.map _
  have hsome : info.fields.filter (·.inConstructor) ≠ [] := by
    intro hnil
    rw [hnil] at hread
    exact hne (List.map_eq_nil_iff.mp hread)
  have hsome' : info'.fields.filter (·.inConstructor) ≠ [] := fun hnil =>
    hsome (hnil ▸ htaken).nil_eq.symm
  have hschema' : introspect table (.declared c') =
      .ok ⟨.declared c', .byName, fields', container⟩ := by
    refine hc'.introspect_iff.mpr ⟨container, fields', ?_, hfields', fun hnil => ?_, rfl⟩
    · unfold containerOf at hcontainer ⊢
      rw [hconfig]
      exact hcontainer
    · rw [hnil] at hread'
      exact hsome' (List.map_eq_nil_iff.mp hread'.symm)
  obtain ⟨step, hplaces, hagain⟩ := h.again hschema hschema' rfl rfl hperm hlasts
  exact ⟨fieldOf resolved, _, _, step, ⟨hschema, rfl, hread, fun _ => rfl, hsome⟩,
    ⟨hschema', rfl, hread', fun _ => rfl, hsome'⟩, hplaces, hagain⟩

namespace ReadsRecord

variable {read : FieldDeclaration → FieldSchema} {schema : Schema} {step : FieldSchema → DecodeStep}
  {l : Level} {v row : Value}

/-- The steps of a record come to what those of its fields come to, in the order of the fields. -/
theorem steps_give (hreads : ReadsRecord table c info read schema) (hplaces : p.Places schema step)
    {outcome : FieldDeclaration → Option Value}
    (hsteps : ∀ f ∈ info.fields, f.inConstructor = true →
      (runStep l (step (read f)) row).Gives S (outcome f)) :
    (p.steps.mapM fun st => runStep l st row).Gives S
      ((info.fields.filter (·.inConstructor)).mapM outcome) := by
  have hmapped : p.steps.mapM (fun st => runStep l st row) =
      (schema.fields.map (·.placed 0)).mapM fun f => runStep l (step f) row := by
    rw [hplaces.steps, hreads.addressing, List.mapM_map, List.mapM_map]
    rfl
  rw [hmapped, hreads.fields, List.mapM_map]
  refine .mapM fun f hf => ?_
  rw [List.mem_filter] at hf
  exact hsteps f hf.1 hf.2

/-- A plan calls its class with the values of the fields under their names. -/
theorem makeTarget_eq (hreads : ReadsRecord table c info read schema)
    (h : Compiles table (.declared c) overrides r p s) (hplaces : p.Places schema step)
    (hnodup : (info.fields.map (·.name)).Nodup) (l : Level) (value : FieldDeclaration → Value) :
    makeTarget l p ((info.fields.filter (·.inConstructor)).map value) =
      (l.construct (.declared c) []
        ((info.fields.filter (·.inConstructor)).map fun f => (f.name, value f))).mapFailure
          (constructionFailure (.declared c)) := by
  have hnames : p.steps.map (·.fieldName) =
      ((info.fields.filter (·.inConstructor)).map (·.name)).map some := by
    have hcovers := (covers_of_build h.choose_spec hreads.introspected).names
    have hread := congrArg (List.map (·.name)) hreads.fields
    rw [List.map_map, List.map_map] at hread
    rw [hcovers, List.map_map]
    exact hread.trans (List.map_congr_left fun f _ => hreads.named f)
  have htarget : p.target = .declared c :=
    hplaces.target.trans (introspect_ok hreads.introspected).1
  have hkeywords : keywordsOf p.steps ((info.fields.filter (·.inConstructor)).map value) =
      (info.fields.filter (·.inConstructor)).map fun f => (f.name, value f) := by
    rw [keywordsOf_eq_zip hnames (hnodup.sublist (List.filter_sublist.map _))
      (by rw [List.length_map, List.length_map]), List.zip_map']
  rw [makeTarget_call htarget hnames, Plan.arguments, hplaces.addressing, hreads.addressing]
  dsimp only
  rw [hkeywords]

end ReadsRecord

theorem Run.MakeAlike.mapFailure {m m' : Run Value} (h : Run.MakeAlike S c c' m m')
    (change change' : Failure → Failure) :
    Run.MakeAlike S c c' (m.mapFailure change) (m'.mapFailure change') := by
  rcases h with ⟨h, h'⟩ | ⟨fields, fields', hlookup, h, h'⟩
  · exact Or.inl ⟨h.mapFailure _, h'.mapFailure _⟩
  · exact Or.inr ⟨fields, fields', hlookup, h.mapFailure _, h'.mapFailure _⟩

theorem Run.MakeAlike.bind {α α' : Type} {m : Run α} {m' : Run α'} {a : α} {a' : α'}
    {k : α → Run Value} {k' : α' → Run Value} (hm : m.Gives S (some a))
    (hm' : m'.Gives S (some a')) (h : Run.MakeAlike S c c' (k a) (k' a')) :
    Run.MakeAlike S c c' (m >>= k) (m' >>= k') := by
  rcases h with ⟨h, h'⟩ | ⟨fields, fields', hlookup, h, h'⟩
  · exact Or.inl ⟨hm.bind_some h, hm'.bind_some h'⟩
  · exact Or.inr ⟨fields, fields', hlookup, hm.bind_some h, hm'.bind_some h'⟩

/-- Two plans make records of two classes of the same rows, which hold the same under every name: the
second plan makes one just if the first one does. What is needed of a row is that no step takes
notice of what another one does, and no default of a field. -/
def DecodesAlike (table : ClassTable) (c c' : ClassRef) (p p' : DecodePlan) : Prop :=
  ∀ (S : Session → Prop) (v row : Value),
    (∀ σ, S σ → σ.classes.lineage c = table.lineage c) →
    (∀ σ, S σ → σ.classes.lineage c' = table.lineage c') →
    (∀ σ, S σ → (Cell.rowOf v).run σ = (.ok row, σ)) →
    (∀ st ∈ p.steps, (runStep Level.top st row).Indifferent S) →
    (∀ maker, (table.info c).constructor? = some maker → ∀ f ∈ maker.parameters, ∀ s,
      f.default = some s → (Level.belowTop.supply s).Indifferent S) →
    Run.MakeAlike S c c' (execute Level.top p v) (execute Level.top p' v)

/-- **Records decode alike in every order of their fields.** Take a class of records that a registry
compiled, and a class that declares the same fields in another order. As long as nothing is
registered, the registry compiles that one as well, and its plan makes the same of every row, but for
the class. -/
theorem record_reordered (hc : table.Records c info) (hc' : table.Records c' info')
    (hsame : info.Reorders info') (hconfig : table.config? c' = table.config? c)
    (h : Compiles table (.declared c) overrides r p s) (hlasts : s.Lasts r') :
    (∃ p' s', Compiles table (.declared c') overrides r' p' s') ∧
    ∀ p' s', Compiles table (.declared c') overrides r' p' s' → DecodesAlike table c c' p p' := by
  obtain ⟨read, schema, schema', step, hreads, hreads', hplaces, hcompiles, hagain⟩ :=
    h.reordered hc hc' hsame hconfig hlasts
  refine ⟨hcompiles, fun p' s' h' S v row hclass hclass' hrow hsteps hsupplied => ?_⟩
  rw [ClassTable.info_of_known hc.known] at hsupplied
  have hstep : ∀ f ∈ info.fields, f.inConstructor = true →
      (runStep Level.top (step (read f)) row).Indifferent S := by
    intro f hf htaken
    have hread : read f ∈ schema.fields.map (·.placed 0) :=
      hreads.fields ▸ List.mem_map_of_mem (List.mem_filter.mpr ⟨hf, htaken⟩)
    obtain ⟨g, hg, hsame⟩ := List.mem_map.mp hread
    have hmem : (step (g.placed 0)).placed schema.addressing g.ordinal ∈ p.steps :=
      hplaces.steps ▸ List.mem_map_of_mem hg
    rw [hreads.addressing] at hmem
    have hindifferent := hsteps _ hmem
    rwa [runStep_placed_byName, hsame] at hindifferent
  choose! outcome houtcome using hstep
  have hvalues := hreads.steps_give hplaces houtcome
  have hvalues' := hreads'.steps_give (hagain p' s' h')
    fun f hf => houtcome f (hsame.fields.mem_iff.mp hf)
  have hadapted := Run.Gives.of_run hrow
  have htaken : (info'.fields.filter (·.inConstructor)).Perm
      (info.fields.filter (·.inConstructor)) := hsame.fields.filter _
  rcases outcomes_cases outcome (info.fields.filter (·.inConstructor)) with hall | ⟨f, hf, hnone⟩
  · choose! value hvalue using hall
    rw [mapM_eq_some_map hvalue] at hvalues
    rw [mapM_eq_some_map fun f hf => hvalue f (htaken.mem_iff.mp hf)] at hvalues'
    refine .bind hadapted hadapted (.bind hvalues hvalues' ?_)
    rw [hreads.makeTarget_eq h hplaces hc.nodup, hreads'.makeTarget_eq h' (hagain p' s' h') hc'.nodup]
    refine .mapFailure (hc.construct_alike hc' hsame (htaken.map _) ?_ ?_ hclass hclass'
      hsupplied) _ _
    · rw [List.map_map]
      exact hc.nodup.sublist (List.filter_sublist.map _)
    · exact fun h => hreads.taken (List.map_eq_nil_iff.mp h)
  · rw [mapM_eq_none ⟨f, hf, hnone⟩] at hvalues
    rw [mapM_eq_none ⟨f, htaken.mem_iff.mpr hf, hnone⟩] at hvalues'
    exact Or.inl ⟨hadapted.bind_some hvalues.bind_none, hadapted.bind_some hvalues'.bind_none⟩

end

end RowDecoding
