import RowDecoding.Proofs.Redeclaring

/-!
# Declarations of records

What is known of a class of records that is declared without a base is read off its declaration
(`Declaration.recordInfo`), and stays what it is when other classes are declared. So two declarations
that differ in the name of the class and in the order of the fields make two classes with the same
fields in another order, whichever of the orders are legal.

> `declared_reorders`: what two such declarations make in a table, one after the other.
-/

namespace RowDecoding

/-! ## What a declaration makes -/

/-- What is known of a class of records that is declared so without a base, as the class of a
number. -/
def Declaration.recordInfo (d : Declaration) (serial : Nat) : ClassInfo where
  ref := ⟨d.name, serial, d.form []⟩
  ancestors := []
  fields := d.fields
  annotations := d.ownAnnotations
  frozen := d.options.frozen
  constructor? := d.constructor d.fields none
  replaced := d.replaced none
  members := []
  memberNames := []
  settings := (default : ClassInfo).settings.choose d.settings
  attributes := d.attributes
  config := d.config
  plan := none

/-- A declaration of a class of records without a base and without a hook for new instances. The
names of its fields differ. -/
structure Declaration.IsRecord (d : Declaration) : Prop where
  kind : d.kind = .dataclass
  base : d.base = none
  nodup : (d.fields.map (·.name)).Nodup
  receiver : "__dataclass_self__" ∉ d.fields.map (·.name)
  kinds : ∀ f ∈ d.fields, f.inConstructor = true → f.kind = .ordinary ∨ f.kind = .keywordOnly
  silent : ∀ h, d.attributes.lookup "post_init" ≠ some (.hook h)

section

variable {table table' : ClassTable} {d : Declaration} {c : ClassRef}

theorem Declaration.IsRecord.form (hd : d.IsRecord) : ∃ keys, d.form [] = .dataclass keys := by
  unfold Declaration.form
  rw [hd.kind]
  exact ⟨_, rfl⟩

/-- Fields of different names are all kept, in order. -/
theorem overrideFields_new {before own : List FieldDeclaration}
    (h : ((before ++ own).map (·.name)).Nodup) : overrideFields before own = before ++ own := by
  unfold overrideFields
  induction own generalizing before with
  | nil => exact (List.append_nil _).symm
  | cons f rest ih =>
    have hnew : before.any (·.name == f.name) = false := by
      rw [List.any_eq_false]
      intro g hg hname
      rw [List.map_append, List.nodup_append] at h
      exact h.2.2 g.name (List.mem_map_of_mem hg) f.name (List.mem_cons_self ..) (eq_of_beq hname)
    have hmove : before ++ f :: rest = before ++ [f] ++ rest := by simp
    rw [hmove] at h ⊢
    rw [List.foldl_cons, hnew, if_neg Bool.false_ne_true]
    exact ih h

/-- A declaration that is accepted adds a class, and this is what is known of it. -/
theorem declare_record (hd : d.IsRecord) (h : table.declare d = .ok (table', c)) :
    table' = table.add (d.recordInfo table.nextSerial) ∧
      c = (d.recordInfo table.nextSerial).ref := by
  unfold ClassTable.declare at h
  rw [hd.kind, hd.base] at h
  obtain ⟨-, -, h⟩ := Running.bind_eq_ok.mp h
  obtain ⟨fields, hfields, h⟩ := Running.bind_eq_ok.mp h
  dsimp only at h
  rw [if_pos (by rfl)] at h
  obtain ⟨-, -, h⟩ := Running.bind_eq_ok.mp h
  obtain ⟨_, hmembers, h⟩ := Running.bind_eq_ok.mp h
  cases hmembers
  obtain ⟨info, hsettled, h⟩ := Running.bind_eq_ok.mp h
  cases h
  have hkept : fields = d.fields := by
    unfold Declaration.allFields at hfields
    rw [hd.kind] at hfields
    exact (Except.ok.inj hfields).symm.trans (overrideFields_new hd.nodup)
  subst hkept
  have hinfo : info = d.recordInfo table.nextSerial := by
    unfold ClassTable.settled at hsettled
    split at hsettled
    next keys hmodel =>
      obtain ⟨keys', hform⟩ := hd.form
      cases hform.symm.trans hmodel
    next =>
      cases hsettled
      rfl
  exact ⟨by rw [hinfo], rfl⟩

theorem Declaration.IsRecord.constructor_eq (hd : d.IsRecord) :
    d.constructor d.fields none =
      if d.options.init then some ⟨d.name, .fields, receiverFor d.fields, d.fields⟩ else none := by
  unfold Declaration.constructor
  rw [hd.kind]

/-- The constructor that a class of records gets takes its fields by name. -/
theorem Declaration.IsRecord.generated (hd : d.IsRecord) {maker : Constructor}
    (h : d.constructor d.fields none = some maker) : maker.IsGenerated := by
  rw [hd.constructor_eq] at h
  split at h
  · cases h
    refine ⟨rfl, fun f hf => ?_, List.nodup_cons.mpr ⟨?_, hd.nodup⟩⟩
    · exact hd.kinds f (List.mem_of_mem_filter hf) (List.of_mem_filter hf)
    · unfold receiverFor
      split
      next => exact hd.receiver
      next hself =>
        intro hmem
        obtain ⟨f, hf, hname⟩ := List.mem_map.mp hmem
        exact hself (List.any_eq_true.mpr ⟨f, hf, beq_iff_eq.mpr hname⟩)
  · cases h

/-- Such a class is one of records in every table that knows it. -/
theorem Declaration.IsRecord.records (hd : d.IsRecord) {serial : Nat}
    (h : table.known? (d.recordInfo serial).ref = some (d.recordInfo serial)) :
    table.Records (d.recordInfo serial).ref (d.recordInfo serial) where
  known := h
  form := hd.form
  nodup := hd.nodup
  generated _ := hd.generated
  silent hook hhook := by
    unfold ClassTable.attribute? ClassTable.lineage at hhook
    rw [h] at hhook
    obtain ⟨info, hinfo, hattribute⟩ := List.exists_of_findSome?_eq_some hhook
    rw [List.mem_singleton.mp hinfo] at hattribute
    exact hd.silent hook hattribute

theorem config?_record {serial : Nat}
    (h : table.known? (d.recordInfo serial).ref = some (d.recordInfo serial)) :
    table.config? (d.recordInfo serial).ref = d.config := by
  unfold ClassTable.config? ClassTable.lineage
  rw [h]
  show (List.findSome? _ [d.recordInfo serial]) = d.config
  rw [List.findSome?_singleton]
  rfl

/-! ## The same fields in another order -/

theorem annotationsOf_names (fields : List FieldDeclaration) :
    ((annotationsOf fields).map (·.1)).Sublist (fields.map (·.name)) := by
  induction fields with
  | nil => exact .slnil
  | cons f rest ih =>
    unfold annotationsOf
    rw [List.filterMap_cons, List.map_cons]
    cases f.declaredType with
    | none => exact ih.cons _
    | some t => exact ih.cons_cons _

/-- The declaration with its fields in another order, for a class of another name. -/
def Declaration.reordered (d : Declaration) (name : String) (fields : List FieldDeclaration) :
    Declaration :=
  { d with name := name, fields := fields }

namespace Declaration.IsRecord

variable {fields : List FieldDeclaration}

theorem ownAnnotations_eq (hd : d.IsRecord) : d.ownAnnotations = annotationsOf d.fields := by
  unfold ownAnnotations
  rw [hd.kind]

theorem reordered (hd : d.IsRecord) (hperm : fields.Perm d.fields) (name : String) :
    (d.reordered name fields).IsRecord where
  kind := hd.kind
  base := hd.base
  nodup := (hperm.map _).nodup_iff.mpr hd.nodup
  receiver h := hd.receiver ((hperm.map _).mem_iff.mp h)
  kinds f hf := hd.kinds f (hperm.mem_iff.mp hf)
  silent := hd.silent

/-- A declaration of the same fields in another order makes a class that reorders them. -/
theorem reorders (hd : d.IsRecord) (hperm : fields.Perm d.fields) (name : String)
    (serial serial' : Nat) :
    (d.recordInfo serial).Reorders ((d.reordered name fields).recordInfo serial') := by
  have hd' := hd.reordered hperm name
  have hannotations : (annotationsOf fields).Perm (annotationsOf d.fields) := hperm.filterMap _
  refine ⟨hperm, ?_, fun field => ?_, fun maker hmaker => ?_, fun hnone => ?_, rfl⟩
  · show (ownAnnotations _).Perm d.ownAnnotations
    rw [hd.ownAnnotations_eq, hd'.ownAnnotations_eq]
    exact hannotations
  · show (ownAnnotations _).reverse.lookup field = d.ownAnnotations.reverse.lookup field
    rw [hd.ownAnnotations_eq, hd'.ownAnnotations_eq]
    have hnodup := hd.nodup.sublist (annotationsOf_names d.fields)
    exact lookup_perm (((List.reverse_perm _).trans hannotations).trans (List.reverse_perm _).symm)
      ((List.map_reverse ▸ List.nodup_reverse.mpr hnodup)) field
  · have hmade : d.constructor d.fields none = some maker := hmaker
    rw [hd.constructor_eq] at hmade
    split at hmade
    next hinit =>
      cases hmade
      exact ⟨_, hd'.constructor_eq.trans (if_pos hinit), hperm⟩
    next => cases hmade
  · have hunmade : d.constructor d.fields none = none := hnone
    rw [hd.constructor_eq] at hunmade
    split at hunmade
    next => cases hunmade
    next hinit => exact hd'.constructor_eq.trans (if_neg hinit)

end Declaration.IsRecord

/-! ## Tables that grow -/

namespace ClassTable

/-- The classes of a table have lower numbers than the next class. -/
def IsNumbered (table : ClassTable) : Prop :=
  ∀ info ∈ table.classes, info.ref.serial < table.nextSerial

theorem IsNumbered.add (h : table.IsNumbered) {info : ClassInfo}
    (hserial : info.ref.serial = table.nextSerial) : (table.add info).IsNumbered := by
  have hnext : (table.add info).nextSerial = table.nextSerial + 1 := by
    unfold nextSerial ClassTable.add
    rw [List.length_append, List.length_singleton]
  intro other hother
  rw [hnext]
  rcases List.mem_append.mp hother with hother | hother
  · exact Nat.lt_succ_of_lt (h other hother)
  · rw [List.mem_singleton.mp hother, hserial]
    exact Nat.lt_succ_self _

theorem IsNumbered.known?_add (h : table.IsNumbered) (info : ClassInfo)
    (hserial : info.ref.serial = table.nextSerial) :
    (table.add info).known? info.ref = some info := by
  have hnone : table.classes.find? (·.ref.serial == info.ref.serial) = none := by
    rw [List.find?_eq_none]
    intro other hother hsame
    exact absurd (h other hother) (by rw [eq_of_beq hsame, hserial]; exact Nat.lt_irrefl _)
  unfold known? info? ClassTable.add
  rw [List.find?_append, hnone, Option.none_or, List.find?_singleton, if_pos (beq_self_eq_true _),
    Option.filter_some, if_pos (beq_self_eq_true _)]

/-- A class that is known stays what it is when another one is added. -/
theorem known?_add_of_known {c : ClassRef} {own : ClassInfo} (h : table.known? c = some own)
    (info : ClassInfo) : (table.add info).known? c = some own := by
  obtain ⟨-, href, hfound⟩ := known?_spec h
  unfold info? at hfound
  unfold known? info? ClassTable.add
  rw [List.find?_append, hfound, Option.some_or, Option.filter_some, if_pos (beq_iff_eq.mpr href)]

end ClassTable

/-- **Two declarations of the same fields make classes that reorder each other.** Whatever names are
bound in between, a class of records is declared, and then one with the same fields in another
order. The first class stays what it is, and the second one differs in the order of its fields
only. -/
theorem declared_reorders (hd : d.IsRecord) {fields : List FieldDeclaration}
    (hperm : fields.Perm d.fields) (name : String) (hnumbered : table.IsNumbered)
    {table₁ table₂ : ClassTable} {c c' : ClassRef} (h : table.declare d = .ok (table₁, c))
    (h' : (table₁.bind c).declare (d.reordered name fields) = .ok (table₂, c')) :
    ∃ info info', table₂.Records c info ∧ table₂.Records c' info' ∧ info.Reorders info' ∧
      table₂.config? c' = table₂.config? c := by
  obtain ⟨rfl, rfl⟩ := declare_record hd h
  obtain ⟨rfl, rfl⟩ := declare_record (hd.reordered hperm name) h'
  have hd' := hd.reordered hperm name
  -- Binding the name changes neither the classes nor their numbers.
  have hbound : ((table.add (d.recordInfo table.nextSerial)).bind
      (d.recordInfo table.nextSerial).ref).IsNumbered := hnumbered.add rfl
  have hfirst : ((table.add (d.recordInfo table.nextSerial)).bind
      (d.recordInfo table.nextSerial).ref).known? (d.recordInfo table.nextSerial).ref =
        some (d.recordInfo table.nextSerial) := hnumbered.known?_add _ rfl
  have hknown := ClassTable.known?_add_of_known hfirst
  have hknown' := hbound.known?_add ((d.reordered name fields).recordInfo _) rfl
  exact ⟨_, _, hd.records (hknown _), hd'.records hknown', hd.reorders hperm name _ _,
    (config?_record hknown').trans (config?_record (hknown _)).symm⟩

end

end RowDecoding
