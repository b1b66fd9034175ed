import Mathlib.Data.List.Induction
import Mathlib.Data.List.Sort
import Mathlib.Data.String.Basic
import RowDecoding.Mapping.Mapper
import RowDecoding.Proofs.Conventions
import RowDecoding.Proofs.Supplied

/-!
# Directives from several places

What is said about a field comes from its metadata, from the column marks of its annotation, and
from calls on the builder of its plan. All of it is merged name by name, and the last value under a
name counts (`Attributes.last?`). So the calls matter by what each of them says last, and not by
their order otherwise: two sequences of calls that say the same last, name the same fields and end
with the same convention build the same plan, or fail alike (`Compile.Reports`).

Nothing as the last value takes back a name for the column or a type to read. It is refused where a
truth value is expected.

> `directives_merge`: how the directives of a field come about, and what follows for a build.
-/

namespace RowDecoding

/-! ## Values under names -/

/-- A name comes once among names if it is added where it is missing. -/
theorem nodup_named {names : List String} (h : names.Nodup) (name : String) :
    (if names.contains name then names else names ++ [name]).Nodup := by
  split
  · exact h
  next hnew =>
    refine List.nodup_append.mpr ⟨h, by simp, fun a ha b hb hab => hnew ?_⟩
    rw [← List.mem_singleton.mp hb, ← hab]
    exact List.contains_iff_mem.mpr ha

namespace Attributes

/-- The last value that is said under a name. -/
def last? : Attributes → String → Option Value
  | [], _ => none
  | (n, v) :: rest, name => (last? rest name).or (if n == name then some v else none)

theorem last?_append (said later : Attributes) (name : String) :
    (said ++ later).last? name = (later.last? name).or (said.last? name) := by
  induction said with
  | nil => exact (Option.or_none ..).symm
  | cons e rest ih =>
    rw [List.cons_append, last?, last?, ih, Option.or_assoc]

theorem last?_eq_none {said : Attributes} {name : String} :
    said.last? name = none ↔ ∀ e ∈ said, e.1 ≠ name := by
  induction said with
  | nil => exact ⟨fun _ _ h => (nomatch h), fun _ => rfl⟩
  | cons e rest ih =>
    rw [last?, Option.or_eq_none_iff, ih, List.forall_mem_cons, and_comm]
    refine and_congr_left' ?_
    split
    next h => exact ⟨fun hno => (nomatch hno), fun hne => absurd (eq_of_beq h) hne⟩
    next h => exact ⟨fun _ hname => h (beq_iff_eq.mpr hname), fun _ => rfl⟩

theorem get?_cons (e : String × Value) (rest : Attributes) (name : String) :
    get? (e :: rest) name = if e.1 == name then some e.2 else get? rest name := by
  unfold get?
  rw [List.lookup_cons, Bool.beq_comm]
  cases e.1 == name <;> rfl

theorem get?_put (attributes : Attributes) (n : String) (v : Value) (name : String) :
    (attributes.put n v).get? name = if n == name then some v else attributes.get? name := by
  induction attributes with
  | nil => exact get?_cons (n, v) [] name
  | cons e rest ih =>
    unfold put
    split
    next hsame =>
      obtain rfl := eq_of_beq hsame
      rw [get?_cons, get?_cons]
      split <;> rfl
    next hother =>
      rw [get?_cons, get?_cons, ih]
      split
      next hname =>
        obtain rfl := eq_of_beq hname
        rw [if_neg fun h => hother (by rw [eq_of_beq h]; exact beq_self_eq_true _)]
      next => rfl

/-- Of merged values, the last one counts. -/
theorem get?_merge (attributes later : Attributes) (name : String) :
    (attributes.merge later).get? name = (later.last? name).or (attributes.get? name) := by
  unfold merge
  induction later generalizing attributes with
  | nil => rfl
  | cons e rest ih =>
    rw [List.foldl_cons, ih, get?_put, last?, Option.or_assoc]
    congr 1
    split <;> rfl

theorem names_put (attributes : Attributes) (n : String) (v : Value) :
    (attributes.put n v).map (·.1) =
      if (attributes.map (·.1)).contains n then attributes.map (·.1)
      else attributes.map (·.1) ++ [n] := by
  induction attributes with
  | nil => rfl
  | cons e rest ih =>
    unfold put
    rw [List.map_cons, List.contains_cons, Bool.beq_comm]
    split
    next hsame => rw [hsame, Bool.true_or, if_pos rfl]; rfl
    next hother =>
      rw [Bool.eq_false_iff.mpr hother, Bool.false_or, List.map_cons, ih]
      split <;> rfl

theorem nodup_put {attributes : Attributes} (h : (attributes.map (·.1)).Nodup) (n : String)
    (v : Value) : ((attributes.put n v).map (·.1)).Nodup := by
  rw [names_put]
  exact nodup_named h n

theorem nodup_merge {attributes : Attributes} (h : (attributes.map (·.1)).Nodup)
    (later : Attributes) : ((attributes.merge later).map (·.1)).Nodup := by
  unfold merge
  induction later generalizing attributes with
  | nil => exact h
  | cons e rest ih => exact ih (nodup_put h _ _)

/-- Where no name comes twice, the last value under it is the only one. -/
theorem last?_of_nodup {attributes : Attributes} (h : (attributes.map (·.1)).Nodup)
    (name : String) : attributes.last? name = attributes.get? name := by
  induction attributes with
  | nil => rfl
  | cons e rest ih =>
    obtain ⟨hnew, hrest⟩ := List.nodup_cons.mp h
    rw [last?, ih hrest, get?_cons]
    split
    next hname =>
      obtain rfl := eq_of_beq hname
      have hnone : get? rest e.1 = none := by
        unfold get?
        rw [List.lookup_eq_none_iff]
        intro a ha
        rw [bne_iff_ne]
        intro hsame
        exact hnew (List.mem_map.mpr ⟨a, ha, hsame.symm⟩)
      rw [hnone]
      rfl
    next => exact Option.or_none ..

end Attributes

/-! ## Column marks -/

/-- What a marker of an annotation says about the column. -/
def Value.said : Value → Attributes
  | .marker given => given
  | _ => []

/-- What the column marks of an annotation say, from left to right. -/
def TypeExpr.said : TypeExpr → Attributes
  | .annotated _ markers => markers.flatMap Value.said
  | _ => []

theorem get?_splitAnnotated (t : TypeExpr) (name : String) :
    (splitAnnotated t).2.get? name = t.said.last? name := by
  have hmarked : ∀ (markers : List Value) (as : Attributes),
      Attributes.get? (markers.foldl (fun as m =>
        match m with
        | .marker given => as.merge given
        | _ => as) as) name =
          (Attributes.last? (markers.flatMap Value.said) name).or (as.get? name) := by
    intro markers
    induction markers with
    | nil => exact fun _ => rfl
    | cons m rest ih =>
      intro as
      rw [List.foldl_cons, ih, List.flatMap_cons, Attributes.last?_append, Option.or_assoc]
      congr 1
      cases m with
      | marker given => exact Attributes.get?_merge as given name
      | _ => rfl
  cases t with
  | annotated base markers => exact (hmarked markers []).trans (Option.or_none ..)
  | _ => rfl

theorem nodup_splitAnnotated (t : TypeExpr) : ((splitAnnotated t).2.map (·.1)).Nodup := by
  have hmarked : ∀ (markers : List Value) {as : Attributes}, (as.map (·.1)).Nodup →
      ((markers.foldl (fun as m =>
        match m with
        | .marker given => as.merge given
        | _ => as) as).map (·.1)).Nodup := by
    intro markers
    induction markers with
    | nil => exact fun h => h
    | cons m rest ih =>
      intro as h
      refine ih ?_
      cases m with
      | marker given => exact Attributes.nodup_merge h given
      | _ => exact h
  cases t with
  | annotated base markers => exact hmarked markers List.nodup_nil
  | _ => exact List.nodup_nil

/-- Those of some names that something but nothing was given for stand with it. -/
theorem get?_filterMap_given (given : Attributes) (names : List String) (name : String) :
    Attributes.get? (names.filterMap fun name =>
      match given.get? name with
      | none | some .none => none
      | some v => some (name, v)) name =
        if names.contains name then (given.get? name).filter (!· matches .none) else none := by
  induction names with
  | nil => rfl
  | cons n rest ih =>
    rw [List.filterMap_cons, List.contains_cons]
    by_cases hname : name = n
    · subst hname
      rw [beq_self_eq_true, Bool.true_or, if_pos rfl]
      cases hgiven : given.get? name with
      | none =>
        dsimp only
        rw [ih, hgiven]
        exact ite_self _
      | some v =>
        cases v with
        | none =>
          dsimp only
          rw [ih, hgiven]
          exact ite_self _
        | _ =>
          dsimp only
          rw [Attributes.get?_cons, if_pos (beq_self_eq_true _)]
          rfl
    · have hother : (n == name) = false := beq_eq_false_iff_ne.mpr (Ne.symm hname)
      rw [beq_eq_false_iff_ne.mpr hname, Bool.false_or]
      split
      next => exact ih
      next e heq =>
        have he : e.1 = n := by
          split at heq <;> cases heq
          rfl
        rw [Attributes.get?_cons, he, hother, if_neg Bool.false_ne_true]
        exact ih

/-- A column mark holds what was given for it, but nothing that was given as nothing. -/
theorem get?_columnMarker {given marked : Attributes} (h : columnMarker given = .ok marked)
    (name : String) : marked.get? name = (given.get? name).filter (!· matches .none) := by
  unfold columnMarker at h
  split at h
  · cases h
  next hknown =>
    cases h
    refine (get?_filterMap_given given directiveNames name).trans ?_
    split
    · rfl
    next hno =>
      -- A name that is no directive was not given.
      have hnone : given.get? name = none := by
        unfold Attributes.get?
        rw [List.lookup_eq_none_iff]
        intro e he
        have hdirective := List.find?_eq_none.mp hknown e he
        rw [bne_iff_ne]
        rintro rfl
        exact hdirective (by simpa using hno)
      rw [hnone]
      rfl

/-! ## Where fields are declared -/

/-- Where a field of a target is declared, with its metadata and its annotation: every name in that
is looked up. Only fields of records have metadata, and only what a built-in class takes has no
annotation: the class itself, or one that is made like it. -/
inductive DeclaredAt (table : ClassTable) (f : FieldSchema) :
    TypeExpr → Attributes → TypeExpr → Prop
  | item {form : TupleForm} {items : List TypeExpr} {hint : TypeExpr}
      (unnamed : f.name = none) (place : items[f.ordinal]? = some hint) :
      DeclaredAt table f (.tupleOf form items) [] hint
  | record {c : ClassRef} {info : ClassInfo} {keys : KeyUse}
      {annotations : List (String × TypeExpr)} {d : FieldDeclaration}
      (schema : table.schemaOf? c = some info) (form : info.ref.form = .dataclass keys)
      (resolved : resolveAnnotations table c.name info.annotations = .ok annotations)
      (field : d ∈ info.fields) (taken : d.inConstructor = true) (name : f.name = some d.name) :
      DeclaredAt table f (.declared c) d.metadata ((annotations.lookup d.name).getD .any)
  | checked {c : ClassRef} {info : ClassInfo} {keys : KeyUse} {d : FieldDeclaration}
      (schema : table.schemaOf? c = some info) (form : info.ref.form = .model keys)
      (field : d ∈ info.fields) (name : f.name = some d.name) :
      DeclaredAt table f (.declared c) [] (d.declaredType.getD .any).ofNone
  | position {c : ClassRef} {info : ClassInfo} {annotations : List (String × TypeExpr)}
      {d : FieldDeclaration} (schema : table.schemaOf? c = some info)
      (form : info.ref.form = .namedTuple)
      (resolved : resolveAnnotations table c.name info.annotations = .ok annotations)
      (field : d ∈ info.fields) (name : f.name = some d.name) :
      DeclaredAt table f (.declared c) [] ((annotations.lookup d.name).getD .any)
  | parameter {c : ClassRef} {maker : Constructor} {annotations : List (String × TypeExpr)}
      {name : String} (unstructured : table.schemaOf? c = none)
      (callable : (table.info c).replaced = none)
      (constructor : (table.info c).constructor? = some maker)
      (resolved : resolveAnnotations table (table.info c).ref.name
        (annotationsOf maker.parameters) = .ok annotations)
      (taken : name ∈ maker.receiver :: maker.parameters.map (·.name))
      (parameter : f.name = some name) :
      DeclaredAt table f (.declared c) [] ((annotations.lookup name).getD .any)
  | builtin {b : Builtin} (field : f ∈ builtinFields b) : DeclaredAt table f (.builtin b) [] .any
  | extension {c : ClassRef} {b : Builtin} (unstructured : table.schemaOf? c = none)
      (callable : (table.info c).replaced = none)
      (inherited : (table.info c).constructor? = none)
      (form : (table.info c).ref.form = .extension b) (field : f ∈ builtinFields b) :
      DeclaredAt table f (.declared c) [] .any

/-- The directives of a field by itself are its metadata and, before that, what the column marks of
its annotation say. -/
def FieldSchema.Merges (f : FieldSchema) (metadata : Attributes) (hint : TypeExpr) : Prop :=
  f.fieldType = (splitAnnotated hint).1 ∧
    ∀ name, f.attributes.get? name = (hint.said.last? name).or (metadata.get? name)

section

variable {table : ClassTable} {f : FieldSchema}

theorem mem_numbered {fields : List (String × TypeExpr × Attributes × Option Supply)}
    (hf : f ∈ numbered fields) :
    ∃ e ∈ fields, f.name = some e.1 ∧ f.fieldType = e.2.1 ∧ f.attributes = e.2.2.1 := by
  obtain ⟨⟨e, i⟩, he, rfl⟩ := List.mem_map.mp hf
  exact ⟨e, List.fst_mem_of_mem_zipIdx he, rfl, rfl, rfl⟩

theorem merges_of_marks {hint : TypeExpr} (htype : f.fieldType = (splitAnnotated hint).1)
    (hmarks : f.attributes = (splitAnnotated hint).2) : f.Merges [] hint := by
  refine ⟨htype, fun name => ?_⟩
  rw [hmarks, get?_splitAnnotated]
  exact (Option.or_none ..).symm

theorem aliasFields_declared {t : TypeExpr} {fields : List FieldSchema}
    (h : aliasFields t = .ok fields) (hf : f ∈ fields) :
    ∃ metadata hint, DeclaredAt table f t metadata hint ∧
      f.Merges metadata hint := by
  unfold aliasFields at h
  split at h
  · cases h
  · cases h
    obtain ⟨⟨hint, i⟩, hi, rfl⟩ := List.mem_map.mp hf
    exact ⟨[], hint, .item rfl (List.mem_zipIdx_iff_getElem?.mp hi), merges_of_marks rfl rfl⟩
  · cases h
    cases hf

/-- What a built-in class takes has nothing said about it. -/
theorem merges_of_builtinFields {b : Builtin} (hf : f ∈ builtinFields b) : f.Merges [] .any := by
  unfold builtinFields at hf
  split at hf
  · obtain ⟨e, he, -, htype, hattributes⟩ := mem_numbered hf
    have hany : e.2.1 = .any ∧ e.2.2.1 = [] := by
      rcases List.mem_append.mp he with he | he
      · obtain ⟨name, -, rfl⟩ := List.mem_map.mp he
        exact ⟨rfl, rfl⟩
      · rw [List.mem_singleton.mp he]
        exact ⟨rfl, rfl⟩
    rw [hany.1] at htype
    rw [hany.2] at hattributes
    exact merges_of_marks htype hattributes
  · cases hf

theorem constructorFields_declared {c : ClassRef} (hschema : table.schemaOf? c = none)
    (hreplaced : (table.info c).replaced = none) {maker : Constructor}
    (hmaker : (table.info c).constructor? = some maker)
    {fields : List FieldSchema}
    (h : constructorFields table (table.info c).ref.name maker = .ok fields) (hf : f ∈ fields) :
    ∃ metadata hint, DeclaredAt table f (.declared c) metadata hint ∧
      f.Merges metadata hint := by
  unfold constructorFields at h
  dsimp only at h
  generalize hreceivers : (if maker.receiver == "self" then []
    else [{ (default : FieldDeclaration) with name := maker.receiver }]) = receivers at h
  have hreceiver : ∀ d ∈ receivers, d.name = maker.receiver := by
    intro d hd
    rw [← hreceivers] at hd
    split at hd
    · cases hd
    · rw [List.mem_singleton.mp hd]
  split at h
  · cases h
    cases hf
  · obtain ⟨annotations, hresolved, h⟩ := Running.bind_eq_ok.mp h
    cases h
    obtain ⟨e, he, hname, htype, hattributes⟩ := mem_numbered hf
    obtain ⟨d, hd, rfl⟩ := List.mem_map.mp he
    have hparameter : d.name ∈ maker.receiver :: maker.parameters.map (·.name) := by
      rcases List.mem_append.mp (List.mem_of_mem_filter hd) with hd | hd
      · rw [hreceiver d hd]
        exact List.mem_cons_self ..
      · exact List.mem_cons_of_mem _ (List.mem_map_of_mem hd)
    exact ⟨[], _, .parameter hschema hreplaced hmaker hresolved hparameter hname,
      merges_of_marks htype hattributes⟩

/-- Every field of a declared class is declared in one of these ways. -/
theorem declaredFields_declared {c : ClassRef} {addressing : Addressing}
    {fields : List FieldSchema} (h : declaredFields table c = .ok (addressing, fields))
    (hf : f ∈ fields) :
    ∃ metadata hint, DeclaredAt table f (.declared c) metadata hint ∧
      f.Merges metadata hint := by
  unfold declaredFields at h
  split at h
  next hschema =>
    obtain ⟨found, hplain, h⟩ := Running.bind_eq_ok.mp h
    cases h
    unfold plainFields at hplain
    split at hplain
    next maker _ hreplaced hmaker =>
      exact constructorFields_declared hschema hreplaced hmaker hplain hf
    next b hreplaced hmaker hform =>
      cases hplain
      exact ⟨[], .any, .extension hschema hreplaced hmaker hform hf, merges_of_builtinFields hf⟩
    · cases hplain
      cases hf
  next info hschema =>
    split at h
    next hform =>
      obtain ⟨found, hfields, h⟩ := Running.bind_eq_ok.mp h
      cases h
      unfold tupleClassFields at hfields
      obtain ⟨annotations, hresolved, hfields⟩ := Running.bind_eq_ok.mp hfields
      cases hfields
      obtain ⟨e, he, hname, htype, hattributes⟩ := mem_numbered hf
      obtain ⟨d, hd, rfl⟩ := List.mem_map.mp he
      exact ⟨[], _, .position hschema hform hresolved hd hname, merges_of_marks htype hattributes⟩
    next keys hform =>
      cases h
      obtain ⟨e, he, hname, htype, hattributes⟩ := mem_numbered hf
      obtain ⟨d, hd, rfl⟩ := List.mem_map.mp he
      exact ⟨[], _, .checked hschema hform hd hname, merges_of_marks htype hattributes⟩
    next htuple hmodel =>
      obtain ⟨found, hfields, h⟩ := Running.bind_eq_ok.mp h
      cases h
      unfold recordFields at hfields
      obtain ⟨annotations, hresolved, hfields⟩ := Running.bind_eq_ok.mp hfields
      cases hfields
      obtain ⟨e, he, hname, htype, hattributes⟩ := mem_numbered hf
      obtain ⟨d, hd, rfl⟩ := List.mem_map.mp he
      obtain ⟨keys, hform⟩ : ∃ keys, info.ref.form = .dataclass keys := by
        have hisSchema := List.find?_some hschema
        cases hform : info.ref.form with
        | dataclass keys => exact ⟨keys, rfl⟩
        | model keys => exact absurd hform (hmodel keys)
        | namedTuple => exact absurd hform htuple
        | _ => rw [hform] at hisSchema; cases hisSchema
      obtain ⟨hd, htaken⟩ := List.mem_filter.mp hd
      refine ⟨d.metadata, _, .record hschema hform hresolved hd htaken hname, htype,
        fun name => ?_⟩
      rw [hattributes]
      dsimp only
      rw [Attributes.get?_merge, typeAndMarks, Attributes.last?_of_nodup (nodup_splitAnnotated _),
        get?_splitAnnotated]

/-- Every field of a schema is declared in one of these ways. -/
theorem introspect_declared_at {t : TypeExpr} {schema : Schema}
    (h : introspect table t = .ok schema) (hf : f ∈ schema.fields) :
    ∃ metadata hint, DeclaredAt table f t metadata hint ∧
      f.Merges metadata hint := by
  rcases (introspect_ok h).2 with ⟨-, -, halias⟩ | ⟨b, rfl, -, hb⟩ | ⟨c, rfl, hfields⟩
  · exact aliasFields_declared halias hf
  · rw [hb] at hf
    exact ⟨[], .any, .builtin hf, merges_of_builtinFields hf⟩
  · exact declaredFields_declared hfields hf

end

/-! ## Calls on a builder -/

namespace Overrides

section

variable (name : String) (attributes : Attributes) (fields : List (String × Attributes))

theorem lookup_putField (field : String) :
    (putField name attributes fields).lookup field =
      if name == field then some (((fields.lookup field).getD []).merge attributes)
      else fields.lookup field := by
  induction fields with
  | nil =>
    rw [putField, List.lookup_cons, Bool.beq_comm]
    cases name == field <;> rfl
  | cons e rest ih =>
    obtain ⟨n, old⟩ := e
    unfold putField
    by_cases hn : n = name
    · subst hn
      rw [if_pos (beq_self_eq_true _), List.lookup_cons, List.lookup_cons, Bool.beq_comm]
      cases n == field <;> rfl
    · rw [if_neg (by simpa using hn), List.lookup_cons, List.lookup_cons, ih]
      by_cases hfield : field = n
      · subst hfield
        have hname : ¬(name == field) = true := by simpa using Ne.symm hn
        rw [beq_self_eq_true, if_neg hname, if_neg hname]
      · rw [beq_eq_false_iff_ne.mpr hfield]

theorem names_putField : (putField name attributes fields).map (·.1) =
    if (fields.map (·.1)).contains name then fields.map (·.1) else fields.map (·.1) ++ [name] := by
  induction fields with
  | nil => rfl
  | cons e rest ih =>
    obtain ⟨n, old⟩ := e
    unfold putField
    rw [List.map_cons, List.contains_cons]
    by_cases hn : n = name
    · subst hn
      rw [if_pos (beq_self_eq_true _), beq_self_eq_true, Bool.true_or, if_pos rfl]
      rfl
    · rw [if_neg (by simpa using hn), List.map_cons, ih,
        beq_eq_false_iff_ne.mpr (Ne.symm hn), Bool.false_or]
      split <;> rfl

end

end Overrides

/-- A call on the builder of a plan. -/
inductive BuilderCall where
  | renameAll (convention : Value)
  | field (name : String) (attributes : Attributes)

namespace BuilderCall

/-- What a call makes of the directives so far. -/
def apply (o : Overrides) : BuilderCall → Except Failure Overrides
  | renameAll convention => .ok (o.renameAll convention)
  | field name attributes => o.field name attributes

/-- The convention that a call sets. -/
def convention? : BuilderCall → Option Value
  | renameAll convention => some convention
  | field .. => none

/-- The field that a call names. -/
def name? : BuilderCall → Option String
  | renameAll _ => none
  | field name _ => some name

/-- What a call says about a field. -/
def about (target : String) : BuilderCall → Attributes
  | renameAll _ => []
  | field name attributes => if name == target then attributes else []

/-- The directives from outside after calls on a new builder. -/
def overrides (calls : List BuilderCall) : Except Failure Overrides :=
  calls.foldlM apply Overrides.none

/-- The convention that calls set last. -/
def lastConvention (calls : List BuilderCall) : Option Value :=
  (calls.filterMap convention?).getLast?

/-- The fields that calls name. -/
def named (calls : List BuilderCall) : List String :=
  calls.filterMap name?

/-- What calls say about a field, one after the other. -/
def said (calls : List BuilderCall) (name : String) : Attributes :=
  calls.flatMap (·.about name)

/-- The directives from outside sum up calls: they hold the last convention, the last value for every
field and name, and the named fields, each once. -/
structure SummedUp (calls : List BuilderCall) (o : Overrides) : Prop where
  convention : o.convention = lastConvention calls
  said : ∀ field name,
    ((o.fields.lookup field).getD []).get? name = (said calls field).last? name
  named : ∀ field, field ∈ o.fields.map (·.1) ↔ field ∈ named calls
  nodup : (o.fields.map (·.1)).Nodup
  single : ∀ field, (((o.fields.lookup field).getD []).map (·.1)).Nodup

/-- One more call is summed up with the others. -/
theorem SummedUp.step {calls : List BuilderCall} {o o' : Overrides} (h : SummedUp calls o)
    {call : BuilderCall} (hcall : call.apply o = .ok o') : SummedUp (calls ++ [call]) o' := by
  cases call with
  | renameAll convention =>
    cases hcall
    refine ⟨?_, fun field name => ?_, fun field => ?_, h.nodup, h.single⟩
    · unfold lastConvention
      rw [List.filterMap_append]
      exact (List.getLast?_concat ..).symm
    · unfold BuilderCall.said
      rw [List.flatMap_append, show [renameAll convention].flatMap (·.about field) = [] from rfl,
        List.append_nil]
      exact h.said field name
    · unfold BuilderCall.named
      rw [List.filterMap_append, show [renameAll convention].filterMap name? = [] from rfl,
        List.append_nil]
      exact h.named field
  | field name attributes =>
    change o.field name attributes = .ok o' at hcall
    unfold Overrides.field at hcall
    split at hcall
    · cases hcall
    · cases hcall
      refine ⟨?_, fun field key => ?_, fun field => ?_, ?_, fun field => ?_⟩
      · unfold lastConvention
        rw [List.filterMap_append, show [BuilderCall.field name attributes].filterMap convention? =
          [] from rfl, List.append_nil]
        exact h.convention
      · unfold BuilderCall.said
        dsimp only
        rw [List.flatMap_append, Attributes.last?_append, Overrides.lookup_putField,
          show [BuilderCall.field name attributes].flatMap (·.about field) =
            if name == field then attributes else [] from List.append_nil _]
        split
        · rw [Option.getD_some, Attributes.get?_merge, h.said]
          rfl
        · exact h.said field key
      · unfold BuilderCall.named
        dsimp only
        rw [List.filterMap_append, List.mem_append, Overrides.names_putField,
          show [BuilderCall.field name attributes].filterMap name? = [name] from rfl,
          List.mem_singleton]
        split
        next hold =>
          rw [h.named]
          refine (or_iff_left_of_imp ?_).symm
          rintro rfl
          exact (h.named _).mp (List.contains_iff_mem.mp hold)
        next => rw [List.mem_append, List.mem_singleton, h.named]; rfl
      · dsimp only
        rw [Overrides.names_putField]
        exact nodup_named h.nodup name
      · dsimp only
        rw [Overrides.lookup_putField]
        split
        · exact Attributes.nodup_merge (h.single field) attributes
        · exact h.single field

/-- The directives from outside sum up the calls. -/
theorem summedUp {calls : List BuilderCall} {o : Overrides} (h : overrides calls = .ok o) :
    SummedUp calls o := by
  induction calls using List.reverseRecOn generalizing o with
  | nil =>
    cases h
    exact ⟨rfl, fun _ _ => rfl, fun _ => Iff.rfl, List.nodup_nil, fun _ => List.nodup_nil⟩
  | append_singleton calls call ih =>
    unfold overrides at h
    rw [List.foldlM_append] at h
    obtain ⟨before, hbefore, h⟩ := Running.bind_eq_ok.mp h
    rw [List.foldlM_cons] at h
    obtain ⟨after, hafter, h⟩ := Running.bind_eq_ok.mp h
    cases h
    exact (ih hbefore).step hafter

/-- The names of two parameters of the builder are not among some names. -/
theorem find?_reserved_eq_none {attributes : Attributes} :
    (attributes.find? fun (key, _) => key == "name" || key == "self") = none ↔
      ∀ e ∈ attributes, e.1 ≠ "name" ∧ e.1 ≠ "self" := by
  rw [List.find?_eq_none]
  simp

/-- A call is made just if it does not use the name of a parameter that it has itself. -/
theorem apply_isOk_iff (o : Overrides) (call : BuilderCall) : (∃ o', call.apply o = .ok o') ↔
    ∀ field, ∀ e ∈ call.about field, e.1 ≠ "name" ∧ e.1 ≠ "self" := by
  cases call with
  | renameAll convention => exact ⟨fun _ _ _ h => (nomatch h), fun _ => ⟨_, rfl⟩⟩
  | field name attributes =>
    show (∃ o', o.field name attributes = .ok o') ↔
      ∀ field, ∀ e ∈ (if name == field then attributes else []), e.1 ≠ "name" ∧ e.1 ≠ "self"
    unfold Overrides.field
    constructor
    · rintro ⟨o', ho'⟩ field e he
      split at ho'
      · cases ho'
      next hnone =>
        refine find?_reserved_eq_none.mp hnone e ?_
        split at he
        · exact he
        · exact absurd he List.not_mem_nil
    · intro hall
      have hown := hall name
      rw [if_pos (beq_self_eq_true name)] at hown
      rw [find?_reserved_eq_none.mpr hown]
      exact ⟨_, rfl⟩

/-- Calls are made just if none of them uses the name of a parameter that it has itself. -/
theorem overrides_isOk_iff {calls : List BuilderCall} : (∃ o, overrides calls = .ok o) ↔
    ∀ field, (said calls field).last? "name" = none ∧ (said calls field).last? "self" = none := by
  have hcalls : ∀ (calls : List BuilderCall) (o : Overrides),
      (∃ o', calls.foldlM apply o = .ok o') ↔
        ∀ call ∈ calls, ∀ field, ∀ e ∈ call.about field, e.1 ≠ "name" ∧ e.1 ≠ "self" := by
    intro calls
    induction calls with
    | nil => exact fun o => ⟨fun _ _ h => (nomatch h), fun _ => ⟨o, rfl⟩⟩
    | cons call rest ih =>
      intro o
      rw [List.forall_mem_cons, ← apply_isOk_iff o call, List.foldlM_cons]
      constructor
      · rintro ⟨o', ho'⟩
        obtain ⟨between, hcall, hrest⟩ := Running.bind_eq_ok.mp ho'
        exact ⟨⟨between, hcall⟩, (ih between).mp ⟨o', hrest⟩⟩
      · rintro ⟨⟨between, hcall⟩, hrest⟩
        obtain ⟨o', ho'⟩ := (ih between).mpr hrest
        exact ⟨o', Running.bind_eq_ok.mpr ⟨between, hcall, ho'⟩⟩
  unfold overrides said
  rw [hcalls]
  simp only [Attributes.last?_eq_none, List.mem_flatMap]
  constructor
  · exact fun h field => ⟨fun e ⟨call, hcall, he⟩ => (h call hcall field e he).1,
      fun e ⟨call, hcall, he⟩ => (h call hcall field e he).2⟩
  · exact fun h call hcall field e he =>
      ⟨(h field).1 e ⟨call, hcall, he⟩, (h field).2 e ⟨call, hcall, he⟩⟩

/-- What is said about a field is what the calls say last, or else what the target says. -/
theorem SummedUp.raw {calls : List BuilderCall} {o : Overrides} (h : SummedUp calls o)
    (f : FieldSchema) (name : String) :
    (Compile.rawDirectives o f).get? name =
      ((BuilderCall.said calls (f.name.getD "")).last? name).or (f.attributes.get? name) := by
  unfold Compile.rawDirectives
  rw [Attributes.get?_merge, Attributes.last?_of_nodup (h.single _), h.said]

/-- Calls that say the same last about every field, name the same fields and set the same convention
last. -/
structure SayTheSame (calls calls' : List BuilderCall) : Prop where
  convention : lastConvention calls = lastConvention calls'
  said : ∀ field name,
    (BuilderCall.said calls field).last? name = (BuilderCall.said calls' field).last? name
  named : ∀ field, field ∈ BuilderCall.named calls ↔ field ∈ BuilderCall.named calls'

end BuilderCall

/-! ## Checks of directives -/

/-- Results that are the same, or both say that directives of the same owner are at fault. -/
inductive SameReport {α : Type} : Except Failure α → Except Failure α → Prop
  | same (x : Except Failure α) : SameReport x x
  | attributes (owner message message' : Value) (cause cause' : Option Failure) :
      SameReport (.error (.schema (.attributes owner message) cause))
        (.error (.schema (.attributes owner message') cause'))

section

variable {raw raw' : Attributes}

/-- No name is unknown just if every name with a value is that of a directive. -/
theorem unknownIssues_eq_nil : unknownIssues raw = [] ↔
    ∀ name, (raw.get? name).isSome = true → directiveNames.contains name = true := by
  unfold unknownIssues
  rw [List.map_eq_nil_iff, List.filter_eq_nil_iff]
  constructor
  · intro h name hname
    obtain ⟨v, hv⟩ := Option.isSome_iff_exists.mp hname
    simpa using h (name, v) (mem_of_lookup hv)
  · intro h e he
    have hsome : (raw.get? e.1).isSome = true := by
      unfold Attributes.get?
      rw [Option.isSome_iff_ne_none, Ne, List.lookup_eq_none_iff]
      intro hno
      simpa using hno e he
    simpa using h e.1 hsome

/-- Unknown names are at fault whatever the others are. -/
theorem resolveField_unknown (h : unknownIssues raw ≠ []) (owner : String) :
    ∃ issues, resolveField raw owner = .error (directiveFailure owner issues) := by
  unfold resolveField
  dsimp only
  split
  next hnone => exact absurd hnone h
  next => exact ⟨_, rfl⟩

/-- Directives with the same values under the same names are resolved to the same, or at fault
alike. -/
theorem resolveField_congr (h : ∀ name, raw.get? name = raw'.get? name) (owner : String) :
    SameReport (resolveField raw owner) (resolveField raw' owner) := by
  by_cases hunknown : unknownIssues raw = []
  · have hunknown' : unknownIssues raw' = [] := by
      rw [unknownIssues_eq_nil] at hunknown ⊢
      exact fun name hname => hunknown name (h name ▸ hname)
    have hresolved : resolveField raw owner = resolveField raw' owner := by
      unfold resolveField checkRename checkFlag checkTryFrom
      rw [h, h, h, h, hunknown, hunknown']
    rw [hresolved]
    exact .same _
  · have hunknown' : unknownIssues raw' ≠ [] := by
      intro hno
      rw [unknownIssues_eq_nil] at hno hunknown
      exact hunknown fun name hname => hno name (h name ▸ hname)
    obtain ⟨issues, hissues⟩ := resolveField_unknown hunknown owner
    obtain ⟨issues', hissues'⟩ := resolveField_unknown hunknown' owner
    rw [hissues, hissues']
    exact .attributes ..

/-! ### Nothing as a value -/

theorem get?_without (name other : String) :
    Attributes.get? (raw.filter (·.1 != name)) other =
      if name == other then none else raw.get? other := by
  induction raw with
  | nil => exact (ite_self _).symm
  | cons e rest ih =>
    rw [List.filter_cons, Attributes.get?_cons]
    split
    next hkept =>
      rw [Attributes.get?_cons, ih]
      split
      next hother =>
        obtain rfl := eq_of_beq hother
        rw [if_neg]
        intro hsame
        obtain rfl := eq_of_beq hsame
        simp at hkept
      next => rfl
    next hdropped =>
      rw [ih]
      split
      · rfl
      next hname =>
        rw [if_neg]
        intro hsame
        obtain rfl := eq_of_beq hsame
        exact hdropped (bne_iff_ne.mpr fun h => hname (beq_iff_eq.mpr h.symm))

/-- Nothing in the place of a name for the column or of a type to read is as if it was not there. -/
theorem resolveField_cleared {name : String} (hname : name = "rename" ∨ name = "try_from")
    (h : raw.get? name = some .none) (owner : String) :
    resolveField (raw.filter (·.1 != name)) owner = resolveField raw owner := by
  have hunknown : unknownIssues (raw.filter (·.1 != name)) = unknownIssues raw := by
    unfold unknownIssues
    rw [List.filter_filter]
    congr 1
    refine List.filter_congr fun (k, v) _ => ?_
    by_cases hk : k = name
    · subst hk
      rcases hname with rfl | rfl <;> rfl
    · rw [bne_iff_ne.mpr hk, Bool.and_true]
  have hflatten : Attributes.get? (raw.filter (·.1 != name)) "flatten" = raw.get? "flatten" := by
    rw [get?_without]
    rcases hname with rfl | rfl <;> rfl
  have hdefault : Attributes.get? (raw.filter (·.1 != name)) "default" = raw.get? "default" := by
    rw [get?_without]
    rcases hname with rfl | rfl <;> rfl
  have hrename : checkRename (raw.filter (·.1 != name)) = checkRename raw := by
    unfold checkRename
    rw [get?_without]
    rcases hname with rfl | rfl
    · rw [h]; rfl
    · rfl
  have htryFrom : checkTryFrom (raw.filter (·.1 != name)) = checkTryFrom raw := by
    unfold checkTryFrom
    rw [get?_without]
    rcases hname with rfl | rfl
    · rfl
    · rw [h]; rfl
  unfold resolveField checkFlag
  rw [hrename, htryFrom, hunknown, hflatten, hdefault]

/-- Nothing in the place of a truth value is refused. -/
theorem resolveField_refused {name : String} (hname : name = "flatten" ∨ name = "default")
    (h : raw.get? name = some .none) (owner : String) :
    ∃ issues, resolveField raw owner = .error (directiveFailure owner issues) := by
  have hflag : ∃ issue, checkFlag raw name = .error issue := by
    unfold checkFlag
    rw [h]
    exact ⟨_, rfl⟩
  obtain ⟨issue, hissue⟩ := hflag
  unfold resolveField
  dsimp only
  split
  next hflatten _ hdefault _ =>
    rcases hname with rfl | rfl
    · cases hissue.symm.trans hflatten
    · cases hissue.symm.trans hdefault
  next => exact ⟨_, rfl⟩

end

/-! ## Builds that report the same -/

namespace Compile

/-- Computations in a registry that leave it in the same state, with the same result or with the
failure that directives of the same owner are at fault. -/
def Reports {α : Type} (m m' : Compile α) : Prop :=
  ∀ r : Registry, SameReport (m.run r).1 (m'.run r).1 ∧ (m.run r).2 = (m'.run r).2

namespace Reports

variable {α β : Type}

theorem refl (m : Compile α) : Reports m m :=
  fun _ => ⟨.same _, rfl⟩

theorem lift {e e' : Except Failure α} (h : SameReport e e') :
    Reports (Compile.lift e) (Compile.lift e') := by
  intro r
  cases h with
  | same x => exact ⟨.same _, rfl⟩
  | attributes owner message message' cause cause' => exact ⟨.attributes .., rfl⟩

theorem bind {m m' : Compile α} {k k' : α → Compile β} (hm : Reports m m')
    (hk : ∀ a, Reports (k a) (k' a)) : Reports (m >>= k) (m' >>= k') := by
  intro r
  obtain ⟨hresult, hstate⟩ := hm r
  rw [Running.run_bind, Running.run_bind]
  rcases hrun : m.run r with ⟨x, s⟩
  rcases hrun' : m'.run r with ⟨x', s'⟩
  rw [hrun, hrun'] at hresult hstate
  obtain rfl : s = s' := hstate
  cases hresult with
  | same x =>
    cases x with
    | ok a => exact hk a s
    | error f => exact ⟨.same _, rfl⟩
  | attributes owner message message' cause cause' => exact ⟨.attributes .., rfl⟩

theorem mapM {f f' : α → Compile β} {l : List α} (h : ∀ a ∈ l, Reports (f a) (f' a)) :
    Reports (l.mapM f) (l.mapM f') := by
  induction l with
  | nil => exact .refl _
  | cons a l ih =>
    rw [List.mapM_cons, List.mapM_cons]
    refine bind (h a (List.mem_cons_self ..)) fun b => ?_
    exact bind (ih fun i hi => h i (List.mem_cons_of_mem _ hi)) fun bs => .refl _

end Reports

section

variable {calls calls' : List BuilderCall} {o o' : Overrides} {schema : Schema}

/-- The names from outside that are no fields, sorted. -/
def unknownNames (schema : Schema) (o : Overrides) : List String :=
  ((o.fields.map (·.1)).filter fun name => !schema.fields.any (·.name == some name)).mergeSort
    fun a b => decide (a ≤ b)

theorem unknownNames_sorted (schema : Schema) (o : Overrides) :
    (unknownNames schema o).Pairwise (· ≤ ·) :=
  List.pairwise_mergeSort' (· ≤ ·) _

theorem nodup_unknownNames (h : BuilderCall.SummedUp calls o) (schema : Schema) :
    (unknownNames schema o).Nodup :=
  (List.mergeSort_perm _ _).nodup_iff.mpr (h.nodup.filter _)

theorem mem_unknownNames (h : BuilderCall.SummedUp calls o) {name : String} :
    name ∈ unknownNames schema o ↔
      name ∈ BuilderCall.named calls ∧ ∀ f ∈ schema.fields, f.name ≠ some name := by
  unfold unknownNames
  rw [List.mem_mergeSort, List.mem_filter, h.named]
  simp

/-- Unknown names are all reported, in order, and nothing else is checked of the names. -/
theorem checkOverrides_eq (schema : Schema) (o : Overrides) : checkOverrides schema o =
    if (unknownNames schema o).isEmpty then .ok ()
    else .error (.schema (.attributes (.text schema.name) (.text ("unknown field(s) [" ++
      commaSeparated ((unknownNames schema o).map Text.quote) ++ "]"))) none) := by
  unfold checkOverrides
  dsimp only
  have hempty : ∀ l : List String,
      (l.mergeSort fun a b => decide (a ≤ b)).isEmpty = l.isEmpty := by
    intro l
    rw [Bool.eq_iff_iff, List.isEmpty_iff_length_eq_zero, List.isEmpty_iff_length_eq_zero,
      List.length_mergeSort]
  unfold unknownNames
  rw [hempty]

/-- The same names are unknown. -/
theorem unknownNames_congr (h : BuilderCall.SummedUp calls o) (h' : BuilderCall.SummedUp calls' o')
    (hsame : BuilderCall.SayTheSame calls calls') (schema : Schema) :
    unknownNames schema o = unknownNames schema o' := by
  refine List.Perm.eq_of_pairwise' (unknownNames_sorted schema o) (unknownNames_sorted schema o') ?_
  rw [List.perm_ext_iff_of_nodup (nodup_unknownNames h schema) (nodup_unknownNames h' schema)]
  intro name
  rw [mem_unknownNames h, mem_unknownNames h', hsame.named]

/-- Calls that say the same build the same plan, or fail alike. -/
theorem build_reports (h : BuilderCall.SummedUp calls o) (h' : BuilderCall.SummedUp calls' o')
    (hsame : BuilderCall.SayTheSame calls calls') (table : ClassTable) (target : TypeExpr) :
    Reports (build table target o) (build table target o') := by
  have hcontainer : o.onContainer = o'.onContainer := by
    funext own
    unfold Overrides.onContainer
    rw [h.convention, h'.convention, hsame.convention]
  unfold build buildWith
  refine (Reports.refl _).bind fun schema => ?_
  rw [hcontainer, checkOverrides_eq, checkOverrides_eq, unknownNames_congr h h' hsame]
  refine (Reports.refl _).bind fun container => (Reports.refl _).bind fun _ => ?_
  refine Reports.bind (Reports.mapM fun f _ => ?_) fun compiled => .refl _
  unfold compileField
  refine Reports.bind (Reports.lift (resolveField_congr (fun name => ?_) _)) fun _ => .refl _
  rw [h.raw, h'.raw, hsame.said]

end

end Compile

/-! ## The convention of a target -/

namespace Entries

/-- Where a name is put among merged entries, every key is still there. -/
theorem exists_mem_add {kept : Entries} {a : Value × Value} (ha : a ∈ kept) (e : Value × Value) :
    ∃ b ∈ add kept e, b.1 = a.1 := by
  unfold add
  split
  · refine ⟨_, List.mem_map_of_mem ha, ?_⟩
    dsimp only
    split <;> rfl
  · exact ⟨a, List.mem_append_left _ ha, rfl⟩

end Entries

/-- A container without issues says nothing but a convention. -/
theorem asText_of_resolveContainer {raw : Entries} {owner : String} {d : ContainerDirectives}
    (h : resolveContainer raw owner = .ok d) : ∀ e ∈ raw, e.1.asText? = some "rename_all" := by
  have hissues : containerIssues raw = [] := by
    unfold resolveContainer at h
    dsimp only at h
    split at h
    next hunknown => exact hunknown
    next => cases h
  intro e he
  have hno := List.filterMap_eq_nil_iff.mp hissues e he
  dsimp only at hno
  split at hno
  next => cases hno
  next hname => exact hname
  next => cases hno

/-- What a target says about all its fields is merged. -/
theorem merged_of_introspect {table : ClassTable} {t : TypeExpr} {schema : Schema}
    (h : introspect table t = .ok schema) :
    Value.mergeEntries schema.container = schema.container := by
  have hnonEmpty : ∀ {s : Schema}, nonEmpty s = .ok schema → schema = s := by
    intro s hs
    unfold nonEmpty at hs
    split at hs <;> cases hs
    rfl
  unfold introspect at h
  split at h
  · cases h
  · split at h
    next =>
      obtain ⟨fields, -, h⟩ := Running.bind_eq_ok.mp h
      cases hnonEmpty h
      rfl
    next =>
      split at h
      · cases hnonEmpty h
        rfl
      next c _ _ =>
        split at h
        · cases h
        · obtain ⟨container, hcontainer, h⟩ := Running.bind_eq_ok.mp h
          obtain ⟨found, -, h⟩ := Running.bind_eq_ok.mp h
          cases hnonEmpty h
          unfold containerOf at hcontainer
          split at hcontainer
          · cases hcontainer
            rfl
          · split at hcontainer
            · cases hentries : Instance.entriesOf _ with
              | error e => rw [hentries] at hcontainer; cases hcontainer
              | ok entries =>
                rw [hentries] at hcontainer
                cases hcontainer
                exact Entries.mergeEntries_mergeEntries entries
            · cases hcontainer
              rfl
      · cases h

/-- The convention from outside prevails over that of the target. -/
theorem get?_onContainer {o : Overrides} {own : Entries} (hmerged : Value.mergeEntries own = own)
    {owner : String} {d : ContainerDirectives}
    (h : resolveContainer (o.onContainer own) owner = .ok d) :
    (o.onContainer own).get? "rename_all" = o.convention.or (own.get? "rename_all") := by
  have hnames := asText_of_resolveContainer h
  unfold Overrides.onContainer at hnames ⊢
  cases hconvention : o.convention with
  | none => rfl
  | some v =>
    rw [hconvention] at hnames
    dsimp only at hnames ⊢
    refine Entries.get?_put fun e he => ?_
    rw [Entries.put_eq, hmerged] at hnames
    obtain ⟨b, hb, hkey⟩ := Entries.exists_mem_add he (.text "rename_all", v)
    rw [← hkey]
    exact hnames b hb

/-! ## Mappers -/

namespace Mapper

/-- The calls on a builder that a mapper makes of what it is given. -/
def calls (renameAll : Option Value) (fields : List (String × Attributes)) : List BuilderCall :=
  renameAll.toList.map .renameAll ++ fields.map fun (name, attributes) => .field name attributes

theorem overridesOf_eq (renameAll : Option Value) (fields : List (String × Attributes)) :
    overridesOf renameAll fields = BuilderCall.overrides (calls renameAll fields) := by
  have hfields : ∀ (fields : List (String × Attributes)) (o : Overrides),
      fields.foldlM (fun o (name, attributes) => o.field name attributes) o =
        (fields.map fun (name, attributes) => BuilderCall.field name attributes).foldlM
          BuilderCall.apply o := by
    intro fields
    induction fields with
    | nil => exact fun _ => rfl
    | cons e rest ih =>
      intro o
      rw [List.map_cons, List.foldlM_cons, List.foldlM_cons]
      exact congrArg (o.field e.1 e.2 >>= ·) (funext ih)
  unfold overridesOf BuilderCall.overrides calls
  rw [List.foldlM_append]
  cases renameAll with
  | none => exact hfields fields _
  | some c => exact hfields fields _

end Mapper

/-! ## The merged directives and what follows -/

/-- Calls that say the same last are made if one sequence of them is. -/
theorem BuilderCall.SayTheSame.overrides_isOk {calls calls' : List BuilderCall}
    (hsame : SayTheSame calls calls') {o : Overrides} (h : overrides calls = .ok o) :
    ∃ o', overrides calls' = .ok o' := by
  have hfree := overrides_isOk_iff.mp ⟨o, h⟩
  refine overrides_isOk_iff.mpr fun field => ?_
  rw [← hsame.said, ← hsame.said]
  exact hfree field

/-- What calls name beside the fields of a target is refused, all of it and in order. -/
theorem build_unknown {calls : List BuilderCall} {o : Overrides}
    (h : BuilderCall.SummedUp calls o) {table : ClassTable} {target : TypeExpr} {schema : Schema}
    (hschema : introspect table target = .ok schema) {d : ContainerDirectives}
    (hcontainer : resolveContainer (o.onContainer schema.container) schema.name = .ok d) :
    ∃ unknown : List String, unknown.Pairwise (· < ·) ∧
      (∀ name, name ∈ unknown ↔
        name ∈ BuilderCall.named calls ∧ ∀ f ∈ schema.fields, f.name ≠ some name) ∧
      (unknown ≠ [] → ∀ r, (Compile.build table target o).run r =
        (.error (.schema (.attributes (.text schema.name) (.text ("unknown field(s) [" ++
          commaSeparated (unknown.map Text.quote) ++ "]"))) none), r)) := by
  refine ⟨Compile.unknownNames schema o, ?_, fun name => Compile.mem_unknownNames h,
    fun hsome r => ?_⟩
  · exact ((Compile.unknownNames_sorted schema o).and (Compile.nodup_unknownNames h schema)).imp
      fun hab => lt_of_le_of_ne hab.1 hab.2
  · unfold Compile.build Compile.buildWith
    rw [hschema, Compile.lift_ok_bind, hcontainer, Compile.lift_ok_bind, Compile.checkOverrides_eq,
      if_neg (by rwa [List.isEmpty_iff])]
    rfl

/-- **Directives merge name by name, and the last one counts.** Take any target and any calls on the
builder of its plan that can be made.

* What is said about each field of the target is, name by name, the last value of the column marks of
  its annotation from left to right and of the calls in order, or else that of its metadata. A column
  mark leaves out what was given as nothing.
* The convention is the last one of the calls, or else that of the target. Names in calls that are
  no fields are refused, exactly these.
* Nothing as the last value takes back a name for the column and a type to read, and is refused in the
  place of a truth value.
* Other calls that say the same last, name the same fields and set the same convention last can be
  made as well. They build the same plan, or both fail with the same failure, or both say that
  directives of the same owner are at fault; and they leave the registry alike.
* A mapper that is given directives is compiled like by the corresponding calls, and one that is
  given none has the plan that the registry has for its target. -/
theorem directives_merge (table : ClassTable) (target : TypeExpr) {calls : List BuilderCall}
    {o : Overrides} (h : BuilderCall.overrides calls = .ok o) :
    (∀ schema, introspect table target = .ok schema →
      (∀ f ∈ schema.fields, ∃ metadata hint, DeclaredAt table f target metadata hint ∧
        f.fieldType = (splitAnnotated hint).1 ∧
        ∀ name, (Compile.rawDirectives o f).get? name =
          ((hint.said ++ BuilderCall.said calls (f.name.getD "")).last? name).or
            (metadata.get? name)) ∧
      ∀ d, resolveContainer (o.onContainer schema.container) schema.name = .ok d →
        (o.onContainer schema.container).get? "rename_all" =
          (BuilderCall.lastConvention calls).or (schema.container.get? "rename_all") ∧
        ∃ unknown : List String, unknown.Pairwise (· < ·) ∧
          (∀ name, name ∈ unknown ↔
            name ∈ BuilderCall.named calls ∧ ∀ f ∈ schema.fields, f.name ≠ some name) ∧
          (unknown ≠ [] → ∀ r, (Compile.build table target o).run r =
            (.error (.schema (.attributes (.text schema.name) (.text ("unknown field(s) [" ++
              commaSeparated (unknown.map Text.quote) ++ "]"))) none), r))) ∧
    (∀ given marked, columnMarker given = .ok marked → ∀ name,
      marked.get? name = (given.get? name).filter (!· matches .none)) ∧
    (∀ f owner name, (Compile.rawDirectives o f).get? name = some .none →
      (name = "rename" ∨ name = "try_from" →
        resolveField ((Compile.rawDirectives o f).filter (·.1 != name)) owner =
          resolveField (Compile.rawDirectives o f) owner) ∧
      (name = "flatten" ∨ name = "default" → ∃ issues,
        resolveField (Compile.rawDirectives o f) owner =
          .error (directiveFailure owner issues))) ∧
    (∀ calls', BuilderCall.SayTheSame calls calls' → ∃ o', BuilderCall.overrides calls' = .ok o' ∧
      Compile.Reports (Compile.build table target o) (Compile.build table target o')) ∧
    ∀ registry, Mapper.compile registry target none [] = Session.planFor registry target ∧
      ∀ renameAll fields, renameAll.isSome = true ∨ fields ≠ [] →
        Mapper.compile registry target renameAll fields = (do
          let _ ← Session.getRegistry registry
          Session.build registry target
            (← Run.lift (BuilderCall.overrides (Mapper.calls renameAll fields)))) := by
  have hsum := BuilderCall.summedUp h
  refine ⟨fun schema hschema => ⟨fun f hf => ?_, fun d hd => ⟨?_, build_unknown hsum hschema hd⟩⟩,
    fun given marked hmarked => get?_columnMarker hmarked,
    fun f owner name hnone => ⟨fun hname => resolveField_cleared hname hnone owner,
      fun hname => resolveField_refused hname hnone owner⟩,
    fun calls' hsame => ?_, fun registry => ⟨rfl, fun renameAll fields hgiven => ?_⟩⟩
  · obtain ⟨metadata, hint, hdeclared, htype, hown⟩ := introspect_declared_at hschema hf
    refine ⟨metadata, hint, hdeclared, htype, fun name => ?_⟩
    rw [hsum.raw, hown, Attributes.last?_append, Option.or_assoc]
  · rw [get?_onContainer (merged_of_introspect hschema) hd, hsum.convention]
  · obtain ⟨o', ho'⟩ := hsame.overrides_isOk h
    exact ⟨o', ho', Compile.build_reports hsum (BuilderCall.summedUp ho') hsame table target⟩
  · unfold Mapper.compile
    rw [if_neg, Mapper.overridesOf_eq]
    rw [Bool.and_eq_true, Option.isNone_iff_eq_none, List.isEmpty_iff]
    rintro ⟨rfl, rfl⟩
    rcases hgiven with hsome | hsome
    · cases hsome
    · exact hsome rfl

/-! ## A default that is asked for by a mark -/

namespace MarkedDefault

/-- A class with a number, of which the default is asked for. -/
def score : ClassRef := ⟨"Score", 1, .dataclass .none⟩

def session : Session :=
  ((Derive.declare (.dataclass "Score" none
    [.given "x" (.annotated (.builtin .int) [.marker [("default", .bool true)]])]) none).run
      (Session.create [])).2

/-- Nothing does not take back that the default is asked for. -/
theorem default_not_cleared :
    ¬ ∀ calls o, BuilderCall.overrides calls = .ok o → ∀ f owner name,
      (Compile.rawDirectives o f).get? name = some .none →
        resolveField ((Compile.rawDirectives o f).filter (·.1 != name)) owner =
          resolveField (Compile.rawDirectives o f) owner := by
  intro h
  have hcleared := h [.field "x" [("default", .none)]] ⟨none, [("x", [("default", .none)])]⟩ rfl
    ⟨some "x", .builtin .int, 0, [("default", .bool true)], none⟩ "Score.x" "default" rfl
  cases hcleared

/-- Calls that rename the columns, take back the name of one, and ask for no default. -/
def calls : List BuilderCall :=
  [.renameAll (.text "camelCase"), .field "x" [("rename", .none), ("default", .bool false)]]

/-- What these calls come to. -/
def overrides : Overrides :=
  ⟨some (.text "camelCase"), [("x", [("rename", .none), ("default", .bool false)])]⟩

/-- What the calls say about the field counts, and they may be made in the other order. -/
theorem directives_merge_score : ∃ o schema, BuilderCall.overrides calls = .ok o ∧
    introspect session.classes (.declared score) = .ok schema ∧
    (∃ f ∈ schema.fields, (Compile.rawDirectives o f).get? "rename" = some .none ∧
      (Compile.rawDirectives o f).get? "default" = some (.bool false)) ∧
    ∃ o', BuilderCall.overrides calls.reverse = .ok o' ∧
      Compile.Reports (Compile.build session.classes (.declared score) o)
        (Compile.build session.classes (.declared score) o') := by
  have hfield : ((introspect session.classes (.declared score)).toOption.any fun s =>
      s.fields.any (·.name == some "x")) = true := by
    decide +kernel
  obtain ⟨schema, hintrospected, hfield⟩ := Running.eq_ok_of_test hfield
  obtain ⟨f, hf, hname⟩ := List.any_eq_true.mp hfield
  have hcalls : BuilderCall.overrides calls = .ok overrides := rfl
  obtain ⟨hmerged, -, -, hsame, -⟩ := directives_merge session.classes (.declared score) hcalls
  obtain ⟨metadata, hint, -, -, hraw⟩ := (hmerged schema hintrospected).1 f hf
  refine ⟨overrides, schema, hcalls, hintrospected, ⟨f, hf, ?_, ?_⟩,
    hsame calls.reverse ⟨rfl, ?_, ?_⟩⟩
  · rw [hraw, Attributes.last?_append, eq_of_beq hname]
    rfl
  · rw [hraw, Attributes.last?_append, eq_of_beq hname]
    rfl
  · intro field name
    rfl
  · exact fun field => Iff.rfl

end MarkedDefault

end RowDecoding
