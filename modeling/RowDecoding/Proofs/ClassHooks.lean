import RowDecoding.Mapping.Derive
import RowDecoding.Proofs.Running

/-!
# The hooks of classes

Classes have hooks in a few places: defaults and validators of fields, parameters and the end of a
constructor, and attributes. `HasHook` says which ones a class has, and `HooksIn H` of a table that no
class has any outside of `H`. Running never gives a class another hook: the only thing that it changes
about classes is that the names in the fields of a class are looked up once more, and that leaves the
hooks alone.

> `HooksIn.completed`: a class whose fields are looked up once more has no new hooks.
-/

namespace RowDecoding

/-- The hooks of a field. -/
inductive FieldDeclaration.HasHook (f : FieldDeclaration) : Hook → Prop
  | default {owner : Option ClassRef} {h : Hook} (hdefault : f.default = some (.hook owner h)) :
    HasHook f h
  | validator {h : Hook} (hvalidator : f.validator = some h) : HasHook f h

/-- The hooks of a class itself: those of its fields and of the parameters of its constructor, the
one that ends the constructor, and what its attributes do when they are called. -/
inductive ClassInfo.HasHook (info : ClassInfo) : Hook → Prop
  | field {f : FieldDeclaration} {h : Hook} (hf : f ∈ info.fields) (hh : f.HasHook h) :
    HasHook info h
  | parameter {maker : Constructor} {f : FieldDeclaration} {h : Hook}
    (hmaker : info.constructor? = some maker) (hf : f ∈ maker.parameters) (hh : f.HasHook h) :
    HasHook info h
  | ending {maker : Constructor} {h : Hook} (hmaker : info.constructor? = some maker)
    (hmaking : maker.making = .written (some h)) : HasHook info h
  | attribute {name : String} {a : ClassAttribute} {h : Hook}
    (hname : info.attributes.lookup name = some a) (hh : a.function? = some h) : HasHook info h

/-- The hooks of all classes. -/
def ClassTable.HasHook (table : ClassTable) (h : Hook) : Prop :=
  ∃ info ∈ table.classes, info.HasHook h

/-- The classes have no other hooks. -/
def ClassTable.HooksIn (H : Hook → Prop) (table : ClassTable) : Prop :=
  ∀ info ∈ table.classes, ∀ h, info.HasHook h → H h

/-- The hook of a transform, if it has one. -/
def Transform.hook? : Transform → Option Hook
  | .hook _ h => some h
  | .nullable inner => inner.hook?
  | _ => none

/-- The hooks that a step calls by itself. -/
inductive Step.HasHook (s : DecodeStep) : Hook → Prop
  | decoder {t : Transform} {h : Hook} (ht : s.strategy.decoder? = some t)
    (hh : t.hook? = some h) : HasHook s h
  | converter {t : Transform} {h : Hook} (ht : s.converter = some t) (hh : t.hook? = some h) :
    HasHook s h
  | default {owner : Option ClassRef} {h : Hook} (hdefault : s.default = some (.hook owner h)) :
    HasHook s h

/-- What an attribute does when it is called is its hook or makes an instance. -/
theorem ClassAttribute.function?_eq_some {a : ClassAttribute} {h : Hook}
    (ha : a.function? = some h) : a = .hook h ∨ ∃ t, h = .make t := by
  cases a with
  | hook hook =>
    cases ha
    exact Or.inl rfl
  | value v =>
    cases v with
    | type t =>
      obtain ⟨-, hmake⟩ := Option.ite_none_right_eq_some.mp ha
      exact Or.inr ⟨t, (Option.some.inj hmake).symm⟩
    | _ => cases ha
  | rowMapping registry => cases ha

/-! ## Classes that are found -/

namespace ClassTable

variable {H : Hook → Prop} {table : ClassTable}

theorem mem_of_info? {serial : Nat} {info : ClassInfo} (h : table.info? serial = some info) :
    info ∈ table.classes :=
  List.mem_of_find?_eq_some h

theorem mem_of_known? {c : ClassRef} {info : ClassInfo} (h : table.known? c = some info) :
    info ∈ table.classes := by
  unfold known? at h
  exact mem_of_info? (Option.filter_eq_some_iff.mp h).1

theorem mem_of_lineage {c : ClassRef} {info : ClassInfo} (h : info ∈ table.lineage c) :
    info ∈ table.classes := by
  unfold lineage at h
  split at h
  next own hown =>
    rcases List.mem_cons.mp h with rfl | h
    · exact mem_of_known? hown
    · obtain ⟨serial, -, hserial⟩ := List.mem_filterMap.mp h
      exact mem_of_info? hserial
  next => cases h

theorem HooksIn.info (h : table.HooksIn H) (c : ClassRef) {hook : Hook}
    (hhook : (table.info c).HasHook hook) : H hook := by
  unfold ClassTable.info at hhook
  cases hc : table.known? c with
  | some info =>
    rw [hc] at hhook
    exact h info (mem_of_known? hc) hook hhook
  | none =>
    -- A class that is not known has nothing at all.
    rw [hc] at hhook
    rcases hhook with ⟨hf, -⟩ | ⟨hmaker, -, -⟩ | ⟨hmaker, -⟩ | ⟨hname, -⟩
    · cases hf
    · cases hmaker
    · cases hmaker
    · cases hname

theorem HooksIn.schemaOf? (h : table.HooksIn H) {c : ClassRef} {info : ClassInfo}
    (hc : table.schemaOf? c = some info) {hook : Hook} (hhook : info.HasHook hook) : H hook :=
  h info (mem_of_lineage (List.mem_of_find?_eq_some hc)) hook hhook

theorem HooksIn.attribute? (h : table.HooksIn H) {c : ClassRef} {name : String}
    {a : ClassAttribute} {hook : Hook} (hc : table.attribute? c name = some a)
    (hhook : a.function? = some hook) : H hook := by
  obtain ⟨info, hmem, hlookup⟩ := List.exists_of_findSome?_eq_some hc
  exact h info (mem_of_lineage hmem) hook (.attribute hlookup hhook)

/-- The hook that an instance has from its class is one of the table's. -/
theorem HooksIn.cell (h : table.HooksIn H) {name : String} {v : Value} {c : ClassRef} {hook : Hook}
    (hv : Cell.hook? table name v = some (c, hook)) : H hook := by
  unfold Cell.hook? at hv
  split at hv
  case h_4 => cases hv
  all_goals
    split at hv
    · next hattribute =>
      cases hv
      exact h.attribute? hattribute rfl
    · cases hv

theorem HooksIn.update (h : table.HooksIn H) {c : ClassRef} {info : ClassInfo}
    (hinfo : ∀ hook, info.HasHook hook → H hook) : (table.update c fun _ => info).HooksIn H := by
  intro i hi
  obtain ⟨old, hold, rfl⟩ := List.mem_map.mp hi
  split
  · exact hinfo
  · exact h old hold

end ClassTable

/-! ## Classes whose fields are looked up -/

namespace Instance

variable {table : ClassTable} {info info' : ClassInfo}

/-- What comes out of a list element by element satisfies what each result satisfies. -/
theorem forall_of_mapM_ok {α β : Type} {e : α → Except Fault β} {p : β → Prop} {l : List α}
    {l' : List β} (hl : ∀ a ∈ l, ∀ b, e a = .ok b → p b) (h : l.mapM e = .ok l') :
    ∀ b ∈ l', p b := by
  induction l generalizing l' with
  | nil =>
    cases h
    exact fun _ hb => nomatch hb
  | cons a rest ih =>
    rw [List.mapM_cons] at h
    obtain ⟨b, ha, h⟩ := Running.bind_eq_ok.mp h
    obtain ⟨bs, hrest, h⟩ := Running.bind_eq_ok.mp h
    cases h
    refine List.forall_mem_cons.mpr ⟨hl a (List.mem_cons_self ..) b ha, ?_⟩
    exact ih (fun x hx => hl x (List.mem_cons_of_mem _ hx)) hrest

/-- Looking up the names in the types of fields gives a class no other hooks. -/
theorem hasHook_of_completed (h : completed table info = .ok info') {hook : Hook}
    (hhook : info'.HasHook hook) : info.HasHook hook := by
  unfold completed at h
  cases hcompleted : table.completed info with
  | error name => rw [hcompleted] at h; cases h
  | ok found =>
    rw [hcompleted] at h
    cases h
    unfold ClassTable.completed at hcompleted
    split at hcompleted
    · cases hcompleted
    · cases hfields : table.lookUpFields info.fields with
      | error f =>
        rw [hfields] at hcompleted
        cases hcompleted
        exact hhook
      | ok fields =>
        rw [hfields] at hcompleted
        cases hcompleted
        -- A field is either replaced in its type or left as it was.
        have hold : ∀ f ∈ fields, ∀ h, f.HasHook h → info.HasHook h := by
          refine forall_of_mapM_ok (fun f hf f' hf' h hh => ?_) hfields
          refine .field hf ?_
          split at hf'
          · cases hf'
            rcases hh with ⟨hdefault⟩ | ⟨hvalidator⟩
            · exact .default hdefault
            · exact .validator hvalidator
          · split at hf'
            · cases hf'
              exact hh
            · cases hf'
        rcases hhook with ⟨hf, hh⟩ | ⟨hmaker, hf, hh⟩ | ⟨hmaker, hmaking⟩ |
          ⟨hname, hh⟩
        · exact hold _ hf _ hh
        · exact .parameter hmaker hf hh
        · exact .ending hmaker hmaking
        · exact .attribute hname hh

end Instance

/-- **Running gives no class another hook.** A class whose fields are looked up once more takes the
place of the one before, and no class has a hook that none had. -/
theorem ClassTable.HooksIn.completed {H : Hook → Prop} {table : ClassTable} (h : table.HooksIn H)
    {c : ClassRef} {info : ClassInfo}
    (hcompleted : Instance.completed table (table.info c) = .ok info) :
    (table.update info.ref fun _ => info).HooksIn H :=
  h.update fun _ hhook => h.info c (Instance.hasHook_of_completed hcompleted hhook)

end RowDecoding
