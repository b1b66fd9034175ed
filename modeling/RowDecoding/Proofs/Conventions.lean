import RowDecoding.Proofs.Parallel

/-!
# Conventions from inside and outside

The convention for the names of columns may come from outside when a class is compiled, or it may be
noted on the class first, among what the class says about its fields already. A class that compiles
at all compiles either way, and either way its plan reads the same of a row (`build_either`). The
plans differ at most in those that they nest: a class that comes from the first one and says nothing
itself says what that one says (`Heeds`), and notices the convention only where it is noted.
Where there is no such class, the two compilations are the same (`build_withConvention`).
-/

namespace RowDecoding

/-! ## Entries -/

namespace Entries

/-- A later entry has another key. -/
def Apart (earlier later : Value × Value) : Prop :=
  later.1.equal earlier.1 = false

/-- An entry among others: it changes the value of an equal key or comes last. -/
def add (kept : Entries) (e : Value × Value) : Entries :=
  if kept.any (e.1.equal ·.1) then
    kept.map fun (k, v) => if e.1.equal k then (k, e.2) else (k, v)
  else kept ++ [e]

theorem mergeEntries_eq (l : Entries) : Value.mergeEntries l = l.foldl add [] := rfl

theorem add_apart {kept : Entries} (h : kept.Pairwise Apart) (e : Value × Value) :
    (add kept e).Pairwise Apart := by
  unfold add
  split
  · have hkeys : ∀ a : Value × Value,
        (if e.1.equal a.1 then (a.1, e.2) else (a.1, a.2)).1 = a.1 := by
      intro a
      split <;> rfl
    rw [List.pairwise_map]
    refine h.imp fun {a b} hab => ?_
    unfold Apart at hab ⊢
    rw [hkeys, hkeys]
    exact hab
  next hnew =>
    refine List.pairwise_append.mpr ⟨h, List.pairwise_singleton _ _, fun a ha b hb => ?_⟩
    obtain rfl := List.mem_singleton.mp hb
    unfold Apart
    rw [Bool.eq_false_iff]
    exact fun hequal => hnew (List.any_eq_true.mpr ⟨a, ha, hequal⟩)

theorem foldl_add_apart (l : Entries) {kept : Entries} (h : kept.Pairwise Apart) :
    (l.foldl add kept).Pairwise Apart := by
  induction l generalizing kept with
  | nil => exact h
  | cons e l ih => exact ih (add_apart h e)

theorem foldl_add_of_apart {l kept : Entries} (h : (kept ++ l).Pairwise Apart) :
    l.foldl add kept = kept ++ l := by
  induction l generalizing kept with
  | nil => exact (List.append_nil kept).symm
  | cons e l ih =>
    have hput : add kept e = kept ++ [e] := by
      unfold add
      rw [if_neg]
      rw [List.any_eq_true]
      rintro ⟨a, ha, hequal⟩
      have hapart := (List.pairwise_append.mp h).2.2 a ha e (List.mem_cons_self ..)
      unfold Apart at hapart
      rw [hapart] at hequal
      cases hequal
    rw [List.foldl_cons, hput, ih (by rwa [List.append_assoc]), List.append_assoc]
    rfl

/-- Entries that were merged stay as they are. -/
theorem mergeEntries_mergeEntries (l : Entries) :
    Value.mergeEntries (Value.mergeEntries l) = Value.mergeEntries l := by
  rw [mergeEntries_eq, mergeEntries_eq]
  exact foldl_add_of_apart (foldl_add_apart l .nil)

theorem add_ne_nil (kept : Entries) (e : Value × Value) : add kept e ≠ [] := by
  unfold add
  split
  next h =>
    obtain ⟨a, ha, -⟩ := List.any_eq_true.mp h
    exact fun hnil => List.ne_nil_of_mem ha (List.map_eq_nil_iff.mp hnil)
  next => exact List.append_ne_nil_of_right_ne_nil _ (List.cons_ne_nil _ _)

theorem put_eq (own : Entries) (name : String) (v : Value) :
    own.put name v = add (Value.mergeEntries own) (.text name, v) := by
  unfold put
  rw [mergeEntries_eq, mergeEntries_eq, List.foldl_append]
  rfl

/-- The text that a value is has the same key. -/
theorem equal_of_asText {k : Value} {s : String} (h : k.asText? = some s) :
    (Value.text s).equal k = true := by
  unfold Value.equal
  rw [Value.key_of_asText h, beq_self_eq_true]
  rfl

/-- Merging keeps keys. -/
theorem key_of_mem_add {kept : Entries} {e a : Value × Value} (h : a ∈ add kept e) :
    (∃ b ∈ kept, b.1 = a.1) ∨ a = e := by
  unfold add at h
  split at h
  · obtain ⟨⟨k, w⟩, hb, rfl⟩ := List.mem_map.mp h
    refine .inl ⟨(k, w), hb, ?_⟩
    dsimp only
    split <;> rfl
  · rcases List.mem_append.mp h with h | h
    · exact .inl ⟨a, h, rfl⟩
    · exact .inr (List.mem_singleton.mp h)

theorem key_of_mem_mergeEntries {l : Entries} {a : Value × Value}
    (h : a ∈ Value.mergeEntries l) : ∃ b ∈ l, b.1 = a.1 := by
  have hfold : ∀ (l kept : Entries) (a : Value × Value), a ∈ l.foldl add kept →
      (∃ b ∈ kept, b.1 = a.1) ∨ ∃ b ∈ l, b.1 = a.1 := by
    intro l
    induction l with
    | nil => exact fun _ a ha => .inl ⟨a, ha, rfl⟩
    | cons e l ih =>
      intro kept a ha
      rcases ih _ a ha with ⟨b, hb, hkey⟩ | ⟨b, hb, hkey⟩
      · rcases key_of_mem_add hb with ⟨c, hc, hkey'⟩ | rfl
        · exact .inl ⟨c, hc, hkey'.trans hkey⟩
        · exact .inr ⟨b, List.mem_cons_self .., hkey⟩
      · exact .inr ⟨b, List.mem_cons_of_mem _ hb, hkey⟩
  rcases hfold l [] a h with ⟨b, hb, -⟩ | h
  · exact absurd hb List.not_mem_nil
  · exact h

/-- Where all entries have one name, putting a value under it gives that value to all of them. -/
theorem of_mem_put {own : Entries} {name : String} {v : Value}
    (hown : ∀ e ∈ own, e.1.asText? = some name) {a : Value × Value} (ha : a ∈ own.put name v) :
    a.1.asText? = some name ∧ a.2 = v := by
  have hmerged : ∀ b ∈ Value.mergeEntries own, b.1.asText? = some name := by
    intro b hb
    obtain ⟨e, he, hkey⟩ := key_of_mem_mergeEntries hb
    rw [← hkey]
    exact hown e he
  rw [put_eq] at ha
  unfold add at ha
  split at ha
  · obtain ⟨⟨k, w⟩, hb, rfl⟩ := List.mem_map.mp ha
    have hname := hmerged (k, w) hb
    dsimp only
    rw [if_pos (equal_of_asText hname)]
    exact ⟨hname, rfl⟩
  next hnew =>
    rcases List.mem_append.mp ha with ha | ha
    · exact absurd (List.any_eq_true.mpr ⟨a, ha, equal_of_asText (hmerged a ha)⟩) hnew
    · rw [List.mem_singleton.mp ha]
      exact ⟨rfl, rfl⟩

theorem get?_put {own : Entries} {name : String} {v : Value}
    (hown : ∀ e ∈ own, e.1.asText? = some name) : (own.put name v).get? name = some v := by
  unfold get?
  cases hput : own.put name v with
  | nil => exact absurd (put_eq own name v ▸ hput) (add_ne_nil _ _)
  | cons e rest =>
    obtain ⟨hkey, hv⟩ := of_mem_put hown (hput ▸ List.mem_cons_self .. : e ∈ own.put name v)
    rw [List.findSome?_cons]
    dsimp only
    rw [hkey, if_pos (beq_self_eq_true _), hv]

end Entries

/-! ## Noting a convention -/

/-- A class that says this of all its fields. -/
def ClassInfo.saying (said : Value) (info : ClassInfo) : ClassInfo :=
  { info with config := some said }

namespace ClassTable

/-- A table in which one class says this of all its fields. -/
def saying (table : ClassTable) (c : ClassRef) (said : Value) : ClassTable :=
  table.update c (·.saying said)

/-- What a class says about its fields is what `c` says: it is `c` or comes from it, and no class
nearer to it says anything. -/
def Heeds (table : ClassTable) (d c : ClassRef) : Prop :=
  ∃ before info after, table.lineage d = before ++ info :: after ∧
    info.ref.serial = c.serial ∧ ∀ i ∈ before, i.config = none

section

variable (table : ClassTable) (c : ClassRef) (said : Value)

theorem keepsOrigin_saying : KeepsOrigin (ClassInfo.saying said) :=
  fun _ => ⟨rfl, rfl⟩

theorem saying_silent : (table.saying c said).silent = table.silent := by
  unfold saying update silent mapped
  dsimp only
  rw [List.map_map]
  congr 1
  refine List.map_congr_left fun info _ => ?_
  show (if _ then _ else _ : ClassInfo).silent = _
  split <;> rfl

variable {table c}

/-- A class says what it said or says this. -/
theorem config?_saying_or (d : ClassRef) :
    (table.saying c said).config? d = table.config? d ∨
      (table.saying c said).config? d = some said := by
  unfold config?
  rw [show (table.saying c said).lineage d = _ from
    lineage_update (keepsOrigin_saying said) table c d]
  induction table.lineage d with
  | nil => exact .inl rfl
  | cons i rest ih =>
    rw [List.map_cons, List.findSome?_cons, List.findSome?_cons]
    by_cases hi : i.ref.serial = c.serial
    · have hchanged : onlyOf c (ClassInfo.saying said) i = i.saying said := by
        unfold onlyOf
        rw [if_pos (by simpa using hi)]
      rw [hchanged]
      exact .inr rfl
    · have hsame : onlyOf c (ClassInfo.saying said) i = i := by
        unfold onlyOf
        rw [if_neg (by simpa using hi)]
      rw [hsame]
      cases i.config with
      | some own => exact .inl rfl
      | none => exact ih

/-- The class says it. -/
theorem config?_saying (hc : table.Knows c) : (table.saying c said).config? c = some said := by
  obtain ⟨own, hown⟩ := hc
  unfold config? lineage
  rw [show (table.saying c said).known? c = _ from known?_update (keepsOrigin_saying said) hown]
  dsimp only
  rw [List.findSome?_cons]
  rfl

/-- Other classes say what they said, unless they heed the class. -/
theorem config?_of_not_heeds {d : ClassRef} (hd : ¬table.Heeds d c) :
    (table.saying c said).config? d = table.config? d := by
  unfold config?
  rw [show (table.saying c said).lineage d = _ from
    lineage_update (keepsOrigin_saying said) table c d]
  unfold Heeds at hd
  generalize table.lineage d = l at hd ⊢
  induction l with
  | nil => rfl
  | cons i rest ih =>
    have hne : i.ref.serial ≠ c.serial := fun heq =>
      hd ⟨[], i, rest, rfl, heq, fun _ h => absurd h List.not_mem_nil⟩
    have hsame : onlyOf c (ClassInfo.saying said) i = i := by
      unfold onlyOf
      rw [if_neg (by simpa using hne)]
    rw [List.map_cons, List.findSome?_cons, List.findSome?_cons, hsame]
    cases hi : i.config with
    | some said => rfl
    | none =>
      refine ih fun ⟨before, info, after, hrest, hinfo, hbefore⟩ => hd ⟨i :: before, info, after,
        by rw [hrest, List.cons_append], hinfo, List.forall_mem_cons.mpr ⟨hi, hbefore⟩⟩

end

end ClassTable

section

variable {table table' : ClassTable} {c : ClassRef} {v : Value}

/-- A convention is noted among what the class says already. -/
theorem withConvention_ok (h : Derive.withConvention table c v = .ok table') :
    ∃ own, containerOf table c = .ok own ∧
      table' = table.saying c (.dict (own.put "rename_all" v)) := by
  unfold Derive.withConvention at h
  obtain ⟨own, hown, h⟩ := Running.bind_eq_ok.mp h
  cases h
  exact ⟨own, hown, rfl⟩

/-- What a class says where a convention was noted. -/
theorem containerOf_of_config {own : Entries}
    (hc : table.config? c = some (.dict (own.put "rename_all" v))) :
    containerOf table c = .ok (own.put "rename_all" v) := by
  unfold containerOf
  rw [hc]
  have htrue : (Value.dict (own.put "rename_all" v)).isTrue = true := by
    have hne := Entries.add_ne_nil (Value.mergeEntries own) (.text "rename_all", v)
    rw [← Entries.put_eq] at hne
    show (!(own.put "rename_all" v).isEmpty) = true
    cases hput : own.put "rename_all" v with
    | nil => exact absurd hput hne
    | cons e rest => rfl
  dsimp only
  rw [if_pos htrue]
  show Except.ok (Value.mergeEntries (own.put "rename_all" v)) = _
  unfold Entries.put
  rw [Entries.mergeEntries_mergeEntries]

/-- A class that has a schema says something about its fields. -/
theorem containerOf_of_introspect {schema : Schema}
    (h : introspect table (.declared c) = .ok schema) : ∃ own, containerOf table c = .ok own := by
  rw [introspect_declared] at h
  split at h
  · cases h
  · obtain ⟨own, hown, -⟩ := Running.bind_eq_ok.mp h
    exact ⟨own, hown⟩

/-- A class that has a schema can have a convention noted. -/
theorem withConvention_of_introspect {schema : Schema}
    (h : introspect table (.declared c) = .ok schema) (v : Value) :
    ∃ table', Derive.withConvention table c v = .ok table' := by
  obtain ⟨own, hown⟩ := containerOf_of_introspect h
  unfold Derive.withConvention
  rw [hown]
  exact ⟨_, rfl⟩

/-- A class that a convention is noted on stays one of the table's. -/
theorem knows_of_withConvention (hc : table.Knows c)
    (h : Derive.withConvention table c v = .ok table') : table'.Knows c := by
  obtain ⟨own, -, rfl⟩ := withConvention_ok h
  obtain ⟨info, hinfo⟩ := hc
  exact ⟨_, ClassTable.known?_update (ClassTable.keepsOrigin_saying _) hinfo⟩

/-- The schema of a class where a convention was noted. -/
theorem introspect_of_config (hsilent : table'.silent = table.silent) {own said : Entries}
    (hsaid : table'.config? c = some (.dict (own.put "rename_all" v)))
    (hc : containerOf table c = .ok said) :
    introspect table' (.declared c) = (introspect table (.declared c)).map
        (fun schema => { schema with container := own.put "rename_all" v }) ∧
      ∀ schema, introspect table (.declared c) = .ok schema → schema.container = said := by
  rw [introspect_declared, introspect_declared, containerOf_of_config hsaid, hc,
    Compile.declaredFields_congr hsilent]
  split
  · exact ⟨rfl, fun _ h => nomatch h⟩
  · cases declaredFields table c with
    | error f => exact ⟨rfl, fun _ h => nomatch h⟩
    | ok found =>
      show nonEmpty _ = (nonEmpty _).map _ ∧ ∀ schema, nonEmpty _ = .ok schema → _
      unfold nonEmpty
      dsimp only
      split
      · exact ⟨rfl, fun _ h => nomatch h⟩
      · refine ⟨rfl, fun schema h => ?_⟩
        cases h
        rfl

namespace Compile

variable (q : Lookups Compile)

theorem fuel_saying (table : ClassTable) (c : ClassRef) (said : Value) :
    fuel (table.saying c said) = fuel table :=
  congrArg (· + 2) (List.length_map _)

theorem buildWith_saying {own : Entries} (hc : table.Knows c)
    (hown : containerOf table c = .ok own) :
    buildWith q (table.saying c (.dict (own.put "rename_all" v))) (.declared c) Overrides.none =
      buildWith q table (.declared c) (Overrides.none.renameAll v) := by
  obtain ⟨hschema, hcontainer⟩ := introspect_of_config (ClassTable.saying_silent table c _)
    (ClassTable.config?_saying (.dict (own.put "rename_all" v)) hc) hown
  unfold buildWith
  rw [hschema, compileField_congr (ClassTable.saying_silent table c _)]
  cases hintrospect : introspect table (.declared c) with
  | error f => rfl
  | ok schema =>
    show (lift (.ok _) >>= _) = _
    rw [lift_ok_bind, lift_ok_bind, ← hcontainer schema hintrospect]
    rfl

/-- **A convention from outside and one that is noted compile the same.** If nothing that a class
leads to heeds it, compiling the class with a convention from outside is the same computation as
compiling it once the convention is noted. -/
theorem build_withConvention (hc : table.Knows c)
    (h : Derive.withConvention table c v = .ok table')
    (hnested : ∀ d, Reaches table (.declared c) (.declared d) → ¬table.Heeds d c) :
    build table' (.declared c) Overrides.none =
      build table (.declared c) (Overrides.none.renameAll v) := by
  obtain ⟨own, hown, rfl⟩ := withConvention_ok h
  have hsilent := ClassTable.saying_silent table c (.dict (own.put "rename_all" v))
  have hplans : ∀ t, Flattens table (Overrides.none.renameAll v) (.declared c) t →
      planFor (table.saying c (.dict (own.put "rename_all" v))) t = planFor table t := by
    intro t ht
    unfold planFor
    rw [fuel_saying]
    have hedge : Flattens table Overrides.none (.declared c) t := ht
    refine planWithin_congr hsilent _ fun d hd => ClassTable.config?_of_not_heeds _ (hnested d ?_)
    rcases hd with rfl | hd
    · exact .single hedge
    · exact .head hedge hd
  unfold build answers
  rw [lookups_congr hsilent, buildWith_saying _ hc hown]
  exact buildWith_related (lookups_same hplans) fun _ ht => ht

end Compile

end

/-! ## Conventions that are noted or come from outside -/

/-- A value that names a convention. -/
def Value.Names (v : Value) (convention : Naming.Convention) : Prop :=
  checkRenameAll [(.text "rename_all", v)] = .ok (some convention)

theorem names_convention (convention : Naming.Convention) :
    (Value.convention convention).Names convention :=
  rfl

/-- Directives of a container that are sound stay so with another convention. -/
theorem resolveContainer_put {own : Entries} {owner : String} {container : ContainerDirectives}
    {v : Value} {convention : Naming.Convention} (h : resolveContainer own owner = .ok container)
    (hv : v.Names convention) (owner' : String) :
    resolveContainer (own.put "rename_all" v) owner' = .ok ⟨some convention⟩ := by
  have hissues : ∀ {entries : Entries}, containerIssues entries = [] ↔
      ∀ e ∈ entries, e.1.asText? = some "rename_all" := by
    intro entries
    unfold containerIssues
    rw [List.filterMap_eq_nil_iff]
    refine forall₂_congr fun e _ => ?_
    dsimp only
    split
    next h =>
      rw [h]
      exact ⟨fun h => (nomatch h), fun h => (nomatch h)⟩
    next h =>
      rw [h]
      exact ⟨fun _ => rfl, fun _ => rfl⟩
    next name hne h =>
      rw [h]
      exact ⟨fun h => (nomatch h), fun heq => absurd (Option.some.inj heq) hne⟩
  have hown : ∀ e ∈ own, e.1.asText? = some "rename_all" := by
    unfold resolveContainer at h
    dsimp only at h
    split at h
    next hnone => exact hissues.mp hnone
    next => cases h
  have hfound : (own.put "rename_all" v).get? "rename_all" = some v := Entries.get?_put hown
  have hcheck : checkRenameAll (own.put "rename_all" v) = .ok (some convention) := by
    unfold Value.Names checkRenameAll at hv
    unfold checkRenameAll
    rw [hfound]
    exact hv
  unfold resolveContainer
  dsimp only
  rw [hcheck, hissues.mpr fun e he => (Entries.of_mem_put hown he).1]

namespace Compile

section

variable {table table' : ClassTable} {c : ClassRef} {v : Value} {convention : Naming.Convention}

/-- Classes say something sound where a convention is noted on a class that does. -/
theorem saysSound_saying {own : Entries} {owner : String} {container : ContainerDirectives}
    (hown : resolveContainer own owner = .ok container) (hv : v.Names convention) :
    SaysSound table (table.saying c (.dict (own.put "rename_all" v))) := by
  intro t schema container' hschema hcontainer
  have hsilent := ClassTable.saying_silent table c (.dict (own.put "rename_all" v))
  have hsame : (∀ d, t = .declared d →
      (table.saying c (.dict (own.put "rename_all" v))).config? d = table.config? d) →
      ∃ said container', introspect (table.saying c (.dict (own.put "rename_all" v))) t =
          .ok { schema with container := said } ∧
        resolveContainer said schema.name = .ok container' := by
    intro hconfig
    refine ⟨schema.container, container', ?_, hcontainer⟩
    rw [introspect_congr hsilent hconfig, hschema]
  cases t with
  | declared d =>
    rcases ClassTable.config?_saying_or (.dict (own.put "rename_all" v)) d with hconfig | hconfig
    · exact hsame fun e he => by cases he; exact hconfig
    · obtain ⟨said, hsaid⟩ := containerOf_of_introspect hschema
      refine ⟨own.put "rename_all" v, _, ?_, resolveContainer_put hown hv _⟩
      rw [(introspect_of_config hsilent hconfig hsaid).1, hschema]
      rfl
  | _ => exact hsame fun _ h => nomatch h

/-- **A class compiles with a convention from outside and with one that is noted.** Either way its
plan reads the same of a row. -/
theorem build_either (hv : v.Names convention) (h : Derive.withConvention table c v = .ok table')
    {r r' : Registry} {p : DecodePlan} (hc : table.Knows c)
    (built : (build table (.declared c) Overrides.none).run r = (.ok p, r')) :
    ∃ outside inside s s',
      (build table (.declared c) (Overrides.none.renameAll v)).run r = (.ok outside, s) ∧
      (build table' (.declared c) Overrides.none).run r = (.ok inside, s') ∧
      inside.outline = outside.outline := by
  obtain ⟨own, hown, rfl⟩ := withConvention_ok h
  obtain ⟨schema, container, hschema, hcontainer⟩ := said_of_build built
  have hsilent := ClassTable.saying_silent table c (.dict (own.put "rename_all" v))
  have hconfig := ClassTable.config?_saying (.dict (own.put "rename_all" v)) hc
  obtain ⟨hsaid, howned⟩ := introspect_of_config hsilent hconfig hown
  rw [hschema] at hsaid
  obtain rfl := howned schema hschema
  have hcontainer : resolveContainer schema.container schema.name = .ok container := hcontainer
  have hresolved := resolveContainer_put hcontainer hv schema.name
  -- Each follows the one before in the same registry, first outside and then inside.
  have hfirst : Follows (fun p p' => (⟨some convention⟩ : ContainerDirectives) = container →
        p'.outline = p.outline)
      (build table (.declared c) Overrides.none)
      (build table (.declared c) (Overrides.none.renameAll v)) :=
    buildWith_follows (planWithin_follows rfl (.refl table) (fuel table)) rfl Overrides.none
      (Overrides.none.renameAll v) rfl hschema hschema hcontainer hresolved
  have hnested : ∀ t, Follows (fun _ _ => True) (planFor table t)
      (planFor (table.saying c (.dict (schema.container.put "rename_all" v))) t) := by
    unfold planFor
    rw [fuel_saying]
    exact planWithin_follows hsilent (saysSound_saying hcontainer hv) (fuel table)
  have hsecond : Follows (fun p p' => (⟨some convention⟩ : ContainerDirectives) =
        ⟨some convention⟩ → p'.outline = p.outline)
      (build table (.declared c) (Overrides.none.renameAll v))
      (build (table.saying c (.dict (schema.container.put "rename_all" v))) (.declared c)
        Overrides.none) :=
    buildWith_follows hnested hsilent (Overrides.none.renameAll v) Overrides.none rfl hschema hsaid
      hresolved hresolved
  obtain ⟨outside, s, houtside, -, -⟩ := hfirst r r (.refl r) p r' built
  obtain ⟨inside, s', hinside, houtline, -⟩ := hsecond r r (.refl r) outside s houtside
  exact ⟨outside, inside, s, s', houtside, hinside, houtline rfl⟩

end

end Compile

end RowDecoding
