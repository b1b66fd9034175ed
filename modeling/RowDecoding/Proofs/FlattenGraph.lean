import Mathlib.Logic.Relation
import RowDecoding.Proofs.Compilation
import RowDecoding.Proofs.Keys

/-!
# The flatten graph

A target leads to the classes that its fields flatten. What a field flattens is a class of the table
(`Flattens.known`).

`pending` counts the classes of a table whose plans are not being compiled. It bounds how deep
compilations can be nested, and it falls with every class that is entered.
-/

namespace RowDecoding

/-! ## Classes of a table -/

namespace ClassTable

variable {table : ClassTable} {c d : ClassRef}

/-- The class is one of the table's. -/
def Knows (table : ClassTable) (c : ClassRef) : Prop :=
  ∃ info, table.known? c = some info

theorem known?_spec {info : ClassInfo} (h : table.known? c = some info) :
    info ∈ table.classes ∧ info.ref = c ∧ table.info? c.serial = some info := by
  unfold known? at h
  rw [Option.filter_eq_some_iff] at h
  obtain ⟨hinfo, href⟩ := h
  exact ⟨List.mem_of_find?_eq_some hinfo, by simpa using href, hinfo⟩

/-- A class of the table is the first of its lineage. -/
theorem Knows.any_lineage (hc : table.Knows c) :
    (table.lineage c).any (·.ref.serial == c.serial) = true := by
  obtain ⟨info, hinfo⟩ := hc
  obtain ⟨-, rfl, -⟩ := known?_spec hinfo
  unfold lineage
  rw [hinfo]
  exact List.any_eq_true.mpr ⟨info, List.mem_cons_self .., beq_self_eq_true _⟩

theorem lineage_of_unknown (h : ¬table.Knows c) : table.lineage c = [] := by
  unfold lineage
  split
  next info hinfo => exact absurd ⟨info, hinfo⟩ h
  next => rfl

theorem info_of_unknown (h : ¬table.Knows c) : table.info c = default := by
  unfold info
  cases hc : table.known? c with
  | none => rfl
  | some info => exact absurd ⟨info, hc⟩ h

theorem info_of_known {info : ClassInfo} (h : table.known? c = some info) :
    table.info c = info := by
  unfold ClassTable.info
  rw [h]
  rfl

/-- Only classes of the table have attributes. -/
theorem knows_of_attribute? {name : String} {a : ClassAttribute}
    (h : table.attribute? c name = some a) : table.Knows c := by
  by_contra hunknown
  unfold attribute? at h
  rw [lineage_of_unknown hunknown] at h
  cases h

/-- How many classes have keys other than these. -/
def pending (table : ClassTable) (keys : List Key) : Nat :=
  (table.classes.filter fun info => !keys.contains info.ref.key).length

theorem pending_le (table : ClassTable) (keys : List Key) :
    table.pending keys ≤ table.classes.length :=
  List.length_filter_le ..

/-- Entering a class leaves fewer classes to enter. -/
theorem Knows.pending_lt (hc : table.Knows c) {keys : List Key} (h : c.key ∉ keys) :
    table.pending (c.key :: keys) < table.pending keys := by
  obtain ⟨info, hinfo⟩ := hc
  obtain ⟨hmem, href, -⟩ := known?_spec hinfo
  have hsplit : (table.classes.filter fun i => !(c.key :: keys).contains i.ref.key) =
      (table.classes.filter fun i => !keys.contains i.ref.key).filter (·.ref.key != c.key) := by
    rw [List.filter_filter]
    refine List.filter_congr fun i _ => ?_
    rw [List.contains_cons, Bool.not_or]
    rfl
  unfold pending
  -- The class itself is what the second filter takes away.
  rw [hsplit, List.length_filter_lt_length_iff_exists]
  exact ⟨info, by simp [hmem, href, h], by simp [href]⟩

end ClassTable

/-! ## Sources and targets -/

/-- The schema of a declared class. -/
theorem introspect_declared (table : ClassTable) (c : ClassRef) :
    introspect table (.declared c) =
      if c.form.isEnumeration then .error (.schema (.enumeration c.name) none)
      else (do
        let container ← containerOf table c
        let (addressing, fields) ← declaredFields table c
        nonEmpty ⟨.declared c, addressing, fields, container⟩) := rfl

/-- A class that has a schema is one of the table's. -/
theorem introspect_known {table : ClassTable} {c : ClassRef} {schema : Schema}
    (h : introspect table (.declared c) = .ok schema) : table.Knows c := by
  by_contra hc
  rw [introspect_declared] at h
  split at h
  · cases h
  · -- An unknown class has no fields, and a schema without fields is refused.
    have hfields : declaredFields table c = .ok (.byName, []) := by
      unfold declaredFields ClassTable.schemaOf?
      rw [ClassTable.lineage_of_unknown hc, ClassTable.info_of_unknown hc]
      rfl
    rw [hfields] at h
    cases hcontainer : containerOf table c <;> rw [hcontainer] at h <;> cases h

/-- What is mapped by its plan is a class of the table. -/
theorem mappingOf_byPlan {table : ClassTable} {t : TypeExpr} (h : mappingOf table t = .byPlan) :
    ∃ c, t = .declared c ∧ table.Knows c := by
  unfold mappingOf at h
  split at h
  · cases h
  next c hc =>
    have ht : t = .declared c := by
      cases t <;> cases hc
      rfl
    refine ⟨c, ht, ?_⟩
    by_contra hunknown
    dsimp only at h
    rw [ClassTable.info_of_unknown hunknown] at h
    have hschema : table.schemaOf? c = none := by
      unfold ClassTable.schemaOf?
      rw [ClassTable.lineage_of_unknown hunknown]
      rfl
    rw [hschema] at h
    split at h
    · cases h
    · cases h

namespace Flattens

variable {table : ClassTable} {overrides : Overrides} {t u : TypeExpr}

/-- What is flattened is a class of the table. -/
theorem known (h : Flattens table overrides t u) : ∃ c, u = .declared c ∧ table.Knows c := by
  exact mappingOf_byPlan h.2

end Flattens

/-- Following flattened fields, without directives from outside. -/
abbrev Reaches (table : ClassTable) : TypeExpr → TypeExpr → Prop :=
  Relation.TransGen (Flattens table Overrides.none)

namespace Reaches

variable {table : ClassTable} {t u v : TypeExpr}

theorem known (h : Reaches table t u) : ∃ c, u = .declared c ∧ table.Knows c := by
  cases h with
  | single h => exact h.known
  | tail _ h => exact h.known

/-- What has the key of something that is reached is the same class. -/
theorem eq_of_key (hv : Reaches table u v) (h : t.key = v.key) : t = v := by
  obtain ⟨d, rfl, -⟩ := hv.known
  exact declared_of_key h

end Reaches

end RowDecoding
