import Mathlib.Data.List.Forall2
import Mathlib.Data.List.Perm.Basic
import RowDecoding.Directive.Resolved

/-!
# Which directives of a field are valid

The directives of a field are a mapping of names to values. `isAdmissible` says which values each
name takes, whatever the others are; an unknown name takes none. A mapping is valid (`Valid`) if all
its values are admissible and it does not ask for a flattened field with a column of its own.

The check accepts the valid mappings and no others, and what it gives holds the values that were
given (`resolveField_decides`). For any other mapping it names the owner and lists one issue for
each entry at fault: the known names in the order of their checks, then the unknown ones in the
order of the mapping (`faults`). The flattened column is an issue only where nothing else is.
-/

namespace RowDecoding

/-- The values that a name of a directive takes: a name for the column that is not empty, truth
values, and types to read; where a name or a type may stand, nothing may stand too. -/
def isAdmissible : String → Value → Bool
  | "rename", .none => true
  | "rename", v => v.asText?.any (· ≠ "")
  | "flatten", v => v.isBool
  | "try_from", .none => true
  | "try_from", .type t => t.isClass || t.hasOrigin
  | "default", v => v.isBool
  | _, _ => false

namespace Attributes

/-- The entries in the order in which they are checked: those of the directives one after the
other, then those under unknown names. -/
def ranked (raw : Attributes) : Attributes :=
  directiveNames.flatMap (fun name => raw.filter (·.1 == name)) ++
    raw.filter fun e => !directiveNames.contains e.1

/-- The entries that are at fault by themselves. -/
def faults (raw : Attributes) : Attributes :=
  raw.ranked.filter fun e => !isAdmissible e.1 e.2

/-- A field that is built from the whole row is given a column. -/
def FlattensColumn (raw : Attributes) : Prop :=
  ("flatten", .bool true) ∈ raw ∧ ∃ v, ("rename", v) ∈ raw ∧ v ≠ .none

/-- The directives of a field that can be meant. -/
structure Valid (raw : Attributes) : Prop where
  admissible : ∀ e ∈ raw, isAdmissible e.1 e.2 = true
  column : ¬ raw.FlattensColumn

end Attributes

/-- The directives hold what a mapping gives, and nothing for what it does not give. -/
structure FieldDirectives.Holds (raw : Attributes) (d : FieldDirectives) : Prop where
  rename : ∀ s, d.rename = some s ↔ ∃ v, ("rename", v) ∈ raw ∧ v.asText? = some s
  flatten : d.flatten = true ↔ ("flatten", .bool true) ∈ raw
  tryFrom : ∀ t, d.tryFrom = some t ↔ ("try_from", .type t) ∈ raw
  default : d.default = true ↔ ("default", .bool true) ∈ raw

/-- What is said about an entry that is at fault. -/
inductive Complaint : String × Value → Issue → Prop
  | notText {v : Value} (hgiven : v ≠ .none) (htext : v.asText? = none) :
      Complaint ("rename", v)
        (directiveIssue "rename" "string_type" "Input should be a valid string")
  | emptyText {v : Value} (htext : v.asText? = some "") :
      Complaint ("rename", v)
        (statedIssue [.text "rename"] "rename must be a non-empty column name")
  | notFlag {name : String} {v : Value} (hname : name = "flatten" ∨ name = "default")
      (hv : v.isBool = false) :
      Complaint (name, v) (directiveIssue name "bool_type" "Input should be a valid boolean")
  | noType {v : Value} (hv : isAdmissible "try_from" v = false) (hshown : v.isUnwritable = false) :
      Complaint ("try_from", v)
        (statedIssue [.text "try_from"] ("try_from must be a type, got " ++ v.shown))
  /-- A thing whose digits are too many to be written is not shown. -/
  | unshownType {v : Value} (hv : isAdmissible "try_from" v = false)
      (hshown : v.isUnwritable = true) :
      Complaint ("try_from", v)
        (statedIssue [.text "try_from"] Fault.tooLongToWrite.message)
  | unknown {name : String} {v : Value} (hname : name ∉ directiveNames) :
      Complaint (name, v)
        (directiveIssue name "extra_forbidden" "Extra inputs are not permitted")

/-! ## Entries by their names -/

section

variable {raw : Attributes}

/-- A mapping has a value under a name just if it has the entry. -/
theorem Attributes.get?_eq_some_iff (hraw : (raw.map Prod.fst).Nodup) {name : String} {v : Value} :
    raw.get? name = some v ↔ (name, v) ∈ raw := by
  unfold Attributes.get?
  induction raw with
  | nil => simp
  | cons e rest ih =>
    obtain ⟨n, w⟩ := e
    obtain ⟨hfresh, hrest⟩ := List.nodup_cons.mp hraw
    rw [List.lookup_cons, List.mem_cons, Prod.mk.injEq]
    split
    next hname =>
      obtain rfl := eq_of_beq hname
      have hno : (name, v) ∉ rest := fun h => hfresh (List.mem_map.mpr ⟨_, h, rfl⟩)
      simp [hno, eq_comm]
    next hname =>
      rw [ih hrest]
      have hne : name ≠ n := fun h => by simp [h] at hname
      simp [hne]

/-- The entries under a name are the one that the mapping has there, if any. -/
theorem Attributes.filter_name (hraw : (raw.map Prod.fst).Nodup) (name : String) :
    raw.filter (·.1 == name) = ((raw.get? name).map (name, ·)).toList := by
  unfold Attributes.get?
  induction raw with
  | nil => rfl
  | cons e rest ih =>
    obtain ⟨n, w⟩ := e
    obtain ⟨hfresh, hrest⟩ := List.nodup_cons.mp hraw
    rw [List.filter_cons, List.lookup_cons]
    by_cases hname : n = name
    · subst hname
      have hnone : rest.filter (·.1 == n) = [] :=
        List.filter_eq_nil_iff.mpr fun e he heq =>
          hfresh (List.mem_map.mpr ⟨e, he, eq_of_beq heq⟩)
      simp [hnone]
    · have hname' : (name == n) = false := beq_eq_false_iff_ne.mpr (Ne.symm hname)
      rw [if_neg (by simpa using hname), hname', ih hrest]

end

/-- Sorting entries by names loses none and doubles none. -/
theorem perm_byNames {names : List String} (hnames : names.Nodup) (raw : Attributes) :
    (names.flatMap (fun name => raw.filter (·.1 == name)) ++
      raw.filter fun e => !names.contains e.1).Perm raw := by
  induction names generalizing raw with
  | nil => simp
  | cons n rest ih =>
    obtain ⟨hfresh, hrest⟩ := List.nodup_cons.mp hnames
    -- the entries under other names, to which the hypothesis applies
    have hothers := ih hrest (raw.filter fun e => !(e.1 == n))
    have hflat : rest.flatMap (fun name => (raw.filter fun e => !(e.1 == n)).filter (·.1 == name)) =
        rest.flatMap fun name => raw.filter (·.1 == name) := by
      refine List.flatMap_congr fun name hmem => ?_
      rw [List.filter_filter]
      refine List.filter_congr fun e _ => ?_
      cases hname : e.1 == name with
      | false => rfl
      | true =>
        have hne : e.1 ≠ n := fun h => hfresh (h ▸ eq_of_beq hname ▸ hmem)
        rw [Bool.true_and, beq_eq_false_iff_ne.mpr hne, Bool.not_false]
    have hunknown : ((raw.filter fun e => !(e.1 == n)).filter fun e => !rest.contains e.1) =
        raw.filter fun e => !(n :: rest).contains e.1 := by
      rw [List.filter_filter]
      refine List.filter_congr fun e _ => ?_
      rw [List.contains_cons, Bool.not_or, Bool.and_comm]
    rw [hflat, hunknown] at hothers
    rw [List.flatMap_cons, List.append_assoc]
    exact (hothers.append_left _).trans (List.filter_append_perm (·.1 == n) raw)

/-- Every entry at fault is listed once. -/
theorem Attributes.faults_perm (raw : Attributes) :
    raw.faults.Perm (raw.filter fun e => !isAdmissible e.1 e.2) :=
  (perm_byNames (by decide) raw).filter _

/-! ## The checks one by one -/

theorem isAdmissible_rename {v : Value} (hgiven : v ≠ .none) :
    isAdmissible "rename" v = v.asText?.any (· ≠ "") := by
  cases v <;> first | exact absurd rfl hgiven | rfl

theorem isAdmissible_unknown {name : String} (hname : name ∉ directiveNames) (v : Value) :
    isAdmissible name v = false := by
  unfold directiveNames at hname
  unfold isAdmissible
  split <;> first | rfl | simp at hname

theorem checkRename_given {raw : Attributes} {v : Value} (h : raw.get? "rename" = some v)
    (hgiven : v ≠ .none) :
    checkRename raw =
      match v.asText? with
      | none => .error (directiveIssue "rename" "string_type" "Input should be a valid string")
      | some s =>
        if s.isEmpty then
          .error (statedIssue [.text "rename"] "rename must be a non-empty column name")
        else .ok (some s) := by
  unfold checkRename
  rw [h]
  cases v <;> first | exact absurd rfl hgiven | rfl

/-- A check complains about the entries under its name just if they are at fault. -/
def Attributes.Settles (raw : Attributes) (name : String) {α : Type} (x : Except Issue α) : Prop :=
  List.Forall₂ Complaint
    ((raw.filter (·.1 == name)).filter fun e => !isAdmissible e.1 e.2) (issueOf x)

section

variable {raw : Attributes} (hraw : (raw.map Prod.fst).Nodup)

include hraw in
theorem Attributes.settles_of {name : String} {α : Type} {x : Except Issue α}
    (habsent : raw.get? name = none → issueOf x = [])
    (hsound : ∀ v, raw.get? name = some v → isAdmissible name v = true → issueOf x = [])
    (hfault : ∀ v, raw.get? name = some v → isAdmissible name v = false →
      ∃ i, issueOf x = [i] ∧ Complaint (name, v) i) :
    raw.Settles name x := by
  unfold Settles
  rw [Attributes.filter_name hraw]
  cases hget : raw.get? name with
  | none =>
    rw [habsent hget]
    exact .nil
  | some v =>
    cases hv : isAdmissible name v with
    | true =>
      rw [hsound v hget hv]
      simp [hv]
    | false =>
      obtain ⟨i, hi, hcomplaint⟩ := hfault v hget hv
      rw [hi]
      simpa [hv] using hcomplaint

include hraw in
theorem checkRename_settles : raw.Settles "rename" (checkRename raw) := by
  refine Attributes.settles_of hraw (fun h => ?_) (fun v h hv => ?_) fun v h hv => ?_
  · unfold checkRename
    rw [h]
    rfl
  · by_cases hgiven : v = .none
    · subst hgiven
      unfold checkRename
      rw [h]
      rfl
    rw [isAdmissible_rename hgiven] at hv
    rw [checkRename_given h hgiven]
    cases htext : v.asText? with
    | none => simp [htext] at hv
    | some s =>
      have hname : s ≠ "" := by simpa [htext] using hv
      simp [hname, issueOf]
  · have hgiven : v ≠ .none := by
      rintro rfl
      cases hv
    rw [isAdmissible_rename hgiven] at hv
    rw [checkRename_given h hgiven]
    cases htext : v.asText? with
    | none => exact ⟨_, rfl, .notText hgiven htext⟩
    | some s =>
      obtain rfl : s = "" := by simpa [htext] using hv
      exact ⟨_, rfl, .emptyText htext⟩

include hraw in
theorem checkFlag_settles {name : String} (hname : name = "flatten" ∨ name = "default") :
    raw.Settles name (checkFlag raw name) := by
  have hadmissible (v : Value) : isAdmissible name v = v.isBool := by
    obtain rfl | rfl := hname
    · cases v <;> rfl
    · cases v <;> rfl
  refine Attributes.settles_of hraw (fun h => ?_) (fun v h hv => ?_) fun v h hv => ?_
  · unfold checkFlag
    rw [h]
    rfl
  · rw [hadmissible] at hv
    cases v <;> try cases hv
    unfold checkFlag
    rw [h]
    rfl
  · rw [hadmissible] at hv
    refine ⟨_, ?_, .notFlag hname hv⟩
    unfold checkFlag
    rw [h]
    cases v <;> first | rfl | cases hv

include hraw in
theorem checkTryFrom_settles : raw.Settles "try_from" (checkTryFrom raw) := by
  refine Attributes.settles_of hraw (fun h => ?_) (fun v h hv => ?_) fun v h hv => ?_
  · unfold checkTryFrom
    rw [h]
    rfl
  · unfold checkTryFrom
    rw [h]
    cases v <;> try cases hv
    · rfl
    · have htype : (_ || _) = true := hv
      dsimp only
      rw [if_pos htype]
      rfl
  · have hrefused : checkTryFrom raw = .error (statedIssue [.text "try_from"]
        (if v.isUnwritable then Fault.tooLongToWrite.message
        else "try_from must be a type, got " ++ v.shown)) := by
      unfold checkTryFrom
      rw [h]
      cases v <;> try rfl
      · cases hv
      · have htype : (_ || _) = false := hv
        dsimp only
        rw [if_neg (Bool.eq_false_iff.mp htype)]
    rw [hrefused]
    refine ⟨_, rfl, ?_⟩
    cases hshown : v.isUnwritable with
    | false => exact .noType hv hshown
    | true => exact .unshownType hv hshown

/-- Every entry under an unknown name is complained about, in the order of the mapping. -/
theorem unknownIssues_complain (raw : Attributes) :
    List.Forall₂ Complaint
      ((raw.filter fun e => !directiveNames.contains e.1).filter fun e => !isAdmissible e.1 e.2)
      (unknownIssues raw) := by
  have hall : ((raw.filter fun e => !directiveNames.contains e.1).filter
      fun e => !isAdmissible e.1 e.2) = raw.filter fun e => !directiveNames.contains e.1 := by
    refine List.filter_eq_self.mpr fun e he => ?_
    have hunknown := (List.mem_filter.mp he).2
    rw [isAdmissible_unknown (by simpa using hunknown)]
    rfl
  unfold unknownIssues
  rw [hall, List.forall₂_map_right_iff, List.forall₂_same]
  intro e he
  exact .unknown (by simpa using (List.mem_filter.mp he).2)

theorem ok_of_issueOf {α : Type} {x : Except Issue α} (h : issueOf x = []) : ∃ a, x = .ok a := by
  cases x with
  | ok a => exact ⟨a, rfl⟩
  | error i => cases h

include hraw in
/-- All that the checks say, in the order in which they say it. -/
theorem issues_complain :
    List.Forall₂ Complaint raw.faults
      (issueOf (checkRename raw) ++ issueOf (checkFlag raw "flatten") ++
        issueOf (checkTryFrom raw) ++ issueOf (checkFlag raw "default") ++ unknownIssues raw) := by
  have hfaults : raw.faults =
      ((((raw.filter (·.1 == "rename")).filter fun e => !isAdmissible e.1 e.2) ++
        (raw.filter (·.1 == "flatten")).filter fun e => !isAdmissible e.1 e.2) ++
        (raw.filter (·.1 == "try_from")).filter fun e => !isAdmissible e.1 e.2) ++
        ((raw.filter (·.1 == "default")).filter fun e => !isAdmissible e.1 e.2) ++
        (raw.filter fun e => !directiveNames.contains e.1).filter
          fun e => !isAdmissible e.1 e.2 := by
    simp only [Attributes.faults, Attributes.ranked, directiveNames, List.flatMap_cons,
      List.flatMap_nil, List.append_nil, List.filter_append, List.append_assoc]
  rw [hfaults]
  exact List.rel_append (List.rel_append (List.rel_append (List.rel_append
    (checkRename_settles hraw) (checkFlag_settles hraw (.inl rfl))) (checkTryFrom_settles hraw))
    (checkFlag_settles hraw (.inr rfl))) (unknownIssues_complain raw)

/-- A mapping has no fault just if its values are admissible. -/
theorem Attributes.faults_eq_nil : raw.faults = [] ↔ ∀ e ∈ raw, isAdmissible e.1 e.2 = true := by
  rw [← List.perm_nil, List.Perm.congr_left raw.faults_perm, List.perm_nil,
    List.filter_eq_nil_iff]
  simp

/-! ## What sound directives hold -/

include hraw in
theorem checkRename_holds {r : Option String} (h : checkRename raw = .ok r) :
    (∀ s, r = some s ↔ ∃ v, ("rename", v) ∈ raw ∧ v.asText? = some s) ∧
    (r.isSome = true ↔ ∃ v, ("rename", v) ∈ raw ∧ v ≠ .none) := by
  simp only [← Attributes.get?_eq_some_iff hraw]
  cases hget : raw.get? "rename" with
  | none =>
    unfold checkRename at h
    rw [hget] at h
    cases h
    simp
  | some v =>
    by_cases hgiven : v = .none
    · subst hgiven
      unfold checkRename at h
      rw [hget] at h
      cases h
      simp [Value.asText?]
    · rw [checkRename_given hget hgiven] at h
      cases htext : v.asText? with
      | none =>
        rw [htext] at h
        cases h
      | some s =>
        rw [htext] at h
        dsimp only at h
        split at h
        · cases h
        · cases h
          simp [htext, hgiven]

include hraw in
theorem checkFlag_holds {name : String} {b : Bool} (h : checkFlag raw name = .ok b) :
    b = true ↔ (name, .bool true) ∈ raw := by
  rw [← Attributes.get?_eq_some_iff hraw]
  unfold checkFlag at h
  split at h
  next hget =>
    cases h
    simp [hget]
  next hget =>
    cases h
    simp [hget]
  next => cases h

include hraw in
theorem checkTryFrom_holds {source : Option TypeExpr} (h : checkTryFrom raw = .ok source)
    (t : TypeExpr) : source = some t ↔ ("try_from", .type t) ∈ raw := by
  rw [← Attributes.get?_eq_some_iff hraw]
  unfold checkTryFrom at h
  split at h
  next hget =>
    cases h
    simp [hget]
  next hget =>
    cases h
    simp [hget]
  next v _ hget =>
    dsimp only at h
    split at h
    next =>
      split at h
      · cases h
        simp [hget]
      · cases h
    next => cases h

end

/-- An entry at fault is written with its name in front; the empty name is written as the whole. -/
theorem Complaint.issueText_eq {e : String × Value} {i : Issue} (h : Complaint e i) :
    issueText i = (if e.1 = "" then "attributes" else e.1) ++ ": " ++ i.message := by
  have hplace : i.location = [.text e.1] := by
    cases h <;> rfl
  unfold issueText
  rw [hplace]
  change (if e.1.isEmpty = true then "attributes" else e.1) ++ ": " ++ i.message = _
  simp only [String.isEmpty_iff]

/-! ## The whole check -/

section

variable {raw : Attributes} (hraw : (raw.map Prod.fst).Nodup)

include hraw in
/-- Where no entry is at fault every check passes, and what the checks give is what was given. -/
theorem checks_of_faults_eq_nil (h : raw.faults = []) :
    ∃ d : FieldDirectives, checkRename raw = .ok d.rename ∧
      checkFlag raw "flatten" = .ok d.flatten ∧ checkTryFrom raw = .ok d.tryFrom ∧
      checkFlag raw "default" = .ok d.default ∧ unknownIssues raw = [] ∧ d.Holds raw ∧
      ((d.flatten && d.rename.isSome) = true ↔ raw.FlattensColumn) := by
  have hcomplaints := issues_complain hraw
  rw [h, List.forall₂_nil_left_iff] at hcomplaints
  simp only [List.append_eq_nil_iff] at hcomplaints
  obtain ⟨⟨⟨⟨hrename, hflatten⟩, hsource⟩, hdefault⟩, hunknown⟩ := hcomplaints
  obtain ⟨r, hr⟩ := ok_of_issueOf hrename
  obtain ⟨f, hf⟩ := ok_of_issueOf hflatten
  obtain ⟨t, ht⟩ := ok_of_issueOf hsource
  obtain ⟨d, hd⟩ := ok_of_issueOf hdefault
  refine ⟨⟨r, f, t, d⟩, hr, hf, ht, hd, hunknown, ⟨(checkRename_holds hraw hr).1,
    checkFlag_holds hraw hf, checkTryFrom_holds hraw ht, checkFlag_holds hraw hd⟩, ?_⟩
  rw [Bool.and_eq_true, checkFlag_holds hraw hf, (checkRename_holds hraw hr).2]
  rfl

include hraw in
/-- Valid directives are accepted, and hold what was given. -/
theorem resolveField_accepts (h : raw.Valid) (owner : String) :
    ∃ d, resolveField raw owner = .ok d ∧ d.Holds raw := by
  obtain ⟨d, hr, hf, ht, hd, hunknown, hholds, hcolumn⟩ :=
    checks_of_faults_eq_nil hraw (Attributes.faults_eq_nil.mpr h.admissible)
  have hapart : (d.flatten && d.rename.isSome) = false :=
    Bool.eq_false_iff.mpr fun hboth => h.column (hcolumn.mp hboth)
  refine ⟨d, ?_, hholds⟩
  unfold resolveField
  simp only [hr, hf, ht, hd, hunknown, hapart, Bool.false_eq_true, if_false]

include hraw in
/-- Directives that are not valid are refused, with everything that is wrong with them. -/
theorem resolveField_refuses (h : ¬ raw.Valid) (owner : String) :
    ∃ issues, resolveField raw owner = .error (directiveFailure owner issues) ∧
      (raw.faults = [] → issues = [flattenedColumn]) ∧
      (raw.faults ≠ [] → List.Forall₂ Complaint raw.faults issues) := by
  by_cases hfaults : raw.faults = []
  · obtain ⟨d, hr, hf, ht, hd, hunknown, -, hcolumn⟩ := checks_of_faults_eq_nil hraw hfaults
    have hboth : (d.flatten && d.rename.isSome) = true :=
      hcolumn.mpr (not_not.mp fun hno => h ⟨Attributes.faults_eq_nil.mp hfaults, hno⟩)
    refine ⟨[flattenedColumn], ?_, fun _ => rfl, fun hne => absurd hfaults hne⟩
    unfold resolveField
    simp only [hr, hf, ht, hd, hunknown, hboth, if_true]
  · have hcomplaints := issues_complain hraw
    refine ⟨_, ?_, fun hnil => absurd hnil hfaults, fun _ => hcomplaints⟩
    unfold resolveField
    dsimp only
    split
    next hr hf ht hd hunknown =>
      -- no check has anything to say, so nothing is at fault
      rw [hr, hf, ht, hd, hunknown] at hcomplaints
      exact absurd (List.forall₂_nil_right_iff.mp hcomplaints) hfaults
    next => rfl

end

/-- The check of the directives of a field accepts the valid ones and no others. What it accepts
holds the values given, and what it refuses is refused with the owner and one issue for each entry
at fault. -/
theorem resolveField_decides {raw : Attributes} (hraw : (raw.map Prod.fst).Nodup)
    (owner : String) :
    ((∃ d, resolveField raw owner = .ok d) ↔ raw.Valid) ∧
    (∀ d, resolveField raw owner = .ok d → d.Holds raw) ∧
    (¬ raw.Valid → ∃ issues,
      resolveField raw owner = .error (.schema
        (.attributes (.text owner) (.text ("; ".intercalate (issues.map issueText))))
        (some (.invalid issues))) ∧
      (raw.faults = [] → issues = [flattenedColumn]) ∧
      (raw.faults ≠ [] → List.Forall₂ Complaint raw.faults issues)) ∧
    raw.faults.Perm (raw.filter fun e => !isAdmissible e.1 e.2) ∧
    ∀ e i, Complaint e i →
      issueText i = (if e.1 = "" then "attributes" else e.1) ++ ": " ++ i.message := by
  refine ⟨⟨?_, ?_⟩, ?_, fun h => resolveField_refuses hraw h owner, raw.faults_perm,
    fun _ _ => Complaint.issueText_eq⟩
  · rintro ⟨d, hd⟩
    by_contra h
    obtain ⟨issues, hissues, -⟩ := resolveField_refuses hraw h owner
    cases hd.symm.trans hissues
  · intro h
    obtain ⟨d, hd, -⟩ := resolveField_accepts hraw h owner
    exact ⟨d, hd⟩
  · intro d hd
    by_cases h : raw.Valid
    · obtain ⟨d', hd', hholds⟩ := resolveField_accepts hraw h owner
      cases hd.symm.trans hd'
      exact hholds
    · obtain ⟨issues, hissues, -⟩ := resolveField_refuses hraw h owner
      cases hd.symm.trans hissues

/-- Four faults in a mixed order: the known names come first, in the order of their checks, and what
is flattened and renamed at once is not spoken of. -/
def mixedFaults : Attributes :=
  [("bogus", .int 1), ("flatten", .none), ("try_from", .type (.builtin .str)), ("rename", .text ""),
    ("", .bool true)]

theorem resolveField_decides_mixedFaults :
    (mixedFaults.map Prod.fst).Nodup ∧ ¬ mixedFaults.Valid ∧ mixedFaults.faults =
      [("rename", .text ""), ("flatten", .none), ("bogus", .int 1), ("", .bool true)] ∧
    ∃ issues, resolveField mixedFaults "User.id" = .error (.schema
        (.attributes (.text "User.id") (.text ("; ".intercalate (issues.map issueText))))
        (some (.invalid issues))) ∧
      List.Forall₂ Complaint mixedFaults.faults issues := by
  have hnames : (mixedFaults.map Prod.fst).Nodup := by decide
  have hfaults : mixedFaults.faults =
      [("rename", .text ""), ("flatten", .none), ("bogus", .int 1), ("", .bool true)] := rfl
  have hinvalid : ¬ mixedFaults.Valid := fun h => by
    have hbogus := h.admissible ("bogus", .int 1) (List.mem_cons_self ..)
    exact absurd hbogus (by decide)
  obtain ⟨issues, hissues, -, hcomplaints⟩ :=
    (resolveField_decides hnames "User.id").2.2.1 hinvalid
  exact ⟨hnames, hinvalid, hfaults, issues, hissues, hcomplaints (by rw [hfaults]; simp)⟩

end RowDecoding
