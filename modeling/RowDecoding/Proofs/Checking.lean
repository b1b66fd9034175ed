import RowDecoding.Proofs.Pairing

/-!
# Checks side by side

A check of a value against a type does nothing but ask for checks of records, so two of them are
paired if those of records are. The proof follows the definitions: containers by their elements,
unions by their members in turn, and all types together by induction on the type.

> `bounded_paired`: the checks of a type within bounds are paired if those of records are.
-/

namespace RowDecoding

namespace Check

/-- Two members of a union have the same name, and their checks are paired. -/
def PairedMembers (P : Pairing) (members members' : List Alternative) : Prop :=
  List.Forall₂ (fun a a' => a.1 = a'.1 ∧ Paired P a.2 a'.2) members members'

variable {P : Pairing} {check check' key key' value value' : ValueCheck}

theorem plainly_paired (found : Value → Verdict) : Paired P (plainly found) (plainly found) :=
  fun _ => .pure _

/-! ## Containers -/

theorem eachElement_paired (h : Paired P check check') (kind : Container) (strict : Bool)
    (longest : Option Nat) :
    Paired P (eachElement kind strict longest check)
      (eachElement kind strict longest check') := by
  intro v
  unfold eachElement
  cases kind.elements? strict v with
  | none => exact .pure _
  | some found =>
    refine .bind (.mapM fun x _ => ?_) fun _ => .pure _
    exact .bind (h x.1) fun _ => .pure _

/-- Positions keep their numbers whatever stands at them. -/
theorem zipIdx_forall₂ {α β : Type} {R : α → β → Prop} {l : List α} {l' : List β}
    (h : List.Forall₂ R l l') :
    ∀ start,
      List.Forall₂ (fun a b => R a.1 b.1 ∧ a.2 = b.2) (l.zipIdx start) (l'.zipIdx start) := by
  induction h with
  | nil => exact fun _ => .nil
  | cons hr _ ih => exact fun start => .cons ⟨hr, rfl⟩ (ih (start + 1))

theorem eachPosition_paired {checks checks' : List ValueCheck}
    (h : List.Forall₂ (Paired P) checks checks') (strict : Bool) (longest : Option Nat) :
    Paired P (eachPosition strict longest checks) (eachPosition strict longest checks') := by
  intro v
  unfold eachPosition
  have hlength := h.length_eq
  cases Container.tuple.elements? strict v with
  | none => exact .pure _
  | some found =>
    dsimp only
    rw [hlength]
    refine .bind (.mapM₂ ?_) fun _ => .pure _
    refine (zipIdx_forall₂ h 0).imp ?_
    rintro ⟨check, i⟩ ⟨check', i'⟩ ⟨hcheck, hi⟩
    cases hi
    dsimp only
    cases found.1[i]? with
    | none => exact .pure _
    | some x => exact .bind (hcheck x) fun _ => .pure _

theorem eachEntry_paired (hkey : Paired P key key') (hvalue : Paired P value value') :
    Paired P (eachEntry key value) (eachEntry key' value') := by
  intro v
  unfold eachEntry
  split
  · refine .bind (.mapM fun x _ => ?_) fun _ => .pure _
    refine .bind (hkey x.1) fun _ => ?_
    exact .bind (hvalue x.2) fun _ => .pure _
  · exact .pure _

theorem container_paired (strict : Bool) (longest : Option Nat) (kind : Container) :
    Paired P (container strict longest kind) (container strict longest kind) :=
  eachElement_paired (plainly_paired _) kind strict longest

theorem builtin_paired (s : CheckSettings) (b : Builtin) :
    Paired P (builtin s b) (builtin s b) := by
  cases b with
  | list | tuple | set | frozenset => exact container_paired _ _ _
  | dict => exact eachEntry_paired (plainly_paired _) (plainly_paired _)
  | _ => exact plainly_paired _

/-! ## Unions -/

theorem tryEach_paired (v : Value) {members members' : List Alternative}
    (h : PairedMembers P members members') :
    RowDecoding.Paired P (tryEach v members) (tryEach v members') := by
  induction h with
  | nil => exact .pure _
  | @cons a a' rest rest' ha _ ih =>
    obtain ⟨name, check⟩ := a
    obtain ⟨name', check'⟩ := a'
    obtain ⟨hname, hcheck⟩ := ha
    cases hname
    unfold tryEach
    have hrest : ∀ verdict : Verdict, RowDecoding.Paired P
        (return (name, verdict) :: (← tryEach v rest))
        (return (name, verdict) :: (← tryEach v rest')) :=
      fun _ => .bind ih fun _ => .pure _
    refine .bind (hcheck v) fun verdict => ?_
    cases verdict with
    | error issues => exact hrest _
    | ok fit =>
      dsimp only
      split
      · exact .pure _
      · exact hrest _

theorem oneOf_paired {members members' : List Alternative}
    (h : PairedMembers P members members') : Paired P (oneOf members) (oneOf members') := by
  intro v
  refine .bind (tryEach_paired v h) fun verdicts => ?_
  dsimp only
  split <;> exact .pure _

theorem anyOf_paired {members members' : List Alternative}
    (h : PairedMembers P members members') : Paired P (anyOf members) (anyOf members') := by
  cases h with
  | nil => exact oneOf_paired .nil
  | cons ha hrest =>
    cases hrest with
    | nil => exact ha.2
    | cons hb hrest => exact oneOf_paired (.cons ha (.cons hb hrest))

theorem nullable_paired (h : Paired P check check') :
    Paired P (nullable check) (nullable check') := by
  intro v
  unfold nullable
  split
  · exact .pure _
  · exact h v

/-- The members of a union without the one for nothing. -/
theorem PairedMembers.filter {members members' : List Alternative}
    (h : PairedMembers P members members') :
    PairedMembers P (members.filter (·.1 != "none")) (members'.filter (·.1 != "none")) := by
  induction h with
  | nil => exact .nil
  | @cons a a' rest rest' ha _ ih =>
    by_cases hname : (a.1 != "none") = true
    · have hname' : (a'.1 != "none") = true := by rwa [← ha.1]
      simp only [List.filter_cons, hname, hname', if_true]
      exact .cons ha ih
    · have hname' : ¬(a'.1 != "none") = true := by rwa [← ha.1]
      simp only [List.filter_cons, hname, hname', if_false, Bool.false_eq_true]
      exact ih

theorem PairedMembers.checks {members members' : List Alternative}
    (h : PairedMembers P members members') :
    List.Forall₂ (Paired P) (members.map (·.2)) (members'.map (·.2)) := by
  induction h with
  | nil => exact .nil
  | cons ha _ ih => exact .cons ha.2 ih

/-- A union, by its members: alternatives of the same number on either side. -/
theorem union_paired (count : Nat) {members members' : List Alternative}
    (h : PairedMembers P members members') :
    Paired P
      (if (members.filter (·.1 != "none")).length == count
        then anyOf (members.filter (·.1 != "none"))
        else nullable (anyOf (members.filter (·.1 != "none"))))
      (if (members'.filter (·.1 != "none")).length == count
        then anyOf (members'.filter (·.1 != "none"))
        else nullable (anyOf (members'.filter (·.1 != "none")))) := by
  have hany := anyOf_paired h.filter
  rw [show (members.filter (·.1 != "none")).length = (members'.filter (·.1 != "none")).length from
    h.filter.length_eq]
  split
  · exact hany
  · exact nullable_paired hany

/-! ## All types -/

section

variable {table : ClassTable} {record record' : CheckSettings → ClassRef → ValueCheck}

theorem declared_paired (hrecord : ∀ s c, Paired P (record s c) (record' s c))
    (s : CheckSettings) (c : ClassRef) :
    Paired P (declared table record s c) (declared table record' s c) := by
  unfold declared
  split
  · exact plainly_paired _
  · exact hrecord s c
  · exact plainly_paired _

mutual

theorem type_paired (hrecord : ∀ s c, Paired P (record s c) (record' s c))
    (s : CheckSettings) :
    ∀ t : TypeExpr, Paired P (type table record s t) (type table record' s t)
  | .builtin b => by
    unfold type
    exact builtin_paired s b
  | .declared c => by
    unfold type
    exact declared_paired hrecord s c
  | .union _ members => by
    unfold type
    exact union_paired members.length (typesOf_paired hrecord s members)
  | .listOf t | .setOf t | .frozensetOf t | .tupleOfAny t => by
    unfold type
    exact eachElement_paired (type_paired hrecord s t) _ _ _
  | .dictOf k v => by
    unfold type
    exact eachEntry_paired (type_paired hrecord s k) (type_paired hrecord s v)
  | .tupleOf _ items => by
    unfold type
    exact eachPosition_paired (typesOf_paired hrecord s items).checks _ _
  | .annotated base _ => by
    unfold type
    exact type_paired hrecord s base
  | .literal _ | .forward _ => by
    unfold type
    exact plainly_paired _
  | .value v => by
    cases v with
    | none => unfold type; exact plainly_paired _
    | _ => unfold type; exact plainly_paired _

theorem typesOf_paired (hrecord : ∀ s c, Paired P (record s c) (record' s c))
    (s : CheckSettings) :
    ∀ ts : List TypeExpr, PairedMembers P (typesOf table record s ts) (typesOf table record' s ts)
  | [] => by
    unfold typesOf
    exact .nil
  | t :: rest => by
    unfold typesOf
    exact .cons ⟨rfl, type_paired hrecord s t⟩ (typesOf_paired hrecord s rest)

end

end

/-! ## Bounds -/

theorem anyAtLeast_paired (least : Value) (fit : Fit) :
    RowDecoding.Paired P (anyAtLeast least fit) (anyAtLeast least fit) := by
  refine .bind (.liftFault _) fun found => ?_
  split
  · exact .pure _
  · exact .pure _
  · exact .throw (P.fault _)

theorem anyWithin_paired (longest : Nat) (fit : Fit) :
    RowDecoding.Paired P (anyWithin longest fit) (anyWithin longest fit) := by
  unfold anyWithin
  split
  · exact .throw (P.fault _)
  · exact .pure _

theorem followed_paired (h : Paired P check check') {next : Fit → Run Verdict}
    (hnext : ∀ fit, RowDecoding.Paired P (next fit) (next fit)) :
    Paired P (followed check next) (followed check' next) := by
  intro v
  refine .bind (h v) fun verdict => ?_
  cases verdict with
  | error issues => exact .pure _
  | ok fit => exact hnext fit

theorem measured_paired (longest : Nat) (refuse : Nat → Verdict) (fit : Fit) :
    RowDecoding.Paired P (measured longest refuse fit) (measured longest refuse fit) :=
  .pure _

section

variable {table : ClassTable} {record record' : CheckSettings → ClassRef → ValueCheck}

theorem limited_paired (hrecord : ∀ s c, Paired P (record s c) (record' s c))
    (s : CheckSettings) (longest : Nat) (t : TypeExpr) :
    Paired P (limited table record s longest t) (limited table record' s longest t) := by
  have htype : ∀ t, Paired P (type table record s t) (type table record' s t) :=
    type_paired hrecord s
  unfold limited
  split
  · exact builtin_paired _ _
  · exact followed_paired (htype _) (measured_paired _ _)
  · exact container_paired _ _ _
  · exact container_paired _ _ _
  · exact container_paired _ _ _
  · exact container_paired _ _ _
  · exact eachElement_paired (htype _) _ _ _
  · exact eachElement_paired (htype _) _ _ _
  · exact eachElement_paired (htype _) _ _ _
  · exact eachElement_paired (htype _) _ _ _
  · exact eachPosition_paired (typesOf_paired hrecord s _).checks _ _
  · exact followed_paired (htype _) (measured_paired _ _)
  · exact followed_paired (htype _) (measured_paired _ _)
  · exact followed_paired (htype _) (anyWithin_paired _)

theorem limitedBy_paired (hrecord : ∀ s c, Paired P (record s c) (record' s c))
    (s : CheckSettings) (longest : Option Nat) (t : TypeExpr) :
    Paired P (limitedBy table record s longest t) (limitedBy table record' s longest t) := by
  cases longest with
  | none => exact type_paired hrecord s t
  | some most => exact limited_paired hrecord s most t

theorem boundedValue_paired (hrecord : ∀ s c, Paired P (record s c) (record' s c))
    (s : CheckSettings) (bounds : Bounds) (t : TypeExpr) :
    Paired P (boundedValue table record s bounds t) (boundedValue table record' s bounds t) := by
  unfold boundedValue
  cases bounds.least with
  | none => exact limitedBy_paired hrecord s bounds.longest t
  | some least =>
    dsimp -zeta only
    -- What is compared with the least value is the same text whatever checks the records.
    extract_lets compared compared'
    have hcompared : Paired P compared compared' := by
      unfold compared compared'
      split
      · split
        · exact followed_paired (builtin_paired s _) fun _ => .pure _
        · exact followed_paired (builtin_paired s _) (anyAtLeast_paired least)
      · exact followed_paired (type_paired hrecord s t) (anyAtLeast_paired least)
    cases bounds.longest with
    | none => exact hcompared
    | some most => exact followed_paired hcompared (anyWithin_paired most)

/-- **A check is paired with another one if checks of records are.** -/
theorem bounded_paired (hrecord : ∀ s c, Paired P (record s c) (record' s c))
    (s : CheckSettings) (bounds : Bounds) (t : TypeExpr) :
    Paired P (bounded table record s bounds t) (bounded table record' s bounds t) := by
  unfold bounded
  have hvalue : ∀ t, Paired P (boundedValue table record s bounds t)
      (boundedValue table record' s bounds t) := boundedValue_paired hrecord s bounds
  dsimp only
  split
  · exact nullable_paired (hvalue _)
  · exact hvalue _

end

end Check

end RowDecoding
