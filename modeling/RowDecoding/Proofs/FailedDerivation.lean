import RowDecoding.Proofs.Deriving
import RowDecoding.Proofs.Spared

/-!
# What a failed derivation leaves

A derivation can fail: its convention is none, or the class does not compile. It is meant to leave no
trace then. It attaches nothing to the class, no plan and no row mapping, and what the registry has
learnt by then shows in no later answer. But the convention was noted on the class before the plan
was asked for, and it stays noted.

So a failed derivation leaves the classes as if just the convention had been noted (`Derive.noted`),
and the registry as if nothing had been asked of it. What the registry answers later differs from
what it would have answered without the derivation only for targets that lead to a class which heeds
the convention; there it answers as if the convention had been noted without a derivation.

> `failed_derivation`: a failed derivation leaves its convention, and nothing else.
-/

namespace RowDecoding

namespace Derive

/-! ## The run of a failed derivation -/

/-- The classes once the convention of a derivation is noted, as far as it can be. -/
def noted (table : ClassTable) (c : ClassRef) (renameAll : Option Value) : ClassTable :=
  match renameAll with
  | some v => (withConvention table c v).toOption.getD table
  | none => table

section

variable {σ σ' : Session} {name : String} {r : Registry} {c : ClassRef} {renameAll : Option Value}
  {f : Failure}

theorem noted_of_error {table : ClassTable} {v : Value} {g : Failure}
    (h : withConvention table c v = .error g) : noted table c (some v) = table := by
  show (withConvention table c v).toOption.getD table = table
  rw [h]
  rfl

theorem noted_of_ok {table table' : ClassTable} {v : Value}
    (h : withConvention table c v = .ok table') : noted table c (some v) = table' := by
  show (withConvention table c v).toOption.getD table = table'
  rw [h]
  rfl

/-- No plan is attached to a class that does not compile among these classes. -/
theorem run_attach_error (table : ClassTable) (hr : σ.registryNamed? name = some r)
    (h : (attach c name).run { σ with classes := table } = (.error f, σ')) :
    ∃ r', (Compile.planFor table (.declared c)).run r = (.error f, r') ∧
      σ' = ({ σ with classes := table } : Session).putRegistry r' := by
  have hnoted : ({ σ with classes := table } : Session).registryNamed? name = some r := hr
  rcases Running.run_bind_eq_error.mp h with hplan | ⟨p, σ₁, -, hattached⟩
  · rw [Session.run_planFor hnoted] at hplan
    obtain ⟨herror, rfl⟩ := Prod.mk.inj hplan
    exact ⟨_, Prod.ext herror rfl, rfl⟩
  · cases hattached

/-- A derivation fails because its convention cannot be noted, and then nothing has happened, or
because the class does not compile once the convention is noted. -/
theorem run_derive_error (hr : σ.registryNamed? name = some r)
    (h : (derive c renameAll name).run σ = (.error f, σ')) :
    (σ' = σ ∧ noted σ.classes c renameAll = σ.classes) ∨
      ∃ r', (Compile.planFor (noted σ.classes c renameAll) (.declared c)).run r = (.error f, r') ∧
        σ' = ({ σ with classes := noted σ.classes c renameAll } : Session).putRegistry r' := by
  cases renameAll with
  | none => exact Or.inr (run_attach_error σ.classes hr h)
  | some v =>
    cases htable : withConvention σ.classes c v with
    | error g =>
      rw [run_derive_of_error htable] at h
      cases h
      exact Or.inl ⟨rfl, noted_of_error htable⟩
    | ok table =>
      rw [run_derive_of_ok htable] at h
      rw [noted_of_ok htable]
      exact Or.inr (run_attach_error table hr h)

/-! ## What is left of the classes -/

/-- Where a convention is noted, a class says what it said, and another one at most says so now. -/
theorem noted_eq (table : ClassTable) (c : ClassRef) (renameAll : Option Value) :
    noted table c renameAll = table ∨ renameAll ≠ none ∧
      ∃ said, noted table c renameAll = table.saying c said := by
  cases renameAll with
  | none => exact Or.inl rfl
  | some v =>
    cases htable : withConvention table c v with
    | error g => exact Or.inl (noted_of_error htable)
    | ok table' =>
      obtain ⟨own, -, hsaying⟩ := withConvention_ok htable
      exact Or.inr ⟨Option.some_ne_none v, _, (noted_of_ok htable).trans hsaying⟩

theorem noted_silent (table : ClassTable) (c : ClassRef) (renameAll : Option Value) :
    (noted table c renameAll).silent = table.silent := by
  rcases noted_eq table c renameAll with h | ⟨-, said, h⟩
  · rw [h]
  · rw [h, ClassTable.saying_silent]

/-- A class says what it said, unless a convention is noted that it heeds. -/
theorem config?_noted {table : ClassTable} {d : ClassRef}
    (hd : renameAll = none ∨ ¬table.Heeds d c) :
    (noted table c renameAll).config? d = table.config? d := by
  rcases noted_eq table c renameAll with h | ⟨hsome, said, h⟩
  · rw [h]
  · rw [h, ClassTable.config?_of_not_heeds said (hd.resolve_left hsome)]

end

end Derive

/-! ## A failed derivation -/

/-- A registry that was put in the place of another one is found under no other name. -/
theorem Session.registryNamed?_putRegistry_ne {σ : Session} {r : Registry} {other : String}
    (hother : other ≠ r.name) : (σ.putRegistry r).registryNamed? other = σ.registryNamed? other := by
  unfold registryNamed? putRegistry
  dsimp only
  induction σ.registries with
  | nil => rfl
  | cons old rest ih =>
    rw [List.map_cons, List.find?_cons, List.find?_cons, ih]
    by_cases hold : old.name = r.name
    · have hnew : (r.name == other) = false := beq_eq_false_iff_ne.mpr (Ne.symm hother)
      rw [if_pos (beq_iff_eq.mpr hold), hold, hnew]
    · rw [if_neg (by simpa using hold)]

/-- **A failed derivation leaves its convention.** Take any derivation that fails, whatever its
convention is and whatever the registry. Afterwards the session is as before but for its classes and
for that registry.

The classes are those with the convention noted, if there is one and it can be noted: plans and
attributes, own or inherited, are as before, and so is what each class says about its fields, if
there is no convention or the class does not heed `c`.

The registry keeps what it had. Compare it with the registry as it was, among the classes as they
were or among those with the convention noted, where its caches are right by its registrations (as
they are after any calls, `Ask.runAll_cached`), and ask the same of both, in any order. They answer
alike for every target that leads to no class which says something else by now; among the latter
classes, that is every target. -/
theorem failed_derivation {σ σ' : Session} {name : String} {r : Registry} {c : ClassRef}
    {renameAll : Option Value} {f : Failure} (hr : σ.registryNamed? name = some r)
    (hfails : (Derive.derive c renameAll name).run σ = (.error f, σ')) :
    σ' = { σ with
      classes := Derive.noted σ.classes c renameAll
      registries := σ'.registries } ∧
    (∀ d, (σ'.classes.info d).plan = (σ.classes.info d).plan ∧
      (∀ n, σ'.classes.attribute? d n = σ.classes.attribute? d n) ∧
      (renameAll = none ∨ ¬σ.classes.Heeds d c → σ'.classes.config? d = σ.classes.config? d)) ∧
    (∀ other, other ≠ name → σ'.registryNamed? other = σ.registryNamed? other) ∧
    ∃ r', σ'.registryNamed? name = some r' ∧ r.Undisturbed r' ∧
      ∀ before, before = σ.classes ∨ before = σ'.classes → ∀ u, Cached u before [] r →
      ∀ asks : List Ask, AnswersAlike before σ'.classes (Ask.registerAll asks u)
        (Ask.runAll σ'.classes asks r') (Ask.runAll before asks r) := by
  -- What is left, and which registry is.
  obtain ⟨r', hclasses, hframe, hothers, hr', hleft, hasked⟩ : ∃ r',
      σ'.classes = Derive.noted σ.classes c renameAll ∧
      σ' = { σ with classes := σ'.classes, registries := σ'.registries } ∧
      (∀ other, other ≠ name → σ'.registryNamed? other = σ.registryNamed? other) ∧
      σ'.registryNamed? name = some r' ∧ r.Undisturbed r' ∧
      (r' = r ∨ r' = ((Compile.planFor σ'.classes (.declared c)).run r).2) := by
    rcases Derive.run_derive_error hr hfails with ⟨rfl, hsame⟩ | ⟨r', hplan, rfl⟩
    · exact ⟨r, hsame.symm, rfl, fun _ _ => rfl, hr, .refl r, Or.inl rfl⟩
    · have hleft := (steady_planFor (Derive.noted σ.classes c renameAll) (.declared c)).leaves r
      rw [hplan] at hleft
      have hname : r'.name = r.name := congrArg (·.name) hleft.registrations
      have hmatch := List.find?_some hr
      have hrname : r.name = name := beq_iff_eq.mp hmatch
      refine ⟨r', rfl, rfl, fun other hother => ?_, ?_, hleft, Or.inr ?_⟩
      · exact Session.registryNamed?_putRegistry_ne (by rwa [hname, hrname])
      · exact Session.registryNamed?_putRegistry hr hname
      · exact (congrArg (·.2) hplan).symm
  have hsilent : σ'.classes.silent = σ.classes.silent := by rw [hclasses, Derive.noted_silent]
  refine ⟨hclasses ▸ hframe, fun d => ⟨?_, fun n => ?_, fun hd => ?_⟩, hothers, r', hr', hleft, ?_⟩
  · have hinfo : (σ'.classes.info d).silent = (σ.classes.info d).silent := by
      rw [← ClassTable.info_silent, hsilent, ClassTable.info_silent]
    exact congrArg (·.plan) hinfo
  · rw [← ClassTable.attribute?_silent, hsilent, ClassTable.attribute?_silent]
  · rw [hclasses, Derive.config?_noted hd]
  · intro before hbefore u hcached asks
    have hspares : σ'.classes.silent = before.silent := by
      rcases hbefore with rfl | rfl
      · exact hsilent
      · rfl
    have hstart : Cached u σ'.classes [] (r'.only (spared before σ'.classes)) := by
      rcases hasked with rfl | rfl
      · exact hcached.spared hspares
      · exact planFor_onlyCached keepsFlattened_spared _ (hcached.spared hspares)
    exact answers_spared hspares (Ask.runAll_cached asks hcached)
      (Ask.runAll_onlyCached keepsFlattened_spared asks hstart)

/-! ## A convention that is none -/

namespace BogusConvention

/-- A class with one field. -/
def user : ClassRef := ⟨"User", 1, .dataclass .none⟩

/-- Another one, with a column for a `user`. -/
def tag : ClassRef := ⟨"Tag", 2, .dataclass .none⟩

def session : Session :=
  let declarations : Run Unit := do
    Derive.declare (.dataclass "User" none [.given "user_id" (.builtin .int)]) none
    Derive.declare (.dataclass "Tag" none
      [.given "label" (.builtin .str), .given "owner" (.declared user)]) none
  (declarations.run (Session.create [])).2

/-- What `user` is derived with. -/
def bogus : Value := .text "bogus"

/-- The session after `user` was derived with it, in vain. -/
def afterwards : Session :=
  ((Derive.derive user (some bogus) Session.standardRegistry).run session).2

/-- The derivation fails. By then `user` says something else and its plan cannot be had, which it
could without the derivation; and `tag` says nothing. -/
theorem checks :
    (!((Derive.derive user (some bogus) Session.standardRegistry).run session).1.isOk &&
      (afterwards.classes.config? user).isSome && !(session.classes.config? user).isSome &&
      !((Session.planFor Session.standardRegistry (.declared user)).run afterwards).1.isOk &&
      ((Session.planFor Session.standardRegistry (.declared user)).run session).1.isOk &&
      (afterwards.classes.config? tag).isNone && (session.classes.config? tag).isNone) = true := by
  decide +kernel

theorem derivation_fails : ∃ f,
    (Derive.derive user (some bogus) Session.standardRegistry).run session =
      (.error f, afterwards) := by
  have hchecks := checks
  simp only [Bool.and_eq_true, Bool.not_eq_true'] at hchecks
  obtain ⟨⟨⟨⟨⟨⟨hfails, -⟩, -⟩, -⟩, -⟩, -⟩, -⟩ := hchecks
  unfold afterwards
  rcases hderived : (Derive.derive user (some bogus) Session.standardRegistry).run session
    with ⟨f | _, σ'⟩
  · exact ⟨f, rfl⟩
  · rw [hderived] at hfails
    cases hfails

theorem introspect_tag : introspect afterwards.classes (.declared tag) =
    .ok ⟨.declared tag, .byName, [⟨some "label", .builtin .str, 0, [], none⟩,
      ⟨some "owner", .declared user, 1, [], none⟩], []⟩ := by
  with_unfolding_all rfl

theorem flattens_nothing (v : TypeExpr) :
    ¬Flattens afterwards.classes Overrides.none (.declared tag) v := by
  rintro ⟨⟨schema, f, d, hschema, hf, hd, hflat, -⟩, -⟩
  rw [introspect_tag] at hschema
  cases hschema
  rcases List.mem_pair.mp hf with rfl | rfl <;> cases hd <;> cases hflat

theorem spared_tag :
    Spared session.classes afterwards.classes Overrides.none (.declared tag) := by
  have hchecks := checks
  simp only [Bool.and_eq_true, Option.isNone_iff_eq_none] at hchecks
  rintro d (htag | ⟨v, hv, -⟩)
  · cases htag
    rw [hchecks.1.2, hchecks.2]
  · exact absurd hv (flattens_nothing v)

theorem settled_tag : SettledFields afterwards.classes Overrides.none (.declared tag) := by
  intro f d hmeets _
  cases hmeets with
  | own h =>
    obtain ⟨schema, hschema, hf, hd⟩ := h
    rw [introspect_tag] at hschema
    cases hschema
    rcases List.mem_pair.mp hf with rfl | rfl <;> cases hd
    · exact TypeExpr.settled_builtin .str
    · exact TypeExpr.settled_declared user
  | nested h _ => exact absurd h (flattens_nothing _)

/-- The plan of `tag` is the same whether `user` was derived in vain or not, whatever else is asked
for. -/
theorem failed_derivation_spares_tag : ∃ f r r',
    (Derive.derive user (some bogus) Session.standardRegistry).run session =
      (.error f, afterwards) ∧
    session.registryNamed? Session.standardRegistry = some r ∧
    afterwards.registryNamed? Session.standardRegistry = some r' ∧
    ∀ asks : List Ask, SameUpTo DecodePlan.Alike
      ((Compile.planFor afterwards.classes (.declared tag)).run
        (Ask.runAll afterwards.classes asks r')).1
      ((Compile.planFor session.classes (.declared tag)).run
        (Ask.runAll session.classes asks r)).1 := by
  obtain ⟨f, hfails⟩ := derivation_fails
  have hregistry : session.registryNamed? Session.standardRegistry =
      some (Registry.create Session.standardRegistry .standard) := by
    with_unfolding_all rfl
  obtain ⟨-, -, -, r', hr', -, halike⟩ := failed_derivation hregistry hfails
  refine ⟨f, _, r', hfails, hregistry, hr', fun asks => ?_⟩
  have hanswers := halike session.classes (Or.inl rfl) _ (create_cached _ _ _) asks
  exact (hanswers.plans tag spared_tag).same settled_tag

/-- A derivation that fails leaves what `user` says about its fields changed, and so its plan is
asked for in vain where it would be given without the derivation. -/
theorem derivation_leaves_convention : ∃ f σ' g p,
    (Derive.derive user (some bogus) Session.standardRegistry).run session = (.error f, σ') ∧
    σ'.classes.config? user ≠ session.classes.config? user ∧
    ((Session.planFor Session.standardRegistry (.declared user)).run σ').1 = .error g ∧
    ((Session.planFor Session.standardRegistry (.declared user)).run session).1 = .ok p := by
  have hchecks := checks
  simp only [Bool.and_eq_true, Bool.not_eq_true'] at hchecks
  obtain ⟨⟨⟨⟨⟨⟨-, hsays⟩, hsaid⟩, hafter⟩, hwithout⟩, -⟩, -⟩ := hchecks
  obtain ⟨f, hfails⟩ := derivation_fails
  obtain ⟨g, hg⟩ : ∃ g,
      ((Session.planFor Session.standardRegistry (.declared user)).run afterwards).1 = .error g := by
    cases hplan : ((Session.planFor Session.standardRegistry (.declared user)).run afterwards).1 with
    | error g => exact ⟨g, rfl⟩
    | ok p =>
      rw [hplan] at hafter
      cases hafter
  obtain ⟨p, hp⟩ : ∃ p,
      ((Session.planFor Session.standardRegistry (.declared user)).run session).1 = .ok p := by
    cases hplan : ((Session.planFor Session.standardRegistry (.declared user)).run session).1 with
    | error g =>
      rw [hplan] at hwithout
      cases hwithout
    | ok p => exact ⟨p, rfl⟩
  refine ⟨f, afterwards, g, p, hfails, fun hsame => ?_, hg, hp⟩
  rw [hsame, hsaid] at hsays
  cases hsays

end BogusConvention

end RowDecoding
