import RowDecoding.Proofs.Determined
import RowDecoding.Proofs.Escaping
import RowDecoding.Proofs.Inhabitants

/-!
# Decoding values of the type itself

A built-in decoder makes nothing but values of its type, and leaves a value of its type as it is:
decoding twice is decoding once. One thing is not left as it is. Doubles and byte strings of a class
of their own are values of their types as well, and become plain ones (`TypeExpr.kept`).

The decoders of scalars come first, then those of truth values and enumerations. The induction over
a decoder goes along the type that it decodes (`Transform.decodes`); it has one step, from a type to
that type or nothing. What remains is that a registry without registrations has such a decoder for
the type, whatever it was asked for before.

> `decoderFor_keeps`: decoders make values of the type, which they keep.
-/

namespace RowDecoding

open Number

/-! ## Types with a built-in decoder -/

namespace TypeExpr

/-- Whether a value is one of a type: of a scalar class, an instance of a declared class, or either
of these or nothing. -/
def Has (table : ClassTable) (t : TypeExpr) (v : Value) : Prop :=
  (t.optionalInner?.isSome = true ∧ v = .none) ∨
    match t.core with
    | builtin b => b.Has v
    | declared c => Check.isInstance table c v = true
    | _ => False

/-- What becomes of a value of a type: doubles and byte strings lose a class of their own. -/
def kept (t : TypeExpr) (v : Value) : Value :=
  match t.core with
  | builtin .float | builtin .bytes => v.content
  | _ => v

/-- The scalar classes and the enumerations. -/
inductive Basic : TypeExpr → Prop
  | scalar (s : Scalar) : Basic (builtin s.builtin)
  | bool : Basic (builtin .bool)
  | enumeration {c : ClassRef} (h : c.form.isEnumeration = true) : Basic (declared c)

/-- The types with a built-in decoder of their own: basic ones, and a basic one or nothing. -/
inductive Decodable : TypeExpr → Prop
  | basic {t : TypeExpr} (h : t.Basic) : Decodable t
  | optional {t : TypeExpr} {form : UnionForm} {ms : List TypeExpr} (h : t.Basic)
    (hms : ms.Perm [t, noneType]) : Decodable (union form ms)

end TypeExpr

/-! ## Scalars -/

namespace Scalar

variable {s : Scalar} {v w : Value}

/-- What is held for a value of the class is one, and has no class that would be lost. -/
theorem has_of_holds (h : s.holds v = true) :
    s.builtin.Has v ∧ (TypeExpr.builtin s.builtin).kept v = v := by
  rw [has_iff]
  unfold holds at h
  split at h
  next =>
    rw [Bool.and_eq_true, Bool.not_eq_true'] at h
    exact ⟨⟨Option.isSome_iff_exists.mp h.1, h.2⟩, rfl⟩
  next => exact ⟨⟨_, rfl⟩, rfl⟩
  next => exact ⟨Option.isSome_iff_exists.mp h, rfl⟩
  next => exact ⟨⟨_, rfl⟩, rfl⟩
  next hcontent => exact ⟨⟨_, hcontent⟩, rfl⟩
  next hcontent => exact ⟨⟨_, hcontent⟩, rfl⟩
  next hcontent => exact ⟨⟨_, hcontent⟩, rfl⟩
  next hcontent => exact ⟨⟨_, hcontent⟩, rfl⟩
  next hcontent => exact ⟨⟨_, hcontent⟩, rfl⟩
  next => cases h

/-- What is made of a value that is not held is a plain value of the class. -/
theorem has_of_decodeForeign (h : s.decodeForeign v = .ok w) :
    s.builtin.Has w ∧ (TypeExpr.builtin s.builtin).kept w = w := by
  have hmap : ∀ {α : Type} {e : Except Fault α} {make : α → Value}, e.map make = .ok w →
      ∃ a, make a = w := by
    intro α e make he
    cases e with
    | ok a => exact ⟨a, Except.ok.inj he⟩
    | error f => cases he
  rw [has_iff]
  unfold decodeForeign at h
  cases s with
  | int | str => cases h
  | float =>
    dsimp only at h
    split at h
    · cases h
      exact ⟨⟨_, rfl⟩, rfl⟩
    · obtain ⟨x, rfl⟩ := hmap h
      exact ⟨⟨x, rfl⟩, rfl⟩
    · cases h
  | bytes =>
    dsimp only at h
    split at h
    · cases h
      exact ⟨⟨_, rfl⟩, rfl⟩
    · cases h
  | decimal =>
    dsimp only at h
    split at h
    · obtain ⟨d, rfl⟩ := hmap h
      exact ⟨⟨d, rfl⟩, rfl⟩
    · split at h
      · obtain ⟨d, rfl⟩ := hmap h
        exact ⟨⟨d, rfl⟩, rfl⟩
      · cases h
  | datetime | date | time =>
    dsimp only at h
    split at h
    · obtain ⟨t, rfl⟩ := hmap h
      exact ⟨⟨t, rfl⟩, rfl⟩
    · cases h
  | uuid =>
    dsimp only at h
    split at h
    · cases h
    · split at h
      · cases h
        exact ⟨⟨_, rfl⟩, rfl⟩
      · cases h
    · split at h
      · obtain ⟨u, rfl⟩ := hmap h
        exact ⟨⟨u, rfl⟩, rfl⟩
      · cases h

theorem has_of_decode (h : s.decode v = .ok w) :
    s.builtin.Has w ∧ (TypeExpr.builtin s.builtin).kept w = w := by
  unfold decode at h
  split at h
  next hholds =>
    cases h
    exact has_of_holds hholds
  next => exact has_of_decodeForeign h

/-- A value of the class is held, or a double or a byte string of a class of its own. -/
theorem decode_of_has (h : s.builtin.Has v) :
    s.decode v = .ok ((TypeExpr.builtin s.builtin).kept v) := by
  rw [has_iff] at h
  cases s with
  | int =>
    obtain ⟨⟨n, hn⟩, hbool⟩ := h
    exact decode_of_holds (by simp [holds, hn, hbool])
  | str =>
    obtain ⟨s, hs⟩ := h
    exact decode_of_holds (by simp [holds, hs])
  | decimal | datetime | date | time | uuid =>
    obtain ⟨a, ha⟩ := h
    exact decode_of_holds (by simp [holds, ha])
  | float =>
    obtain ⟨x, hx⟩ := h
    show decode _ v = .ok v.content
    unfold decode
    split
    next hholds => rw [show v.content = v from (has_of_holds hholds).2]
    next => simp [decodeForeign, hx]
  | bytes =>
    obtain ⟨bs, hbs⟩ := h
    show decode _ v = .ok v.content
    unfold decode
    split
    next hholds => rw [show v.content = v from (has_of_holds hholds).2]
    next => simp [decodeForeign, hbs]

end Scalar

/-! ## Truth values and members of enumerations -/

section

variable {table : ClassTable} {c : ClassRef} {v w : Value}

theorem bool_of_decodeBool {fromInt : Bool} (h : decodeBool fromInt v = .ok w) :
    Builtin.bool.Has w := by
  rw [Builtin.bool_has_iff]
  unfold decodeBool at h
  split at h
  · cases h
    exact ⟨_, rfl⟩
  · split at h
    · unfold truthOfNumber at h
      split at h
      · cases h
      · split at h
        · cases h
          exact ⟨_, rfl⟩
        · split at h <;> cases h
    · cases h

/-- A member of an enumeration of the table is an instance of it. -/
theorem isInstance_member (hc : table.Knows c) (name : String) (payload : Value) :
    Check.isInstance table c (.member c name payload) = true :=
  hc.any_lineage

/-- The member that a value stands for is an instance of the enumeration. -/
theorem isInstance_of_memberOf? (hc : table.Knows c) (h : table.memberOf? c v = some w) :
    Check.isInstance table c w = true := by
  have hlook : ∀ v, ClassTable.memberOf?.lookUp table c v = some w →
      Check.isInstance table c w = true := by
    intro v h
    obtain ⟨⟨name, payload⟩, -, rfl⟩ := Option.map_eq_some_iff.mp h
    exact isInstance_member hc name payload
  unfold ClassTable.memberOf? at h
  split at h
  · split at h
    · cases h
      exact isInstance_member hc _ _
    · exact hlook _ h
  · exact hlook _ h

theorem isInstance_of_asMember (hc : table.Knows c) (h : Instance.asMember table c v = .ok w) :
    Check.isInstance table c w = true := by
  unfold Instance.asMember at h
  split at h
  next hinstance =>
    cases h
    exact hinstance
  next =>
    unfold Instance.memberFor at h
    split at h
    next m hm =>
      cases h
      exact isInstance_of_memberOf? hc hm
    next => cases h

end

/-! ## Built-in decoders -/

section

variable {table : ClassTable} {t u : TypeExpr} {d : Transform} {v w : Value}

namespace TypeExpr

/-- The values of a type or nothing are those of the type, and nothing. -/
theorem has_optional_iff (h : t.optionalInner? = some u) :
    t.Has table v ↔ v = .none ∨ u.Has table v := by
  obtain ⟨ht, hu⟩ := core_of_optional h
  unfold Has
  rw [ht, hu, h, optionalInner?_rest h]
  simp

theorem kept_optional (h : t.optionalInner? = some u) (v : Value) : t.kept v = u.kept v := by
  obtain ⟨ht, hu⟩ := core_of_optional h
  unfold kept
  rw [ht, hu]

theorem kept_none (t : TypeExpr) : t.kept .none = .none := by
  unfold kept
  split <;> rfl

end TypeExpr

/-- **Decoders make values of the type**, and such as they keep. -/
theorem has_of_result (hd : d.decodes t = true)
    (hknown : ∀ c, t.core = .declared c → table.Knows c) (h : d.result table v = .ok w) :
    t.Has table w ∧ t.kept w = w := by
  induction d generalizing t with
  | decode s =>
    cases t with
    | builtin b =>
      obtain rfl : s.builtin = b := by simpa [Transform.decodes] using hd
      obtain ⟨hhas, hkept⟩ := Scalar.has_of_decode h
      exact ⟨Or.inr hhas, hkept⟩
    | _ => cases hd
  | decodeBool fromInt =>
    cases t with
    | builtin b =>
      obtain rfl : b = .bool := by simpa [Transform.decodes] using hd
      exact ⟨Or.inr (bool_of_decodeBool h), rfl⟩
    | _ => cases hd
  | member c =>
    cases t with
    | declared e =>
      obtain ⟨rfl, -⟩ : c = e ∧ c.form.isEnumeration = true := by
        simpa [Transform.decodes] using hd
      exact ⟨Or.inr (isInstance_of_asMember (hknown c rfl) h), rfl⟩
    | _ => cases hd
  | nullable inner ih =>
    unfold Transform.decodes at hd
    split at hd
    next u hu =>
      rw [TypeExpr.has_optional_iff hu, TypeExpr.kept_optional hu]
      by_cases hv : v = .none
      · subst hv
        cases h
        exact ⟨Or.inl rfl, u.kept_none⟩
      · rw [Transform.result_nullable hv] at h
        obtain ⟨ht, hcore⟩ := TypeExpr.core_of_optional hu
        obtain ⟨hhas, hkept⟩ := ih hd (fun c hc => hknown c (by rw [ht, ← hcore, hc])) h
        exact ⟨Or.inr hhas, hkept⟩
    next => cases hd
  | _ => cases hd

/-- **Decoders keep values of the type**, up to a class of their own of doubles and byte strings. -/
theorem result_of_has (hd : d.decodes t = true) (h : t.Has table v) :
    d.result table v = .ok (t.kept v) := by
  induction d generalizing t with
  | decode s =>
    cases t with
    | builtin b =>
      obtain rfl : s.builtin = b := by simpa [Transform.decodes] using hd
      rcases h with ⟨hno, -⟩ | h
      · cases hno
      · exact Scalar.decode_of_has h
    | _ => cases hd
  | decodeBool fromInt =>
    cases t with
    | builtin b =>
      obtain rfl : b = .bool := by simpa [Transform.decodes] using hd
      rcases h with ⟨hno, -⟩ | h
      · cases hno
      · obtain ⟨b, rfl⟩ := Builtin.bool_has_iff.mp h
        rfl
    | _ => cases hd
  | member c =>
    cases t with
    | declared e =>
      obtain ⟨rfl, -⟩ : c = e ∧ c.form.isEnumeration = true := by
        simpa [Transform.decodes] using hd
      rcases h with ⟨hno, -⟩ | h
      · cases hno
      · exact if_pos h
    | _ => cases hd
  | nullable inner ih =>
    unfold Transform.decodes at hd
    split at hd
    next u hu =>
      rw [TypeExpr.kept_optional hu]
      by_cases hv : v = .none
      · subst hv
        rw [u.kept_none]
        rfl
      · rw [Transform.result_nullable hv]
        exact ih hd (((TypeExpr.has_optional_iff hu).mp h).resolve_left hv)
    next => cases hd
  | _ => cases hd

end

/-! ## The decoders of a registry without registrations -/

section

variable {name : String} {config : RegistryConfig} {table : ClassTable} {t : TypeExpr}

namespace TypeExpr

namespace Basic

theorem marked (ht : t.Basic) : t.Marked := by
  cases ht with
  | scalar | bool => exact marked_builtin _
  | enumeration => exact marked_declared _

theorem notUnion (ht : t.Basic) : t.NotUnion := by
  cases ht <;> exact nofun

theorem optionalInner? (ht : t.Basic) : t.optionalInner? = none := by
  cases ht <;> rfl

/-- Nothing has another class. -/
theorem same_noneType (ht : t.Basic) : t.same noneType = false := by
  refine Bool.eq_false_iff.mpr fun hsame => ?_
  have hnone : t = noneType := sole_builtin .noneType t (eq_of_beq hsame)
  cases ht with
  | scalar s => cases s <;> cases hnone
  | bool | enumeration => cases hnone

theorem unhashable? (ht : t.Basic) : t.unhashable? = none := by
  cases ht <;> rfl

end Basic

namespace Decodable

theorem settled (ht : t.Decodable) : t.Settled := by
  cases ht with
  | basic ht =>
    cases ht with
    | scalar | bool => exact settled_builtin _
    | enumeration => exact settled_declared _
  | optional ht hms => exact settled_optional ht.marked ht.notUnion ht.same_noneType hms

theorem keyOf (ht : t.Decodable) : Registry.keyOf t = .ok t.key := by
  have hnone : t.unhashable? = none := by
    cases ht with
    | basic ht => exact ht.unhashable?
    | optional ht hms =>
      rcases List.perm_pair.mp hms with rfl | rfl <;>
        simp [TypeExpr.unhashable?, unhashableTypes?, ht.unhashable?]
  unfold Registry.keyOf
  rw [hnone]

end Decodable

end TypeExpr

namespace Registry

/-- Without registrations, the types with a decoder of their own are built-in classes. -/
theorem builtin_of_lookup_decoder {d : Transform}
    (h : (create name config).decoders.lookup t.key = some d) : ∃ b, t = .builtin b := by
  obtain ⟨⟨u, d'⟩, hu, heq⟩ := List.mem_map.mp (mem_of_lookup h)
  obtain ⟨hkey, -⟩ := Prod.mk.inj heq
  simp only [standardDecoders, List.mem_cons, Prod.mk.injEq, List.not_mem_nil, or_false] at hu
  obtain ⟨b, rfl⟩ : ∃ b, u = .builtin b := by
    rcases hu with h | h | h | h | h | h | h | h | h | h | h | h <;> exact ⟨_, h.1⟩
  exact ⟨b, TypeExpr.sole_builtin b t hkey.symm⟩

theorem lookup_decoder_none (ht : ∀ b, t ≠ .builtin b) :
    (create name config).decoders.lookup t.key = none := by
  cases h : (create name config).decoders.lookup t.key with
  | none => rfl
  | some d =>
    obtain ⟨b, hb⟩ := builtin_of_lookup_decoder h
    exact absurd hb (ht b)

variable (name config table)

theorem ownDecoder_create (ht : t.Basic) :
    ∃ d, (create name config).ownDecoder table t = .ok (some d) ∧ d.decodes t = true := by
  unfold ownDecoder
  cases ht with
  | scalar s =>
    have hlookup : (create name config).decoders.lookup (TypeExpr.builtin s.builtin).key =
        some (.decode s) := by cases s <;> rfl
    rw [hlookup]
    exact ⟨_, rfl, beq_self_eq_true _⟩
  | bool => exact ⟨.decodeBool config.boolFromInt, rfl, rfl⟩
  | @enumeration c hform =>
    have hlookup : (create name config).decoders.lookup (TypeExpr.declared c).key = none :=
      lookup_decoder_none nofun
    rw [hlookup]
    refine ⟨.member c, ?_, ?_⟩
    · show (if c.form.isEnumeration then _ else _) = _
      rw [if_pos hform]
    · simp [Transform.decodes, hform]

/-- A registry without registrations has the built-in decoder of every type with one. -/
theorem decoderOf_create (ht : t.Decodable) :
    ∃ d, (create name config).decoderOf table t = .ok (some d) ∧ d.decodes t = true := by
  unfold decoderOf
  cases ht with
  | basic ht =>
    rw [ht.optionalInner?]
    -- Registered or not, what has no rest without nothing is decoded by itself.
    cases (create name config).decoders.lookup t.key <;>
      exact ownDecoder_create name config table ht
  | @optional t form ms ht hms =>
    have hlookup : (create name config).decoders.lookup (TypeExpr.union form ms).key = none :=
      lookup_decoder_none nofun
    have hinner : (TypeExpr.union form ms).optionalInner? = some t :=
      TypeExpr.optionalInner?_of_perm ht.notUnion ht.same_noneType hms
    obtain ⟨d, hd, hdecodes⟩ := ownDecoder_create name config table ht
    rw [hlookup, hinner]
    dsimp only
    rw [hd]
    refine ⟨.nullable d, rfl, ?_⟩
    unfold Transform.decodes
    rw [hinner]
    exact hdecodes

end Registry

end

/-- **Decoders make values of the type, which they keep.** Take a registry without registrations,
whatever it was asked for before, and a scalar class, an enumeration, or one of these or nothing.
The registry has a decoder for the type. Whatever value the decoder accepts, the result is a value
of the type and is decoded to itself. And a value of the type is always accepted and stays what it
is, but that doubles and byte strings of a class of their own become plain ones. -/
theorem decoderFor_keeps (name : String) (config : RegistryConfig) (table : ClassTable)
    (calls : List Call) (hcalls : ∀ call ∈ calls, call.isLookup = true) {t : TypeExpr}
    (ht : t.Decodable) :
    ∃ d, ((Call.runAll table calls (Registry.create name config)).decoderFor table t).1 =
        .ok (some d) ∧
      ∀ (l : Level) (σ : Session), (∀ c, t.core = .declared c → σ.classes.Knows c) → ∀ v,
        (∀ w σ', (d.run l v).run σ = (.ok w, σ') →
          σ' = σ ∧ t.Has σ.classes w ∧ (d.run l w).run σ = (.ok w, σ)) ∧
        (t.Has σ.classes v → (d.run l v).run σ = (.ok (t.kept v), σ)) := by
  obtain ⟨d, hd, hdecodes⟩ := Registry.decoderOf_create name config table ht
  refine ⟨d, ?_, fun l σ hknown v => ?_⟩
  · have hcached := Call.runAll_cached calls (create_cached table name config)
    rw [Call.registerAll_of_lookups hcalls] at hcached
    have hanswer := (decoderFor_answers (t := t) _ hcached).2.2
    rw [run_decoderFor] at hanswer
    -- The decoder may be remembered for an equal type, which is decoded in the same way.
    rcases hanswer with ⟨key, -, hdecoder⟩ | ⟨f, hf, -⟩
    · rw [hdecoder.eq_decoderOf ht.settled, hd]
    · rw [Outcomes.lift_apply, ht.keyOf] at hf
      cases hf
  · have hrun := fun v => Transform.run_builtin (Transform.isBuiltin_of_decodes hdecodes) l v σ
    have hkeeps : ∀ {v}, t.Has σ.classes v → (d.run l v).run σ = (.ok (t.kept v), σ) := by
      intro v hv
      rw [hrun, result_of_has hdecodes hv]
      rfl
    refine ⟨fun w σ' hw => ?_, hkeeps⟩
    rw [hrun, Prod.mk.injEq] at hw
    obtain ⟨hresult, rfl⟩ := hw
    obtain ⟨hhas, hkept⟩ : t.Has σ.classes w ∧ t.kept w = w := by
      refine has_of_result hdecodes hknown (v := v) ?_
      cases hv : d.result σ.classes v with
      | error f => rw [hv] at hresult; cases hresult
      | ok a =>
        rw [hv] at hresult
        cases hresult
        rfl
    exact ⟨rfl, hhas, by rw [hkeeps hhas, hkept]⟩

namespace Priority

/-- An enumeration whose members are whole numbers as well. -/
def cls : ClassRef := ⟨"Priority", 1, .enumeration .whole⟩

/-- Its member. -/
def low : Value := .member cls "LOW" (.int 1)

/-- A session with this class. -/
def session : Session :=
  { Session.create [] with
    classes := ⟨[{ (default : ClassInfo) with ref := cls, members := [("LOW", .int 1)] }], []⟩ }

/-- The enumeration or nothing. -/
def orNothing : TypeExpr := .union .bar [.declared cls, .noneType]

/-- The same, written in another way. -/
def orNothingClassic : TypeExpr := .union .classic [.noneType, .declared cls]

theorem low_kept :
    (∀ call ∈ [Call.decoderFor orNothingClassic], call.isLookup = true) ∧ orNothing.Decodable ∧
      session.classes.Knows cls ∧ orNothing.Has session.classes low ∧
      ∃ d, ((Call.runAll session.classes [.decoderFor orNothingClassic]
          (Registry.create "main" .standard)).decoderFor session.classes orNothing).1 =
            .ok (some d) ∧
        (d.run Level.top low).run session = (.ok low, session) := by
  have hcalls : ∀ call ∈ [Call.decoderFor orNothingClassic], call.isLookup = true := by
    simp [Call.isLookup]
  have hbasic : (TypeExpr.declared cls).Basic := .enumeration rfl
  have ht : orNothing.Decodable := .optional hbasic (.refl _)
  have hknows : session.classes.Knows cls := ⟨_, rfl⟩
  have hinner : orNothing.optionalInner? = some (.declared cls) :=
    TypeExpr.optionalInner?_of_perm hbasic.notUnion hbasic.same_noneType (.refl _)
  have hhas : orNothing.Has session.classes low :=
    (TypeExpr.has_optional_iff hinner).mpr (Or.inr (Or.inr rfl))
  obtain ⟨d, hd, hkeeps⟩ := decoderFor_keeps "main" .standard session.classes _ hcalls ht
  have hknown : ∀ c, orNothing.core = .declared c → session.classes.Knows c := by
    intro c hc
    rw [(TypeExpr.core_of_optional hinner).1] at hc
    cases hc
    exact hknows
  have hlow : orNothing.kept low = low := TypeExpr.kept_optional hinner low
  obtain ⟨hagain, hkept⟩ := hkeeps Level.top session hknown low
  obtain ⟨-, -, hrun⟩ := hagain low session (by rw [hkept hhas, hlow])
  exact ⟨hcalls, ht, hknows, hhas, d, hd, hrun⟩

end Priority

/-- A kind of double. -/
def kindOfDouble : ClassRef := ⟨"Celsius", 1, .extension .float⟩

/-- A double of a class of its own is a value of the type, and becomes a plain one, which is another
value. -/
theorem double_loses_class :
    let v := Value.record kindOfDouble [("", .float (Binary64.ofInt 1))]
    let σ := Session.create []
    Instance.makeBare kindOfDouble [.int 1] [] = .ok v ∧
      (TypeExpr.builtin .float).Has σ.classes v ∧
      ((Registry.create "main" .standard).decoderFor σ.classes (.builtin .float)).1 =
        .ok (some (.decode .float)) ∧
      ((Transform.decode .float).run Level.top v).run σ =
        (.ok (.float (Binary64.ofInt 1)), σ) ∧
      v ≠ .float (Binary64.ofInt 1) :=
  ⟨rfl, Or.inr (Scalar.has_iff (s := .float) |>.mpr ⟨_, rfl⟩), rfl, rfl, nofun⟩

end RowDecoding
