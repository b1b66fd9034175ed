import RowDecoding.Proofs.Determined

/-!
# What a registration reaches

A registration adds one entry to one of the three lists of a registry. The lookups of that list find
it under its own key, and in few more places, where a lookup that finds nothing falls through to
another key: a union with nothing falls through to the rest of it (`DecoderReaches`,
`ConverterReaches`), and an alias to the class that it is made from (`MadeFrom`). Everything else is
answered as before, and so is everything that another list is asked for.

Two things need care. The resolved decoders are dropped with a new decoder, so a type that is not
reached is answered anew (`decoderAfresh`). That is what it was answered before, unless an equal
type that is written in another way was looked up first; a settled type has none.

And a type that is made from no class falls through to nothing itself, as if that was its class. So
a default that is registered for nothing itself is the default of every type of this kind that has
none (`DefaultChange.nothing`), that of a date for one (`registrations_spread`).

> `registrations_local`: which answers a registration changes.
-/

namespace RowDecoding

/-! ## Which lookups fall through -/

namespace Registry

/-- A decoder registered for `t` decodes `u`: they are equal, or `u` has no decoder of its own and
`t` is what remains of it without nothing. -/
def DecoderReaches (r : Registry) (t u : TypeExpr) : Prop :=
  u.key = t.key ∨
    r.decoders.lookup u.key = none ∧ ∃ inner, u.optionalInner? = some inner ∧ inner.key = t.key

/-- A converter registered from `s` to `t` converts `s'` to `u`. -/
def ConverterReaches (r : Registry) (s t s' u : TypeExpr) : Prop :=
  s'.key = s.key ∧
    (u.key = t.key ∨ r.converters.lookup (s.key, u.key) = none ∧ s.key ≠ u.key ∧
      ∃ inner, u.optionalInner? = some inner ∧ inner.key = t.key)

end Registry

/-- An alias that is made from a class by giving arguments. -/
def TypeExpr.MadeFrom (u t : TypeExpr) : Prop :=
  u.hasOrigin = true ∧ ∃ origin, u.originKey? = some origin ∧ origin.key = t.key

/-- Only two types admit everything. -/
theorem TypeExpr.admitsAll_iff {u : TypeExpr} :
    u.admitsAll = true ↔ u = .builtin .any ∨ u = .builtin .object := by
  have hsame : ∀ b : Builtin, u.same (.builtin b) = true ↔ u = .builtin b := by
    intro b
    unfold same
    rw [beq_iff_eq]
    exact ⟨fun h => sole_builtin b u h, fun h => by rw [h]⟩
  unfold admitsAll
  rw [Bool.or_eq_true, hsame, hsame]

/-- What is found in a list that starts with another entry is found in the rest. -/
theorem lookup_cons_of_ne {α β : Type} [BEq α] [LawfulBEq α] {l : List (α × β)} {a a' : α} (b : β)
    (h : a' ≠ a) : ((a, b) :: l).lookup a' = l.lookup a' := by
  rw [List.lookup_cons, beq_eq_false_iff_ne.mpr h]

section

variable {r r' : Registry} {table : ClassTable} {s t s' u : TypeExpr} {d f : Transform}
  {supply : Supply}

/-! ## Decoders -/

theorem registerDecoder_ok (h : r.registerDecoder t f = .ok r') :
    r' = { r with decoders := (t.key, f) :: r.decoders, resolved := [], plans := [] } := by
  unfold Registry.registerDecoder at h
  cases hkey : Registry.keyOf t with
  | error e =>
    rw [hkey] at h
    cases h
  | ok key =>
    obtain ⟨-, rfl⟩ := Uncached.keyOf_ok.mp hkey
    rw [hkey] at h
    cases h
    rfl

/-- What is resolved for a type that is a key. -/
theorem decoderFor_of_key (hu : u.unhashable? = none) :
    (r.decoderFor table u).1 =
      match r.resolved.lookup u.key with
      | some d => .ok d
      | none =>
        match r.decoders.lookup u.key, u.optionalInner? with
        | none, some inner =>
          Except.map (·.map .nullable)
            (match r.resolved.lookup inner.key with
            | some d => .ok d
            | none => r.ownDecoder table inner)
        | _, _ => r.ownDecoder table u := by
  have hremembering : ∀ (q : Registry) (v : TypeExpr) (x : Except Failure (Option Transform)),
      (q.remembering v x).1 = x := by
    intro q v x
    cases x <;> rfl
  unfold Registry.decoderFor
  rw [Uncached.keyOf_ok.mpr ⟨hu, rfl⟩]
  dsimp only
  cases r.resolved.lookup u.key with
  | some d => rfl
  | none =>
    cases r.decoders.lookup u.key with
    | some d => exact hremembering ..
    | none =>
      cases u.optionalInner? with
      | none => exact hremembering ..
      | some inner =>
        dsimp only
        rw [hremembering]
        unfold Registry.directDecoder
        cases r.resolved.lookup inner.key with
        | some d => rfl
        | none => exact congrArg _ (hremembering ..)

theorem decoderFor_unhashable {complaint : String} (hu : u.unhashable? = some complaint)
    (r : Registry) (table : ClassTable) :
    (r.decoderFor table u).1 = .error (Failure.wrongType complaint) := by
  unfold Registry.decoderFor Registry.keyOf
  rw [hu]

/-- A registry that has resolved no decoders answers anew. -/
theorem decoderFor_of_unresolved (h : r.resolved = []) (table : ClassTable) (u : TypeExpr) :
    (r.decoderFor table u).1 = r.decoderAfresh table u := by
  unfold Registry.decoderAfresh
  cases hu : u.unhashable? with
  | some complaint =>
    rw [decoderFor_unhashable hu, Registry.keyOf, hu]
    rfl
  | none =>
    rw [decoderFor_of_key hu, Uncached.keyOf_ok.mpr ⟨hu, rfl⟩, h]
    rfl

/-- What is resolved depends on the decoders, on what was resolved before and on the settings. -/
theorem decoderFor_congr (hdecoders : r'.decoders = r.decoders)
    (hresolved : r'.resolved = r.resolved) (hconfig : r'.config = r.config) (table : ClassTable)
    (u : TypeExpr) :
    (r'.decoderFor table u).1 = (r.decoderFor table u).1 := by
  cases hu : u.unhashable? with
  | some complaint => rw [decoderFor_unhashable hu, decoderFor_unhashable hu]
  | none =>
    have hown : ∀ v : TypeExpr, r'.ownDecoder table v = r.ownDecoder table v := by
      intro v
      unfold Registry.ownDecoder Registry.derivedDecoder Registry.structuralDecoder
      rw [hdecoders, hconfig]
    rw [decoderFor_of_key hu, decoderFor_of_key hu, hdecoders, hresolved]
    simp only [hown]

/-- A type that a new decoder does not reach has the decoder that it had. -/
theorem decoderOf_of_not_reached (h : r.registerDecoder t f = .ok r')
    (hu : ¬ r.DecoderReaches t u) : r'.decoderOf table u = r.decoderOf table u := by
  obtain ⟨hne, hrest⟩ := not_or.mp hu
  have hdecoders : ∀ v : TypeExpr, v.key ≠ t.key →
      r'.decoders.lookup v.key = r.decoders.lookup v.key := by
    rw [registerDecoder_ok h]
    exact fun v hv => lookup_cons_of_ne _ hv
  have hown : ∀ v : TypeExpr, v.key ≠ t.key → r'.ownDecoder table v = r.ownDecoder table v := by
    intro v hv
    unfold Registry.ownDecoder
    rw [hdecoders v hv, registerDecoder_ok h]
    rfl
  unfold Registry.decoderOf
  rw [hdecoders u hne]
  split
  next inner hlookup hinner =>
    have hinnerne : inner.key ≠ t.key := fun heq => hrest ⟨hlookup, inner, hinner, heq⟩
    rw [hown inner hinnerne]
  next => rw [hown u hne]

/-- A type that a new decoder reaches has it, around nothing if the type is not that of the
decoder. -/
theorem decoderOf_of_reached (h : r.registerDecoder t f = .ok r') (hu : r.DecoderReaches t u) :
    r'.decoderOf table u = .ok (some (if u.key = t.key then f else f.nullable)) := by
  have hown : ∀ v : TypeExpr, v.key = t.key → r'.ownDecoder table v = .ok (some f) := by
    intro v hv
    unfold Registry.ownDecoder
    rw [registerDecoder_ok h, hv]
    dsimp only
    rw [List.lookup_cons_self]
  unfold Registry.decoderOf
  by_cases heq : u.key = t.key
  · rw [if_pos heq, hown u heq, registerDecoder_ok h, heq]
    dsimp only
    rw [List.lookup_cons_self]
  · rcases hu with hu | ⟨hlookup, inner, hinner, hkey⟩
    · exact absurd hu heq
    have hmiss : r'.decoders.lookup u.key = none := by
      rw [registerDecoder_ok h]
      exact (lookup_cons_of_ne _ heq).trans hlookup
    rw [if_neg heq, hinner, hmiss]
    dsimp only
    rw [hown inner hkey]
    rfl

/-- After calls in any order a registry answers what its registrations lead to; for a settled type
that is one answer. -/
theorem decoderFor_of_calls (table : ClassTable) (name : String) (config : RegistryConfig)
    (calls : List Call) (u : TypeExpr) :
    let r := Call.runAll table calls (Registry.create name config)
    Uncached.decoderFor r.registrations table u (r.decoderFor table u).1 ∧
      (u.Settled → (r.decoderFor table u).1 = r.decoderAfresh table u) := by
  intro r
  have hcached : Cached _ table [] r := Call.runAll_cached calls (create_cached table name config)
  have hanswer := (decoderFor_answers (t := u) r hcached).2.2
  rw [run_decoderFor, ← hcached.registrations] at hanswer
  refine ⟨hanswer, fun hsettled => ?_⟩
  rw [(Uncached.decoderFor_iff hsettled).mp hanswer]
  rfl

/-! ## Converters -/

theorem registerConverter_ok (h : r.registerConverter s t f = .ok r') :
    r' = { r with converters := ((s.key, t.key), f) :: r.converters, plans := [] } := by
  unfold Registry.registerConverter at h
  cases hs : Registry.keyOf s with
  | error e =>
    rw [hs] at h
    cases h
  | ok key =>
    cases ht : Registry.keyOf t with
    | error e =>
      rw [hs, ht] at h
      cases h
    | ok key' =>
      obtain ⟨-, rfl⟩ := Uncached.keyOf_ok.mp hs
      obtain ⟨-, rfl⟩ := Uncached.keyOf_ok.mp ht
      rw [hs, ht] at h
      cases h
      rfl

/-- A union is not a class that admits everything, and has nothing to say of itself. -/
theorem derivedConverter_of_optional {inner : TypeExpr} (hinner : u.optionalInner? = some inner)
    (hne : s'.key ≠ u.key) : Registry.derivedConverter table s' u = none := by
  unfold TypeExpr.optionalInner? at hinner
  split at hinner
  next form ms =>
    have hadmits : (TypeExpr.union form ms).admitsAll = false := by
      rw [Bool.eq_false_iff, Ne, TypeExpr.admitsAll_iff]
      rintro (h | h) <;> cases h
    unfold Registry.derivedConverter
    rw [hadmits, TypeExpr.same, beq_eq_false_iff_ne.mpr hne]
    rfl
  next => cases hinner

/-- The conversion between types that are keys. -/
theorem converterFor_of_keys (hs : s'.unhashable? = none) (hu : u.unhashable? = none) :
    r.converterFor table s' u =
      match r.converters.lookup (s'.key, u.key), Registry.derivedConverter table s' u,
          u.optionalInner? with
      | some c, _, _ => .ok (some c)
      | none, some c, _ => .ok (some c)
      | none, none, none => .ok none
      | none, none, some inner =>
        match r.converters.lookup (s'.key, inner.key) with
        | some c => .ok (some (.nullable c))
        | none => .ok ((Registry.derivedConverter table s' inner).map .nullable) := by
  unfold Registry.converterFor
  rw [Uncached.keyOf_ok.mpr ⟨hs, rfl⟩, Uncached.keyOf_ok.mpr ⟨hu, rfl⟩]
  show (match r.converters.lookup (s'.key, u.key) with | some c => _ | none => _) = _
  cases r.converters.lookup (s'.key, u.key) with
  | some c => rfl
  | none =>
    dsimp only
    cases Registry.derivedConverter table s' u with
    | some c => rfl
    | none =>
      cases u.optionalInner? with
      | none => rfl
      | some inner =>
        dsimp only
        cases r.converters.lookup (s'.key, inner.key) <;> rfl

/-- Types that are no keys are refused whatever is registered. -/
theorem converterFor_unhashable (h : s'.unhashable? ≠ none ∨ u.unhashable? ≠ none)
    (r r' : Registry) (table : ClassTable) :
    r'.converterFor table s' u = r.converterFor table s' u := by
  unfold Registry.converterFor Registry.keyOf
  cases hs : s'.unhashable? with
  | some complaint => rfl
  | none =>
    cases hu : u.unhashable? with
    | some complaint => rfl
    | none => simp [hs, hu] at h

theorem converterFor_of_not_reached (h : r.registerConverter s t f = .ok r')
    (hu : ¬ r.ConverterReaches s t s' u) :
    r'.converterFor table s' u = r.converterFor table s' u := by
  by_cases hkeys : s'.unhashable? = none ∧ u.unhashable? = none
  · rw [converterFor_of_keys hkeys.1 hkeys.2, converterFor_of_keys hkeys.1 hkeys.2]
    have hothers : ∀ v : TypeExpr, ¬ (s'.key = s.key ∧ v.key = t.key) →
        r'.converters.lookup (s'.key, v.key) = r.converters.lookup (s'.key, v.key) := by
      rw [registerConverter_ok h]
      exact fun v hv => lookup_cons_of_ne _ fun heq => hv ⟨congrArg Prod.fst heq,
        congrArg Prod.snd heq⟩
    rw [hothers u fun hboth => hu ⟨hboth.1, Or.inl hboth.2⟩]
    cases hlookup : r.converters.lookup (s'.key, u.key) with
    | some c => rfl
    | none =>
      cases hderived : Registry.derivedConverter table s' u with
      | some c => rfl
      | none =>
        cases hinner : u.optionalInner? with
        | none => rfl
        | some inner =>
          dsimp only
          rw [hothers inner]
          rintro ⟨hs, ht⟩
          refine hu ⟨hs, Or.inr ⟨hs ▸ hlookup, fun heq => ?_, inner, hinner, ht⟩⟩
          -- equal types are converted by passing values on
          unfold Registry.derivedConverter TypeExpr.same at hderived
          rw [hs, heq, beq_self_eq_true] at hderived
          cases hderived
  · refine converterFor_unhashable ?_ r r' table
    by_contra hno
    rw [not_or, not_not, not_not] at hno
    exact hkeys hno

theorem converterFor_of_reached (h : r.registerConverter s t f = .ok r')
    (hu : r.ConverterReaches s t s' u) (hskey : s'.unhashable? = none)
    (hukey : u.unhashable? = none) :
    r'.converterFor table s' u = .ok (some (if u.key = t.key then f else f.nullable)) := by
  obtain ⟨hs, hu⟩ := hu
  rw [converterFor_of_keys hskey hukey]
  have hhit : ∀ v : TypeExpr, v.key = t.key → r'.converters.lookup (s'.key, v.key) = some f := by
    intro v hv
    rw [registerConverter_ok h, hs, hv]
    exact List.lookup_cons_self ..
  by_cases heq : u.key = t.key
  · rw [hhit u heq, if_pos heq]
  · rcases hu with hu | ⟨hlookup, hne, inner, hinner, hkey⟩
    · exact absurd hu heq
    have hmiss : r'.converters.lookup (s'.key, u.key) = none := by
      rw [registerConverter_ok h, hs, ← hlookup]
      exact lookup_cons_of_ne _ fun hpair => heq (congrArg Prod.snd hpair)
    rw [hmiss, derivedConverter_of_optional hinner (hs ▸ hne), hinner]
    dsimp only
    rw [hhit inner hkey, if_neg heq]

/-! ## Defaults -/

theorem registerDefault_ok (h : r.registerDefault t supply = .ok r') :
    r' = { r with defaults := (t.key, supply) :: r.defaults, plans := [] } := by
  unfold Registry.registerDefault at h
  cases hkey : Registry.keyOf t with
  | error e =>
    rw [hkey] at h
    cases h
  | ok key =>
    obtain ⟨-, rfl⟩ := Uncached.keyOf_ok.mp hkey
    rw [hkey] at h
    cases h
    rfl

/-- A type that is made by giving no arguments is made from nothing itself. -/
theorem TypeExpr.originKey?_of_plain (hu : u.hasOrigin = false) :
    u.originKey? = some (.value .none) ∧ u.optionalInner? = none := by
  cases u <;> first | exact ⟨rfl, rfl⟩ | cases hu

/-- The default of a type that is a key. -/
theorem defaultFor_of_key (hu : u.unhashable? = none) :
    r.defaultFor table u =
      match r.defaults.lookup u.key with
      | some supply => .ok (some supply)
      | none =>
        if u.admitsAll || u.optionalInner?.isSome then .ok (some (.constant .none))
        else
          match u.originKey?.bind fun origin => r.defaults.lookup origin.key with
          | some supply => .ok (some supply)
          | none =>
            match u.declared? with
            | some c =>
              .ok (if Registry.madeFromNothing (table.info c) then some (.make u) else none)
            | none => .ok none := by
  unfold Registry.defaultFor
  rw [Uncached.keyOf_ok.mpr ⟨hu, rfl⟩]
  rfl

theorem defaultFor_of_not_reached (h : r.registerDefault t supply = .ok r')
    (hne : u.key ≠ t.key) (halias : ¬ u.MadeFrom t)
    (hplain : ¬ (u.hasOrigin = false ∧ t.key = (TypeExpr.value .none).key)) :
    r'.defaultFor table u = r.defaultFor table u := by
  cases hkey : u.unhashable? with
  | some complaint =>
    unfold Registry.defaultFor Registry.keyOf
    rw [hkey]
    rfl
  | none =>
    rw [defaultFor_of_key hkey, defaultFor_of_key hkey]
    have hothers : ∀ v : TypeExpr, v.key ≠ t.key →
        r'.defaults.lookup v.key = r.defaults.lookup v.key := by
      rw [registerDefault_ok h]
      exact fun v hv => lookup_cons_of_ne _ hv
    have horigin : (u.originKey?.bind fun origin => r'.defaults.lookup origin.key) =
        u.originKey?.bind fun origin => r.defaults.lookup origin.key := by
      cases horigin : u.originKey? with
      | none => rfl
      | some origin =>
        refine hothers origin fun heq => ?_
        cases hmade : u.hasOrigin with
        | true => exact halias ⟨hmade, origin, horigin, heq⟩
        | false =>
          rw [(TypeExpr.originKey?_of_plain hmade).1] at horigin
          cases horigin
          exact hplain ⟨hmade, heq.symm⟩
    rw [hothers u hne, horigin]

/-- An alias without a default takes that of its class, and a type that is no alias takes that of
nothing itself. -/
theorem defaultFor_of_origin (h : r.registerDefault t supply = .ok r')
    (hukey : u.unhashable? = none) (hlookup : r.defaults.lookup u.key = none)
    (hadmits : u.admitsAll = false) (hrest : u.optionalInner? = none)
    {origin : TypeExpr} (horigin : u.originKey? = some origin) (hkey : origin.key = t.key) :
    r'.defaultFor table u = .ok (some supply) := by
  rw [defaultFor_of_key hukey, registerDefault_ok h]
  dsimp only
  by_cases heq : u.key = t.key
  · rw [heq, List.lookup_cons_self]
  · rw [lookup_cons_of_ne _ heq, hlookup, hadmits, hrest, horigin]
    dsimp only [Option.isSome_none, Bool.or_false, Option.bind_some]
    rw [hkey, List.lookup_cons_self]
    rfl

end

/-! ## What a registration changes -/

namespace Registry

/-- What a decoder `f` registered for `t` changes, from `r` to `r'`. -/
structure DecoderChange (r r' : Registry) (table : ClassTable) (t : TypeExpr) (f : Transform) :
    Prop where
  reached : ∀ u, r.DecoderReaches t u → u.unhashable? = none →
    (r'.decoderFor table u).1 = .ok (some (if u.key = t.key then f else f.nullable))
  others : ∀ u, ¬ r.DecoderReaches t u → (r'.decoderFor table u).1 = r.decoderAfresh table u
  settled : ∀ u : TypeExpr, u.Settled → ¬ r.DecoderReaches t u →
    (r'.decoderFor table u).1 = (r.decoderFor table u).1
  converters : ∀ s u, r'.converterFor table s u = r.converterFor table s u
  defaults : ∀ u, r'.defaultFor table u = r.defaultFor table u

/-- What a converter `f` registered from `s` to `t` changes. -/
structure ConverterChange (r r' : Registry) (table : ClassTable) (s t : TypeExpr) (f : Transform) :
    Prop where
  reached : ∀ s' u, r.ConverterReaches s t s' u → s'.unhashable? = none → u.unhashable? = none →
    r'.converterFor table s' u = .ok (some (if u.key = t.key then f else f.nullable))
  others : ∀ s' u, ¬ r.ConverterReaches s t s' u →
    r'.converterFor table s' u = r.converterFor table s' u
  decoders : ∀ u, (r'.decoderFor table u).1 = (r.decoderFor table u).1
  defaults : ∀ u, r'.defaultFor table u = r.defaultFor table u

/-- What a default registered for `t` changes. -/
structure DefaultChange (r r' : Registry) (table : ClassTable) (t : TypeExpr) (supply : Supply) :
    Prop where
  own : ∀ u, u.key = t.key → u.unhashable? = none → r'.defaultFor table u = .ok (some supply)
  made : ∀ u, u.MadeFrom t → r.defaults.lookup u.key = none → u.unhashable? = none →
    r'.defaultFor table u = .ok (some supply)
  /-- Types that are no aliases fall through to nothing itself. -/
  nothing : t.key = (TypeExpr.value .none).key → ∀ u, u.hasOrigin = false →
    r.defaults.lookup u.key = none → u.admitsAll = false → u.unhashable? = none →
    r'.defaultFor table u = .ok (some supply)
  others : ∀ u, u.key ≠ t.key → ¬ u.MadeFrom t →
    ¬ (u.hasOrigin = false ∧ t.key = (TypeExpr.value .none).key) →
    r'.defaultFor table u = r.defaultFor table u
  decoders : ∀ u, (r'.decoderFor table u).1 = (r.decoderFor table u).1
  converters : ∀ s u, r'.converterFor table s u = r.converterFor table s u

end Registry

section

variable {r r' : Registry} {s t : TypeExpr} {f : Transform} {supply : Supply}

theorem decoderChange (table : ClassTable) (name : String) (config : RegistryConfig)
    (calls : List Call)
    (h : (Call.runAll table calls (Registry.create name config)).registerDecoder t f = .ok r') :
    (Call.runAll table calls (Registry.create name config)).DecoderChange r' table t f := by
  have hafresh : ∀ u, (r'.decoderFor table u).1 = r'.decoderAfresh table u :=
    decoderFor_of_unresolved (by rw [registerDecoder_ok h]) table
  have hothers : ∀ u, ¬ (Call.runAll table calls (Registry.create name config)).DecoderReaches t u →
      (r'.decoderFor table u).1 =
        (Call.runAll table calls (Registry.create name config)).decoderAfresh table u := by
    intro u hu
    rw [hafresh]
    unfold Registry.decoderAfresh
    rw [decoderOf_of_not_reached h hu]
  refine ⟨fun u hu hkey => ?_, hothers, fun u hsettled hu => ?_, ?_, ?_⟩
  · rw [hafresh]
    unfold Registry.decoderAfresh
    rw [Uncached.keyOf_ok.mpr ⟨hkey, rfl⟩]
    exact decoderOf_of_reached h hu
  · rw [hothers u hu, (decoderFor_of_calls table name config calls u).2 hsettled]
  · rw [registerDecoder_ok h]
    exact fun _ _ => rfl
  · rw [registerDecoder_ok h]
    exact fun _ => rfl

theorem converterChange (table : ClassTable) (h : r.registerConverter s t f = .ok r') :
    r.ConverterChange r' table s t f := by
  refine ⟨fun s' u hu hs' hkey => converterFor_of_reached h hu hs' hkey,
    fun s' u hu => converterFor_of_not_reached h hu, fun u => ?_, ?_⟩
  · refine decoderFor_congr ?_ ?_ ?_ table u <;> rw [registerConverter_ok h]
  · rw [registerConverter_ok h]
    exact fun _ => rfl

theorem defaultChange (table : ClassTable) (h : r.registerDefault t supply = .ok r') :
    r.DefaultChange r' table t supply := by
  refine ⟨fun u hu hkey => ?_, fun u hu hlookup hkey => ?_, fun ht u hu hlookup hadmits hkey => ?_,
    fun u => defaultFor_of_not_reached h, fun u => ?_, ?_⟩
  · rw [defaultFor_of_key hkey, registerDefault_ok h, hu]
    dsimp only
    rw [List.lookup_cons_self]
  · obtain ⟨hmade, origin, horigin, horiginkey⟩ := hu
    have hadmits : u.admitsAll = false := by
      rw [Bool.eq_false_iff, Ne, TypeExpr.admitsAll_iff]
      rintro (rfl | rfl) <;> cases hmade
    have hrest : u.optionalInner? = none := by
      cases u <;> first | rfl | cases horigin
    exact defaultFor_of_origin h hkey hlookup hadmits hrest horigin horiginkey
  · obtain ⟨horigin, hrest⟩ := TypeExpr.originKey?_of_plain hu
    exact defaultFor_of_origin h hkey hlookup hadmits hrest horigin ht.symm
  · refine decoderFor_congr ?_ ?_ ?_ table u <;> rw [registerDefault_ok h]
  · rw [registerDefault_ok h]
    exact fun _ _ => rfl

end

/-- **Registrations are local.** After any calls on a registry, a registration changes the answers
that it reaches, and those of its own kind only. -/
theorem registrations_local (table : ClassTable) (name : String) (config : RegistryConfig)
    (calls : List Call) :
    let r := Call.runAll table calls (Registry.create name config)
    (∀ t f r', r.registerDecoder t f = .ok r' → r.DecoderChange r' table t f) ∧
    (∀ u, Uncached.decoderFor r.registrations table u (r.decoderFor table u).1) ∧
    (∀ s t f r', r.registerConverter s t f = .ok r' → r.ConverterChange r' table s t f) ∧
    ∀ t supply r', r.registerDefault t supply = .ok r' → r.DefaultChange r' table t supply :=
  ⟨fun _ _ _ h => decoderChange table name config calls h,
    fun u => (decoderFor_of_calls table name config calls u).1,
    fun _ _ _ _ h => converterChange table h, fun _ _ _ h => defaultChange table h⟩

/-- A registry that has resolved a decoder for dates or nothing, with one registration of each
kind. -/
theorem registrations_local_dates :
    let date := TypeExpr.builtin .date
    let dateOrNothing := TypeExpr.union .bar [date, .noneType]
    let r := Call.runAll .empty [.decoderFor dateOrNothing] (Registry.create "main" .standard)
    ∃ r₁ r₂ r₃, r.registerDecoder date (.decode .str) = .ok r₁ ∧
      r.registerConverter (.builtin .bytes) date .passthrough = .ok r₂ ∧
      r.registerDefault (.builtin .list) (.constant .none) = .ok r₃ ∧
      (r₁.decoderFor .empty dateOrNothing).1 = .ok (some (.nullable (.decode .str))) ∧
      (r₁.decoderFor .empty (.builtin .int)).1 = (r.decoderFor .empty (.builtin .int)).1 ∧
      r₂.converterFor .empty (.builtin .bytes) dateOrNothing = .ok (some (.nullable .passthrough)) ∧
      r₂.converterFor .empty (.builtin .str) dateOrNothing =
        r.converterFor .empty (.builtin .str) dateOrNothing ∧
      r₃.defaultFor .empty (.listOf date) = .ok (some (.constant .none)) ∧
      r₃.defaultFor .empty (.setOf date) = r.defaultFor .empty (.setOf date) := by
  intro date dateOrNothing r
  obtain ⟨hdecoder, -, hconverter, hdefault⟩ :=
    registrations_local .empty "main" .standard [.decoderFor dateOrNothing]
  have h₁ := hdecoder date (.decode .str) _ rfl
  have h₂ := hconverter (.builtin .bytes) date .passthrough _ rfl
  have h₃ := hdefault (.builtin .list) (.constant .none) _ rfl
  refine ⟨_, _, _, rfl, rfl, rfl, ?_, ?_, ?_, ?_, ?_, ?_⟩
  · exact h₁.reached dateOrNothing (Or.inr ⟨rfl, date, rfl, rfl⟩) rfl
  · refine h₁.settled _ (TypeExpr.settled_builtin .int) ?_
    rintro (hkey | ⟨-, inner, hinner, -⟩)
    · exact absurd hkey (by decide)
    · cases hinner
  · exact h₂.reached _ dateOrNothing ⟨rfl, Or.inr ⟨rfl, by decide, date, rfl, rfl⟩⟩ rfl rfl
  · exact h₂.others _ _ fun hreached => absurd hreached.1 (by decide)
  · exact h₃.made _ ⟨rfl, .builtin .list, rfl, rfl⟩ rfl rfl
  · refine h₃.others _ (by decide) ?_ fun hplain => absurd hplain.1 (by decide)
    rintro ⟨-, origin, horigin, hkey⟩
    cases horigin
    exact absurd hkey (by decide)

/-! ## What is not local -/

theorem mergeSort_pair {α : Type} (le : α → α → Bool) (a b : α) :
    [a, b].mergeSort le = if le a b then [a, b] else [b, a] := by
  rw [List.mergeSort]
  simp [List.MergeSort.Internal.splitInTwo, List.splitAt, List.splitAt.go, List.merge]

/-- Whole numbers or others, tried in this order. -/
def intOrFloat : TypeExpr := .union .bar [.builtin .int, .builtin .float]

/-- The same in the other order. -/
def floatOrInt : TypeExpr := .union .bar [.builtin .float, .builtin .int]

/-- The order of the members of a union is not part of its key. -/
theorem floatOrInt_key : floatOrInt.key = intOrFloat.key := by
  show Key.node _ (List.mergeSort _ _) = Key.node _ (List.mergeSort _ _)
  simp only [keysOfTypes, mergeSort_pair]
  decide

/-- A default for nothing itself becomes that of a date, which is neither nothing nor an alias. And
a decoder for dates changes how a union of numbers is decoded, if it was decoded like the same union
in another order before. -/
theorem registrations_spread :
    (let r := Registry.create "main" .standard
    ∃ r', r.registerDefault (.value .none) (.constant (.int 7)) = .ok r' ∧
      (TypeExpr.builtin .date).key ≠ (TypeExpr.value .none).key ∧
      ¬ (TypeExpr.builtin .date).MadeFrom (.value .none) ∧
      r.defaultFor .empty (.builtin .date) = .ok none ∧
      r'.defaultFor .empty (.builtin .date) = .ok (some (.constant (.int 7)))) ∧
    let r := Call.runAll .empty [.decoderFor intOrFloat] (Registry.create "lax" ⟨false, true, true⟩)
    ∃ r', r.registerDecoder (.builtin .date) (.decode .date) = .ok r' ∧
      ¬ r.DecoderReaches (.builtin .date) floatOrInt ∧
      (r.decoderFor .empty floatOrInt).1 = .ok (some (.validate intOrFloat false)) ∧
      (r'.decoderFor .empty floatOrInt).1 = .ok (some (.validate floatOrInt false)) := by
  refine ⟨⟨_, rfl, by decide, (fun h => nomatch h.1), rfl, rfl⟩, _, rfl, ?_, ?_, rfl⟩
  · rintro (hkey | ⟨-, inner, hinner, -⟩)
    · cases TypeExpr.sole_builtin .date _ hkey
    · cases hinner
  · have hresolved : (Call.runAll .empty [.decoderFor intOrFloat]
        (Registry.create "lax" ⟨false, true, true⟩)).resolved =
          [(intOrFloat.key, some (.validate intOrFloat false))] := rfl
    rw [decoderFor_of_key rfl, floatOrInt_key, hresolved, List.lookup_cons_self]

end RowDecoding
