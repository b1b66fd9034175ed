import RowDecoding.Proofs.Assembling
import RowDecoding.Proofs.Escaping
import RowDecoding.Proofs.Recompiling

/-!
# Computations that take no notice of each other

What steps of a plan come to does not depend on their order if none of them takes notice of what
another one does to the session. That is said by a set of sessions which no step leaves and in which
no step tells one session from another: from each of them a step comes to the same value, or fails
(`Run.Gives`). Steps that leave every session as it is are the common case. Nothing is said about
which failure it is, since the first step that fails decides that.

* `Gives.mapM`, `mapM_perm`: steps that come to something by themselves come to it in every order.
* `runStep_placed_alike`: a step that reads a single column does the same at another place with the
  column that is there.
* `construct_gives`: a record whose class runs no hook takes what it is given, and the other fields
  what their defaults come to.
-/

namespace RowDecoding

section

variable {S : Session → Prop} {α β : Type}

/-- From each session of some, a computation comes to the same value, or it fails from each of them;
and it ends in one of them. -/
structure Run.Gives (S : Session → Prop) (m : Run α) (v : Option α) : Prop where
  stays : ∀ σ, S σ → S (m.run σ).2
  result : ∀ σ, S σ → (m.run σ).1.toOption = v

/-- A computation takes no notice of which session of some it starts from. -/
def Run.Indifferent (S : Session → Prop) (m : Run α) : Prop :=
  ∃ v, m.Gives S v

/-- Computations that differ in nothing but how they fail. -/
def Run.Alike (m m' : Run α) : Prop :=
  ∀ σ, (m'.run σ).2 = (m.run σ).2 ∧ (m'.run σ).1.toOption = (m.run σ).1.toOption

namespace Run

theorem Gives.pure (S : Session → Prop) (a : α) : (pure a : Run α).Gives S (some a) :=
  ⟨fun _ h => h, fun _ _ => rfl⟩

theorem Gives.bind {m : Run α} {v : Option α} {k : α → Run β} {w : α → Option β}
    (hm : m.Gives S v) (hk : ∀ a, v = some a → (k a).Gives S (w a)) :
    (m >>= k).Gives S (v.bind w) := by
  have hcases : ∀ σ, S σ → S ((m >>= k).run σ).2 ∧ ((m >>= k).run σ).1.toOption = v.bind w := by
    intro σ hσ
    have hstays := hm.stays σ hσ
    have hresult := hm.result σ hσ
    rw [Running.run_bind]
    rcases hrun : m.run σ with ⟨f | a, τ⟩
    · rw [hrun] at hstays hresult
      exact ⟨hstays, by rw [← hresult]; rfl⟩
    · rw [hrun] at hstays hresult
      have hnext := hk a hresult.symm
      exact ⟨hnext.stays τ hstays, by rw [← hresult]; exact hnext.result τ hstays⟩
  exact ⟨fun σ hσ => (hcases σ hσ).1, fun σ hσ => (hcases σ hσ).2⟩

theorem Gives.bind_some {m : Run α} {a : α} {k : α → Run β} {w : Option β}
    (hm : m.Gives S (some a)) (hk : (k a).Gives S w) : (m >>= k).Gives S w :=
  hm.bind (w := fun _ => w) fun b hb => by
    cases hb
    exact hk

theorem Gives.bind_none {m : Run α} {k : α → Run β} (hm : m.Gives S none) :
    (m >>= k).Gives S none :=
  hm.bind (w := fun _ => none) nofun

theorem Gives.map {m : Run α} {v : Option α} {k : α → Run β} {g : α → β} (hm : m.Gives S v)
    (hk : ∀ a, k a = Pure.pure (g a)) : (m >>= k).Gives S (v.map g) := by
  rw [Option.map_eq_bind]
  exact hm.bind fun a _ => hk a ▸ .pure S (g a)

/-- A computation that leaves each of the sessions as it is. -/
theorem Gives.of_run {m : Run α} {a : α} (h : ∀ σ, S σ → m.run σ = (.ok a, σ)) :
    m.Gives S (some a) :=
  ⟨fun σ hσ => by rw [h σ hσ]; exact hσ, fun σ hσ => by rw [h σ hσ]; rfl⟩

theorem Gives.of_error {m : Run α} (h : ∀ σ, S σ → ∃ f, m.run σ = (.error f, σ)) :
    m.Gives S none := by
  refine ⟨fun σ hσ => ?_, fun σ hσ => ?_⟩
  · obtain ⟨f, hf⟩ := h σ hσ
    rw [hf]
    exact hσ
  · obtain ⟨f, hf⟩ := h σ hσ
    rw [hf]
    rfl

/-- Only the runs from the sessions count. -/
theorem Gives.of_run_eq {m m' : Run α} {v : Option α} (hm : m.Gives S v)
    (h : ∀ σ, S σ → m'.run σ = m.run σ) : m'.Gives S v :=
  ⟨fun σ hσ => h σ hσ ▸ hm.stays σ hσ, fun σ hσ => h σ hσ ▸ hm.result σ hσ⟩

/-- In a single session, what leaves it as it is takes no notice. -/
theorem indifferent_of_leaves {m : Run α} {σ : Session} (h : (m.run σ).2 = σ) :
    m.Indifferent (· = σ) :=
  ⟨(m.run σ).1.toOption, fun _ hσ => hσ ▸ h, fun _ hσ => hσ ▸ rfl⟩

/-- Failing in another way makes no difference. -/
theorem Gives.mapFailure {m : Run α} {v : Option α} (h : m.Gives S v)
    (change : Failure → Failure) : (m.mapFailure change).Gives S v := by
  have hrun : ∀ σ, (m.mapFailure change).run σ = ((m.run σ).1.mapError change, (m.run σ).2) :=
    fun σ => run_mapFailure rfl
  refine ⟨fun σ hσ => ?_, fun σ hσ => ?_⟩
  · rw [hrun]
    exact h.stays σ hσ
  · rw [hrun, ← h.result σ hσ]
    cases (m.run σ).1 <;> rfl

theorem Gives.congr {m m' : Run α} {v : Option α} (h : m.Gives S v) (hsame : m.Alike m') :
    m'.Gives S v := by
  refine ⟨fun σ hσ => ?_, fun σ hσ => ?_⟩
  · rw [(hsame σ).1]
    exact h.stays σ hσ
  · rw [(hsame σ).2]
    exact h.result σ hσ

/-- Elements that each come to something, whatever was done for the others, come to it in turn. -/
theorem Gives.mapM {k : α → Run β} {outcome : α → Option β} {l : List α}
    (h : ∀ a ∈ l, (k a).Gives S (outcome a)) : (l.mapM k).Gives S (l.mapM outcome) := by
  induction l with
  | nil => exact .pure S []
  | cons a l ih =>
    rw [List.mapM_cons, List.mapM_cons]
    refine (h a (List.mem_cons_self ..)).bind fun b _ => ?_
    exact (ih fun a' ha' => h a' (List.mem_cons_of_mem _ ha')).bind fun bs _ => .pure S (b :: bs)

theorem Alike.refl (m : Run α) : m.Alike m :=
  fun _ => ⟨rfl, rfl⟩

theorem Alike.bind {m m' : Run α} {k k' : α → Run β} (hm : m.Alike m')
    (hk : ∀ a, (k a).Alike (k' a)) : (m >>= k).Alike (m' >>= k') := by
  intro σ
  obtain ⟨hstate, hresult⟩ := hm σ
  rw [Running.run_bind, Running.run_bind]
  rcases hrun : m.run σ with ⟨f | a, τ⟩ <;> rcases hrun' : m'.run σ with ⟨f' | a', τ'⟩ <;>
    rw [hrun, hrun'] at hstate hresult
  · exact ⟨hstate, rfl⟩
  · cases hresult
  · cases hresult
  · obtain rfl : a' = a := Option.some.inj hresult
    obtain rfl : τ' = τ := hstate
    exact hk a' τ'

theorem Alike.mapFailure {m m' : Run α} (h : m.Alike m') (change change' : Failure → Failure) :
    (m.mapFailure change).Alike (m'.mapFailure change') := by
  intro σ
  obtain ⟨hstate, hresult⟩ := h σ
  rcases hrun : m.run σ with ⟨f | a, τ⟩ <;> rcases hrun' : m'.run σ with ⟨f' | a', τ'⟩ <;>
    rw [hrun, hrun'] at hstate hresult <;> rw [run_mapFailure hrun, run_mapFailure hrun']
  · exact ⟨hstate, rfl⟩
  · cases hresult
  · cases hresult
  · exact ⟨hstate, hresult⟩

theorem lift_alike {e e' : Except Failure α} (h : e'.toOption = e.toOption) :
    (Run.lift e : Run α).Alike (Run.lift e') := by
  intro σ
  rw [run_lift, run_lift]
  refine ⟨rfl, ?_⟩
  cases e <;> cases e' <;> exact h

end Run

end

/-! ## Outcomes in turn -/

section

variable {α β : Type} {l l' : List α} {outcome : α → Option β}

theorem mapM_eq_some_map {value : α → β} (h : ∀ a ∈ l, outcome a = some (value a)) :
    l.mapM outcome = some (l.map value) := by
  induction l with
  | nil => rfl
  | cons a l ih =>
    rw [List.mapM_cons, h a (List.mem_cons_self ..),
      ih fun a' ha' => h a' (List.mem_cons_of_mem _ ha')]
    rfl

theorem mapM_eq_none (h : ∃ a ∈ l, outcome a = none) : l.mapM outcome = none := by
  induction l with
  | nil =>
    obtain ⟨a, ha, -⟩ := h
    cases ha
  | cons a l ih =>
    obtain ⟨b, hb, hnone⟩ := h
    rw [List.mapM_cons]
    rcases List.mem_cons.mp hb with rfl | hb
    · rw [hnone]
      rfl
    · rw [ih ⟨b, hb, hnone⟩]
      cases outcome a <;> rfl

/-- Either each of some elements comes to a value, or one of them fails. -/
theorem outcomes_cases (outcome : α → Option β) (l : List α) :
    (∀ a ∈ l, ∃ b, outcome a = some b) ∨ ∃ a ∈ l, outcome a = none := by
  by_cases h : ∀ a ∈ l, ∃ b, outcome a = some b
  · exact Or.inl h
  · push Not at h
    obtain ⟨a, ha, hne⟩ := h
    exact Or.inr ⟨a, ha, Option.eq_none_iff_forall_ne_some.mpr hne⟩

/-- Elements in another order come to the same values in that order, or fail in both orders. -/
theorem mapM_perm [Inhabited β] (h : l'.Perm l) (outcome : α → Option β) :
    (l.mapM outcome = none ∧ l'.mapM outcome = none) ∨
      ∃ values values', l.mapM outcome = some values ∧ l'.mapM outcome = some values' ∧
        values'.Perm values := by
  rcases outcomes_cases outcome l with hall | ⟨a, ha, hnone⟩
  · choose! value hvalue using hall
    refine Or.inr ⟨_, _, mapM_eq_some_map hvalue, mapM_eq_some_map fun a ha => ?_, h.map value⟩
    exact hvalue a (h.mem_iff.mp ha)
  · exact Or.inl ⟨mapM_eq_none ⟨a, ha, hnone⟩, mapM_eq_none ⟨a, h.mem_iff.mpr ha, hnone⟩⟩

end

/-! ## Direct steps -/

/-- A step that reads a single column and has no default. -/
structure Step.IsDirect {M : Type} (s : Step M) : Prop where
  column : s.strategy.key?.isSome = true
  default : s.default = none

section

variable {l : Level} {s s' : DecodeStep} {row row' : Value} {key key' : Value}

/-- A step without a default fails as what it attempts does, but for the name of the field. -/
theorem runStep_eq_of_no_default (h : s.default = none) :
    runStep l s row = (attempt l s row).mapFailure (·.named s.fieldName) := by
  have hrecover : recover l s = fun f => throw (f.named s.fieldName) := by
    funext f
    unfold recover
    rw [h]
    cases f.isAbsence <;> rfl
  rw [runStep, hrecover]
  rfl

/-- Direct steps that do the same with what they read are alike on rows that are alike there. -/
theorem runStep_alike (hkey : s.strategy.key? = some key) (hkey' : s'.strategy.key? = some key')
    (hdecoder : s'.strategy.decoder? = s.strategy.decoder?) (hconverter : s'.converter = s.converter)
    (hdefault : s.default = none) (hdefault' : s'.default = none)
    (hread : (Cell.read l key row).Alike (Cell.read l key' row')) :
    (runStep l s row).Alike (runStep l s' row') := by
  rw [runStep_eq_of_no_default hdefault, runStep_eq_of_no_default hdefault']
  refine Run.Alike.mapFailure ?_ _ _
  rw [attempt_direct hkey, attempt_direct hkey']
  refine hread.bind fun raw => Run.Alike.bind ?_ fun v => ?_
  · unfold decodeRaw
    rw [hdecoder]
    cases s.strategy.decoder? with
    | none => exact .refl _
    | some t => exact (Run.Alike.refl _).mapFailure _ _
  · unfold convertDecoded
    rw [hconverter]
    cases s.converter with
    | none => exact .refl _
    | some t => exact (Run.Alike.refl _).mapFailure _ _

/-- A direct step at another place does what it did, with the column that is there. -/
theorem runStep_placed_alike {i j : Nat} (hcolumn : s.strategy.key?.isSome = true)
    (hdefault : s.default = none)
    (hread : (Cell.read l (.int j) row).Alike (Cell.read l (.int i) row')) :
    (runStep l (s.placed .byPosition j) row).Alike (runStep l (s.placed .byPosition i) row') :=
  runStep_alike (Strategy.placed_key?_of_isSome hcolumn) (Strategy.placed_key?_of_isSome hcolumn)
    ((Strategy.placed_decoder? ..).trans (Strategy.placed_decoder? ..).symm) rfl hdefault hdefault
    hread

end

/-- By name, the place among the steps does not matter. -/
theorem runStep_placed_byName (l : Level) (s : DecodeStep) (i : Nat) (row : Value) :
    runStep l (s.placed .byName i) row = runStep l s row :=
  rfl

/-! ## New instances -/

section

variable {S : Session → Prop} {l : Level} {given bound : Bindings}
  {supplied : FieldDeclaration → Option Value}

/-- What a new instance holds for a field: what is given for it, if the constructor takes it, or else
what its default comes to. -/
def FieldDeclaration.held (given : Bindings) (supplied : FieldDeclaration → Option Value)
    (f : FieldDeclaration) : Option Bindings :=
  match (if f.inConstructor then given.lookup f.name else none), f.default with
  | some v, _ => some [(f.name, v)]
  | none, some _ => (supplied f).map fun v => [(f.name, v)]
  | none, none => some []

/-- A field that is not given holds its default. -/
theorem held_default {f : FieldDeclaration} {s : Supply}
    (hgiven : (if f.inConstructor then given.lookup f.name else none) = none)
    (hdefault : f.default = some s) :
    f.held given supplied = (supplied f).map fun v => [(f.name, v)] := by
  unfold FieldDeclaration.held
  rw [hgiven, hdefault]

theorem held_given {f : FieldDeclaration} {v : Value}
    (hgiven : (if f.inConstructor then given.lookup f.name else none) = some v) :
    f.held given supplied = some [(f.name, v)] := by
  unfold FieldDeclaration.held
  rw [hgiven]

theorem held_nothing {f : FieldDeclaration}
    (hgiven : (if f.inConstructor then given.lookup f.name else none) = none)
    (hdefault : f.default = none) : f.held given supplied = some [] := by
  unfold FieldDeclaration.held
  rw [hgiven, hdefault]

/-- The fields of a new instance. -/
theorem fill_gives {fields : List FieldDeclaration}
    (hgiven : ∀ f ∈ fields, bound.lookup f.name = given.lookup f.name)
    (hsupplied : ∀ f ∈ fields, ∀ s, f.default = some s → (l.supply s).Gives S (supplied f)) :
    (Instance.fill l bound fields).Gives S
      ((fields.mapM (FieldDeclaration.held given supplied)).map List.flatten) := by
  induction fields with
  | nil => exact .pure S []
  | cons f rest ih =>
    have hrest := ih (fun g hg => hgiven g (List.mem_cons_of_mem _ hg))
      fun g hg => hsupplied g (List.mem_cons_of_mem _ hg)
    -- A field is put before the others, if it holds something.
    have hcons : ∀ own : Bindings, ((Instance.fill l bound rest) >>= fun held =>
        pure (own ++ held)).Gives S ((((rest.mapM (FieldDeclaration.held given supplied)).bind
          fun held => some (own :: held))).map List.flatten) := by
      intro own
      rw [Option.map_bind]
      have h := hrest.map (k := fun held => pure (own ++ held)) fun _ => rfl
      rw [Option.map_map, Option.map_eq_bind] at h
      exact h
    rw [List.mapM_cons, Instance.fill, hgiven f (List.mem_cons_self ..)]
    cases hv : if f.inConstructor then given.lookup f.name else none with
    | some v =>
      rw [held_given hv]
      exact hcons [(f.name, v)]
    | none =>
      cases hs : f.default with
      | none =>
        have h := hcons []
        simp only [List.nil_append, bind_pure] at h
        rw [held_nothing hv hs]
        exact h
      | some s =>
        have h := (hsupplied f (List.mem_cons_self ..) s hs).bind fun v _ => hcons [(f.name, v)]
        rw [held_default hv hs, Option.bind_eq_bind, Option.bind_map, Option.map_bind]
        exact h

/-- An instance holds no field twice. -/
theorem held_names {fields : List FieldDeclaration} {held : List Bindings}
    (h : fields.mapM (FieldDeclaration.held given supplied) = some held) :
    (held.flatten.map (·.1)).Sublist (fields.map (·.name)) := by
  induction fields generalizing held with
  | nil =>
    cases h
    exact .slnil
  | cons f rest ih =>
    rw [List.mapM_cons] at h
    obtain ⟨own, hown, h⟩ := Option.bind_eq_some_iff.mp h
    obtain ⟨others, hothers, h⟩ := Option.bind_eq_some_iff.mp h
    cases h
    rw [List.flatten_cons, List.map_append, List.map_cons]
    have hrest := ih hothers
    unfold FieldDeclaration.held at hown
    split at hown
    · cases hown
      exact hrest.cons_cons _
    · obtain ⟨v, -, rfl⟩ := Option.map_eq_some_iff.mp hown
      exact hrest.cons_cons _
    · cases hown
      exact hrest.cons _

/-- A call of a class that is made of its fields and runs no hook afterwards. -/
theorem run_construct_fields {c : ClassRef} {maker : Constructor} {keywords : Bindings}
    {σ : Session} (hform : c.form.isEnumeration = false)
    (hreplaced : (σ.classes.info c).replaced = none)
    (hmaker : (σ.classes.info c).constructor? = some maker) (hmaking : maker.making = .fields)
    (hsilent : ∀ h, σ.classes.attribute? c "post_init" ≠ some (.hook h)) (l : Level) :
    (l.above.construct (.declared c) [] keywords).run σ =
      (Run.lift (Instance.bindInstance (maker.owner ++ ".__init__()") maker [] keywords) >>=
        fun bound => Instance.fill l bound maker.parameters >>=
          fun held => pure (Value.record c held)).run σ := by
  have hconstruct : l.above.construct (.declared c) [] keywords =
      (do Instance.makeDeclared l (← get).classes c [] keywords) := rfl
  have hannounce : ∀ v, Instance.announce l σ.classes c "post_init" v = pure () := by
    intro v
    unfold Instance.announce
    split
    next h hhook => exact absurd hhook (hsilent h)
    next => rfl
  rw [hconstruct, Running.run_bind_of_ok (Running.run_get σ),
    makeDeclared_of_constructor hform hreplaced hmaker]
  unfold Instance.makeBy
  rw [hmaking]
  dsimp only
  simp only [hannounce, pure_bind]

/-- A class of records without a constructor, or with something else in its place, is not made of
any fields. -/
theorem run_construct_unmade {c : ClassRef} {keys : KeyUse} {keywords : Bindings} {σ : Session}
    (hform : c.form = .dataclass keys) (hkeywords : keywords ≠ [])
    (hmaking : ∀ maker, (σ.classes.info c).constructor? = some maker → maker.making = .fields)
    (hunmade : (σ.classes.info c).replaced ≠ none ∨ (σ.classes.info c).constructor? = none)
    (l : Level) :
    ∃ f, (l.above.construct (.declared c) [] keywords).run σ = (.error f, σ) := by
  have hconstruct : l.above.construct (.declared c) [] keywords =
      (do Instance.makeDeclared l (← get).classes c [] keywords) := rfl
  have hbare : ∃ f : Fault, Instance.makeBare c [] keywords = .error f := by
    unfold Instance.makeBare
    rw [hform]
    dsimp only
    rw [List.isEmpty_nil, Bool.true_and, if_neg (by simpa using hkeywords)]
    exact ⟨_, rfl⟩
  rw [hconstruct, Running.run_bind_of_ok (Running.run_get σ)]
  unfold Instance.makeDeclared
  dsimp only
  rw [hform]
  cases hreplaced : (σ.classes.info c).replaced with
  | some v =>
    cases hmaker : (σ.classes.info c).constructor? with
    | none => exact ⟨_, rfl⟩
    | some maker =>
      dsimp only
      rw [hmaking maker hmaker]
      exact ⟨_, rfl⟩
  | none =>
    rw [hunmade.resolve_left fun h => h hreplaced]
    obtain ⟨f, hf⟩ := hbare
    dsimp only
    rw [hf]
    exact ⟨_, rfl⟩

end

end RowDecoding
