import RowDecoding.Proofs.LateLookup

/-!
# The columns that a plan reads

A plan reads the columns of its own steps and those of the plans that it runs inside: of each
flattened class, and so on down. Two rows that have the same cells there are the same row to it,
however much else they hold, in whatever order and whatever kind of row they are.

The statements compare two runs from the same session. They agree step by step: in the results, in
the failures, and in what they leave behind. So nothing is asked of decoders, converters and default
factories: none of them is given the row. Only a hook that maps the whole row is, and such a hook may
read what it likes.

A mapping that a class inherits from a derived one is the one case where a plan is looked up while a
row is mapped. `Given` follows a run to where that happens and says which plan is handed out there;
its columns belong to what is read.

* `run_congr`: rows that agree on what a mapper reads are mapped alike.
* `hookless_of_handed`: a plan of classes without hooks for rows maps nothing by one.
* `execute_reads_own_columns`: the two together, for the plans that a registry hands out.
-/

namespace RowDecoding

/-! ## What is read -/

/-- The mappers that run where a row is mapped: the mapper itself, those in the steps of a plan, and
for an inherited mapping the plan that a registry gives for the class. -/
inductive RowMapper.Runs (gives : ClassRef → String → DecodePlan → Prop) :
    RowMapper → RowMapper → Prop
  | here (m : RowMapper) : Runs gives m m
  | flattened {p : DecodePlan} {s : DecodeStep} {m inner : RowMapper} (hs : s ∈ p.steps)
      (hm : s.strategy = .flatten (some m)) (h : Runs gives m inner) : Runs gives (.plan p) inner
  | inherited {owner : ClassRef} {registry : String} {q : DecodePlan} {inner : RowMapper}
      (hq : gives owner registry q) (h : Runs gives (.plan q) inner) :
      Runs gives (.inherited owner registry) inner

/-- A key of a step of a plan that runs where a row is mapped. -/
def RowMapper.Reads (gives : ClassRef → String → DecodePlan → Prop) (m : RowMapper) (key : Value) :
    Prop :=
  ∃ p : DecodePlan, m.Runs gives (.plan p) ∧ ∃ s ∈ p.steps, s.strategy.key? = some key

/-- Hooks, which are given the row and read what they like. -/
def RowMapper.IsHook : RowMapper → Prop
  | .hook .. | .bare _ => True
  | .plan _ | .inherited .. => False

/-- No hook runs where a row is mapped. -/
def RowMapper.Hookless (gives : ClassRef → String → DecodePlan → Prop) (m : RowMapper) : Prop :=
  ∀ inner, m.Runs gives inner → ¬inner.IsHook

/-- The plans that are looked up where a row is mapped. Mapping it by a mapper from the session `σ`,
upon so many levels, a registry is asked for the plan of a class and gives `q`. -/
inductive Given (row : Value) (owner : ClassRef) (registry : String) (q : DecodePlan) :
    Nat → Session → RowMapper → Prop
  | here {n : Nat} {σ τ : Session} (h : (planOf owner registry).run σ = (.ok q, τ)) :
      Given row owner registry q n σ (.inherited owner registry)
  | inherited {n : Nat} {σ τ : Session} {c : ClassRef} {name : String} {p : DecodePlan}
      (h : (planOf c name).run σ = (.ok p, τ)) (hq : Given row owner registry q n τ (.plan p)) :
      Given row owner registry q n σ (.inherited c name)
  | flattened {n : Nat} {σ τ : Session} {p : DecodePlan} {before after : List DecodeStep}
      {s : DecodeStep} {m : RowMapper} {vs : List Value} (hsteps : p.steps = before ++ s :: after)
      (h : (before.mapM fun s => runStep (Level.ofDepth (n + 1)) s row).run σ = (.ok vs, τ))
      (hm : s.strategy = .flatten (some m)) (hq : Given row owner registry q n τ m) :
      Given row owner registry q (n + 1) σ (.plan p)

/-! ## Rows that values are adapted to -/

namespace Row

/-- A value is adapted to a row: it is no row as it is, and its elements or entries make one. -/
structure Adapts (table : ClassTable) (v row : Value) : Prop where
  isNoRow : Cell.isRow table v = false
  adapted : adapt v = .ok row

/-- A row that is ready to be read: it is adapted to itself. -/
def IsReady (row : Value) : Prop :=
  ∃ form columns cells, row = .row form columns cells ∧ adapt row = .ok row

theorem isReady_row {form : RowForm} (hform : form ≠ .fetched) (columns cells : List Value) :
    IsReady (.row form columns cells) := by
  refine ⟨form, columns, cells, rfl, ?_⟩
  cases form <;> first | rfl | exact absurd rfl hform

theorem isReady_ofSequence {cells columns : List Value} {row : Value}
    (h : ofSequence cells columns = .ok row) : IsReady row := by
  unfold ofSequence at h
  split at h
  · cases h
  · cases h
    exact isReady_row (by decide) columns cells

theorem isReady_of_adapt {v row : Value} (h : adapt v = .ok row) : IsReady row := by
  unfold adapt at h
  split at h
  · cases h
    exact isReady_row (by decide) _ _
  · next form columns cells hfetched =>
    cases h
    refine isReady_row ?_ columns cells
    rintro rfl
    exact hfetched rfl
  · cases h
    exact isReady_row (by decide) _ _
  · exact isReady_ofSequence h
  · split at h
    · exact isReady_ofSequence h
    · cases h

variable {row : Value}

theorem IsReady.isNoRow (h : IsReady row) (table : ClassTable) :
    Cell.isRow table row = false := by
  obtain ⟨form, columns, cells, rfl, -⟩ := h
  rfl

theorem IsReady.adapts (h : IsReady row) (table : ClassTable) : Adapts table row row := by
  have hrow := h
  obtain ⟨-, -, -, -, hadapted⟩ := h
  exact ⟨hrow.isNoRow table, hadapted⟩

theorem Adapts.isReady {table : ClassTable} {v : Value} (h : Adapts table v row) :
    IsReady row :=
  isReady_of_adapt h.adapted

theorem Adapts.run_rowOf {σ : Session} {v : Value} (h : Adapts σ.classes v row) :
    (Cell.rowOf v).run σ = (.ok row, σ) := by
  unfold Cell.rowOf
  rw [Running.run_bind, Running.run_get]
  dsimp only
  rw [h.isNoRow, h.adapted]
  rfl

end Row

/-- A plan makes of a value what it makes of the row that the value is adapted to. -/
theorem Row.Adapts.run_execute {σ : Session} {v row : Value} (h : Row.Adapts σ.classes v row)
    {l : Level} {p : DecodePlan} : (execute l p v).run σ = (execute l p row).run σ := by
  have hrow : (Cell.rowOf row).run σ = (.ok row, σ) := (h.isReady.adapts σ.classes).run_rowOf
  unfold execute
  rw [Running.run_bind_of_ok h.run_rowOf, Running.run_bind_of_ok hrow]

/-! ## Two rows -/

section

variable {row row' : Value} {l : Level} {σ : Session}

/-- Both runs of a computation over a list agree if they agree wherever the first one gets to. -/
theorem Running.run_mapM_congr {α β : Type} {f f' : α → Run β} {σ : Session} {xs : List α}
    (h : ∀ before x after vs τ, xs = before ++ x :: after → (before.mapM f).run σ = (.ok vs, τ) →
      (f x).run τ = (f' x).run τ) :
    (xs.mapM f).run σ = (xs.mapM f').run σ := by
  induction xs generalizing σ with
  | nil => rfl
  | cons x xs ih =>
    have hx : (f x).run σ = (f' x).run σ := h [] x xs [] σ rfl rfl
    rw [List.mapM_cons, List.mapM_cons, Running.run_bind, Running.run_bind, ← hx]
    rcases hrun : (f x).run σ with ⟨_ | v, τ⟩
    · rfl
    · dsimp only
      rw [Running.run_bind, Running.run_bind]
      -- What the rest gets to, the whole gets to after `x`.
      rw [ih fun before y after vs τ' hxs hbefore =>
        h (x :: before) y after (v :: vs) τ' (by rw [hxs]; rfl) (by
          rw [List.mapM_cons, Running.run_bind_of_ok hrun, Running.run_bind_of_ok hbefore]
          rfl)]

variable (hrow : Row.IsReady row) (hrow' : Row.IsReady row')
include hrow hrow'

/-- A cell is read alike from rows that agree on its key. -/
theorem read_congr {key : Value} (h : Row.cell key row = Row.cell key row') :
    Cell.read l key row = Cell.read l key row' := by
  obtain ⟨form, columns, cells, rfl, -⟩ := hrow
  obtain ⟨form', columns', cells', rfl, -⟩ := hrow'
  show Run.lift (Row.cell key _) = Run.lift (Row.cell key _)
  rw [h]

/-- A step does the same over rows that agree on its key, or over rows that its mapper maps alike. -/
theorem run_runStep_congr {s : DecodeStep}
    (hcell : ∀ key, s.strategy.key? = some key → Row.cell key row = Row.cell key row')
    (hmap : ∀ m, s.strategy = .flatten (some m) → (l.mapRow m row).run σ = (l.mapRow m row').run σ) :
    (runStep l s row).run σ = (runStep l s row').run σ := by
  have hattempt : (attempt l s row).run σ = (attempt l s row').run σ := by
    cases hkey : s.strategy.key? with
    | some key =>
      rw [attempt_direct hkey, attempt_direct hkey, read_congr hrow hrow' (hcell key hkey)]
    | none =>
      unfold attempt
      cases hs : s.strategy with
      | flatten mapper =>
        cases mapper with
        | none => rfl
        | some m =>
          dsimp only [mapWhole]
          rw [Running.run_bind, Running.run_bind, hmap m hs]
      | unknown => rfl
      | byName key d | byIndex key d | thenConvert key d => rw [hs] at hkey; cases hkey
  unfold runStep
  rw [Running.run_tryCatch, Running.run_tryCatch, hattempt]

/-- A plan does the same over two rows if each of its steps does wherever it is reached. -/
theorem run_execute_congr {p : DecodePlan}
    (hsteps : ∀ before s after vs τ, p.steps = before ++ s :: after →
      (before.mapM fun s => runStep l s row).run σ = (.ok vs, τ) →
      (runStep l s row).run τ = (runStep l s row').run τ) :
    (execute l p row).run σ = (execute l p row').run σ := by
  unfold execute executeOn
  rw [Running.run_bind_of_ok (hrow.adapts _).run_rowOf,
    Running.run_bind_of_ok (hrow'.adapts _).run_rowOf, Running.run_bind, Running.run_bind,
    Running.run_mapM_congr hsteps]

end

/-- Two rows agree on what is read where the first one is mapped from a session, upon so many levels:
on the cells, and on what hooks make of them. -/
structure Agree (gives : ClassRef → String → DecodePlan → Prop) (row row' : Value) (n : Nat)
    (σ : Session) (m : RowMapper) : Prop where
  given : ∀ owner registry q, Given row owner registry q n σ m → gives owner registry q
  cells : ∀ key, m.Reads gives key → Row.cell key row = Row.cell key row'
  hooks : ∀ hook, m.Runs gives hook → hook.IsHook → ∀ k τ,
    (hook.run (.ofDepth k) row).run τ = (hook.run (.ofDepth k) row').run τ

section

variable {gives : ClassRef → String → DecodePlan → Prop} {row row' : Value} {n : Nat}
  {σ τ : Session} {p : DecodePlan}

/-- What a mapper in a step reads is read by the plan. -/
theorem Agree.flattened (h : Agree gives row row' (n + 1) σ (.plan p))
    {before after : List DecodeStep} {s : DecodeStep} {m : RowMapper} {vs : List Value}
    (hsteps : p.steps = before ++ s :: after)
    (hbefore : (before.mapM fun s => runStep (Level.ofDepth (n + 1)) s row).run σ = (.ok vs, τ))
    (hm : s.strategy = .flatten (some m)) : Agree gives row row' n τ m := by
  have hs : s ∈ p.steps := by
    rw [hsteps]
    exact List.mem_append_right before List.mem_cons_self
  refine ⟨fun owner registry q hq => ?_, fun key => ?_, fun hook hruns => ?_⟩
  · exact h.given owner registry q (.flattened hsteps hbefore hm hq)
  · rintro ⟨q, hruns, hkey⟩
    exact h.cells key ⟨q, .flattened hs hm hruns, hkey⟩
  · exact h.hooks hook (.flattened hs hm hruns)

/-- What the plan given for an inherited mapping reads is read by the mapping. -/
theorem Agree.inherited {owner : ClassRef} {registry : String}
    (h : Agree gives row row' n σ (.inherited owner registry))
    (hp : (planOf owner registry).run σ = (.ok p, τ)) : Agree gives row row' n τ (.plan p) := by
  have hgives : gives owner registry p := h.given owner registry p (.here hp)
  refine ⟨fun owner' registry' q hq => ?_, fun key => ?_, fun hook hruns => ?_⟩
  · exact h.given owner' registry' q (.inherited hp hq)
  · rintro ⟨q, hruns, hkey⟩
    exact h.cells key ⟨q, .inherited hgives hruns, hkey⟩
  · exact h.hooks hook (.inherited hgives hruns)

variable (hrow : Row.IsReady row) (hrow' : Row.IsReady row')
include hrow hrow'

/-- A plan does the same over rows that agree, if the mappers in its steps do. -/
theorem run_plan_congr (h : Agree gives row row' n σ (.plan p))
    (hnested : ∀ s m τ, s ∈ p.steps → s.strategy = .flatten (some m) → ∀ k, n = k + 1 →
      Agree gives row row' k τ m →
      (m.run (.ofDepth k) row).run τ = (m.run (.ofDepth k) row').run τ) :
    (execute (.ofDepth n) p row).run σ = (execute (.ofDepth n) p row').run σ := by
  refine run_execute_congr hrow hrow' fun before s after vs τ hsteps hbefore => ?_
  have hs : s ∈ p.steps := by
    rw [hsteps]
    exact List.mem_append_right before List.mem_cons_self
  refine run_runStep_congr hrow hrow' (fun key hkey => ?_) fun m hm => ?_
  · exact h.cells key ⟨p, .here _, s, hs, hkey⟩
  · cases n with
    | zero => rfl
    | succ k => exact hnested s m τ hs hm k rfl (h.flattened hsteps hbefore hm)

/-- **Rows that agree on what is read are the same row.** The induction is on the levels. An
inherited mapping takes no level; it maps by the plan that is given for it. -/
theorem run_congr {m : RowMapper} (h : Agree gives row row' n σ m) :
    (m.run (.ofDepth n) row).run σ = (m.run (.ofDepth n) row').run σ := by
  induction n using Nat.strongRecOn generalizing m σ with
  | _ n ih =>
    have hplan {p : DecodePlan} {τ : Session} (h : Agree gives row row' n τ (.plan p)) :
        (execute (.ofDepth n) p row).run τ = (execute (.ofDepth n) p row').run τ := by
      refine run_plan_congr hrow hrow' h fun s m τ _ _ k hk hagree => ?_
      exact ih k (by omega) hagree
    cases m with
    | plan p => exact hplan h
    | hook owner hook => exact h.hooks _ (.here _) trivial n σ
    | bare hook => exact h.hooks _ (.here _) trivial n σ
    | inherited owner registry =>
      show (planOf owner registry >>= fun p => execute (.ofDepth n) p row).run σ =
        (planOf owner registry >>= fun p => execute (.ofDepth n) p row').run σ
      rw [Running.run_bind, Running.run_bind]
      rcases hp : (planOf owner registry).run σ with ⟨_ | p, τ⟩
      · rfl
      · exact hplan (h.inherited hp)

end

/-! ## Plans of classes without hooks for rows -/

/-- A class whose rows are mapped by a hook of its own, or of a class that it inherits from. -/
def MapsByHook (table : ClassTable) (t : TypeExpr) : Prop :=
  ∃ owner hook, mappingOf table t = .own (.hook owner hook)

section

variable {gives : ClassRef → String → DecodePlan → Prop} {table : ClassTable} {r : Registry}

/-- What runs where a row is mapped by a compiled plan is no hook, if nothing that the plan nests is
mapped by one and the plans that are looked up run none. -/
theorem Uncached.hookless_of_buildWith
    (hgiven : ∀ owner registry q, gives owner registry q → (RowMapper.plan q).Hookless gives)
    {m inner : RowMapper} (hruns : m.Runs gives inner) :
    ∀ {p : DecodePlan} {overrides : Overrides} {t : TypeExpr} {fuel : Nat} {building : List Key},
      m = .plan p →
      Compile.buildWith (lookups r table (planWithin r table fuel building)) table t overrides
        (.ok p) →
      (∀ v, Nests table overrides t v → ¬MapsByHook table v) → ¬inner.IsHook := by
  induction hruns with
  | here m =>
    rintro p overrides t fuel building rfl - -
    exact id
  | inherited =>
    rintro p overrides t fuel building hp
    cases hp
  | @flattened p s m inner hs hm hinner ih =>
    rintro p overrides t fuel building hp hbuilt hclasses
    cases hp
    obtain ⟨v, hv, hmapper⟩ := flattened_of_step hbuilt hs hm
    rcases mapperFor_some hmapper with hown | ⟨hmapping, p', hp', rfl⟩
    · obtain ⟨c, -, -, ⟨-, hook, rfl, -⟩ | ⟨registry, rfl, -⟩⟩ := mappingOf_own hown
      · exact absurd ⟨c, hook, hown⟩ (hclasses v (.field hv))
      · -- An inherited mapping runs itself, which is no hook, and what was looked up for it.
        cases hinner with
        | here => exact id
        | inherited hq hinner => exact hgiven _ _ _ hq _ hinner
    · cases fuel with
      | zero => cases hp'
      | succ fuel =>
        have hflattens : Flattens table overrides t v := ⟨hv, hmapping⟩
        obtain ⟨c, rfl, -⟩ := hflattens.known
        obtain ⟨-, -, hbuilt'⟩ := compile_ok.mp (compile_of_declared hp')
        exact ih rfl hbuilt' fun w hw => hclasses w (.deeper hflattens hw)

/-- A plan that is handed out runs no hook, if nothing that it nests is mapped by one and the plans
that are looked up run none. -/
theorem HandsOut.hookless {u : Registry} {overrides : Overrides} {size : Nat} {p : DecodePlan}
    (h : HandsOut table r overrides size p) (hr : Cached u table [] r)
    (hclasses : ∀ v, Nests table overrides p.target v → ¬MapsByHook table v)
    (hgiven : ∀ owner registry q, gives owner registry q → (RowMapper.plan q).Hookless gives) :
    (RowMapper.plan p).Hookless gives := by
  obtain ⟨fuel, building, hbuilt, -⟩ := h.built hr
  intro inner hruns
  exact Uncached.hookless_of_buildWith hgiven hruns rfl hbuilt hclasses

end

/-! ## Closed plans -/

section

variable {A : Allowance} {n : Nat} {m : RowMapper}

/-- The keys of a plan and of those nested in it, as deep as this. -/
def RowMapper.keys : Nat → RowMapper → List Value
  | n + 1, .plan p => p.steps.flatMap fun s =>
      match s.strategy with
      | .flatten (some m) => m.keys n
      | strategy => strategy.key?.toList
  | _, _ => []

/-- Nothing is looked up where a closed plan runs. -/
theorem Given.not_within {row : Value} {owner : ClassRef} {registry : String} {q : DecodePlan}
    {k : Nat} {σ : Session} (h : Given row owner registry q k σ m) : ¬m.Within A n := by
  induction h generalizing n with
  | here => exact RowMapper.not_within_inherited
  | inherited => exact RowMapper.not_within_inherited
  | @flattened _ _ _ p before after s m _ hsteps _ hm _ ih =>
    intro hp
    have hs : s ∈ p.steps := by
      rw [hsteps]
      exact List.mem_append_right before List.mem_cons_self
    obtain ⟨k, -, hnested⟩ := hp.nested hs hm
    exact ih hnested

/-- What a closed plan reads are the keys in it. -/
theorem RowMapper.Within.reads_iff {gives : ClassRef → String → DecodePlan → Prop} {key : Value}
    (hm : m.Within A n) : m.Reads gives key ↔ key ∈ m.keys n := by
  constructor
  · rintro ⟨q, hruns, s, hs, hkey⟩
    generalize hq : RowMapper.plan q = inner at hruns
    induction hruns generalizing n with
    | here m =>
      subst hq
      cases n with
      | zero => exact hm.elim
      | succ n =>
        refine List.mem_flatMap.mpr ⟨s, hs, ?_⟩
        cases hstrategy : s.strategy <;> rw [hstrategy] at hkey <;> cases hkey <;>
          exact List.mem_singleton_self _
    | inherited => exact absurd hm RowMapper.not_within_inherited
    | flattened hs' hm' _ ih =>
      obtain ⟨k, rfl, hnested⟩ := hm.nested hs' hm'
      refine List.mem_flatMap.mpr ⟨_, hs', ?_⟩
      rw [hm']
      exact ih hnested hq
  · intro hkey
    induction n generalizing m with
    | zero => cases m <;> cases hkey
    | succ n ih =>
      cases m with
      | hook | inherited | bare => cases hkey
      | plan p =>
        obtain ⟨s, hs, hkey⟩ := List.mem_flatMap.mp hkey
        split at hkey
        · next m hstrategy =>
          obtain ⟨q, hruns, hread⟩ := ih ((hm s hs).2 m hstrategy) hkey
          exact ⟨q, .flattened hs hstrategy hruns, hread⟩
        · exact ⟨p, .here _, s, hs, Option.mem_toList.mp hkey⟩

end

/-- **Decoding reads its own columns only.** Take a plan that a registry hands out after any calls,
nesting no class with a hook for rows, and two values that are adapted to rows. If these rows agree
on each key that the plan or a plan within it reads, the plan makes the same of both: the same
result or the same failure, with the same changes to the session. Plans within that are looked up
while the first row is mapped count as well; they are to run no hook either. -/
theorem execute_reads_own_columns {table : ClassTable} {name : String} {config : RegistryConfig}
    {calls : List Call} {overrides : Overrides} {size : Nat} {p : DecodePlan}
    (handed : HandsOut table (Call.runAll table calls (Registry.create name config)) overrides size
      p)
    (hclasses : ∀ v, Nests table overrides p.target v → ¬MapsByHook table v)
    {σ : Session} {v v' row row' : Value} (hv : Row.Adapts σ.classes v row)
    (hv' : Row.Adapts σ.classes v' row') (gives : ClassRef → String → DecodePlan → Prop)
    (hgives : ∀ owner registry q,
      Given row owner registry q Level.depth σ (.plan p) → gives owner registry q)
    (hgiven : ∀ owner registry q, gives owner registry q → (RowMapper.plan q).Hookless gives)
    (hagree : ∀ key, (RowMapper.plan p).Reads gives key → Row.cell key row = Row.cell key row') :
    (execute Level.top p v).run σ = (execute Level.top p v').run σ := by
  have hcached := Call.runAll_cached calls (create_cached table name config)
  have hhookless := handed.hookless hcached hclasses hgiven
  have hsame : (execute Level.top p row).run σ = (execute Level.top p row').run σ :=
    run_congr hv.isReady hv'.isReady
      ⟨hgives, hagree, fun hook hruns hhook => absurd hhook (hhookless hook hruns)⟩
  rw [hv.run_execute, hv'.run_execute]
  exact hsame

namespace InheritedMapping

/-- The cells of `row`, in another order and among others. -/
def widerRow : Value :=
  .row .sequence [.text "z", .text "y", .text "x"] [.int 3, .int 2, .int 1]

/-- Whether a key is one of the two columns. -/
def isColumn (key : Value) : Bool :=
  match key with
  | .text name => name == "x" || name == "y"
  | _ => false

/-- No class maps rows by a hook. -/
theorem derived_maps_by_no_hook (t : TypeExpr) : ¬MapsByHook derived.classes t := by
  rintro ⟨owner, hook, hmapping⟩
  exact not_own_of_derived derived_or_unmapped t _ hmapping

/-- There is a plan with a plan nested in it that reads two columns, looks up nothing and runs no
hook. -/
theorem exists_closed_plan :
    ∃ p, HandsOut derived.classes (registry derived) Overrides.none derived.classes.classes.length
        p ∧
      (RowMapper.plan p).Closed .anything ∧ (RowMapper.plan p).Hookless (fun _ _ _ => False) ∧
      ∀ gives key, (RowMapper.plan p).Reads gives key → key = .text "x" ∨ key = .text "y" := by
  obtain ⟨p, hp, hcheck⟩ := exists_handsOut (σ := derived)
    (fun p => ((RowMapper.plan p).keys derived.classes.classes.length).all isColumn)
    (by decide +kernel)
  have hcached : Cached (Registry.create Session.standardRegistry .standard) derived.classes []
      (registry derived) := Call.runAll_cached [] (create_cached _ _ _)
  have hwithin := hp.within hcached (Registry.allowed_anything _) (ClassTable.allowed_anything _)
    fun v _ => derived_inherits_nothing v
  have hhookless := hp.hookless hcached (fun v _ => derived_maps_by_no_hook v)
    (fun _ _ _ (h : False) => h.elim)
  refine ⟨p, hp, ⟨_, hwithin⟩, hhookless, fun gives key hkey => ?_⟩
  have hcolumn := List.all_eq_true.mp hcheck key (hwithin.reads_iff.mp hkey)
  unfold isColumn at hcolumn
  split at hcolumn
  · rw [Bool.or_eq_true, beq_iff_eq, beq_iff_eq] at hcolumn
    exact hcolumn.imp (congrArg Value.text) (congrArg Value.text)
  · cases hcolumn

/-- A plan with a plan nested in it makes the same of a dictionary and of a wider row. -/
theorem reads_own_columns_derived :
    ∃ p, HandsOut derived.classes (registry derived) Overrides.none derived.classes.classes.length
        p ∧
      (execute Level.top p (.dict [(.text "x", .int 1), (.text "y", .int 2)])).run derived =
        (execute Level.top p widerRow).run derived := by
  obtain ⟨p, hp, ⟨n, hclosed⟩, -, hreads⟩ := exists_closed_plan
  have hdictionary : Row.Adapts derived.classes (.dict [(.text "x", .int 1), (.text "y", .int 2)])
      row := ⟨rfl, rfl⟩
  have hwider : Row.Adapts derived.classes widerRow widerRow := ⟨rfl, rfl⟩
  refine ⟨p, hp, execute_reads_own_columns hp ?_ hdictionary hwider (fun _ _ _ => False) ?_ ?_ ?_⟩
  · exact fun v _ => derived_maps_by_no_hook v
  · exact fun owner registry q hq => hq.not_within hclosed
  · exact fun owner registry q hq => hq.elim
  · intro key hkey
    rcases hreads _ key hkey with rfl | rfl <;> rfl

end InheritedMapping

end RowDecoding
