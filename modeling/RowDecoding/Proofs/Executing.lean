import RowDecoding.Proofs.Constructing

/-!
# Plans side by side

Hooks, cells, transforms and steps, each on the level below, and the level above from them. What runs
on rows counts calls, takes notes, runs plans that were kept, and turns failures into failures of the
row; a pairing that is good for all of that is `OnRows`.

* `Hook.apply_paired`: a hook is paired if it may be called.
* `execute_paired`: a plan is paired if its hooks may be called and the mappers nested in it are.
* `Level.above_paired`: a level is paired if the one below is, whatever it maps rows by.
-/

namespace RowDecoding

/-- The plan that is kept under a name. -/
def Saved.contents : Saved → DecodePlan
  | plan p | mapper p => p

/-- What more is needed where rows are mapped. Sessions stay paired where calls are counted and notes
are taken. A failure of the row may end a run, as may what a hook states that may be called; the hooks
in a pipe of such hooks may be called, and the plan that one of them runs may be run. -/
structure Pairing.OnRows (P : Pairing) (Maps : RowMapper → Prop) : Prop where
  counted : ∀ {σ σ'} count, P.Pairs σ σ' → P.Pairs { σ with count } { σ' with count }
  noted : ∀ {σ σ'} tag, P.Pairs σ σ' →
    P.Pairs { σ with notes := tag :: σ.notes } { σ' with notes := tag :: σ'.notes }
  row : ∀ problem field cause σ, P.Failures (.row problem field cause) σ
  stated : ∀ {f}, P.Hooks (.fail f) → ∀ σ, P.Failures f σ
  piped : ∀ {hooks}, P.Hooks (.pipe hooks) → ∀ h ∈ hooks, P.Hooks h
  saved : ∀ {σ σ' : Session} {name thing}, P.Hooks (.run name) → P.Pairs σ σ' →
    σ.saved.lookup name = some thing → Maps (.plan thing.contents)

section

variable {P : Pairing} {Maps : RowMapper → Prop} {l l' : Level}

/-! ## What is looked up in a session -/

namespace Session

theorem typeNamed_paired (name : String) : Paired P (typeNamed name) (typeNamed name) := by
  refine .get_bind (fun _ _ => rfl) fun σ _ => ?_
  split
  · exact .pure _
  · exact .throw (P.fault _)

theorem savedPlan_paired (name : String) : Paired P (savedPlan name) (savedPlan name) := by
  refine .bind (.get_bind (fun _ _ => rfl) fun σ _ => ?_) fun thing => ?_
  · split
    · exact .pure _
    · exact .throw (P.fault _)
  · cases thing <;> exact .pure _

/-- A plan that was kept is what is kept under its name. -/
theorem run_savedPlan_ok {name : String} {p : DecodePlan} {σ τ : Session}
    (h : (savedPlan name).run σ = (.ok p, τ)) :
    ∃ thing, σ.saved.lookup name = some thing ∧ p = thing.contents := by
  unfold savedPlan savedThing at h
  rw [bind_assoc, Running.run_bind_of_ok (Running.run_get σ)] at h
  cases hthing : σ.saved.lookup name with
  | none =>
    rw [hthing] at h
    cases h
  | some thing =>
    rw [hthing] at h
    cases thing <;> cases h <;> exact ⟨_, rfl, rfl⟩

end Session

/-! ## Cells -/

namespace Row

/-- A cell is not read because of a fault, or because there is no such column. -/
def Misses (key : Value) (e : Except Failure Value) : Prop :=
  ∀ f, e = .error f → (∃ g, f = .fault g) ∨ f = .row (.absent key) none none

theorem misses_ok {key v : Value} : Misses key (.ok v) :=
  fun _ h => nomatch h

theorem misses_fault {key : Value} {g : Fault} : Misses key (.error (.fault g)) :=
  fun _ h => Or.inl ⟨g, (Except.error.inj h).symm⟩

theorem misses_found (key : Value) (cell? : Option Value) : Misses key (found key cell?) := by
  cases cell? with
  | some v => exact misses_ok
  | none =>
    show Misses key (.error (Failure.absent key))
    unfold Failure.absent
    split
    · exact misses_fault
    · exact fun _ h => Or.inr (Except.error.inj h).symm

theorem misses_cellNamed (name row : Value) : Misses name (cellNamed name row) := by
  unfold cellNamed
  split
  · exact misses_fault
  · exact misses_ok
  · exact misses_found _ _
  · exact misses_found _ _
  · cases Fault.ofKey name with
    | error f => exact misses_fault
    | ok _ => exact misses_found _ _
  · exact misses_fault

theorem misses_cellAt (index row : Value) : Misses index (cellAt index row) := by
  unfold cellAt
  split
  · exact misses_fault
  · exact misses_ok
  · next form columns cells _ _ =>
    cases isBelow cells.length index with
    | error f => exact misses_fault
    | ok below =>
      cases below with
      | false => exact misses_found index none
      | true =>
        cases index.asInt? with
        | some i => exact misses_found _ _
        | none => exact misses_fault
  · exact misses_fault

theorem misses_cell (key row : Value) : Misses key (cell key row) := by
  unfold cell
  split
  · exact misses_cellAt key row
  · exact misses_cellNamed key row

/-- A cell that is missing may end a run. -/
theorem Misses.paired (hP : P.OnRows Maps) {key : Value} {e : Except Failure Value}
    (h : Misses key e) : Paired P (Run.lift e) (Run.lift e) := by
  refine .lift fun f σ hf => ?_
  rcases h f hf with ⟨g, rfl⟩ | rfl
  · exact P.fault g σ
  · exact hP.row _ _ _ σ

end Row

namespace Cell

theorem rowOf_paired (v : Value) : Paired P (rowOf v) (rowOf v) := by
  refine .get_bind (fun _ _ => rfl) fun σ _ => ?_
  split
  · exact .pure _
  · exact .liftFault _

theorem call_paired (hl : Level.Paired P Maps l l') (name : String) (v argument : Value) :
    Paired P (call l name v argument) (call l' name v argument) := by
  refine .get_bind (fun _ _ => rfl) fun σ hσ => ?_
  dsimp only
  split
  · exact hl.construct _ _ _
  · exact .throw (P.fault _)
  · next c h _ hhook => exact hl.hook _ h _ (hσ.cell hhook)
  · exact .throw (P.fault _)

theorem named_paired (hP : P.OnRows Maps) (hl : Level.Paired P Maps l l') (name row : Value) :
    Paired P (named l name row) (named l' name row) := by
  unfold named
  split
  · exact (Row.misses_cellNamed _ _).paired hP
  · exact call_paired hl _ _ _

theorem positioned_paired (hP : P.OnRows Maps) (hl : Level.Paired P Maps l l')
    (index row : Value) : Paired P (positioned l index row) (positioned l' index row) := by
  unfold positioned
  split
  · exact (Row.misses_cellAt _ _).paired hP
  · exact call_paired hl _ _ _

theorem read_paired (hP : P.OnRows Maps) (hl : Level.Paired P Maps l l') (key row : Value) :
    Paired P (read l key row) (read l' key row) := by
  unfold read
  split
  · exact (Row.misses_cell _ _).paired hP
  · exact call_paired hl _ _ _

end Cell

/-! ## Applying hooks -/

namespace Hook

theorem classFor_paired (owner : Option ClassRef) (named : Option String) :
    Paired P (classFor owner named) (classFor owner named) := by
  unfold classFor
  split
  · exact Session.typeNamed_paired _
  · exact .pure _
  · exact .throw (P.fault _)

theorem nextCount_paired (hP : P.OnRows Maps) : Paired P nextCount nextCount := by
  refine .get_bind (fun _ _ => rfl) fun σ _ => ?_
  exact .bind (.modify fun _ _ hσ => hP.counted _ hσ) fun _ => .pure _

/-- Hooks one after the other are paired if each of them is. -/
theorem applyAll_paired {owner : Option ClassRef} {hooks : List Hook}
    (h : ∀ hook ∈ hooks, ∀ v, Paired P (apply l owner hook v) (apply l' owner hook v)) (v : Value) :
    Paired P (applyAll l owner hooks v) (applyAll l' owner hooks v) := by
  induction hooks generalizing v with
  | nil =>
    unfold applyAll
    exact .pure v
  | cons hook rest ih =>
    obtain ⟨hhook, hrest⟩ := List.forall_mem_cons.mp h
    unfold applyAll
    exact .bind (hhook v) fun w => ih hrest w

/-- **A hook that may be called is paired.** One that runs a plan that was kept needs the level for
that. -/
theorem apply_paired (hP : P.OnRows Maps) (hl : Level.Paired P Maps l l')
    (owner : Option ClassRef) :
    ∀ h : Hook, P.Hooks h → ∀ v, Paired P (apply l owner h v) (apply l' owner h v)
  | .identity, _, _ | .constant _, _, _ => by
    unfold apply
    exact .pure _
  | .readInt _, _, _ | .text, _, _ | .multiply _, _, _ | .upper, _, _ | .split _, _, _ => by
    unfold apply
    exact .liftFault _
  | .part _, _, _ | .nonNegative _, _, _ => by
    unfold apply
    exact .get_bind (fun _ _ => rfl) fun _ _ => .liftFault _
  | .construct named, _, v => by
    unfold apply
    exact .bind (classFor_paired owner named) fun t => hl.construct t [v] []
  | .make t, _, v => by
    unfold apply
    exact hl.construct t [v] []
  | .constructSpread named, _, v => by
    unfold apply
    refine .bind (classFor_paired owner named) fun t => ?_
    exact .bind (.liftFault _) fun _ => hl.construct t _ []
  | .constructFrom named _, _, v => by
    unfold apply
    refine .bind (classFor_paired owner named) fun t => ?_
    refine .get_bind (fun _ _ => rfl) fun σ _ => ?_
    exact .bind (.liftFault _) fun _ => hl.construct t _ []
  | .columnNamed name, _, v => by
    unfold apply
    exact Cell.named_paired hP hl name v
  | .columnAt index, _, v => by
    unfold apply
    exact Cell.positioned_paired hP hl index v
  | .count, _, _ => by
    unfold apply
    exact nextCount_paired hP
  | .note tag, _, v => by
    unfold apply
    exact .bind (.modify fun _ _ hσ => hP.noted tag hσ) fun _ => .pure _
  | .pipe hooks, h, v => by
    unfold apply
    exact applyAll_paired (fun hook hmem w => apply_paired hP hl owner hook (hP.piped h hook hmem) w) v
  | .run name, h, v => by
    unfold apply
    intro σ σ' hσ
    refine (Session.savedPlan_paired name hσ).bind fun p τ τ' hrun hτ => ?_
    obtain ⟨thing, hthing, rfl⟩ := Session.run_savedPlan_ok hrun
    exact hl.mapRow _ v (hP.saved h hσ hthing) hτ
  | .fail _, h, _ => by
    unfold apply
    exact .throw (hP.stated h)
end Hook

/-! ## Steps -/

theorem memberOrSelf_paired (c : ClassRef) (v : Value) :
    Paired P (memberOrSelf c v) (memberOrSelf c v) :=
  .get_bind (fun _ _ => rfl) fun _ _ => .liftFault _

theorem validateStructure_paired (hl : Level.Paired P Maps l l') (t : TypeExpr) (strict : Bool)
    (v : Value) : Paired P (validateStructure l t strict v) (validateStructure l' t strict v) := by
  refine .get_bind (fun _ _ => rfl) fun σ _ => ?_
  dsimp only
  split
  · exact .throw (P.fault _)
  · refine .bind (hl.check _ _ _ _ _ v) fun verdict => ?_
    cases verdict with
    | error issues => exact .throw (P.invalid issues)
    | ok fit => exact .pure _

theorem Transform.run_paired (hl : Level.Paired P Maps l l') {t : Transform}
    (ht : ∀ h, t.hook? = some h → P.Hooks h) (v : Value) :
    Paired P (t.run l v) (t.run l' v) := by
  induction t generalizing v with
  | passthrough => exact .pure _
  | decode s => exact .liftFault _
  | decodeBool fromInt => exact .liftFault _
  | convert c => exact .liftFault _
  | hook owner h => exact hl.hook owner h v (ht h rfl)
  | nullable inner ih =>
    unfold Transform.run
    split
    · exact .pure _
    · exact ih ht v
  | member c => exact memberOrSelf_paired c v
  | validate t strict => exact validateStructure_paired hl t strict v

section

variable {f : Failure} {σ : Session}

theorem decodingFailure_allowed (hP : P.OnRows Maps) (s : DecodeStep) (key : Value)
    (hf : P.Failures f σ) : P.Failures (decodingFailure s key f) σ := by
  unfold decodingFailure
  split
  · exact hf
  · split
    · split
      · exact P.fault _ σ
      · exact hP.row _ _ _ σ
    · exact hf

theorem conversionFailure_allowed (hP : P.OnRows Maps) (s : DecodeStep) (hf : P.Failures f σ) :
    P.Failures (conversionFailure s f) σ := by
  unfold conversionFailure
  split
  · exact hf
  · split
    · split
      · exact P.fault _ σ
      · exact hP.row _ _ _ σ
    · exact hf

theorem constructionFailure_allowed (hP : P.OnRows Maps) (target : TypeExpr)
    (hf : P.Failures f σ) : P.Failures (constructionFailure target f) σ := by
  unfold constructionFailure
  split
  · split
    · exact P.fault _ σ
    · exact hP.row _ _ _ σ
  · exact hf

theorem named_allowed (hP : P.OnRows Maps) (name : Option String) (hf : P.Failures f σ) :
    P.Failures (f.named name) σ := by
  unfold Failure.named
  split
  · exact hP.row _ _ _ σ
  · exact hf

end

section

variable {s : DecodeStep}

theorem decodeRaw_paired (hP : P.OnRows Maps) (hl : Level.Paired P Maps l l')
    (hs : ∀ h, s.HasHook h → P.Hooks h) (key raw : Value) :
    Paired P (decodeRaw l s key raw) (decodeRaw l' s key raw) := by
  unfold decodeRaw
  cases hdecoder : s.strategy.decoder? with
  | none => exact .pure _
  | some t =>
    refine .mapFailure ?_ fun _ _ => decodingFailure_allowed hP s key
    exact Transform.run_paired hl (fun h hh => hs h (.decoder hdecoder hh)) raw

theorem convertDecoded_paired (hP : P.OnRows Maps) (hl : Level.Paired P Maps l l')
    (hs : ∀ h, s.HasHook h → P.Hooks h) (v : Value) :
    Paired P (convertDecoded l s v) (convertDecoded l' s v) := by
  unfold convertDecoded
  cases hconverter : s.converter with
  | none => exact .pure _
  | some t =>
    refine .mapFailure ?_ fun _ _ => conversionFailure_allowed hP s
    exact Transform.run_paired hl (fun h hh => hs h (.converter hconverter hh)) v

/-- The value of a step before it is converted. -/
def unconverted (l : Level) (s : DecodeStep) (row : Value) : Run Value :=
  match s.strategy with
  | .flatten mapper => mapWhole l mapper row
  | .unknown => throw (Failure.wrongType ("Unknown decode step: " ++ s.strategy.title))
  | .byName key _ | .byIndex key _ | .thenConvert key _ => do
    decodeRaw l s key (← Cell.read l key row)

theorem attempt_eq (l : Level) (s : DecodeStep) (row : Value) :
    attempt l s row = unconverted l s row >>= convertDecoded l s := by
  unfold attempt unconverted
  cases s.strategy with
  | flatten mapper => rfl
  | unknown => rfl
  | byName key | byIndex key | thenConvert key => exact (bind_assoc _ _ _).symm

theorem unconverted_paired (hP : P.OnRows Maps) (hl : Level.Paired P Maps l l')
    (hs : ∀ h, s.HasHook h → P.Hooks h) (hnested : ∀ m, s.strategy = .flatten (some m) → Maps m)
    (row : Value) : Paired P (unconverted l s row) (unconverted l' s row) := by
  have hcolumn : ∀ key, Paired P (Cell.read l key row >>= decodeRaw l s key)
      (Cell.read l' key row >>= decodeRaw l' s key) :=
    fun key => .bind (Cell.read_paired hP hl key row) (decodeRaw_paired hP hl hs key)
  unfold unconverted
  cases hstrategy : s.strategy with
  | flatten mapper =>
    cases mapper with
    | none => exact .throw (P.fault _)
    | some m => exact hl.mapRow m row (hnested m hstrategy)
  | unknown => exact .throw (P.fault _)
  | byName key d | byIndex key d | thenConvert key d => exact hcolumn key

theorem attempt_paired (hP : P.OnRows Maps) (hl : Level.Paired P Maps l l')
    (hs : ∀ h, s.HasHook h → P.Hooks h) (hnested : ∀ m, s.strategy = .flatten (some m) → Maps m)
    (row : Value) : Paired P (attempt l s row) (attempt l' s row) := by
  rw [attempt_eq, attempt_eq]
  exact .bind (unconverted_paired hP hl hs hnested row) (convertDecoded_paired hP hl hs)

/-- A step that fails for want of a column gets its default; any other failure is named. -/
theorem recover_paired (hP : P.OnRows Maps) (hl : Level.Paired P Maps l l')
    (hs : ∀ h, s.HasHook h → P.Hooks h) (f : Failure) (σ σ' : Session) (hσ : P.Pairs σ σ')
    (hf : P.Failures f σ) : P.Ends ((recover l s f).run σ) ((recover l' s f).run σ') := by
  unfold recover
  split
  · next supply _ hdefault =>
    exact hl.supply (fun _ h hs' => hs h (.default (hdefault.trans (congrArg some hs')))) hσ
  · exact .error hσ (named_allowed hP s.fieldName hf)

theorem runStep_paired (hP : P.OnRows Maps) (hl : Level.Paired P Maps l l')
    (hs : ∀ h, s.HasHook h → P.Hooks h) (hnested : ∀ m, s.strategy = .flatten (some m) → Maps m)
    (row : Value) : Paired P (runStep l s row) (runStep l' s row) :=
  .tryCatch (attempt_paired hP hl hs hnested row) (recover_paired hP hl hs)

end

/-! ## Plans -/

/-- The target made of its fields, before a refusal becomes a mismatch. -/
def assembled (l : Level) (p : DecodePlan) (values : List Value) : Run Value :=
  match p.addressing with
  | .byName =>
    if p.steps.all (·.fieldName.isSome) then l.construct p.target [] (keywordsOf p.steps values)
    else throw (Failure.wrongType "keywords must be strings")
  | .byPosition =>
    if p.target.isClass then l.construct p.target values [] else pure (.tuple values)

theorem makeTarget_eq (l : Level) (p : DecodePlan) (values : List Value) :
    makeTarget l p values = (assembled l p values).mapFailure (constructionFailure p.target) := rfl

theorem assembled_paired (hl : Level.Paired P Maps l l') (p : DecodePlan) (values : List Value) :
    Paired P (assembled l p values) (assembled l' p values) := by
  unfold assembled
  split
  · split
    · exact hl.construct _ _ _
    · exact .throw (P.fault _)
  · split
    · exact hl.construct _ _ _
    · exact .pure _

theorem makeTarget_paired (hP : P.OnRows Maps) (hl : Level.Paired P Maps l l') (p : DecodePlan)
    (values : List Value) : Paired P (makeTarget l p values) (makeTarget l' p values) := by
  rw [makeTarget_eq, makeTarget_eq]
  exact .mapFailure (assembled_paired hl p values) fun _ _ =>
    constructionFailure_allowed hP p.target

/-- **A plan is paired** on levels that are paired for the mappers nested in it, if its hooks may be
called. -/
theorem execute_paired (hP : P.OnRows Maps) (hl : Level.Paired P Maps l l') {p : DecodePlan}
    (hp : ∀ s ∈ p.steps, (∀ h, s.HasHook h → P.Hooks h) ∧
      ∀ m, s.strategy = .flatten (some m) → Maps m) (row : Value) :
    Paired P (execute l p row) (execute l' p row) := by
  refine .bind (Cell.rowOf_paired row) fun row => ?_
  refine .bind (.mapM fun s hs => ?_) (makeTarget_paired hP hl p)
  exact runStep_paired hP hl (hp s hs).1 (hp s hs).2 row

/-! ## Levels -/

theorem Level.none_paired : Level.Paired P Maps none none where
  hook _ _ _ _ := .throw (P.fault _)
  mapRow _ _ _ := .throw (P.fault _)
  construct _ _ _ := .throw (P.fault _)
  record _ _ _ _ := .throw (P.fault _)

/-- The levels above, whatever they map rows by. -/
theorem Level.above_paired (hP : P.OnRows Maps) (hl : Level.Paired P Maps l l')
    {Maps' : RowMapper → Prop} {map map' : RowMapper → ValueCall}
    (hmap : ∀ m row, Maps' m → RowDecoding.Paired P (map m row) (map' m row)) :
    Level.Paired P Maps' { l.above with mapRow := map } { l'.above with mapRow := map' } where
  hook owner h v hh := Hook.apply_paired hP hl owner h hh v
  mapRow := hmap
  construct := Instance.construct_paired hl
  record := Instance.checkRecord_paired hl

end

end RowDecoding
