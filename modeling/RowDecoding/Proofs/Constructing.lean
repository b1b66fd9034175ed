import RowDecoding.Proofs.Checking

/-!
# Instances side by side

Making an instance runs the hooks of its class, supplies defaults and checks fields, each on the
level below. Whatever the class and its arguments, it is paired if the levels below are: the hooks
come out of the session, and those of paired sessions may be called. A class of checked records looks
up the names in its fields once more, which leaves paired sessions paired.

> `construct_paired`, `checkRecord_paired`: making and checking instances are paired.
-/

namespace RowDecoding

section

variable {P : Pairing} {Maps : RowMapper → Prop} {l l' : Level}

theorem Level.Paired.check (hl : Level.Paired P Maps l l') (table : ClassTable)
    (mode : Option Bool) (s : CheckSettings) (bounds : Bounds) (t : TypeExpr) :
    Check.Paired P (l.check table mode s bounds t) (l'.check table mode s bounds t) :=
  Check.bounded_paired (hl.record mode) (s.inMode mode) bounds t

namespace Instance

variable {table : ClassTable} {info : ClassInfo} {f : FieldDeclaration}

/-! ## Fields -/

/-- What a hook says about a value becomes a verdict; any other failure of it is raised once more. -/
theorem verdictOfFailure_paired (failure : Failure) (σ σ' : Session) (hσ : P.Pairs σ σ')
    (hfailure : P.Failures failure σ) :
    P.Ends ((verdictOfFailure failure).run σ) ((verdictOfFailure failure).run σ') := by
  unfold verdictOfFailure
  split
  · exact .ok hσ _
  · exact .ok hσ _
  · split
    · exact .ok hσ _
    · exact .error hσ hfailure

theorem validated_paired (hl : Level.Paired P Maps l l') (hf : ∀ h, f.HasHook h → P.Hooks h)
    (c : ClassRef) (fit : Fit) : Paired P (validated l c f fit) (validated l' c f fit) := by
  unfold validated
  cases hvalidator : f.validator with
  | none => exact .pure _
  | some h =>
    refine .tryCatch ?_ verdictOfFailure_paired
    exact .bind (hl.hook _ h _ (hf h (.validator hvalidator))) fun _ => .pure _

theorem checkField_paired (hl : Level.Paired P Maps l l') (hf : ∀ h, f.HasHook h → P.Hooks h)
    (table : ClassTable) (mode : Option Bool) (s : CheckSettings) (c : ClassRef) :
    Check.Paired P (checkField l table mode s c f) (checkField l' table mode s c f) := by
  intro v
  refine .bind (hl.check _ _ _ _ _ v) fun verdict => ?_
  cases verdict with
  | error issues => exact .pure _
  | ok fit => exact validated_paired hl hf c fit

theorem default_paired (hl : Level.Paired P Maps l l') (hf : ∀ h, f.HasHook h → P.Hooks h)
    {supply : Supply} (hdefault : f.default = some supply) :
    Paired P (l.supply supply) (l'.supply supply) :=
  hl.supply fun _ h hs => hf h (.default (hdefault.trans (congrArg some hs)))

theorem checkDefault_paired {check check' : ValueCheck} (h : Check.Paired P check check')
    (s : CheckSettings) (v : Value) :
    Paired P (checkDefault s check v) (checkDefault s check' v) := by
  unfold checkDefault
  split
  · exact h v
  · exact .pure _

theorem checkEntry_paired (hl : Level.Paired P Maps l l') (hf : ∀ h, f.HasHook h → P.Hooks h)
    (mode : Option Bool) (s : CheckSettings) (entries : List (Value × Value)) :
    Paired P (checkEntry l table mode s info entries f)
      (checkEntry l' table mode s info entries f) := by
  have hcheck := checkField_paired hl hf table mode s info.ref
  unfold checkEntry
  dsimp only
  split
  · exact .bind (hcheck _) fun _ => .pure _
  · cases hdefault : f.default with
    | none => exact .pure _
    | some supply =>
      refine .bind (default_paired hl hf hdefault) fun v => ?_
      exact .bind (checkDefault_paired hcheck s v) fun _ => .pure _

theorem checkEntries_paired (hl : Level.Paired P Maps l l') (hinfo : ∀ h, info.HasHook h → P.Hooks h)
    (mode : Option Bool) (s : CheckSettings) (exactness : Exactness) (c : ClassRef)
    (surplus : List String → List Issue) (entries : List (Value × Value)) :
    Paired P (checkEntries l table mode s exactness c info surplus entries)
      (checkEntries l' table mode s exactness c info surplus entries) := by
  unfold checkEntries
  refine .bind (.mapM fun f hf => ?_) fun results => ?_
  · exact checkEntry_paired hl (fun h hh => hinfo h (.field (List.mem_of_mem_filter hf) hh)) _ _ _
  · dsimp only
    split <;> exact .pure _

theorem checkModelEntries_paired (hl : Level.Paired P Maps l l')
    (hinfo : ∀ h, info.HasHook h → P.Hooks h) (mode : Option Bool) (exactness : Exactness)
    (c : ClassRef) (entries : List (Value × Value)) :
    Paired P (checkModelEntries l table mode exactness c info entries)
      (checkModelEntries l' table mode exactness c info entries) := by
  unfold checkModelEntries
  exact checkEntries_paired hl hinfo _ _ _ _ _ _

theorem checkModelInput_paired (hl : Level.Paired P Maps l l')
    (hinfo : ∀ h, info.HasHook h → P.Hooks h) (mode : Option Bool) (c : ClassRef) (v : Value) :
    Paired P (checkModelInput l table mode c info v) (checkModelInput l' table mode c info v) := by
  unfold checkModelInput
  split
  · exact checkModelEntries_paired hl hinfo _ _ _ _
  · split
    · exact .pure _
    · split
      · exact checkEntries_paired hl hinfo _ _ _ _ _ _
      · exact .pure _

theorem checkModelInstance_paired (hl : Level.Paired P Maps l l')
    (hinfo : ∀ h, info.HasHook h → P.Hooks h) (mode : Option Bool) (c : ClassRef) (v : Value) :
    Paired P (checkModelInstance l table mode c info v)
      (checkModelInstance l' table mode c info v) := by
  unfold checkModelInstance
  split
  · split
    · exact checkModelEntries_paired hl hinfo _ _ _ _
    · exact .pure _
  · exact .pure _

/-! ## Making instances -/

theorem fill_paired (hl : Level.Paired P Maps l l') (bound : Bindings)
    {fields : List FieldDeclaration} (hfields : ∀ f ∈ fields, ∀ h, f.HasHook h → P.Hooks h) :
    Paired P (fill l bound fields) (fill l' bound fields) := by
  induction fields with
  | nil => exact .pure _
  | cons f rest ih =>
    have hrest := ih fun g hg => hfields g (List.mem_cons_of_mem _ hg)
    unfold fill
    split
    · exact .bind hrest fun _ => .pure _
    · next supply _ hdefault =>
      refine .bind (default_paired hl (hfields f (List.mem_cons_self ..)) hdefault) fun v => ?_
      exact .bind hrest fun _ => .pure _
    · exact hrest

theorem announce_paired (hl : Level.Paired P Maps l l') (htable : table.HooksIn P.Hooks)
    (c : ClassRef) (hookName : String) (v : Value) :
    Paired P (announce l table c hookName v) (announce l' table c hookName v) := by
  unfold announce
  split
  · next h hattribute =>
    exact .bind (hl.hook _ h v (htable.attribute? hattribute rfl)) fun _ => .pure _
  · exact .pure _

theorem makeBy_paired (hl : Level.Paired P Maps l l') (htable : table.HooksIn P.Hooks)
    {c : ClassRef} {maker : Constructor} (hmaker : (table.info c).constructor? = some maker)
    (positional : List Value) (keywords : Bindings) :
    Paired P (makeBy l table c maker positional keywords)
      (makeBy l' table c maker positional keywords) := by
  unfold makeBy
  refine .bind (.liftFault _) fun bound => ?_
  refine .bind (fill_paired hl bound fun f hf h hh => ?_) fun fields => ?_
  · exact htable.info c (.parameter hmaker hf hh)
  · dsimp only
    split
    · exact .bind (announce_paired hl htable c _ _) fun _ => .pure _
    · next h hmaking =>
      exact .bind (hl.hook _ h _ (htable.info c (.ending hmaker hmaking))) fun _ => .pure _
    · exact .pure _
    · exact .pure _

/-- A class of checked records is completed in the session before its entries are checked. -/
theorem makeModel_paired (hl : Level.Paired P Maps l l') {σ σ' : Session} (hσ : P.Pairs σ σ')
    {c : ClassRef} (hc : c.form.IsModel) (positional : List Value) (keywords : Bindings) :
    P.Ends ((makeModel l σ.classes (σ.classes.info c) positional keywords).run σ)
      ((makeModel l' σ.classes (σ.classes.info c) positional keywords).run σ') := by
  unfold makeModel
  split
  · exact .error hσ (P.fault _ _)
  · refine .lift_bind hσ fun info hcompleted => ?_
    have hinfo : ∀ h, info.HasHook h → P.Hooks h := fun h hh =>
      (P.classes hσ).info c (hasHook_of_completed hcompleted hh)
    rw [Running.run_bind_of_ok (Running.run_modify _ σ),
      Running.run_bind_of_ok (Running.run_modify _ σ')]
    refine Paired.bind (checkModelEntries_paired hl hinfo _ _ _ _) (fun verdict => ?_)
      (P.completed hσ hc hcompleted)
    cases verdict with
    | error issues => exact .throw (P.invalid issues)
    | ok fit => exact .pure _

/-- **Making an instance is paired.** -/
theorem construct_paired (hl : Level.Paired P Maps l l') (t : TypeExpr) (positional : List Value)
    (keywords : Bindings) :
    Paired P (construct l t positional keywords) (construct l' t positional keywords) := by
  unfold construct
  split
  · exact .liftFault _
  · next c _ =>
    refine .get_bind_at (fun _ _ => rfl) fun σ σ' hσ => ?_
    have htable := P.classes hσ
    unfold makeDeclared
    dsimp only
    split
    · exact Paired.liftFault _ hσ
    · next maker _ hmaker _ => exact makeBy_paired hl htable hmaker _ _ hσ
    · next v maker _ hmaker _ =>
      cases maker.making with
      | positions =>
        exact Paired.bind (makeBy_paired hl htable hmaker _ _) (fun _ => .throw (P.fault _)) hσ
      | fields => exact .error hσ (P.fault _ _)
      | written ending => exact .error hσ (P.fault _ _)
    · exact .error hσ (P.fault _ _)
    · next keys hform _ _ => exact makeModel_paired hl hσ ⟨keys, hform⟩ _ _
    · exact Paired.liftFault _ hσ
  · exact .throw (P.fault _)
  · exact .throw (P.fault _)
  · exact .throw (P.fault _)

/-! ## Checking records -/

theorem announced_paired (hl : Level.Paired P Maps l l') (htable : table.HooksIn P.Hooks)
    (c : ClassRef) (verdict : Verdict) :
    Paired P (announced l table c verdict) (announced l' table c verdict) := by
  unfold announced
  cases verdict with
  | error issues => exact .pure _
  | ok fit =>
    refine .tryCatch ?_ verdictOfFailure_paired
    exact .bind (announce_paired hl htable c _ _) fun _ => .pure _

theorem checkArgument_paired (hl : Level.Paired P Maps l l') (hf : ∀ h, f.HasHook h → P.Hooks h)
    (mode : Option Bool) (s : CheckSettings) (c : ClassRef) (positional : List Value)
    (named : List (Value × Value)) (i : Nat) :
    Paired P (checkArgument l table mode s c positional named f i)
      (checkArgument l' table mode s c positional named f i) := by
  have hcheck := checkField_paired hl hf table mode s c
  unfold checkArgument
  dsimp only
  split
  · exact .bind (hcheck _) fun _ => .pure _
  · exact .bind (hcheck _) fun _ => .pure _
  · cases hdefault : f.default with
    | none => exact .pure _
    | some supply =>
      refine .bind (default_paired hl hf hdefault) fun v => ?_
      exact .bind (checkDefault_paired hcheck s v) fun _ => .pure _

theorem checkTupleClass_paired (hl : Level.Paired P Maps l l')
    (hinfo : ∀ h, info.HasHook h → P.Hooks h) (mode : Option Bool) (s : CheckSettings)
    (c : ClassRef) :
    Check.Paired P (checkTupleClass l table mode s c info)
      (checkTupleClass l' table mode s c info) := by
  intro v
  unfold checkTupleClass
  split
  · exact .pure _
  · refine .bind (.mapM fun x hx => ?_) fun _ => ?_
    · have hf := List.fst_mem_of_mem_zipIdx hx
      exact checkArgument_paired hl (fun h hh => hinfo h (.field hf hh)) mode s c _ _ _
    · split <;> exact .pure _

/-- **Checking a record is paired.** -/
theorem checkRecord_paired (hl : Level.Paired P Maps l l') (mode : Option Bool) (s : CheckSettings)
    (c : ClassRef) : Check.Paired P (checkRecord l mode s c) (checkRecord l' mode s c) := by
  intro v
  refine .get_bind (fun _ _ => rfl) fun σ htable => ?_
  dsimp only
  cases hinfo : σ.classes.schemaOf? c with
  | none => exact .pure _
  | some info =>
    have hhooks : ∀ h, info.HasHook h → P.Hooks h := fun _ => htable.schemaOf? hinfo
    dsimp only
    split
    · exact checkTupleClass_paired hl hhooks mode s c v
    · split
      · exact checkModelInstance_paired hl hhooks mode c v
      · exact checkModelInput_paired hl hhooks mode c v
    · split
      · exact .pure _
      · split
        · exact .pure _
        · split
          · refine .bind ?_ fun _ => announced_paired hl htable c _
            exact .bind (checkEntries_paired hl hhooks _ _ _ _ _ _) fun _ => .pure _
          · exact .pure _

end Instance

end

end RowDecoding
