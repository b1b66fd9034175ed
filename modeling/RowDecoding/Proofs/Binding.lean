import RowDecoding.Mapping.Derive
import RowDecoding.Proofs.Assembling
import RowDecoding.Proofs.Mirroring

/-!
# Fields and parameters

The fields of a class are read off its declaration when a plan is compiled; the class is called with
their values when a row is mapped. The call binds, whatever the values are, and hands each value to
the parameter of its own field, just if the fields fit the parameters (`FitsByName`,
`FitsByPosition`). A class is called by name, or by position if its fields are those of a tuple
class.

> `bindsFields_iff`: the call for the fields of a class binds iff the fields fit.

* A plain class is read off its constructor; its fields fit just if the constructor calls the
  instance `self` and takes nothing by position only (`fits_plain_iff`).
* A class of records that is made of its own fields has them fit (`fits_record`), and so has a tuple
  class (`fits_tuple`).

A value that is given by name for a parameter that is filled by position only is refused, or it goes
to the parameter for what is left over if there is one, and is lost to its field.
-/

namespace RowDecoding

/-! ## When a call binds -/

namespace Call

/-- What positional arguments fill. -/
def placed (parameters : List Parameter) (positional : List Value) : Bindings :=
  ((parameters.filter (·.isPositional)).zip positional).map fun a => (a.1.name, a.2)

/-- The positional arguments that are left over. -/
def surplus (parameters : List Parameter) (positional : List Value) : List Value :=
  positional.drop (parameters.filter (·.isPositional)).length

/-- The parameters that take what is left over, with what they take. -/
def leftover (parameters : List Parameter) (positional : List Value) (left : Bindings) :
    Bindings :=
  ((parameters.find? (·.kind == .spread)).map fun p =>
      (p.name, Value.tuple (surplus parameters positional))).toList ++
    ((parameters.find? (·.kind == .keywordSpread)).map fun p =>
      (p.name, Value.dict (left.map fun (k, v) => (.text k, v)))).toList

variable {title : String} {parameters : List Parameter} {positional : List Value}
  {keywords : Bindings}

/-- The parameters of a sort that are required and have been given nothing. -/
def lacking (parameters : List Parameter) (bound : Bindings) : List Parameter :=
  parameters.filter fun p => p.required && !bound.any (·.1 == p.name)

theorem lacking_eq_nil {bound : Bindings} :
    lacking parameters bound = [] ↔
      ∀ p ∈ parameters, p.required = true → (bound.any fun b => b.1 == p.name) = true := by
  unfold lacking
  rw [List.filter_eq_nil_iff]
  refine forall₂_congr fun p _ => ?_
  cases p.required <;> simp

/-- A call in four steps: keyword arguments are placed, and three things are refused. -/
theorem bind_eq (title : String) (parameters : List Parameter) (positional : List Value)
    (keywords : Bindings) :
    Call.bind title parameters positional keywords =
      (placeKeywords title parameters (parameters.find? (·.kind == .keywordSpread)).isSome
        keywords keywords (placed parameters positional, []) >>= fun (bound, left) =>
          if (surplus parameters positional).isEmpty = false ∧
              (parameters.find? (·.kind == .spread)).isNone = true then
            .error (tooMany title parameters positional.length bound)
          else if (lacking (parameters.filter (·.isPositional)) bound).isEmpty = false then
            .error (missing title "positional"
              ((lacking (parameters.filter (·.isPositional)) bound).map (·.name)))
          else if (lacking (parameters.filter (·.kind == .keywordOnly)) bound).isEmpty = false then
            .error (missing title "keyword-only"
              ((lacking (parameters.filter (·.kind == .keywordOnly)) bound).map (·.name)))
          else .ok (bound ++ leftover parameters positional left)) := by
  have hkeyword : ∀ bound : Bindings, (parameters.filter fun p => p.kind == .keywordOnly &&
      (p.required && !bound.any (·.1 == p.name))) =
        lacking (parameters.filter (·.kind == .keywordOnly)) bound := by
    intro bound
    rw [lacking, List.filter_filter]
    refine List.filter_congr fun p _ => ?_
    rw [Bool.and_comm]
  unfold Call.bind
  dsimp only
  rw [← placed]
  cases hplaced : placeKeywords title parameters
    (parameters.find? (·.kind == .keywordSpread)).isSome keywords keywords
    (placed parameters positional, []) with
  | error f => rfl
  | ok z =>
    have hbind : ∀ k : Bindings × Bindings → Except Fault Bindings, (Except.ok z >>= k) = k z :=
      fun _ => rfl
    rw [hbind, hbind, hkeyword z.1]
    simp only [List.isEmpty_map, Bool.and_eq_true, Bool.not_eq_true']
    unfold leftover surplus lacking
    rw [← List.append_assoc]
    split_ifs <;> rfl

/-- Nothing required is lacking. A parameter is filled by position, by name only, or takes what is
left over. -/
theorem lacking_none_iff {bound : Bindings} :
    (lacking (parameters.filter (·.isPositional)) bound = [] ∧
      lacking (parameters.filter (·.kind == .keywordOnly)) bound = []) ↔
    ∀ p ∈ parameters, p.required = true → p.kind.isSpread = false →
      (bound.any fun b => b.1 == p.name) = true := by
  simp only [lacking_eq_nil, List.mem_filter, Parameter.isPositional]
  constructor
  · rintro ⟨hpositional, hkeyword⟩ p hp hrequired hkind
    cases h : p.kind with
    | ordinary => exact hpositional p ⟨hp, by rw [h]; rfl⟩ hrequired
    | positionalOnly => exact hpositional p ⟨hp, by rw [h]; rfl⟩ hrequired
    | keywordOnly => exact hkeyword p ⟨hp, by rw [h]; rfl⟩ hrequired
    | _ => rw [h] at hkind; cases hkind
  · intro h
    refine ⟨fun p hp hrequired => h p hp.1 hrequired ?_, fun p hp hrequired =>
      h p hp.1 hrequired ?_⟩
    · cases hkind : p.kind <;> first | rfl | (rw [hkind] at hp; exact absurd hp.2 (by decide))
    · rw [beq_iff_eq.mp hp.2]
      rfl

/-- A call binds if the keyword arguments can be placed, no positional one is left over that nothing
takes, and everything that is required has been given. -/
theorem bind_eq_ok_iff {result : Bindings} :
    Call.bind title parameters positional keywords = .ok result ↔
      ∃ bound left,
        placeKeywords title parameters (parameters.find? (·.kind == .keywordSpread)).isSome
          keywords keywords (placed parameters positional, []) = .ok (bound, left) ∧
        (surplus parameters positional = [] ∨
          (parameters.find? (·.kind == .spread)).isSome = true) ∧
        (∀ p ∈ parameters, p.required = true → p.kind.isSpread = false →
          (bound.any fun b => b.1 == p.name) = true) ∧
        result = bound ++ leftover parameters positional left := by
  rw [bind_eq, Running.bind_eq_ok]
  constructor
  · rintro ⟨⟨bound, left⟩, hplaced, h⟩
    dsimp only at h
    split at h
    · cases h
    next hsurplus =>
      split at h
      · cases h
      next hpositional =>
        split at h
        · cases h
        next hkeyword =>
          cases h
          simp only [Bool.not_eq_false, List.isEmpty_iff] at hpositional hkeyword
          refine ⟨bound, left, hplaced, ?_, lacking_none_iff.mp ⟨hpositional, hkeyword⟩, rfl⟩
          rw [not_and_or, Bool.not_eq_false, List.isEmpty_iff, Bool.not_eq_true,
            Option.isNone_eq_false_iff] at hsurplus
          exact hsurplus
  · rintro ⟨bound, left, hplaced, hsurplus, hrequired, rfl⟩
    obtain ⟨hpositional, hkeyword⟩ := lacking_none_iff.mpr hrequired
    refine ⟨(bound, left), hplaced, ?_⟩
    dsimp only
    rw [if_neg, hpositional, hkeyword, if_neg (by simp), if_neg (by simp)]
    rintro ⟨hsome, hnone⟩
    rcases hsurplus with hempty | hspread
    · rw [hempty] at hsome
      cases hsome
    · rw [Option.isNone_iff_eq_none] at hnone
      rw [hnone] at hspread
      cases hspread

/-- Keyword arguments that could be placed: what is bound was bound before or belongs to a parameter
of its name, and no such argument was bound before. -/
theorem placeKeywords_ok {keepsRest : Bool} {given : Bindings} :
    ∀ {keywords bound left bound' left' : Bindings},
      placeKeywords title parameters keepsRest given keywords (bound, left) =
        .ok (bound', left') →
      (∀ a ∈ bound', a ∈ bound ∨ a ∈ keywords ∧
        (parameters.any fun p => p.isNamed && p.name == a.1) = true) ∧
      (∀ a ∈ keywords, (parameters.any fun p => p.isNamed && p.name == a.1) = true →
        ∀ b ∈ bound, b.1 ≠ a.1) := by
  intro keywords
  induction keywords with
  | nil =>
    intro bound left bound' left' h
    cases h
    exact ⟨fun a ha => Or.inl ha, fun a ha => absurd ha List.not_mem_nil⟩
  | cons a rest ih =>
    intro bound left bound' left' h
    obtain ⟨name, v⟩ := a
    rw [placeKeywords] at h
    split at h
    next hnamed =>
      split at h
      · cases h
      next hfresh =>
        obtain ⟨hbound, hnew⟩ := ih h
        refine ⟨fun a ha => ?_, List.forall_mem_cons.mpr ⟨fun _ b hb heq => ?_,
          fun a ha hna b hb => hnew a ha hna b (List.mem_append_left _ hb)⟩⟩
        · rcases hbound a ha with ha | ⟨ha, hna⟩
          · rcases List.mem_append.mp ha with ha | ha
            · exact Or.inl ha
            · obtain rfl := List.mem_singleton.mp ha
              exact Or.inr ⟨List.mem_cons_self .., hnamed⟩
          · exact Or.inr ⟨List.mem_cons_of_mem _ ha, hna⟩
        · exact hfresh (List.any_eq_true.mpr ⟨b, hb, beq_iff_eq.mpr heq⟩)
    next hunnamed =>
      split at h
      · obtain ⟨hbound, hnew⟩ := ih h
        refine ⟨fun a ha => ?_, List.forall_mem_cons.mpr ⟨fun h => absurd h hunnamed, hnew⟩⟩
        exact (hbound a ha).imp_right (And.imp_left (List.mem_cons_of_mem _))
      · dsimp only at h
        split at h <;> cases h

end Call

/-! ## Values that are delivered -/

/-- Each value has reached the parameter with the name of its field. -/
def Delivers (bound : Bindings) (names : List String) (values : List Value) : Prop :=
  ∀ (i : Nat) name v, names[i]? = some name → values[i]? = some v → bound.lookup name = some v

theorem lookup_of_mem {β : Type} {l : List (String × β)} (hnodup : (l.map (·.1)).Nodup)
    {name : String} {v : β} (h : (name, v) ∈ l) : l.lookup name = some v := by
  obtain ⟨before, after, rfl⟩ := List.append_of_mem h
  rw [List.lookup_eq_some_iff]
  refine ⟨before, after, rfl, fun b hb => ?_⟩
  rw [List.map_append, List.map_cons, List.nodup_append] at hnodup
  exact bne_iff_ne.mpr fun heq =>
    hnodup.2.2 b.1 (List.mem_map_of_mem hb) name (List.mem_cons_self ..) heq.symm

theorem mem_zip_of_getElem? {names : List String} {values : List Value} {i : Nat} {name : String}
    {v : Value} (hname : names[i]? = some name) (hv : values[i]? = some v) :
    (name, v) ∈ names.zip values := by
  refine List.mem_of_getElem? (i := i) ?_
  rw [List.getElem?_zip_eq_some]
  exact ⟨hname, hv⟩

/-- Different numbers, by which the fields can be told apart. -/
def numbers (n : Nat) : List Value :=
  (List.range n).map fun (i : Nat) => Value.int i

theorem numbers_length (n : Nat) : (numbers n).length = n := by
  rw [numbers, List.length_map, List.length_range]

theorem getElem?_numbers {n i : Nat} (h : i < n) : (numbers n)[i]? = some (.int i) := by
  rw [numbers, List.getElem?_map, List.getElem?_range h]
  rfl

/-- A field that has received its number. -/
theorem Delivers.number {bound : Bindings} {names : List String}
    (h : Delivers bound names (numbers names.length)) {i : Nat} {name : String}
    (hname : names[i]? = some name) : bound.lookup name = some (.int i) :=
  h i name _ hname (getElem?_numbers (List.getElem?_eq_some_iff.mp hname).1)

/-- Fields that have received different numbers are different. -/
theorem Delivers.nodup {bound : Bindings} {names : List String}
    (h : Delivers bound names (numbers names.length)) : names.Nodup := by
  rw [List.nodup_iff_getElem?_ne_getElem?]
  intro i j hij hj heq
  have hname : names[j]? = some names[j] := List.getElem?_eq_getElem hj
  have hi := h.number (heq.trans hname)
  rw [h.number hname] at hi
  have hint : (j : Int) = i := Value.int.inj (Option.some.inj hi)
  omega

/-! ## Fields that fit -/

/-- Fields that a call by name can hand over: they differ from each other and from the parameter for
the instance, each is the name of a parameter that takes it, and nothing else is required. -/
structure FitsByName (receiver : String) (parameters : List Parameter) (names : List String) :
    Prop where
  nodup : (receiver :: names).Nodup
  taken : ∀ name ∈ names, ∃ p ∈ parameters, p.isNamed = true ∧ p.name = name
  given : ∀ p ∈ parameters, p.required = true → p.kind.isSpread = false → p.name ∈ receiver :: names

/-- Fields that a call by position can hand over: they are the first parameters that are filled by
position, and nothing else is required. -/
structure FitsByPosition (receiver : String) (parameters : List Parameter) (names : List String) :
    Prop where
  nodup : (receiver :: names).Nodup
  placed : names <+: (parameters.filter (·.isPositional)).map (·.name)
  given : ∀ p ∈ parameters, p.required = true → p.kind.isSpread = false → p.name ∈ receiver :: names

/-- Fields that a call can hand over. -/
def Fits : Addressing → String → List Parameter → List String → Prop
  | .byName => FitsByName
  | .byPosition => FitsByPosition

/-- The arguments that the target of a plan is called with. -/
def Plan.arguments (p : DecodePlan) (values : List Value) : List Value × Bindings :=
  match p.addressing with
  | .byName => ([], keywordsOf p.steps values)
  | .byPosition => (values, [])

/-- The parameters of a call, the one for the instance first. -/
abbrev withReceiver (receiver : String) (parameters : List Parameter) : List Parameter :=
  ⟨receiver, .ordinary, true⟩ :: parameters

/-- A call with these arguments binds and delivers the values. -/
def BindsAll (receiver : String) (parameters : List Parameter) (arguments : List Value × Bindings)
    (names : List String) (values : List Value) : Prop :=
  ∀ title, ∃ bound,
    Call.bind title (withReceiver receiver parameters) (.none :: arguments.1) arguments.2 =
      .ok bound ∧
    Delivers bound names values

section

variable {receiver : String} {parameters : List Parameter} {names : List String}
  {values : List Value}

theorem placed_withReceiver (receiver : String) (parameters : List Parameter)
    (values : List Value) :
    Call.placed (withReceiver receiver parameters) (.none :: values) =
      (receiver, .none) :: ((parameters.filter (·.isPositional)).map (·.name)).zip values := by
  rw [Call.placed, List.filter_cons_of_pos rfl, List.zip_cons_cons, List.map_cons,
    List.zip_map_left]
  rfl

theorem surplus_withReceiver (receiver : String) (parameters : List Parameter)
    (values : List Value) :
    Call.surplus (withReceiver receiver parameters) (.none :: values) =
      Call.surplus parameters values := by
  rw [Call.surplus, List.filter_cons_of_pos rfl]
  rfl

/-- What is bound holds the instance, and the values by the names of their fields. -/
theorem bindsAll_of_placed {positional : List Value} {keywords : Bindings} (left : Bindings)
    (hnodup : (receiver :: names).Nodup) (hvalues : values.length = names.length)
    (hplaced : ∀ title, Call.placeKeywords title (withReceiver receiver parameters)
      ((withReceiver receiver parameters).find? (·.kind == .keywordSpread)).isSome keywords keywords
      (Call.placed (withReceiver receiver parameters) (.none :: positional), []) =
        .ok ((receiver, .none) :: names.zip values, left))
    (hsurplus : Call.surplus parameters positional = [])
    (hgiven : ∀ p ∈ parameters, p.required = true → p.kind.isSpread = false →
      p.name ∈ receiver :: names) :
    BindsAll receiver parameters (positional, keywords) names values := by
  intro title
  have hkeys : ((receiver, Value.none) :: names.zip values).map (·.1) = receiver :: names := by
    rw [List.map_cons, List.map_fst_zip (Nat.le_of_eq hvalues.symm)]
  refine ⟨_, Call.bind_eq_ok_iff.mpr ⟨_, _, hplaced title, Or.inl ?_, ?_, rfl⟩, ?_⟩
  · rw [surplus_withReceiver]
    exact hsurplus
  · intro p hp hrequired hkind
    have hname : p.name ∈ receiver :: names := by
      rcases List.mem_cons.mp hp with rfl | hp
      · exact List.mem_cons_self ..
      · exact hgiven p hp hrequired hkind
    rw [← hkeys] at hname
    obtain ⟨b, hb, hname⟩ := List.mem_map.mp hname
    exact List.any_eq_true.mpr ⟨b, hb, beq_iff_eq.mpr hname⟩
  · intro i name v hname hv
    rw [List.lookup_append, lookup_of_mem (hkeys ▸ hnodup)
      (List.mem_cons_of_mem _ (mem_zip_of_getElem? hname hv))]
    rfl

/-- No number is left over. -/
theorem not_mem_leftover_int {positional : List Value} {left : Bindings} {name : String} {n : Int} :
    (name, Value.int n) ∉ Call.leftover parameters positional left := by
  unfold Call.leftover
  rw [List.mem_append, Option.mem_toList, Option.mem_toList, Option.map_eq_some_iff,
    Option.map_eq_some_iff]
  rintro (⟨p, -, h⟩ | ⟨p, -, h⟩) <;> cases h

/-- Values that are paired with more names than there are values. -/
theorem zip_of_isPrefix {places : List String} (h : names <+: places)
    (hvalues : values.length = names.length) : places.zip values = names.zip values := by
  obtain ⟨rest, rfl⟩ := h
  have happend : (names ++ rest).zip (values ++ []) = names.zip values ++ rest.zip [] :=
    List.zip_append hvalues.symm
  rwa [List.append_nil, List.zip_nil_right, List.append_nil] at happend

/-! ### Calls by name -/

theorem mem_put {attributes : Attributes} {name : String} {v : Value} {a : String × Value}
    (h : a ∈ attributes.put name v) : a ∈ attributes ∨ a.1 = name := by
  induction attributes with
  | nil => exact Or.inr (by rw [List.mem_singleton.mp h])
  | cons b rest ih =>
    rw [Attributes.put] at h
    split at h
    next heq =>
      rcases List.mem_cons.mp h with rfl | h
      · exact Or.inr (beq_iff_eq.mp heq)
      · exact Or.inl (List.mem_cons_of_mem _ h)
    next =>
      rcases List.mem_cons.mp h with rfl | h
      · exact Or.inl (List.mem_cons_self ..)
      · exact (ih h).imp_left (List.mem_cons_of_mem _)

/-- Keyword arguments are named by fields. -/
theorem name_of_mem_keywordsOf {steps : List DecodeStep}
    (hnames : steps.map (·.fieldName) = names.map some) {a : String × Value}
    (h : a ∈ keywordsOf steps values) : a.1 ∈ names := by
  have hfold : ∀ (l : List (DecodeStep × Value)) (bound : Bindings),
      (∀ x ∈ l, x.1 ∈ steps) → (∀ b ∈ bound, b.1 ∈ names) →
      ∀ b ∈ l.foldl (fun bound x => Attributes.put bound (x.1.fieldName.getD "") x.2) bound,
        b.1 ∈ names := by
    intro l
    induction l with
    | nil => exact fun _ _ hbound => hbound
    | cons x l ih =>
      intro bound hl hbound
      refine ih _ (fun y hy => hl y (List.mem_cons_of_mem _ hy)) fun b hb => ?_
      rcases mem_put hb with hb | hb
      · exact hbound b hb
      · have hfield : x.1.fieldName ∈ names.map some :=
          hnames ▸ List.mem_map_of_mem (hl x (List.mem_cons_self ..))
        obtain ⟨name, hname, heq⟩ := List.mem_map.mp hfield
        rw [hb, ← heq]
        exact hname
  exact hfold _ [] (fun x hx => (List.of_mem_zip hx).1) (fun b hb => absurd hb List.not_mem_nil) a h

/-- Fields with different names give one keyword argument each, in order. -/
theorem keywordsOf_eq_zip {steps : List DecodeStep}
    (hnames : steps.map (·.fieldName) = names.map some) (hnodup : names.Nodup)
    (hvalues : values.length = names.length) : keywordsOf steps values = names.zip values := by
  have hfold : ∀ (names : List String) (steps : List DecodeStep) (values : List Value)
      (bound : Bindings), steps.map (·.fieldName) = names.map some →
      values.length = names.length → (bound.map (·.1) ++ names).Nodup →
      (steps.zip values).foldl (fun bound x => Attributes.put bound (x.1.fieldName.getD "") x.2)
        bound = bound ++ names.zip values := by
    intro names
    induction names with
    | nil =>
      intro steps values bound hnames _ _
      obtain rfl := List.map_eq_nil_iff.mp hnames
      exact (List.append_nil bound).symm
    | cons name names ih =>
      intro steps values bound hnames hvalues hnodup
      obtain ⟨v, values, rfl⟩ := List.exists_cons_of_length_eq_add_one hvalues
      obtain ⟨s, steps, rfl, hs, hrest⟩ := List.map_eq_cons_iff.mp hnames
      have hnew : name ∉ bound.map (·.1) := fun hmem =>
        (List.nodup_append.mp hnodup).2.2 name hmem name (List.mem_cons_self ..) rfl
      rw [List.zip_cons_cons, List.zip_cons_cons, List.foldl_cons, hs, Option.getD_some,
        Attributes.put_new hnew,
        ih steps values _ hrest (Nat.succ.inj hvalues) (by simpa using hnodup), List.append_assoc]
      rfl
  exact hfold names steps values [] hnames hvalues hnodup

theorem bindsAll_byName_iff {steps : List DecodeStep}
    (hnames : steps.map (·.fieldName) = names.map some) :
    (∀ values : List Value, values.length = names.length →
      BindsAll receiver parameters ([], keywordsOf steps values) names values) ↔
      FitsByName receiver parameters names := by
  constructor
  · intro h
    obtain ⟨result, hbind, hdelivers⟩ := h (numbers names.length) (numbers_length _) ""
    obtain ⟨bound, left, hplaced, -, hrequired, rfl⟩ := Call.bind_eq_ok_iff.mp hbind
    obtain ⟨hbound, hnew⟩ := Call.placeKeywords_ok hplaced
    rw [placed_withReceiver, List.zip_nil_right] at hbound hnew
    -- A number is not the instance and not what is left over, so it came by keyword.
    have hkeyword : ∀ (i : Nat) name, names[i]? = some name →
        (name, Value.int i) ∈ keywordsOf steps (numbers names.length) ∧
          ((withReceiver receiver parameters).any fun p => p.isNamed && p.name == name) = true := by
      intro i name hname
      have hmem := mem_of_lookup (hdelivers.number hname)
      rcases List.mem_append.mp hmem with hmem | hmem
      · rcases hbound _ hmem with hmem | hmem
        · cases List.mem_singleton.mp hmem
        · exact hmem
      · exact absurd hmem not_mem_leftover_int
    have hfresh : receiver ∉ names := by
      intro hmem
      obtain ⟨i, hi⟩ := List.mem_iff_getElem?.mp hmem
      obtain ⟨hmem, hnamed⟩ := hkeyword i receiver hi
      exact hnew _ hmem hnamed _ (List.mem_cons_self ..) rfl
    refine ⟨List.nodup_cons.mpr ⟨hfresh, hdelivers.nodup⟩, fun name hmem => ?_,
      fun p hp hreq hkind => ?_⟩
    · obtain ⟨i, hi⟩ := List.mem_iff_getElem?.mp hmem
      obtain ⟨p, hp, hnamed⟩ := List.any_eq_true.mp (hkeyword i name hi).2
      rw [Bool.and_eq_true, beq_iff_eq] at hnamed
      rcases List.mem_cons.mp hp with rfl | hp
      · exact absurd (show receiver ∈ names from (show receiver = name from hnamed.2) ▸ hmem) hfresh
      · exact ⟨p, hp, hnamed⟩
    · obtain ⟨b, hb, hname⟩ :=
        List.any_eq_true.mp (hrequired p (List.mem_cons_of_mem _ hp) hreq hkind)
      rw [← beq_iff_eq.mp hname]
      rcases hbound b hb with hb | ⟨hb, -⟩
      · rw [List.mem_singleton.mp hb]
        exact List.mem_cons_self ..
      · exact List.mem_cons_of_mem _ (name_of_mem_keywordsOf hnames hb)
  · intro h values hvalues
    rw [keywordsOf_eq_zip hnames (List.nodup_cons.mp h.nodup).2 hvalues]
    refine bindsAll_of_placed [] h.nodup hvalues (fun title => ?_) List.drop_nil h.given
    rw [placed_withReceiver, List.zip_nil_right]
    have hkeys : ([(receiver, Value.none)] ++ names.zip values).map (·.1) =
        receiver :: names := by
      rw [List.map_append, List.map_fst_zip (Nat.le_of_eq hvalues.symm)]
      rfl
    refine placeKeywords_named (fun a ha => ?_) (hkeys ▸ h.nodup)
    obtain ⟨p, hp, hnamed, hname⟩ := h.taken a.1 (List.of_mem_zip ha).1
    refine List.any_eq_true.mpr ⟨p, List.mem_cons_of_mem _ hp, ?_⟩
    rw [hnamed, hname, beq_self_eq_true]
    rfl

/-! ### Calls by position -/

theorem bindsAll_byPosition_iff :
    (∀ values : List Value, values.length = names.length →
      BindsAll receiver parameters (values, []) names values) ↔
      FitsByPosition receiver parameters names := by
  constructor
  · intro h
    obtain ⟨result, hbind, hdelivers⟩ := h (numbers names.length) (numbers_length _) ""
    obtain ⟨bound, left, hplaced, -, hrequired, rfl⟩ := Call.bind_eq_ok_iff.mp hbind
    rw [placed_withReceiver, Call.placeKeywords] at hplaced
    cases hplaced
    -- A number is not the instance and not what is left over, so it stands where it was given.
    have hplace : ∀ (i : Nat) name, names[i]? = some name → name ≠ receiver ∧
        ((parameters.filter (·.isPositional)).map (·.name))[i]? = some name := by
      intro i name hname
      have hlookup := hdelivers.number hname
      refine ⟨?_, ?_⟩
      · rintro rfl
        rw [List.cons_append, List.lookup_cons_self] at hlookup
        cases hlookup
      · rcases List.mem_append.mp (mem_of_lookup hlookup) with hmem | hmem
        · rcases List.mem_cons.mp hmem with heq | hmem
          · cases heq
          · obtain ⟨j, hj⟩ := List.mem_iff_getElem?.mp hmem
            obtain ⟨hplace, hnumber⟩ := List.getElem?_zip_eq_some.mp hj
            have hj : j < names.length := by
              have := (List.getElem?_eq_some_iff.mp hnumber).1
              rwa [numbers_length] at this
            rw [getElem?_numbers hj] at hnumber
            have hint : (j : Int) = i := Value.int.inj (Option.some.inj hnumber)
            obtain rfl : j = i := by omega
            exact hplace
        · exact absurd hmem not_mem_leftover_int
    have hfresh : receiver ∉ names := by
      intro hmem
      obtain ⟨i, hi⟩ := List.mem_iff_getElem?.mp hmem
      exact (hplace i receiver hi).1 rfl
    have hprefix : names <+: (parameters.filter (·.isPositional)).map (·.name) := by
      rw [List.prefix_iff_getElem?]
      exact fun i hi => (hplace i _ (List.getElem?_eq_getElem hi)).2
    refine ⟨List.nodup_cons.mpr ⟨hfresh, hdelivers.nodup⟩, hprefix, fun p hp hreq hkind => ?_⟩
    obtain ⟨b, hb, hname⟩ :=
      List.any_eq_true.mp (hrequired p (List.mem_cons_of_mem _ hp) hreq hkind)
    rw [← beq_iff_eq.mp hname]
    rw [zip_of_isPrefix hprefix (numbers_length _)] at hb
    rcases List.mem_cons.mp hb with rfl | hb
    · exact List.mem_cons_self ..
    · exact List.mem_cons_of_mem _ (List.of_mem_zip hb).1
  · intro h values hvalues
    have hcount : values.length ≤ (parameters.filter (·.isPositional)).length := by
      have := h.placed.length_le
      rwa [List.length_map, ← hvalues] at this
    refine bindsAll_of_placed [] h.nodup hvalues (fun title => ?_)
      (List.drop_eq_nil_of_le hcount) h.given
    rw [placed_withReceiver, zip_of_isPrefix h.placed hvalues, Call.placeKeywords]

end

/-! ## Classes -/

/-- The parameters that a class is called with: the one for the instance, and the others. There are
none where something else stands in the place of the constructor, or nothing does. -/
def ClassTable.callable? (table : ClassTable) (c : ClassRef) : Option (String × List Parameter) :=
  match (table.info c).replaced, (table.info c).constructor?, c.form with
  | none, some maker, _ => some (maker.receiver, maker.signature)
  | none, none, .extension .uuid => some ("self", Instance.uuidParameters.tail)
  | _, _, _ => none

/-- The call for the fields of a class, whose values these are, binds and delivers the values. -/
def ClassTable.BindsFields (table : ClassTable) (c : ClassRef) (p : DecodePlan)
    (values : List Value) : Prop :=
  ∃ receiver parameters, table.callable? c = some (receiver, parameters) ∧
    BindsAll receiver parameters (p.arguments values) (table.fieldNames c) values

/-- The fields of a class fit the parameters that it is called with. -/
def ClassTable.FitsFields (table : ClassTable) (c : ClassRef) (addressing : Addressing) : Prop :=
  ∃ receiver parameters, table.callable? c = some (receiver, parameters) ∧
    Fits addressing receiver parameters (table.fieldNames c)

/-- A plan for the fields of a schema. -/
structure Plan.Covers {M : Type} (p : Plan M) (schema : Schema) : Prop where
  target : p.target = schema.target
  addressing : p.addressing = schema.addressing
  names : p.steps.map (·.fieldName) = schema.fields.map (·.name)

/-- A compiled plan is one for the fields of its target. -/
theorem covers_of_build {q : Lookups Compile} {table : ClassTable} {target : TypeExpr}
    {overrides : Overrides} {r r' : Registry} {p : DecodePlan}
    (built : (Compile.buildWith q table target overrides).run r = (.ok p, r')) {schema : Schema}
    (hschema : introspect table target = .ok schema) : p.Covers schema := by
  obtain ⟨schema', container, hschema', htarget, haddressing, hall⟩ :=
    Compile.buildWith_ok (buildWith_possible built)
  rw [hschema] at hschema'
  cases hschema'
  refine ⟨htarget, haddressing, ?_⟩
  have hnames : List.Forall₂ (fun s f => s = f) (p.steps.map (·.fieldName))
      (schema.fields.map (·.name)) := by
    rw [List.forall₂_map_left_iff, List.forall₂_map_right_iff]
    refine hall.flip.imp fun s f hstep => ?_
    obtain ⟨directives, -, -, hmade⟩ := hstep
    obtain ⟨-, -, -, hs⟩ := Compile.stepOf_ok.mp hmade
    exact congrArg (·.fieldName) hs
  exact List.forall₂_eq_eq_eq ▸ hnames

variable {table : ClassTable} {c : ClassRef}

/-- The target of a plan for a class is made by a call of the class with the arguments of the
plan. -/
theorem makeTarget_call {p : DecodePlan} {names : List String} (htarget : p.target = .declared c)
    (hnames : p.steps.map (·.fieldName) = names.map some) (l : Level) (values : List Value) :
    makeTarget l p values =
      (l.construct (.declared c) (p.arguments values).1 (p.arguments values).2).mapFailure
        (constructionFailure (.declared c)) := by
  have hnamed : p.steps.all (·.fieldName.isSome) = true := by
    rw [List.all_eq_true]
    intro s hs
    have hname : s.fieldName ∈ names.map some := hnames ▸ List.mem_map_of_mem hs
    obtain ⟨name, -, hname⟩ := List.mem_map.mp hname
    rw [← hname]
    rfl
  unfold makeTarget Plan.arguments
  rw [htarget]
  cases p.addressing with
  | byName =>
    dsimp only
    rw [if_pos hnamed]
  | byPosition => rfl

/-- **Fields reach their parameters just if they fit.** Take a class with a schema and a plan for
its fields. Whatever values the steps give, the call of the class binds, without a missing, an
unexpected or a doubled argument, and each value reaches the parameter of its own field: just if the
class can be called and its fields fit the parameters. -/
theorem bindsFields_iff {schema : Schema} (hschema : introspect table (.declared c) = .ok schema)
    {p : DecodePlan} (hp : p.Covers schema) :
    (∀ values : List Value, values.length = p.steps.length → table.BindsFields c p values) ↔
      table.FitsFields c p.addressing := by
  have hnames : p.steps.map (·.fieldName) = (table.fieldNames c).map some :=
    hp.names.trans (introspect_ordered hschema).names
  have hlength : p.steps.length = (table.fieldNames c).length := by
    have := congrArg List.length hnames
    rwa [List.length_map, List.length_map] at this
  have hfits : ∀ receiver parameters,
      (∀ values : List Value, values.length = p.steps.length →
        BindsAll receiver parameters (p.arguments values) (table.fieldNames c) values) ↔
      Fits p.addressing receiver parameters (table.fieldNames c) := by
    intro receiver parameters
    rw [hlength]
    unfold Plan.arguments
    cases p.addressing with
    | byName => exact bindsAll_byName_iff hnames
    | byPosition => exact bindsAll_byPosition_iff
  constructor
  · intro h
    obtain ⟨receiver, parameters, hcall, -⟩ := h (numbers p.steps.length) (numbers_length _)
    refine ⟨receiver, parameters, hcall, (hfits receiver parameters).mp fun values hvalues => ?_⟩
    obtain ⟨receiver', parameters', hcall', hbinds⟩ := h values hvalues
    rw [hcall] at hcall'
    cases hcall'
    exact hbinds
  · rintro ⟨receiver, parameters, hcall, hfit⟩ values hvalues
    exact ⟨receiver, parameters, hcall, (hfits receiver parameters).mpr hfit values hvalues⟩

/-! ### Which classes have fields that fit -/

section

variable {maker : Constructor}

theorem callable?_of_maker (hreplaced : (table.info c).replaced = none)
    (hmaker : (table.info c).constructor? = some maker) :
    table.callable? c = some (maker.receiver, maker.signature) := by
  unfold ClassTable.callable?
  rw [hreplaced, hmaker]

/-- Whether a parameter takes keyword arguments depends on the way it is filled. -/
theorem isNamed_of_kind {p : Parameter} (hspread : p.kind.isSpread = false)
    (hkind : p.kind ≠ .positionalOnly) : p.isNamed = true := by
  unfold Parameter.isNamed
  cases h : p.kind with
  | ordinary | keywordOnly => rfl
  | positionalOnly => exact absurd h hkind
  | _ => rw [h] at hspread; cases hspread

/-- The fields of a class with a constructor fit by name just if they fit the constructor. -/
theorem fitsFields_byName_iff (hreplaced : (table.info c).replaced = none)
    (hmaker : (table.info c).constructor? = some maker) :
    table.FitsFields c .byName ↔
      FitsByName maker.receiver maker.signature (table.fieldNames c) := by
  unfold ClassTable.FitsFields
  rw [callable?_of_maker hreplaced hmaker]
  constructor
  · rintro ⟨receiver, parameters, heq, h⟩
    cases heq
    exact h
  · exact fun h => ⟨_, _, rfl, h⟩

/-- With the instance called `self`, the fields are all parameters but those for what is left
over. -/
theorem Constructor.fieldNames_of_self
    (hnodup : (maker.receiver :: maker.parameters.map (·.name)).Nodup)
    (hself : maker.receiver = "self") : maker.fieldNames =
      (maker.parameters.filter fun f => !f.kind.isSpread).map (·.name) := by
  unfold Constructor.fieldNames
  rw [hself, if_pos (beq_self_eq_true _), List.nil_append]
  congr 1
  refine List.filter_congr fun f hf => ?_
  have hne : f.name ≠ "self" := fun heq =>
    (List.nodup_cons.mp hnodup).1 (hself ▸ heq ▸ List.mem_map_of_mem hf)
  rw [bne_iff_ne.mpr hne, Bool.true_and]

/-- **Plain classes.** The fields of a class that is read off its constructor fit just if the
constructor calls the instance `self` and has no parameter that is filled by position only. -/
theorem fits_plain_iff (hschema : table.schemaOf? c = none)
    (hreplaced : (table.info c).replaced = none)
    (hmaker : (table.info c).constructor? = some maker)
    (htaken : ∀ f ∈ maker.parameters, f.inConstructor = true)
    (hnodup : (maker.receiver :: maker.parameters.map (·.name)).Nodup) :
    table.FitsFields c .byName ↔
      maker.receiver = "self" ∧ ∀ f ∈ maker.parameters, f.kind ≠ .positionalOnly := by
  have hnames : table.fieldNames c = maker.fieldNames := by
    unfold ClassTable.fieldNames ClassInfo.constructorNames
    rw [hschema, hreplaced, hmaker]
  have hall : maker.taken = maker.parameters := List.filter_eq_self.mpr htaken
  have hfields := Constructor.fieldNames_of_self hnodup
  rw [fitsFields_byName_iff hreplaced hmaker, hnames]
  constructor
  · intro h
    have hself : maker.receiver = "self" := by
      by_contra hne
      refine (List.nodup_cons.mp h.nodup).1 ?_
      unfold Constructor.fieldNames
      rw [beq_eq_false_iff_ne.mpr hne]
      exact List.mem_cons_self ..
    refine ⟨hself, fun f hf hkind => ?_⟩
    have hname : f.name ∈ maker.fieldNames := by
      rw [hfields hself]
      exact List.mem_map_of_mem (List.mem_filter.mpr ⟨hf, by rw [hkind]; rfl⟩)
    obtain ⟨p, hp, hnamed, hpname⟩ := h.taken _ hname
    obtain ⟨g, hg, rfl⟩ := Constructor.mem_signature.mp hp
    rw [hall] at hg
    obtain rfl := List.inj_on_of_nodup_map (List.nodup_cons.mp hnodup).2 hg hf hpname
    unfold Parameter.isNamed at hnamed
    rw [hkind] at hnamed
    cases hnamed
  · rintro ⟨hself, hkinds⟩
    have hsub : (maker.receiver :: maker.fieldNames).Sublist
        (maker.receiver :: maker.parameters.map (·.name)) := by
      rw [hfields hself]
      exact List.Sublist.cons_cons _ (List.filter_sublist.map _)
    refine ⟨hnodup.sublist hsub, fun name hname => ?_, fun p hp _ hspread => ?_⟩
    · rw [hfields hself] at hname
      obtain ⟨f, hf, rfl⟩ := List.mem_map.mp hname
      obtain ⟨hf, hspread⟩ := List.mem_filter.mp hf
      refine ⟨_, Constructor.mem_signature.mpr ⟨f, hall ▸ hf, rfl⟩, ?_, rfl⟩
      exact isNamed_of_kind (by simpa using hspread) (hkinds f hf)
    · obtain ⟨f, hf, rfl⟩ := Constructor.mem_signature.mp hp
      rw [hfields hself]
      refine List.mem_cons_of_mem _ (List.mem_map_of_mem (List.mem_filter.mpr ⟨hall ▸ hf, ?_⟩))
      simpa using hspread

/-- **Classes of records.** The fields of a class that is made of its own fields fit: each of them
is a parameter that is filled by name. -/
theorem fits_record {info : ClassInfo} {keys : KeyUse} (hschema : table.schemaOf? c = some info)
    (hform : info.ref.form = .dataclass keys) (hreplaced : (table.info c).replaced = none)
    (hmaker : (table.info c).constructor? = some maker) (hfields : maker.parameters = info.fields)
    (hkinds : ∀ f ∈ maker.taken, f.kind = .ordinary ∨ f.kind = .keywordOnly)
    (hnodup : (maker.receiver :: maker.taken.map (·.name)).Nodup) :
    table.FitsFields c .byName := by
  have hnames : table.fieldNames c = maker.taken.map (·.name) := by
    unfold ClassTable.fieldNames
    rw [hschema]
    show info.ownNames = _
    unfold ClassInfo.ownNames
    rw [hform, Constructor.taken, hfields]
  refine ⟨_, _, callable?_of_maker hreplaced hmaker, ?_⟩
  rw [hnames]
  refine ⟨hnodup, fun name hname => ?_, fun p hp _ _ => ?_⟩
  · obtain ⟨f, hf, rfl⟩ := List.mem_map.mp hname
    refine ⟨_, Constructor.mem_signature.mpr ⟨f, hf, rfl⟩, ?_, rfl⟩
    unfold Parameter.isNamed
    dsimp only
    rcases hkinds f hf with hkind | hkind <;> rw [hkind] <;> rfl
  · obtain ⟨f, hf, rfl⟩ := Constructor.mem_signature.mp hp
    exact List.mem_cons_of_mem _ (List.mem_map_of_mem (f := (·.name)) hf)

/-- **Tuple classes.** The fields of a tuple class fit: they are the parameters in order. -/
theorem fits_tuple {info : ClassInfo} (hschema : table.schemaOf? c = some info)
    (hform : info.ref.form = .namedTuple) (hreplaced : (table.info c).replaced = none)
    (hmaker : (table.info c).constructor? = some maker) (hmaking : maker.making = .positions)
    (hfields : maker.parameters = info.fields)
    (hkinds : ∀ f ∈ maker.parameters, f.inConstructor = true ∧ f.kind = .ordinary)
    (hnodup : (maker.receiver :: maker.parameters.map (·.name)).Nodup) :
    table.FitsFields c .byPosition := by
  have hnames : table.fieldNames c = maker.parameters.map (·.name) := by
    unfold ClassTable.fieldNames
    rw [hschema]
    show info.ownNames = _
    unfold ClassInfo.ownNames
    rw [hform, hfields]
  have htaken : maker.taken = maker.parameters :=
    List.filter_eq_self.mpr fun f hf => (hkinds f hf).1
  have hsignature : maker.signature.map (·.name) = maker.parameters.map (·.name) := by
    rw [← htaken]
    unfold Constructor.signature
    rw [hmaking]
    dsimp only
    rw [List.map_map]
    rfl
  have hplaces : maker.signature.filter (·.isPositional) = maker.signature := by
    refine List.filter_eq_self.mpr fun p hp => ?_
    obtain ⟨f, hf, rfl⟩ := Constructor.mem_signature.mp hp
    rw [htaken] at hf
    unfold Parameter.isPositional
    dsimp only
    rw [(hkinds f hf).2]
    rfl
  have hpositional : (maker.signature.filter (·.isPositional)).map (·.name) =
      maker.parameters.map (·.name) := by
    rw [hplaces, hsignature]
  refine ⟨_, _, callable?_of_maker hreplaced hmaker, ?_⟩
  rw [hnames]
  refine ⟨hnodup, ?_, fun p hp _ _ => ?_⟩
  · exact hpositional ▸ List.prefix_refl _
  · rw [← hsignature]
    exact List.mem_cons_of_mem _ (List.mem_map_of_mem hp)

end

/-! ## A constructor that takes a field by position only -/

namespace PositionalOnly

/-- A class that is read off its constructor. -/
def point : ClassRef := ⟨"Point", 1, .plain⟩

/-- Classes with a `point` whose first parameter is filled in this way, and the second one by
position or by name. -/
def classes (kind : ParameterKind) : ClassTable :=
  let declaration : Declaration :=
    ⟨.plain, "Point", none, [{ FieldDeclaration.given "x" (.builtin .int) with kind },
      .given "y" (.builtin .int)], none, [], [], .standard, [], "self"⟩
  ((Derive.declare declaration none).run (Session.create [])).2.classes

/-- Compiles `point` in a new registry. -/
def compile (kind : ParameterKind) : Except Failure DecodePlan × Registry :=
  (Compile.buildWith (Compile.answers (classes kind)) (classes kind) (.declared point)
    Overrides.none).run (Registry.create "main" .standard)

/-- Whether `point` compiles and a call with two values is refused. -/
def refused (kind : ParameterKind) : Bool :=
  match (compile kind).1, (classes kind).callable? point with
  | .ok p, some (receiver, parameters) =>
    let arguments := p.arguments [.int 1, .int 2]
    p.steps.length == 2 &&
      !(Call.bind "Point.__init__()" (withReceiver receiver parameters) (.none :: arguments.1)
        arguments.2).isOk
  | _, _ => false

/-- A `point` whose first parameter is filled by position only compiles, and the call for its fields
does not bind. -/
theorem point_refused : ∃ p r' values,
    (Compile.buildWith (Compile.answers (classes .positionalOnly)) (classes .positionalOnly)
      (.declared point) Overrides.none).run (Registry.create "main" .standard) = (.ok p, r') ∧
    values.length = p.steps.length ∧
    ¬(classes .positionalOnly).BindsFields point p values := by
  have hrefused : refused .positionalOnly = true := by decide +kernel
  unfold refused at hrefused
  rcases hrun : compile .positionalOnly with ⟨_ | p, r'⟩
  · rw [hrun] at hrefused
    cases hrefused
  · rw [hrun] at hrefused
    refine ⟨p, r', [.int 1, .int 2], hrun, ?_, ?_⟩
    · split at hrefused
      next hp _ =>
        cases hp
        rw [Bool.and_eq_true, beq_iff_eq] at hrefused
        exact hrefused.1.symm
      next => cases hrefused
    · rintro ⟨receiver, parameters, hcall, hbinds⟩
      rw [hcall] at hrefused
      obtain ⟨bound, hbound, -⟩ := hbinds "Point.__init__()"
      dsimp only at hrefused
      rw [hbound, Bool.and_eq_true] at hrefused
      cases hrefused.2

/-- The constructor of a `point` with two parameters that are filled by position or by name. -/
def maker : Constructor :=
  ⟨"Point", .written none, "self", [FieldDeclaration.given "x" (.builtin .int),
    FieldDeclaration.given "y" (.builtin .int)]⟩

/-- A `point` without such a parameter is made of any two values. -/
theorem bindsFields_point : ∃ p r', compile .ordinary = (.ok p, r') ∧
    ∀ values : List Value, values.length = p.steps.length →
      (classes .ordinary).BindsFields point p values := by
  have hchecks : ((compile .ordinary).1.toOption.any (·.addressing == .byName) &&
      (introspect (classes .ordinary) (.declared point)).isOk &&
      ((classes .ordinary).schemaOf? point).isNone) = true := by
    decide +kernel
  simp only [Bool.and_eq_true, Option.isNone_iff_eq_none] at hchecks
  obtain ⟨⟨hcompiled, hintrospected⟩, hschema⟩ := hchecks
  have hmaker : ((classes .ordinary).info point).constructor? = some maker := by rfl
  have hfits : (classes .ordinary).FitsFields point .byName := by
    refine (fits_plain_iff hschema rfl hmaker ?_ ?_).mpr ⟨rfl, ?_⟩
    · decide
    · decide
    · decide
  obtain ⟨p, r', hrun, haddressing⟩ := Running.exists_of_test hcompiled
  have hread := Running.eq_ok_of_isOk hintrospected
  exact ⟨p, r', hrun, (bindsFields_iff hread (covers_of_build hrun hread)).mpr
    (eq_of_beq haddressing ▸ hfits)⟩

end PositionalOnly

end RowDecoding
