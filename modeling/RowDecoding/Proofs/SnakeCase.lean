import RowDecoding.Directive.Resolved
import RowDecoding.Proofs.PlainNames

/-!
# Snake case as the common form

In snake case and kebab case an identifier of ASCII characters keeps its words, in small letters,
and the other conventions with separators need no more: they write the converted identifier as they
write the identifier itself (`convert_of_canonical`).

Camel case and Pascal case have no separators, so that the words must be told apart by their
capitals. A capital starts a word behind a small letter or a digit, whatever follows it
(`splitWords_flatten`); words of one letter would leave two capitals side by side. Where every word
has two small letters in front, snake case is found again, and no two names of fields share a column
(`convert_restores`).
-/

namespace RowDecoding.Naming

open Text

variable {a : Char} {cs w : List Char} {ws : List (List Char)}

/-! ## Conventions with separators -/

namespace Convention

/-- The conventions with separators and small letters. -/
def canonical : List Convention :=
  [snakeCase, kebabCase]

/-- The conventions with separators. -/
def separated : List Convention :=
  [snakeCase, kebabCase, screamingSnakeCase, screamingKebabCase]

/-- A convention that changes the case of the words and joins them by a separator. -/
structure Joins (convention : Convention) (sep : Char) (f : List Char → List Char) : Prop where
  separator : isSeparator sep = true
  changesCase : ChangesCase f
  form : ∀ cs, convertChars cs convention = joinWith sep ((splitWords (unescape cs)).map f)

theorem exists_joins_of_canonical {convention : Convention} (h : convention ∈ canonical) :
    ∃ sep, convention.Joins sep lower := by
  rcases convention with _ | _ | _ | _ | _ | _ | _ | _
  case snakeCase => exact ⟨'_', isSeparator_underscore, lower_changesCase, fun _ => rfl⟩
  case kebabCase => exact ⟨'-', isSeparator_hyphen, lower_changesCase, fun _ => rfl⟩
  all_goals exact absurd h (by decide)

theorem exists_joins_of_separated {convention : Convention} (h : convention ∈ separated) :
    ∃ sep f, convention.Joins sep f ∧ ∀ cs, IsAscii cs → f (lower cs) = f cs := by
  have hlower : ∀ cs, IsAscii cs → lower (lower cs) = lower cs := fun cs _ => lower_lower cs
  have hupper : ∀ cs, IsAscii cs → upper (lower cs) = upper cs := fun _ => upper_lower_of_isAscii
  rcases convention with _ | _ | _ | _ | _ | _ | _ | _
  case snakeCase =>
    exact ⟨'_', lower, ⟨isSeparator_underscore, lower_changesCase, fun _ => rfl⟩, hlower⟩
  case kebabCase =>
    exact ⟨'-', lower, ⟨isSeparator_hyphen, lower_changesCase, fun _ => rfl⟩, hlower⟩
  case screamingSnakeCase =>
    exact ⟨'_', upper, ⟨isSeparator_underscore, upper_changesCase, fun _ => rfl⟩, hupper⟩
  case screamingKebabCase =>
    exact ⟨'-', upper, ⟨isSeparator_hyphen, upper_changesCase, fun _ => rfl⟩, hupper⟩
  all_goals exact absurd h (by decide)

namespace Joins

variable {first second : Convention} {sep sep' : Char} {f : List Char → List Char}

/-- No escape is read into what the convention writes. -/
theorem unescape_convertChars (h : first.Joins sep f) (cs : List Char) :
    unescape (convertChars cs first) = convertChars cs first := by
  rw [h.form, h.changesCase.unescape_joined]

/-- In small letters the words of ASCII characters are found again. -/
theorem splitWords_convertChars (h : first.Joins sep lower) (hascii : IsAscii cs) :
    splitWords (convertChars cs first) = (splitWords (unescape cs)).map lower := by
  rw [h.form]
  refine ChangesCase.splitWords_joined h.separator fun w hw => splitWords_lower hw fun c hc => ?_
  exact hascii c (mem_of_mem_unescape (mem_of_mem_splitWords hw hc).1)

/-- A convention writes an identifier and its words in small letters the same, if its letters can be
told from those. -/
theorem convertChars_convertChars (hfirst : first.Joins sep lower) (hsecond : second.Joins sep' f)
    (hf : ∀ w, IsAscii w → f (lower w) = f w) (hascii : IsAscii cs) :
    convertChars (convertChars cs first) second = convertChars cs second := by
  rw [hsecond.form, hfirst.unescape_convertChars, hfirst.splitWords_convertChars hascii,
    hsecond.form, List.map_map]
  refine congrArg (joinWith sep') (List.map_congr_left fun w hw => hf w fun c hc => ?_)
  exact hascii c (mem_of_mem_unescape (mem_of_mem_splitWords hw hc).1)

end Joins

end Convention

/-- **Snake case and kebab case are canonical.** Either keeps the words of an ASCII identifier, in
small letters, and the conventions with separators write it as they write the identifier. -/
theorem convert_of_canonical {identifier : String} {first second : Convention}
    (hfirst : first ∈ Convention.canonical) (hsecond : second ∈ Convention.separated)
    (hascii : IsAscii identifier.toList) :
    wordsOf (convert identifier first) =
        (wordsOf (unescapeIdentifier identifier)).map (fun w => String.ofList (lower w.toList)) ∧
      convert (convert identifier first) second = convert identifier second := by
  obtain ⟨sep, hfirst⟩ := Convention.exists_joins_of_canonical hfirst
  obtain ⟨sep', f, hsecond, hf⟩ := Convention.exists_joins_of_separated hsecond
  constructor
  · unfold wordsOf convert unescapeIdentifier
    rw [String.toList_ofList, String.toList_ofList, hfirst.splitWords_convertChars hascii,
      List.map_map, List.map_map]
    refine List.map_congr_left fun w _ => ?_
    rw [Function.comp_apply, Function.comp_apply, String.toList_ofList]
  · unfold convert
    rw [String.toList_ofList, hfirst.convertChars_convertChars hsecond hf hascii]

/-- An identifier with an acronym, two separators in a row, a digit and a sign. -/
theorem convert_of_canonical_parsed :
    (Convention.kebabCase ∈ Convention.canonical ∧
        Convention.screamingSnakeCase ∈ Convention.separated ∧
        IsAscii "parseHTTPBody__v2 $x".toList) ∧
      wordsOf (convert "parseHTTPBody__v2 $x" .kebabCase) =
        (wordsOf (unescapeIdentifier "parseHTTPBody__v2 $x")).map
          (fun w => String.ofList (lower w.toList)) ∧
      convert (convert "parseHTTPBody__v2 $x" .kebabCase) .screamingSnakeCase =
        convert "parseHTTPBody__v2 $x" .screamingSnakeCase := by
  have hfirst : Convention.kebabCase ∈ Convention.canonical := by decide
  have hsecond : Convention.screamingSnakeCase ∈ Convention.separated := by decide
  have hascii : IsAscii "parseHTTPBody__v2 $x".toList := by decide
  exact ⟨⟨hfirst, hsecond, hascii⟩, convert_of_canonical hfirst hsecond hascii⟩

/-! ## Words put together -/

/-- Words of letters and digits that are put together are found again if each one ends in a small
letter or a digit and each but the first starts with a capital. -/
theorem splitWords_flatten (halnum : ∀ w ∈ ws, ∀ c ∈ w, isAlphanum c = true)
    (hwhole : ∀ w ∈ ws, w ≠ [] ∧ Whole w)
    (hlast : ∀ w ∈ ws, ∀ a ∈ w.getLast?, isLower a = true ∨ isDigit a = true)
    (hfirst : ∀ w ∈ ws.tail, ∀ b ∈ w.head?, isUpper b = true) : splitWords ws.flatten = ws := by
  induction ws with
  | nil => rfl
  | cons w ws ih =>
    obtain ⟨-, halnum⟩ := List.forall_mem_cons.mp halnum
    obtain ⟨hw, hwhole⟩ := List.forall_mem_cons.mp hwhole
    obtain ⟨hwlast, hlast⟩ := List.forall_mem_cons.mp hlast
    have hword := splitWords_eq_singleton_iff.mpr hw
    cases ws with
    | nil => rw [List.flatten_singleton, hword]
    | cons v ws =>
      obtain ⟨b, v, rfl⟩ := List.exists_cons_of_ne_nil (hwhole v (List.mem_cons_self ..)).1
      have hb : isUpper b = true := hfirst (b :: v) (List.mem_cons_self ..) b rfl
      have hbalnum : isAlphanum b = true :=
        halnum (b :: v) (List.mem_cons_self ..) b (List.mem_cons_self ..)
      have hlower : isLower b = false := not_isLower_of_isUpper hbalnum hb
      have hrest := ih halnum hwhole hlast fun u hu => hfirst u (List.mem_of_mem_tail hu)
      have hends : ∀ a ∈ w.getLast?, endsBefore a b (v ++ ws.flatten).head? = true := by
        intro a ha
        rcases hwlast a ha with ha | ha <;> simp [endsBefore, startsWord, hb, ha]
      rw [List.flatten_cons] at hrest ⊢
      rw [List.flatten_cons, List.cons_append, splitWords_append_of_ends hlower w hends, hword,
        ← List.cons_append, hrest]
      rfl

/-! ## Names of fields -/

/-- A word in the name of a field: two small letters, and behind them small letters and digits. -/
def IsFieldWord : List Char → Prop
  | a :: b :: rest =>
    a.isLower = true ∧ b.isLower = true ∧ ∀ c ∈ rest, c.isLower = true ∨ c.isDigit = true
  | _ => False

instance : DecidablePred IsFieldWord
  | [] | [_] => isFalse id
  | a :: b :: rest =>
    decidable_of_iff ((a.isLower && b.isLower && rest.all fun c => c.isLower || c.isDigit) = true)
      (by simp only [IsFieldWord, Bool.and_eq_true, List.all_eq_true, Bool.or_eq_true, and_assoc])

/-- The name of a field: words joined by underscores. -/
def IsFieldName (name : String) : Prop :=
  ∃ words : List String, words ≠ [] ∧ (∀ w ∈ words, IsFieldWord w.toList) ∧
    name = "_".intercalate words

theorem joinWith_eq_intercalate (sep : Char) (ws : List (List Char)) :
    joinWith sep ws = [sep].intercalate ws := by
  induction ws with
  | nil => rfl
  | cons w ws ih =>
    cases ws with
    | nil => simp [joinWith]
    | cons v ws => rw [joinWith, ih] <;> simp

/-- Small letters and digits are letters and digits, and no capitals. -/
theorem isAlphanum_of_small (h : a.isLower = true ∨ a.isDigit = true) :
    isAlphanum a = true ∧ isUpper a = false ∧ (isLower a = true ∨ isDigit a = true) := by
  have halnum : isAlphanum a = true := by
    rw [isAlphanum_eq]
    exact Bool.or_eq_true_iff.mpr (h.imp_left fun h => Bool.or_eq_true_iff.mpr (.inr h))
  refine ⟨halnum, ?_⟩
  revert h
  exact forall_alphanum a (by decide) halnum

namespace IsFieldWord

theorem small (h : IsFieldWord w) : ∀ c ∈ w, c.isLower = true ∨ c.isDigit = true := by
  rcases w with _ | ⟨a, _ | ⟨b, rest⟩⟩
  · exact h.elim
  · exact h.elim
  · obtain ⟨ha, hb, hrest⟩ := h
    exact List.forall_mem_cons.mpr ⟨.inl ha, List.forall_mem_cons.mpr ⟨.inl hb, hrest⟩⟩

theorem alphanum (h : IsFieldWord w) : ∀ c ∈ w, isAlphanum c = true :=
  fun c hc => (isAlphanum_of_small (h.small c hc)).1

theorem not_isUpper (h : IsFieldWord w) : ∀ c ∈ w, isUpper c = false :=
  fun c hc => (isAlphanum_of_small (h.small c hc)).2.1

theorem clean (h : IsFieldWord w) : ∀ c ∈ w, isSeparator c = false :=
  fun c hc => not_isSeparator_of_isAlphanum (h.alphanum c hc)

theorem whole (h : IsFieldWord w) : w ≠ [] ∧ Whole w := by
  refine ⟨?_, whole_of_not_isUpper h.clean fun c hc => h.not_isUpper c (List.mem_of_mem_tail hc)⟩
  rintro rfl
  exact h

theorem last (h : IsFieldWord w) : ∀ a ∈ w.getLast?, isLower a = true ∨ isDigit a = true :=
  fun a ha => (isAlphanum_of_small (h.small a (List.mem_of_getLast? ha))).2.2

theorem lower_eq (h : IsFieldWord w) : lower w = w := by
  rw [lower_of_isAlphanum h.alphanum, map_toLower_of_not_isUpper h.alphanum h.not_isUpper]

/-- A word of small letters is no acronym. -/
theorem capitalize_eq (h : IsFieldWord w) (keepAcronyms : Bool) :
    capitalize keepAcronyms w = titled w := by
  refine capitalize_eq_titled h.alphanum ?_
  have hany : w.any isUpper = false := by
    rw [List.any_eq_false]
    exact fun c hc => Bool.eq_false_iff.mp (h.not_isUpper c hc)
  rw [isUpperWord, hany, Bool.false_and, Bool.and_false]

theorem titled_ne_nil (h : IsFieldWord w) : titled w ≠ [] := by
  obtain ⟨a, v, rfl⟩ := List.exists_cons_of_ne_nil h.whole.1
  exact List.cons_ne_nil _ _

theorem lower_titled (h : IsFieldWord w) : lower (titled w) = w := by
  rw [lower_of_isAlphanum (isAlphanum_titled h.alphanum), map_toLower_titled h.alphanum,
    ← lower_of_isAlphanum h.alphanum, h.lower_eq]

theorem head_titled (h : IsFieldWord w) : ∀ b ∈ (titled w).head?, isUpper b = true := by
  rcases w with _ | ⟨a, _ | ⟨b, rest⟩⟩
  · exact h.elim
  · exact h.elim
  · intro c hc
    rw [← Option.some.inj hc]
    have ha := h.alphanum a (List.mem_cons_self ..)
    have hletter := h.1
    revert hletter
    exact forall_alphanum a (by decide) ha

/-- The second letter keeps capitals apart. -/
theorem last_titled (h : IsFieldWord w) :
    ∀ a ∈ (titled w).getLast?, isLower a = true ∨ isDigit a = true := by
  rcases w with _ | ⟨a, _ | ⟨b, rest⟩⟩
  · exact h.elim
  · exact h.elim
  · intro d hd
    have hmem : d ∈ (b :: rest).map Char.toLower :=
      List.mem_of_getLast? (List.getLast?_cons_cons.symm.trans hd)
    obtain ⟨c, hc, rfl⟩ := List.mem_map.mp hmem
    obtain ⟨hdigit, hlower, -⟩ := isDigit_toLower (h.alphanum c (List.mem_cons_of_mem _ hc))
    rw [hlower, hdigit]
    cases isDigit c <;> simp

/-- As it is or capitalised, the word is a word by itself that a capital can follow. -/
theorem parted {v : List Char} (h : IsFieldWord w) (hv : v = w ∨ v = titled w) :
    (∀ c ∈ v, isAlphanum c = true) ∧ (v ≠ [] ∧ Whole v) ∧
      ∀ a ∈ v.getLast?, isLower a = true ∨ isDigit a = true := by
  rcases hv with rfl | rfl
  · exact ⟨h.alphanum, h.whole, h.last⟩
  · exact ⟨isAlphanum_titled h.alphanum, ⟨h.titled_ne_nil, whole_titled h.alphanum⟩,
      h.last_titled⟩

end IsFieldWord

/-! ## Camel case and Pascal case -/

section

variable {vs : List (List Char)}

/-- Words of fields put together, all but the first capitalised, are found again in snake case. -/
theorem convertChars_snakeCase_flatten
    (hall : ∀ v ∈ vs, ∃ w, IsFieldWord w ∧ (v = w ∨ v = titled w))
    (htail : ∀ v ∈ vs.tail, ∃ w, IsFieldWord w ∧ v = titled w) :
    convertChars vs.flatten .snakeCase = joinWith '_' (vs.map lower) := by
  have hparted := fun v hv => (hall v hv).elim fun w hw => hw.1.parted hw.2
  have hclean : ∀ c ∈ vs.flatten, isSeparator c = false := by
    intro c hc
    obtain ⟨v, hv, hmem⟩ := List.mem_flatten.mp hc
    exact not_isSeparator_of_isAlphanum ((hparted v hv).1 c hmem)
  have hsplit : splitWords vs.flatten = vs := by
    refine splitWords_flatten (fun v hv => (hparted v hv).1) (fun v hv => (hparted v hv).2.1)
      (fun v hv => (hparted v hv).2.2) fun v hv => ?_
    obtain ⟨w, hw, rfl⟩ := htail v hv
    exact hw.head_titled
  unfold convertChars
  dsimp only
  rw [unescape_of_clean hclean, hsplit]

end

section

variable (hws : ∀ w ∈ ws, IsFieldWord w)
include hws

/-- The words of a field are read off its name. -/
theorem splitWords_joinWith_fieldWords :
    unescape (joinWith '_' ws) = joinWith '_' ws ∧ splitWords (joinWith '_' ws) = ws := by
  constructor
  · refine unescape_of_getLast? fun hlast => ?_
    obtain ⟨w, hw, hmem⟩ := exists_of_getLast?_joinWith (fun w hw => (hws w hw).whole.1) hlast
    have hclean := (hws w hw).clean '_' hmem
    rw [isSeparator_underscore] at hclean
    exact Bool.noConfusion hclean
  · rw [splitWords_joinWith isSeparator_underscore, List.flatMap_def,
      List.map_congr_left fun w hw => splitWords_eq_singleton_iff.mpr (hws w hw).whole,
      ← List.flatMap_def, List.flatMap_singleton']

theorem flatMap_capitalize_fieldWords (keepAcronyms : Bool) :
    ws.flatMap (capitalize keepAcronyms) = (ws.map titled).flatten := by
  rw [List.flatMap_def, List.map_congr_left fun w hw => (hws w hw).capitalize_eq keepAcronyms]

theorem map_lower_titled : (ws.map titled).map lower = ws := by
  rw [List.map_map]
  exact (List.map_congr_left fun w hw => (hws w hw).lower_titled).trans (List.map_id ws)

/-- In Pascal case the words of a field are capitalised, and in snake case they come back. -/
theorem convertChars_pascalCase_restores :
    convertChars (convertChars (joinWith '_' ws) .pascalCase) .snakeCase = joinWith '_' ws := by
  obtain ⟨hunescape, hsplit⟩ := splitWords_joinWith_fieldWords hws
  have hpascal : convertChars (joinWith '_' ws) .pascalCase = (ws.map titled).flatten := by
    unfold convertChars
    dsimp only
    rw [hunescape, hsplit, flatMap_capitalize_fieldWords hws]
  have hall : ∀ v ∈ ws.map titled, ∃ w, IsFieldWord w ∧ v = titled w :=
    List.forall_mem_map.mpr fun w hw => ⟨w, hws w hw, rfl⟩
  rw [hpascal, convertChars_snakeCase_flatten
    (fun v hv => (hall v hv).imp fun _ hw => ⟨hw.1, .inr hw.2⟩)
    fun v hv => hall v (List.mem_of_mem_tail hv), map_lower_titled hws]

/-- In camel case the first word is as it was. -/
theorem convertChars_camelCase_restores :
    convertChars (convertChars (joinWith '_' ws) .camelCase) .snakeCase = joinWith '_' ws := by
  obtain ⟨hunescape, hsplit⟩ := splitWords_joinWith_fieldWords hws
  cases ws with
  | nil => rfl
  | cons w ws =>
    obtain ⟨hw, hws⟩ := List.forall_mem_cons.mp hws
    have hcamel : convertChars (joinWith '_' (w :: ws)) .camelCase =
        (w :: ws.map titled).flatten := by
      unfold convertChars
      dsimp only
      rw [hunescape, hsplit, camel, hw.lower_eq, flatMap_capitalize_fieldWords hws,
        List.flatten_cons]
    have htail : ∀ v ∈ ws.map titled, ∃ w, IsFieldWord w ∧ v = titled w :=
      List.forall_mem_map.mpr fun w hw => ⟨w, hws w hw, rfl⟩
    rw [hcamel, convertChars_snakeCase_flatten (List.forall_mem_cons.mpr ⟨⟨w, hw, .inl rfl⟩,
      fun v hv => (htail v hv).imp fun _ hw => ⟨hw.1, .inr hw.2⟩⟩) htail,
      List.map_cons, hw.lower_eq, map_lower_titled hws]

end

/-- **The name of a field is found again.** From camel case or Pascal case it comes back in snake
case, and so two fields with different names never share a column there. -/
theorem convert_restores {name : String} (h : IsFieldName name) {convention : Convention}
    (hconvention : convention ∈ [Convention.camelCase, .pascalCase]) :
    convert (convert name convention) .snakeCase = name ∧
      ∀ other, IsFieldName other → ∀ directives directives' : FieldDirectives,
        directives.rename = none → directives'.rename = none →
        columnName name directives ⟨some convention⟩ =
          columnName other directives' ⟨some convention⟩ → name = other := by
  have hrestores : ∀ name, IsFieldName name →
      convert (convert name convention) .snakeCase = name := by
    rintro _ ⟨words, -, hwords, rfl⟩
    have hlist : ("_".intercalate words).toList = joinWith '_' (words.map String.toList) := by
      rw [String.toList_intercalate, joinWith_eq_intercalate]
      rfl
    have hws := List.forall_mem_map.mpr hwords
    unfold convert
    rw [String.toList_ofList, hlist, ← String.toList_inj, String.toList_ofList, hlist]
    rcases List.mem_pair.mp hconvention with rfl | rfl
    · exact convertChars_camelCase_restores hws
    · exact convertChars_pascalCase_restores hws
  refine ⟨hrestores name h, fun other hother directives directives' hd hd' hcolumn => ?_⟩
  have hsame : convert name convention = convert other convention := by
    unfold columnName at hcolumn
    rwa [hd, hd'] at hcolumn
  rw [← hrestores name h, hsame, hrestores other hother]

/-- Two names that differ in where a digit's word ends. -/
theorem convert_restores_created :
    (IsFieldName "created_at2_by" ∧ IsFieldName "created_at2by" ∧
        Convention.camelCase ∈ [Convention.camelCase, .pascalCase]) ∧
      convert (convert "created_at2_by" .camelCase) .snakeCase = "created_at2_by" ∧
      columnName "created_at2_by" ⟨none, false, none, true⟩ ⟨some .camelCase⟩ ≠
        columnName "created_at2by" ⟨none, false, none, false⟩ ⟨some .camelCase⟩ := by
  have hname : IsFieldName "created_at2_by" :=
    ⟨["created", "at2", "by"], by decide, by decide, by decide⟩
  have hother : IsFieldName "created_at2by" :=
    ⟨["created", "at2by"], by decide, by decide, by decide⟩
  have hcamel : Convention.camelCase ∈ [Convention.camelCase, .pascalCase] := by decide
  obtain ⟨hrestored, hdistinct⟩ := convert_restores hname hcamel
  refine ⟨⟨hname, hother, hcamel⟩, hrestored, fun hcolumn => ?_⟩
  exact absurd (hdistinct _ hother _ _ rfl rfl hcolumn) (by decide)

end RowDecoding.Naming
