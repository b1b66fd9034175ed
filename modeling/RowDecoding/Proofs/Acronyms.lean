import RowDecoding.Proofs.PlainNames

/-!
# Acronyms in camel case and Pascal case

A word of letters is a run of capitals, or one capital before small letters, or small letters only,
and only the first word of an identifier without separators can be of the last kind. A run of
capitals is kept there, and so Pascal case leaves an identifier of letters as it is written, up to
its first character (`Joined.convertChars_pascalCase`). With separators the words of an identifier
come out recased, each to one capital before small letters. Either way the letters stay the same, in
their order (`convert_letters`).
-/

namespace RowDecoding.Naming

open Text

variable {c : Char} {cs w : List Char} {ws : List (List Char)}

/-! ## Identifiers without separators -/

namespace Joined

/-- The words of a text without separators: the first one, and others that are capitalised. -/
theorem exists_splitWords (h : Joined cs) (hne : cs ≠ []) :
    ∃ first others, splitWords cs = first :: others ∧ cs = first ++ others.flatten ∧
      Joined first ∧ first ≠ [] ∧ Whole first ∧
      others.flatMap (Naming.capitalize true) = others.flatten := by
  have hflat := flatten_splitWords_of_forall h.clean
  have htail := h.capitalize_of_mem_tail
  cases hwords : splitWords cs with
  | nil =>
    rw [hwords] at hflat
    exact absurd hflat.symm hne
  | cons first others =>
    have hfirst : first ∈ splitWords cs := by
      rw [hwords]
      exact List.mem_cons_self ..
    rw [hwords] at hflat htail
    refine ⟨first, others, rfl, hflat.symm, h.words hfirst, ne_nil_of_mem_splitWords hfirst,
      whole_of_mem_splitWords hfirst, ?_⟩
    exact (flatMap_eq_flatten_iff (length_le_capitalize true) others).mpr htail

/-- In Pascal case only the first character is raised. -/
theorem convertChars_pascalCase (h : Joined cs) :
    convertChars cs .pascalCase = cs.modifyHead Char.toUpper := by
  unfold convertChars
  dsimp only
  rw [unescape_of_clean h.clean, not_any_of_clean h.clean, Bool.not_false]
  rcases eq_or_ne cs [] with rfl | hne
  · rfl
  · obtain ⟨first, others, hwords, hcs, hfirst, hfirstne, hwhole, hothers⟩ :=
      h.exists_splitWords hne
    rw [hwords, List.flatMap_cons, hothers,
      capitalize_of_digitsLast hfirst.alphanum hwhole hfirst.digitsLast]
    obtain ⟨a, v, rfl⟩ := List.exists_cons_of_ne_nil hfirstne
    rw [hcs]
    rfl

/-- In camel case only the first word is lowered. -/
theorem convertChars_camelCase (h : Joined cs) (hne : cs ≠ []) :
    ∃ first rest, (splitWords cs).head? = some first ∧ cs = first ++ rest ∧
      convertChars cs .camelCase = first.map Char.toLower ++ rest := by
  obtain ⟨first, others, hwords, hcs, hfirst, -, -, hothers⟩ := h.exists_splitWords hne
  refine ⟨first, others.flatten, by rw [hwords]; rfl, hcs, ?_⟩
  unfold convertChars
  dsimp only
  rw [unescape_of_clean h.clean, not_any_of_clean h.clean, Bool.not_false, hwords, camel, hothers,
    lower_of_isAlphanum hfirst.alphanum]

end Joined

/-! ## Identifiers with separators -/

section

variable (hplain : IsPlain cs) (hsep : ∃ c ∈ cs, isSeparator c = true)
  (hlast : cs.getLast? ≠ some '_')
include hplain

theorem flatMap_capitalize_false (h : ∀ w ∈ ws, w ∈ splitWords cs) :
    ws.flatMap (capitalize false) = ws.flatMap titled := by
  rw [List.flatMap_def, List.flatMap_def, List.map_congr_left fun w hw =>
    capitalize_eq_titled (isAlphanum_of_word hplain (h w hw)) rfl]

include hsep hlast

/-- In Pascal case every word is recased. -/
theorem convertChars_pascalCase_of_isPlain :
    convertChars cs .pascalCase = (splitWords cs).flatMap titled := by
  have hany : cs.any isSeparator = true := List.any_eq_true.mpr hsep
  unfold convertChars
  dsimp only
  rw [unescape_of_getLast? hlast, hany, Bool.not_true,
    flatMap_capitalize_false hplain fun _ hw => hw]

/-- In camel case every word but the first is recased, and the first one lowered. -/
theorem convertChars_camelCase_of_isPlain :
    convertChars cs .camelCase =
      ((splitWords cs).head?.getD []).map Char.toLower ++ (splitWords cs).tail.flatMap titled := by
  have hany : cs.any isSeparator = true := List.any_eq_true.mpr hsep
  have hothers : (splitWords cs).tail.flatMap (capitalize false) =
      (splitWords cs).tail.flatMap titled :=
    flatMap_capitalize_false hplain fun _ => List.mem_of_mem_tail
  have hwords : ∀ w ∈ splitWords cs, ∀ c ∈ w, isAlphanum c = true :=
    fun _ => isAlphanum_of_word hplain
  unfold convertChars
  dsimp only
  rw [unescape_of_getLast? hlast, hany, Bool.not_true]
  cases hsplit : splitWords cs with
  | nil => rfl
  | cons first others =>
    rw [hsplit] at hothers hwords
    rw [camel, lower_of_isAlphanum (hwords first (List.mem_cons_self ..))]
    exact congrArg (first.map Char.toLower ++ ·) hothers

end

/-! ## Letters -/

theorem isAlphanum_of_isAlpha (h : c.isAlpha = true) : isAlphanum c = true := by
  rw [isAlphanum_eq, Char.isAlphanum, h, Bool.true_or]

/-- A letter is no digit, and has a capital and a small form. -/
theorem forms_of_isAlpha (h : c.isAlpha = true) :
    isDigit c = false ∧ c.toUpper.isUpper = true ∧ c.toLower.isLower = true := by
  have halnum := isAlphanum_of_isAlpha h
  revert h
  exact forall_alphanum c (by decide) halnum

theorem joined_of_isAlpha (h : ∀ c ∈ cs, c.isAlpha = true) : Joined cs := by
  refine ⟨fun c hc => isAlphanum_of_isAlpha (h c hc), ?_⟩
  induction cs with
  | nil => exact List.IsChain.nil
  | cons a cs ih =>
    obtain ⟨ha, hcs⟩ := List.forall_mem_cons.mp h
    refine List.isChain_cons.mpr ⟨fun b _ hdigit => ?_, ih hcs⟩
    rw [(forms_of_isAlpha ha).1] at hdigit
    exact Bool.noConfusion hdigit

/-- One capital and then small letters. -/
def IsCapitalized : List Char → Prop
  | [] => False
  | a :: w => a.isUpper = true ∧ ∀ c ∈ w, c.isLower = true

theorem isLower_of_mem_map_toLower (h : ∀ c ∈ w, c.isAlpha = true) :
    ∀ c ∈ w.map Char.toLower, c.isLower = true :=
  List.forall_mem_map.mpr fun c hc => (forms_of_isAlpha (h c hc)).2.2

theorem isCapitalized_titled (h : ∀ c ∈ w, c.isAlpha = true) (hne : w ≠ []) :
    IsCapitalized (titled w) := by
  obtain ⟨a, v, rfl⟩ := List.exists_cons_of_ne_nil hne
  obtain ⟨ha, hv⟩ := List.forall_mem_cons.mp h
  exact ⟨(forms_of_isAlpha ha).2.1, isLower_of_mem_map_toLower hv⟩

/-- Recased words have the letters of the words. -/
theorem map_toLower_flatMap_titled (halnum : ∀ w ∈ ws, ∀ c ∈ w, isAlphanum c = true) :
    (ws.flatMap titled).map Char.toLower = ws.flatten.map Char.toLower := by
  rw [List.map_flatMap, List.flatMap_def,
    List.map_congr_left fun w hw => map_toLower_titled (halnum w hw), List.map_flatten]

/-! ## Conversions -/

/-- An identifier of letters in the conventions without separators: only its first character, or its
first word, has its case changed. -/
structure KeptAsWritten (identifier : String) : Prop where
  pascal : (convert identifier .pascalCase).toList = identifier.toList.modifyHead Char.toUpper
  camel : ∃ first rest, (splitWords identifier.toList).head? = some first ∧
    identifier.toList = first ++ rest ∧
    (convert identifier .camelCase).toList = first.map Char.toLower ++ rest

/-- An identifier of letters and separators in the conventions without separators: its words with
one capital each, in camel case the first one without, no separator and all the letters. -/
structure Recased (identifier : String) : Prop where
  pascal : (convert identifier .pascalCase).toList = (splitWords identifier.toList).flatMap titled
  camel : (convert identifier .camelCase).toList =
    ((splitWords identifier.toList).head?.getD []).map Char.toLower ++
      (splitWords identifier.toList).tail.flatMap titled
  capitalized : ∀ w ∈ splitWords identifier.toList, IsCapitalized (titled w)
  small : ∀ w ∈ splitWords identifier.toList, ∀ c ∈ w.map Char.toLower, c.isLower = true
  clean : ∀ convention ∈ [Convention.camelCase, .pascalCase],
    ∀ c ∈ (convert identifier convention).toList, isSeparator c = false
  letters : ∀ convention ∈ [Convention.camelCase, .pascalCase],
    (convert identifier convention).toList.map Char.toLower =
      (identifier.toList.filter fun c => !isSeparator c).map Char.toLower

theorem toList_convert (identifier : String) (convention : Convention) :
    (convert identifier convention).toList = convertChars identifier.toList convention :=
  String.toList_ofList

/-- The conventions without separators leave none, whatever the identifier. -/
theorem convertChars_clean (cs : List Char) :
    (∀ c ∈ convertChars cs .camelCase, isSeparator c = false) ∧
      ∀ c ∈ convertChars cs .pascalCase, isSeparator c = false :=
  have hwords : ∀ w ∈ splitWords (unescape cs), ∀ c ∈ w, isSeparator c = false :=
    fun _ hw _ hc => (mem_of_mem_splitWords hw hc).2
  ⟨camel_clean _ hwords, flatMap_capitalize_clean _ hwords⟩

theorem recased_of_isAlpha {identifier : String}
    (hletters : ∀ c ∈ identifier.toList, c.isAlpha = true ∨ isSeparator c = true)
    (hsep : ∃ c ∈ identifier.toList, isSeparator c = true)
    (hlast : identifier.toList.getLast? ≠ some '_') : Recased identifier := by
  have hplain : IsPlain identifier.toList := fun c hc =>
    (hletters c hc).imp_left isAlphanum_of_isAlpha
  have hwords : ∀ w ∈ splitWords identifier.toList, ∀ c ∈ w, c.isAlpha = true := by
    intro w hw c hc
    obtain ⟨hmem, hclean⟩ := mem_of_mem_splitWords hw hc
    exact (hletters c hmem).resolve_right (Bool.eq_false_iff.mp hclean)
  have halnum : ∀ w ∈ splitWords identifier.toList, ∀ c ∈ w, isAlphanum c = true :=
    fun w hw => isAlphanum_of_word hplain hw
  have hpascal := convertChars_pascalCase_of_isPlain hplain hsep hlast
  have hcamel := convertChars_camelCase_of_isPlain hplain hsep hlast
  obtain ⟨hcamelclean, hpascalclean⟩ := convertChars_clean identifier.toList
  have hflat := congrArg (List.map Char.toLower) (flatten_splitWords identifier.toList)
  rw [← toList_convert] at hpascal hcamel hcamelclean hpascalclean
  refine ⟨hpascal, hcamel, fun w hw => ?_, fun w hw => ?_, fun convention hconvention => ?_,
    fun convention hconvention => ?_⟩
  · exact isCapitalized_titled (hwords w hw) (ne_nil_of_mem_splitWords hw)
  · exact isLower_of_mem_map_toLower (hwords w hw)
  · rcases List.mem_pair.mp hconvention with rfl | rfl
    · exact hcamelclean
    · exact hpascalclean
  · rcases List.mem_pair.mp hconvention with rfl | rfl
    · rw [hcamel, ← hflat]
      cases hsplit : splitWords identifier.toList with
      | nil => rfl
      | cons first others =>
        rw [hsplit] at halnum
        obtain ⟨hfirst, hothers⟩ := List.forall_mem_cons.mp halnum
        show (first.map Char.toLower ++ others.flatMap titled).map Char.toLower = _
        rw [List.map_append, map_toLower_flatMap_titled hothers, map_toLower_map_toLower hfirst,
          List.flatten_cons, List.map_append]
    · rw [hpascal, map_toLower_flatMap_titled halnum, hflat]

theorem keptAsWritten_of_isAlpha {identifier : String} (hne : identifier ≠ "")
    (hletters : ∀ c ∈ identifier.toList, c.isAlpha = true) : KeptAsWritten identifier := by
  have hjoined := joined_of_isAlpha hletters
  have hnil : identifier.toList ≠ [] := fun h => hne (String.toList_inj.mp h)
  obtain ⟨first, rest, hfirst, hsplit, hcamel⟩ := hjoined.convertChars_camelCase hnil
  exact ⟨(toList_convert _ _).trans hjoined.convertChars_pascalCase, first, rest, hfirst, hsplit,
    (toList_convert _ _).trans hcamel⟩

/-- **Acronyms are kept as written.** An identifier of letters alone changes its first character or
its first word; one with separators has each word recased. -/
theorem convert_letters (identifier : String) :
    (identifier ≠ "" → (∀ c ∈ identifier.toList, c.isAlpha = true) → KeptAsWritten identifier) ∧
      ((∀ c ∈ identifier.toList, c.isAlpha = true ∨ isSeparator c = true) →
        (∃ c ∈ identifier.toList, isSeparator c = true) →
        identifier.toList.getLast? ≠ some '_' → Recased identifier) :=
  ⟨keptAsWritten_of_isAlpha, recased_of_isAlpha⟩

/-- An acronym in front and inside, without separators and with them. -/
theorem convert_letters_parsed :
    ("HTTPBodyOfAPI" ≠ "" ∧ (∀ c ∈ "HTTPBodyOfAPI".toList, c.isAlpha = true) ∧
        KeptAsWritten "HTTPBodyOfAPI") ∧
      ((∀ c ∈ "_HTTPBody-of API".toList, c.isAlpha = true ∨ isSeparator c = true) ∧
        (∃ c ∈ "_HTTPBody-of API".toList, isSeparator c = true) ∧
        "_HTTPBody-of API".toList.getLast? ≠ some '_' ∧ Recased "_HTTPBody-of API") := by
  have hne : "HTTPBodyOfAPI" ≠ "" := by decide
  have hletters : ∀ c ∈ "HTTPBodyOfAPI".toList, c.isAlpha = true :=
    List.all_eq_true.mp (by decide)
  have hplain : ∀ c ∈ "_HTTPBody-of API".toList, c.isAlpha = true ∨ isSeparator c = true := by
    simp only [← Bool.or_eq_true]
    exact List.all_eq_true.mp (by decide)
  have hsep : ∃ c ∈ "_HTTPBody-of API".toList, isSeparator c = true :=
    ⟨'-', by decide, by decide⟩
  have hlast : "_HTTPBody-of API".toList.getLast? ≠ some '_' := by decide
  exact ⟨⟨hne, hletters, (convert_letters "HTTPBodyOfAPI").1 hne hletters⟩, hplain, hsep, hlast,
    (convert_letters "_HTTPBody-of API").2 hplain hsep hlast⟩

end RowDecoding.Naming
