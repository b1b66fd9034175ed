import RowDecoding.Proofs.Words

/-!
# Converting a converted name

A conversion is not always its own inverse on what it produced: the second one reads words and
escapes off a text whose case has changed. `Settles` says what the second conversion must find for
nothing to change, for each convention, and `convert_convert_iff` that it is needed and enough.
-/

namespace RowDecoding.Naming

open Text

variable {c sep : Char} {cs w base : List Char} {ws : List (List Char)}

/-! ## Escapes -/

/-- Of the reserved words only the underscore ends in one, and only it is in upper case. -/
theorem forall_of_isReserved (h : isReserved base = true) (hne : base ≠ ['_']) :
    base.getLast? ≠ some '_' ∧ upper base ≠ base := by
  obtain ⟨word, hword, rfl⟩ : ∃ word ∈ reservedWords, word.toList = base := by
    simpa [isReserved] using h
  have hall : ∀ word ∈ reservedWords, word.toList ≠ ['_'] →
      word.toList.getLast? ≠ some '_' ∧ upper word.toList ≠ word.toList := by decide
  exact hall word hword hne

theorem unescape_escaped (h : isReserved base = true) (hne : base ≠ ['_']) :
    unescape (base ++ ['_']) = base := by
  have hlast := (forall_of_isReserved h hne).1
  rw [List.getLast?_eq_head?_reverse] at hlast
  unfold unescape
  rw [List.reverse_append, List.reverse_singleton, List.singleton_append]
  split
  next hreverse =>
    rw [List.cons.injEq] at hreverse
    rw [hreverse.2] at hlast
    exact absurd rfl hlast
  next hreverse =>
    rw [← (List.cons.inj hreverse).2, List.reverse_reverse]
    exact if_pos h
  next hother => exact absurd rfl (hother _)

/-- Whether a text is a reserved word with the underscore that escapes it. -/
def Escaped (cs : List Char) : Prop :=
  ∃ base, isReserved base = true ∧ base ≠ ['_'] ∧ cs = base ++ ['_']

/-- Taking the escape off changes nothing where there is none. -/
theorem unescape_of_not_escaped (h : ¬ Escaped cs) : unescape cs = cs := by
  unfold unescape
  split
  next => rfl
  next base hdouble hreverse =>
    split
    next hreserved =>
      refine absurd ⟨base.reverse, hreserved, ?_, ?_⟩ h
      · intro hbase
        rw [List.reverse_eq_iff] at hbase
        exact hdouble [] hbase
      · rw [← List.reverse_cons, ← hreverse, List.reverse_reverse]
    next => rfl
  next => rfl

theorem mem_of_mem_unescape (h : c ∈ unescape cs) : c ∈ cs := by
  by_cases hescaped : Escaped cs
  · obtain ⟨base, hreserved, hne, rfl⟩ := hescaped
    rw [unescape_escaped hreserved hne] at h
    exact List.mem_append_left _ h
  · rwa [unescape_of_not_escaped hescaped] at h

/-- Nothing without an underscore at its end is escaped. -/
theorem unescape_of_getLast? (h : cs.getLast? ≠ some '_') : unescape cs = cs := by
  refine unescape_of_not_escaped ?_
  rintro ⟨base, -, -, rfl⟩
  exact h List.getLast?_concat

/-- No text in upper case is a reserved word with its escape. -/
theorem not_escaped_upper (cs : List Char) : ¬ Escaped (upper cs) := by
  rintro ⟨base, hreserved, hne, hbase⟩
  refine (forall_of_isReserved hreserved hne).2 (upper_eq_self_iff.mpr fun c hc => ?_)
  have hmem : c ∈ upper cs := by
    rw [hbase]
    exact List.mem_append_left _ hc
  exact upperChar_of_mem_upper hmem

/-- A text in lower case stays as it is without its escape iff it has none. -/
theorem lower_unescape_lower_iff (cs : List Char) :
    lower (unescape (lower cs)) = lower cs ↔ ¬ Escaped (lower cs) := by
  constructor
  · rintro h ⟨base, hreserved, hne, hbase⟩
    have hfixed : lower base = base := by
      refine lower_eq_self_iff.mpr fun c hc => ?_
      have hmem : c ∈ lower cs := by
        rw [hbase]
        exact List.mem_append_left _ hc
      exact fixed_of_mem_lower hmem
    rw [hbase, unescape_escaped hreserved hne, hfixed] at h
    exact absurd h (by simp)
  · intro h
    rw [unescape_of_not_escaped h, lower_lower]

/-! ## Words joined by a separator -/

theorem joinWith_cons_ne_nil (sep : Char) (ws : List (List Char)) (hne : w ≠ []) :
    joinWith sep (w :: ws) ≠ [] := by
  cases ws with
  | nil => exact hne
  | cons v ws => simp [joinWith, hne]

/-- The last character of joined words is one of theirs. -/
theorem exists_of_getLast?_joinWith (hne : ∀ w ∈ ws, w ≠ [])
    (h : (joinWith sep ws).getLast? = some c) : ∃ w ∈ ws, c ∈ w := by
  induction ws with
  | nil => exact absurd h (by simp [joinWith])
  | cons w ws ih =>
    cases ws with
    | nil => exact ⟨w, List.mem_cons_self .., List.mem_of_getLast? h⟩
    | cons v ws =>
      obtain ⟨d, ds, hd⟩ := List.exists_cons_of_ne_nil
        (joinWith_cons_ne_nil sep ws (hne v (by simp)))
      rw [joinWith, List.getLast?_append_cons, hd, List.getLast?_cons_cons, ← hd] at h
      · obtain ⟨u, hu, hmem⟩ := ih (fun u hu => hne u (List.mem_cons_of_mem _ hu)) h
        exact ⟨u, List.mem_cons_of_mem _ hu, hmem⟩
      · simp

/-- Joined words have one separator between any two of them. -/
theorem count_joinWith (h : ∀ w ∈ ws, sep ∉ w) : (joinWith sep ws).count sep = ws.length - 1 := by
  induction ws with
  | nil => rfl
  | cons w ws ih =>
    have hw : w.count sep = 0 := List.count_eq_zero.mpr (h w (List.mem_cons_self ..))
    cases ws with
    | nil => exact hw
    | cons v ws =>
      have hrest := ih fun u hu => h u (List.mem_cons_of_mem _ hu)
      rw [joinWith, List.count_append, List.count_cons_self, hw, hrest]
      · simp only [List.length_cons]
        omega
      · simp

theorem length_le_flatMap {f : List Char → List (List Char)} (h : ∀ w ∈ ws, f w ≠ []) :
    ws.length ≤ (ws.flatMap f).length := by
  induction ws with
  | nil => exact Nat.zero_le _
  | cons w ws ih =>
    have hpos := List.length_pos_iff.mpr (h w (List.mem_cons_self ..))
    have hrest := ih fun u hu => h u (List.mem_cons_of_mem _ hu)
    rw [List.flatMap_cons, List.length_append, List.length_cons]
    omega

/-- Lists put together are as many as they have entries only where each has one entry. -/
theorem length_eq_one_of_flatMap {f : List Char → List (List Char)} (h : ∀ w ∈ ws, f w ≠ [])
    (hlength : (ws.flatMap f).length = ws.length) : ∀ w ∈ ws, (f w).length = 1 := by
  induction ws with
  | nil => exact fun w hw => absurd hw List.not_mem_nil
  | cons w ws ih =>
    have hpos := List.length_pos_iff.mpr (h w (List.mem_cons_self ..))
    have hne : ∀ u ∈ ws, f u ≠ [] := fun u hu => h u (List.mem_cons_of_mem _ hu)
    have hrest := length_le_flatMap hne
    rw [List.flatMap_cons, List.length_append, List.length_cons] at hlength
    exact List.forall_mem_cons.mpr ⟨by omega, ih hne (by omega)⟩

/-- A change of case that is none the second time, loses no character and makes no separator. -/
structure ChangesCase (f : List Char → List Char) : Prop where
  again : ∀ cs, f (f cs) = f cs
  length_le : ∀ cs, cs.length ≤ (f cs).length
  clean : ∀ cs, (∀ c ∈ cs, isSeparator c = false) → ∀ c ∈ f cs, isSeparator c = false

theorem upper_changesCase : ChangesCase upper :=
  ⟨upper_upper, length_le_upper, fun _ h _ => not_isSeparator_of_mem_upper h⟩

theorem lower_changesCase : ChangesCase lower :=
  ⟨lower_lower, length_le_lower, fun _ h _ => not_isSeparator_of_mem_lower h⟩

namespace ChangesCase

variable {f : List Char → List Char}

theorem ne_nil (hf : ChangesCase f) (h : w ≠ []) : f w ≠ [] := by
  have hpos := List.length_pos_iff.mpr h
  have hle := hf.length_le w
  exact List.length_pos_iff.mp (by omega)

/-- A word with its case changed is no separator anywhere. -/
theorem word_clean (hf : ChangesCase f) (hw : w ∈ splitWords cs) :
    ∀ c ∈ f w, isSeparator c = false :=
  hf.clean w fun _ hc => (mem_of_mem_splitWords hw hc).2

/-- A word with its case changed is some words again. -/
theorem splitWords_ne_nil (hf : ChangesCase f) (hw : w ∈ splitWords cs) :
    splitWords (f w) ≠ [] := by
  obtain ⟨c, ds, hc⟩ := List.exists_cons_of_ne_nil (hf.ne_nil (ne_nil_of_mem_splitWords hw))
  have hmem : c ∈ f w := by
    rw [hc]
    exact List.mem_cons_self ..
  exact Naming.splitWords_ne_nil hmem (hf.word_clean hw c hmem)

/-- Words with their case changed and joined by a separator have as many separators as there are
words, less one. -/
theorem count_joined (hf : ChangesCase f) (hsep : isSeparator sep = true) (cs : List Char) :
    (joinWith sep ((splitWords cs).map f)).count sep = (splitWords cs).length - 1 := by
  rw [count_joinWith, List.length_map]
  intro v hv hmem
  obtain ⟨w, hw, rfl⟩ := List.mem_map.mp hv
  rw [hf.word_clean hw sep hmem] at hsep
  exact Bool.noConfusion hsep

/-- No escape is read into words joined by a separator. -/
theorem unescape_joined (hf : ChangesCase f) (cs : List Char) :
    unescape (joinWith sep ((splitWords cs).map f)) = joinWith sep ((splitWords cs).map f) := by
  refine unescape_of_getLast? fun hlast => ?_
  obtain ⟨v, hv, hmem⟩ := exists_of_getLast?_joinWith (List.forall_mem_map.mpr fun w hw =>
    hf.ne_nil (ne_nil_of_mem_splitWords hw)) hlast
  obtain ⟨w, hw, rfl⟩ := List.mem_map.mp hv
  have hclean := hf.word_clean hw '_' hmem
  rw [isSeparator_underscore] at hclean
  exact Bool.noConfusion hclean

/-- Words with their case changed and joined by a separator are found again if each of them is
still one word. -/
theorem splitWords_joined (hsep : isSeparator sep = true)
    (h : ∀ w ∈ splitWords cs, splitWords (f w) = [f w]) :
    splitWords (joinWith sep ((splitWords cs).map f)) = (splitWords cs).map f := by
  rw [splitWords_joinWith hsep, List.flatMap_map, List.flatMap_def, List.map_congr_left h,
    ← List.flatMap_def, List.map_eq_flatMap]

/-- Words with their case changed and joined by a separator give the same text again iff each of
them is still one word. -/
theorem joined_again_iff (hf : ChangesCase f) (hsep : isSeparator sep = true) (cs : List Char) :
    joinWith sep ((splitWords (joinWith sep ((splitWords cs).map f))).map f) =
        joinWith sep ((splitWords cs).map f) ↔
      ∀ w ∈ splitWords cs, splitWords (f w) = [f w] := by
  constructor
  · intro h w hw
    have hsplit : splitWords (joinWith sep ((splitWords cs).map f)) =
        (splitWords cs).flatMap fun w => splitWords (f w) := by
      rw [splitWords_joinWith hsep, List.flatMap_map]
    have hwords : ∀ w ∈ splitWords cs, splitWords (f w) ≠ [] := fun w hw => hf.splitWords_ne_nil hw
    have hcount := congrArg (List.count sep) h
    rw [hf.count_joined hsep, hf.count_joined hsep, hsplit] at hcount
    have hpos := List.length_pos_of_mem hw
    have hle := length_le_flatMap hwords
    obtain ⟨v, hv⟩ := List.length_eq_one_iff.mp
      (length_eq_one_of_flatMap hwords (by omega) w hw)
    have hflat := flatten_splitWords_of_forall (hf.word_clean hw)
    rw [hv, List.flatten_singleton] at hflat
    rw [hv, hflat]
  · intro h
    rw [splitWords_joined hsep h, List.map_map]
    exact congrArg (joinWith sep) (List.map_congr_left fun w _ => hf.again w)

end ChangesCase

/-- A word of ASCII characters is one word in lower case. -/
theorem splitWords_lower (hw : w ∈ splitWords cs) (hascii : IsAscii w) :
    splitWords (lower w) = [lower w] :=
  splitWords_eq_singleton_iff.mpr ⟨lower_changesCase.ne_nil (ne_nil_of_mem_splitWords hw),
    whole_of_not_isUpper (lower_changesCase.word_clean hw) fun _ hc =>
      not_isUpper_of_mem_lower hascii (List.mem_of_mem_tail hc)⟩

/-! ## Words put together without a separator -/

theorem append_eq_append_iff_of_length_le {xs ys xs' ys' : List Char}
    (hx : xs.length ≤ xs'.length) (hy : ys.length ≤ ys'.length) :
    xs' ++ ys' = xs ++ ys ↔ xs' = xs ∧ ys' = ys := by
  constructor
  · intro h
    have hlength := congrArg List.length h
    rw [List.length_append, List.length_append] at hlength
    exact List.append_inj h (by omega)
  · rintro ⟨rfl, rfl⟩
    rfl

theorem length_flatten_le_flatMap {g : List Char → List Char} (hg : ∀ w, w.length ≤ (g w).length)
    (ws : List (List Char)) : ws.flatten.length ≤ (ws.flatMap g).length := by
  induction ws with
  | nil => exact Nat.le_refl _
  | cons w ws ih =>
    rw [List.flatten_cons, List.flatMap_cons, List.length_append, List.length_append]
    exact Nat.add_le_add (hg w) ih

/-- Words that are written anew, none shorter, make up the same text iff none has changed. -/
theorem flatMap_eq_flatten_iff {g : List Char → List Char} (hg : ∀ w, w.length ≤ (g w).length)
    (ws : List (List Char)) : ws.flatMap g = ws.flatten ↔ ∀ w ∈ ws, g w = w := by
  induction ws with
  | nil => simp
  | cons w ws ih =>
    rw [List.flatten_cons, List.flatMap_cons, List.forall_mem_cons, ← ih]
    exact append_eq_append_iff_of_length_le (hg w) (length_flatten_le_flatMap hg ws)

theorem length_le_capitalize (keepAcronyms : Bool) (w : List Char) :
    w.length ≤ (capitalize keepAcronyms w).length := by
  unfold capitalize
  split
  · exact Nat.le_refl _
  · have hfirst := length_le_upper (w.take 1)
    have hrest := length_le_lower (w.drop 1)
    have hlength := congrArg List.length (List.take_append_drop 1 w)
    rw [List.length_append] at hlength ⊢
    omega

theorem capitalize_clean (keepAcronyms : Bool) (h : ∀ c ∈ w, isSeparator c = false) :
    ∀ c ∈ capitalize keepAcronyms w, isSeparator c = false := by
  intro c hc
  unfold capitalize at hc
  split at hc
  · exact h c hc
  · rcases List.mem_append.mp hc with hc | hc
    · exact not_isSeparator_of_mem_upper (fun d hd => h d (List.mem_of_mem_take hd)) hc
    · exact not_isSeparator_of_mem_lower (fun d hd => h d (List.mem_of_mem_drop hd)) hc

/-- Capitalised words hold no separator. -/
theorem flatMap_capitalize_clean (keepAcronyms : Bool)
    (h : ∀ w ∈ ws, ∀ c ∈ w, isSeparator c = false) :
    ∀ c ∈ ws.flatMap (capitalize keepAcronyms), isSeparator c = false := by
  intro c hc
  obtain ⟨w, hw, hmem⟩ := List.mem_flatMap.mp hc
  exact capitalize_clean keepAcronyms (h w hw) c hmem

theorem camel_clean (keepAcronyms : Bool) (h : ∀ w ∈ ws, ∀ c ∈ w, isSeparator c = false) :
    ∀ c ∈ camel keepAcronyms ws, isSeparator c = false := by
  cases ws with
  | nil => exact fun c hc => absurd hc List.not_mem_nil
  | cons w ws =>
    obtain ⟨hw, hws⟩ := List.forall_mem_cons.mp h
    intro c hc
    rcases List.mem_append.mp hc with hc | hc
    · exact not_isSeparator_of_mem_lower hw hc
    · exact flatMap_capitalize_clean keepAcronyms hws c hc

theorem unescape_of_clean (h : ∀ c ∈ cs, isSeparator c = false) : unescape cs = cs := by
  refine unescape_of_getLast? fun hlast => ?_
  have hclean := h '_' (List.mem_of_getLast? hlast)
  rw [isSeparator_underscore] at hclean
  exact Bool.noConfusion hclean

theorem not_any_of_clean (h : ∀ c ∈ cs, isSeparator c = false) : cs.any isSeparator = false := by
  rw [List.any_eq_false]
  intro c hc
  rw [h c hc]
  exact Bool.false_ne_true

/-! ## Converting twice -/

/-- Words of which the first is in small letters and each of the others capitalised, or an
acronym. -/
def Cameled : List (List Char) → Prop
  | [] => True
  | w :: ws => lower w = w ∧ ∀ v ∈ ws, capitalize true v = v

/-- What a second conversion of an identifier must find for nothing to change. In the conventions
with separators, no word may fall apart in its new case. In the two without, the words that are
read off the converted identifier must be written as that convention writes words. In small letters,
the identifier must not look like a reserved word with its escape. -/
def Settles (identifier : List Char) : Convention → Prop
  | .lowercase => ¬ Escaped (lower (unescape identifier))
  | .uppercase => True
  | .snakeCase | .kebabCase =>
    ∀ w ∈ splitWords (unescape identifier), splitWords (lower w) = [lower w]
  | .screamingSnakeCase | .screamingKebabCase =>
    ∀ w ∈ splitWords (unescape identifier), splitWords (upper w) = [upper w]
  | .camelCase => Cameled (splitWords (convertChars identifier .camelCase))
  | .pascalCase => ∀ w ∈ splitWords (convertChars identifier .pascalCase), capitalize true w = w

/-- A text without separators in camel case is one whose words are. -/
theorem convertChars_camelCase_iff (h : ∀ c ∈ cs, isSeparator c = false) :
    convertChars cs .camelCase = cs ↔ Cameled (splitWords cs) := by
  have hflat := flatten_splitWords_of_forall h
  unfold convertChars
  dsimp only
  rw [unescape_of_clean h, not_any_of_clean h, Bool.not_false]
  cases hwords : splitWords cs with
  | nil =>
    rw [hwords] at hflat
    exact iff_of_true hflat trivial
  | cons w ws =>
    rw [hwords] at hflat
    conv_lhs => rhs; rw [← hflat, List.flatten_cons]
    rw [camel, append_eq_append_iff_of_length_le (length_le_lower w)
      (length_flatten_le_flatMap (length_le_capitalize true) ws),
      flatMap_eq_flatten_iff (length_le_capitalize true)]
    rfl

/-- A text without separators in Pascal case is one whose words are. -/
theorem convertChars_pascalCase_iff (h : ∀ c ∈ cs, isSeparator c = false) :
    convertChars cs .pascalCase = cs ↔ ∀ w ∈ splitWords cs, capitalize true w = w := by
  unfold convertChars
  dsimp only
  rw [unescape_of_clean h, not_any_of_clean h, Bool.not_false,
    ← flatMap_eq_flatten_iff (length_le_capitalize true), flatten_splitWords_of_forall h]

/-- A second conversion changes nothing iff the identifier settles. -/
theorem convertChars_again_iff (identifier : List Char) (c : Convention) :
    convertChars (convertChars identifier c) c = convertChars identifier c ↔
      Settles identifier c := by
  have hwords : ∀ w ∈ splitWords (unescape identifier), ∀ c ∈ w, isSeparator c = false :=
    fun w hw c hc => (mem_of_mem_splitWords hw hc).2
  have hjoined {f sep} (hf : ChangesCase f) (hsep : isSeparator sep = true) :
      joinWith sep ((splitWords (unescape (joinWith sep
          ((splitWords (unescape identifier)).map f)))).map f) =
        joinWith sep ((splitWords (unescape identifier)).map f) ↔
      ∀ w ∈ splitWords (unescape identifier), splitWords (f w) = [f w] := by
    rw [hf.unescape_joined]
    exact hf.joined_again_iff hsep _
  cases c with
  | lowercase => exact lower_unescape_lower_iff (unescape identifier)
  | uppercase =>
    refine iff_of_true ?_ trivial
    show upper (unescape (upper (unescape identifier))) = upper (unescape identifier)
    rw [unescape_of_not_escaped (not_escaped_upper _), upper_upper]
  | snakeCase => exact hjoined lower_changesCase isSeparator_underscore
  | screamingSnakeCase => exact hjoined upper_changesCase isSeparator_underscore
  | kebabCase => exact hjoined lower_changesCase isSeparator_hyphen
  | screamingKebabCase => exact hjoined upper_changesCase isSeparator_hyphen
  | camelCase => exact convertChars_camelCase_iff (camel_clean _ hwords)
  | pascalCase => exact convertChars_pascalCase_iff (flatMap_capitalize_clean _ hwords)

end RowDecoding.Naming
