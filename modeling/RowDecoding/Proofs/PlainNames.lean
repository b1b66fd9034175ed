import RowDecoding.Proofs.Recasing

/-!
# Names of letters and digits

For names of ASCII letters, digits and separators, what settles can be read off the name itself.
What goes wrong goes wrong behind a digit: a small letter there stays in its word, and as a capital
it starts one. Names in which no small letter stands right after a digit settle in all conventions
but small letters (`settles_of_digitsLast`), and in the screaming ones no others do
(`screaming_iff_digitsLast`).
-/

namespace RowDecoding.Naming

open Text

variable {a b c : Char} {cs w : List Char} {ws : List (List Char)} {next : Option Char}

/-! ## Letters and digits -/

/-- The letters and digits of ASCII. -/
def isAlphanum (c : Char) : Bool :=
  decide (c.toNat < 128) && (isUpper c || isLower c || isDigit c)

/-- What holds of every letter and digit when each has been looked at. -/
@[elab_as_elim]
theorem forall_alphanum {P : Char → Prop} (c : Char)
    (h : ∀ n < 128, isAlphanum (Char.ofNat n) = true → P (Char.ofNat n))
    (hc : isAlphanum c = true) : P c := by
  have hlt : c.toNat < 128 := of_decide_eq_true (Bool.and_eq_true_iff.mp hc).1
  exact forall_ascii (P := fun c => isAlphanum c = true → P c) c h hlt hc

theorem toNat_lt_of_isAlphanum (h : c.isAlphanum = true) : c.toNat < 128 := by
  have hupper : c.isUpper = true → c.val ≤ 'z'.val := fun h =>
    UInt32.le_trans (of_decide_eq_true h).2 (by decide)
  have hlower : c.isLower = true → c.val ≤ 'z'.val := fun h =>
    of_decide_eq_true (Bool.and_eq_true_iff.mp h).2
  have hdigit : c.isDigit = true → c.val ≤ 'z'.val := fun h =>
    UInt32.le_trans (of_decide_eq_true (Bool.and_eq_true_iff.mp h).2) (by decide)
  have hlast : c.val ≤ 'z'.val :=
    (Bool.or_eq_true_iff.mp h).elim
      (fun halpha => (Bool.or_eq_true_iff.mp halpha).elim hupper hlower) hdigit
  exact Nat.lt_of_le_of_lt (UInt32.le_iff_toNat_le.mp hlast) (by decide)

/-- The letters and digits of ASCII are those of the standard library. -/
theorem isAlphanum_eq (c : Char) : isAlphanum c = c.isAlphanum := by
  by_cases hc : c.toNat < 128
  · exact forall_ascii (P := fun c => isAlphanum c = c.isAlphanum) c (by decide) hc
  · rw [isAlphanum, decide_eq_false hc, Bool.false_and, eq_comm, Bool.eq_false_iff]
    exact fun h => hc (toNat_lt_of_isAlphanum h)

/-- A letter or digit is a capital, a small letter or a digit, and only one of them. -/
theorem kind_of_isAlphanum (h : isAlphanum c = true) :
    (isUpper c = true ∧ isLower c = false ∧ isDigit c = false) ∨
      (isUpper c = false ∧ isLower c = true ∧ isDigit c = false) ∨
      (isUpper c = false ∧ isLower c = false ∧ isDigit c = true) :=
  forall_alphanum c (by decide) h

theorem not_isLower_of_isUpper (h : isAlphanum c = true) : isUpper c = true → isLower c = false :=
  forall_alphanum c (by decide) h

theorem not_isSeparator_of_isAlphanum (h : isAlphanum c = true) : isSeparator c = false :=
  forall_alphanum c (by decide) h

theorem not_isTitle_of_isAlphanum (h : isAlphanum c = true) : isTitle c = false :=
  forall_alphanum c (by decide) h

theorem isAlphanum_toUpper (h : isAlphanum c = true) : isAlphanum c.toUpper = true :=
  forall_alphanum c (by decide) h

theorem isAlphanum_toLower (h : isAlphanum c = true) : isAlphanum c.toLower = true :=
  forall_alphanum c (by decide) h

/-- In upper case there are digits and capitals. -/
theorem isDigit_toUpper (h : isAlphanum c = true) :
    isDigit c.toUpper = isDigit c ∧ isUpper c.toUpper = !isDigit c ∧ isLower c.toUpper = false :=
  forall_alphanum c (by decide) h

/-- In lower case there are digits and small letters. -/
theorem isDigit_toLower (h : isAlphanum c = true) :
    isDigit c.toLower = isDigit c ∧ isLower c.toLower = !isDigit c ∧ isUpper c.toLower = false :=
  forall_alphanum c (by decide) h

theorem toUpper_of_not_isLower (h : isAlphanum c = true) : isLower c = false → c.toUpper = c :=
  forall_alphanum c (by decide) h

theorem toLower_of_not_isUpper (h : isAlphanum c = true) : isUpper c = false → c.toLower = c :=
  forall_alphanum c (by decide) h

theorem isAscii_of_isAlphanum (h : ∀ c ∈ cs, isAlphanum c = true) : IsAscii cs :=
  fun c hc => of_decide_eq_true (Bool.and_eq_true_iff.mp (h c hc)).1

theorem toLower_toUpper (h : isAlphanum c = true) : c.toUpper.toLower = c.toLower :=
  forall_alphanum c (by decide) h

theorem toLower_toLower (h : isAlphanum c = true) : c.toLower.toLower = c.toLower :=
  forall_alphanum c (by decide) h

theorem upper_of_isAlphanum (h : ∀ c ∈ cs, isAlphanum c = true) :
    upper cs = cs.map Char.toUpper :=
  upper_of_isAscii (isAscii_of_isAlphanum h)

theorem lower_of_isAlphanum (h : ∀ c ∈ cs, isAlphanum c = true) : lower cs = cs.map Char.toLower :=
  lower_of_isAscii (isAscii_of_isAlphanum h)

/-! ## Plain names -/

/-- A name of letters, digits and separators. -/
def IsPlain (cs : List Char) : Prop :=
  ∀ c ∈ cs, isAlphanum c = true ∨ isSeparator c = true

instance (cs : List Char) : Decidable (IsPlain cs) :=
  decidable_of_iff ((cs.all fun c => isAlphanum c || isSeparator c) = true)
    (by simp only [IsPlain, List.all_eq_true, Bool.or_eq_true])

/-- No small letter stands right after a digit, so that digits stand at the end of words. -/
def DigitsLast (cs : List Char) : Prop :=
  cs.IsChain fun a b => isDigit a = true → isLower b = false

instance (cs : List Char) : Decidable (DigitsLast cs) :=
  inferInstanceAs (Decidable (cs.IsChain fun a b => isDigit a = true → isLower b = false))

theorem isAlphanum_of_word (hplain : IsPlain cs) (hw : w ∈ splitWords cs) :
    ∀ c ∈ w, isAlphanum c = true := by
  intro c hc
  obtain ⟨hmem, hclean⟩ := mem_of_mem_splitWords hw hc
  refine (hplain c hmem).resolve_right ?_
  rw [hclean]
  exact Bool.false_ne_true

theorem whole_of_cons (h : Whole (a :: w)) : Whole w := by
  cases w with
  | nil => trivial
  | cons b w => exact h.2.2

/-- Where a word ends, no small letter follows. -/
theorem not_isLower_of_endsBefore (hb : isAlphanum b = true ∨ isSeparator b = true)
    (h : endsBefore a b next = true) : isLower b = false := by
  rw [Bool.eq_false_iff]
  intro hlower
  rw [endsBefore, not_isSeparator_of_isLower hlower, Bool.false_or, startsWord,
    Bool.and_eq_true] at h
  rcases hb with hb | hb
  · have hkind := kind_of_isAlphanum hb
    rw [h.1, hlower] at hkind
    simp at hkind
  · rw [not_isSeparator_of_isLower hlower] at hb
    exact Bool.noConfusion hb

/-- A name has its digits last iff its words have. -/
theorem digitsLast_iff (hplain : IsPlain cs) :
    DigitsLast cs ↔ ∀ w ∈ splitWords cs, DigitsLast w := by
  revert hplain
  refine splitWords_induction (motive := fun cs ws =>
    IsPlain cs → (DigitsLast cs ↔ ∀ w ∈ ws, DigitsLast w)) ?nil ?separator ?last ?ends ?grows cs
  case nil => simp [DigitsLast]
  case separator =>
    intro a cs ws ha ih hplain
    rw [← ih (List.forall_mem_cons.mp hplain).2]
    cases cs with
    | nil => simp [DigitsLast]
    | cons b cs =>
      rw [DigitsLast, List.isChain_cons_cons]
      refine and_iff_right fun hdigit => ?_
      rw [not_isSeparator_of_isDigit hdigit] at ha
      exact Bool.noConfusion ha
  case last => simp [DigitsLast]
  case ends =>
    intro a b cs ws _ hend ih hplain
    obtain ⟨-, hplain⟩ := List.forall_mem_cons.mp hplain
    rw [List.forall_mem_cons, ← ih hplain, DigitsLast, List.isChain_cons_cons]
    have hb := not_isLower_of_endsBefore (hplain b (List.mem_cons_self ..)) hend
    simp [DigitsLast, hb]
  case grows =>
    intro a b cs w ws _ _ _ ih hplain
    have hrest := ih (List.forall_mem_cons.mp hplain).2
    rw [List.forall_mem_cons] at hrest ⊢
    simp only [DigitsLast, List.isChain_cons_cons] at hrest ⊢
    rw [hrest, and_assoc]

/-! ## Words in another case -/

/-- In capitals a word ends behind the digits that a letter follows. -/
theorem endsBefore_toUpper_iff (ha : isAlphanum a = true) (hb : isAlphanum b = true)
    (hnext : ∀ c ∈ next, isAlphanum c = true) (h : endsBefore a b next = false) :
    endsBefore a.toUpper b.toUpper (next.map Char.toUpper) = false ↔
      (isDigit a = true → isLower b = false) := by
  have hany : (next.map Char.toUpper).any isLower = false := by
    cases next with
    | none => rfl
    | some c => exact (isDigit_toUpper (hnext c rfl)).2.2
  obtain ⟨hdigit, -, hlower⟩ := isDigit_toUpper ha
  obtain ⟨-, hupper, -⟩ := isDigit_toUpper hb
  have hclean := not_isSeparator_of_isAlphanum (isAlphanum_toUpper hb)
  rw [endsBefore, startsWord, hclean, hany, hdigit, hlower, hupper]
  rw [endsBefore, not_isSeparator_of_isAlphanum hb, startsWord] at h
  -- A capital does not stand behind a digit, so only small letters and digits are left.
  rcases kind_of_isAlphanum hb with ⟨hb1, hb2, hb3⟩ | ⟨hb1, hb2, hb3⟩ | ⟨hb1, hb2, hb3⟩ <;>
    cases hdig : isDigit a <;> simp_all

theorem whole_map_toUpper_iff (halnum : ∀ c ∈ w, isAlphanum c = true) (h : Whole w) :
    Whole (w.map Char.toUpper) ↔ DigitsLast w := by
  induction w with
  | nil => simp [Whole, DigitsLast]
  | cons a w ih =>
    obtain ⟨ha, hw⟩ := List.forall_mem_cons.mp halnum
    have hclean := not_isSeparator_of_isAlphanum (isAlphanum_toUpper ha)
    cases w with
    | nil => simp [Whole, DigitsLast, hclean]
    | cons b w =>
      obtain ⟨hb, hrest⟩ := List.forall_mem_cons.mp hw
      obtain ⟨-, hend, hwhole⟩ := h
      have hnext : ∀ c ∈ w.head?, isAlphanum c = true :=
        fun c hc => hrest c (List.mem_of_mem_head? hc)
      have hiff := endsBefore_toUpper_iff ha hb hnext hend
      rw [← List.head?_map] at hiff
      rw [DigitsLast, List.isChain_cons_cons, ← hiff]
      show _ ∧ _ ∧ Whole ((b :: w).map Char.toUpper) ↔ _ ∧ DigitsLast (b :: w)
      rw [ih hw hwhole]
      exact and_iff_right hclean

/-- The words of a plain name are each one word in upper case iff the name has its digits last. -/
theorem splitWords_upper_iff (hplain : IsPlain cs) :
    (∀ w ∈ splitWords cs, splitWords (upper w) = [upper w]) ↔ DigitsLast cs := by
  rw [digitsLast_iff hplain]
  refine forall₂_congr fun w hw => ?_
  have halnum := isAlphanum_of_word hplain hw
  rw [splitWords_eq_singleton_iff, upper_of_isAlphanum halnum,
    whole_map_toUpper_iff halnum (whole_of_mem_splitWords hw)]
  exact and_iff_right fun hnil => ne_nil_of_mem_splitWords hw (List.map_eq_nil_iff.mp hnil)

/-! ## Capitalised words -/

/-- A capital that starts no word stands behind another one, and before no small letter. -/
theorem isUpper_of_not_endsBefore (ha : isAlphanum a = true) (h : endsBefore a b next = false)
    (hb : isUpper b = true) : isUpper a = true ∧ next.any isLower = false := by
  rw [endsBefore, Bool.or_eq_false_iff, startsWord, hb, Bool.true_and] at h
  rcases kind_of_isAlphanum ha with ⟨hu, hl, hd⟩ | ⟨hu, hl, hd⟩ | ⟨hu, hl, hd⟩ <;>
    simp_all

/-- A word without a capital in front has none at all. -/
theorem not_isUpper_of_whole (halnum : ∀ c ∈ w, isAlphanum c = true) (h : Whole w)
    (hfirst : ∀ c ∈ w.head?, isUpper c = false) : ∀ c ∈ w, isUpper c = false := by
  induction w with
  | nil => exact fun c hc => absurd hc List.not_mem_nil
  | cons a w ih =>
    obtain ⟨ha, hw⟩ := List.forall_mem_cons.mp halnum
    refine List.forall_mem_cons.mpr ⟨hfirst a rfl, ?_⟩
    cases w with
    | nil => exact fun c hc => absurd hc List.not_mem_nil
    | cons b w =>
      obtain ⟨-, hend, hwhole⟩ := h
      refine ih hw hwhole fun c hc => ?_
      obtain rfl : b = c := Option.some.inj hc
      rw [Bool.eq_false_iff]
      intro hb
      have hupper := (isUpper_of_not_endsBefore ha hend hb).1
      rw [hfirst a rfl] at hupper
      exact Bool.noConfusion hupper

/-- Behind a digit, a word without capitals has only digits where digits come last. -/
theorem not_isLower_of_digitsLast (halnum : ∀ c ∈ w, isAlphanum c = true) (h : DigitsLast w)
    (hupper : ∀ c ∈ w, isUpper c = false) (hfirst : ∀ c ∈ w.head?, isLower c = false) :
    ∀ c ∈ w, isLower c = false := by
  induction w with
  | nil => exact fun c hc => absurd hc List.not_mem_nil
  | cons a w ih =>
    obtain ⟨ha, hw⟩ := List.forall_mem_cons.mp halnum
    obtain ⟨hua, huw⟩ := List.forall_mem_cons.mp hupper
    have hla := hfirst a rfl
    refine List.forall_mem_cons.mpr ⟨hla, ?_⟩
    cases w with
    | nil => exact fun c hc => absurd hc List.not_mem_nil
    | cons b w =>
      rw [DigitsLast, List.isChain_cons_cons] at h
      refine ih hw h.2 huw fun c hc => ?_
      obtain rfl : b = c := Option.some.inj hc
      have hdigit : isDigit a = true := by
        have hkind := kind_of_isAlphanum ha
        rw [hua, hla] at hkind
        simpa using hkind
      exact h.1 hdigit

/-- A word with its digits last is all capitals and digits, or has no capital but the first. -/
theorem not_isLower_or_not_isUpper (halnum : ∀ c ∈ w, isAlphanum c = true) (hwhole : Whole w)
    (h : DigitsLast w) :
    (∀ c ∈ w, isLower c = false) ∨ ∀ c ∈ w.tail, isUpper c = false := by
  induction w with
  | nil => exact Or.inl fun c hc => absurd hc List.not_mem_nil
  | cons a w ih =>
    obtain ⟨ha, hw⟩ := List.forall_mem_cons.mp halnum
    cases w with
    | nil => exact Or.inr fun c hc => absurd hc List.not_mem_nil
    | cons b w =>
      obtain ⟨-, hend, hrest⟩ := hwhole
      rw [DigitsLast, List.isChain_cons_cons] at h
      cases hb : isUpper b with
      | false =>
        right
        refine not_isUpper_of_whole hw hrest fun c hc => ?_
        obtain rfl : b = c := Option.some.inj hc
        exact hb
      | true =>
        obtain ⟨hua, hnext⟩ := isUpper_of_not_endsBefore ha hend hb
        obtain ⟨hbalnum, hwalnum⟩ := List.forall_mem_cons.mp hw
        left
        refine List.forall_mem_cons.mpr ⟨not_isLower_of_isUpper ha hua, ?_⟩
        rcases ih hw hrest h.2 with hsmall | hcapital
        · exact hsmall
        · -- Two capitals, and behind them neither a capital nor, at first, a small letter.
          refine List.forall_mem_cons.mpr ⟨not_isLower_of_isUpper hbalnum hb, ?_⟩
          refine not_isLower_of_digitsLast hwalnum h.2.tail hcapital fun c hc => ?_
          rw [Option.mem_def.mp hc] at hnext
          exact hnext

/-- A word with a capital in front and small letters behind it. -/
def titled : List Char → List Char
  | [] => []
  | a :: w => a.toUpper :: w.map Char.toLower

/-- A word of letters and digits that is no acronym to be kept is capitalised by its letters. -/
theorem capitalize_eq_titled {keepAcronyms : Bool} (halnum : ∀ c ∈ w, isAlphanum c = true)
    (h : (keepAcronyms && isUpperWord w) = false) : capitalize keepAcronyms w = titled w := by
  unfold capitalize
  rw [h]
  cases w with
  | nil => rfl
  | cons a w =>
    obtain ⟨ha, hw⟩ := List.forall_mem_cons.mp halnum
    show upper [a] ++ lower w = titled (a :: w)
    rw [upper_of_isAlphanum (List.forall_mem_singleton.mpr ha), lower_of_isAlphanum hw]
    rfl

theorem isAlphanum_titled (halnum : ∀ c ∈ w, isAlphanum c = true) :
    ∀ c ∈ titled w, isAlphanum c = true := by
  cases w with
  | nil => exact halnum
  | cons a w =>
    obtain ⟨ha, hw⟩ := List.forall_mem_cons.mp halnum
    exact List.forall_mem_cons.mpr
      ⟨isAlphanum_toUpper ha, List.forall_mem_map.mpr fun c hc => isAlphanum_toLower (hw c hc)⟩

theorem map_toLower_map_toLower (halnum : ∀ c ∈ w, isAlphanum c = true) :
    (w.map Char.toLower).map Char.toLower = w.map Char.toLower := by
  rw [List.map_map]
  exact List.map_congr_left fun c hc => toLower_toLower (halnum c hc)

/-- Recasing a word keeps its letters. -/
theorem map_toLower_titled (halnum : ∀ c ∈ w, isAlphanum c = true) :
    (titled w).map Char.toLower = w.map Char.toLower := by
  cases w with
  | nil => rfl
  | cons a w =>
    obtain ⟨ha, hw⟩ := List.forall_mem_cons.mp halnum
    rw [titled, List.map_cons, toLower_toUpper ha, map_toLower_map_toLower hw, List.map_cons]

theorem not_isUpper_of_mem_tail_titled (halnum : ∀ c ∈ w, isAlphanum c = true) :
    ∀ c ∈ (titled w).tail, isUpper c = false := by
  cases w with
  | nil => exact fun c hc => absurd hc List.not_mem_nil
  | cons a w =>
    exact List.forall_mem_map.mpr fun c hc =>
      (isDigit_toLower (halnum c (List.mem_cons_of_mem _ hc))).2.2

/-- A word with one capital in front is one word again. -/
theorem whole_titled (halnum : ∀ c ∈ w, isAlphanum c = true) : Whole (titled w) :=
  whole_of_not_isUpper
    (fun c hc => not_isSeparator_of_isAlphanum (isAlphanum_titled halnum c hc))
    (not_isUpper_of_mem_tail_titled halnum)

theorem map_toLower_of_not_isUpper (halnum : ∀ c ∈ w, isAlphanum c = true)
    (h : ∀ c ∈ w, isUpper c = false) : w.map Char.toLower = w := by
  rw [List.map_congr_left fun c hc => toLower_of_not_isUpper (halnum c hc) (h c hc), List.map_id']

/-- Behind its first character a word without capitals keeps its letters. -/
theorem titled_of_not_isUpper (halnum : ∀ c ∈ w, isAlphanum c = true)
    (htail : ∀ c ∈ w.tail, isUpper c = false) : titled w = w.modifyHead Char.toUpper := by
  cases w with
  | nil => rfl
  | cons a w =>
    exact congrArg (a.toUpper :: ·)
      (map_toLower_of_not_isUpper (List.forall_mem_cons.mp halnum).2 htail)

/-- A word whose first letter is a capital already stays with it. -/
theorem modifyHead_toUpper_of_not_isLower (halnum : ∀ c ∈ w, isAlphanum c = true)
    (hfirst : ∀ c ∈ w.head?, isLower c = false) : w.modifyHead Char.toUpper = w := by
  cases w with
  | nil => rfl
  | cons a w =>
    have ha := toUpper_of_not_isLower (halnum a (List.mem_cons_self ..)) (hfirst a rfl)
    exact congrArg (· :: w) ha

/-- An acronym has no small letter. -/
theorem not_isLower_of_isUpperWord (h : isUpperWord w = true) : ∀ c ∈ w, isLower c = false := by
  rw [isUpperWord, Bool.and_eq_true, Bool.not_eq_true', List.any_eq_false] at h
  intro c hc
  have hcased := h.2 c hc
  rw [Bool.or_eq_true, not_or] at hcased
  exact Bool.eq_false_iff.mpr hcased.1

/-- An acronym is kept, its first letter being a capital. -/
theorem capitalize_of_isUpperWord (halnum : ∀ c ∈ w, isAlphanum c = true)
    (h : isUpperWord w = true) : capitalize true w = w.modifyHead Char.toUpper := by
  have hsmall := not_isLower_of_isUpperWord h
  rw [modifyHead_toUpper_of_not_isLower halnum fun c hc => hsmall c (List.mem_of_mem_head? hc),
    capitalize, h]
  rfl

/-- A word without capitals behind its first character only has that one raised. -/
theorem capitalize_of_not_isUpper (halnum : ∀ c ∈ w, isAlphanum c = true)
    (htail : ∀ c ∈ w.tail, isUpper c = false) :
    capitalize true w = w.modifyHead Char.toUpper := by
  cases hkept : isUpperWord w with
  | true => exact capitalize_of_isUpperWord halnum hkept
  | false =>
    rw [capitalize_eq_titled halnum (by rw [hkept, Bool.and_false]),
      titled_of_not_isUpper halnum htail]

/-- A word with its digits last is capitalised by its first character alone. -/
theorem capitalize_of_digitsLast (halnum : ∀ c ∈ w, isAlphanum c = true) (hwhole : Whole w)
    (h : DigitsLast w) : capitalize true w = w.modifyHead Char.toUpper := by
  rcases not_isLower_or_not_isUpper halnum hwhole h with hsmall | hcapital
  · by_cases hany : w.any isUpper = true
    · -- An acronym is kept.
      refine capitalize_of_isUpperWord halnum ?_
      rw [isUpperWord, hany, Bool.true_and, Bool.not_eq_true', List.any_eq_false]
      intro c hc
      rw [hsmall c hc, not_isTitle_of_isAlphanum (halnum c hc)]
      exact Bool.false_ne_true
    · refine capitalize_of_not_isUpper halnum fun c hc => ?_
      rw [Bool.not_eq_true, List.any_eq_false] at hany
      exact Bool.eq_false_iff.mpr (hany c (List.mem_of_mem_tail hc))
  · exact capitalize_of_not_isUpper halnum hcapital

/-- A word with its digits last is as it is capitalised, if no small letter stands in front. -/
theorem capitalize_eq_self (halnum : ∀ c ∈ w, isAlphanum c = true) (hwhole : Whole w)
    (h : DigitsLast w) (hfirst : ∀ c ∈ w.head?, isLower c = false) : capitalize true w = w := by
  rw [capitalize_of_digitsLast halnum hwhole h, modifyHead_toUpper_of_not_isLower halnum hfirst]

/-! ## The first characters of words -/

/-- Without separators, the first word starts as the name does and every other with a capital. -/
theorem head_of_splitWords (hclean : ∀ c ∈ cs, isSeparator c = false) :
    (∀ w ∈ (splitWords cs).head?, w.head? = cs.head?) ∧
      ∀ w ∈ (splitWords cs).tail, ∀ c ∈ w.head?, isUpper c = true := by
  revert hclean
  refine splitWords_induction (motive := fun cs ws => (∀ c ∈ cs, isSeparator c = false) →
    (∀ w ∈ ws.head?, w.head? = cs.head?) ∧ ∀ w ∈ ws.tail, ∀ c ∈ w.head?, isUpper c = true)
    ?nil ?separator ?last ?ends ?grows cs
  case nil => simp
  case separator =>
    intro a cs ws ha _ hclean
    rw [hclean a (List.mem_cons_self ..)] at ha
    exact Bool.noConfusion ha
  case last => simp
  case ends =>
    intro a b cs ws _ hend ih hclean
    obtain ⟨-, hrest⟩ := List.forall_mem_cons.mp hclean
    obtain ⟨hfirst, htail⟩ := ih hrest
    refine ⟨fun w hw => by rw [← Option.some.inj hw]; rfl, fun w hw c hc => ?_⟩
    have hb : isUpper b = true := by
      rw [endsBefore, hrest b (List.mem_cons_self ..), Bool.false_or, startsWord,
        Bool.and_eq_true] at hend
      exact hend.1
    cases ws with
    | nil => exact absurd hw List.not_mem_nil
    | cons v ws =>
      rcases List.mem_cons.mp hw with rfl | hw
      · rw [hfirst w rfl] at hc
        rwa [← Option.some.inj hc]
      · exact htail w hw c hc
  case grows =>
    intro a b cs w ws _ _ _ ih hclean
    obtain ⟨-, htail⟩ := ih (List.forall_mem_cons.mp hclean).2
    exact ⟨fun v hv => by rw [← Option.some.inj hv]; rfl, htail⟩

/-! ## Names written without separators -/

/-- A text of letters and digits with its digits last. -/
structure Joined (cs : List Char) : Prop where
  alphanum : ∀ c ∈ cs, isAlphanum c = true
  digitsLast : DigitsLast cs

namespace Joined

theorem clean (h : Joined cs) : ∀ c ∈ cs, isSeparator c = false :=
  fun c hc => not_isSeparator_of_isAlphanum (h.alphanum c hc)

theorem word (hplain : IsPlain cs) (h : DigitsLast cs) (hw : w ∈ splitWords cs) : Joined w :=
  ⟨isAlphanum_of_word hplain hw, (digitsLast_iff hplain).mp h w hw⟩

theorem words (h : Joined cs) (hw : w ∈ splitWords cs) : Joined w :=
  word (fun c hc => Or.inl (h.alphanum c hc)) h.digitsLast hw

theorem nil : Joined [] :=
  ⟨fun _ hc => absurd hc List.not_mem_nil, List.IsChain.nil⟩

/-- Two texts can stand next to each other if the second starts with no small letter. -/
theorem append {xs ys : List Char} (hx : Joined xs) (hy : Joined ys)
    (hfirst : ∀ c ∈ ys.head?, isLower c = false) : Joined (xs ++ ys) :=
  ⟨List.forall_mem_append.mpr ⟨hx.alphanum, hy.alphanum⟩,
    List.isChain_append.mpr ⟨hx.digitsLast, hy.digitsLast, fun _ _ c hc _ => hfirst c hc⟩⟩

/-- All words but the first are capitalised. -/
theorem capitalize_of_mem_tail (h : Joined cs) :
    ∀ w ∈ (splitWords cs).tail, capitalize true w = w := by
  intro w hw
  have hmem := List.mem_of_mem_tail hw
  have hword := h.words hmem
  refine capitalize_eq_self hword.alphanum (whole_of_mem_splitWords hmem) hword.digitsLast
    fun c hc => ?_
  exact not_isLower_of_isUpper (hword.alphanum c (List.mem_of_mem_head? hc))
    ((head_of_splitWords h.clean).2 w hw c hc)

/-- Where no small letter is in front, all words are capitalised. -/
theorem pascal (h : Joined cs) (hfirst : ∀ c ∈ cs.head?, isLower c = false) :
    ∀ w ∈ splitWords cs, capitalize true w = w := by
  have hhead := (head_of_splitWords h.clean).1
  have htail := h.capitalize_of_mem_tail
  have hwords {w} (hw : w ∈ splitWords cs) := And.intro (h.words hw) (whole_of_mem_splitWords hw)
  cases hsplit : splitWords cs with
  | nil => exact fun w hw => absurd hw List.not_mem_nil
  | cons w ws =>
    rw [hsplit] at hhead htail hwords
    rw [← hhead w rfl] at hfirst
    obtain ⟨hword, hwhole⟩ := hwords (List.mem_cons_self ..)
    exact List.forall_mem_cons.mpr
      ⟨capitalize_eq_self hword.alphanum hwhole hword.digitsLast hfirst, htail⟩

/-- Where no capital is in front, the first word is in small letters. -/
theorem cameled (h : Joined cs) (hfirst : ∀ c ∈ cs.head?, isUpper c = false) :
    Cameled (splitWords cs) := by
  have hhead := (head_of_splitWords h.clean).1
  have htail := h.capitalize_of_mem_tail
  have hwords {w} (hw : w ∈ splitWords cs) := And.intro (h.words hw) (whole_of_mem_splitWords hw)
  cases hsplit : splitWords cs with
  | nil => trivial
  | cons w ws =>
    rw [hsplit] at hhead htail hwords
    rw [← hhead w rfl] at hfirst
    obtain ⟨hword, hwhole⟩ := hwords (List.mem_cons_self ..)
    have hupper := not_isUpper_of_whole hword.alphanum hwhole hfirst
    refine ⟨?_, htail⟩
    rw [lower_of_isAlphanum hword.alphanum, map_toLower_of_not_isUpper hword.alphanum hupper]

/-- Behind a digit a word has only digits, so that a change of case moves no small letter there. -/
theorem isChain_isDigit (h : Joined w) (hwhole : Whole w) :
    w.IsChain fun a b => isDigit a = true → isDigit b = true := by
  obtain ⟨halnum, hlast⟩ := h
  induction w with
  | nil => exact List.IsChain.nil
  | cons a w ih =>
    obtain ⟨ha, hw⟩ := List.forall_mem_cons.mp halnum
    cases w with
    | nil => exact List.IsChain.singleton a
    | cons b w =>
      obtain ⟨-, hend, hrest⟩ := hwhole
      rw [DigitsLast, List.isChain_cons_cons] at hlast
      rw [List.isChain_cons_cons]
      refine ⟨fun hdigit => ?_, ih hrest hw hlast.2⟩
      have hsmall := hlast.1 hdigit
      rcases kind_of_isAlphanum (hw b (List.mem_cons_self ..)) with
        ⟨hb, -, -⟩ | ⟨-, hb, -⟩ | ⟨-, -, hb⟩
      · have hkind := kind_of_isAlphanum ha
        rw [(isUpper_of_not_endsBefore ha hend hb).1, hdigit] at hkind
        simp at hkind
      · rw [hsmall] at hb
        exact Bool.noConfusion hb
      · exact hb

/-- A word in lower case. -/
theorem lower (h : Joined w) (hwhole : Whole w) : Joined (lower w) := by
  have hdigits := h.isChain_isDigit hwhole
  rw [lower_of_isAlphanum h.alphanum]
  refine ⟨List.forall_mem_map.mpr fun c hc => isAlphanum_toLower (h.alphanum c hc), ?_⟩
  rw [DigitsLast, List.isChain_map]
  refine hdigits.imp_of_mem_imp fun a b ha hb hstep hdigit => ?_
  obtain ⟨-, hlower, -⟩ := isDigit_toLower (h.alphanum b hb)
  rw [(isDigit_toLower (h.alphanum a ha)).1] at hdigit
  rw [hlower, hstep hdigit]
  rfl

/-- A word with a capital in front and small letters behind it. -/
theorem titled (h : Joined w) (hwhole : Whole w) : Joined (titled w) := by
  refine ⟨isAlphanum_titled h.alphanum, ?_⟩
  cases w with
  | nil => exact List.IsChain.nil
  | cons a w =>
    obtain ⟨ha, hw⟩ := List.forall_mem_cons.mp h.alphanum
    have hdigits := List.isChain_cons.mp (h.isChain_isDigit hwhole)
    have hrest : DigitsLast (w.map Char.toLower) := by
      rw [← lower_of_isAlphanum hw]
      exact (lower ⟨hw, h.digitsLast.tail⟩ (whole_of_cons hwhole)).digitsLast
    refine List.isChain_cons.mpr ⟨fun c hc hdigit => ?_, hrest⟩
    rw [List.head?_map] at hc
    obtain ⟨b, hb, rfl⟩ := Option.map_eq_some_iff.mp hc
    rw [(isDigit_toUpper ha).1] at hdigit
    obtain ⟨-, hlower, -⟩ := isDigit_toLower (hw b (List.mem_of_mem_head? hb))
    rw [hlower, hdigits.1 b hb hdigit]
    rfl

/-- A word that is capitalised, which starts with no small letter. -/
theorem capitalize (keepAcronyms : Bool) (h : Joined w) (hwhole : Whole w) :
    Joined (capitalize keepAcronyms w) ∧
      ∀ c ∈ (Naming.capitalize keepAcronyms w).head?, isLower c = false := by
  cases hkept : keepAcronyms && isUpperWord w with
  | true =>
    rw [Naming.capitalize, hkept]
    exact ⟨h, fun c hc => not_isLower_of_isUpperWord (Bool.and_eq_true_iff.mp hkept).2 c
      (List.mem_of_mem_head? hc)⟩
  | false =>
    rw [capitalize_eq_titled h.alphanum hkept]
    refine ⟨h.titled hwhole, fun c hc => ?_⟩
    cases w with
    | nil => exact absurd hc (Option.not_mem_none c)
    | cons a w =>
      rw [← Option.some.inj hc]
      exact (isDigit_toUpper (h.alphanum a (List.mem_cons_self ..))).2.2

/-- Words that are capitalised and put together. -/
theorem flatMap_capitalize (keepAcronyms : Bool) (h : ∀ w ∈ ws, Joined w ∧ Whole w) :
    Joined (ws.flatMap (Naming.capitalize keepAcronyms)) ∧
      ∀ c ∈ (ws.flatMap (Naming.capitalize keepAcronyms)).head?, isLower c = false := by
  induction ws with
  | nil => exact ⟨nil, fun c hc => absurd hc (Option.not_mem_none c)⟩
  | cons w ws ih =>
    obtain ⟨⟨hword, hwhole⟩, hws⟩ := List.forall_mem_cons.mp h
    obtain ⟨hfirst, hhead⟩ := hword.capitalize keepAcronyms hwhole
    obtain ⟨hrest, hnext⟩ := ih hws
    rw [List.flatMap_cons]
    refine ⟨hfirst.append hrest hnext, fun c hc => ?_⟩
    rw [List.head?_append] at hc
    rcases Option.or_eq_some_iff.mp hc with hc | ⟨-, hc⟩
    · exact hhead c hc
    · exact hnext c hc

end Joined

/-! ## What settles -/

/-- A plain name is plain without its escape, and has its digits last as before. -/
theorem IsPlain.unescape (h : IsPlain cs) : IsPlain (unescape cs) :=
  fun c hc => h c (mem_of_mem_unescape hc)

theorem digitsLast_unescape : DigitsLast (unescape cs) ↔ DigitsLast cs := by
  by_cases hescaped : Escaped cs
  · obtain ⟨base, hreserved, hne, rfl⟩ := hescaped
    rw [unescape_escaped hreserved hne, DigitsLast, DigitsLast, List.isChain_append]
    refine ⟨fun h => ⟨h, List.IsChain.singleton '_', fun _ _ c hc _ => ?_⟩, fun h => h.1⟩
    rw [← Option.some.inj hc]
    rfl
  · rw [unescape_of_not_escaped hescaped]

/-- In the conventions with separators and small letters every plain name settles. -/
theorem settles_snake (h : IsPlain cs) : Settles cs .snakeCase ∧ Settles cs .kebabCase :=
  have hwords : ∀ w ∈ splitWords (unescape cs), splitWords (lower w) = [lower w] := fun _ hw =>
    splitWords_lower hw (isAscii_of_isAlphanum (isAlphanum_of_word h.unescape hw))
  ⟨hwords, hwords⟩

/-- In the screaming conventions a plain name settles iff it has its digits last. -/
theorem screaming_iff_digitsLast (h : IsPlain cs) :
    (Settles cs .screamingSnakeCase ↔ DigitsLast cs) ∧
      (Settles cs .screamingKebabCase ↔ DigitsLast cs) := by
  rw [← digitsLast_unescape]
  exact ⟨splitWords_upper_iff h.unescape, splitWords_upper_iff h.unescape⟩

/-- Words that are put together, the first in small letters. -/
theorem camel_settles (keepAcronyms : Bool) (hne : ∀ w ∈ ws, w ≠ [])
    (h : ∀ w ∈ ws, Joined w ∧ Whole w) : Cameled (splitWords (camel keepAcronyms ws)) := by
  cases ws with
  | nil => trivial
  | cons w ws =>
    obtain ⟨⟨hword, hwhole⟩, hws⟩ := List.forall_mem_cons.mp h
    obtain ⟨hrest, hnext⟩ := Joined.flatMap_capitalize keepAcronyms hws
    refine ((hword.lower hwhole).append hrest hnext).cameled fun c hc => ?_
    obtain ⟨a, w, rfl⟩ := List.exists_cons_of_ne_nil (hne w (List.mem_cons_self ..))
    rw [lower_of_isAlphanum hword.alphanum] at hc
    rw [← Option.some.inj hc]
    exact (isDigit_toLower (hword.alphanum a (List.mem_cons_self ..))).2.2

/-- A plain name with its digits last settles in every convention but small letters, and there,
too, unless an escape appears. -/
theorem settles_of_digitsLast (hplain : IsPlain cs) (h : DigitsLast cs) (convention : Convention)
    (hescape : convention = .lowercase → ¬ Escaped (lower (unescape cs))) :
    Settles cs convention := by
  have hwords : ∀ w ∈ splitWords (unescape cs), Joined w ∧ Whole w := fun w hw =>
    ⟨Joined.word hplain.unescape (digitsLast_unescape.mpr h) hw, whole_of_mem_splitWords hw⟩
  cases convention with
  | lowercase => exact hescape rfl
  | uppercase => trivial
  | snakeCase => exact (settles_snake hplain).1
  | kebabCase => exact (settles_snake hplain).2
  | screamingSnakeCase => exact (screaming_iff_digitsLast hplain).1.mpr h
  | screamingKebabCase => exact (screaming_iff_digitsLast hplain).2.mpr h
  | camelCase =>
    exact camel_settles (!(unescape cs).any isSeparator)
      (fun _ hw => ne_nil_of_mem_splitWords hw) hwords
  | pascalCase =>
    obtain ⟨hjoined, hfirst⟩ :=
      Joined.flatMap_capitalize (!(unescape cs).any isSeparator) hwords
    exact hjoined.pascal hfirst

/-! ## Conversions -/

/-- A second conversion changes nothing iff the identifier settles, which plain names with their
digits last do unless an escape appears in small letters. -/
theorem convert_convert_iff (identifier : String) (convention : Convention) :
    (convert (convert identifier convention) convention = convert identifier convention ↔
        Settles identifier.toList convention) ∧
      (IsPlain identifier.toList → DigitsLast identifier.toList →
        (convention = .lowercase → ¬ Escaped (lower (unescape identifier.toList))) →
        Settles identifier.toList convention) := by
  refine ⟨?_, fun hplain hlast => settles_of_digitsLast hplain hlast convention⟩
  rw [← convertChars_again_iff, convert, convert, String.toList_ofList, String.ofList_inj]

/-- A name of two words, one of them an acronym, with its digits last. -/
theorem convert_convert_serverPort :
    (IsPlain "HTTPServer_port2".toList ∧ DigitsLast "HTTPServer_port2".toList) ∧
      convert (convert "HTTPServer_port2" .camelCase) .camelCase =
        convert "HTTPServer_port2" .camelCase := by
  have hplain : IsPlain "HTTPServer_port2".toList := by decide
  have hlast : DigitsLast "HTTPServer_port2".toList := by decide
  obtain ⟨hiff, hsettles⟩ := convert_convert_iff "HTTPServer_port2" .camelCase
  exact ⟨⟨hplain, hlast⟩, hiff.mpr (hsettles hplain hlast fun h => Convention.noConfusion h)⟩

/-- An escape appears in small letters, a word falls apart behind a digit, and an acronym that two
words make up loses its capital. -/
theorem convert_unsettled :
    convert (convert "CLASS_" .lowercase) .lowercase ≠ convert "CLASS_" .lowercase ∧
      convert (convert "sha256sum" .screamingSnakeCase) .screamingSnakeCase ≠
        convert "sha256sum" .screamingSnakeCase ∧
      convert (convert "b_c1x" .pascalCase) .pascalCase ≠ convert "b_c1x" .pascalCase := by
  decide

end RowDecoding.Naming
