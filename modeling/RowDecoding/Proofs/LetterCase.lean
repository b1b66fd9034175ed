import RowDecoding.Text.Case

/-!
# Changing the case of letters

What the case mappings do once their result is given to them again: nothing. A mapping moves spans
of code points and replaces a few characters by others, and no code point that it leads to is one
that it changes (`mapped_mapped`); the tables are checked for this. So a text in upper case is its
own upper case, and likewise for lower case, where no capital sigma is left to look around itself
(`upper_upper`, `lower_lower`). No mapping loses a character.
-/

namespace RowDecoding.Text

/-! ## Tables of spans -/

theorem Span.covers_iff {s : Span} {code : Nat} : s.covers code = true ↔
    s.first ≤ code ∧ code ≤ s.last ∧ (code - s.first) % s.step = 0 := by
  simp [covers, and_assoc]

/-- The code points of a span, one by one. -/
def Span.codes (s : Span) : List Nat :=
  List.range' s.first ((s.last - s.first) / s.step + 1) s.step

theorem Span.mem_codes {s : Span} {code : Nat} (h : s.covers code = true) : code ∈ s.codes := by
  obtain ⟨hfirst, hlast, hstep⟩ := covers_iff.mp h
  refine List.mem_range'.mpr ⟨(code - s.first) / s.step, ?_, ?_⟩
  · exact Nat.lt_succ_of_le (Nat.div_le_div_right (by omega))
  · have hdiv := Nat.mod_add_div (code - s.first) s.step
    omega

/-- The code points of a table. -/
def codesOf (table : List Span) : List Nat :=
  table.flatMap Span.codes

theorem mem_codesOf {table : List Span} {code : Nat} (h : covered table code = true) :
    code ∈ codesOf table := by
  obtain ⟨s, hs, hcovers⟩ := List.any_eq_true.mp h
  exact List.mem_flatMap.mpr ⟨s, hs, Span.mem_codes hcovers⟩

/-- A number with the bits of these code points set. It answers for a whole table at once. -/
def bitsOf (codes : List Nat) : Nat :=
  codes.foldr (fun code bits => bits ||| 1 <<< code) 0

theorem testBit_bitsOf {codes : List Nat} {code : Nat} (h : code ∈ codes) :
    (bitsOf codes).testBit code = true := by
  induction codes with
  | nil => exact absurd h List.not_mem_nil
  | cons first codes ih =>
    rw [bitsOf, List.foldr_cons, ← bitsOf, Nat.testBit_or, Bool.or_eq_true]
    rcases List.mem_cons.mp h with rfl | h
    · rw [Nat.one_shiftLeft]
      exact Or.inr Nat.testBit_two_pow_self
    · exact Or.inl (ih h)

/-- Whether none of the code points lies on the table. -/
def avoids (codes : List Nat) (table : List Span) : Bool :=
  codes.all fun code => !(bitsOf (codesOf table)).testBit code

theorem not_covered_of_avoids {codes : List Nat} {table : List Span} {code : Nat}
    (h : avoids codes table = true) (hc : code ∈ codes) : covered table code = false := by
  rw [Bool.eq_false_iff]
  intro hcovered
  have hbit := List.all_eq_true.mp h code hc
  rw [testBit_bitsOf (mem_codesOf hcovered)] at hbit
  exact Bool.noConfusion hbit

/-! ## Case mappings -/

section

variable {expansions : List (Nat × List Nat)} {shifts : List CaseMap.Shift} {c d : Char}

/-- A number is the number of its character, or counts as zero where it has none. -/
theorem toNat_ofNat_or (n : Nat) : (Char.ofNat n).toNat = n ∨ (Char.ofNat n).toNat = 0 := by
  by_cases h : n.isValidChar
  · exact Or.inl (congrArg Char.toNat (dif_pos h))
  · exact Or.inr (congrArg Char.toNat (dif_neg h))

/-- The code points that a mapping changes. -/
def changed (expansions : List (Nat × List Nat)) (shifts : List CaseMap.Shift) : List Span :=
  shifts.map (·.span) ++ expansions.map fun e => ⟨e.1, e.1, 1⟩

/-- The code points that a mapping leads to, and zero for a number that has no character. -/
def targets (expansions : List (Nat × List Nat)) (shifts : List CaseMap.Shift) : List Nat :=
  0 :: (shifts.flatMap (fun s => s.span.codes.map fun (code : Nat) => (code + s.distance).toNat) ++
    expansions.flatMap (·.2))

theorem toNat_mem_targets {n : Nat} (h : n ∈ targets expansions shifts) :
    (Char.ofNat n).toNat ∈ targets expansions shifts := by
  rcases toNat_ofNat_or n with hn | hn
  · rwa [hn]
  · rw [hn]
    exact List.mem_cons_self ..

/-- A character outside of what a mapping changes stays. -/
theorem mapped_of_not_changed (h : covered (changed expansions shifts) c.toNat = false) :
    mapped expansions shifts c = [c] := by
  rw [changed, covered_append, Bool.or_eq_false_iff] at h
  obtain ⟨hshifts, hexpansions⟩ := h
  rw [covered, List.any_eq_false, List.forall_mem_map] at hshifts hexpansions
  have hlookup : expansions.lookup c.toNat = none := by
    rw [List.lookup_eq_none_iff]
    intro e he
    rw [bne_iff_ne]
    intro heq
    exact hexpansions e he (Span.covers_iff.mpr ⟨by simp [heq], by simp [heq], Nat.mod_one _⟩)
  have hfind : shifts.find? (·.span.covers c.toNat) = none :=
    List.find?_eq_none.mpr hshifts
  unfold mapped shifted
  rw [hlookup, hfind]

/-- What a mapping makes of a character: its expansion, the character moved by a shift, or the
character. -/
theorem mapped_cases (expansions : List (Nat × List Nat)) (shifts : List CaseMap.Shift) (c : Char) :
    (∃ codes, (c.toNat, codes) ∈ expansions ∧ mapped expansions shifts c = codes.map Char.ofNat) ∨
      (∃ s ∈ shifts, c.toNat ∈ s.span.codes ∧
        mapped expansions shifts c = [Char.ofNat (c.toNat + s.distance).toNat]) ∨
      mapped expansions shifts c = [c] := by
  unfold mapped
  split
  next codes hlookup =>
    obtain ⟨before, after, rfl, -⟩ := List.lookup_eq_some_iff.mp hlookup
    exact Or.inl ⟨codes, List.mem_append_right _ (List.mem_cons_self ..), rfl⟩
  next =>
    unfold shifted
    split
    next s hfind =>
      have hcovers : s.span.covers c.toNat = true := by
        have hfound := List.find?_some hfind
        exact hfound
      exact Or.inr (Or.inl ⟨s, List.mem_of_find?_eq_some hfind, Span.mem_codes hcovers, rfl⟩)
    next => exact Or.inr (Or.inr rfl)

/-- What a mapping makes of a character is the character alone, or one of its targets. -/
theorem unchanged_or_mem_targets (hd : d ∈ mapped expansions shifts c) :
    mapped expansions shifts c = [c] ∨ d.toNat ∈ targets expansions shifts := by
  rcases mapped_cases expansions shifts c with ⟨codes, hcodes, h⟩ | ⟨s, hs, hcode, h⟩ | h
  · rw [h] at hd
    obtain ⟨code, hcode, rfl⟩ := List.mem_map.mp hd
    refine Or.inr (toNat_mem_targets (List.mem_cons_of_mem _ (List.mem_append_right _ ?_)))
    exact List.mem_flatMap.mpr ⟨(c.toNat, codes), hcodes, hcode⟩
  · rw [h, List.mem_singleton] at hd
    subst hd
    refine Or.inr (toNat_mem_targets (List.mem_cons_of_mem _ (List.mem_append_left _ ?_)))
    exact List.mem_flatMap.mpr ⟨s, hs, List.mem_map.mpr ⟨c.toNat, hcode, rfl⟩⟩
  · exact Or.inl h

section

variable {table : List Span}
  (havoids : avoids (targets expansions shifts) (table ++ changed expansions shifts) = true)
  (hd : d ∈ mapped expansions shifts c)
include havoids hd

/-- A mapping that leads to nothing that it changes makes nothing of its own results. -/
theorem mapped_mapped : mapped expansions shifts d = [d] := by
  rcases unchanged_or_mem_targets hd with hsame | htarget
  · rw [hsame, List.mem_singleton] at hd
    rw [hd, hsame]
  · have houtside := not_covered_of_avoids havoids htarget
    rw [covered_append, Bool.or_eq_false_iff] at houtside
    exact mapped_of_not_changed houtside.2

/-- A mapping that leads around a table brings no character onto it. -/
theorem not_covered_of_mem_mapped (hc : covered table c.toNat = false) :
    covered table d.toNat = false := by
  rcases unchanged_or_mem_targets hd with hsame | htarget
  · rw [hsame, List.mem_singleton] at hd
    rwa [hd]
  · have houtside := not_covered_of_avoids havoids htarget
    rw [covered_append, Bool.or_eq_false_iff] at houtside
    exact houtside.1

end

theorem mapped_ne_nil (h : (expansions.all fun e => !e.2.isEmpty) = true) :
    mapped expansions shifts c ≠ [] := by
  rcases mapped_cases expansions shifts c with
    ⟨codes, hcodes, hmapped⟩ | ⟨s, -, -, hmapped⟩ | hmapped
  · have he := List.all_eq_true.mp h (c.toNat, codes) hcodes
    simpa [hmapped] using he
  · exact hmapped ▸ List.cons_ne_nil _ _
  · exact hmapped ▸ List.cons_ne_nil _ _

/-- Below the first code point of all other entries, a mapping only has its first shift. -/
theorem mapped_ascii {first : CaseMap.Shift} (hc : c.toNat < 128)
    (hrest : (shifts.all (128 ≤ ·.span.first) && expansions.all (128 ≤ ·.1)) = true) :
    mapped expansions (first :: shifts) c =
      if first.span.covers c.toNat then [Char.ofNat (c.toNat + first.distance).toNat] else [c] := by
  simp only [Bool.and_eq_true, List.all_eq_true, decide_eq_true_eq] at hrest
  have hexpansions : expansions.lookup c.toNat = none := by
    rw [List.lookup_eq_none_iff]
    intro e he
    have := hrest.2 e he
    rw [bne_iff_ne]
    omega
  have hshifts : shifts.find? (·.span.covers c.toNat) = none := by
    rw [List.find?_eq_none]
    intro s hs hcovers
    have := hrest.1 s hs
    have := (Span.covers_iff.mp hcovers).1
    omega
  unfold mapped shifted
  rw [hexpansions, List.find?_cons, hshifts]
  cases first.span.covers c.toNat <;> rfl

end

/-! ## Upper and lower case -/

section

open CaseMap

variable {c d : Char} {cs : List Char}

/-- For ASCII, too, the upper-case form is the one of the tables. -/
theorem upperChar_eq_mapped (c : Char) : upperChar c = mapped upperExpansions upperShifts c := by
  unfold upperChar
  split
  next hc =>
    rw [show upperShifts = ⟨⟨97, 122, 1⟩, -32⟩ :: upperShifts.tail from rfl,
      mapped_ascii hc (by decide)]
    have hletter : Span.covers ⟨97, 122, 1⟩ c.toNat = (decide ('a' ≤ c) && decide (c ≤ 'z')) := by
      simp only [Span.covers, Nat.mod_one, beq_self_eq_true, Bool.and_true]
      rfl
    rw [hletter, show ((c.toNat : Int) + -32).toNat = c.toNat - 32 by omega]
  next => rfl

/-- For ASCII, too, the lower-case form is the one of the tables. -/
theorem lowerChar_eq_mapped (c : Char) : lowerChar c = mapped lowerExpansions lowerShifts c := by
  unfold lowerChar
  split
  next hc =>
    rw [show lowerShifts = ⟨⟨65, 90, 1⟩, 32⟩ :: lowerShifts.tail from rfl,
      mapped_ascii hc (by decide)]
    have hletter : Span.covers ⟨65, 90, 1⟩ c.toNat = (decide ('A' ≤ c) && decide (c ≤ 'Z')) := by
      simp only [Span.covers, Nat.mod_one, beq_self_eq_true, Bool.and_true]
      rfl
    rw [hletter]
    rfl
  next => rfl

/-- Blanks, hyphens and underscores. -/
def gaps : List Span :=
  ⟨95, 95, 1⟩ :: ⟨45, 45, 1⟩ :: blanks

/-- Upper case leads to no gap and to nothing that it changes itself. -/
theorem upper_avoids : avoids (targets upperExpansions upperShifts)
    (gaps ++ changed upperExpansions upperShifts) = true := by
  decide +kernel

/-- Lower case leads to no gap and to nothing that it changes itself. -/
theorem lower_avoids : avoids (targets lowerExpansions lowerShifts)
    (gaps ++ changed lowerExpansions lowerShifts) = true := by
  decide +kernel

/-- The upper-case form of a character has nothing that upper case changes. -/
theorem upperChar_of_mem_upperChar (h : d ∈ upperChar c) : upperChar d = [d] := by
  rw [upperChar_eq_mapped] at h ⊢
  exact mapped_mapped upper_avoids h

/-- The lower-case form of a character has nothing that lower case changes. -/
theorem lowerChar_of_mem_lowerChar (h : d ∈ lowerChar c) : lowerChar d = [d] := by
  rw [lowerChar_eq_mapped] at h ⊢
  exact mapped_mapped lower_avoids h

/-- The upper-case form of a character that is no gap has none. -/
theorem not_gap_of_mem_upperChar (hc : covered gaps c.toNat = false) (h : d ∈ upperChar c) :
    covered gaps d.toNat = false := by
  rw [upperChar_eq_mapped] at h
  exact not_covered_of_mem_mapped upper_avoids h hc

/-- The lower-case form of a character that is no gap has none. -/
theorem not_gap_of_mem_lowerChar (hc : covered gaps c.toNat = false) (h : d ∈ lowerChar c) :
    covered gaps d.toNat = false := by
  rw [lowerChar_eq_mapped] at h
  exact not_covered_of_mem_mapped lower_avoids h hc

theorem upperChar_ne_nil (c : Char) : upperChar c ≠ [] := by
  rw [upperChar_eq_mapped]
  exact mapped_ne_nil (by decide)

theorem lowerChar_ne_nil (c : Char) : lowerChar c ≠ [] := by
  rw [lowerChar_eq_mapped]
  exact mapped_ne_nil (by decide)

/-- No lower-case form is a capital sigma, which has one of its own. -/
theorem ne_sigma_of_mem_lowerChar (h : d ∈ lowerChar c) : d ≠ 'Σ' := by
  rintro rfl
  exact absurd (lowerChar_of_mem_lowerChar h) (by decide)

/-! ## Texts in upper case -/

theorem upperChar_of_mem_upper (h : d ∈ upper cs) : upperChar d = [d] := by
  obtain ⟨c, -, hd⟩ := List.mem_flatMap.mp h
  exact upperChar_of_mem_upperChar hd

/-- A text is in upper case iff upper case changes none of its characters. -/
theorem upper_eq_self_iff : upper cs = cs ↔ ∀ c ∈ cs, upperChar c = [c] := by
  constructor
  · intro h c hc
    rw [← h] at hc
    exact upperChar_of_mem_upper hc
  · intro h
    calc upper cs = (cs.map upperChar).flatten := List.flatMap_def
      _ = (cs.map fun c => [c]).flatten := by rw [List.map_congr_left h]
      _ = cs := by rw [← List.flatMap_def, List.flatMap_singleton']

theorem upper_upper (cs : List Char) : upper (upper cs) = upper cs :=
  upper_eq_self_iff.mpr fun _ => upperChar_of_mem_upper

theorem upper_cons (c : Char) (cs : List Char) : upper (c :: cs) = upperChar c ++ upper cs :=
  List.flatMap_cons

theorem length_le_upper (cs : List Char) : cs.length ≤ (upper cs).length := by
  induction cs with
  | nil => exact Nat.zero_le _
  | cons c cs ih =>
    have hpos := List.length_pos_iff.mpr (upperChar_ne_nil c)
    rw [upper_cons, List.length_append, List.length_cons]
    omega

/-! ## Texts in lower case -/

theorem mem_lowerAfter {before : List Char} (h : d ∈ lowerAfter before cs) :
    (∃ c ∈ cs, d ∈ lowerChar c) ∨ d = 'ς' ∨ d = 'σ' := by
  induction cs generalizing before with
  | nil => exact absurd h List.not_mem_nil
  | cons c rest ih =>
    rw [lowerAfter, List.mem_append] at h
    rcases h with h | h
    · split at h
      · split at h <;> simp_all
      · exact Or.inl ⟨c, List.mem_cons_self .., h⟩
    · rcases ih h with ⟨c', hc', hd⟩ | hd
      · exact Or.inl ⟨c', List.mem_cons_of_mem _ hc', hd⟩
      · exact Or.inr hd

/-- No text in lower case has a character that lower case changes, or a capital sigma. -/
theorem fixed_of_mem_lower (h : d ∈ lower cs) : lowerChar d = [d] ∧ d ≠ 'Σ' := by
  rcases mem_lowerAfter h with ⟨c, -, hd⟩ | rfl | rfl
  · exact ⟨lowerChar_of_mem_lowerChar hd, ne_sigma_of_mem_lowerChar hd⟩
  · decide
  · decide

theorem lowerAfter_of_fixed (before : List Char) (h : ∀ c ∈ cs, lowerChar c = [c] ∧ c ≠ 'Σ') :
    lowerAfter before cs = cs := by
  induction cs generalizing before with
  | nil => rfl
  | cons c rest ih =>
    obtain ⟨hform, hsigma⟩ := h c (List.mem_cons_self ..)
    rw [lowerAfter, ih _ fun c' hc' => h c' (List.mem_cons_of_mem _ hc')]
    simp only [if_neg hsigma, hform, List.singleton_append]

/-- A text is in lower case iff lower case changes none of its characters. -/
theorem lower_eq_self_iff : lower cs = cs ↔ ∀ c ∈ cs, lowerChar c = [c] ∧ c ≠ 'Σ' := by
  constructor
  · intro h c hc
    rw [← h] at hc
    exact fixed_of_mem_lower hc
  · exact lowerAfter_of_fixed []

theorem lower_lower (cs : List Char) : lower (lower cs) = lower cs :=
  lower_eq_self_iff.mpr fun _ => fixed_of_mem_lower

theorem length_le_lowerAfter (before cs : List Char) :
    cs.length ≤ (lowerAfter before cs).length := by
  induction cs generalizing before with
  | nil => exact Nat.zero_le _
  | cons c rest ih =>
    have hpos := List.length_pos_iff.mpr (lowerChar_ne_nil c)
    have hrest := ih (c :: before)
    rw [lowerAfter, List.length_append, List.length_cons]
    split
    · split <;> simp only [List.length_singleton] <;> omega
    · omega

theorem length_le_lower (cs : List Char) : cs.length ≤ (lower cs).length :=
  length_le_lowerAfter [] cs

end

/-! ## ASCII -/

section

variable {c : Char} {cs : List Char}

/-- A text of ASCII characters only. -/
def IsAscii (cs : List Char) : Prop :=
  ∀ c ∈ cs, c.toNat < 128

instance (cs : List Char) : Decidable (IsAscii cs) :=
  decidable_of_iff ((cs.all fun c => c.toNat < 128) = true)
    (by simp only [IsAscii, List.all_eq_true, decide_eq_true_eq])

/-- What holds of every ASCII character when each has been looked at. -/
@[elab_as_elim]
theorem forall_ascii {P : Char → Prop} (c : Char) (h : ∀ n < 128, P (Char.ofNat n))
    (hc : c.toNat < 128) : P c := by
  have hcode := h c.toNat hc
  rwa [Char.ofNat_toNat] at hcode

theorem upperChar_of_ascii (hc : c.toNat < 128) : upperChar c = [c.toUpper] :=
  forall_ascii c (by decide) hc

theorem lowerChar_of_ascii (hc : c.toNat < 128) : lowerChar c = [c.toLower] ∧ c ≠ 'Σ' :=
  forall_ascii c (by decide) hc

/-- The small form of an ASCII character is an ASCII character, no capital, and has its capital. -/
theorem toLower_of_ascii (hc : c.toNat < 128) :
    c.toLower.toNat < 128 ∧ isUpper c.toLower = false ∧ c.toLower.toUpper = c.toUpper :=
  forall_ascii c (by decide) hc

theorem upper_of_isAscii (h : IsAscii cs) : upper cs = cs.map Char.toUpper := by
  rw [upper, List.flatMap_def, List.map_congr_left fun c hc => upperChar_of_ascii (h c hc),
    ← List.flatMap_def, List.map_eq_flatMap]

theorem lowerAfter_of_isAscii (before : List Char) (h : IsAscii cs) :
    lowerAfter before cs = cs.map Char.toLower := by
  induction cs generalizing before with
  | nil => rfl
  | cons c cs ih =>
    obtain ⟨hc, hcs⟩ := List.forall_mem_cons.mp h
    obtain ⟨hform, hsigma⟩ := lowerChar_of_ascii hc
    rw [lowerAfter, if_neg hsigma, hform, ih _ hcs]
    rfl

theorem lower_of_isAscii (h : IsAscii cs) : lower cs = cs.map Char.toLower :=
  lowerAfter_of_isAscii [] h

theorem isAscii_lower (h : IsAscii cs) : IsAscii (lower cs) := by
  rw [lower_of_isAscii h]
  exact List.forall_mem_map.mpr fun c hc => (toLower_of_ascii (h c hc)).1

/-- No capital is left in lower case. -/
theorem not_isUpper_of_mem_lower (h : IsAscii cs) (hc : c ∈ lower cs) : isUpper c = false := by
  rw [lower_of_isAscii h] at hc
  obtain ⟨d, hd, rfl⟩ := List.mem_map.mp hc
  exact (toLower_of_ascii (h d hd)).2.1

/-- Upper case is found again from lower case. -/
theorem upper_lower_of_isAscii (h : IsAscii cs) : upper (lower cs) = upper cs := by
  rw [upper_of_isAscii (isAscii_lower h), lower_of_isAscii h, upper_of_isAscii h, List.map_map]
  exact List.map_congr_left fun c hc => (toLower_of_ascii (h c hc)).2.2

end

end RowDecoding.Text
