import Mathlib.Data.List.Chain
import RowDecoding.Naming.Convention
import RowDecoding.Proofs.LetterCase

/-!
# How an identifier falls into words

The words hold the characters of the identifier in order, less the separators (`flatten_splitWords`,
`forall_of_mem_splitWords`), and words joined by a separator are found again, each split further on
its own (`splitWords_joinWith`). Inside of a word there is no boundary: `Whole` says so without the
split, and every word is whole by itself (`whole_of_mem_splitWords`).
-/

namespace RowDecoding.Naming

open Text

variable {a b sep : Char} {cs w : List Char} {ws : List (List Char)}

/-! ## Separators -/

theorem beq_eq_covers (c d : Char) : (c == d) = Span.covers ⟨d.toNat, d.toNat, 1⟩ c.toNat := by
  rw [Bool.eq_iff_iff, beq_iff_eq, Span.covers_iff, ← Char.toNat_inj]
  dsimp only
  omega

theorem isSeparator_eq_covered (c : Char) : isSeparator c = covered gaps c.toNat := by
  rw [isSeparator, beq_eq_covers, beq_eq_covers, Bool.or_assoc]
  rfl

theorem isSeparator_underscore : isSeparator '_' = true := rfl

theorem isSeparator_hyphen : isSeparator '-' = true := rfl

/-- What is found without the table is on the table. -/
theorem covered_of_ite {table : List Span} (lo hi : Char)
    (hmem : ⟨lo.toNat, hi.toNat, 1⟩ ∈ table)
    (h : (if a.toNat < 128 then decide (lo ≤ a) && decide (a ≤ hi) else covered table a.toNat) =
      true) : covered table a.toNat = true := by
  split at h
  · rw [Bool.and_eq_true, decide_eq_true_eq, decide_eq_true_eq] at h
    exact List.any_eq_true.mpr ⟨_, hmem, Span.covers_iff.mpr ⟨h.1, h.2, Nat.mod_one _⟩⟩
  · exact h

/-- Separators are neither small letters nor digits. -/
theorem gaps_avoid : avoids (codesOf gaps) (CaseClass.lowercase ++ CharClass.digits) = true := by
  decide +kernel

theorem not_covered_of_isSeparator (h : isSeparator a = true) :
    covered CaseClass.lowercase a.toNat = false ∧ covered CharClass.digits a.toNat = false := by
  rw [isSeparator_eq_covered] at h
  have houtside := not_covered_of_avoids gaps_avoid (mem_codesOf h)
  rwa [covered_append, Bool.or_eq_false_iff] at houtside

theorem not_isSeparator_of_isLower (h : isLower a = true) : isSeparator a = false := by
  have hcovered : covered CaseClass.lowercase a.toNat = true :=
    covered_of_ite 'a' 'z' (List.mem_cons_self ..) h
  rw [Bool.eq_false_iff]
  intro hseparator
  rw [(not_covered_of_isSeparator hseparator).1] at hcovered
  exact Bool.noConfusion hcovered

theorem not_isSeparator_of_isDigit (h : isDigit a = true) : isSeparator a = false := by
  have hcovered : covered CharClass.digits a.toNat = true :=
    covered_of_ite '0' '9' (List.mem_cons_self ..) h
  rw [Bool.eq_false_iff]
  intro hseparator
  rw [(not_covered_of_isSeparator hseparator).2] at hcovered
  exact Bool.noConfusion hcovered

/-- No case mapping leads to a separator. -/
theorem not_isSeparator_of_mem_upper (h : ∀ c ∈ cs, isSeparator c = false) (ha : a ∈ upper cs) :
    isSeparator a = false := by
  obtain ⟨c, hc, hmem⟩ := List.mem_flatMap.mp ha
  have hclean := h c hc
  rw [isSeparator_eq_covered] at hclean ⊢
  exact not_gap_of_mem_upperChar hclean hmem

theorem not_isSeparator_of_mem_lower (h : ∀ c ∈ cs, isSeparator c = false) (ha : a ∈ lower cs) :
    isSeparator a = false := by
  rcases mem_lowerAfter ha with ⟨c, hc, hmem⟩ | rfl | rfl
  · have hclean := h c hc
    rw [isSeparator_eq_covered] at hclean ⊢
    exact not_gap_of_mem_lowerChar hclean hmem
  · decide
  · decide

/-! ## The split, character by character -/

@[simp]
theorem splitWords_nil : splitWords [] = [] := rfl

theorem splitWords_cons_of_isSeparator (h : isSeparator a = true) :
    splitWords (a :: cs) = splitWords cs := by
  rw [splitWords.eq_def]
  exact if_pos h

theorem splitWords_singleton (h : isSeparator a = false) : splitWords [a] = [[a]] := by
  simp [splitWords, h]

/-- Whether the word of `a` ends before `b`, with `next` following it. -/
def endsBefore (a b : Char) (next : Option Char) : Bool :=
  isSeparator b || startsWord a b next

theorem splitWords_cons_of_endsBefore (h : isSeparator a = false)
    (hend : endsBefore a b cs.head? = true) :
    splitWords (a :: b :: cs) = [a] :: splitWords (b :: cs) := by
  rw [splitWords.eq_def]
  dsimp only
  rw [if_neg (Bool.eq_false_iff.mp h)]
  exact if_pos hend

theorem splitWords_cons_of_not_endsBefore (h : isSeparator a = false)
    (hend : endsBefore a b cs.head? = false) :
    splitWords (a :: b :: cs) = extendFirst a (splitWords (b :: cs)) := by
  rw [splitWords.eq_def]
  dsimp only
  rw [if_neg (Bool.eq_false_iff.mp h)]
  exact if_neg (Bool.eq_false_iff.mp hend)

theorem not_isSeparator_of_not_endsBefore {next : Option Char} (h : endsBefore a b next = false) :
    isSeparator b = false :=
  (Bool.or_eq_false_iff.mp h).1

/-- The first character of a text without separators in front begins its first word, and the word
goes on with what comes next. -/
theorem exists_splitWords_cons (h : isSeparator a = false) (cs : List Char) :
    ∃ w ws, splitWords (a :: cs) = (a :: w) :: ws ∧ w <+: cs := by
  induction cs generalizing a with
  | nil => exact ⟨[], [], splitWords_singleton h, List.prefix_rfl⟩
  | cons b cs ih =>
    cases hend : endsBefore a b cs.head? with
    | true => exact ⟨[], _, splitWords_cons_of_endsBefore h hend, List.nil_prefix⟩
    | false =>
      obtain ⟨w, ws, hw, hprefix⟩ := ih (not_isSeparator_of_not_endsBefore hend)
      refine ⟨b :: w, ws, ?_, (List.prefix_cons_inj b).mpr hprefix⟩
      rw [splitWords_cons_of_not_endsBefore h hend, hw]
      rfl

/-- Only a small letter behind it can make a character start a word that starts none before
nothing. -/
theorem startsWord_of_not_isLower {next : Char} (h : isLower next = false) (a b : Char) :
    startsWord a b (some next) = startsWord a b none := by
  simp [startsWord, h]

/-- A text is split in front of a character that ends the word before it, and each side by itself,
unless the character is a small letter, which the capital in front of it would look at. -/
theorem splitWords_append_of_ends {ys : List Char} (hlower : isLower b = false) (xs : List Char)
    (hends : ∀ a ∈ xs.getLast?, endsBefore a b ys.head? = true) :
    splitWords (xs ++ b :: ys) = splitWords xs ++ splitWords (b :: ys) := by
  induction xs with
  | nil => rfl
  | cons a xs ih =>
    cases xs with
    | nil =>
      cases ha : isSeparator a with
      | true =>
        rw [splitWords_cons_of_isSeparator ha]
        exact splitWords_cons_of_isSeparator ha
      | false =>
        rw [splitWords_singleton ha]
        exact splitWords_cons_of_endsBefore ha (hends a rfl)
    | cons c xs =>
      have ih := ih fun d hd => hends d (by rwa [List.getLast?_cons_cons])
      have hsame : endsBefore a c (xs ++ b :: ys).head? = endsBefore a c xs.head? := by
        cases xs with
        | nil =>
          rw [List.nil_append, List.head?_cons, List.head?_nil, endsBefore, endsBefore,
            startsWord_of_not_isLower hlower]
        | cons d xs => rfl
      rw [List.cons_append]
      cases ha : isSeparator a with
      | true => rw [splitWords_cons_of_isSeparator ha, splitWords_cons_of_isSeparator ha, ih]
      | false =>
        cases hend : endsBefore a c xs.head? with
        | true =>
          rw [splitWords_cons_of_endsBefore ha hend, List.cons_append,
            splitWords_cons_of_endsBefore ha (hsame.trans hend), ← List.cons_append, ih,
            List.cons_append]
        | false =>
          obtain ⟨w, ws, hw, -⟩ :=
            exists_splitWords_cons (not_isSeparator_of_not_endsBefore hend) xs
          rw [splitWords_cons_of_not_endsBefore ha hend, List.cons_append,
            splitWords_cons_of_not_endsBefore ha (hsame.trans hend), ← List.cons_append, ih, hw]
          rfl

/-- The two sides of a separator are split by themselves. -/
theorem splitWords_append (h : isSeparator sep = true) (xs ys : List Char) :
    splitWords (xs ++ sep :: ys) = splitWords xs ++ splitWords ys := by
  have hlower : isLower sep = false := by
    rw [Bool.eq_false_iff]
    intro hlower
    rw [not_isSeparator_of_isLower hlower] at h
    exact Bool.noConfusion h
  rw [splitWords_append_of_ends hlower xs fun a _ => by rw [endsBefore, h, Bool.true_or],
    splitWords_cons_of_isSeparator h]

/-- Words joined by a separator are found again, each of them split by itself. -/
theorem splitWords_joinWith (h : isSeparator sep = true) (ws : List (List Char)) :
    splitWords (joinWith sep ws) = ws.flatMap splitWords := by
  induction ws with
  | nil => rfl
  | cons w ws ih =>
    cases ws with
    | nil => simp [joinWith]
    | cons v ws => rw [joinWith, splitWords_append h, ih, List.flatMap_cons] <;> simp

/-- Induction along the split: what holds of the text and its words when one more character comes
in front. The character is a separator, or the last one, or a word by itself, or it extends the
word in front. -/
theorem splitWords_induction {motive : List Char → List (List Char) → Prop} (nil : motive [] [])
    (separator : ∀ a cs ws, isSeparator a = true → motive cs ws → motive (a :: cs) ws)
    (last : ∀ a, isSeparator a = false → motive [a] [[a]])
    (ends : ∀ a b cs ws, isSeparator a = false → endsBefore a b cs.head? = true →
      motive (b :: cs) ws → motive (a :: b :: cs) ([a] :: ws))
    (grows : ∀ a b cs w ws, isSeparator a = false → endsBefore a b cs.head? = false →
      w <+: cs → motive (b :: cs) ((b :: w) :: ws) → motive (a :: b :: cs) ((a :: b :: w) :: ws))
    (cs : List Char) : motive cs (splitWords cs) := by
  induction cs with
  | nil => exact nil
  | cons a cs ih =>
    cases ha : isSeparator a with
    | true =>
      rw [splitWords_cons_of_isSeparator ha]
      exact separator a cs _ ha ih
    | false =>
      cases cs with
      | nil =>
        rw [splitWords_singleton ha]
        exact last a ha
      | cons b cs =>
        cases hend : endsBefore a b cs.head? with
        | true =>
          rw [splitWords_cons_of_endsBefore ha hend]
          exact ends a b cs _ ha hend ih
        | false =>
          obtain ⟨w, ws, hw, hprefix⟩ :=
            exists_splitWords_cons (not_isSeparator_of_not_endsBefore hend) cs
          rw [splitWords_cons_of_not_endsBefore ha hend, hw]
          rw [hw] at ih
          exact grows a b cs w ws ha hend hprefix ih

/-! ## What the words are made of -/

/-- No word is empty. -/
theorem ne_nil_of_mem_splitWords (h : w ∈ splitWords cs) : w ≠ [] := by
  have hall : ∀ v ∈ splitWords cs, v ≠ [] := by
    refine splitWords_induction (motive := fun _ ws => ∀ v ∈ ws, v ≠ []) ?nil ?separator ?last
      ?ends ?grows cs
    case nil => exact fun v hv => absurd hv List.not_mem_nil
    case separator => exact fun a cs ws _ ih => ih
    case last => simp
    case ends =>
      intro a b cs ws _ _ ih
      exact List.forall_mem_cons.mpr ⟨List.cons_ne_nil _ _, ih⟩
    case grows =>
      intro a b cs w ws _ _ _ ih
      exact List.forall_mem_cons.mpr ⟨List.cons_ne_nil _ _, (List.forall_mem_cons.mp ih).2⟩
  exact hall w h

/-- The words together are the identifier without its separators. -/
theorem flatten_splitWords (cs : List Char) :
    (splitWords cs).flatten = cs.filter fun c => !isSeparator c := by
  refine splitWords_induction (motive := fun cs ws => ws.flatten = cs.filter fun c => !isSeparator c)
    ?nil ?separator ?last ?ends ?grows cs
  case nil => rfl
  case separator =>
    intro a cs ws ha ih
    rw [ih, List.filter_cons_of_neg (by simp [ha])]
  case last =>
    intro a ha
    simp [ha]
  case ends =>
    intro a b cs ws ha _ ih
    rw [List.filter_cons_of_pos (by simp [ha]), ← ih]
    rfl
  case grows =>
    intro a b cs w ws ha _ _ ih
    rw [List.filter_cons_of_pos (by simp [ha]), ← ih]
    rfl

/-- The characters of a word come from the identifier and are no separators. -/
theorem mem_of_mem_splitWords (hw : w ∈ splitWords cs) (ha : a ∈ w) :
    a ∈ cs ∧ isSeparator a = false := by
  have hflat : a ∈ (splitWords cs).flatten := List.mem_flatten.mpr ⟨w, hw, ha⟩
  rw [flatten_splitWords, List.mem_filter] at hflat
  exact ⟨hflat.1, by simpa using hflat.2⟩

/-- A text without separators is made of its words. -/
theorem flatten_splitWords_of_forall (h : ∀ c ∈ cs, isSeparator c = false) :
    (splitWords cs).flatten = cs := by
  rw [flatten_splitWords, List.filter_eq_self]
  intro c hc
  rw [h c hc]
  rfl

/-- A text that has a character besides separators has a word. -/
theorem splitWords_ne_nil (ha : a ∈ cs) (h : isSeparator a = false) : splitWords cs ≠ [] := by
  intro hnil
  have hflat : a ∈ cs.filter fun c => !isSeparator c := List.mem_filter.mpr ⟨ha, by simp [h]⟩
  rw [← flatten_splitWords, hnil] at hflat
  exact absurd hflat List.not_mem_nil

/-! ## Whole words -/

/-- A text in which no character ends a word before the next one, and none is a separator. -/
def Whole : List Char → Prop
  | [] => True
  | [a] => isSeparator a = false
  | a :: b :: cs => isSeparator a = false ∧ endsBefore a b cs.head? = false ∧ Whole (b :: cs)

/-- What ends a word before nothing but it ends it before any character. -/
theorem endsBefore_none {next : Option Char} (h : endsBefore a b next = false) :
    endsBefore a b none = false := by
  rw [endsBefore, Bool.or_eq_false_iff] at h ⊢
  refine ⟨h.1, ?_⟩
  have hstart := h.2
  rw [startsWord, Bool.and_eq_false_iff] at hstart ⊢
  rcases hstart with hb | ha
  · exact Or.inl hb
  · rw [Bool.or_eq_false_iff] at ha
    rw [Option.any_none, Bool.and_false, Bool.or_false]
    exact Or.inr ha.1

/-- Every word is whole by itself. -/
theorem whole_of_mem_splitWords (h : w ∈ splitWords cs) : Whole w := by
  have hall : ∀ v ∈ splitWords cs, Whole v := by
    refine splitWords_induction (motive := fun _ ws => ∀ v ∈ ws, Whole v) ?nil ?separator ?last
      ?ends ?grows cs
    case nil => exact fun v hv => absurd hv List.not_mem_nil
    case separator => exact fun a cs ws _ ih => ih
    case last => exact fun a ha => List.forall_mem_singleton.mpr ha
    case ends =>
      intro a b cs ws ha _ ih
      exact List.forall_mem_cons.mpr ⟨ha, ih⟩
    case grows =>
      intro a b cs w ws ha hend hprefix ih
      obtain ⟨hword, hrest⟩ := List.forall_mem_cons.mp ih
      refine List.forall_mem_cons.mpr ⟨⟨ha, ?_, hword⟩, hrest⟩
      -- The word may end where the text goes on.
      cases w with
      | nil => exact endsBefore_none hend
      | cons c w =>
        obtain ⟨rest, rfl⟩ := hprefix
        exact hend
  exact hall w h

/-- The texts that are one word are the whole ones. -/
theorem splitWords_eq_singleton_iff : splitWords w = [w] ↔ w ≠ [] ∧ Whole w := by
  constructor
  · intro h
    have hmem : w ∈ splitWords w := by
      rw [h]
      exact List.mem_singleton_self w
    exact ⟨ne_nil_of_mem_splitWords hmem, whole_of_mem_splitWords hmem⟩
  · rintro ⟨hne, hwhole⟩
    induction w with
    | nil => exact absurd rfl hne
    | cons a cs ih =>
      cases cs with
      | nil => exact splitWords_singleton hwhole
      | cons b cs =>
        obtain ⟨ha, hend, hrest⟩ := hwhole
        rw [splitWords_cons_of_not_endsBefore ha hend, ih (List.cons_ne_nil _ _) hrest]
        rfl

/-- A text without separators, and without capitals behind its first character, is whole. -/
theorem whole_of_not_isUpper (hclean : ∀ c ∈ w, isSeparator c = false)
    (h : ∀ c ∈ w.tail, isUpper c = false) : Whole w := by
  induction w with
  | nil => trivial
  | cons a w ih =>
    obtain ⟨ha, hw⟩ := List.forall_mem_cons.mp hclean
    have hrest := ih hw fun c hc => h c (List.mem_of_mem_tail hc)
    cases w with
    | nil => exact ha
    | cons b w =>
      refine ⟨ha, ?_, hrest⟩
      rw [endsBefore, hw b (List.mem_cons_self ..), startsWord, h b (List.mem_cons_self ..)]
      rfl

end RowDecoding.Naming
