import RowDecoding.Proofs.Words

/-!
# The words of a chunk in one pass

A text can be split at its separators first, and each chunk between them be read from left to right
with the words cut off so far and the place where the next one starts (`cutWords`). One round moves
the place that has been read by one character (`Cut.Reaches.step`), and after the last round the
words of the chunk are there (`cutWords_eq`); so the chunks give the words of the text, in order
(`splitWords_eq_flatMap_cutWords`).
-/

namespace RowDecoding.Naming

variable {a : Char} {cs chunk : List Char} {i n start : Nat}

/-! ## Chunks -/

/-- What stands between the separators of a text, wherever anything does. -/
def chunks (cs : List Char) : List (List Char) :=
  (cs.splitOnP isSeparator).filter fun chunk => !chunk.isEmpty

theorem not_isSeparator_of_mem_splitOnP (h : chunk ∈ cs.splitOnP isSeparator) :
    ∀ c ∈ chunk, isSeparator c = false := by
  induction cs generalizing chunk with
  | nil =>
    rw [List.splitOnP_nil, List.mem_singleton] at h
    simp [h]
  | cons a cs ih =>
    rw [List.splitOnP_cons_eq_if_modifyHead] at h
    split at h
    next ha =>
      rcases List.mem_cons.mp h with rfl | h
      · simp
      · exact ih h
    next ha =>
      obtain ⟨first, others, hsplit⟩ :=
        List.exists_cons_of_ne_nil (List.splitOnP_ne_nil isSeparator cs)
      rw [hsplit, List.modifyHead_cons] at h
      rw [hsplit] at ih
      rcases List.mem_cons.mp h with rfl | h
      · exact List.forall_mem_cons.mpr ⟨Bool.eq_false_iff.mpr ha, ih (List.mem_cons_self ..)⟩
      · exact ih (List.mem_cons_of_mem _ h)

/-- A text behind a first part is split like its chunks, the first one with the part in front. -/
theorem splitWords_append_splitOnP (xs cs : List Char) :
    splitWords (xs ++ cs) =
      ((cs.splitOnP isSeparator).modifyHead (xs ++ ·)).flatMap splitWords := by
  -- The part in front grows until a separator closes it.
  induction cs generalizing xs with
  | nil => simp
  | cons a cs ih =>
    rw [List.splitOnP_cons_eq_if_modifyHead]
    split
    next ha =>
      rw [splitWords_append ha, List.modifyHead_cons, List.flatMap_cons, List.append_nil]
      refine congrArg (splitWords xs ++ ·) ((ih []).trans ?_)
      cases cs.splitOnP isSeparator <;> rfl
    next ha =>
      rw [List.modifyHead_modifyHead, List.append_cons, ih]
      refine congrArg (fun f => ((cs.splitOnP isSeparator).modifyHead f).flatMap splitWords) ?_
      funext ys
      simp

theorem splitWords_eq_flatMap_chunks (cs : List Char) :
    splitWords cs = (chunks cs).flatMap splitWords := by
  have hsplit : splitWords cs = (cs.splitOnP isSeparator).flatMap splitWords := by
    refine (splitWords_append_splitOnP [] cs).trans ?_
    cases cs.splitOnP isSeparator <;> rfl
  rw [hsplit, chunks]
  induction cs.splitOnP isSeparator with
  | nil => rfl
  | cons first others ih =>
    cases first with
    | nil => exact ih
    | cons a first => exact congrArg (splitWords (a :: first) ++ ·) ih

/-! ## One pass over a chunk -/

/-- The words cut off a chunk so far, and the place where the next one starts. -/
structure Cut where
  words : List (List Char)
  start : Nat

/-- Whether a word starts at a place of a chunk, behind the first one. -/
def startsAt (chunk : List Char) (i : Nat) : Bool :=
  match chunk[i - 1]?, chunk[i]? with
  | some a, some b => startsWord a b chunk[i + 1]?
  | _, _ => false

/-- One round: where a word starts the one before it is cut off. -/
def Cut.step (chunk : List Char) (cut : Cut) (i : Nat) : Cut :=
  if startsAt chunk i then ⟨cut.words ++ [chunk.extract cut.start i], i⟩ else cut

/-- The words of a chunk. What is left after the last round is the last one. -/
def cutWords (chunk : List Char) : List (List Char) :=
  let cut := (List.range' 1 (chunk.length - 1)).foldl (Cut.step chunk) ⟨[], 0⟩
  cut.words ++ [chunk.drop cut.start]

/-- What a cut says when a place has been reached: its words, and then what was read of the next
one in front of the rest. -/
structure Cut.Reaches (chunk : List Char) (cut : Cut) (i : Nat) : Prop where
  start_le : cut.start ≤ i
  words : splitWords chunk =
    cut.words ++ (splitWords (chunk.drop i)).modifyHead (chunk.extract cut.start i ++ ·)

theorem extract_succ (hstart : start ≤ i) (h : chunk[i]? = some a) :
    chunk.extract start (i + 1) = chunk.extract start i ++ [a] := by
  have hplace : start + (i - start) = i := by omega
  rw [List.extract_eq_take_drop, List.extract_eq_take_drop, Nat.succ_sub hstart, List.take_add_one,
    List.getElem?_drop, hplace, h]
  rfl

theorem Cut.reaches_zero : Cut.Reaches chunk ⟨[], 0⟩ 0 := by
  refine ⟨Nat.le_refl 0, ?_⟩
  cases h : splitWords chunk <;> simp [h]

section

variable {cut : Cut} (hclean : ∀ c ∈ chunk, isSeparator c = false)
include hclean

/-- A round reads one more character. -/
theorem Cut.Reaches.step (h : cut.Reaches chunk i) (hi : i + 1 < chunk.length) :
    (cut.step chunk (i + 1)).Reaches chunk (i + 1) := by
  have hlt : i < chunk.length := Nat.lt_of_succ_lt hi
  have ha : chunk[i]? = some chunk[i] := List.getElem?_eq_getElem hlt
  have hb : chunk[i + 1]? = some chunk[i + 1] := List.getElem?_eq_getElem hi
  have hnext : (chunk.drop (i + 2)).head? = chunk[i + 2]? := List.head?_drop
  have hends : endsBefore chunk[i] chunk[i + 1] (chunk.drop (i + 2)).head? =
      startsAt chunk (i + 1) := by
    rw [endsBefore, hclean _ (List.getElem_mem hi), Bool.false_or, hnext, startsAt,
      Nat.add_sub_cancel, ha, hb]
  have hword := h.words
  have hcleana := hclean _ (List.getElem_mem hlt)
  rw [List.drop_eq_getElem_cons hlt, List.drop_eq_getElem_cons hi] at hword
  unfold Cut.step
  cases hstart : startsAt chunk (i + 1) with
  | true =>
    -- What was read is a word, and nothing of the next one has been read.
    rw [splitWords_cons_of_endsBefore hcleana (hends.trans hstart), List.modifyHead_cons,
      ← extract_succ h.start_le ha, ← List.drop_eq_getElem_cons hi] at hword
    refine ⟨Nat.le_refl _, hword.trans ?_⟩
    cases splitWords (chunk.drop (i + 1)) <;> simp
  | false =>
    -- The character joins what was read, in front of the first word of the rest.
    obtain ⟨w, ws, hw, -⟩ := exists_splitWords_cons (hclean _ (List.getElem_mem hi))
      (chunk.drop (i + 2))
    rw [splitWords_cons_of_not_endsBefore hcleana (hends.trans hstart), hw] at hword
    refine ⟨Nat.le_succ_of_le h.start_le, hword.trans ?_⟩
    rw [List.drop_eq_getElem_cons hi, hw, if_neg Bool.false_ne_true]
    simp [extendFirst, extract_succ h.start_le ha]

theorem Cut.reaches_foldl (hn : n < chunk.length) :
    ((List.range' 1 n).foldl (Cut.step chunk) ⟨[], 0⟩).Reaches chunk n := by
  induction n with
  | zero => exact Cut.reaches_zero
  | succ n ih =>
    rw [List.range'_concat, List.foldl_append, Nat.one_mul, Nat.add_comm 1 n]
    exact (ih (Nat.lt_of_succ_lt hn)).step hclean hn

/-- What is left after the last round is the last word. -/
theorem cutWords_eq (hne : chunk ≠ []) : cutWords chunk = splitWords chunk := by
  obtain ⟨n, hn⟩ : ∃ n, chunk.length = n + 1 :=
    Nat.exists_eq_succ_of_ne_zero (List.length_eq_zero_iff.not.mpr hne)
  have hlt : n < chunk.length := hn ▸ Nat.lt_succ_self n
  have hreaches := Cut.reaches_foldl hclean hlt
  have hlast : chunk.drop n = [chunk[n]] := by
    rw [List.drop_eq_getElem_cons hlt, List.drop_eq_nil_of_le hn.le]
  rw [hreaches.words, hlast, splitWords_singleton (hclean _ (List.getElem_mem hlt)),
    List.modifyHead_cons, ← extract_succ hreaches.start_le (List.getElem?_eq_getElem hlt)]
  unfold cutWords
  rw [hn, Nat.add_sub_cancel, ← hn, List.extract_eq_take_drop, List.take_of_length_le (by simp)]

end

/-- The words of a text are the words of its chunks, each read in one pass. -/
theorem splitWords_eq_flatMap_cutWords (cs : List Char) :
    splitWords cs = (chunks cs).flatMap cutWords := by
  rw [splitWords_eq_flatMap_chunks, List.flatMap_def, List.flatMap_def]
  refine congrArg List.flatten (List.map_congr_left fun chunk h => ?_)
  obtain ⟨hmem, hne⟩ := List.mem_filter.mp h
  exact (cutWords_eq (not_isSeparator_of_mem_splitOnP hmem) (by simpa using hne)).symm

end RowDecoding.Naming
