import RowDecoding.Proofs.Chunks

/-!
# Where words begin

Two characters of a text fall in different words where a separator stands between them, and two
neighbours where the second one is a capital behind a small letter or a digit, or a capital between
a capital and a small letter. `Parts` says this of any words, place by place and without the split.

A character in front of a text is judged by itself, and the rest as if it were not there
(`apart_cons_iff`). So the split tells its words apart (`apart_splitWords`), and whatever parts a
text is what the split makes of it (`Parts.eq_splitWords`): the words of an identifier part it, and
no other words do (`wordsOf_parts`).
-/

namespace RowDecoding.Naming

open Text

variable {a b c : Char} {cs w : List Char} {us ws : List (List Char)} {i : Nat}

/-! ## The words at the places of a text -/

/-- For each character of the words, read in a row, the number of its word. -/
def wordNumbers (ws : List (List Char)) : List Nat :=
  ws.zipIdx.flatMap fun (w, n) => List.replicate w.length n

/-- The number of the word that the character at a place of a text falls in. The separators in
front of it fall in none. -/
def wordOf (cs : List Char) (ws : List (List Char)) (i : Nat) : Option Nat :=
  (wordNumbers ws)[(cs.take i).countP fun c => !isSeparator c]?

theorem wordNumbers_cons (w : List Char) (ws : List (List Char)) :
    wordNumbers (w :: ws) = List.replicate w.length 0 ++ (wordNumbers ws).map (· + 1) := by
  simp [wordNumbers, List.zipIdx_succ, List.flatMap_map, List.map_flatMap]

@[simp]
theorem wordOf_zero : wordOf cs ((a :: w) :: ws) 0 = some 0 := by
  simp [wordOf, wordNumbers_cons, List.replicate_succ]

theorem wordOf_cons_of_isSeparator (h : isSeparator a = true) :
    wordOf (a :: cs) ws (i + 1) = wordOf cs ws i := by
  simp [wordOf, h]

theorem wordOf_cons (h : isSeparator a = false) :
    wordOf (a :: cs) ((c :: w) :: ws) (i + 1) = wordOf cs (w :: ws) i := by
  simp [wordOf, wordNumbers_cons, h, List.replicate_succ]

theorem wordOf_append_of_isSeparator {seps : List Char} (h : ∀ c ∈ seps, isSeparator c = true) :
    wordOf (seps ++ cs) ws seps.length = wordOf cs ws 0 := by
  have hcount : seps.countP (fun c => !isSeparator c) = 0 :=
    List.countP_eq_zero.mpr fun c hc => by simp [h c hc]
  simp [wordOf, hcount]

@[simp]
theorem wordOf_nil_cons : wordOf cs ([] :: ws) i = (wordOf cs ws i).map (· + 1) := by
  simp [wordOf, wordNumbers_cons]

/-- Whether the character at a place of a text is this one, and belongs to a word. -/
def HoldsAt (cs : List Char) (i : Nat) (a : Char) : Prop :=
  cs[i]? = some a ∧ isSeparator a = false

theorem holdsAt_cons_zero : HoldsAt (a :: cs) 0 b ↔ a = b ∧ isSeparator b = false := by
  simp [HoldsAt]

theorem startsWord_iff {next : Option Char} : startsWord a b next = true ↔
    isUpper b = true ∧ (isLower a = true ∨ isDigit a = true ∨
      isUpper a = true ∧ ∃ c, next = some c ∧ isLower c = true) := by
  simp [startsWord, Option.any_eq_true, or_assoc]

/-! ## Words told apart -/

/-- Words that the characters of a text fall in as its boundaries ask. -/
structure Apart (cs : List Char) (ws : List (List Char)) : Prop where
  /-- Two characters with a separator between them fall in different words. -/
  separated : ∀ ⦃i j k a sep b⦄, i < j → j < k → HoldsAt cs i a → cs[j]? = some sep →
    isSeparator sep = true → HoldsAt cs k b → wordOf cs ws i ≠ wordOf cs ws k
  /-- Two neighbours fall in different words if and only if the second one is a capital and the
  first one a small letter, a digit, or a capital with a small letter right behind the two. -/
  neighbours : ∀ ⦃i a b⦄, HoldsAt cs i a → HoldsAt cs (i + 1) b →
    (wordOf cs ws i ≠ wordOf cs ws (i + 1) ↔
      isUpper b = true ∧ (isLower a = true ∨ isDigit a = true ∨
        isUpper a = true ∧ ∃ next, cs[i + 2]? = some next ∧ isLower next = true))

/-- What the first character of a text asks of the words behind it, if it falls in the one with this
number. -/
structure Heads (a : Char) (cs : List Char) (ws : List (List Char)) (number : Option Nat) :
    Prop where
  separated : ∀ ⦃j k sep b⦄, j < k → cs[j]? = some sep → isSeparator sep = true →
    HoldsAt cs k b → number ≠ wordOf cs ws k
  neighbour : ∀ ⦃b⦄, HoldsAt cs 0 b → (number ≠ wordOf cs ws 0 ↔ startsWord a b cs[1]? = true)

/-- The first character is judged by itself, and the rest as if it were not there: by the same words
behind a separator, else by what they are without that character. -/
theorem apart_cons_iff (hshift : ∀ i, wordOf (a :: cs) ws (i + 1) = wordOf cs us i) :
    Apart (a :: cs) ws ↔
      (isSeparator a = false → Heads a cs us (wordOf (a :: cs) ws 0)) ∧ Apart cs us := by
  constructor
  · intro h
    refine ⟨fun ha => ⟨fun j k sep b hjk hsep hseparator hb => ?_, fun b hb => ?_⟩,
      ⟨fun i j k c sep d hij hjk hc hsep hseparator hd => ?_, fun i c d hc hd => ?_⟩⟩
    · rw [← hshift]
      exact h.separated (Nat.succ_pos j) (Nat.succ_lt_succ hjk) ⟨rfl, ha⟩ hsep hseparator hb
    · rw [← hshift, startsWord_iff]
      exact h.neighbours (i := 0) ⟨rfl, ha⟩ hb
    · rw [← hshift, ← hshift]
      exact h.separated (Nat.succ_lt_succ hij) (Nat.succ_lt_succ hjk) hc hsep hseparator hd
    · rw [← hshift, ← hshift]
      exact h.neighbours (i := i + 1) hc hd
  · rintro ⟨hhead, hrest⟩
    refine ⟨fun i j k c sep d hij hjk hc hsep hseparator hd => ?_, fun i c d hc hd => ?_⟩
    · obtain _ | j := j
      · omega
      obtain _ | k := k
      · omega
      rw [hshift]
      cases i with
      | zero =>
        obtain ⟨rfl, ha⟩ := holdsAt_cons_zero.mp hc
        exact (hhead ha).separated (Nat.lt_of_succ_lt_succ hjk) hsep hseparator hd
      | succ i =>
        rw [hshift]
        exact hrest.separated (Nat.lt_of_succ_lt_succ hij) (Nat.lt_of_succ_lt_succ hjk) hc hsep
          hseparator hd
    · rw [hshift]
      cases i with
      | zero =>
        obtain ⟨rfl, ha⟩ := holdsAt_cons_zero.mp hc
        rw [(hhead ha).neighbour hd, startsWord_iff]
        rfl
      | succ i =>
        rw [hshift]
        exact hrest.neighbours hc hd

/-- An empty word in front only moves the numbers. -/
theorem apart_nil_cons_iff : Apart cs ([] :: ws) ↔ Apart cs ws := by
  have hne : ∀ i k, wordOf cs ([] :: ws) i ≠ wordOf cs ([] :: ws) k ↔
      wordOf cs ws i ≠ wordOf cs ws k := by
    intro i k
    rw [wordOf_nil_cons, wordOf_nil_cons]
    exact (Option.map_injective Nat.succ_injective).ne_iff
  constructor
  · rintro ⟨hseparated, hneighbours⟩
    simp only [hne] at hseparated hneighbours
    exact ⟨hseparated, hneighbours⟩
  · rintro ⟨hseparated, hneighbours⟩
    simp only [← hne] at hseparated hneighbours
    exact ⟨hseparated, hneighbours⟩

/-- A separator in front asks nothing of the words. -/
theorem apart_cons_of_isSeparator (h : isSeparator a = true) :
    Apart (a :: cs) ws ↔ Apart cs ws := by
  rw [apart_cons_iff fun i => wordOf_cons_of_isSeparator h, h]
  simp

theorem apart_cons_cons_iff (ha : isSeparator a = false) : Apart (a :: cs) ((a :: w) :: ws) ↔
    Heads a cs (w :: ws) (some 0) ∧ Apart cs (w :: ws) := by
  rw [apart_cons_iff fun i => wordOf_cons ha, wordOf_zero]
  simp [ha]

/-- Whether the word of a character ends before what comes behind it. -/
def endsWord (a : Char) : List Char → Bool
  | [] => true
  | b :: cs => endsBefore a b cs.head?

section

variable (ha : isSeparator a = false)
include ha

theorem splitWords_of_endsWord (hend : endsWord a cs = true) :
    splitWords (a :: cs) = [a] :: splitWords cs := by
  cases cs with
  | nil => exact splitWords_singleton ha
  | cons b cs => exact splitWords_cons_of_endsBefore ha hend

theorem splitWords_of_not_endsWord (hend : endsWord a cs = false) :
    splitWords (a :: cs) = extendFirst a (splitWords cs) := by
  cases cs with
  | nil => exact Bool.noConfusion hend
  | cons b cs => exact splitWords_cons_of_not_endsBefore ha hend

end

/-- A character is a word by itself where its word ends. -/
theorem heads_nil_iff : Heads a cs ([] :: ws) (some 0) ↔ endsWord a cs = true := by
  have hother : ∀ k, some 0 ≠ wordOf cs ([] :: ws) k := by
    intro k
    cases h : wordOf cs ws k <;> simp [h]
  constructor
  · intro h
    cases cs with
    | nil => rfl
    | cons b cs =>
      rw [endsWord, endsBefore, Bool.or_eq_true, List.head?_eq_getElem?]
      cases hb : isSeparator b with
      | true => exact Or.inl rfl
      | false => exact Or.inr ((h.neighbour ⟨rfl, hb⟩).mp (hother 0))
  · intro h
    refine ⟨fun j k sep b _ _ _ _ => hother k, fun b hb => iff_of_true (hother 0) ?_⟩
    cases cs with
    | nil => exact absurd hb.1 (by simp)
    | cons d cs =>
      obtain ⟨rfl, hclean⟩ := holdsAt_cons_zero.mp hb
      rwa [endsWord, endsBefore, hclean, Bool.false_or, List.head?_eq_getElem?] at h

/-- A character is in the word of the next one where its word goes on. -/
theorem heads_cons (hapart : Apart cs ((c :: w) :: ws)) (h : endsWord a cs = false) :
    Heads a cs ((c :: w) :: ws) (some 0) := by
  cases cs with
  | nil => exact Bool.noConfusion h
  | cons b cs =>
    obtain ⟨hb, hstart⟩ := Bool.or_eq_false_iff.mp h
    rw [List.head?_eq_getElem?] at hstart
    refine ⟨fun j k sep d hjk hsep hseparator hd => ?_, fun d hd => ?_⟩
    · obtain _ | j := j
      · obtain rfl : b = sep := Option.some.inj hsep
        exact absurd hseparator (Bool.eq_false_iff.mp hb)
      · have hne := hapart.separated (Nat.succ_pos j) hjk ⟨rfl, hb⟩ hsep hseparator hd
        rwa [wordOf_zero] at hne
    · obtain ⟨rfl, -⟩ := holdsAt_cons_zero.mp hd
      exact iff_of_false (not_not_intro wordOf_zero.symm) (Bool.eq_false_iff.mp hstart)

/-- The word of a character goes on if what comes behind it starts in the same one. -/
theorem Heads.endsWord_eq_false (h : Heads a cs ((c :: w) :: ws) (some 0))
    (hflat : ((c :: w) :: ws).flatten = cs.filter fun c => !isSeparator c) :
    endsWord a cs = false := by
  obtain ⟨seps, rest, rfl, hseps, hc, -⟩ := List.filter_eq_cons_iff.mp hflat.symm
  simp only [Bool.not_eq_true', Bool.not_eq_false] at hseps hc
  cases seps with
  | nil =>
    rw [List.nil_append, endsWord, endsBefore, hc, Bool.false_or, List.head?_eq_getElem?,
      Bool.eq_false_iff]
    exact mt (h.neighbour ⟨rfl, hc⟩).mpr (not_not_intro wordOf_zero.symm)
  | cons sep seps =>
    -- The next character of the word would stand behind a separator.
    refine absurd ?_ (h.separated (k := (sep :: seps).length) (Nat.succ_pos _) rfl
      (hseps sep (List.mem_cons_self ..)) ⟨?_, hc⟩)
    · rw [wordOf_append_of_isSeparator hseps, wordOf_zero]
    · simp

/-- The split tells the words apart. -/
theorem apart_splitWords (cs : List Char) : Apart cs (splitWords cs) := by
  have hnil : Apart [] [] :=
    ⟨fun i j k c sep d _ _ hc => absurd hc.1 (by simp), fun i c d hc => absurd hc.1 (by simp)⟩
  refine splitWords_induction (motive := Apart) ?nil ?separator ?last ?ends ?grows cs
  case nil => exact hnil
  case separator => exact fun a cs ws ha ih => (apart_cons_of_isSeparator ha).mpr ih
  case last =>
    intro a ha
    exact (apart_cons_cons_iff ha).mpr ⟨heads_nil_iff.mpr rfl, apart_nil_cons_iff.mpr hnil⟩
  case ends =>
    intro a b cs ws ha hend ih
    exact (apart_cons_cons_iff ha).mpr ⟨heads_nil_iff.mpr hend, apart_nil_cons_iff.mpr ih⟩
  case grows =>
    intro a b cs w ws ha hend _ ih
    exact (apart_cons_cons_iff ha).mpr ⟨heads_cons ih hend, ih⟩

/-! ## Words that part a text -/

/-- Words that part a text: in order they are all of it but the separators, and they are told apart
at its boundaries. -/
structure Parts (cs : List Char) (ws : List (List Char)) : Prop extends Apart cs ws where
  /-- The words in a row are the text without its separators. -/
  flatten : ws.flatten = cs.filter fun c => !isSeparator c
  /-- No word is empty. -/
  ne_nil : ∀ w ∈ ws, w ≠ []
  /-- No word has a separator in it. -/
  clean : ∀ w ∈ ws, ∀ c ∈ w, isSeparator c = false

theorem parts_splitWords (cs : List Char) : Parts cs (splitWords cs) :=
  ⟨apart_splitWords cs, flatten_splitWords cs, fun _ => ne_nil_of_mem_splitWords,
    fun _ hw _ hc => (mem_of_mem_splitWords hw hc).2⟩

namespace Parts

theorem of_cons_of_isSeparator (h : Parts (a :: cs) ws) (ha : isSeparator a = true) :
    Parts cs ws := by
  refine ⟨(apart_cons_of_isSeparator ha).mp h.toApart, h.flatten.trans ?_, h.ne_nil, h.clean⟩
  exact List.filter_cons_of_neg (by simp [ha])

section

variable (ha : isSeparator a = false)
include ha

theorem flatten_cons (h : Parts (a :: cs) ws) :
    ws.flatten = a :: cs.filter fun c => !isSeparator c :=
  h.flatten.trans (List.filter_cons_of_pos (by simp [ha]))

/-- The first word starts with the first character. -/
theorem exists_cons (h : Parts (a :: cs) ws) : ∃ w us, ws = (a :: w) :: us := by
  have hflat := h.flatten_cons ha
  cases ws with
  | nil => exact absurd hflat.symm (List.cons_ne_nil _ _)
  | cons w us =>
    obtain ⟨b, v, rfl⟩ := List.exists_cons_of_ne_nil (h.ne_nil w (List.mem_cons_self ..))
    obtain ⟨rfl, -⟩ := List.cons.inj hflat
    exact ⟨v, us, rfl⟩

/-- Behind a word of one character the other words part the rest. -/
theorem of_cons_singleton (h : Parts (a :: cs) ([a] :: ws)) :
    endsWord a cs = true ∧ Parts cs ws := by
  obtain ⟨hhead, hrest⟩ := (apart_cons_cons_iff ha).mp h.toApart
  exact ⟨heads_nil_iff.mp hhead, apart_nil_cons_iff.mp hrest, (List.cons.inj (h.flatten_cons ha)).2,
    (List.forall_mem_cons.mp h.ne_nil).2, (List.forall_mem_cons.mp h.clean).2⟩

/-- Without the first character of a longer word the words part the rest. -/
theorem of_cons_cons (h : Parts (a :: cs) ((a :: c :: w) :: ws)) :
    endsWord a cs = false ∧ Parts cs ((c :: w) :: ws) := by
  obtain ⟨hhead, hrest⟩ := (apart_cons_cons_iff ha).mp h.toApart
  have hflat := (List.cons.inj (h.flatten_cons ha)).2
  obtain ⟨hword, hwords⟩ := List.forall_mem_cons.mp h.clean
  exact ⟨hhead.endsWord_eq_false hflat, hrest, hflat,
    List.forall_mem_cons.mpr ⟨List.cons_ne_nil _ _, (List.forall_mem_cons.mp h.ne_nil).2⟩,
    List.forall_mem_cons.mpr ⟨(List.forall_mem_cons.mp hword).2, hwords⟩⟩

end

/-- Nothing but the split parts a text. -/
theorem eq_splitWords (h : Parts cs ws) : ws = splitWords cs := by
  -- Whether the first word is more than the first character is settled by what comes behind it.
  induction cs generalizing ws with
  | nil =>
    refine List.eq_nil_iff_forall_not_mem.mpr fun w hw => h.ne_nil w hw ?_
    exact List.flatten_eq_nil_iff.mp h.flatten w hw
  | cons a cs ih =>
    cases ha : isSeparator a with
    | true =>
      rw [splitWords_cons_of_isSeparator ha]
      exact ih (h.of_cons_of_isSeparator ha)
    | false =>
      obtain ⟨_ | ⟨c, w⟩, us, rfl⟩ := h.exists_cons ha
      · obtain ⟨hend, hrest⟩ := h.of_cons_singleton ha
        rw [splitWords_of_endsWord ha hend, ← ih hrest]
      · obtain ⟨hend, hrest⟩ := h.of_cons_cons ha
        rw [splitWords_of_not_endsWord ha hend, ← ih hrest]
        rfl

end Parts

theorem parts_iff : Parts cs ws ↔ ws = splitWords cs := by
  constructor
  · exact Parts.eq_splitWords
  · rintro rfl
    exact parts_splitWords cs

/-- **The words of an identifier part it at its boundaries.** No other words do, and they are the
ones that a single pass over each chunk between separators cuts off. -/
theorem wordsOf_parts (identifier : String) :
    Parts identifier.toList ((wordsOf identifier).map String.toList) ∧
      (∀ words : List String, Parts identifier.toList (words.map String.toList) →
        words = wordsOf identifier) ∧
      wordsOf identifier = ((chunks identifier.toList).flatMap cutWords).map String.ofList := by
  have hwords : (wordsOf identifier).map String.toList = splitWords identifier.toList := by
    simp [wordsOf, Function.comp_def]
  have hinjective : Function.Injective (List.map String.toList) :=
    List.map_injective_iff.mpr fun _ _ => String.toList_inj.mp
  refine ⟨parts_iff.mpr hwords, fun words h => ?_, ?_⟩
  · exact hinjective ((parts_iff.mp h).trans hwords.symm)
  · rw [wordsOf, splitWords_eq_flatMap_cutWords]

/-- The last capital of a run begins a word before a small letter, but not before a separator. -/
theorem wordsOf_parts_acronyms :
    Parts "HTTPIds2Go_API_s".toList (["HTTP", "Ids2", "Go", "API", "s"].map String.toList) ∧
      ["HTTP", "Ids2", "Go", "API", "s"] = wordsOf "HTTPIds2Go_API_s" := by
  have hparts : Parts "HTTPIds2Go_API_s".toList
      (["HTTP", "Ids2", "Go", "API", "s"].map String.toList) := parts_iff.mpr (by decide)
  exact ⟨hparts, (wordsOf_parts "HTTPIds2Go_API_s").2.1 _ hparts⟩

end RowDecoding.Naming
