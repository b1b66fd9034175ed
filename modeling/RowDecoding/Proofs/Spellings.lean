import Mathlib.Data.List.Forall2
import Mathlib.Data.List.TakeWhile
import RowDecoding.Directive.Resolved
import RowDecoding.Proofs.Keys
import RowDecoding.Proofs.LetterCase

/-!
# The spellings of conventions

A convention is read from its own spelling, to the letter, or else from its name, where neither the
case of the letters counts, nor blanks around it, nor a hyphen in the place of an underscore. Upper
case brings two letters from outside of ASCII into the names, `ı` and `ſ` (`ascii_of_upperChar`),
and none of the characters that it replaces by several, since no name has those next to each other
(`upperExpansions_apart`). So each character of a name is written by one character
(`normalized_eq_iff`), and `conventionOf_text` says which texts name a convention and what is said
of the others.
-/

namespace RowDecoding

open Text

variable {c d n : Char} {cs core : List Char}

/-! ## Blanks around a text -/

namespace Text

theorem dropWhile_of_head {p : Char → Bool} (h : ∀ c ∈ cs.head?, p c = false) :
    cs.dropWhile p = cs := by
  cases cs with
  | nil => rfl
  | cons c cs => exact List.dropWhile_cons_of_neg (Bool.eq_false_iff.mp (h c rfl))

/-- A text without blanks is what is left of it between blanks. -/
theorem trim_append {before after : List Char} (hbefore : ∀ c ∈ before, isBlank c = true)
    (hafter : ∀ c ∈ after, isBlank c = true) (hne : core ≠ [])
    (hcore : ∀ c ∈ core, isBlank c = false) : trim (before ++ core ++ after) = core := by
  have hfront : (core ++ after).dropWhile isBlank = core ++ after := by
    refine dropWhile_of_head fun c hc => hcore c ?_
    rw [List.head?_append_of_ne_nil _ hne] at hc
    exact List.mem_of_mem_head? hc
  have hback : core.reverse.dropWhile isBlank = core.reverse :=
    dropWhile_of_head fun c hc => hcore c (List.mem_reverse.mp (List.mem_of_mem_head? hc))
  unfold trim trimmed
  rw [List.append_assoc, List.dropWhile_append_of_pos hbefore, hfront, List.reverse_append,
    List.dropWhile_append_of_pos (fun c hc => hafter c (List.mem_reverse.mp hc)), hback,
    List.reverse_reverse]

/-- What is cut off of a text are blanks. -/
theorem exists_of_trim (cs : List Char) : ∃ before after, cs = before ++ trim cs ++ after ∧
    (∀ c ∈ before, isBlank c = true) ∧ ∀ c ∈ after, isBlank c = true := by
  refine ⟨cs.takeWhile isBlank, ((cs.dropWhile isBlank).reverse.takeWhile isBlank).reverse, ?_,
    fun c hc => List.mem_takeWhile_imp hc,
    fun c hc => List.mem_takeWhile_imp (List.mem_reverse.mp hc)⟩
  unfold trim trimmed
  rw [List.append_assoc, ← List.reverse_append, List.takeWhile_append_dropWhile,
    List.reverse_reverse, List.takeWhile_append_dropWhile]

/-! ## Capitals within ASCII -/

/-- Where upper case replaces a character by others, they are several. -/
theorem two_le_of_upperExpansions : ∀ e ∈ CaseMap.upperExpansions, 2 ≤ e.2.length := by
  decide +kernel

/-- Besides small letters, upper case moves two characters into ASCII. -/
theorem upperShifts_to_ascii : ∀ s ∈ CaseMap.upperShifts, ∀ code ∈ s.span.codes,
    (code + s.distance).toNat < 128 → code < 128 ∨ code = 'ı'.toNat ∨ code = 'ſ'.toNat := by
  decide +kernel

/-- The characters with an ASCII capital are those of ASCII and two more. -/
theorem ascii_of_upperChar (h : upperChar c = [d]) (hpos : 0 < d.toNat) (hlt : d.toNat < 128) :
    c.toNat < 128 ∨ c = 'ı' ∨ c = 'ſ' := by
  rw [upperChar_eq_mapped] at h
  rcases mapped_cases CaseMap.upperExpansions CaseMap.upperShifts c with
    ⟨codes, hcodes, hmapped⟩ | ⟨s, hs, hcode, hmapped⟩ | hmapped
  · rw [h] at hmapped
    have htwo : 2 ≤ codes.length := two_le_of_upperExpansions (c.toNat, codes) hcodes
    have hone := congrArg List.length hmapped
    rw [List.length_map, List.length_singleton] at hone
    omega
  · rw [h] at hmapped
    obtain rfl := (List.cons.inj hmapped).1
    have htarget : (c.toNat + s.distance).toNat < 128 := by
      rcases toNat_ofNat_or (c.toNat + s.distance).toNat with hn | hn <;> omega
    exact (upperShifts_to_ascii s hs c.toNat hcode htarget).imp_right
      (Or.imp Char.toNat_inj.mp Char.toNat_inj.mp)
  · rw [h] at hmapped
    obtain rfl := (List.cons.inj hmapped).1
    exact Or.inl hlt

end Text

namespace Naming.Convention

variable {convention : Convention} {name rest : List Char}

/-! ## Characters of names -/

/-- A hyphen read as an underscore. -/
def underscored (c : Char) : Char :=
  if c == '-' then '_' else c

/-- Whether a character may be written for one in the name of a convention: a letter in either case,
for `I` and `S` also the letters `ı` and `ſ`, of which they are the capitals, and a hyphen for an
underscore. -/
def standsFor (c n : Char) : Bool :=
  c.toUpper == n || (c == '-' && n == '_') || (c == 'ı' && n == 'I') || (c == 'ſ' && n == 'S')

/-- A text that is the name of a convention, but for blanks around it, the case of its letters and
hyphens in the place of underscores. -/
def LooselyNamed (convention : Convention) (text : String) : Prop :=
  ∃ before core after, text.toList = before ++ core ++ after ∧
    (∀ c ∈ before, isBlank c = true) ∧ (∀ c ∈ after, isBlank c = true) ∧
    List.Forall₂ (fun c n => standsFor c n = true) core convention.name.toList

theorem name_ne_nil (convention : Convention) : convention.name.toList ≠ [] := by
  cases convention <;> decide

/-- Names have ASCII characters, no hyphen and no blank. -/
theorem of_mem_name (h : n ∈ convention.name.toList) :
    0 < n.toNat ∧ n.toNat < 128 ∧ n ≠ '-' ∧ isBlank n = false := by
  have hall : (convention.name.toList.all fun n =>
      0 < n.toNat ∧ n.toNat < 128 ∧ n ≠ '-' ∧ isBlank n = false) = true := by
    cases convention <;> decide +kernel
  exact of_decide_eq_true (List.all_eq_true.mp hall n h)

theorem toNat_lt_of_toUpper (h : c.toUpper.toNat < 128) : c.toNat < 128 := by
  unfold Char.toUpper at h
  split at h
  next hletter =>
    have hlast : c.toNat ≤ 122 := UInt32.le_iff_toNat_le.mp hletter.2
    omega
  next => exact h

/-- A hyphen is the only character with a hyphen as its capital, and a blank with a blank. -/
theorem toUpper_of_ascii (hc : c.toNat < 128) :
    (c.toUpper = '-' → c = '-') ∧ isBlank c.toUpper = isBlank c :=
  forall_ascii c (by decide +kernel) hc

/-- What is read as a character of a name is an ASCII character. -/
theorem toNat_of_underscored (h : underscored d ∈ convention.name.toList) :
    0 < d.toNat ∧ d.toNat < 128 := by
  obtain ⟨hpos, hlt, -⟩ := of_mem_name h
  by_cases hhyphen : d = '-'
  · rw [hhyphen]
    decide
  · rw [underscored, if_neg (by simpa using hhyphen)] at hpos hlt
    exact ⟨hpos, hlt⟩

/-- In capitals, and with a hyphen read as an underscore, the characters that may be written for one
in a name are that one. -/
theorem underscored_upperChar_iff (hn : n ∈ convention.name.toList) :
    (upperChar c).map underscored = [n] ↔ standsFor c n = true := by
  obtain ⟨-, hlt, hhyphen, -⟩ := of_mem_name hn
  constructor
  · intro h
    obtain ⟨d, hd, rfl⟩ := List.map_eq_singleton_iff.mp h
    obtain ⟨hpos, hd128⟩ := toNat_of_underscored hn
    rcases ascii_of_upperChar hd hpos hd128 with hc | rfl | rfl
    · rw [upperChar_of_ascii hc, List.singleton_inj] at hd
      subst hd
      by_cases hminus : c.toUpper = '-'
      · rw [(toUpper_of_ascii hc).1 hminus]
        decide
      · rw [underscored, if_neg (by simpa using hminus), standsFor, beq_self_eq_true]
        rfl
    · obtain rfl : 'I' = d := List.singleton_inj.mp hd
      decide
    · obtain rfl : 'S' = d := List.singleton_inj.mp hd
      decide
  · intro h
    simp only [standsFor, Bool.or_eq_true, Bool.and_eq_true, beq_iff_eq] at h
    rcases h with ((h | ⟨rfl, rfl⟩) | ⟨rfl, rfl⟩) | ⟨rfl, rfl⟩
    · rw [← h] at hlt hhyphen
      rw [upperChar_of_ascii (toNat_lt_of_toUpper hlt), ← h, List.map_singleton, underscored,
        if_neg (by simpa using hhyphen)]
    · decide
    · decide
    · decide

/-- No blank may be written for a character of a name. -/
theorem not_isBlank_of_standsFor (hn : n ∈ convention.name.toList) (h : standsFor c n = true) :
    isBlank c = false := by
  obtain ⟨-, hlt, -, hblank⟩ := of_mem_name hn
  simp only [standsFor, Bool.or_eq_true, Bool.and_eq_true, beq_iff_eq] at h
  rcases h with ((h | ⟨rfl, -⟩) | ⟨rfl, -⟩) | ⟨rfl, -⟩
  · rw [← h] at hlt hblank
    rwa [(toUpper_of_ascii (toNat_lt_of_toUpper hlt)).2] at hblank
  · decide
  · decide
  · decide

/-! ## Texts that are read as names -/

/-- None of the groups of ASCII characters that upper case makes of one stands in a name. -/
theorem upperExpansions_apart : ∀ e ∈ CaseMap.upperExpansions,
    (∀ code ∈ e.2, (Char.ofNat code).toNat < 128) →
      ∀ convention ∈ all, ¬ (e.2.map Char.ofNat).map underscored <:+: convention.name.toList := by
  decide +kernel

/-- What becomes of one character and stands in a name is one character. -/
theorem exists_of_infix_name
    (h : (upperChar c).map underscored <:+: convention.name.toList) :
    ∃ n, (upperChar c).map underscored = [n] := by
  rw [upperChar_eq_mapped] at h ⊢
  rcases mapped_cases CaseMap.upperExpansions CaseMap.upperShifts c with
    ⟨codes, hcodes, hmapped⟩ | ⟨s, -, -, hmapped⟩ | hmapped
  · rw [hmapped] at h
    have hascii : ∀ code ∈ codes, (Char.ofNat code).toNat < 128 := fun code hcode =>
      (toNat_of_underscored (h.subset (List.mem_map_of_mem (List.mem_map_of_mem hcode)))).2
    exact absurd h (upperExpansions_apart _ hcodes hascii convention (mem_all convention))
  · exact ⟨_, by rw [hmapped]; rfl⟩
  · exact ⟨_, by rw [hmapped]; rfl⟩

/-- A text put together from pieces is `rest` iff the characters that the pieces are of stand for
those of `rest`, if no piece of several characters stands in it. -/
theorem flatMap_eq_iff_forall₂ {f : Char → List Char} {stands : Char → Char → Prop}
    (hf : ∀ c, f c <:+: name → ∃ n, f c = [n])
    (hstands : ∀ c, ∀ n ∈ name, f c = [n] ↔ stands c n) (hrest : rest <:+ name) :
    cs.flatMap f = rest ↔ List.Forall₂ stands cs rest := by
  induction cs generalizing rest with
  | nil =>
    rw [List.flatMap_nil, List.forall₂_nil_left_iff]
    exact eq_comm
  | cons c cs ih =>
    rw [List.flatMap_cons]
    constructor
    · rintro rfl
      obtain ⟨n, hn⟩ := hf c ((List.prefix_append _ _).isInfix.trans hrest.isInfix)
      rw [hn] at hrest ⊢
      exact .cons ((hstands c n (hrest.subset (List.mem_cons_self ..))).mp hn)
        ((ih ((List.suffix_cons n _).trans hrest)).mp rfl)
    · intro h
      cases h with
      | cons hn hall =>
        rw [(hstands c _ (hrest.subset (List.mem_cons_self ..))).mpr hn,
          (ih ((List.suffix_cons _ _).trans hrest)).mpr hall]
        rfl

/-- A text is read as the name of a convention iff, without the blanks around it, each of its
characters may be written for one of the name. -/
theorem normalized_eq_iff :
    normalized cs = convention.name.toList ↔
      List.Forall₂ (fun c n => standsFor c n = true) (trim cs) convention.name.toList := by
  have hpieces : normalized cs = (trim cs).flatMap fun c => (upperChar c).map underscored :=
    List.map_flatMap
  rw [hpieces, flatMap_eq_iff_forall₂ (fun _ => exists_of_infix_name)
    (fun _ _ => underscored_upperChar_iff) (List.suffix_refl _)]

theorem not_isBlank_of_forall₂ (h : List.Forall₂ (fun c n => standsFor c n = true) core rest)
    (hrest : ∀ n ∈ rest, n ∈ convention.name.toList) : ∀ c ∈ core, isBlank c = false := by
  induction h with
  | nil => exact fun c hc => absurd hc List.not_mem_nil
  | cons hc _ ih =>
    obtain ⟨hn, hrest⟩ := List.forall_mem_cons.mp hrest
    exact List.forall_mem_cons.mpr ⟨not_isBlank_of_standsFor hn hc, ih hrest⟩

/-- Reading loosely is reading the normal form. -/
theorem looselyNamed_iff (convention : Convention) (text : String) :
    convention.LooselyNamed text ↔ normalized text.toList = convention.name.toList := by
  rw [normalized_eq_iff]
  constructor
  · rintro ⟨before, core, after, htext, hbefore, hafter, hcore⟩
    have hne : core ≠ [] := by
      rintro rfl
      exact name_ne_nil convention (List.forall₂_nil_left_iff.mp hcore)
    have hblank := not_isBlank_of_forall₂ hcore fun _ hn => hn
    rwa [htext, trim_append hbefore hafter hne hblank]
  · intro h
    obtain ⟨before, after, htext, hbefore, hafter⟩ := exists_of_trim text.toList
    exact ⟨before, _, after, htext, hbefore, hafter, h⟩

/-! ## Reading a convention -/

/-- Where no two conventions have the same text, the one with a text is found by it. -/
theorem find?_all_eq_some_iff {key : Convention → String}
    (hkey : ∀ a ∈ all, ∀ b ∈ all, key a = key b → a = b) {text : String} :
    all.find? (key · == text) = some convention ↔ text = key convention := by
  constructor
  · intro h
    have hfound := List.find?_some h
    exact (eq_of_beq hfound).symm
  · rintro rfl
    have hsome : (all.find? (key · == key convention)).isSome = true :=
      List.find?_isSome.mpr ⟨convention, mem_all convention, beq_self_eq_true _⟩
    obtain ⟨other, hother⟩ := Option.isSome_iff_exists.mp hsome
    have hfound := List.find?_some hother
    rw [hother, hkey other (mem_all other) convention (mem_all convention) (eq_of_beq hfound)]

theorem ofName?_eq_some_iff {text : String} :
    ofName? text = some convention ↔ text = convention.name :=
  find?_all_eq_some_iff (by decide)

theorem ofSpelling?_eq_some_iff {text : String} :
    ofSpelling? text = some convention ↔ text = convention.spelling :=
  find?_all_eq_some_iff (by decide)

/-- A spelling is read as no other convention's name. -/
theorem eq_of_normalized_spelling {other : Convention}
    (h : normalized other.spelling.toList = convention.name.toList) : other = convention := by
  have hall : ∀ other ∈ all, ∀ convention ∈ all,
      normalized other.spelling.toList = convention.name.toList → other = convention := by
    decide +kernel
  exact hall other (mem_all other) convention (mem_all convention) h

theorem parse?_eq_or (text : String) :
    parse? text = (ofSpelling? text).or (ofName? (String.ofList (normalized text.toList))) :=
  Option.orElse_eq_or

/-- A text names a convention iff it is spelt like it or is loosely its name. -/
theorem parse?_eq_some_iff {text : String} :
    parse? text = some convention ↔
      text = convention.spelling ∨ convention.LooselyNamed text := by
  have hname : ofName? (String.ofList (normalized text.toList)) = some convention ↔
      convention.LooselyNamed text := by
    rw [ofName?_eq_some_iff, looselyNamed_iff, ← String.toList_inj, String.toList_ofList]
  rw [parse?_eq_or, Option.or_eq_some_iff, hname, ofSpelling?_eq_some_iff]
  constructor
  · exact Or.imp_right And.right
  · rintro (h | h)
    · exact Or.inl h
    · cases hspelling : ofSpelling? text with
      | none => exact Or.inr ⟨rfl, h⟩
      | some other =>
        -- The text is a spelling, which loosely names its own convention only.
        obtain rfl := ofSpelling?_eq_some_iff.mp hspelling
        rw [eq_of_normalized_spelling ((looselyNamed_iff _ _).mp h)]
        exact Or.inl rfl

end Naming.Convention

open Naming (Convention)

/-- A convention is read from a text, or the failure says which ones there are. -/
theorem conventionOf_text_eq (text : String) :
    conventionOf (.text text) =
      (Convention.parse? text).elim (.error (Failure.wrongValue (unknownConvention text))) .ok := by
  have hfind : (Convention.all.find? fun c => (Value.text text).equal (.text c.spelling)) =
      Convention.ofSpelling? text :=
    congrArg (Convention.all.find? ·) (funext fun c => Value.text_equal rfl text)
  unfold conventionOf
  dsimp only
  rw [hfind]
  cases hspelling : Convention.ofSpelling? text with
  | some convention =>
    have hparse : Convention.parse? text = some convention := by
      rw [Convention.parse?_eq_or, hspelling]
      rfl
    rw [hparse]
    rfl
  | none =>
    have hwritable : (Value.text text).isUnwritable = false := rfl
    have hplain : (Value.text text).plain = text := rfl
    dsimp only
    rw [hwritable, hplain]
    cases Convention.parse? text <;> rfl

/-- **The texts that name a convention.** A text is read as a convention iff it is the convention's
spelling, to the letter, or its name but for blanks around it, the case of its letters and hyphens
in the place of underscores. Every other text is refused with the list of the spellings. -/
theorem conventionOf_text (text : String) :
    (∀ convention, conventionOf (.text text) = .ok convention ↔
      text = convention.spelling ∨ convention.LooselyNamed text) ∧
    (conventionOf (.text text) = .error (Failure.wrongValue (unknownConvention text)) ↔
      ∀ convention : Convention, text ≠ convention.spelling ∧ ¬ convention.LooselyNamed text) := by
  rw [conventionOf_text_eq]
  have hparse : ∀ convention, Convention.parse? text = some convention ↔
      text = convention.spelling ∨ convention.LooselyNamed text :=
    fun _ => Convention.parse?_eq_some_iff
  cases hread : Convention.parse? text with
  | some read =>
    rw [hread] at hparse
    refine ⟨fun convention => ?_, iff_of_false (fun h => nomatch h) fun h => ?_⟩
    · rw [← hparse, Option.some_inj]
      exact ⟨Except.ok.inj, congrArg Except.ok⟩
    · exact ((hparse read).mp rfl).elim (h read).1 (h read).2
  | none =>
    rw [hread] at hparse
    refine ⟨fun convention => ?_, iff_of_true rfl fun convention => ?_⟩
    · exact iff_of_false (fun h => nomatch h) fun h => nomatch (hparse convention).mpr h
    · exact not_or.mp fun h => nomatch (hparse convention).mpr h

/-- Hyphens and blanks are overlooked: these two texts are read as a convention, and are neither a
spelling nor, in capitals or in small letters, a name. -/
theorem conventionOf_lenient :
    (conventionOf (.text "snake-case") = .ok .snakeCase ∧ ∀ convention : Convention,
      "snake-case" ≠ convention.spelling ∧
        upper "snake-case".toList ≠ upper convention.name.toList ∧
        lower "snake-case".toList ≠ lower convention.name.toList) ∧
    (conventionOf (.text " snake_case ") = .ok .snakeCase ∧ ∀ convention : Convention,
      " snake_case " ≠ convention.spelling ∧
        upper " snake_case ".toList ≠ upper convention.name.toList ∧
        lower " snake_case ".toList ≠ lower convention.name.toList) := by
  refine ⟨⟨rfl, fun convention => ?_⟩, rfl, fun convention => ?_⟩
  · cases convention <;> decide
  · cases convention <;> decide

end RowDecoding
