import Mathlib.Algebra.Group.Int.Defs
import RowDecoding.Proofs.Binding
import RowDecoding.Proofs.Columns
import RowDecoding.Proofs.Magnitudes

/-!
# Rows of three makings

The same named values can come as a dictionary, as a sequence with column names and from a database
cursor. These keep them in different ways and look them up in different ways: by equal keys, and by
names that are the same if the case of ASCII letters is ignored. This file shows that they are one
row nevertheless, as long as no two names differ in case only and no name is asked for that differs
from one of theirs in case only.

* `Lists.cell_index`, `Lists.cell_name`: each of the three has the cell at a position and under a
  name that the list of named values has there, and lacks it where the list has none.
* `adapters_agree`: what this says of the failures, and of the plans that run over the three.

A cell that is lacking is reported as an absent column, with one exception: a position of more
digits than a number may be written with makes the report itself fail.
-/

namespace RowDecoding

namespace Row

/-- The names of named values. -/
def namesOf (pairs : Bindings) : List Value := pairs.map fun e => .text e.1

/-- Named values without their names. -/
def cellsOf (pairs : Bindings) : List Value := pairs.map (·.2)

/-- Named values as a dictionary. -/
def dictionaryOf (pairs : Bindings) : Value := .dict (pairs.map fun e => (.text e.1, e.2))

/-- No two names are the same where the case of ASCII letters is ignored. -/
def Distinct (pairs : Bindings) : Prop := (pairs.map fun e => foldCase e.1).Nodup

/-- A name is one of the names, or like none of them where the case of ASCII letters is ignored. -/
def Resolved (pairs : Bindings) (name : String) : Prop :=
  name ∈ pairs.map (·.1) ∨ foldCase name ∉ pairs.map fun e => foldCase e.1

/-- Named values as they are handed over: as a dictionary, as a sequence with column names, or as a
row of a database that stores them unchanged. -/
inductive Presents (pairs : Bindings) : Value → Prop
  | dictionary : Presents pairs (dictionaryOf pairs)
  | sequence {v : Value} (h : ofSequence (cellsOf pairs) (namesOf pairs) = .ok v) : Presents pairs v
  | fetched {v : Value} (h : ofCursor (namesOf pairs) (cellsOf pairs) = .ok v)
    (hstored : ∀ cell ∈ cellsOf pairs, ∀ i, stored i cell = .ok cell) : Presents pairs v

/-- Rows of named values. -/
inductive Lists (pairs : Bindings) : Value → Prop
  | mapping : Lists pairs (.row .mapping (namesOf pairs) (cellsOf pairs))
  | sequence : Lists pairs (.row .sequence (namesOf pairs) (cellsOf pairs))
  | cursor : Lists pairs (.row .cursor (namesOf pairs) (cellsOf pairs))

/-- The value at a position, if there is one. -/
def valueAt? (pairs : Bindings) (i : Int) : Option Value :=
  if 0 ≤ i then (cellsOf pairs)[i.toNat]? else none

section

variable {pairs : Bindings} {row key : Value}

theorem Distinct.names_nodup (h : Distinct pairs) : (pairs.map (·.1)).Nodup := by
  have hfolded : ((pairs.map (·.1)).map foldCase).Nodup := by
    rw [List.map_map]
    exact h
  exact hfolded.of_map

/-! ## Adapting -/

/-- Storing leaves cells as they are if it leaves each of them. -/
theorem mapM_stored {cells : List Value} (first : Nat)
    (hstored : ∀ cell ∈ cells, ∀ i, stored i cell = .ok cell) :
    ((cells.zipIdx first).mapM fun (v, i) => stored i v) = .ok cells := by
  induction cells generalizing first with
  | nil => rfl
  | cons cell cells ih =>
    rw [List.zipIdx_cons, List.mapM_cons]
    dsimp only
    rw [hstored cell List.mem_cons_self,
      ih (first + 1) fun cell hcell => hstored cell (List.mem_cons_of_mem _ hcell)]
    rfl

theorem fetched_of_stored {v : Value} (h : ofCursor (namesOf pairs) (cellsOf pairs) = .ok v)
    (hstored : ∀ cell ∈ cellsOf pairs, ∀ i, stored i cell = .ok cell) :
    v = .row .fetched (namesOf pairs) (cellsOf pairs) := by
  unfold ofCursor at h
  obtain ⟨-, -, h⟩ := Running.bind_eq_ok.mp h
  rw [mapM_stored 1 hstored] at h
  cases h
  rfl

/-- Each of the three is adapted to a row of the values. -/
theorem Presents.adapts {v : Value} (h : Presents pairs v) (table : ClassTable) :
    ∃ row, Adapts table v row ∧ Lists pairs row := by
  cases h with
  | dictionary =>
    refine ⟨_, ⟨rfl, ?_⟩, .mapping⟩
    show Except.ok (ofEntries _) = _
    unfold ofEntries namesOf cellsOf
    rw [List.map_map, List.map_map]
    rfl
  | sequence h =>
    have hrow := isReady_ofSequence h
    unfold ofSequence at h
    split at h
    · cases h
    · cases h
      exact ⟨_, hrow.adapts table, .sequence⟩
  | fetched h hstored =>
    rw [fetched_of_stored h hstored]
    exact ⟨_, ⟨rfl, rfl⟩, .cursor⟩

/-! ## Cells by position -/

/-- A position is in range just if it is one of the first so many numbers. -/
theorem isBelow_of_asInt {i : Int} (hkey : key.asInt? = some i) (count : Nat) :
    isBelow count key = .ok (decide (0 ≤ i ∧ i < count)) := by
  have hmagnitude : key.magnitude? = some (.ofInt i) := by
    unfold Value.magnitude?
    rw [Value.content_of_asInt hkey]
    split
    · cases hkey
    · cases hkey
    · rw [hkey]
      rfl
  have hdefined : Number.Magnitude.ofInt i ≠ .undefined := by
    by_cases hi : i = 0
    · subst hi
      decide
    · obtain ⟨n, e, h, -⟩ := Number.Magnitude.ofInt_spec hi
      rw [h]
      exact fun h => nomatch h
  have hresult : (!(Number.Magnitude.ofInt i).isLess (.ofInt 0) &&
      (Number.Magnitude.ofInt i).isLess (.ofInt count)) = decide (0 ≤ i ∧ i < count) := by
    rw [Number.Magnitude.isLess_ofInt, Number.Magnitude.isLess_ofInt, ← decide_not,
      Bool.decide_and, decide_eq_decide.mpr Int.not_lt]
  unfold isBelow
  rw [hmagnitude]
  dsimp only
  rw [← hresult]
  split
  · next h => exact absurd h hdefined
  · next h => exact absurd h hdefined
  · rfl

theorem cellAt_of_asInt {form : RowForm} {columns cells : List Value} {i : Int}
    (hform : form ≠ .fetched ∧ form ≠ .empty) (hkey : key.asInt? = some i) :
    cellAt key (.row form columns cells) =
      found key (if 0 ≤ i then cells[i.toNat]? else none) := by
  have hcell : cellAt key (.row form columns cells) = (do
      if !(← isBelow cells.length key) then throw (Failure.absent key)
      found key cells[i.toNat]?) := by
    unfold cellAt
    rw [hkey]
    cases form <;> first | rfl | exact absurd rfl hform.1 | exact absurd rfl hform.2
  rw [hcell, isBelow_of_asInt hkey]
  by_cases hi : 0 ≤ i
  · rw [if_pos hi]
    by_cases hcount : i < cells.length
    · rw [decide_eq_true ⟨hi, hcount⟩]
      rfl
    · rw [decide_eq_false fun h => hcount h.2, List.getElem?_eq_none (by omega)]
      rfl
  · rw [if_neg hi, decide_eq_false fun h => hi h.1]
    rfl

/-- Rows of named values have the value at a position. -/
theorem Lists.cell_index (h : Lists pairs row) {i : Int} (hkey : key.asInt? = some i) :
    cell key row = found key (valueAt? pairs i) := by
  have hcell : cell key row = cellAt key row := by
    unfold cell
    rw [hkey]
  rw [hcell]
  cases h <;> exact cellAt_of_asInt (by decide) hkey

/-! ## Cells by name -/

/-- A text that is one of the names is the same as no other one, and a text that is like none of them
is the same as none. -/
theorem sameName_of_resolved (hdistinct : Distinct pairs) {name : String}
    (hname : Resolved pairs name) (hkey : key.asText? = some name) {e : String × Value}
    (he : e ∈ pairs) : sameName key (.text e.1) = (name == e.1) := by
  have hfold : foldCase name = foldCase e.1 → name = e.1 := by
    intro hfold
    rcases hname with hmem | hnone
    · obtain ⟨e', he', rfl⟩ := List.mem_map.mp hmem
      rw [List.inj_on_of_nodup_map hdistinct he' he hfold]
    · exact absurd (hfold ▸ List.mem_map_of_mem he) hnone
  unfold sameName
  rw [hkey]
  show (name == e.1 || (isAscii name && isAscii e.1 && foldCase name == foldCase e.1)) = _
  rw [Bool.eq_iff_iff, Bool.or_eq_true, Bool.and_eq_true, beq_iff_eq, beq_iff_eq]
  exact ⟨fun h => h.elim id fun h => hfold h.2, Or.inl⟩

/-- The first cell whose name passes a test for one name. -/
theorem firstCell?_lookup {test : Value → Bool} {name : String}
    (htest : ∀ e ∈ pairs, test (.text e.1) = (name == e.1)) :
    firstCell? test (namesOf pairs) (cellsOf pairs) = pairs.lookup name := by
  induction pairs with
  | nil => rfl
  | cons e pairs ih =>
    have hrest := ih fun e he => htest e (List.mem_cons_of_mem _ he)
    rw [List.lookup_cons, ← hrest, ← htest e List.mem_cons_self]
    show (if test (.text e.1) then _ else _) = _
    cases test (.text e.1) <;> rfl

/-- Rows of named values have the value under a name. -/
theorem Lists.cell_name (h : Lists pairs row) (hdistinct : Distinct pairs) {name : String}
    (hname : Resolved pairs name) (hkey : key.asText? = some name) :
    cell key row = found key (pairs.lookup name) := by
  have hnumber : key.asInt? = none := by
    unfold Value.asText? at hkey
    split at hkey <;> cases hkey <;> rfl
  have hhashable : Fault.ofKey key = .ok () := by
    unfold Value.asText? at hkey
    split at hkey <;> cases hkey <;> rfl
  have hequal : firstCell? (·.equal key) (namesOf pairs) (cellsOf pairs) = pairs.lookup name :=
    firstCell?_lookup fun e _ => Value.text_equal hkey e.1
  have hcell : cell key row = cellNamed key row := by
    unfold cell
    rw [hnumber]
  rw [hcell]
  cases h with
  | mapping | sequence =>
    unfold cellNamed
    dsimp only
    rw [hhashable, hequal]
    rfl
  | cursor =>
    unfold cellNamed cursorCell?
    dsimp only
    rw [hnumber]
    dsimp only
    rw [firstCell?_lookup fun e he => sameName_of_resolved hdistinct hname hkey he]

end

/-- What a mapper does to the three rows is settled by the named values: its keys are positions and
resolved names, and its hooks, if it has any, treat the three alike. -/
structure Suits (pairs : Bindings) (gives : ClassRef → String → DecodePlan → Prop)
    (m : RowMapper) : Prop where
  keys : ∀ key, m.Reads gives key →
    (∃ i, key.asInt? = some i) ∨ ∃ name, key.asText? = some name ∧ Resolved pairs name
  hooks : ∀ hook, m.Runs gives hook → hook.IsHook →
    ∀ row row', Lists pairs row → Lists pairs row' → ∀ k σ,
      (hook.run (.ofDepth k) row).run σ = (hook.run (.ofDepth k) row').run σ

end Row

/-- **Rows agree, whatever they are made from.** Take named values of which no two names differ in
the case of ASCII letters only. As a dictionary, as a sequence with column names and from a database
that stores them unchanged they give the same cell at each position and under each name that is one
of theirs or like none of theirs. Positions before the first and after the last are absent columns
in each, and so is a name that is like none, unless the position has too many digits to be written
into the failure. The cell at a position is the one under its name. So a plan with such keys makes
the same of the three. -/
theorem adapters_agree {pairs : Bindings} (hdistinct : Row.Distinct pairs) :
    (∀ table v, Row.Presents pairs v → ∃ row, Row.Adapts table v row ∧
      (∀ i : Int, Row.cellAt (.int i) row =
        match Row.valueAt? pairs i with
        | some cell => .ok cell
        | none => .error (if Number.exceedsLimit i then .fault Fault.tooLongToWrite
            else .row (.absent (.int i)) none none)) ∧
      (∀ name, Row.Resolved pairs name → Row.cellNamed (.text name) row =
        match pairs.lookup name with
        | some cell => .ok cell
        | none => .error (.row (.absent (.text name)) none none)) ∧
      ∀ (i : Nat) (hi : i < pairs.length), Row.cellAt (.int i) row = .ok pairs[i].2 ∧
        Row.cellNamed (.text pairs[i].1) row = .ok pairs[i].2) ∧
    ∀ (p : DecodePlan) (σ : Session) (v v' : Value), Row.Presents pairs v → Row.Presents pairs v' →
      ∀ gives : ClassRef → String → DecodePlan → Prop,
        (∀ row, Row.Adapts σ.classes v row → ∀ owner registry q,
          Given row owner registry q Level.depth σ (.plan p) → gives owner registry q) →
        Row.Suits pairs gives (.plan p) →
        (execute Level.top p v).run σ = (execute Level.top p v').run σ := by
  refine ⟨fun table v hv => ?_, fun p σ v v' hv hv' gives hgives hsuits => ?_⟩
  · obtain ⟨row, hadapts, hrow⟩ := hv.adapts table
    have hname {name : String} (h : Row.Resolved pairs name) :
        Row.cellNamed (.text name) row = Row.found (.text name) (pairs.lookup name) :=
      (hrow.cell_name hdistinct h rfl : Row.cell (.text name) row = _)
    have hindex (i : Int) : Row.cellAt (.int i) row = Row.found (.int i) (Row.valueAt? pairs i) :=
      (hrow.cell_index rfl : Row.cell (.int i) row = _)
    refine ⟨row, hadapts, fun i => ?_, fun name h => ?_, fun i hi => ⟨?_, ?_⟩⟩
    · rw [hindex]
      cases Row.valueAt? pairs i with
      | some cell => rfl
      | none =>
        show Except.error (if Number.exceedsLimit i then _ else _) = _
        rfl
    · rw [hname h]
      cases pairs.lookup name <;> rfl
    · have hvalue : Row.valueAt? pairs i = some pairs[i].2 := by
        unfold Row.valueAt? Row.cellsOf
        rw [if_pos (Int.natCast_nonneg i), Int.toNat_natCast, List.getElem?_map,
          List.getElem?_eq_getElem hi]
        rfl
      rw [hindex, hvalue]
      rfl
    · have hmem : pairs[i] ∈ pairs := List.getElem_mem hi
      have hlookup : pairs.lookup pairs[i].1 = some pairs[i].2 :=
        lookup_of_mem hdistinct.names_nodup hmem
      rw [hname (Or.inl (List.mem_map_of_mem hmem)), hlookup]
      rfl
  · obtain ⟨row, hadapts, hrow⟩ := hv.adapts σ.classes
    obtain ⟨row', hadapts', hrow'⟩ := hv'.adapts σ.classes
    rw [hadapts.run_execute, hadapts'.run_execute]
    have hagree : Agree gives row row' Level.depth σ (.plan p) := by
      refine ⟨hgives row hadapts, fun key hkey => ?_, fun hook hruns hhook => ?_⟩
      · rcases hsuits.keys key hkey with ⟨i, hi⟩ | ⟨name, hname, hresolved⟩
        · rw [hrow.cell_index hi, hrow'.cell_index hi]
        · rw [hrow.cell_name hdistinct hresolved hname, hrow'.cell_name hdistinct hresolved hname]
      · exact hsuits.hooks hook hruns hhook row row' hrow hrow'
    exact run_congr hadapts.isReady hadapts'.isReady hagree

namespace InheritedMapping

/-- The cells of `row` under their names. -/
def columns : Bindings := [("x", .int 1), ("y", .int 2)]

theorem cell_long_position {row : Value} (hrow : Row.Lists columns row) :
    Row.cell (.int (10 ^ 5000)) row = .error (.fault Fault.tooLongToWrite) := by
  have hnone : Row.valueAt? columns (10 ^ 5000) = none := by decide +kernel
  have hlong : Number.exceedsLimit (10 ^ 5000) = true := by decide +kernel
  rw [hrow.cell_index rfl, hnone]
  show Except.error (if Number.exceedsLimit (10 ^ 5000) then _ else _) = _
  rw [hlong]
  rfl

/-- A position far past the end is no absent column in any of the three rows: with so many digits it
cannot be written into the failure. -/
theorem long_position_unreported :
    Row.cell (.int (10 ^ 5000)) (.row .mapping (Row.namesOf columns) (Row.cellsOf columns)) =
        .error (.fault Fault.tooLongToWrite) ∧
      Row.cell (.int (10 ^ 5000)) (.row .sequence (Row.namesOf columns) (Row.cellsOf columns)) =
        .error (.fault Fault.tooLongToWrite) ∧
      Row.cell (.int (10 ^ 5000)) (.row .cursor (Row.namesOf columns) (Row.cellsOf columns)) =
        .error (.fault Fault.tooLongToWrite) :=
  ⟨cell_long_position .mapping, cell_long_position .sequence, cell_long_position .cursor⟩

/-- A row of a database with these cells. -/
def fetched : Value := .row .fetched [.text "x", .text "y"] [.int 1, .int 2]

/-- A plan with a plan nested in it makes the same of a dictionary and of a row of a database. -/
theorem adapters_agree_derived :
    Row.Distinct columns ∧
    ∃ p, HandsOut derived.classes (registry derived) Overrides.none derived.classes.classes.length
        p ∧
      (execute Level.top p (Row.dictionaryOf columns)).run derived =
        (execute Level.top p fetched).run derived := by
  have hdistinct : Row.Distinct columns := (by decide +kernel : (["x", "y"] : List String).Nodup)
  obtain ⟨p, hp, ⟨n, hclosed⟩, hhookless, hreads⟩ := exists_closed_plan
  have hfetched : Row.Presents columns fetched := by
    refine .fetched rfl fun cell hcell i => ?_
    rcases List.mem_pair.mp hcell with rfl | rfl <;> rfl
  have hgiven : ∀ row, Row.Adapts derived.classes (Row.dictionaryOf columns) row →
      ∀ owner registry q, Given row owner registry q Level.depth derived (.plan p) → False :=
    fun row _ owner registry q hq => hq.not_within hclosed
  have hsuits : Row.Suits columns (fun _ _ _ => False) (.plan p) := by
    refine ⟨fun key hkey => Or.inr ?_, fun hook hruns hhook => absurd hhook (hhookless hook hruns)⟩
    rcases hreads _ key hkey with rfl | rfl
    · exact ⟨"x", rfl, Or.inl (by decide)⟩
    · exact ⟨"y", rfl, Or.inl (by decide)⟩
  exact ⟨hdistinct, p, hp,
    (adapters_agree hdistinct).2 p derived _ _ .dictionary hfetched _ hgiven hsuits⟩

end InheritedMapping

end RowDecoding
