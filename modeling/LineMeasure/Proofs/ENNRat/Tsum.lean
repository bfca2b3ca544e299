import LineMeasure.Given.Sum
import LineMeasure.Proofs.ENNRat.PartialSums
import LineMeasure.Proofs.Limit.Affine
import Mathlib.Data.List.Forall2

/-!
# The early end of a sum does not show

A sum of given entries looks at the first ones only, as many as are asked for, and at none behind
the first infinite one (`considered`). It reads these and adds up what it has read
(`sumFrom_eq_mapM`), so that an entry that is no number is the error of the sum exactly when it is
looked at. Of fewer entries the first of those that have been read are added, and these sums rise to
the whole one. What stands in the place of the other entries makes no difference
(`considered_append`), and if all that are asked for are extended numbers, all of them may be added
(`tsum_of_entries`), in any order. A count that is too large is refused before an entry is read.
-/

namespace LineMeasure

namespace Value

/-- A rational number is never infinite. -/
lemma extendedOfRat_ne_infinite (q : Rat) : extendedOfRat q ≠ .ok .infinite := by
  unfold extendedOfRat ENNRat.ofRat?
  by_cases nonneg : 0 ≤ q
  · rw [dif_pos nonneg]
    exact nofun
  · rw [dif_neg nonneg]
    exact nofun

/-- Only infinity itself is read as infinity. -/
lemma ennrat_eq_infinite_iff {v : Value} : v.ennrat = .ok .infinite ↔ v = .extended .infinite := by
  have finite (read : Except NumberFault Rat) :
      (read >>= extendedOfRat).mapError (Error.number "ENNReal value") ≠ .ok .infinite := by
    cases read with
    | error fault => exact nofun
    | ok q =>
      intro h
      cases extended : extendedOfRat q with
      | error fault => simp [bind, Except.bind, extended, Except.mapError] at h
      | ok e =>
        simp only [bind, Except.bind, extended, Except.mapError, Except.ok.injEq] at h
        exact extendedOfRat_ne_infinite q (h ▸ extended)
  cases v with
  | extended e => simp [ennrat, toENNRat, Except.mapError]
  | _ => exact iff_of_false (finite _) nofun

/-- Beside an extended number an operand is read as the number that is given. -/
lemma toENNRat_operand {v : Value} {x : Operand} (h : v.operand? = some x) :
    x.toENNRat = v.ennrat := by
  cases v with
  | extended e =>
    cases h
    rfl
  | int n =>
    cases h
    rfl
  | rational q =>
    cases h
    rfl
  | float y =>
    cases h
    cases y <;> rfl
  | _ => cases h

/-- Adding an operand to an extended number adds the number that is given. -/
lemma add_operand {v : Value} {x : Operand} {a b : ENNRat} (h : v.operand? = some x)
    (read : v.ennrat = .ok b) :
    Value.add (.extended a) v = .ok (a + b) := by
  have first : (Value.extended a).operand? = some (.extended a) := rfl
  have second : x.toENNRat = .ok b := (toENNRat_operand h).trans read
  simp only [Value.add, operands, first, h, second]
  rfl

end Value

namespace Given

/-- What an entry of a sum is read as. -/
def readTerm (term : Except Error Value) : Except Error ENNRat :=
  term >>= Value.ennrat

/-- Whether an entry is infinity, which ends a sum. -/
def isInfiniteTerm : Except Error Value → Bool
  | .ok (.extended .infinite) => true
  | _ => false

/-- The entries up to the first infinite one, which is the last of them. -/
def throughInfinite (terms : List (Except Error Value)) : List (Except Error Value) :=
  terms.take (terms.findIdx isInfiniteTerm + 1)

/-- As many first entries as are asked for. -/
def firstTerms (terms : List (Except Error Value)) (count : Option Nat) :
    List (Except Error Value) :=
  count.elim terms (terms.take ·)

/-- The entries that a sum looks at. -/
def considered (terms : List (Except Error Value)) (count : Option Nat) :
    List (Except Error Value) :=
  throughInfinite (firstTerms terms count)

variable {term : Except Error Value} {terms : List (Except Error Value)} {count : Option Nat}

/-- The entries that end a sum are those that are read as infinity. -/
lemma isInfiniteTerm_iff : isInfiniteTerm term = true ↔ readTerm term = .ok .infinite := by
  constructor
  · intro h
    unfold isInfiniteTerm at h
    split at h
    · rfl
    · cases h
  · intro h
    cases term with
    | error e => cases h
    | ok v => rw [Value.ennrat_eq_infinite_iff.1 h, isInfiniteTerm]

lemma throughInfinite_cons (term : Except Error Value) (terms : List (Except Error Value)) :
    throughInfinite (term :: terms) = if isInfiniteTerm term then [term]
      else term :: throughInfinite terms := by
  rw [throughInfinite, List.findIdx_cons]
  cases isInfiniteTerm term <;> simp [throughInfinite]

lemma throughInfinite_of_infinite (infinite : readTerm term = .ok .infinite) :
    throughInfinite (term :: terms) = [term] := by
  rw [throughInfinite_cons, if_pos (isInfiniteTerm_iff.2 infinite)]

lemma throughInfinite_of_finite (finite : readTerm term ≠ .ok .infinite) :
    throughInfinite (term :: terms) = term :: throughInfinite terms := by
  rw [throughInfinite_cons, if_neg (isInfiniteTerm_iff.not.2 finite)]

/-- Entries may first be counted off, or first be cut off behind infinity. -/
lemma throughInfinite_take (terms : List (Except Error Value)) (k : Nat) :
    throughInfinite (terms.take k) = (throughInfinite terms).take k := by
  induction terms generalizing k with
  | nil => simp [throughInfinite]
  | cons term terms ih =>
    cases k with
    | zero => simp [throughInfinite]
    | succ k =>
      rw [List.take_succ_cons, throughInfinite_cons, throughInfinite_cons, ih]
      split <;> simp

/-- Nothing more is cut off a second time. -/
lemma throughInfinite_throughInfinite (terms : List (Except Error Value)) :
    throughInfinite (throughInfinite terms) = throughInfinite terms := by
  show throughInfinite (terms.take _) = _
  rw [throughInfinite_take, throughInfinite, List.take_take, min_self]

/-- An infinite entry hides everything behind it. -/
lemma throughInfinite_append {others : List (Except Error Value)} (mem : term ∈ terms)
    (infinite : readTerm term = .ok .infinite) :
    throughInfinite (terms ++ others) = throughInfinite terms := by
  induction mem with
  | head =>
    rw [List.cons_append, throughInfinite_of_infinite infinite,
      throughInfinite_of_infinite infinite]
  | tail first _ ih => rw [List.cons_append, throughInfinite_cons, throughInfinite_cons, ih]

/-- Where no infinite entry is left, nothing was cut off. -/
lemma throughInfinite_eq_self (finite : ∀ t ∈ throughInfinite terms, readTerm t ≠ .ok .infinite) :
    throughInfinite terms = terms := by
  induction terms with
  | nil => rfl
  | cons term terms ih =>
    have first : readTerm term ≠ .ok .infinite := by
      intro infinite
      rw [throughInfinite_of_infinite infinite] at finite
      exact finite term List.mem_cons_self infinite
    rw [throughInfinite_of_finite first] at finite ⊢
    rw [ih fun t ht => finite t (List.mem_cons_of_mem _ ht)]

/-- Of fewer entries the first of those that are looked at are looked at. -/
lemma considered_of_le (count : Option Nat) {j : Nat} (le : ∀ k ∈ count, j ≤ k) :
    considered terms (some j) = (considered terms count).take j := by
  cases count with
  | none => exact throughInfinite_take terms j
  | some k =>
    show throughInfinite (terms.take j) = (throughInfinite (terms.take k)).take j
    rw [← throughInfinite_take, List.take_take, min_eq_left (le k rfl)]

/-- The same entries are looked at whatever stands in the place of the others. -/
lemma considered_append (outside : (considered terms count).length < terms.length)
    (others : List (Except Error Value)) :
    considered (considered terms count ++ others) count = considered terms count := by
  have again : throughInfinite (considered terms count) = considered terms count :=
    throughInfinite_throughInfinite _
  by_cases ends : ∃ t ∈ considered terms count, readTerm t = .ok .infinite
  · obtain ⟨t, mem, infinite⟩ := ends
    have hidden : throughInfinite (considered terms count ++ others) = considered terms count :=
      (throughInfinite_append mem infinite).trans again
    cases count with
    | none => exact hidden
    | some k =>
      have few : (considered terms (some k)).length ≤ k := by
        rw [considered_of_le none (by simp)]
        exact List.length_take_le k _
      show throughInfinite (List.take k _) = _
      rw [throughInfinite_take, hidden, List.take_of_length_le few]
  · push Not at ends
    have all : considered terms count = firstTerms terms count := throughInfinite_eq_self ends
    cases count with
    | none => exact absurd (congrArg List.length all) outside.ne
    | some k =>
      -- as many entries as are asked for are looked at already
      have enough : (considered terms (some k)).length = k := by
        rw [all, firstTerms, Option.elim_some, List.length_take] at outside ⊢
        omega
      show throughInfinite (List.take k _) = _
      rw [List.take_left' enough, again]

/-- A sum reads an entry, and goes on with the others if it is finite. -/
lemma sumFrom_cons (total : Rat) (term : Except Error Value) (terms : List (Except Error Value)) :
    sumFrom total (term :: terms) = readTerm term >>= fun a =>
      match a with
      | .infinite => .ok .infinite
      | .finite value _ => sumFrom (total + value) terms := by
  cases term <;> rfl

/-- A sum reads the entries up to the first infinite one and adds up what it has read. -/
lemma sumFrom_eq_mapM {total : Rat} (nonneg : 0 ≤ total) (terms : List (Except Error Value)) :
    sumFrom total terms =
      ((throughInfinite terms).mapM readTerm).map
        fun values => values.foldl (· + ·) (.finite total nonneg) := by
  induction terms generalizing total with
  | nil => exact ENNRat.ofRat_of_nonneg nonneg
  | cons term terms ih =>
    rw [sumFrom_cons]
    cases read : readTerm term with
    | error e =>
      rw [throughInfinite_of_finite (by rw [read]; exact nofun), List.mapM_cons, read]
      rfl
    | ok a =>
      cases a with
      | infinite =>
        rw [throughInfinite_of_infinite read, List.mapM_cons, read]
        show Except.ok ENNRat.infinite = .ok (ENNRat.finite total nonneg + ENNRat.infinite)
        rw [ENNRat.add_infinite]
      | finite value positive =>
        rw [throughInfinite_of_finite (by rw [read]; exact nofun), List.mapM_cons, read]
        show sumFrom (total + value) terms = _
        rw [ih (Rat.add_nonneg nonneg positive)]
        cases (throughInfinite terms).mapM readTerm <;> rfl

/-- A sum of given values is the sum of the sequence of numbers that they are read as. -/
lemma sumFrom_eq_sequence {total : Rat} (nonneg : 0 ≤ total) (terms : List (Except Error Value)) :
    sumFrom total terms = ENNRat.sumFrom (.finite total nonneg) (terms.map readTerm) := by
  induction terms generalizing total with
  | nil => exact ENNRat.ofRat_of_nonneg nonneg
  | cons term terms ih =>
    rw [sumFrom_cons, List.map_cons]
    cases readTerm term with
    | error e => rfl
    | ok a =>
      cases a with
      | infinite => rfl
      | finite value positive => exact ih (Rat.add_nonneg nonneg positive)

variable {values : List ENNRat}

/-- The entries are read as these numbers, one by one. -/
def ReadAs (terms : List (Except Error Value)) (values : List ENNRat) : Prop :=
  List.Forall₂ (fun t a => readTerm t = .ok a) terms values

/-- Extended numbers as the entries of a list. -/
def entries (numbers : List ENNRat) : List (Except Error Value) :=
  numbers.map fun a => .ok (.extended a)

/-- The numbers that are read add up to the sum, the supremum of the sums of fewer entries. -/
structure AddsUp (terms : List (Except Error Value)) (count : Option Nat) (values : List ENNRat) :
    Prop where
  reads : ReadAs (considered terms count) values
  result : tsum terms (count.map Nat.cast) = .ok (values.foldl (· + ·) 0)
  operands : (∀ t ∈ considered terms count, ∃ v x, t = .ok v ∧ v.operand? = some x) →
    tsum terms (count.map Nat.cast) =
      (considered terms count).foldlM (fun a t => t >>= Value.add (.extended a)) 0
  supremum : ∀ n,
    (considered terms count).length ≤ n → n ≤ Sequence.maxCount → (∀ k ∈ count, n ≤ k) →
    ∃ sums, (List.range (n + 1)).mapM (fun j : Nat => tsum terms (some j)) = .ok sums ∧
      tsum terms (count.map Nat.cast) = .ok (ENNRat.supremum sums)

/-- Among the entries that are looked at there is a first one that is no extended number, and its
error is the result. -/
def FailsAtFirstFault (terms : List (Except Error Value)) (count : Option Nat) : Prop :=
  ∃ before bad after e, considered terms count = before ++ bad :: after ∧
    (∀ t ∈ before, ∃ a, readTerm t = .ok a) ∧
    readTerm bad = .error e ∧ tsum terms (count.map Nat.cast) = .error e ∧
    ∀ v, bad = .ok v → ∃ fault, v.toENNRat = .error fault ∧ e = .number "ENNReal value" fault

/-- A sum whose count can be asked for is that of the entries that are looked at. -/
lemma tsum_eq_mapM (allowed : ∀ k ∈ count, k ≤ Sequence.maxCount) :
    tsum terms (count.map Nat.cast) = ((considered terms count).mapM readTerm).map ENNRat.sum := by
  rw [tsum, count?_of_le count allowed]
  exact sumFrom_eq_mapM le_rfl (firstTerms terms count)

lemma tsum_of_readAs (count : Option Nat) (allowed : ∀ k ∈ count, k ≤ Sequence.maxCount)
    (reads : ReadAs (considered terms count) values) :
    tsum terms (count.map Nat.cast) = .ok (ENNRat.sum values) := by
  rw [tsum_eq_mapM allowed, mapM_of_forall₂ reads]
  rfl

/-- Adding entries that may stand beside an extended number adds the numbers they are read as. -/
lemma foldlM_add {start : ENNRat} (reads : ReadAs terms values)
    (operands : ∀ t ∈ terms, ∃ v x, t = .ok v ∧ v.operand? = some x) :
    terms.foldlM (fun a t => t >>= Value.add (.extended a)) start =
      .ok (values.foldl (· + ·) start) := by
  induction reads generalizing start with
  | nil => rfl
  | @cons t a terms values read _ ih =>
    obtain ⟨v, x, rfl, operand⟩ := operands t List.mem_cons_self
    have first : Value.add (.extended start) v = .ok (start + a) := Value.add_operand operand read
    show (Value.add (.extended start) v >>=
      fun b => terms.foldlM (fun a t => t >>= Value.add (.extended a)) b) = _
    rw [first]
    exact ih fun t ht => operands t (List.mem_cons_of_mem _ ht)

/-- The sums of fewer entries have the whole sum as their supremum. -/
lemma exists_partialSums {n : Nat} (reads : ReadAs (considered terms count) values)
    (all : (considered terms count).length ≤ n) (few : n ≤ Sequence.maxCount)
    (asked : ∀ k ∈ count, n ≤ k) :
    ∃ sums, (List.range (n + 1)).mapM (fun j : Nat => tsum terms (some j)) = .ok sums ∧
      ENNRat.supremum sums = ENNRat.sum values := by
  refine ⟨(List.range (n + 1)).map fun j => ENNRat.sum (values.take j),
    mapM_eq_ok fun j hj => ?_, ?_⟩
  · have le : j ≤ n := Nat.lt_succ_iff.1 (List.mem_range.1 hj)
    have first : ReadAs (considered terms (some j)) (values.take j) := by
      rw [considered_of_le count fun k hk => le.trans (asked k hk)]
      exact List.forall₂_take j reads
    exact tsum_of_readAs (some j) (by simpa using le.trans few) first
  · exact ENNRat.supremum_sums values (reads.length_eq ▸ all)

lemma addsUp_of_readAs (allowed : ∀ k ∈ count, k ≤ Sequence.maxCount)
    (reads : ReadAs (considered terms count) values) :
    AddsUp terms count values := by
  have result := tsum_of_readAs count allowed reads
  refine ⟨reads, result, fun operands => ?_, fun n all few asked => ?_⟩
  · rw [result, foldlM_add reads operands]
    rfl
  · obtain ⟨sums, each, whole⟩ := exists_partialSums reads all few asked
    exact ⟨sums, each, whole ▸ result⟩

/-- The entries that are looked at add up, or the first fault among them is the result. -/
lemma tsum_cases (allowed : ∀ k ∈ count, k ≤ Sequence.maxCount) :
    (∃ values, AddsUp terms count values) ∨ FailsAtFirstFault terms count := by
  rcases forall_ok_or readTerm (considered terms count)
    with all | ⟨before, bad, after, e, split, readable, fails⟩
  · obtain ⟨values, -, reads⟩ := exists_mapM_eq_ok all
    exact .inl ⟨values, addsUp_of_readAs allowed reads⟩
  · refine .inr ⟨before, bad, after, e, split, readable, fails, ?_, ?_⟩
    · rw [tsum_eq_mapM allowed, split, mapM_eq_error readable fails]
      rfl
    · rintro v rfl
      change v.toENNRat.mapError _ = _ at fails
      cases read : v.toENNRat with
      | ok a =>
        rw [read] at fails
        cases fails
      | error fault =>
        rw [read] at fails
        exact ⟨fault, rfl, (Except.error.inj fails).symm⟩

/-- Where all entries that are asked for are extended numbers, all of them may be added. -/
lemma tsum_of_entries (count : Option Nat) {numbers : List ENNRat}
    (allowed : ∀ k ∈ count, k ≤ Sequence.maxCount)
    (given : firstTerms terms count = entries numbers) :
    tsum terms (count.map Nat.cast) = .ok (numbers.foldl (· + ·) 0) := by
  have reads : (entries numbers).map readTerm = numbers.map .ok := List.map_map
  rw [tsum, count?_of_le count allowed]
  show sumFrom 0 (firstTerms terms count) = _
  rw [given, sumFrom_eq_sequence le_rfl, reads]
  exact ENNRat.sumFrom_map_ok 0 numbers

/-- A sum is that of the entries that are looked at, or the error of the first faulty one. -/
theorem tsum_exact (terms : List (Except Error Value)) (count : Option Nat) :
    (∀ k ∈ count, Sequence.maxCount < k → tsum terms (count.map Nat.cast) = .error .count) ∧
    ((∀ k ∈ count, k ≤ Sequence.maxCount) →
      ((∃ values, AddsUp terms count values) ∨ FailsAtFirstFault terms count) ∧
      (∀ numbers, firstTerms terms count = entries numbers →
        tsum terms (count.map Nat.cast) = .ok (numbers.foldl (· + ·) 0)) ∧
      ((considered terms count).length < terms.length → ∀ others,
        tsum (considered terms count ++ others) (count.map Nat.cast) =
          tsum terms (count.map Nat.cast))) ∧
    ∀ numbers others : List ENNRat, numbers.Perm others →
      tsum (entries numbers) none = tsum (entries others) none := by
  refine ⟨?_, fun allowed => ⟨tsum_cases allowed, fun numbers => tsum_of_entries count allowed,
    fun outside others => ?_⟩, fun numbers others reordered => ?_⟩
  · rintro k ⟨⟩ tooMany
    rw [Option.map_some, tsum, count?_of_lt tooMany]
    rfl
  · rw [tsum_eq_mapM allowed, tsum_eq_mapM allowed, considered_append outside]
  · have sum (numbers : List ENNRat) :
        tsum (entries numbers) none = .ok (numbers.foldl (· + ·) 0) :=
      tsum_of_entries none (by simp) rfl
    rw [sum, sum, reordered.foldl_eq 0]

/-- A sum of five entries that looks at three of them: infinity hides a text that is no number and
an entry that cannot be made. -/
theorem tsum_exact_hiddenFaults :
    let terms : List (Except Error Value) :=
      [.ok (.int 3), .ok (.extended 1), .ok (.extended .infinite), .ok (.text "many"),
        .error .operand]
    (∀ k ∈ some 5, k ≤ Sequence.maxCount) ∧ considered terms (some 5) = terms.take 3 ∧
      (∃ values, AddsUp terms (some 5) values) ∧ (considered terms (some 5)).length < terms.length ∧
      ∀ others, tsum (considered terms (some 5) ++ others) (some 5) = .ok .infinite := by
  intro terms
  have allowed : ∀ k ∈ some 5, k ≤ Sequence.maxCount := by decide
  have infinite : tsum terms (some 5) = .ok .infinite := rfl
  obtain ⟨-, accepted, -⟩ := tsum_exact terms (some 5)
  obtain ⟨outcome, -, hidden⟩ := accepted allowed
  refine ⟨allowed, rfl, ?_, by decide, fun others => (hidden (by decide) others).trans infinite⟩
  rcases outcome with addsUp | ⟨-, -, -, e, -, -, -, fails, -⟩
  · exact addsUp
  · cases infinite.symm.trans fails

/-- A sum of one number can be asked for in a count that is refused, although the number is all that
it would look at. -/
theorem tsum_tooManyTerms :
    let terms := entries [1]
    considered terms (some 9223372036854775808) = terms ∧ ReadAs terms [1] ∧
      tsum terms (some 9223372036854775808) = .error .count :=
  ⟨rfl, .cons rfl .nil, rfl⟩

end Given
end LineMeasure
