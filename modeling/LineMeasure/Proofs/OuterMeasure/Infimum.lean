import LineMeasure.Proofs.Cover.Terms
import LineMeasure.Proofs.OuterMeasure.Value

/-!
# The outer measure is the infimum of the sums of covers

No cover that includes a set has a smaller sum than the outer measure of the set, in whatever order
its terms stand and however they overlap; and when the outer measure is finite, some finite cover
comes as close to it as one likes. An endless cover takes part when its tail declares at least the
lengths of the terms that are looked at.
-/

namespace LineMeasure

/-- A tail without a declared union that begins with half-open terms and declares their lengths. -/
structure Tail.Honest (tail : Tail) (count : Nat) : Prop where
  span : tail.span = none
  terms : ∃ f : Nat → HalfOpen, (∀ n < count, tail.term n = .ok (f n).toInterval) ∧
    ENNRat.sum ((List.range count).map fun n => (f n).length) ≤ tail.total

namespace Cover

/-- A cover is honest when it is finite or has an honest tail. -/
def Honest (c : Cover) (count : Nat) : Prop :=
  ∀ tail ∈ c.tail, tail.Honest count

/-- The union of two lists of terms, one behind the other. -/
lemma unionOf_append (ts us : List HalfOpen) : unionOf (ts ++ us) = unionOf ts ∪ unionOf us := by
  ext x
  rw [RealSet.mem_union]
  simp only [unionOf, RealSet.mem_ofIntervals, List.map_append, List.mem_append,
    or_and_right, exists_or]

/-- The extent of a union of terms is at most the sum of their lengths. -/
lemma extent_unionOf_le (terms : List HalfOpen) :
    (unionOf terms).extent ≤ ENNRat.sum (terms.map HalfOpen.length) := by
  rw [← map_extent_toInterval]
  exact RealSet.extent_ofIntervals_le _

/-- The sum of the lengths of a list of terms is finite. -/
lemma sum_lengths_ne_infinite (terms : List HalfOpen) :
    ENNRat.sum (terms.map HalfOpen.length) ≠ .infinite := by
  obtain ⟨nonneg, finite⟩ := sum_lengths_eq_finite terms
  rw [finite]
  intro infinite
  cases infinite

variable {c : Cover} {s : RealSet} {count : Nat}

/-- What an honest cover is known to cover is the union of terms that are no longer together than
its sum. -/
lemma Honest.union_eq (honest : c.Honest count) :
    ∃ terms, c.union (some count) = .ok (unionOf terms) ∧
      ENNRat.sum (terms.map HalfOpen.length) ≤ c.sum := by
  rw [sum_eq_total, total, withTail, union]
  cases h : c.tail with
  | none => exact ⟨c.terms, rfl, le_rfl⟩
  | some tail =>
    -- a tail of unknown union takes part with the terms that are read, and these are no longer than
    -- declared
    obtain ⟨span, f, terms, declared⟩ := honest tail h
    have read := readFirst_tailTerm c.terms.length terms
    refine ⟨c.terms ++ (List.range count).map f, ?_, ?_⟩
    · simp only [span, read]
      rw [unionOf_append]
      rfl
    · rw [List.map_append, ENNRat.sum_append, List.map_map]
      exact add_le_add le_rfl declared

/-- A cover that includes a set is not shorter than the set. -/
lemma Honest.extent_le_sum (honest : c.Honest count) (covers : c.covers s (some count) = .ok true) :
    s.extent ≤ c.sum := by
  obtain ⟨terms, union, sum⟩ := honest.union_eq
  rw [Cover.covers, union] at covers
  have included : s ⊆ unionOf terms := RealSet.isSubset_iff.1 (Except.ok.inj covers)
  calc s.extent ≤ (unionOf terms).extent := RealSet.extent_mono included
    _ ≤ ENNRat.sum (terms.map HalfOpen.length) := extent_unionOf_le terms
    _ ≤ c.sum := sum

/-- A finite cover includes no set of infinite extent. -/
lemma covers_eq_false (finite : c.tail = none) (infinite : s.extent = .infinite)
    (count : Option Nat) :
    c.covers s count = .ok false := by
  rw [covers, union, finite]
  cases h : s.isSubset (unionOf c.terms) with
  | false => exact congrArg Except.ok h
  | true =>
    have included := RealSet.extent_mono (RealSet.isSubset_iff.1 h)
    have short := included.trans (extent_unionOf_le c.terms)
    rw [infinite] at short
    exact absurd (le_antisymm (ENNRat.le_infinite _) short) (sum_lengths_ne_infinite c.terms)

/-- A set of finite extent has finite covers of almost that sum. -/
lemma exists_cover_sum_le (finite : s.extent ≠ .infinite) {δ : Rat} (positive : 0 < δ) :
    ∃ c : Cover, c.tail = none ∧ c.covers s none = .ok true ∧
      c.sum ≤ s.extent + .finite δ positive.le := by
  have bounded : s.isBounded = true := by
    cases h : s.isBounded with
    | true => rfl
    | false => exact absurd (RealSet.extent_of_unbounded h) finite
  refine ⟨canonical s δ, (canonical_of_bounded δ bounded).2, covers_canonical s positive none, ?_⟩
  rw [sum_canonical s positive.le]
  refine add_le_add le_rfl ?_
  rw [ENNRat.ofPositivePart_of_nonneg (mul_nonneg positive.le (padShares_nonneg 0 s.components)),
    ENNRat.finite_le_finite]
  exact (mul_padShares_lt positive s.components).le

end Cover

/-- The outer measure is the infimum of the sums of honest covers. -/
theorem outerMeasure_isInfimum (cfg : Config) (s : RealSet) :
    ∃ m, outerMeasure cfg s = .ok m ∧
      (∀ c : Cover, c.Honest cfg.maxCoverTerms →
        outerMeasureUpperBound cfg s c = .error (.cover (.uncovered s)) ∨
          ∃ v, outerMeasureUpperBound cfg s c = .ok v ∧ m ≤ v) ∧
      (m ≠ .infinite → ∀ δ : Rat, ∀ positive : 0 < δ,
        ∃ c : Cover, c.tail = none ∧ c.covers s none = .ok true ∧
          c.sum ≤ m + .finite δ positive.le) ∧
      (m = .infinite → ∀ c : Cover, c.tail = none → ∀ count, c.covers s count = .ok false) := by
  refine ⟨s.extent, outerMeasure_eq_extent cfg s, ?_, ?_, ?_⟩
  · intro c honest
    obtain ⟨terms, union, _⟩ := honest.union_eq
    have decided :
        c.covers s (some cfg.maxCoverTerms) = .ok (s.isSubset (Cover.unionOf terms)) := by
      rw [Cover.covers, union]
      rfl
    cases h : s.isSubset (Cover.unionOf terms) with
    | false =>
      left
      rw [outerMeasureUpperBound, decided, h]
      rfl
    | true =>
      right
      rw [h] at decided
      refine ⟨c.sum, ?_, honest.extent_le_sum decided⟩
      rw [outerMeasureUpperBound, decided]
      rfl
  · intro finite δ positive
    exact Cover.exists_cover_sum_le finite positive
  · intro infinite c finite count
    exact Cover.covers_eq_false finite infinite count

/-- An endless cover by intervals of length one is no upper bound below the outer measure of the
unit interval. -/
theorem outerMeasure_isInfimum_unitSteps :
    let unit := RealSet.ofIntervals [.ico 0 1]
    let steps : Cover :=
      ⟨[], some ⟨fun n => .ok (HalfOpen.mk n (n + 1)).toInterval, .infinite, none, "unit steps"⟩⟩
    steps.Honest Config.default.maxCoverTerms ∧ ∃ m, outerMeasure .default unit = .ok m ∧
      (outerMeasureUpperBound .default unit steps = .error (.cover (.uncovered unit)) ∨
        ∃ v, outerMeasureUpperBound .default unit steps = .ok v ∧ m ≤ v) := by
  intro unit steps
  have honest : steps.Honest Config.default.maxCoverTerms := by
    rintro tail ⟨⟩
    exact ⟨rfl, fun n => ⟨n, n + 1⟩, fun _ _ => rfl, ENNRat.le_infinite _⟩
  obtain ⟨m, value, bound, _⟩ := outerMeasure_isInfimum .default unit
  exact ⟨honest, m, value, bound steps honest⟩

end LineMeasure
