import LineMeasure.Proofs.Compactness.Outcome

/-!
# The verdict depends on the allowed terms only

The numbers of terms that are tried on the way do not show in the verdict: `[a, b)` is covered
exactly when the union of all terms that are allowed includes it (`isCovered_iff_allowed`). For when
the search ends before, it has found the interval covered, or it has seen all terms of the cover.
The test for inclusion, which knows nothing of passes over terms, gives the same answer; and with
more terms allowed the search gets at least as far.
-/

namespace LineMeasure
open Compactness

namespace Cover

variable {c : Cover} {m n : Nat} {few many : List HalfOpen}

/-- What is read of a cover begins what is read of it further on. -/
lemma IsHalfOpen.isPrefix_take (halfOpen : c.IsHalfOpen) (first : c.take m = .ok few)
    (more : c.take n = .ok many) (le : m ≤ n) : few <+: many := by
  cases h : c.tail with
  | none =>
    rw [take_of_finite h] at first more
    rw [← Except.ok.inj first, ← Except.ok.inj more]
    exact List.take_prefix_take_left le
  | some tail =>
    choose f made using halfOpen tail h
    rw [take_of_endless h made] at first more
    rw [← Except.ok.inj first, ← Except.ok.inj more]
    rcases le_total m c.terms.length with inside | behind
    · rw [Nat.sub_eq_zero_of_le inside, List.range_zero, List.map_nil, List.append_nil]
      exact (List.take_prefix_take_left le).trans (List.prefix_append _ _)
    -- the whole list comes first in both, and then so many terms of the tail
    · rw [List.take_of_length_le behind, List.take_of_length_le (behind.trans le),
        List.prefix_append_right_inj]
      obtain ⟨k, hk⟩ := Nat.exists_eq_add_of_le (Nat.sub_le_sub_right le c.terms.length)
      rw [hk, List.range_add, List.map_append]
      exact List.prefix_append _ _

end Cover

namespace Certificate.Sound

variable {cfg larger : Config} {a b : Rat} {c : Cover} {examined seen allowed : List HalfOpen}
  {cert later : Certificate}

/-- A certificate that is not for a covered interval has seen all terms that are allowed. -/
lemma examined_eq_allowed (sound : cert.Sound cfg a b c examined)
    (uncovered : cert.isCovered = false)
    (taken : c.take cfg.maxCoverTerms = .ok allowed) : examined = allowed := by
  cases exhausted : cert.isExhausted with
  | true =>
    obtain ⟨-, full, -⟩ := sound.of_exhausted exhausted
    have first := sound.taken
    rw [full, taken] at first
    exact (Except.ok.inj first).symm
  | false =>
    obtain ⟨finite, rfl, few, -⟩ := sound.of_gap uncovered exhausted
    rw [← sound.length_examined] at few
    rw [Cover.take_of_finite finite, List.take_of_length_le few.le] at taken
    exact Except.ok.inj taken

/-- The interval is covered when the terms that are allowed cover it. -/
lemma isCovered_iff_allowed (sound : cert.Sound cfg a b c examined) (halfOpen : c.IsHalfOpen)
    (taken : c.take cfg.maxCoverTerms = .ok allowed) :
    cert.isCovered = true ↔ CoversUpTo allowed a b := by
  constructor
  · intro covered
    have included := halfOpen.isPrefix_take sound.taken taken sound.termsExamined_le
    exact (sound.isCovered_iff_covers.1 covered).mono included.subset le_rfl
  · intro covers
    by_contra uncovered
    have all := sound.examined_eq_allowed (Bool.eq_false_of_not_eq_true uncovered) taken
    rw [← all, ← sound.isCovered_iff_covers] at covers
    exact uncovered covers

/-- A certificate on more terms reaches at least as far. -/
lemma reach_le_of_subset (sound : cert.Sound cfg a b c examined)
    (more : later.Sound larger a b c seen)
    (included : examined ⊆ seen) : cert.reach ≤ later.reach := by
  by_contra behind
  have before := not_le.1 behind
  obtain ⟨t, ht, inside⟩ := sound.covers later.reach more.le_reach before
  exact more.uncovered (before.trans_le sound.reach_le) t (included ht) inside

/-- With more terms allowed the search gets at least as far, and what is found covered stays so. -/
lemma mono (sound : cert.Sound cfg a b c examined) (more : later.Sound larger a b c seen)
    (halfOpen : c.IsHalfOpen) (le : cfg.maxCoverTerms ≤ larger.maxCoverTerms) :
    cert.reach ≤ later.reach ∧ (cert.isCovered = true → later.isCovered = true) := by
  obtain ⟨allowed, taken⟩ := halfOpen.exists_take larger.maxCoverTerms
  have included := halfOpen.isPrefix_take sound.taken taken (sound.termsExamined_le.trans le)
  cases covered : later.isCovered with
  | true =>
    rw [more.isCovered_iff.1 covered]
    exact ⟨sound.reach_le, fun _ => rfl⟩
  | false =>
    obtain rfl := more.examined_eq_allowed covered taken
    have further := sound.reach_le_of_subset more included.subset
    refine ⟨further, fun found => ?_⟩
    rw [sound.isCovered_iff.1 found] at further
    exact absurd further (not_le.2 (more.reach_lt covered))

end Certificate.Sound

namespace Compactness

variable {a b : Rat} {c : Cover}

/-- Terms cover `[a, b)` exactly when their union includes it. -/
lemma coversUpTo_iff_isSubset {terms : List HalfOpen} :
    CoversUpTo terms a b ↔
      (RealSet.ofIntervals [.ico a b]).isSubset (Cover.unionOf terms) = true := by
  have target (y : Rat) : y ∈ RealSet.ofIntervals [.ico a b] ↔ a ≤ y ∧ y < b := by
    rw [RealSet.mem_ofIntervals_singleton]
    exact HalfOpen.mem_toInterval (t := ⟨a, b⟩)
  rw [RealSet.isSubset_iff]
  constructor
  · intro covers y hy
    obtain ⟨above, below⟩ := (target y).1 hy
    obtain ⟨t, ht, inside⟩ := covers y above below
    exact RealSet.mem_ofIntervals.2 ⟨t.toInterval, List.mem_map_of_mem ht, inside⟩
  · intro included y above below
    obtain ⟨i, hi, inside⟩ := RealSet.mem_ofIntervals.1 (included y ((target y).2 ⟨above, below⟩))
    obtain ⟨t, ht, rfl⟩ := List.mem_map.1 hi
    exact ⟨t, ht, inside⟩

/-- A finite cover, or one that declares at least the length of `[a, b)`, has a certificate, which
is sound. -/
lemma exists_sound_certificate (cfg : Config) (lt : a < b) (halfOpen : c.IsHalfOpen)
    (enough : c.tail = none ∨ .ofPositivePart (b - a) ≤ c.sum) :
    ∃ cert examined, certify cfg a b c = .ok cert ∧ cert.Sound cfg a b c examined := by
  rw [certify_of_lt lt]
  rcases search_cases lt halfOpen (mem_budgets cfg.maxCoverTerms)
    fun n => le_of_mem_budgets with found | ⟨-, under⟩
  · exact found
  · rcases enough with finite | long
    · exact absurd finite under.endless
    · exact absurd under.sum_lt (ENNRat.not_lt.2 long)

/-- The interval is found covered exactly when the union of the allowed terms includes it. -/
theorem certify_isCovered_iff (cfg : Config) (lt : a < b) (halfOpen : c.IsHalfOpen)
    (enough : c.tail = none ∨ .ofPositivePart (b - a) ≤ c.sum) :
    ∃ cert allowed, certify cfg a b c = .ok cert ∧ c.take cfg.maxCoverTerms = .ok allowed ∧
      (cert.isCovered = true ↔
        (RealSet.ofIntervals [.ico a b]).isSubset (Cover.unionOf allowed) = true) ∧
      (c.tail = none → c.terms.length ≤ cfg.maxCoverTerms →
        ∀ count, c.covers (.ofIntervals [.ico a b]) count = .ok cert.isCovered) ∧
      ∀ larger : Config, cfg.maxCoverTerms ≤ larger.maxCoverTerms →
        ∃ later, certify larger a b c = .ok later ∧ cert.reach ≤ later.reach ∧
          (cert.isCovered = true → later.isCovered = true) := by
  obtain ⟨cert, examined, found, sound⟩ := exists_sound_certificate cfg lt halfOpen enough
  obtain ⟨allowed, taken⟩ := halfOpen.exists_take cfg.maxCoverTerms
  have verdict := (sound.isCovered_iff_allowed halfOpen taken).trans coversUpTo_iff_isSubset
  refine ⟨cert, allowed, found, taken, verdict, ?_, ?_⟩
  · intro finite few count
    rw [Cover.take_of_finite finite, List.take_of_length_le few] at taken
    obtain rfl : c.terms = allowed := Except.ok.inj taken
    rw [Cover.covers, Cover.union, finite]
    exact congrArg Except.ok (Bool.eq_iff_iff.2 verdict).symm
  · intro larger le
    obtain ⟨later, seen, refound, more⟩ := exists_sound_certificate larger lt halfOpen enough
    exact ⟨later, refound, sound.mono more halfOpen le⟩

/-- Three steps of length one are allowed, which is no power of two, and they cover `[0, 3)`. -/
theorem certify_isCovered_iff_unitSteps :
    let cfg : Config :=
      { Config.default with maxCoverTerms := 3, maxCoverTerms_pos := Nat.succ_pos 2 }
    let steps : Tail :=
      ⟨fun n => .ok (HalfOpen.mk n (n + 1)).toInterval, .infinite, none, "unit steps"⟩
    let c : Cover := ⟨[], some steps⟩
    (0 : Rat) < 3 ∧ c.IsHalfOpen ∧ (c.tail = none ∨ .ofPositivePart (3 - 0) ≤ c.sum) ∧
      ∃ cert allowed, certify cfg 0 3 c = .ok cert ∧ c.take cfg.maxCoverTerms = .ok allowed ∧
        (cert.isCovered = true ↔
          (RealSet.ofIntervals [.ico 0 3]).isSubset (Cover.unionOf allowed) = true) ∧
        ∃ later, certify .default 0 3 c = .ok later ∧ cert.reach ≤ later.reach ∧
          (cert.isCovered = true → later.isCovered = true) := by
  intro cfg steps c
  have lt : (0 : Rat) < 3 := by decide
  have halfOpen : c.IsHalfOpen := by
    rintro tail ⟨⟩ n
    exact ⟨_, rfl⟩
  have enough : c.tail = none ∨ .ofPositivePart (3 - 0) ≤ c.sum := .inr (ENNRat.le_infinite _)
  obtain ⟨cert, allowed, found, taken, verdict, -, mono⟩ :=
    certify_isCovered_iff cfg lt halfOpen enough
  have le : cfg.maxCoverTerms ≤ Config.default.maxCoverTerms := by decide
  exact ⟨lt, halfOpen, enough, cert, allowed, found, taken, verdict, mono .default le⟩

end Compactness
end LineMeasure
