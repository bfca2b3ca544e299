import LineMeasure.Proofs.Compactness.Certificate

/-!
# When the terms are exhausted, and what a certificate says about the sum

The search for a certificate allows the same number of terms to finite and to endless covers. So a
finite cover is left undecided exactly when it has at least that many terms and those do not cover
the interval, even when there are no further ones. The length that a certificate certifies is at
most that of the terms that were examined; it is compared with the sum of the cover only when the
interval is covered, so that an exhausted certificate may be above the sum that an endless cover
declares.
-/

namespace LineMeasure
open Compactness

namespace Certificate.Sound

variable {cfg : Config} {a b : Rat} {c : Cover} {examined : List HalfOpen} {cert : Certificate}

/-- A certificate that is not for a covered interval stops below `b`. -/
lemma reach_lt (sound : cert.Sound cfg a b c examined) (uncovered : cert.isCovered = false) :
    cert.reach < b := by
  refine lt_of_le_of_ne sound.reach_le fun reached => ?_
  rw [sound.isCovered_iff.2 reached] at uncovered
  cases uncovered

/-- The examined terms cover the interval when the certificate says so. -/
lemma isCovered_iff_covers (sound : cert.Sound cfg a b c examined) :
    cert.isCovered = true ↔ CoversUpTo examined a b := by
  constructor
  · intro covered
    have covers := sound.covers
    rwa [sound.isCovered_iff.1 covered] at covers
  · intro covers
    by_contra uncovered
    have below := sound.reach_lt (Bool.eq_false_of_not_eq_true uncovered)
    obtain ⟨t, ht, inside⟩ := covers cert.reach sound.le_reach below
    exact sound.uncovered below t ht inside

/-- The certified length is at most the sum of the lengths of the examined terms. -/
lemma lowerBound_le_sum (sound : cert.Sound cfg a b c examined) :
    cert.lowerBound ≤ ENNRat.sum (examined.map HalfOpen.length) := by
  rw [lowerBound, sound.certifiedLength_eq]
  exact sound.covers.le_sum_lengths

/-- The certified length is at most the sum of a finite cover. -/
lemma lowerBound_le_total (sound : cert.Sound cfg a b c examined) (finite : c.tail = none) :
    cert.lowerBound ≤ cert.coverTotal := by
  rw [lowerBound, sound.certifiedLength_eq, sound.total]
  exact le_sum_of_finite finite (sound.covers.mono (Cover.subset_of_take finite sound.taken) le_rfl)

/-- Only an exhausted certificate can certify more than the sum that the cover declares, when the
lengths of the examined terms of an endless cover are above that sum. -/
lemma lowerBound_le_total_or (sound : cert.Sound cfg a b c examined) :
    cert.lowerBound ≤ cert.coverTotal ∨
      cert.isExhausted = true ∧ c.tail ≠ none ∧
        cert.coverTotal < ENNRat.sum (examined.map HalfOpen.length) := by
  by_cases enough : cert.lowerBound ≤ cert.coverTotal
  · exact .inl enough
  · have uncovered : cert.isCovered = false :=
      Bool.eq_false_of_not_eq_true fun covered => enough (sound.le_total covered)
    have endless : c.tail ≠ none := fun finite => enough (sound.lowerBound_le_total finite)
    refine .inr ⟨?_, endless, ?_⟩
    · by_contra unexhausted
      exact endless (sound.of_gap uncovered (Bool.eq_false_of_not_eq_true unexhausted)).1
    · by_contra long
      exact enough (sound.lowerBound_le_sum.trans (ENNRat.not_lt.1 long))

/-- The examined terms of a finite cover are the first ones of its list. -/
lemma examined_eq (sound : cert.Sound cfg a b c examined) (finite : c.tail = none) :
    examined = c.terms.take cert.termsExamined := by
  have taken := sound.taken
  rw [Cover.take_of_finite finite] at taken
  exact (Except.ok.inj taken).symm

/-- A finite cover is exhausted when it has as many terms as are allowed and these leave a gap. -/
lemma isExhausted_iff (sound : cert.Sound cfg a b c examined) (finite : c.tail = none) :
    cert.isExhausted = true ↔
      cfg.maxCoverTerms ≤ c.terms.length ∧ ¬ CoversUpTo (c.terms.take cfg.maxCoverTerms) a b := by
  have first := sound.examined_eq finite
  constructor
  · intro exhausted
    obtain ⟨uncovered, full, -⟩ := sound.of_exhausted exhausted
    have count := sound.length_examined
    rw [full] at first count
    rw [first, List.length_take] at count
    refine ⟨min_eq_left_iff.1 count, fun covers => ?_⟩
    rw [← first, ← sound.isCovered_iff_covers, uncovered] at covers
    cases covers
  · rintro ⟨many, uncovered⟩
    by_contra unexhausted
    cases covered : cert.isCovered with
    | true =>
      have covers := sound.isCovered_iff_covers.1 covered
      rw [first] at covers
      exact uncovered
        (covers.mono (List.take_subset_take_left c.terms sound.termsExamined_le) le_rfl)
    | false =>
      obtain ⟨-, all, few, -⟩ := sound.of_gap covered (Bool.eq_false_of_not_eq_true unexhausted)
      rw [← sound.length_examined, all] at few
      omega

end Certificate.Sound

namespace Compactness

variable {a b : Rat} {c : Cover}

/-- A finite cover is exhausted exactly when the allowed terms are used up and leave a gap. -/
theorem certify_finite (cfg : Config) (lt : a < b) (finite : c.tail = none) :
    ∃ cert, certify cfg a b c = .ok cert ∧
      (cert.isExhausted = true ↔
        cfg.maxCoverTerms ≤ c.terms.length ∧ ¬ CoversUpTo (c.terms.take cfg.maxCoverTerms) a b) ∧
      (cert.isExhausted = false →
        cert.isCovered = true ∧ CoversUpTo c.terms a b ∨
          cert.isCovered = false ∧ ∃ w, cert.gapWitness = some w ∧ a ≤ w ∧ w < b ∧
            ∀ t ∈ c.terms, ¬ w ∈ t.toInterval) := by
  rw [certify_of_lt lt]
  rcases search_cases lt (.of_finite finite) (mem_budgets cfg.maxCoverTerms)
    fun n => le_of_mem_budgets with
    ⟨cert, examined, found, sound⟩ | ⟨-, under⟩
  · refine ⟨cert, found, sound.isExhausted_iff finite, fun unexhausted => ?_⟩
    cases covered : cert.isCovered with
    | true =>
      have covers := sound.isCovered_iff_covers.1 covered
      exact .inl ⟨rfl, covers.mono (Cover.subset_of_take finite sound.taken) le_rfl⟩
    | false =>
      obtain ⟨-, rfl, -, witness⟩ := sound.of_gap covered unexhausted
      have below := sound.reach_lt covered
      exact .inr ⟨rfl, cert.reach, witness, sound.le_reach, below, sound.uncovered below⟩
  · exact absurd finite under.endless

/-- The certificate of a finite cover with a gap, and with a term that is examined twice. -/
theorem certify_finite_gap :
    let c : Cover := ⟨[⟨2, 3⟩, ⟨0, 1⟩, ⟨0, 1⟩], none⟩
    (0 : Rat) < 3 ∧ c.tail = none ∧ ∃ cert, certify .default 0 3 c = .ok cert ∧
      (cert.isExhausted = true ↔
        Config.default.maxCoverTerms ≤ c.terms.length ∧
          ¬ CoversUpTo (c.terms.take Config.default.maxCoverTerms) 0 3) ∧
      (cert.isExhausted = false →
        cert.isCovered = true ∧ CoversUpTo c.terms 0 3 ∨
          cert.isCovered = false ∧ ∃ w, cert.gapWitness = some w ∧ 0 ≤ w ∧ w < 3 ∧
            ∀ t ∈ c.terms, ¬ w ∈ t.toInterval) := by
  intro c
  have lt : (0 : Rat) < 3 := by decide
  exact ⟨lt, rfl, certify_finite .default lt rfl⟩

/-- A finite cover with as many terms as are allowed is not decided: its only term leaves out `1`,
but the search for a certificate does not notice that there are no further terms. -/
theorem certify_finite_undecided :
    let cfg : Config := { Config.default with maxCoverTerms := 1, maxCoverTerms_pos := Nat.one_pos }
    let c : Cover := ⟨[⟨0, 1⟩], none⟩
    (0 : Rat) < 2 ∧ c.tail = none ∧ c.terms.length = cfg.maxCoverTerms ∧
      ∃ cert, certify cfg 0 2 c = .ok cert ∧ cert.isExhausted = true ∧ cert.isCovered = false ∧
        cert.gapWitness = none := by
  intro cfg c
  have value : certify cfg 0 2 c = .ok ⟨0, 2, .exhausted 1, 1, 1, .ofPositivePart 1, 1⟩ := by cbv
  exact ⟨by decide, rfl, rfl, _, value, rfl, rfl, rfl⟩

/-- No more is certified than the cover sums to, unless it is exhausted and declares too little. -/
theorem certify_lowerBound_le (cfg : Config) (a b : Rat) (halfOpen : c.IsHalfOpen) :
    (∃ fault, certify cfg a b c = .error (.compactness ⟨a, b⟩ fault)) ∨
      ∃ cert examined, certify cfg a b c = .ok cert ∧ c.take cert.termsExamined = .ok examined ∧
        cert.lowerBound ≤ ENNRat.sum (examined.map HalfOpen.length) ∧
        (cert.lowerBound ≤ cert.coverTotal ∨
          cert.isExhausted = true ∧ c.tail ≠ none ∧
            cert.coverTotal < ENNRat.sum (examined.map HalfOpen.length)) := by
  rcases lt_or_ge a b with lt | ge
  · rw [certify_of_lt lt]
    rcases search_cases lt halfOpen (mem_budgets cfg.maxCoverTerms) fun n => le_of_mem_budgets with
      ⟨cert, examined, found, sound⟩ | ⟨wrong, -⟩
    · exact .inr ⟨cert, examined, found, sound.taken, sound.lowerBound_le_sum,
        sound.lowerBound_le_total_or⟩
    · exact .inl ⟨_, wrong⟩
  -- nothing is examined for an empty interval, and nothing is certified
  · obtain ⟨examined, taken⟩ := halfOpen.exists_take 0
    obtain rfl : examined = [] :=
      List.length_eq_zero_iff.1 (Nat.le_zero.1 (Cover.length_le_of_take taken))
    have nothing : ENNRat.ofPositivePart (a - a) = 0 := by
      rw [sub_self, ENNRat.ofPositivePart_zero]
    refine .inr ⟨_, [], if_pos ge, taken, nothing.le, .inl ?_⟩
    exact nothing.le.trans (ENNRat.nonneg c.sum)

/-- The certificate of an endless cover that declares a sum below the lengths of its terms. -/
theorem certify_lowerBound_le_unitSteps :
    let steps : Tail := ⟨fun n => .ok (HalfOpen.mk n (n + 1)).toInterval, 1, none, "unit steps"⟩
    let c : Cover := ⟨[⟨-1, 1 / 2⟩], some steps⟩
    c.IsHalfOpen ∧
      ((∃ fault, certify .default 0 2 c = .error (.compactness ⟨0, 2⟩ fault)) ∨
        ∃ cert examined, certify .default 0 2 c = .ok cert ∧
          c.take cert.termsExamined = .ok examined ∧
          cert.lowerBound ≤ ENNRat.sum (examined.map HalfOpen.length) ∧
          (cert.lowerBound ≤ cert.coverTotal ∨
            cert.isExhausted = true ∧ c.tail ≠ none ∧
              cert.coverTotal < ENNRat.sum (examined.map HalfOpen.length))) := by
  intro steps c
  have halfOpen : c.IsHalfOpen := by
    rintro tail ⟨⟩ n
    exact ⟨_, rfl⟩
  exact ⟨halfOpen, certify_lowerBound_le .default 0 2 halfOpen⟩

/-- An exhausted certificate can certify more than the cover declares: two terms of length one reach
`2`, and the tail declares the sum `1`. -/
theorem certify_lowerBound_above_total :
    let cfg : Config := { Config.default with maxCoverTerms := 2, maxCoverTerms_pos := Nat.two_pos }
    let steps : Tail := ⟨fun n => .ok (HalfOpen.mk n (n + 1)).toInterval, 1, none, "unit steps"⟩
    let c : Cover := ⟨[], some steps⟩
    c.IsHalfOpen ∧ ∃ cert, certify cfg 0 4 c = .ok cert ∧ cert.isExhausted = true ∧
      cert.lowerBound = .ofPositivePart 2 ∧ cert.coverTotal = 1 ∧
        ¬ cert.lowerBound ≤ cert.coverTotal := by
  intro cfg steps c
  have halfOpen : c.IsHalfOpen := by
    rintro tail ⟨⟩ n
    exact ⟨_, rfl⟩
  have value : certify cfg 0 4 c = .ok ⟨0, 4, .exhausted 2, 2, 2, 1, 2⟩ := by cbv
  refine ⟨halfOpen, _, value, rfl, ?_, rfl, ?_⟩
  · decide +kernel
  · decide +kernel

end Compactness
end LineMeasure
