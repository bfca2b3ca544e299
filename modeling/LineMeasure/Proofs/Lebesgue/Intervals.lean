import LineMeasure.Proofs.ENNRat.Semiring
import LineMeasure.Proofs.Lebesgue.Restriction

/-!
# The measures of intervals agree

The measure of a bounded interval is the distance between its ends, whichever of them belong to it.
The measure of an open interval as a limit, that of a point as a difference, and those of two parts
of `[a, b)` as a sum come to the same (`intervalMeasures_agree`); a place outside `[a, b]` does not
cut it, which is an error. The half-open intervals `[a + t (b - a), b)` that go up to `(a, b)` begin
inside it for every probe `t`, since no probe is above one, so that their measures lie on one line.
-/

namespace LineMeasure.Lebesgue

variable (cfg : Config)

/-- The outer measure of a bounded interval is the distance between its ends. -/
lemma outerMeasure_bounded (l u : Bound) :
    outerMeasure cfg (.ofIntervals [⟨some l, some u⟩]) =
      .ok (.ofPositivePart (u.point - l.point)) := by
  rw [outerMeasure_eq_extent, RealSet.extent_ofIntervals_singleton]
  rfl

/-- The measure of a bounded interval is the distance between its ends. -/
lemma measureInterval_bounded (l u : Bound) :
    measureInterval (.standard cfg) cfg ⟨some l, some u⟩ =
      .ok (.ofPositivePart (u.point - l.point)) := by
  rw [measureInterval, measure_eq_outerMeasure, outerMeasure_bounded]

lemma measureInterval_ico (a b : Rat) :
    measureInterval (.standard cfg) cfg (.ico a b) = .ok (.ofPositivePart (b - a)) :=
  measureInterval_bounded cfg _ _

/-- The part of `[a, b)` that a probe leaves is a part of its length. -/
lemma toRat?_shortened {a b t : Rat} (le : a ≤ b) (inside : t ≤ 1) :
    (ENNRat.ofPositivePart (b - (a + t * (b - a)))).toRat? = some (b - a + -(b - a) * t) := by
  have width : b - (a + t * (b - a)) = (1 - t) * (b - a) := by ring
  have nonneg : 0 ≤ (1 - t) * (b - a) := mul_nonneg (sub_nonneg.2 inside) (sub_nonneg.2 le)
  rw [width, ENNRat.toRat?_ofPositivePart nonneg]
  congr 1
  ring

/-- The limit of the measures of half-open intervals inside `(a, b)` is the distance of its ends. -/
lemma measureOpen_eq (a b : Rat) :
    measureOpen (.standard cfg) cfg a b = .ok (.ofPositivePart (b - a)) := by
  rcases le_or_gt b a with le | lt
  · rw [measureOpen, if_pos le, ENNRat.ofPositivePart_of_nonpos (sub_nonpos.2 le)]
  · rw [measureOpen, if_neg (not_le.2 lt), ENNRat.ofPositivePart_of_nonneg (sub_nonneg.2 lt.le)]
    refine Limit.affineLimit_of_affine (b := -(b - a)) (sub_nonneg.2 lt.le) cfg.probes_valid
      (fun t _ => measureInterval_ico cfg (a + t * (b - a)) b) ?_
    exact fun t ht => toRat?_shortened lt.le (cfg.probes_le_one t ht)

/-- A point has no measure: `[a, a + 1)` and `(a, a + 1)` have the same. -/
lemma measureSingleton_eq (a : Rat) : measureSingleton (.standard cfg) cfg a = .ok 0 := by
  rw [measureSingleton, Interval.ico, measureInterval_bounded, measureInterval_bounded]
  change Except.ok (_ - _) = _
  rw [ENNRat.sub_self]

/-- Two parts of `[a, b)` that meet in `m` have the measures of half-open intervals. -/
lemma measureSplit_of_mem {a m b : Rat} (left : a ≤ m) (right : m ≤ b) :
    measureSplit (.standard cfg) cfg a m b =
      .ok (.ofPositivePart (m - a), .ofPositivePart (b - m)) := by
  simp [measureSplit, left, right, measureInterval_ico, bind, Except.bind, pure, Except.pure]

lemma measureSplit_of_not_mem {a m b : Rat} (outside : ¬ (a ≤ m ∧ m ≤ b)) :
    measureSplit (.standard cfg) cfg a m b = .error (.splitPoint a b m) := by
  have refused : (!(decide (a ≤ m) && decide (m ≤ b))) = true := by
    rw [Bool.not_eq_true', ← Bool.decide_and, decide_eq_false outside]
  rw [measureSplit, if_pos refused]
  rfl

/-- The measures of the four intervals from `a` to `b` are the part of `b - a` above zero. -/
theorem intervalMeasures_agree (a b : Rat) :
    (∀ leftClosed rightClosed,
      measureInterval (.standard cfg) cfg ⟨some ⟨a, leftClosed⟩, some ⟨b, rightClosed⟩⟩ =
          .ok (.finite (max 0 (b - a)) (le_max_left 0 _)) ∧
        outerMeasure cfg (.ofIntervals [⟨some ⟨a, leftClosed⟩, some ⟨b, rightClosed⟩⟩]) =
          .ok (.finite (max 0 (b - a)) (le_max_left 0 _))) ∧
    measureOpen (.standard cfg) cfg a b = .ok (.finite (max 0 (b - a)) (le_max_left 0 _)) ∧
    measureSingleton (.standard cfg) cfg a = .ok 0 ∧
    ∀ m,
      (a ≤ m ∧ m ≤ b) ∧ (∃ left right, measureSplit (.standard cfg) cfg a m b = .ok (left, right) ∧
          measureInterval (.standard cfg) cfg (.ico a b) = .ok (left + right)) ∨
        ¬ (a ≤ m ∧ m ≤ b) ∧
          measureSplit (.standard cfg) cfg a m b = .error (.splitPoint a b m) := by
  refine ⟨fun leftClosed rightClosed => ?_, measureOpen_eq cfg a b,
    measureSingleton_eq cfg a, fun m => ?_⟩
  · exact ⟨measureInterval_bounded cfg _ _, outerMeasure_bounded cfg _ _⟩
  by_cases between : a ≤ m ∧ m ≤ b
  · obtain ⟨left, right⟩ := between
    have parts :
        ENNRat.ofPositivePart (b - a) = .ofPositivePart (m - a) + .ofPositivePart (b - m) := by
      rw [← ENNRat.ofPositivePart_add (sub_nonneg.2 left) (sub_nonneg.2 right), add_comm,
        sub_add_sub_cancel]
    refine .inl ⟨⟨left, right⟩, _, _, measureSplit_of_mem cfg left right, ?_⟩
    rw [measureInterval_ico, parts]
  · exact .inr ⟨between, measureSplit_of_not_mem cfg between⟩

end LineMeasure.Lebesgue
