import LineMeasure.Given.Measure
import LineMeasure.Proofs.OuterMeasure.Value

/-!
# Moving sets along the line

A move by `t` adds `t` to every end and keeps its flag, so that the members of the moved set are the
numbers that lie in the set before the move (`RealSet.mem_shift`). It keeps the order of ends and
the gaps between pieces: the moved pieces of a set are in normal form already, and are the pieces of
the moved set, one for one (`components_shift`). Hence the widths of the pieces and the outer
measure stay the same. That moves add up and go through unions, intersections, differences and
complements can be read off the members, since a set is known from them.
-/

namespace LineMeasure

namespace Interval
variable (t : Rat) (i j : Interval)

/-- A moved interval is empty when the interval was. -/
@[simp]
lemma isEmpty_shift : (i.shift t).isEmpty = i.isEmpty := by
  rw [Bool.eq_iff_iff, isEmpty_iff, isEmpty_iff]
  constructor
  · intro nothing x hx
    refine nothing (x + t) (mem_shift.2 ?_)
    rwa [add_sub_cancel_right]
  · intro nothing x hx
    exact nothing (x - t) (mem_shift.1 hx)

/-- Moved intervals are in order when they were before the move. -/
@[simp]
lemma precedes_shift : (i.shift t).Precedes (j.shift t) ↔ i.Precedes j := by
  obtain ⟨_, _ | u⟩ := i
  · rfl
  obtain ⟨_ | l, _⟩ := j
  · rfl
  simp [shift, Bound.shift, Precedes]

/-- A move keeps the distance between the ends. -/
@[simp]
lemma extent_shift : (i.shift t).extent = i.extent := by
  obtain ⟨_ | l, _ | u⟩ := i
  · rfl
  · rfl
  · rfl
  · simp [shift, Bound.shift, extent]

end Interval

namespace RealSet
variable (t u : Rat) (r s : RealSet)

/-- The moved pieces of a normal form are one. -/
lemma Normal.shift {cs : List Interval} (normal : Normal cs) :
    Normal (cs.map (Interval.shift t)) := by
  constructor
  · intro d hd
    obtain ⟨c, hc, rfl⟩ := List.mem_map.1 hd
    rw [Interval.isEmpty_shift]
    exact normal.nonempty c hc
  · rw [List.pairwise_map]
    exact normal.separated.imp (Interval.precedes_shift t _ _).2

/-- The pieces of a moved set are the moved pieces of the set. -/
theorem components_shift : (s.shift t).components = s.components.map (Interval.shift t) :=
  (s.normal.shift t).normalize_eq

/-- A move keeps the extent of a set. -/
theorem extent_shift : (s.shift t).extent = s.extent := by
  have widths : Interval.extent ∘ Interval.shift t = Interval.extent :=
    funext (Interval.extent_shift t)
  rw [extent, components_shift, List.map_map, widths, extent]

lemma shift_zero : s.shift 0 = s := by
  ext x
  rw [mem_shift, sub_zero]

/-- Two moves after each other are one by their sum. -/
lemma shift_shift : (s.shift t).shift u = s.shift (t + u) := by
  ext x
  rw [mem_shift, mem_shift, mem_shift, sub_sub, add_comm]

/-- The moved union of sets is the union of the moved sets. -/
lemma shift_unionOf (sets : List RealSet) :
    (unionOf sets).shift t = unionOf (sets.map (shift t)) := by
  ext x
  rw [mem_shift, mem_unionOf, mem_unionOf]
  simp only [List.mem_map, exists_exists_and_eq_and, mem_shift]

lemma shift_inter : (r ∩ s).shift t = r.shift t ∩ s.shift t := by
  ext x
  simp only [mem_shift, mem_inter]

lemma shift_sdiff : (r \ s).shift t = r.shift t \ s.shift t := by
  ext x
  simp only [mem_shift, mem_sdiff]

lemma shift_complement : s.complement.shift t = (s.shift t).complement := by
  ext x
  simp only [mem_shift, mem_complement]

/-- A given rational number moves every set without an error, the empty one too. -/
lemma setShift_rational : Given.setShift s (.rational t) = .ok (s.shift t) := by
  unfold Given.setShift
  split
  next empty =>
    -- the empty set is returned as it is, and it would not change
    have nothing := isEmpty_iff.1 empty
    have same : s.shift t = s := by
      ext x
      exact iff_of_false (fun hx => nothing _ (mem_shift.1 hx)) (nothing x)
    rw [same]
  next => rfl

/-- Moves along the line act on sets, go through the set operations, and keep the outer measure. -/
theorem shift_action :
    Given.setShift s (.rational t) = .ok (s.shift t) ∧
      (∀ x, x ∈ s.shift t ↔ x - t ∈ s) ∧
      (s.shift t).components = s.components.map (fun c =>
        ⟨c.lower.map fun b => ⟨b.point + t, b.closed⟩,
          c.upper.map fun b => ⟨b.point + t, b.closed⟩⟩) ∧
      s.components.mapM (Given.intervalShift · (.rational t)) = .ok (s.shift t).components ∧
      s.shift 0 = s ∧
      (s.shift t).shift u = s.shift (t + u) ∧
      (∀ others, (unionOf (s :: others)).shift t = unionOf (s.shift t :: others.map (shift t))) ∧
      (s ∩ r).shift t = s.shift t ∩ r.shift t ∧
      (s \ r).shift t = s.shift t \ r.shift t ∧
      s.complement.shift t = (s.shift t).complement ∧
      ∃ m, ∀ cfg, outerMeasure cfg s = .ok m ∧ outerMeasure cfg (s.shift t) = .ok m := by
  have members (x : Rat) : x ∈ s.shift t ↔ x - t ∈ s := mem_shift
  have pieces :
      s.components.mapM (Given.intervalShift · (.rational t)) = .ok (s.shift t).components := by
    rw [components_shift]
    exact mapM_eq_ok fun c _ => rfl
  have measure (cfg : Config) : outerMeasure cfg (s.shift t) = .ok s.extent := by
    rw [outerMeasure_eq_extent, extent_shift]
  exact ⟨setShift_rational t s, members, components_shift t s, pieces, shift_zero s,
    shift_shift t u s, fun others => shift_unionOf t (s :: others), shift_inter t s r,
    shift_sdiff t s r, shift_complement t s, s.extent,
    fun cfg => ⟨outerMeasure_eq_extent cfg s, measure cfg⟩⟩

end RealSet
end LineMeasure
