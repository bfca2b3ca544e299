import LineMeasure.RealSet.Basic

/-!
# Complements, differences and inclusion

The members of a complement and of a difference, and the test for inclusion: `isSubset` holds
exactly when every member of the first set is a member of the second. The last step rests on the
fact that an interval which is not empty by its ends has a member.
-/

namespace LineMeasure

namespace Bound

theorem isBelow_flip {b : Bound} {x : Rat} : b.flip.IsBelow x ↔ ¬ b.IsAbove x := by
  obtain ⟨p, c⟩ := b
  simp only [IsBelow, IsAbove, flip]
  grind

theorem isAbove_flip {b : Bound} {x : Rat} : b.flip.IsAbove x ↔ ¬ b.IsBelow x := by
  obtain ⟨p, c⟩ := b
  simp only [IsBelow, IsAbove, flip]
  grind

end Bound

namespace Interval

/-- An interval that is not empty by its ends has a member. -/
theorem exists_mem {i : Interval} (h : i.isEmpty = false) : ∃ x, x ∈ i := by
  rcases i with ⟨_ | ⟨p, c⟩, _ | ⟨q, d⟩⟩ <;>
    simp only [isEmpty, mem_iff, inLower_none, inLower_some, inUpper_none, inUpper_some,
      Bound.IsBelow, Bound.IsAbove] at h ⊢
  · exact ⟨0, by simp⟩
  · exact ⟨q - 1, by grind⟩
  · exact ⟨p + 1, by grind⟩
  · refine ⟨(p + q) / 2, ?_⟩
    grind

theorem isEmpty_iff {i : Interval} : i.isEmpty = true ↔ ∀ x, ¬ x ∈ i := by
  constructor
  · exact not_mem_of_isEmpty
  · intro h
    cases e : i.isEmpty with
    | true => rfl
    | false => exact (exists_mem e).elim fun x hx => (h x hx).elim

end Interval

namespace RealSet
open LineMeasure.Interval

/-- The gaps beside pieces in normal form that lie inside a lower end: what is inside the lower end
and in no piece. -/
theorem mem_gapsFrom {x : Rat} {lower : Option Bound} {cs : List Interval} (normal : Normal cs)
    (inside : ∀ c ∈ cs, ∀ y, InLower c.lower y → InLower lower y) :
    (∃ g ∈ gapsFrom lower cs, x ∈ g) ↔ InLower lower x ∧ ∀ c ∈ cs, ¬ x ∈ c := by
  induction cs generalizing lower with
  | nil => simp [gapsFrom, Interval.mem_iff]
  | cons c cs ih =>
    obtain ⟨first, separated⟩ := List.pairwise_cons.1 normal.separated
    have rest : Normal cs := ⟨fun d hd => normal.nonempty d (by simp [hd]), separated⟩
    have gap : (∃ g ∈ c.lower.toList.map fun l => (⟨lower, some l.flip⟩ : Interval), x ∈ g) ↔
        InLower lower x ∧ ¬ InLower c.lower x := by
      rcases hl : c.lower with _ | l
      · simp
      · simp [Interval.mem_iff, Bound.isAbove_flip]
    unfold gapsFrom
    rcases hu : c.upper with _ | u
    · have last : cs = [] := by
        rcases cs with _ | ⟨d, cs⟩
        · rfl
        · have := first d (by simp)
          simp [Precedes, hu] at this
      subst last
      simp only [gap]
      simp [Interval.mem_iff, hu]
    · have behind : ∀ d ∈ cs, ∀ y, InLower d.lower y → InLower (some u.flip) y := by
        intro d hd y hy
        have gap := first d hd
        unfold Precedes at gap
        rw [hu] at gap
        rcases hd : d.lower with _ | l
        · simp [hd] at gap
        · rw [hd] at hy gap
          simp only [inLower_some] at hy ⊢
          rw [Bound.isBelow_flip]
          grind [Bound.IsBelow, Bound.IsAbove]
      have after := ih rest behind
      simp only [List.mem_append, or_and_right, exists_or, gap, after]
      simp only [List.mem_cons, forall_eq_or_imp, Interval.mem_iff, hu, inUpper_some, inLower_some,
        Bound.isBelow_flip]
      have outside := inside c (by simp) x
      have order : ¬ u.IsAbove x → InLower c.lower x := by
        obtain ⟨y, hy⟩ := exists_mem (normal.nonempty c (by simp))
        rw [Interval.mem_iff, hu] at hy
        rcases hl : c.lower with _ | l
        · simp
        · rw [hl] at hy
          simp only [inLower_some, inUpper_some] at hy ⊢
          grind [Bound.IsBelow, Bound.IsAbove]
      have later : (∀ d ∈ cs, ¬ (InLower d.lower x ∧ InUpper d.upper x)) ∨ ¬ u.IsAbove x := by
        by_cases above : u.IsAbove x
        · refine .inl fun d hd hx => ?_
          have gap := first d hd
          unfold Precedes at gap
          rw [hu] at gap
          rcases hl : d.lower with _ | l
          · simp [hl] at gap
          · rw [hl] at hx gap
            simp only [inLower_some] at hx
            grind [Bound.IsBelow, Bound.IsAbove]
        · exact .inr above
      grind

/-- The complement holds the numbers that are not in the set. -/
theorem mem_complement {s : RealSet} {x : Rat} : x ∈ s.complement ↔ ¬ x ∈ s := by
  rw [complement, mem_ofIntervals, mem_gapsFrom s.normal (fun _ _ _ _ => inLower_none _)]
  simp [mem_iff]

theorem mem_sdiff {s t : RealSet} {x : Rat} : x ∈ s \ t ↔ x ∈ s ∧ ¬ x ∈ t := by
  change x ∈ s ∩ t.complement ↔ _
  rw [mem_inter, mem_complement]

/-- A set without pieces is one without members. -/
theorem isEmpty_iff {s : RealSet} : s.isEmpty = true ↔ ∀ x, ¬ x ∈ s := by
  rw [isEmpty, List.isEmpty_iff]
  constructor
  · rintro h x ⟨c, hc, _⟩
    rw [h] at hc
    cases hc
  · intro h
    rcases hs : s.components with _ | ⟨c, cs⟩
    · rfl
    · have hc : c ∈ s.components := by simp [hs]
      obtain ⟨x, hx⟩ := exists_mem (s.normal.nonempty c hc)
      exact (h x ⟨c, hc, hx⟩).elim

/-- The test for inclusion holds exactly for included sets. -/
theorem isSubset_iff {s t : RealSet} : s.isSubset t = true ↔ s ⊆ t := by
  rw [isSubset, isEmpty_iff]
  simp only [mem_sdiff]
  constructor
  · intro h x hx
    exact Decidable.byContradiction fun hn => h x ⟨hx, hn⟩
  · exact fun h x hx => hx.2 (h x hx.1)

instance (s t : RealSet) : Decidable (s ⊆ t) :=
  decidable_of_iff _ isSubset_iff

end RealSet
end LineMeasure
