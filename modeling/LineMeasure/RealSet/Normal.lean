import LineMeasure.Interval.Basic

/-!
# The normal form of a union of intervals

A finite union of intervals is held as the list of its pieces, none empty, in order from left to
right, and with a gap between any two of them. `normalize` brings any list of intervals into this
form: it drops the empty ones, sorts the others by their lower ends, and merges neighbours that meet
or touch. `normalize_normal` says that the result is in normal form and `mem_normalize` that it has
the same members.
-/

namespace LineMeasure

namespace Interval

/-- `i` ends before `j` begins, and a point between them belongs to neither. -/
def Precedes (i j : Interval) : Prop :=
  match i.upper, j.lower with
  | some u, some l => u.point < l.point ∨ (u.point = l.point ∧ u.closed = false ∧ l.closed = false)
  | _, _ => False

instance (i j : Interval) : Decidable (i.Precedes j) := by
  unfold Precedes
  split <;> infer_instance

/-- The order of lower ends; at one point a closed end comes before an open one. -/
def lowerLe : Option Bound → Option Bound → Bool
  | none, _ => true
  | some _, none => false
  | some a, some b => a.point < b.point || (a.point == b.point && (a.closed || !b.closed))

theorem lowerLe_trans {a b c : Option Bound} (hab : lowerLe a b = true) (hbc : lowerLe b c = true) :
    lowerLe a c = true := by
  rcases a with _ | ⟨p, _⟩ <;> rcases b with _ | ⟨q, _⟩ <;> rcases c with _ | ⟨r, _⟩ <;>
    simp only [lowerLe, Bool.or_eq_true, Bool.and_eq_true, decide_eq_true_eq, beq_iff_eq]
      at hab hbc ⊢
  all_goals grind

theorem lowerLe_total (a b : Option Bound) : (lowerLe a b || lowerLe b a) = true := by
  rcases a with _ | ⟨p, _⟩ <;> rcases b with _ | ⟨q, _⟩ <;>
    simp only [lowerLe, Bool.or_eq_true, Bool.and_eq_true, decide_eq_true_eq, beq_iff_eq]
  all_goals grind

/-- A gap behind an interval stays one further to the right. -/
theorem Precedes.of_lowerLe {i j k : Interval} (h : i.Precedes j)
    (hjk : lowerLe j.lower k.lower = true) : i.Precedes k := by
  unfold Precedes at h ⊢
  rcases i with ⟨_, _ | u⟩ <;> rcases j with ⟨_ | l, _⟩ <;> rcases k with ⟨_ | m, _⟩ <;>
    simp only [lowerLe] at h hjk ⊢
  all_goals grind

/-- An interval together with one that meets or touches it and does not begin before it. -/
def merge (i j : Interval) : Interval :=
  ⟨i.lower, outerUpper i.upper j.upper⟩

theorem isEmpty_merge {i j : Interval} (h : i.isEmpty = false) : (i.merge j).isEmpty = false := by
  rcases i with ⟨_ | ⟨p, c⟩, _ | ⟨q, d⟩⟩ <;> rcases j with ⟨_, _ | ⟨r, e⟩⟩ <;>
    simp only [isEmpty, merge, outerUpper] at h ⊢
  all_goals grind

/-- Merging two intervals without a gap between them adds no member and loses none. -/
theorem mem_merge {i j : Interval} {x : Rat} (hi : i.isEmpty = false) (hj : j.isEmpty = false)
    (hij : lowerLe i.lower j.lower = true) (h : ¬ i.Precedes j) :
    x ∈ i.merge j ↔ x ∈ i ∨ x ∈ j := by
  unfold Precedes at h
  simp only [mem_iff, merge, inUpper_outerUpper]
  rcases i with ⟨_ | ⟨p, c⟩, _ | ⟨q, d⟩⟩ <;> rcases j with ⟨_ | ⟨r, e⟩, _ | ⟨s, f⟩⟩ <;>
    simp only [isEmpty, lowerLe, inLower_none, inLower_some, inUpper_none, inUpper_some,
      Bound.IsBelow, Bound.IsAbove] at hi hj hij h ⊢
  all_goals grind

end Interval

namespace RealSet
open LineMeasure.Interval

/-- The list of pieces is in normal form. -/
structure Normal (cs : List Interval) : Prop where
  nonempty : ∀ c ∈ cs, c.isEmpty = false
  separated : cs.Pairwise Precedes

/-- Merges the piece `current` and the intervals to the right of it. -/
def mergeFrom (current : Interval) : List Interval → List Interval
  | [] => [current]
  | c :: cs =>
    if current.Precedes c then current :: mergeFrom c cs else mergeFrom (current.merge c) cs

/-- Merges intervals that are in order of their lower ends. -/
def mergeSorted : List Interval → List Interval
  | [] => []
  | c :: cs => mergeFrom c cs

/-- The intervals in order of their lower ends. -/
def sortByLower (cs : List Interval) : List Interval :=
  cs.mergeSort (fun c d => lowerLe c.lower d.lower)

/-- The pieces of the union of a list of intervals, in normal form. -/
def normalize (cs : List Interval) : List Interval :=
  mergeSorted (sortByLower (cs.filter (fun c => !c.isEmpty)))

theorem mem_sortByLower {c : Interval} {cs : List Interval} : c ∈ sortByLower cs ↔ c ∈ cs := by
  simp [sortByLower]

theorem pairwise_sortByLower (cs : List Interval) :
    (sortByLower cs).Pairwise (fun c d => lowerLe c.lower d.lower = true) :=
  @List.pairwise_mergeSort _ (fun c d => lowerLe c.lower d.lower)
    (fun _ _ _ => lowerLe_trans) (fun _ _ => lowerLe_total _ _) cs

/-- Each merged piece begins where one of the intervals does. -/
theorem lower_of_mem_mergeFrom {current d : Interval} {cs : List Interval}
    (hd : d ∈ mergeFrom current cs) : ∃ c ∈ current :: cs, d.lower = c.lower := by
  induction cs generalizing current with
  | nil => exact ⟨current, by simp, by simp_all [mergeFrom]⟩
  | cons c cs ih =>
    unfold mergeFrom at hd
    split at hd
    · rcases List.mem_cons.1 hd with rfl | hd
      · exact ⟨d, by simp, rfl⟩
      · obtain ⟨e, he, eq⟩ := ih hd
        exact ⟨e, List.mem_cons_of_mem _ he, eq⟩
    · obtain ⟨e, he, eq⟩ := ih hd
      rcases List.mem_cons.1 he with rfl | he
      · exact ⟨current, by simp, eq⟩
      · exact ⟨e, by simp [he], eq⟩

theorem mergeFrom_normal {current : Interval} {cs : List Interval}
    (nonempty : ∀ c ∈ current :: cs, c.isEmpty = false)
    (sorted : (current :: cs).Pairwise (fun c d => lowerLe c.lower d.lower = true)) :
    Normal (mergeFrom current cs) := by
  induction cs generalizing current with
  | nil => exact ⟨by simpa [mergeFrom] using nonempty, by simp [mergeFrom]⟩
  | cons c cs ih =>
    obtain ⟨first, sorted'⟩ := List.pairwise_cons.1 sorted
    unfold mergeFrom
    split
    · rename_i gap
      have rest := ih (fun d hd => nonempty d (List.mem_cons_of_mem _ hd)) sorted'
      refine ⟨fun d hd => ?_, List.pairwise_cons.2 ⟨fun d hd => ?_, rest.separated⟩⟩
      · rcases List.mem_cons.1 hd with rfl | hd
        · exact nonempty d (by simp)
        · exact rest.nonempty d hd
      · obtain ⟨e, he, eq⟩ := lower_of_mem_mergeFrom hd
        refine gap.of_lowerLe (eq ▸ ?_)
        rcases List.mem_cons.1 he with rfl | he
        · exact (Bool.or_self _).symm.trans (lowerLe_total _ _)
        · exact (List.pairwise_cons.1 sorted').1 e he
    · refine ih (fun d hd => ?_) (List.pairwise_cons.2 ⟨fun d hd => ?_, ?_⟩)
      · rcases List.mem_cons.1 hd with rfl | hd
        · exact isEmpty_merge (nonempty current (by simp))
        · exact nonempty d (by simp [hd])
      · exact first d (by simp [hd])
      · exact (List.pairwise_cons.1 sorted').2

/-- The normal form is one. -/
theorem normalize_normal (cs : List Interval) : Normal (normalize cs) := by
  have nonempty : ∀ c ∈ sortByLower (cs.filter (fun c => !c.isEmpty)), c.isEmpty = false := by
    intro c hc
    simpa using (List.mem_filter.1 (mem_sortByLower.1 hc)).2
  have sorted := pairwise_sortByLower (cs.filter (fun c => !c.isEmpty))
  unfold normalize mergeSorted
  split
  · exact ⟨by simp, List.Pairwise.nil⟩
  · rename_i eq
    rw [eq] at nonempty sorted
    exact mergeFrom_normal nonempty sorted

theorem mem_mergeFrom {x : Rat} {current : Interval} {cs : List Interval}
    (nonempty : ∀ c ∈ current :: cs, c.isEmpty = false)
    (sorted : (current :: cs).Pairwise (fun c d => lowerLe c.lower d.lower = true)) :
    (∃ c ∈ mergeFrom current cs, x ∈ c) ↔ ∃ c ∈ current :: cs, x ∈ c := by
  induction cs generalizing current with
  | nil => simp [mergeFrom]
  | cons c cs ih =>
    obtain ⟨first, sorted'⟩ := List.pairwise_cons.1 sorted
    unfold mergeFrom
    split
    · have rest := ih (fun d hd => nonempty d (List.mem_cons_of_mem _ hd)) sorted'
      simp only [List.mem_cons, or_and_right, exists_or, exists_eq_left] at rest ⊢
      rw [rest]
    · rename_i gap
      have merged := mem_merge (x := x) (nonempty current (by simp)) (nonempty c (by simp))
        (first c (by simp)) gap
      rw [ih]
      · simp only [List.mem_cons, or_and_right, exists_or, exists_eq_left, merged, or_assoc]
      · intro d hd
        rcases List.mem_cons.1 hd with rfl | hd
        · exact isEmpty_merge (nonempty current (by simp))
        · exact nonempty d (by simp [hd])
      · exact List.pairwise_cons.2 ⟨fun d hd => first d (by simp [hd]),
          (List.pairwise_cons.1 sorted').2⟩

/-- The normal form has the members of the intervals it was built from. -/
theorem mem_normalize {x : Rat} {cs : List Interval} :
    (∃ c ∈ normalize cs, x ∈ c) ↔ ∃ c ∈ cs, x ∈ c := by
  have nonempty : ∀ c ∈ sortByLower (cs.filter (fun c => !c.isEmpty)), c.isEmpty = false := by
    intro c hc
    simpa using (List.mem_filter.1 (mem_sortByLower.1 hc)).2
  have sorted := pairwise_sortByLower (cs.filter (fun c => !c.isEmpty))
  have kept : (∃ c ∈ sortByLower (cs.filter (fun c => !c.isEmpty)), x ∈ c) ↔ ∃ c ∈ cs, x ∈ c := by
    constructor
    · rintro ⟨c, hc, hx⟩
      exact ⟨c, (List.mem_filter.1 (mem_sortByLower.1 hc)).1, hx⟩
    · rintro ⟨c, hc, hx⟩
      refine ⟨c, mem_sortByLower.2 (List.mem_filter.2 ⟨hc, ?_⟩), hx⟩
      cases h : c.isEmpty with
      | false => rfl
      | true => exact (not_mem_of_isEmpty h x hx).elim
  unfold normalize mergeSorted
  split
  · rename_i eq
    rw [eq] at kept
    exact kept
  · rename_i eq
    rw [eq] at nonempty sorted kept
    exact (mem_mergeFrom nonempty sorted).trans kept

end RealSet
end LineMeasure
