import LineMeasure.Proofs.RealSet.Canonical
import Mathlib.Algebra.Order.Group.Abs

/-!
# The break points of a set are its boundary

The finite ends of the pieces of a set are the points that have members and other numbers
arbitrarily close to them (`mem_breakpoints_iff`). No end of a piece is missed by this, since beside
it there is a gap: the ends of the gaps are those of the pieces, and no gap is empty. A set and its
complement have the same boundary, and therefore the same list of break points
(`breakpoints_complement`). Between the break points membership does not change
(`mem_iff_of_sameSide_breakpoints`).
-/

namespace LineMeasure

namespace Rational

/-- The list in increasing order depends on the members only. -/
lemma increasing_congr {ps qs : List Rat} (h : ∀ x, x ∈ ps ↔ x ∈ qs) :
    increasing ps = increasing qs := by
  have distinct (rs : List Rat) : (increasing rs).Nodup :=
    (pairwise_increasing rs).imp fun lt => ne_of_lt lt
  have same : (increasing ps).Perm (increasing qs) := by
    rw [List.perm_ext_iff_of_nodup (distinct ps) (distinct qs)]
    simpa using h
  exact same.eq_of_pairwise (fun _ _ _ _ pq qp => absurd qp pq.asymm) (pairwise_increasing ps)
    (pairwise_increasing qs)

end Rational

namespace Interval
open RealSet

variable {i : Interval} {p x δ : Rat}

lemma mem_endsOf :
    p ∈ endsOf i ↔ (∃ l, i.lower = some l ∧ l.point = p) ∨ ∃ u, i.upper = some u ∧ u.point = p := by
  simp [endsOf]

/-- Close to an end of an interval with members there are members. -/
lemma exists_mem_near (nonempty : i.isEmpty = false) (hp : p ∈ endsOf i) (positive : 0 < δ) :
    ∃ x ∈ i, |x - p| < δ := by
  obtain ⟨z, below, above⟩ := exists_mem nonempty
  -- a member is close to the end itself, or all numbers between it and the end are members
  rcases mem_endsOf.1 hp with ⟨l, hl, rfl⟩ | ⟨u, hu, rfl⟩
  · have behind : l.point ≤ z := by
      rcases below l hl with lt | ⟨-, eq⟩
      · exact lt.le
      · exact eq.le
    rcases lt_or_ge z (l.point + δ / 2) with near | far
    · exact ⟨z, ⟨below, above⟩, abs_lt.2 ⟨by linarith, by linarith⟩⟩
    · refine ⟨l.point + δ / 2, ⟨?_, above.anti far⟩, abs_lt.2 ⟨by linarith, by linarith⟩⟩
      rw [hl, inLower_some]
      exact .inl (by linarith)
  · have before : z ≤ u.point := by
      rcases above u hu with lt | ⟨-, eq⟩
      · exact lt.le
      · exact eq.le
    rcases lt_or_ge (u.point - δ / 2) z with near | far
    · exact ⟨z, ⟨below, above⟩, abs_lt.2 ⟨by linarith, by linarith⟩⟩
    · refine ⟨u.point - δ / 2, ⟨below.mono far, ?_⟩, abs_lt.2 ⟨by linarith, by linarith⟩⟩
      rw [hu, inUpper_some]
      exact .inl (by linarith)

/-- `x` and `y` lie on the same side of `q`, and neither of them is `q`. -/
def SameSide (q x y : Rat) : Prop :=
  q < x ∧ q < y ∨ x < q ∧ y < q

/-- A number that is closer to `p` than an end lies with `p` on the same side of this end. -/
lemma sameSide_of_near {q : Rat} (near : |x - p| < δ) (room : δ ≤ |q - p|) : SameSide q x p := by
  rw [abs_lt] at near
  rcases le_abs.1 room with above | below
  · exact .inr ⟨by linarith, by linarith⟩
  · exact .inl ⟨by linarith, by linarith⟩

/-- Numbers on the same side of both ends of an interval are members or not together. -/
lemma mem_iff_of_sameSide {y : Rat} (alike : ∀ q ∈ endsOf i, SameSide q x y) : x ∈ i ↔ y ∈ i := by
  refine and_congr (forall₂_congr fun l hl => ?_) (forall₂_congr fun u hu => ?_)
  · rcases alike l.point (mem_endsOf.2 (.inl ⟨l, hl, rfl⟩)) with ⟨hx, hy⟩ | ⟨hx, hy⟩
    · exact iff_of_true (.inl hx) (.inl hy)
    · simp [Bound.IsBelow, hx.ne', hy.ne', hx.not_gt, hy.not_gt]
  · rcases alike u.point (mem_endsOf.2 (.inr ⟨u, hu, rfl⟩)) with ⟨hx, hy⟩ | ⟨hx, hy⟩
    · simp [Bound.IsAbove, hx.ne', hy.ne', hx.not_gt, hy.not_gt]
    · exact iff_of_true (.inl hx) (.inl hy)

/-- The gap between an interval and one that it precedes is not empty. -/
lemma Precedes.isEmpty_gap {j : Interval} {u l : Bound} (h : i.Precedes j) (hu : i.upper = some u)
    (hl : j.lower = some l) : isEmpty ⟨some u.flip, some l.flip⟩ = false := by
  simp only [Precedes, hu, hl] at h
  simp only [isEmpty, Bound.flip]
  grind

end Interval

namespace RealSet
open LineMeasure.Interval

variable {s : RealSet} {cs : List Interval} {g : Interval} {u : Option Bound} {p : Rat}

/-- The pieces come behind an upper end, if it is given. -/
def Behind (u : Option Bound) (cs : List Interval) : Prop :=
  ∀ b ∈ u, ∀ c ∈ cs, Precedes ⟨none, some b⟩ c

/-- Behind a piece come those that it precedes. -/
lemma Normal.behind_head {c : Interval} (normal : Normal (c :: cs)) : Behind c.upper cs := by
  intro b hb d hd
  have gap := normal.head_precedes hd
  simpa only [Precedes, Option.mem_def.1 hb] using gap

/-- A piece behind an upper end has a lower end. -/
lemma Behind.exists_lower {b : Bound} {c : Interval} (behind : Behind u cs) (hu : u = some b)
    (hc : c ∈ cs) :
    ∃ l, c.lower = some l := by
  have gap := behind b hu c hc
  cases hl : c.lower with
  | none => simp only [Precedes, hl] at gap
  | some l => exact ⟨l, rfl⟩

/-- Only the last piece goes on forever. -/
lemma Normal.tail_eq_nil {c : Interval} (normal : Normal (c :: cs)) (endless : c.upper = none) :
    cs = [] := by
  cases cs with
  | nil => rfl
  | cons d ds =>
    have gap := normal.head_precedes List.mem_cons_self
    simp only [Precedes, endless] at gap

/-- The gap before a piece with a lower end, and the gaps behind the piece. -/
lemma mem_gapsFrom_cons {lower : Option Bound} {c : Interval} :
    g ∈ gapsFrom lower (c :: cs) ↔
      (∃ l, c.lower = some l ∧ g = ⟨lower, some l.flip⟩) ∨
        ∃ b, c.upper = some b ∧ g ∈ gapsFrom ((some b).map Bound.flip) cs := by
  rw [gapsFrom]
  cases c.upper with
  | none => simp [eq_comm]
  | some b => simp [eq_comm]

/-- The gaps beside pieces, from an upper end on that comes before them, are not empty. -/
lemma isEmpty_of_mem_gapsFrom (normal : Normal cs) (behind : Behind u cs)
    (hg : g ∈ gapsFrom (u.map Bound.flip) cs) :
    g.isEmpty = false := by
  induction cs generalizing u with
  | nil =>
    obtain rfl := List.mem_singleton.1 hg
    cases u <;> rfl
  | cons c cs ih =>
    rcases mem_gapsFrom_cons.1 hg with ⟨l, hl, rfl⟩ | ⟨b, hb, hg⟩
    · cases u with
      | none => rfl
      | some b =>
        exact (behind b rfl c List.mem_cons_self).isEmpty_gap rfl hl
    · exact ih normal.tail (hb ▸ normal.behind_head) hg

/-- The finite ends of the gaps are those of the pieces beside them. -/
lemma mem_ends_gapsFrom (normal : Normal cs) (behind : Behind u cs) :
    (∃ g ∈ gapsFrom (u.map Bound.flip) cs, p ∈ endsOf g) ↔
      (∃ b, u = some b ∧ b.point = p) ∨ ∃ c ∈ cs, p ∈ endsOf c := by
  induction cs generalizing u with
  | nil => cases u <;> simp [gapsFrom, endsOf, Bound.flip]
  | cons c cs ih =>
    have later (b : Bound) (hb : c.upper = some b) := ih normal.tail (u := some b)
      (hb ▸ normal.behind_head)
    constructor
    · rintro ⟨g, hg, hp⟩
      rcases mem_gapsFrom_cons.1 hg with ⟨l, hl, rfl⟩ | ⟨b, hb, hg⟩
      -- the gap before the piece lies between the given end and the lower end of the piece
      · rcases mem_endsOf.1 hp with ⟨b, hb, rfl⟩ | ⟨_, ⟨⟩, rfl⟩
        · obtain ⟨b, rfl, rfl⟩ := Option.map_eq_some_iff.1 hb
          exact .inl ⟨b, rfl, rfl⟩
        · exact .inr ⟨c, List.mem_cons_self, mem_endsOf.2 (.inl ⟨l, hl, rfl⟩)⟩
      · rcases (later b hb).1 ⟨g, hg, hp⟩ with ⟨_, ⟨⟩, rfl⟩ | ⟨d, hd, hp⟩
        · exact .inr ⟨c, List.mem_cons_self, mem_endsOf.2 (.inr ⟨b, hb, rfl⟩)⟩
        · exact .inr ⟨d, List.mem_cons_of_mem _ hd, hp⟩
    · have before (l : Bound) (hl : c.lower = some l) :
          ⟨u.map Bound.flip, some l.flip⟩ ∈ gapsFrom (u.map Bound.flip) (c :: cs) :=
        mem_gapsFrom_cons.2 (.inl ⟨l, hl, rfl⟩)
      have after (b : Bound) (hb : c.upper = some b) (h : b.point = p ∨ ∃ d ∈ cs, p ∈ endsOf d) :
          ∃ g ∈ gapsFrom (u.map Bound.flip) (c :: cs), p ∈ endsOf g := by
        obtain ⟨g, hg, hp⟩ := (later b hb).2 (h.imp_left fun eq => ⟨b, rfl, eq⟩)
        exact ⟨g, mem_gapsFrom_cons.2 (.inr ⟨b, hb, hg⟩), hp⟩
      rintro (⟨b, rfl, rfl⟩ | ⟨d, hd, hp⟩)
      · obtain ⟨l, hl⟩ := behind.exists_lower rfl List.mem_cons_self
        exact ⟨_, before l hl, mem_endsOf.2 (.inl ⟨b.flip, rfl, rfl⟩)⟩
      · rcases List.mem_cons.1 hd with rfl | hd
        · rcases mem_endsOf.1 hp with ⟨l, hl, rfl⟩ | ⟨b, hb, rfl⟩
          · exact ⟨_, before l hl, mem_endsOf.2 (.inr ⟨l.flip, rfl, rfl⟩)⟩
          · exact after b hb (.inl rfl)
        · cases hb : c.upper with
          | none =>
            rw [normal.tail_eq_nil hb] at hd
            cases hd
          | some b => exact after b hb (.inr ⟨d, hd, hp⟩)

/-- A point of the boundary of a set has members and other numbers arbitrarily close to it. -/
def IsBoundary (s : RealSet) (p : Rat) : Prop :=
  ∀ δ > 0, (∃ x ∈ s, |x - p| < δ) ∧ ∃ y, ¬ y ∈ s ∧ |y - p| < δ

lemma isBoundary_complement : s.complement.IsBoundary p ↔ s.IsBoundary p := by
  simp only [IsBoundary, mem_complement, not_not]
  exact forall₂_congr fun δ _ => and_comm

/-- Around every point there is room up to the other points of a list. -/
lemma exists_room (p : Rat) (qs : List Rat) : ∃ δ > 0, ∀ q ∈ qs, q ≠ p → δ ≤ |q - p| := by
  induction qs with
  | nil => exact ⟨1, one_pos, by simp⟩
  | cons q qs ih =>
    obtain ⟨δ, positive, room⟩ := ih
    by_cases eq : q = p
    · exact ⟨δ, positive, List.forall_mem_cons.2 ⟨fun ne => absurd eq ne, room⟩⟩
    · refine ⟨min δ |q - p|, lt_min positive (abs_pos.2 (sub_ne_zero.2 eq)),
        List.forall_mem_cons.2 ⟨?_, ?_⟩⟩
      · exact fun _ => min_le_right _ _
      · exact fun r hr ne => (min_le_left _ _).trans (room r hr ne)

lemma mem_breakpoints : p ∈ s.breakpoints ↔ ∃ c ∈ s.components, p ∈ endsOf c := by
  rw [breakpoints, Rational.mem_increasing, List.mem_flatMap]

/-- The break points of a set are the points of its boundary. -/
theorem mem_breakpoints_iff : p ∈ s.breakpoints ↔ s.IsBoundary p := by
  rw [mem_breakpoints]
  constructor
  · intro hp δ positive
    have nothing : Behind none s.components := fun b hb => by cases hb
    obtain ⟨g, hg, beside⟩ := (mem_ends_gapsFrom s.normal nothing).2 (.inr hp)
    obtain ⟨c, hc, inside⟩ := hp
    obtain ⟨x, hx, near⟩ := exists_mem_near (s.normal.nonempty c hc) inside positive
    obtain ⟨y, hy, close⟩ :=
      exists_mem_near (isEmpty_of_mem_gapsFrom s.normal nothing hg) beside positive
    have outside := (mem_gapsFrom s.normal fun _ _ _ _ => inLower_none _).1 ⟨g, hg, hy⟩
    refine ⟨⟨x, ⟨c, hc, hx⟩, near⟩, y, ?_, close⟩
    rintro ⟨d, hd, member⟩
    exact outside.2 d hd member
  -- around a point that is no end, all numbers are in the same pieces
  · intro boundary
    by_contra no_end
    obtain ⟨δ, positive, room⟩ := exists_room p (s.components.flatMap endsOf)
    obtain ⟨⟨x, hx, near⟩, y, hy, close⟩ := boundary δ positive
    have alike {z : Rat} (near : |z - p| < δ) : z ∈ s ↔ p ∈ s := by
      refine exists_congr fun c => and_congr_right fun hc => mem_iff_of_sameSide fun q hq => ?_
      refine sameSide_of_near near (room q (List.mem_flatMap.2 ⟨c, hc, hq⟩) ?_)
      rintro rfl
      exact no_end ⟨c, hc, hq⟩
    exact hy ((alike close).2 ((alike near).1 hx))

/-- A set and its complement have the same break points. -/
theorem breakpoints_complement (s : RealSet) : s.complement.breakpoints = s.breakpoints := by
  apply Rational.increasing_congr
  intro p
  have same : p ∈ s.complement.breakpoints ↔ p ∈ s.breakpoints :=
    mem_breakpoints_iff.trans (isBoundary_complement.trans mem_breakpoints_iff.symm)
  simpa only [breakpoints, Rational.mem_increasing] using same

/-- Numbers on the same side of all break points of a set are members or not together. -/
lemma mem_iff_of_sameSide_breakpoints {x y : Rat} (alike : ∀ q ∈ s.breakpoints, SameSide q x y) :
    x ∈ s ↔ y ∈ s :=
  exists_congr fun c => and_congr_right fun hc =>
    mem_iff_of_sameSide fun q hq => alike q (mem_breakpoints.2 ⟨c, hc, hq⟩)

/-- A point belongs to the boundary when around it, however close, membership changes. -/
lemma isBoundary_iff : s.IsBoundary p ↔
    ∀ δ > 0, ∃ x ∈ Set.Ioo (p - δ) (p + δ), ∃ y ∈ Set.Ioo (p - δ) (p + δ), ¬ (x ∈ s ↔ y ∈ s) := by
  refine forall₂_congr fun δ _ => ?_
  have near (z : Rat) : z ∈ Set.Ioo (p - δ) (p + δ) ↔ |z - p| < δ := by
    rw [Set.mem_Ioo, abs_lt]
    constructor <;> rintro ⟨above, below⟩ <;> constructor <;> linarith
  simp only [near]
  constructor
  · rintro ⟨⟨x, hx, closeX⟩, y, hy, closeY⟩
    exact ⟨x, closeX, y, closeY, fun same => hy (same.1 hx)⟩
  -- one of the two numbers is a member and the other is none
  · rintro ⟨x, closeX, y, closeY, differ⟩
    by_cases hx : x ∈ s
    · exact ⟨⟨x, hx, closeX⟩, y, fun hy => differ (iff_of_true hx hy), closeY⟩
    · have hy : y ∈ s := by
        by_contra hy
        exact differ (iff_of_false hx hy)
      exact ⟨⟨y, hy, closeY⟩, x, hx, closeX⟩

/-- `x` lies in the open gap between the points of `before` and those of `after`. -/
def InGap (before after : List Rat) (x : Rat) : Prop :=
  (∀ p ∈ before, p < x) ∧ ∀ p ∈ after, x < p

/-- The break points of a set are its boundary, in strictly increasing order. -/
theorem breakpoints_exact (s : RealSet) :
    s.breakpoints.Pairwise (· < ·) ∧
      (∀ p, p ∈ s.breakpoints ↔
        ∀ δ > 0, ∃ x ∈ Set.Ioo (p - δ) (p + δ), ∃ y ∈ Set.Ioo (p - δ) (p + δ), ¬ (x ∈ s ↔ y ∈ s)) ∧
      (∀ before after, s.breakpoints = before ++ after →
        ∀ x y, InGap before after x → InGap before after y → (x ∈ s ↔ y ∈ s)) ∧
      s.complement.breakpoints = s.breakpoints := by
  refine ⟨Rational.pairwise_increasing _, fun p => mem_breakpoints_iff.trans isBoundary_iff,
    fun before after cut x y hx hy => ?_, breakpoints_complement s⟩
  refine mem_iff_of_sameSide_breakpoints fun q hq => ?_
  rw [cut, List.mem_append] at hq
  rcases hq with low | high
  · exact .inl ⟨hx.1 q low, hy.1 q low⟩
  · exact .inr ⟨hx.2 q high, hy.2 q high⟩

/-- The complement of the complement is the set. -/
@[simp]
lemma complement_complement (s : RealSet) : s.complement.complement = s := by
  ext x
  rw [mem_complement, mem_complement, not_not]

/-- What a complement leaves of a set is what the set itself keeps of it. -/
lemma sdiff_complement (s t : RealSet) : s \ t.complement = s ∩ t := by
  ext x
  rw [mem_sdiff, mem_complement, not_not, mem_inter]

end RealSet
end LineMeasure
