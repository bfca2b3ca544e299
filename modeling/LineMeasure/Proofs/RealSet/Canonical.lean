import LineMeasure.Proofs.Interval.Order

/-!
# The normal form is determined by the members

Two lists of pieces in normal form with the same members are equal (`Normal.eq_of_mem_iff`): the
first piece is the first run of members without a gap, so that both of its ends can be told from
membership, and the rest of the pieces holds what is left. Hence building a set from its own pieces
changes nothing, and sets are equal as soon as they have the same members (`ext_mem`).
-/

namespace LineMeasure.RealSet
open LineMeasure.Interval

section Normal
variable {c d : Interval} {cs ds : List Interval} {x : Rat}

/-- The pieces behind the first one are in normal form. -/
lemma Normal.tail (normal : Normal (c :: cs)) : Normal cs :=
  ⟨fun d hd => normal.nonempty d (List.mem_cons_of_mem _ hd), normal.separated.tail⟩

/-- The first piece precedes all others. -/
lemma Normal.head_precedes (normal : Normal (c :: cs)) (hd : d ∈ cs) : c.Precedes d :=
  (List.pairwise_cons.1 normal.separated).1 d hd

/-- The first piece has members. -/
lemma Normal.head_nonempty (normal : Normal (c :: cs)) : c.isEmpty = false :=
  normal.nonempty c List.mem_cons_self

/-- What is inside the lower end of any piece is inside that of the first one. -/
lemma Normal.inLower_head (normal : Normal (c :: cs)) (hd : d ∈ c :: cs) (hx : InLower d.lower x) :
    InLower c.lower x := by
  rcases List.mem_cons.1 hd with rfl | hd
  · exact hx
  · apply inLower_of_not_inUpper normal.head_nonempty
    exact (normal.head_precedes hd).not_inUpper hx

/-- The first lower end, from the members: the numbers with a member at or below them. -/
lemma Normal.inLower_iff (normal : Normal (c :: cs)) :
    InLower c.lower x ↔ ∃ y ≤ x, ∃ d ∈ c :: cs, y ∈ d := by
  constructor
  · intro below
    obtain ⟨z, hz⟩ := exists_mem normal.head_nonempty
    rcases le_total z x with le | le
    · exact ⟨z, le, c, List.mem_cons_self, hz⟩
    · exact ⟨x, le_rfl, c, List.mem_cons_self, below, hz.2.anti le⟩
  · rintro ⟨y, le, d, hd, hy⟩
    exact (normal.inLower_head hd hy.1).mono le

/-- Behind the first piece there is a number that belongs to no piece; it can be found below any
given one. -/
lemma Normal.exists_gap (normal : Normal (c :: cs)) (hx : ¬ InUpper c.upper x) :
    ∃ y ≤ x, ¬ InUpper c.upper y ∧ ∀ d ∈ c :: cs, ¬ y ∈ d := by
  cases cs with
  | nil =>
    refine ⟨x, le_rfl, hx, fun d hd hy => ?_⟩
    rcases List.mem_singleton.1 hd with rfl
    exact hx hy.2
  | cons e cs =>
    obtain ⟨y, le, after, before⟩ := (normal.head_precedes List.mem_cons_self).exists_gap hx
    refine ⟨y, le, after, fun d hd hy => ?_⟩
    rcases List.mem_cons.1 hd with rfl | hd
    · exact after hy.2
    · exact before (normal.tail.inLower_head hd hy.1)

/-- The first upper end, from the members: the numbers up to which no member is missing. -/
lemma Normal.inUpper_iff (normal : Normal (c :: cs)) :
    InUpper c.upper x ↔ ∀ y ≤ x, InLower c.lower y → ∃ d ∈ c :: cs, y ∈ d := by
  constructor
  · intro above y le below
    exact ⟨c, List.mem_cons_self, below, above.anti le⟩
  · intro full
    by_contra hx
    obtain ⟨y, le, after, outside⟩ := normal.exists_gap hx
    obtain ⟨d, hd, hy⟩ := full y le (inLower_of_not_inUpper normal.head_nonempty after)
    exact outside d hd hy

/-- The pieces behind the first one hold the members that are not in it. -/
lemma Normal.mem_tail_iff (normal : Normal (c :: cs)) :
    (∃ d ∈ cs, x ∈ d) ↔ (∃ d ∈ c :: cs, x ∈ d) ∧ ¬ x ∈ c := by
  constructor
  · rintro ⟨d, hd, hx⟩
    refine ⟨⟨d, List.mem_cons_of_mem _ hd, hx⟩, fun hc => ?_⟩
    exact (normal.head_precedes hd).not_inUpper hx.1 hc.2
  · rintro ⟨⟨d, hd, hx⟩, hc⟩
    rcases List.mem_cons.1 hd with rfl | hd
    · exact absurd hx hc
    · exact ⟨d, hd, hx⟩

/-- Two normal forms with the same members begin with the same piece. -/
lemma Normal.head_eq (hc : Normal (c :: cs)) (hd : Normal (d :: ds))
    (h : ∀ x, (∃ e ∈ c :: cs, x ∈ e) ↔ ∃ e ∈ d :: ds, x ∈ e) : c = d := by
  have lower : c.lower = d.lower := by
    apply inLower_injective
    intro x
    simp only [hc.inLower_iff, hd.inLower_iff, h]
  have upper : c.upper = d.upper := by
    apply inUpper_injective
    intro x
    simp only [hc.inUpper_iff, hd.inUpper_iff, h, lower]
  cases c
  cases d
  congr

/-- Normal forms with the same members are equal. -/
theorem Normal.eq_of_mem_iff (hc : Normal cs) (hd : Normal ds)
    (h : ∀ x, (∃ e ∈ cs, x ∈ e) ↔ ∃ e ∈ ds, x ∈ e) : cs = ds := by
  induction cs generalizing ds with
  | nil =>
    cases ds with
    | nil => rfl
    | cons d ds =>
      obtain ⟨x, hx⟩ := exists_mem hd.head_nonempty
      obtain ⟨e, he, _⟩ := (h x).2 ⟨d, List.mem_cons_self, hx⟩
      cases he
  | cons c cs ih =>
    cases ds with
    | nil =>
      obtain ⟨x, hx⟩ := exists_mem hc.head_nonempty
      obtain ⟨e, he, _⟩ := (h x).1 ⟨c, List.mem_cons_self, hx⟩
      cases he
    | cons d ds =>
      obtain rfl := hc.head_eq hd h
      congr 1
      apply ih hc.tail hd.tail
      intro x
      rw [hc.mem_tail_iff, hd.mem_tail_iff, h]

/-- Pieces that are in normal form are their own normal form. -/
lemma Normal.normalize_eq (normal : Normal cs) : normalize cs = cs :=
  (normalize_normal cs).eq_of_mem_iff normal fun _ => mem_normalize

/-- The pieces are in strict order of the points of their lower ends. -/
lemma Normal.pairwise_startsBefore (normal : Normal cs) : cs.Pairwise StartsBefore :=
  normal.separated.imp_of_mem fun hc _ h => h.startsBefore (normal.nonempty _ hc)

end Normal

/-- Sets with the same members are equal. -/
@[ext]
lemma ext_mem {s t : RealSet} (h : ∀ x, x ∈ s ↔ x ∈ t) : s = t :=
  ext_components (s.normal.eq_of_mem_iff t.normal h)

/-- Building a set from its own pieces gives the set. -/
@[simp]
lemma ofIntervals_components (s : RealSet) : ofIntervals s.components = s :=
  ext_components s.normal.normalize_eq

/-- A set of intervals holds their members, in the one normal form that these have. -/
theorem ofIntervals_canonical (cs : List Interval) :
    (∀ c ∈ (ofIntervals cs).components, c.isEmpty = false ∧ ∃ x, x ∈ c) ∧
      (ofIntervals cs).components.Pairwise StartsBefore ∧
      (ofIntervals cs).components.Pairwise Precedes ∧
      (∀ c ∈ (ofIntervals cs).components,
        (c.lower = none → c.leftClosed = false) ∧ (c.upper = none → c.rightClosed = false)) ∧
      (∀ x, x ∈ ofIntervals cs ↔ ∃ c ∈ cs, x ∈ c) ∧
      (ofIntervals (ofIntervals cs).components).components = (ofIntervals cs).components ∧
      ∀ s t : RealSet, s.components = t.components ↔ ∀ x, x ∈ s ↔ x ∈ t := by
  have normal := (ofIntervals cs).normal
  refine ⟨fun c hc => ?_, normal.pairwise_startsBefore, normal.separated, fun c _ => ?_,
    fun _ => mem_ofIntervals, by rw [ofIntervals_components], fun s t => ?_⟩
  · exact ⟨normal.nonempty c hc, exists_mem (normal.nonempty c hc)⟩
  · constructor <;> intro infinite
    · rw [leftClosed, infinite, Option.any_none]
    · rw [rightClosed, infinite, Option.any_none]
  · constructor
    · intro h x
      rw [mem_iff, mem_iff, h]
    · intro h
      rw [ext_mem h]

end LineMeasure.RealSet
