import LineMeasure.Borel.Decompose
import LineMeasure.Proofs.Borel.Meaning
import LineMeasure.Proofs.RealSet.Canonical
import Mathlib.Algebra.Order.Archimedean.Basic
import Mathlib.Tactic.Positivity

/-!
# Every set is generated by rays

The expression of a set stands for its members and converges (`mem_denote_ofSet`,
`converges_ofSet`), and so does that of an interval, also of an empty one. An open left end is the
only limit of closed ones that move towards it by parts of a fixed step, and a closed right end that
of open ones.
-/

namespace LineMeasure.RayExpr
open LineMeasure.Interval

variable {lower : Option Bound} {left right : Option Rat} {p x : Rat} {c : Interval}

/-- One of the parts of a step leads from a number to nothing above a larger one. -/
lemma exists_add_div_le (step : Rat) (above : p < x) : ∃ n : Nat, p + step / (n + 2 : Nat) ≤ x := by
  obtain ⟨n, hn⟩ := exists_nat_ge (step / (x - p))
  have room : 0 < x - p := sub_pos.2 above
  have reached : step ≤ n * (x - p) := (div_le_iff₀ room).1 hn
  refine ⟨n, ?_⟩
  have part : step / (n + 2 : Nat) ≤ x - p := by
    rw [div_le_iff₀ (by positivity)]
    push_cast
    linarith
  linarith

/-- What is below all numbers a little above another one is not above it. -/
lemma forall_lt_add_one_div_iff : (∀ n : Nat, x < p + 1 / (n + 1 : Nat)) ↔ x ≤ p := by
  constructor
  · intro below
    by_contra above
    obtain ⟨n, hn⟩ := exists_nat_one_div_lt (sub_pos.2 (not_le.1 above))
    have := below n
    push_cast at this
    linarith
  · intro le n
    have : (0 : Rat) < 1 / (n + 1 : Nat) := by positivity
    linarith

/-- A number inside an open upper end, or an absent one. -/
lemma inUpper_map_open : InUpper (right.map fun r => ⟨r, false⟩) x ↔ ∀ r ∈ right, x < r := by
  cases right with
  | none => simp
  | some r => simp [Bound.IsAbove]

/-- The expression of `[left, right)` stands for the numbers between its ends. -/
lemma mem_denote_ofEnds : x ∈ (ofEnds left right).denote ↔
    (∀ l ∈ left, l ≤ x) ∧ ∀ r ∈ right, x < r := by
  cases left with
  | none =>
    cases right with
    | none => simp [ofEnds, denote, mem_denoteAny, lt_or_ge]
    | some r => simp [ofEnds, denote]
  | some l =>
    cases right with
    | none => simp [ofEnds, denote]
    | some r => simp [ofEnds, denote, and_comm]

/-- The expression of `[left, right)` is made of rays without a countable operation. -/
lemma converges_ofEnds (left right : Option Rat) : (ofEnds left right).Converges := by
  cases left with
  | none =>
    cases right with
    | none =>
      refine .union fun e he => ?_
      rcases List.mem_pair.1 he with rfl | rfl
      · exact .ray 0
      · exact .complement (.ray 0)
    | some r => exact .ray r
  | some l =>
    cases right with
    | none => exact .complement (.ray l)
    | some r => exact .difference (.ray r) (.ray l)

/-- What begins a part of the step behind an open left end lies behind that end; a step of no width
leaves nothing. -/
lemma lt_of_add_step_le {n : Nat}
    (start :
      p + (width? ⟨some ⟨p, false⟩, right.map fun r => ⟨r, false⟩⟩).getD 1 / (n + 2 : Nat) ≤ x)
    (below : ∀ r ∈ right, x < r) : p < x := by
  have parts : (0 : Rat) < (n + 2 : Nat) := by positivity
  cases right with
  | none =>
    have part : (0 : Rat) < 1 / (n + 2 : Nat) := one_div_pos.2 parts
    have reached : p + 1 / (n + 2 : Nat) ≤ x := start
    linarith
  | some r =>
    have reached : p + Rational.positivePart (r - p) / (n + 2 : Nat) ≤ x := start
    -- the ends are in order, since a number was found between them; only then is the step above
    -- zero
    have part : 0 ≤ Rational.positivePart (r - p) / (n + 2 : Nat) :=
      div_nonneg (Rational.positivePart_nonneg _) parts.le
    have ends : p < r := lt_of_le_of_lt (by linarith) (below r rfl)
    have moved : 0 < Rational.positivePart (r - p) / (n + 2 : Nat) := by
      rw [Rational.positivePart_of_nonneg (sub_pos.2 ends).le]
      exact div_pos (sub_pos.2 ends) parts
    linarith

/-- The expression of an interval with an open or absent right end stands for its members. -/
lemma mem_denote_ofOpenRight :
    x ∈ (ofOpenRight lower right).denote ↔ InLower lower x ∧ ∀ r ∈ right, x < r := by
  match lower with
  | none =>
    show x ∈ (ofEnds none right).denote ↔ _
    simp [mem_denote_ofEnds]
  | some ⟨p, true⟩ =>
    show x ∈ (ofEnds (some p) right).denote ↔ _
    simp [mem_denote_ofEnds, Bound.IsBelow, le_iff_lt_or_eq]
  | some ⟨p, false⟩ =>
    simp only [ofOpenRight, denote, Set.mem_ofPred_eq, mem_denote_ofEnds,
      Option.mem_some_iff, forall_eq', inLower_some]
    constructor
    · rintro ⟨n, start, below⟩
      exact ⟨.inl (lt_of_add_step_le start below), below⟩
    · rintro ⟨above, below⟩
      obtain ⟨n, start⟩ := exists_add_div_le _ (by simpa [Bound.IsBelow] using above)
      exact ⟨n, start, below⟩

/-- The members of an interval with an open or absent right end. -/
lemma mem_openRight : x ∈ (⟨lower, right.map fun r => ⟨r, false⟩⟩ : Interval) ↔
    InLower lower x ∧ ∀ r ∈ right, x < r := by
  rw [mem_iff, inUpper_map_open]

/-- The expression of an interval with an open or absent right end converges. -/
lemma converges_ofOpenRight (lower : Option Bound) (right : Option Rat) :
    (ofOpenRight lower right).Converges := by
  match lower with
  | none => exact converges_ofEnds none right
  | some ⟨p, true⟩ => exact converges_ofEnds (some p) right
  | some ⟨p, false⟩ =>
    refine .countableUnion (fun n => converges_ofEnds _ right) fun x => ?_
    have members : x ∈ (ofOpenRight (some ⟨p, false⟩) right).denote ↔ _ := mem_denote_ofOpenRight
    rw [← mem_openRight] at members
    exact RealSet.mem_ofIntervals_singleton.trans members.symm

/-- The expression of an interval stands for its members. -/
lemma mem_denote_ofInterval : x ∈ (ofInterval c).denote ↔ x ∈ c := by
  match c with
  | ⟨lower, none⟩ =>
    show x ∈ (ofOpenRight lower none).denote ↔ _
    rw [mem_denote_ofOpenRight, ← mem_openRight]
    rfl
  | ⟨lower, some ⟨right, false⟩⟩ =>
    show x ∈ (ofOpenRight lower (some right)).denote ↔ _
    rw [mem_denote_ofOpenRight, ← mem_openRight]
    rfl
  | ⟨lower, some ⟨right, true⟩⟩ =>
    simp only [ofInterval, denote, Set.mem_ofPred_eq, mem_denote_ofOpenRight,
      Option.mem_some_iff, forall_eq']
    rw [forall_and_left, forall_lt_add_one_div_iff]
    simp [mem_iff, Bound.IsAbove, le_iff_lt_or_eq]

/-- The expression of an interval converges. -/
lemma converges_ofInterval (c : Interval) : (ofInterval c).Converges := by
  match c with
  | ⟨lower, none⟩ => exact converges_ofOpenRight lower none
  | ⟨lower, some ⟨right, false⟩⟩ => exact converges_ofOpenRight lower (some right)
  | ⟨lower, some ⟨right, true⟩⟩ =>
    refine .countableInter (fun n => converges_ofOpenRight lower _) fun x => ?_
    exact RealSet.mem_ofIntervals_singleton.trans mem_denote_ofInterval.symm

/-- The expression of a set stands for its members. -/
theorem mem_denote_ofSet {s : RealSet} : x ∈ (ofSet s).denote ↔ x ∈ s := by
  unfold ofSet
  rw [RealSet.mem_iff]
  split
  next none => simp [none, denote]
  next c one => simp [one, mem_denote_ofInterval]
  next => simp [denote, mem_denoteAny, mem_denote_ofInterval]

/-- The expression of a set converges. -/
theorem converges_ofSet (s : RealSet) : (ofSet s).Converges := by
  unfold ofSet
  split
  next => exact .difference (.ray 0) (.ray 0)
  next c _ => exact converges_ofInterval c
  next =>
    refine .union fun e he => ?_
    obtain ⟨c, -, rfl⟩ := List.mem_map.1 he
    exact converges_ofInterval c

/-- The value of the expression of a set is the set. -/
theorem evaluate_ofSet (s : RealSet) : (ofSet s).evaluate = s := by
  ext x
  rw [(converges_ofSet s).mem_evaluate, mem_denote_ofSet]

/-- The expression of a set stands for its members, and each of its parts is evaluated rightly. -/
theorem ofSet_generates (s : RealSet) :
    (∀ x, x ∈ (ofSet s).denote ↔ x ∈ s) ∧
      (∀ e, e.IsNodeOf (ofSet s) →
        (GivenExpr.ofExpr e).evaluate = .ok e.evaluate ∧ ∀ x, x ∈ e.evaluate ↔ x ∈ e.denote) ∧
      (ofSet s).evaluate = s := by
  refine ⟨fun x => mem_denote_ofSet,
    fun e node => ⟨GivenExpr.evaluate_ofExpr e, fun x => ?_⟩, evaluate_ofSet s⟩
  exact ((converges_ofSet s).of_isNodeOf node).mem_evaluate

end LineMeasure.RayExpr
