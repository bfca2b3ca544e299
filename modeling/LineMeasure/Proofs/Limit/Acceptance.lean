import LineMeasure.Given.Measure
import LineMeasure.Proofs.ENNRat.Embedding
import LineMeasure.Proofs.Limit.Affine

/-!
# Which families have a limit

A family has a limit exactly when it is infinite on valid probes, or its values there lie on one
line that meets zero at a number that is not negative (`affineLimit_outcome`); every other family is
refused with a fault of its own kind, and on probes that are not valid it is not asked for its
values. Only the slopes between neighbouring probes are compared, and that is enough: each of them
carries the line on to the next point (`onLine_of_hasSlope`). A family that lies on one line
everywhere has the same limit on all valid probes, and if the line does not fall, it is the infimum
of the family (`isGLB_affine`).
-/

namespace LineMeasure

/-- A list is decreasing when each number is above all later ones. -/
lemma Rational.isDecreasing_iff {ts : List Rat} :
    Rational.isDecreasing ts = true ↔ ts.Pairwise (· > ·) := by
  rw [← List.isChain_iff_pairwise]
  fun_induction Rational.isDecreasing ts with
  | case1 p q rest ih => rw [Bool.and_eq_true, decide_eq_true_eq, ih, List.isChain_cons_cons]
  | case2 ts short =>
    match ts, short with
    | [], _ => exact iff_of_true rfl .nil
    | [p], _ => exact iff_of_true rfl (.singleton p)
    | p :: q :: rest, short => exact (short p q rest rfl).elim

namespace ENNRat

variable {e : ENNRat} {q : Rat}

/-- A number that is not infinite has its finite part as its value. -/
lemma toRat?_of_finite (h : e.isInfinite = false) : e.toRat? = some e.finitePart := by
  cases e with
  | finite => rfl
  | infinite => cases h

/-- A number with a value is finite. -/
lemma eq_finite_of_toRat? (h : e.toRat? = some q) : ∃ nonneg, e = .finite q nonneg := by
  cases e with
  | finite value nonneg =>
    obtain rfl : value = q := Option.some.inj h
    exact ⟨nonneg, rfl⟩
  | infinite => cases h

end ENNRat

namespace Limit

/-- Points lie on the line with the value `a` at zero and the slope `b`. -/
def OnLine (a b : Rat) (points : List (Rat × Rat)) : Prop :=
  ∀ p ∈ points, p.2 = a + b * p.1

variable {a b m : Rat} {p q : Rat × Rat} {points rest : List (Rat × Rat)}

/-- The slope carries the line on from one point to another. -/
lemma value_of_slope (lt : q.1 < p.1) (h : slope p q = m) : q.2 = p.2 - m * p.1 + m * q.1 := by
  have ne : q.1 - p.1 ≠ 0 := (sub_neg.2 lt).ne
  rw [slope, div_eq_iff ne] at h
  linarith

/-- Points whose neighbours are joined by lines of one slope lie on one line. -/
lemma onLine_of_hasSlope (decreasing : Rational.isDecreasing ((p :: rest).map (·.1)) = true)
    (h : hasSlope m (p :: rest) = true) : OnLine (p.2 - m * p.1) m (p :: rest) := by
  induction rest generalizing p with
  | nil =>
    intro r hr
    rw [List.mem_singleton.1 hr]
    ring
  | cons q rest ih =>
    simp only [List.map_cons, Rational.isDecreasing, Bool.and_eq_true,
      decide_eq_true_eq] at decreasing
    simp only [hasSlope, Bool.and_eq_true, beq_iff_eq] at h
    have second := value_of_slope decreasing.1 h.1
    -- the line through the later points has the same value at zero
    have later : OnLine (p.2 - m * p.1) m (q :: rest) := by
      have same : q.2 - m * q.1 = p.2 - m * p.1 := by linarith
      exact same ▸ ih decreasing.2 h.2
    intro r hr
    rcases List.mem_cons.1 hr with rfl | hr
    · ring
    · exact later r hr

/-- Points have a value at zero when they lie on a line; otherwise they are refused. -/
lemma interceptOf_cases (decreasing : Rational.isDecreasing (points.map (·.1)) = true) :
    (∃ a b, OnLine a b points ∧ interceptOf points = .ok a) ∨
      ∃ fault, interceptOf points = .error (.limit fault) := by
  match points with
  | [] => exact .inr ⟨_, rfl⟩
  | [p] => exact .inr ⟨_, rfl⟩
  | p :: q :: rest =>
    rw [interceptOf]
    split
    next one_slope => exact .inl ⟨_, _, onLine_of_hasSlope decreasing one_slope, rfl⟩
    next => exact .inr ⟨_, rfl⟩

/-- What the limit of a family with these values on these probes is: infinity, the value at zero of
a line, or a fault. -/
inductive Outcome (value : Rat → ENNRat) (probes : List Rat) : Except Error ENNRat → Prop where
  | infinite (valid : ValidProbes probes) (h : ∀ t ∈ probes, value t = .infinite) :
    Outcome value probes (.ok .infinite)
  | affine {a b : Rat} (nonneg : 0 ≤ a) (valid : ValidProbes probes)
    (h : ∀ t ∈ probes, (value t).toRat? = some (a + b * t)) :
      Outcome value probes (.ok (.finite a nonneg))
  | refused (fault : LimitFault) : Outcome value probes (.error (.limit fault))

variable {value : Rat → ENNRat} {probes : List Rat}

/-- The values of a family on valid probes have one of these outcomes. -/
lemma limitOfValues_outcome (valid : ValidProbes probes) :
    Outcome value probes (limitOfValues probes (probes.map value)) := by
  rw [limitOfValues]
  split
  next all =>
    refine .infinite valid fun t ht => ?_
    have infinite := List.all_eq_true.1 all _ (List.mem_map_of_mem ht)
    cases h : value t with
    | finite =>
      rw [h] at infinite
      cases infinite
    | infinite => rfl
  split
  next => exact .refused _
  next none_infinite =>
    rw [zip_finiteParts]
    have decreasing :
        Rational.isDecreasing ((probes.map fun t => (t, (value t).finitePart)).map (·.1)) =
          true := by
      rw [List.map_map]
      exact (List.map_id probes).symm ▸ valid.decreasing
    rcases interceptOf_cases decreasing with ⟨a, b, line, found⟩ | ⟨fault, wrong⟩
    · simp only [found, bind, Except.bind]
      by_cases nonneg : 0 ≤ a
      · simp only [ENNRat.ofRat?, dif_pos nonneg]
        refine .affine (b := b) nonneg valid fun t ht => ?_
        have finite : (value t).isInfinite = false := by
          by_contra infinite
          exact none_infinite
            (List.any_eq_true.2 ⟨_, List.mem_map_of_mem ht, Bool.eq_true_of_not_eq_false infinite⟩)
        rw [ENNRat.toRat?_of_finite finite]
        exact congrArg some (line _ (List.mem_map_of_mem ht))
      · simp only [ENNRat.ofRat?, dif_neg nonneg]
        exact .refused _
    · rw [wrong]
      exact .refused fault

variable {f : Rat → Except Error ENNRat}

/-- The limit of a family has one of these outcomes, on any probes. -/
theorem affineLimit_outcome (defined : ∀ t, 0 < t → f t = .ok (value t)) (probes : List Rat) :
    Outcome value probes (affineLimit f probes) := by
  cases checked : probeFault? probes with
  | some fault =>
    rw [affineLimit, checked]
    exact .refused fault
  | none =>
    have valid := probeFault?_eq_none_iff.1 checked
    rw [affineLimit_eq valid fun t ht => defined t (valid.positive t ht)]
    exact limitOfValues_outcome valid

/-- The limit is infinite exactly for families that are infinite on valid probes. -/
lemma affineLimit_eq_infinite_iff (defined : ∀ t, 0 < t → f t = .ok (value t)) :
    affineLimit f probes = .ok .infinite ↔
      ValidProbes probes ∧ ∀ t ∈ probes, value t = .infinite := by
  constructor
  · intro found
    have outcome := affineLimit_outcome defined probes
    rw [found] at outcome
    cases outcome with
    | infinite valid infinite => exact ⟨valid, infinite⟩
  · rintro ⟨valid, infinite⟩
    refine affineLimit_of_infinite valid fun t ht => ?_
    rw [defined t (valid.positive t ht), infinite t ht]

/-- The limit is a number exactly for families on a line with that value at zero. -/
lemma affineLimit_eq_finite_iff (defined : ∀ t, 0 < t → f t = .ok (value t)) {nonneg : 0 ≤ a} :
    affineLimit f probes = .ok (.finite a nonneg) ↔
      ValidProbes probes ∧ ∃ b, ∀ t ∈ probes, (value t).toRat? = some (a + b * t) := by
  constructor
  · intro found
    have outcome := affineLimit_outcome defined probes
    rw [found] at outcome
    cases outcome with
    | affine _ valid line => exact ⟨valid, _, line⟩
  · rintro ⟨valid, b, line⟩
    exact affineLimit_of_affine nonneg valid (fun t ht => defined t (valid.positive t ht)) line

/-- A family without a limit is refused with a fault of limits. -/
lemma exists_limitFault (defined : ∀ t, 0 < t → f t = .ok (value t))
    (h : ∀ e, affineLimit f probes ≠ .ok e) :
    ∃ fault, affineLimit f probes = .error (.limit fault) := by
  have outcome := affineLimit_outcome defined probes
  generalize affineLimit f probes = result at outcome h
  cases outcome with
  | infinite => exact absurd rfl (h _)
  | affine => exact absurd rfl (h _)
  | refused fault => exact ⟨fault, rfl⟩

/-- Probes that are not valid are refused without a look at the family. -/
lemma affineLimit_of_not_valid (invalid : ¬ ValidProbes probes) :
    ∃ fault, ∀ f, affineLimit f probes = .error (.limit fault) := by
  cases checked : probeFault? probes with
  | none => exact absurd (probeFault?_eq_none_iff.1 checked) invalid
  | some fault =>
    refine ⟨fault, fun f => ?_⟩
    rw [affineLimit, checked]

lemma validProbes_iff : ValidProbes probes ↔
    3 ≤ probes.length ∧ (∀ t ∈ probes, 0 < t) ∧ probes.Pairwise (· > ·) := by
  rw [← Rational.isDecreasing_iff]
  exact ⟨fun ⟨enough, positive, decreasing⟩ => ⟨enough, positive, decreasing⟩,
    fun ⟨enough, positive, decreasing⟩ => ⟨enough, positive, decreasing⟩⟩

/-- A family that rises from `a`, or stays there, has `a` as its infimum. -/
lemma isGLB_affine {nonneg : 0 ≤ a} (rising : 0 ≤ b)
    (affine : ∀ t, 0 < t → (value t).toRat? = some (a + b * t)) :
    IsGLB {e | ∃ t, 0 < t ∧ value t = e} (.finite a nonneg) := by
  have eq_finite {t : Rat} (ht : 0 < t) : ∃ h, value t = .finite (a + b * t) h :=
    ENNRat.eq_finite_of_toRat? (affine t ht)
  constructor
  · rintro e ⟨t, ht, rfl⟩
    obtain ⟨h, eq⟩ := eq_finite ht
    rw [eq, ENNRat.finite_le_finite]
    exact le_add_of_nonneg_right (mul_nonneg rising ht.le)
  · intro e below
    cases e with
    | infinite =>
      obtain ⟨h, eq⟩ := eq_finite one_pos
      have bound := below ⟨1, one_pos, rfl⟩
      rw [eq] at bound
      exact absurd bound id
    | finite v hv =>
      rw [ENNRat.finite_le_finite]
      by_contra above
      -- a small enough probe has a value in front of `v`
      have room : 0 < v - a := sub_pos.2 (not_le.1 above)
      have steep : 0 < b + 1 := by linarith
      obtain ⟨h, eq⟩ := eq_finite (div_pos room steep)
      have bound := below ⟨_, div_pos room steep, rfl⟩
      rw [eq, ENNRat.finite_le_finite] at bound
      have share : b * ((v - a) / (b + 1)) < v - a := by
        rw [mul_div_assoc', div_lt_iff₀ steep]
        linarith
      linarith

/-- A family has a limit exactly when it is infinite, or affine, on valid probes. -/
theorem affineLimit_exact {value : Rat → ENNRat} {f : Rat → Except Error Value}
    (defined : ∀ t, 0 < t → f t = .ok (.extended (value t))) {given : List Value} {ts : List Rat}
    (read : given.mapM (Value.real "probe") = .ok ts) :
    (ValidProbes ts ↔ 3 ≤ ts.length ∧ (∀ t ∈ ts, 0 < t) ∧ ts.Pairwise (· > ·)) ∧
    (Given.affineLimit f given = .ok .infinite ↔ ValidProbes ts ∧ ∀ t ∈ ts, value t = .infinite) ∧
    (∀ a nonneg, Given.affineLimit f given = .ok (.finite a nonneg) ↔
      ValidProbes ts ∧ ∃ b, ∀ t ∈ ts, (value t).toRat? = some (a + b * t)) ∧
    ((∀ e, Given.affineLimit f given ≠ .ok e) →
      ∃ fault, Given.affineLimit f given = .error (.limit fault)) ∧
    (¬ ValidProbes ts → ∃ fault, ∀ g, Given.affineLimit g given = .error (.limit fault)) ∧
    ∀ a (nonneg : 0 ≤ a) b, (∀ t, 0 < t → (value t).toRat? = some (a + b * t)) →
      (ValidProbes ts → Given.affineLimit f given = .ok (.finite a nonneg)) ∧
      (0 ≤ b → IsGLB {e | ∃ t, 0 < t ∧ value t = e} (.finite a nonneg)) := by
  have limit_eq (g : Rat → Except Error Value) :
      Given.affineLimit g given = affineLimit (fun t => g t >>= Value.ennrat) ts := by
    rw [Given.affineLimit, read]
    rfl
  have values : ∀ t, 0 < t → (f t >>= Value.ennrat) = .ok (value t) := by
    intro t ht
    rw [defined t ht]
    rfl
  simp only [limit_eq]
  refine ⟨validProbes_iff, affineLimit_eq_infinite_iff values,
    fun a nonneg => affineLimit_eq_finite_iff values, exists_limitFault values, fun invalid => ?_,
    fun a nonneg b line => ⟨fun valid => ?_, fun rising => ?_⟩⟩
  · obtain ⟨fault, refused⟩ := affineLimit_of_not_valid invalid
    exact ⟨fault, fun g => refused _⟩
  · exact (affineLimit_eq_finite_iff values).2 ⟨valid, b, fun t ht => line t (valid.positive t ht)⟩
  · exact isGLB_affine rising line

/-- A family that rises from `3` and has no values outside the positive numbers, with probes of
three kinds. With a probe that is repeated no family has a limit. -/
theorem affineLimit_exact_rising :
    let value : Rat → ENNRat := fun t => .ofPositivePart (3 + 2 * t)
    let f : Rat → Except Error Value :=
      fun t => if 0 < t then .ok (.extended (value t)) else .error .operand
    let given : List Value := [.int 1, .text "1/2", .rational (1 / 4)]
    (∀ t, 0 < t → f t = .ok (.extended (value t))) ∧
      given.mapM (Value.real "probe") = .ok [1, 1 / 2, 1 / 4] ∧ ValidProbes [1, 1 / 2, 1 / 4] ∧
      (∀ t, 0 < t → (value t).toRat? = some (3 + 2 * t)) ∧
      Given.affineLimit f given = .ok (.finite 3 (by decide)) ∧
      IsGLB {e | ∃ t, 0 < t ∧ value t = e} (.finite 3 (by decide)) ∧
      ¬ ValidProbes [1, 1, 1 / 2] ∧
      ∃ fault, ∀ g,
        Given.affineLimit g [.int 1, .int 1, .rational (1 / 2)] = .error (.limit fault) := by
  intro value f given
  have defined : ∀ t, 0 < t → f t = .ok (.extended (value t)) := fun t ht => if_pos ht
  have half : Rational.ofText? "1/2" = some (1 / 2) := by decide +kernel
  have read : given.mapM (Value.real "probe") = .ok [1, 1 / 2, 1 / 4] := by
    simp [given, Value.real, Value.toRat, half, Except.mapError, bind, Except.bind,
      pure, Except.pure]
  have valid : ValidProbes [1, 1 / 2, 1 / 4] := ⟨by decide, by decide +kernel, by decide +kernel⟩
  have line : ∀ t, 0 < t → (value t).toRat? = some (3 + 2 * t) := by
    intro t ht
    have nonneg : 0 ≤ 3 + 2 * t := by linarith
    exact congrArg ENNRat.toRat? (ENNRat.ofPositivePart_of_nonneg nonneg)
  have invalid : ¬ ValidProbes [1, 1, 1 / 2] :=
    fun valid => absurd valid.decreasing (by decide +kernel)
  obtain ⟨-, -, -, -, -, limit⟩ := affineLimit_exact defined read
  obtain ⟨of_valid, infimum⟩ := limit 3 (by decide) 2 line
  have repeated :
      [Value.int 1, .int 1, .rational (1 / 2)].mapM (Value.real "probe") = .ok [1, 1, 1 / 2] := rfl
  obtain ⟨-, -, -, -, refused, -⟩ := affineLimit_exact defined repeated
  exact ⟨defined, read, valid, line, of_valid valid, infimum (by decide), invalid, refused invalid⟩

end Limit
end LineMeasure
