import LineMeasure.Error

/-!
# Limits of affine families

The limit at zero of a family of extended numbers that is affine in its positive parameter. The
family is looked at on a list of probes, at least three and strictly decreasing; its values there
have to lie on one line, and the limit is where the line meets zero. A family that is infinite on
all probes has the limit infinity.
-/

namespace LineMeasure.Limit

/-- A list of probes that can carry a limit: enough of them, positive and strictly decreasing. -/
structure ValidProbes (probes : List Rat) : Prop where
  enough : 3 ≤ probes.length
  positive : ∀ t ∈ probes, 0 < t
  decreasing : Rational.isDecreasing probes = true

/-- What is wrong with a list of probes, if anything is. -/
def probeFault? (probes : List Rat) : Option LimitFault :=
  if probes.length < 3 then some (.tooFewProbes probes.length)
  else if probes.any (· ≤ 0) then some (.probesNotPositive probes)
  else if !Rational.isDecreasing probes then some (.probesNotDecreasing probes)
  else none

/-- Probes without a fault are valid, and the other way round. -/
theorem probeFault?_eq_none_iff {probes : List Rat} :
    probeFault? probes = none ↔ ValidProbes probes := by
  unfold probeFault?
  constructor
  · intro h
    split at h
    · cases h
    · split at h
      · cases h
      · split at h
        · cases h
        · rename_i enough positive decreasing
          refine ⟨by omega, fun t ht => ?_, by simpa using decreasing⟩
          simp only [List.any_eq_true, decide_eq_true_eq, not_exists, not_and] at positive
          exact Rat.not_le.1 (positive t ht)
  · rintro ⟨enough, positive, decreasing⟩
    have none_low : probes.any (· ≤ 0) = false := by
      simp only [List.any_eq_false, decide_eq_true_eq]
      exact fun t ht => Rat.not_le.2 (positive t ht)
    simp [none_low, decreasing, Nat.not_lt.2 enough]

/-- The slope between two points. -/
def slope (p q : Rat × Rat) : Rat :=
  (q.2 - p.2) / (q.1 - p.1)

/-- Whether neighbouring points are joined by lines of one slope. -/
def hasSlope (m : Rat) : List (Rat × Rat) → Bool
  | p :: q :: rest => slope p q == m && hasSlope m (q :: rest)
  | _ => true

/-- The value at zero of the line through the points. -/
def interceptOf (points : List (Rat × Rat)) : Except Error Rat :=
  match points with
  | p :: q :: _ =>
    if hasSlope (slope p q) points then .ok (p.2 - slope p q * p.1)
    else .error (.limit (.notAffine (points.map (·.2))))
  | _ => .error (.limit (.notAffine (points.map (·.2))))

/-- The limit at zero from the values of a family on valid probes. -/
def limitOfValues (probes : List Rat) (values : List ENNRat) : Except Error ENNRat :=
  if values.all (·.isInfinite) then .ok .infinite
  else if values.any (·.isInfinite) then .error (.limit (.mixed values))
  else do
    let limit ← interceptOf (probes.zip (values.map (·.finitePart)))
    match ENNRat.ofRat? limit with
    | some e => return e
    | none => throw (.limit (.negative limit))

/-- The limit at zero of a family, which is only asked for its values when the probes are valid. -/
def affineLimit (f : Rat → Except Error ENNRat) (probes : List Rat) : Except Error ENNRat :=
  match probeFault? probes with
  | some fault => .error (.limit fault)
  | none => do limitOfValues probes (← probes.mapM f)

end LineMeasure.Limit
