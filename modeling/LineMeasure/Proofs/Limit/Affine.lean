import LineMeasure.Limit.Affine
import Mathlib.Tactic.Linarith
import Mathlib.Tactic.Ring

/-!
# Limits of families that are affine on the probes

A family with the values `a + b * t` on valid probes has the limit `a` at zero
(`affineLimit_of_affine`), and a family that is infinite on them has the limit infinity
(`affineLimit_of_infinite`). Neighbouring probes differ, so that each pair of neighbouring values
shows the slope `b`.
-/

namespace LineMeasure

/-- A list is read without an error when each of its entries is. -/
lemma mapM_eq_ok {ε α β : Type} {f : α → Except ε β} {g : α → β} {xs : List α}
    (h : ∀ x ∈ xs, f x = .ok (g x)) : xs.mapM f = .ok (xs.map g) := by
  induction xs with
  | nil => rfl
  | cons x xs ih =>
    have rest := ih fun y hy => h y (List.mem_cons_of_mem _ hy)
    rw [List.mapM_cons, h x List.mem_cons_self, rest]
    rfl

/-- A list is read as the list of what each of its entries is read as. -/
lemma mapM_of_forall₂ {ε α β : Type} {f : α → Except ε β} {xs : List α} {ys : List β}
    (h : List.Forall₂ (fun x y => f x = .ok y) xs ys) : xs.mapM f = .ok ys := by
  induction h with
  | nil => rfl
  | cons first _ ih =>
    rw [List.mapM_cons, first, ih]
    rfl

/-- Entries that can be read, each by itself, are read one after the other. -/
lemma exists_mapM_eq_ok {ε α β : Type} {f : α → Except ε β} {xs : List α}
    (h : ∀ x ∈ xs, ∃ y, f x = .ok y) :
    ∃ ys, xs.mapM f = .ok ys ∧ List.Forall₂ (fun x y => f x = .ok y) xs ys := by
  induction xs with
  | nil => exact ⟨[], rfl, .nil⟩
  | cons x xs ih =>
    obtain ⟨y, first⟩ := h x List.mem_cons_self
    obtain ⟨ys, -, forms⟩ := ih fun z hz => h z (List.mem_cons_of_mem _ hz)
    exact ⟨y :: ys, mapM_of_forall₂ (.cons first forms), .cons first forms⟩

/-- All entries of a list can be read, or there is a first one that cannot. -/
lemma forall_ok_or {ε α β : Type} (f : α → Except ε β) (xs : List α) :
    (∀ x ∈ xs, ∃ y, f x = .ok y) ∨
      ∃ before x after e, xs = before ++ x :: after ∧ (∀ y ∈ before, ∃ z, f y = .ok z) ∧
        f x = .error e := by
  induction xs with
  | nil => exact .inl fun x hx => absurd hx List.not_mem_nil
  | cons x xs ih =>
    cases read : f x with
    | error e => exact .inr ⟨[], x, xs, e, rfl, fun y hy => absurd hy List.not_mem_nil, read⟩
    | ok y =>
      rcases ih with all | ⟨before, w, after, e, rfl, readable, fails⟩
      · exact .inl (List.forall_mem_cons.2 ⟨⟨y, read⟩, all⟩)
      · exact .inr ⟨x :: before, w, after, e, rfl,
          List.forall_mem_cons.2 ⟨⟨y, read⟩, readable⟩, fails⟩

/-- Reading ends at the first entry that cannot be read. -/
lemma mapM_eq_error {ε α β : Type} {f : α → Except ε β} {before after : List α} {x : α} {e : ε}
    (h : ∀ y ∈ before, ∃ z, f y = .ok z) (fails : f x = .error e) :
    (before ++ x :: after).mapM f = .error e := by
  induction before with
  | nil =>
    rw [List.nil_append, List.mapM_cons, fails]
    rfl
  | cons y before ih =>
    obtain ⟨z, first⟩ := h y List.mem_cons_self
    have rest := ih fun w hw => h w (List.mem_cons_of_mem _ hw)
    rw [List.cons_append, List.mapM_cons, first, rest]
    rfl

/-- Entries that have been read without an error are themselves. -/
lemma mapM_map_ok {ε α : Type} (xs : List α) :
    (xs.map .ok).mapM id = (.ok xs : Except ε (List α)) := by
  rw [List.mapM_map]
  exact (mapM_eq_ok fun _ _ => rfl).trans (congrArg Except.ok (List.map_id xs))

namespace Limit

/-- The points of the graph of an affine function. -/
def graph (a b : Rat) (probes : List Rat) : List (Rat × Rat) :=
  probes.map fun t => (t, a + b * t)

/-- The slope between different points of an affine function. -/
lemma slope_affine {a b t u : Rat} (h : u < t) : slope (t, a + b * t) (u, a + b * u) = b := by
  have ne : u - t ≠ 0 := by linarith
  show (a + b * u - (a + b * t)) / (u - t) = b
  rw [div_eq_iff ne]
  ring

/-- Along decreasing probes an affine function has one slope. -/
lemma hasSlope_graph {a b : Rat} {probes : List Rat}
    (decreasing : Rational.isDecreasing probes = true) :
    hasSlope b (graph a b probes) = true := by
  induction probes with
  | nil => rfl
  | cons t rest ih =>
    cases rest with
    | nil => rfl
    | cons u rest =>
      simp only [Rational.isDecreasing, Bool.and_eq_true, decide_eq_true_eq] at decreasing
      have later := ih decreasing.2
      simp only [graph, List.map_cons, hasSlope, Bool.and_eq_true, beq_iff_eq] at later ⊢
      exact ⟨slope_affine decreasing.1, later⟩

/-- The line through the graph of an affine function meets zero at its constant term. -/
lemma interceptOf_graph {a b : Rat} {probes : List Rat} (valid : ValidProbes probes) :
    interceptOf (graph a b probes) = .ok a := by
  obtain ⟨enough, _, decreasing⟩ := valid
  have one_slope := hasSlope_graph (a := a) (b := b) decreasing
  match probes, enough with
  | t :: u :: rest, _ =>
    have first : u < t := by
      simp only [Rational.isDecreasing, Bool.and_eq_true, decide_eq_true_eq] at decreasing
      exact decreasing.1
    simp only [graph, List.map_cons] at one_slope
    simp only [interceptOf, graph, List.map_cons, slope_affine first, one_slope, if_true]
    congr 1
    ring

variable {f : Rat → Except Error ENNRat} {value : Rat → ENNRat} {probes : List Rat}

/-- The points of a graph, from the probes and the finite parts of the values on them. -/
lemma zip_finiteParts (value : Rat → ENNRat) (probes : List Rat) :
    probes.zip ((probes.map value).map (·.finitePart)) = probes.map
      fun t => (t, (value t).finitePart) := by
  rw [List.map_map, List.zip_map_right]
  simp [List.zip_eq_zipWith]

/-- On valid probes the family is asked for its values. -/
lemma affineLimit_eq (valid : ValidProbes probes) (h : ∀ t ∈ probes, f t = .ok (value t)) :
    affineLimit f probes = limitOfValues probes (probes.map value) := by
  rw [affineLimit, probeFault?_eq_none_iff.2 valid, mapM_eq_ok h]
  rfl

/-- A family that is affine on the probes has its constant term as its limit. -/
theorem affineLimit_of_affine {a b : Rat} (nonneg : 0 ≤ a) (valid : ValidProbes probes)
    (h : ∀ t ∈ probes, f t = .ok (value t))
    (affine : ∀ t ∈ probes, (value t).toRat? = some (a + b * t)) :
    affineLimit f probes = .ok (.finite a nonneg) := by
  have finite : ∀ t ∈ probes, (value t).isInfinite = false := by
    intro t ht
    have some_value := affine t ht
    cases hv : value t with
    | finite => rfl
    | infinite =>
      rw [hv] at some_value
      cases some_value
  have nonempty : ∃ t, t ∈ probes :=
    List.exists_mem_of_length_pos (lt_of_lt_of_le (by decide) valid.enough)
  have not_all : (probes.map value).all (·.isInfinite) = false := by
    obtain ⟨t, ht⟩ := nonempty
    rw [List.all_map, List.all_eq_false]
    exact ⟨t, ht, by simp [finite t ht]⟩
  have not_any : (probes.map value).any (·.isInfinite) = false := by
    rw [List.any_map, List.any_eq_false]
    exact fun t ht => by simp [finite t ht]
  have points : probes.zip ((probes.map value).map (·.finitePart)) = graph a b probes := by
    rw [zip_finiteParts]
    apply List.map_congr_left
    intro t ht
    simp [ENNRat.finitePart, affine t ht]
  rw [affineLimit_eq valid h, limitOfValues, not_all, not_any, points]
  simp [interceptOf_graph valid, bind, Except.bind, ENNRat.ofRat?, nonneg, pure, Except.pure]

/-- A family that is infinite on the probes has an infinite limit. -/
theorem affineLimit_of_infinite (valid : ValidProbes probes)
    (h : ∀ t ∈ probes, f t = .ok .infinite) :
    affineLimit f probes = .ok .infinite := by
  have all : (probes.map fun _ => ENNRat.infinite).all (·.isInfinite) = true := by
    simp [ENNRat.isInfinite]
  rw [affineLimit_eq valid h, limitOfValues, if_pos all]

/-- A family that fails on the probes, always in the same way, fails in this way. -/
lemma affineLimit_of_error {e : Error} (valid : ValidProbes probes)
    (h : ∀ t ∈ probes, f t = .error e) :
    affineLimit f probes = .error e := by
  match probes, valid.enough with
  | t :: rest, _ =>
    rw [affineLimit, probeFault?_eq_none_iff.2 valid]
    simp only [List.mapM_cons, h t List.mem_cons_self]
    rfl

end Limit
end LineMeasure
