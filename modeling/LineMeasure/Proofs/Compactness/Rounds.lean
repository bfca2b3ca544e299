import LineMeasure.Proofs.Compactness.Budget
import LineMeasure.Proofs.Cover.Indices
import Mathlib.Data.Nat.Log

/-!
# The rounds of the search

The search for a certificate goes through rounds with twice as many terms each, up to the number
that is allowed. It ends after no more rounds than it takes to reach that number by doubling
(`search_rounds`), and no term behind it has a part in the outcome (`certify_congr`), also if they
cannot be made. When the first `N` terms cover `[a, b)` and fewer do not, the rounds before the
first budget of at least `N` settle nothing, and that one finds the interval covered, so that the
number of examined terms is known (`search_of_isLeast`).
-/

namespace LineMeasure
open Compactness

/-- The first `n` terms of a cover are known and cover `[a, b)`. -/
def Cover.Reaches (c : Cover) (a b : Rat) (n : Nat) : Prop :=
  ∃ first, c.take n = .ok first ∧ CoversUpTo first a b

namespace Compactness

/-- The rounds from a budget on, doubled up to what is allowed, and the outcome of the last. -/
inductive Rounds (cfg : Config) (a b : Rat) (c : Cover) :
    Nat → Nat → Except Error Certificate → Prop where
  | settled {budget : Nat} {cert : Certificate} (h : examine cfg a b c budget = .ok (some cert)) :
    Rounds cfg a b c budget 1 (.ok cert)
  | failed {budget : Nat} {e : Error} (h : examine cfg a b c budget = .error e) :
    Rounds cfg a b c budget 1 (.error e)
  | again {budget n : Nat} {outcome : Except Error Certificate}
    (h : examine cfg a b c budget = .ok none)
    (later : Rounds cfg a b c (min (2 * budget) cfg.maxCoverTerms) n outcome) :
    Rounds cfg a b c budget (n + 1) outcome

/-- The budgets of `count + 1` rounds from the power `2 ^ k` on. -/
def budgetsFrom (limit k : Nat) : Nat → List Nat
  | 0 => [min (2 ^ k) limit]
  | count + 1 => min (2 ^ k) limit :: budgetsFrom limit (k + 1) count

variable {limit k n : Nat}

/-- The powers of two below a limit. -/
lemma filter_pow_lt (limit : Nat) :
    ((List.range (Nat.log2 limit + 1)).map (Nat.pow 2)).filter (· < limit) =
      (List.range (Nat.clog 2 limit)).map (2 ^ ·) := by
  have enough : Nat.clog 2 limit ≤ Nat.log2 limit + 1 := by
    rw [Nat.clog_le_iff_le_pow Nat.one_lt_two, Nat.log2_eq_log_two]
    exact (Nat.lt_pow_succ_log_self Nat.one_lt_two limit).le
  obtain ⟨rest, h⟩ := Nat.exists_eq_add_of_le enough
  rw [h, List.range_add, List.map_append, List.filter_append, List.filter_eq_self.2,
    List.filter_eq_nil_iff.2, List.append_nil]
  · rfl
  · simp only [List.map_map, List.forall_mem_map]
    intro i _
    have large : limit ≤ 2 ^ (Nat.clog 2 limit + i) :=
      (Nat.clog_le_iff_le_pow Nat.one_lt_two).1 (Nat.le_add_right _ i)
    simpa using large
  · simp only [List.forall_mem_map]
    intro i hi
    exact decide_eq_true ((Nat.lt_clog_iff_pow_lt Nat.one_lt_two).1 (List.mem_range.1 hi))

/-- The budgets from a power of two on, when the limit is reached in so many steps. -/
lemma budgetsFrom_eq {count : Nat} (steps : k + count = Nat.clog 2 limit) :
    budgetsFrom limit k count = (List.range' k count).map (2 ^ ·) ++ [limit] := by
  induction count generalizing k with
  | zero =>
    have reached : limit ≤ 2 ^ k := (Nat.clog_le_iff_le_pow Nat.one_lt_two).1 steps.ge
    rw [budgetsFrom, min_eq_right reached]
    rfl
  | succ count ih =>
    have below : 2 ^ k < limit := (Nat.lt_clog_iff_pow_lt Nat.one_lt_two).1 (by omega)
    rw [budgetsFrom, min_eq_left below.le, ih (by omega)]
    rfl

/-- The budgets that are tried are those from `1` on. -/
lemma budgets_eq (limit : Nat) : budgets limit = budgetsFrom limit 0 (Nat.clog 2 limit) := by
  rw [budgets, filter_pow_lt, budgetsFrom_eq (Nat.zero_add _), List.range_eq_range']

lemma budgetsFrom_add (limit k m count : Nat) :
    budgetsFrom limit k (m + count) =
      (List.range' k m).map (fun i => min (2 ^ i) limit) ++ budgetsFrom limit (k + m) count := by
  induction m generalizing k with
  | zero => rw [Nat.zero_add]; rfl
  | succ m ih =>
    rw [Nat.succ_add, budgetsFrom, ih (k + 1), List.range'_succ, Nat.succ_add]
    rfl

lemma exists_budgetsFrom_eq_cons (limit k count : Nat) :
    ∃ rest, budgetsFrom limit k count = min (2 ^ k) limit :: rest := by
  cases count with
  | zero => exact ⟨[], rfl⟩
  | succ count => exact ⟨budgetsFrom limit (k + 1) count, rfl⟩

variable {cfg : Config} {a b : Rat} {c d : Cover} {examined : List HalfOpen} {budget : Nat}

/-- A round with all terms that are allowed leaves nothing open. -/
lemma examine_limit_ne_none : examine cfg a b c cfg.maxCoverTerms ≠ .ok none := by
  intro unsettled
  cases taken : c.take cfg.maxCoverTerms with
  | error e =>
    rw [examine, taken] at unsettled
    cases unsettled
  | ok examined =>
    rw [examine_eq taken] at unsettled
    split_ifs at unsettled
    have verdict := Option.map_eq_none_iff.1 (Except.ok.inj unsettled)
    obtain ⟨full, room⟩ := verdict?_eq_none verdict
    exact absurd full (not_le.2 room)

/-- One round, and the rounds behind it when it settles nothing. -/
lemma search_rounds_cons {rest : List Nat}
    (later : examine cfg a b c budget = .ok none →
      ∃ m ≤ n, Rounds cfg a b c (min (2 * budget) cfg.maxCoverTerms) m (search cfg a b c rest)) :
    ∃ m ≤ n + 1, Rounds cfg a b c budget m (search cfg a b c (budget :: rest)) := by
  rw [search]
  cases round : examine cfg a b c budget with
  | error e => exact ⟨1, Nat.le_add_left 1 n, .failed round⟩
  | ok settled =>
    cases settled with
    | some cert => exact ⟨1, Nat.le_add_left 1 n, .settled round⟩
    | none =>
      obtain ⟨m, le, rounds⟩ := later round
      exact ⟨m + 1, Nat.succ_le_succ le, .again round rounds⟩

/-- The search ends after no more rounds than it takes to reach the limit by doubling. -/
lemma search_rounds {count : Nat} (steps : k + count = Nat.clog 2 cfg.maxCoverTerms) :
    ∃ n ≤ count + 1, Rounds cfg a b c (min (2 ^ k) cfg.maxCoverTerms) n
      (search cfg a b c (budgetsFrom cfg.maxCoverTerms k count)) := by
  induction count generalizing k with
  | zero =>
    have reached : cfg.maxCoverTerms ≤ 2 ^ k := (Nat.clog_le_iff_le_pow Nat.one_lt_two).1 steps.ge
    refine search_rounds_cons fun unsettled => ?_
    rw [min_eq_right reached] at unsettled
    exact absurd unsettled examine_limit_ne_none
  | succ count ih =>
    refine search_rounds_cons fun _ => ?_
    obtain ⟨n, le, rounds⟩ := ih (k := k + 1) (by omega)
    have doubled :
        min (2 * min (2 ^ k) cfg.maxCoverTerms) cfg.maxCoverTerms =
          min (2 ^ (k + 1)) cfg.maxCoverTerms := by
      rw [pow_succ']
      omega
    exact ⟨n, le, doubled ▸ rounds⟩

lemma examine_congr (sum : c.sum = d.sum) (taken : c.take budget = d.take budget) :
    examine cfg a b c budget = examine cfg a b d budget := by
  unfold examine
  rw [sum, taken]

lemma search_congr (sum : c.sum = d.sum) {budgets : List Nat}
    (taken : ∀ n ∈ budgets, c.take n = d.take n) :
    search cfg a b c budgets = search cfg a b d budgets := by
  induction budgets with
  | nil => rw [search, search, sum]
  | cons budget rest ih =>
    rw [search, search, examine_congr sum (taken budget List.mem_cons_self),
      ih fun n hn => taken n (List.mem_cons_of_mem _ hn)]

/-- Only the terms that are allowed, and the sum, have a part in the outcome. -/
lemma certify_congr (sum : c.sum = d.sum)
    (count : c.available cfg.maxCoverTerms = d.available cfg.maxCoverTerms)
    (same : ∀ i < cfg.maxCoverTerms, c.term i = d.term i) :
    certify cfg a b c = certify cfg a b d := by
  unfold certify
  rw [sum, search_congr sum fun n hn => Cover.take_congr count same (le_of_mem_budgets hn)]

/-- A round on terms that cover `[a, b)` finds it covered, unless they are too long for the sum. -/
lemma examine_of_covers (le : a ≤ b) (enough : .ofPositivePart (b - a) ≤ c.sum)
    (taken : c.take budget = .ok examined) (covers : CoversUpTo examined a b) :
    ∃ cert, examine cfg a b c budget = .ok (some cert) ∧ cert.isCovered = true ∧
      cert.termsExamined = examined.length := by
  have reached := (firstUncovered_eq_iff le).2 covers
  refine ⟨⟨a, b, .covered, b, coveredLength examined b (some a), c.sum, examined.length⟩,
    ?_, rfl, rfl⟩
  rw [examine_eq taken, reached, if_neg fun wrong => ENNRat.not_lt.2 enough wrong.2,
    verdict?, if_pos rfl]
  rfl

/-- A round on terms that do not cover `[a, b)` settles nothing, when there are more of them and
more are allowed. -/
lemma examine_of_not_covers (le : a ≤ b) (taken : c.take budget = .ok examined)
    (full : examined.length = budget)
    (room : budget < cfg.maxCoverTerms) (uncovered : ¬ CoversUpTo examined a b) :
    examine cfg a b c budget = .ok none := by
  have short := mt (firstUncovered_eq_iff le).1 uncovered
  rw [examine_eq taken, if_neg fun wrong => short wrong.1, verdict?, if_neg short, full,
    if_neg (lt_irrefl budget), if_neg (not_le.2 room)]
  rfl

/-- The search goes on to the first round that settles the matter. -/
lemma search_append {first rest : List Nat} {cert : Certificate}
    (unsettled : ∀ n ∈ first, examine cfg a b c n = .ok none)
    (settled : examine cfg a b c budget = .ok (some cert)) :
    search cfg a b c (first ++ budget :: rest) = .ok cert := by
  induction first with
  | nil =>
    rw [List.nil_append, search, settled]
    rfl
  | cons n first ih =>
    rw [List.cons_append, search, unsettled n List.mem_cons_self]
    exact ih fun m hm => unsettled m (List.mem_cons_of_mem _ hm)

/-- Fewer terms than it takes to cover `[a, b)` settle nothing. -/
lemma examine_of_lt_least (lt : a < b) (halfOpen : c.IsHalfOpen) {N : Nat}
    (least : IsLeast {n | c.Reaches a b n} N)
    (within : N ≤ cfg.maxCoverTerms) (fewer : n < N) : examine cfg a b c n = .ok none := by
  obtain ⟨examined, taken⟩ := halfOpen.exists_take n
  have uncovered : ¬ CoversUpTo examined a b :=
    fun covers => absurd (least.2 ⟨examined, taken, covers⟩) (not_le.2 fewer)
  refine examine_of_not_covers lt.le taken ?_ (fewer.trans_le within) uncovered
  -- a cover that had ended would cover `[a, b)` by these terms already
  by_contra short
  obtain ⟨finite, rfl⟩ :=
    Cover.finite_of_length_lt taken (lt_of_le_of_ne (Cover.length_le_of_take taken) short)
  obtain ⟨first, all, covers⟩ := least.1
  exact uncovered (covers.mono (Cover.subset_of_take finite all) le_rfl)

/-- The search ends with the first budget of as many terms as it takes to cover `[a, b)`. -/
lemma search_of_isLeast (lt : a < b) (halfOpen : c.IsHalfOpen) {N : Nat}
    (least : IsLeast {n | c.Reaches a b n} N)
    (within : N ≤ cfg.maxCoverTerms) (enough : .ofPositivePart (b - a) ≤ c.sum) :
    ∃ cert, search cfg a b c (budgets cfg.maxCoverTerms) = .ok cert ∧ cert.isCovered = true ∧
      cert.termsExamined = c.available (min (2 ^ Nat.clog 2 N) cfg.maxCoverTerms) := by
  obtain ⟨first, all, covers⟩ := least.1
  obtain ⟨examined, taken⟩ := halfOpen.exists_take (min (2 ^ Nat.clog 2 N) cfg.maxCoverTerms)
  have included :=
    halfOpen.isPrefix_take all taken (le_min (Nat.le_pow_clog Nat.one_lt_two N) within)
  obtain ⟨cert, settled, covered, count⟩ :=
    examine_of_covers lt.le enough taken (covers.mono included.subset le_rfl)
  refine ⟨cert, ?_, covered, count.trans (Cover.length_of_take taken)⟩
  obtain ⟨later, steps⟩ := Nat.exists_eq_add_of_le (Nat.clog_mono_right 2 within)
  obtain ⟨rest, split⟩ := exists_budgetsFrom_eq_cons cfg.maxCoverTerms (0 + Nat.clog 2 N) later
  rw [budgets_eq, steps, budgetsFrom_add, split, Nat.zero_add]
  refine search_append (fun n hn => ?_) settled
  obtain ⟨i, hi, rfl⟩ := List.mem_map.1 hn
  obtain ⟨-, small⟩ := List.mem_range'_1.1 hi
  rw [Nat.zero_add, Nat.lt_clog_iff_pow_lt Nat.one_lt_two] at small
  exact examine_of_lt_least lt halfOpen least within ((min_le_left _ _).trans_lt small)

lemma isLeast_pow_clog (N : Nat) : IsLeast {p | N ≤ p ∧ ∃ k, p = 2 ^ k} (2 ^ Nat.clog 2 N) := by
  refine ⟨⟨Nat.le_pow_clog Nat.one_lt_two N, _, rfl⟩, ?_⟩
  rintro p ⟨le, k, rfl⟩
  exact Nat.pow_le_pow_right Nat.two_pos ((Nat.clog_le_iff_le_pow Nat.one_lt_two).2 le)

/-- The search ends, and a cover of `N` terms is found at the first budget of at least `N`. -/
theorem certify_terminates (cfg : Config) (lt : a < b) (halfOpen : c.IsHalfOpen) :
    (∃ n ≤ Nat.clog 2 cfg.maxCoverTerms + 1, Rounds cfg a b c 1 n (certify cfg a b c)) ∧
    (∀ d : Cover, d.sum = c.sum → d.available cfg.maxCoverTerms = c.available cfg.maxCoverTerms →
      (∀ i < cfg.maxCoverTerms, d.term i = c.term i) → certify cfg a b d = certify cfg a b c) ∧
    ∀ N, IsLeast {n | c.Reaches a b n} N → N ≤ cfg.maxCoverTerms → .ofPositivePart (b - a) ≤ c.sum →
      ∃ cert power, certify cfg a b c = .ok cert ∧ cert.isCovered = true ∧
        IsLeast {p | N ≤ p ∧ ∃ k, p = 2 ^ k} power ∧
        cert.termsExamined = c.available (min power cfg.maxCoverTerms) := by
  refine ⟨?_, fun d sum count same => certify_congr sum count same, ?_⟩
  · rw [certify_of_lt lt, budgets_eq]
    have rounds :=
      search_rounds (a := a) (b := b) (c := c) (Nat.zero_add (Nat.clog 2 cfg.maxCoverTerms))
    rwa [pow_zero, min_eq_left cfg.maxCoverTerms_pos] at rounds
  · intro N least within enough
    obtain ⟨cert, found, covered, count⟩ := search_of_isLeast lt halfOpen least within enough
    rw [certify_of_lt lt]
    exact ⟨cert, _, found, covered, isLeast_pow_clog N, count⟩

/-- Five steps of length one cover `[0, 5)`. Only six terms are allowed, so that the last round does
not have eight. -/
theorem certify_terminates_unitSteps :
    let cfg : Config :=
      { Config.default with maxCoverTerms := 6, maxCoverTerms_pos := Nat.succ_pos 5 }
    let steps : Tail :=
      ⟨fun n => .ok (HalfOpen.mk n (n + 1)).toInterval, .infinite, none, "unit steps"⟩
    let c : Cover := ⟨[], some steps⟩
    (0 : Rat) < 5 ∧ c.IsHalfOpen ∧ IsLeast {n | c.Reaches 0 5 n} 5 ∧
      (∃ n ≤ Nat.clog 2 cfg.maxCoverTerms + 1, Rounds cfg 0 5 c 1 n (certify cfg 0 5 c)) ∧
      ∃ cert power, certify cfg 0 5 c = .ok cert ∧ cert.isCovered = true ∧
        IsLeast {p | 5 ≤ p ∧ ∃ k, p = 2 ^ k} power ∧
        cert.termsExamined = c.available (min power cfg.maxCoverTerms) := by
  intro cfg steps c
  have lt : (0 : Rat) < 5 := by decide
  have halfOpen : c.IsHalfOpen := by
    rintro tail ⟨⟩ n
    exact ⟨_, rfl⟩
  have taken (n : Nat) :
      c.take n = .ok ((List.range n).map fun i : Nat => HalfOpen.mk i (i + 1)) := by
    have read := Cover.take_of_endless (c := c) (f := fun i => ⟨i, i + 1⟩) rfl (fun _ => rfl) n
    rwa [List.take_nil, List.nil_append] at read
  have least : IsLeast {n | c.Reaches 0 5 n} 5 := by
    constructor
    · refine ⟨_, taken 5, fun y above below => ?_⟩
      have listed : ⌊y⌋₊ < 5 := (Nat.floor_lt above).2 below
      refine ⟨_, List.mem_map_of_mem (List.mem_range.2 listed), ?_⟩
      exact HalfOpen.mem_toInterval.2 ⟨Nat.floor_le above, Nat.lt_floor_add_one y⟩
    -- the point `n` lies behind the first `n` steps
    · rintro n ⟨first, read, covers⟩
      rw [taken] at read
      obtain rfl := Except.ok.inj read
      by_contra few
      obtain ⟨t, ht, inside⟩ := covers n (Nat.cast_nonneg n) (by exact_mod_cast not_le.1 few)
      obtain ⟨i, hi, rfl⟩ := List.mem_map.1 ht
      have behind : (n : Rat) < i + 1 := (HalfOpen.mem_toInterval.1 inside).2
      have index := List.mem_range.1 hi
      norm_cast at behind
      omega
  obtain ⟨rounds, -, count⟩ := certify_terminates cfg lt halfOpen
  exact ⟨lt, halfOpen, least, rounds, count 5 least (by decide) (ENNRat.le_infinite _)⟩

end Compactness
end LineMeasure
