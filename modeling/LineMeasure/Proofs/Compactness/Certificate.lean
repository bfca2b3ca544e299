import LineMeasure.Compactness.Certificate
import LineMeasure.Proofs.Compactness.CoveredLength
import LineMeasure.Proofs.Cover.Terms

/-!
# What a certificate shows

One round of the search for a certificate gives a certificate that is sound, finds that the cover
declares too small a sum, or leaves the matter open below the last budget (`examine_cases`). The
last budget leaves nothing open, so that the whole search ends with a sound certificate or with that
error (`search_cases`). A finite cover has the sum of its terms, so that it ends with a certificate.
-/

namespace LineMeasure
open Compactness

/-- What a certificate for `[a, b)` shows about the terms of the cover that have been examined. -/
structure Certificate.Sound (cfg : Config) (a b : Rat) (c : Cover) (examined : List HalfOpen)
    (cert : Certificate) :
    Prop where
  start : cert.a = a
  stop : cert.b = b
  total : cert.coverTotal = c.sum
  taken : c.take cert.termsExamined = .ok examined
  length_examined : examined.length = cert.termsExamined
  termsExamined_le : cert.termsExamined ≤ cfg.maxCoverTerms
  le_reach : a ≤ cert.reach
  reach_le : cert.reach ≤ b
  covers : CoversUpTo examined a cert.reach
  uncovered : cert.reach < b → ∀ t ∈ examined, ¬ cert.reach ∈ t.toInterval
  certifiedLength_eq : cert.certifiedLength = cert.reach - a
  coveredLength_eq : cert.coveredLength = cert.reach - a
  isCovered_iff : cert.isCovered = true ↔ cert.reach = b
  le_total : cert.isCovered = true → cert.lowerBound ≤ cert.coverTotal
  of_exhausted : cert.isExhausted = true →
    cert.isCovered = false ∧ cert.termsExamined = cfg.maxCoverTerms ∧ cert.gapWitness = none
  of_gap : cert.isCovered = false → cert.isExhausted = false →
    c.tail = none ∧ examined = c.terms ∧ cert.termsExamined < cfg.maxCoverTerms ∧
      cert.gapWitness = some cert.reach

/-- The tail of a cover declares too small a sum: first terms in a number that is allowed cover
`[a, b)`, but the sum of the cover is below `b - a`. -/
structure Cover.Underdeclares (cfg : Config) (a b : Rat) (c : Cover) : Prop where
  endless : c.tail ≠ none
  sum_lt : c.sum < .ofPositivePart (b - a)
  covers : ∃ n ≤ cfg.maxCoverTerms, ∃ examined, c.take n = .ok examined ∧ CoversUpTo examined a b

namespace Compactness

/-- The verdict tells why the matter is settled. -/
lemma verdict?_eq_some {limit budget examined : Nat} {reach b : Rat} {verdict : Verdict}
    (settled : verdict? limit budget examined reach b = some verdict) :
    verdict = .covered ∧ reach = b ∨ verdict = .gap ∧ reach ≠ b ∧ examined < budget ∨
      verdict = .exhausted limit ∧ reach ≠ b ∧ limit ≤ examined := by
  unfold verdict? at settled
  split_ifs at settled with reached ended full
  · exact .inl ⟨(Option.some.inj settled).symm, reached⟩
  · exact .inr (.inl ⟨(Option.some.inj settled).symm, reached, ended⟩)
  · exact .inr (.inr ⟨(Option.some.inj settled).symm, reached, full⟩)

/-- The matter is left open while there are more terms and more of them are allowed. -/
lemma verdict?_eq_none {limit budget examined : Nat} {reach b : Rat}
    (unsettled : verdict? limit budget examined reach b = none) :
    budget ≤ examined ∧ examined < limit := by
  unfold verdict? at unsettled
  split_ifs at unsettled with reached ended full
  exact ⟨not_lt.1 ended, not_le.1 full⟩

variable {cfg : Config} {a b : Rat} {c : Cover} {examined : List HalfOpen} {budget : Nat}

/-- The terms never stop inside one of themselves, so that only the sum can be wrong. -/
lemma fault?_firstUncovered (a b : Rat) (total : ENNRat) (examined : List HalfOpen) :
    fault? a b (firstUncovered a b examined) total examined =
      if firstUncovered a b examined = b ∧
        total < .ofPositivePart (b - a) then some (.belowLength total)
      else none := by
  unfold fault?
  by_cases reached : firstUncovered a b examined = b
  · simp only [reached, if_true, true_and]
  · have below := lt_of_le_of_ne (firstUncovered_le a b examined) reached
    have outside : examined.find? (firstUncovered a b examined ∈ ·.toInterval) = none := by
      rw [List.find?_eq_none]
      intro t ht
      rw [decide_eq_true_eq]
      exact firstUncovered_not_mem below t ht
    rw [if_neg reached, if_neg fun h => reached h.1, outside]
    rfl

/-- A round examines the first terms, checks the sum if they cover `[a, b)`, and gives a verdict. -/
lemma examine_eq (taken : c.take budget = .ok examined) :
    examine cfg a b c budget =
      if firstUncovered a b examined = b ∧ c.sum < .ofPositivePart (b - a) then
        .error (.compactness ⟨a, b⟩ (.belowLength c.sum))
      else
        .ok ((verdict? cfg.maxCoverTerms budget examined.length (firstUncovered a b examined) b).map
          fun verdict => ⟨a, b, verdict, firstUncovered a b examined,
            coveredLength examined (firstUncovered a b examined) (some a), c.sum,
            examined.length⟩) := by
  rw [examine, taken]
  simp only [bind, Except.bind, fault?_firstUncovered]
  split_ifs <;> rfl

/-- A verdict on terms that are not too long for the sum makes a sound certificate. -/
lemma sound_of_verdict (le : a ≤ b) (taken : c.take budget = .ok examined)
    (within : budget ≤ cfg.maxCoverTerms)
    (enough : firstUncovered a b examined = b → .ofPositivePart (b - a) ≤ c.sum) {verdict : Verdict}
    (settled :
      verdict? cfg.maxCoverTerms budget examined.length (firstUncovered a b examined) b =
        some verdict) :
    Certificate.Sound cfg a b c examined ⟨a, b, verdict, firstUncovered a b examined,
      coveredLength examined (firstUncovered a b examined) (some a), c.sum, examined.length⟩ := by
  have outcome := verdict?_eq_some settled
  exact {
    start := rfl
    stop := rfl
    total := rfl
    taken := Cover.take_length taken
    length_examined := rfl
    termsExamined_le := (Cover.length_le_of_take taken).trans within
    le_reach := le_firstUncovered le examined
    reach_le := firstUncovered_le a b examined
    covers := covers_firstUncovered
    uncovered := firstUncovered_not_mem
    certifiedLength_eq := rfl
    coveredLength_eq :=
      coveredLength_of_covers (le_firstUncovered le examined) covers_firstUncovered
    isCovered_iff := by
      rcases outcome with ⟨rfl, reached⟩ | ⟨rfl, short, -⟩ | ⟨rfl, short, -⟩
      · exact iff_of_true rfl reached
      · exact iff_of_false Bool.false_ne_true short
      · exact iff_of_false Bool.false_ne_true short
    le_total := by
      rcases outcome with ⟨rfl, reached⟩ | ⟨rfl, -⟩ | ⟨rfl, -⟩ <;> intro covered
      · rw [Certificate.lowerBound, Certificate.certifiedLength, reached]
        exact enough reached
      · cases covered
      · cases covered
    of_exhausted := by
      rcases outcome with ⟨rfl, -⟩ | ⟨rfl, -⟩ | ⟨rfl, -, full⟩ <;> intro exhausted
      · cases exhausted
      · cases exhausted
      · exact ⟨rfl, le_antisymm ((Cover.length_le_of_take taken).trans within) full, rfl⟩
    of_gap := by
      rcases outcome with ⟨rfl, -⟩ | ⟨rfl, -, ended⟩ | ⟨rfl, -⟩ <;> intro uncovered unexhausted
      · cases uncovered
      -- fewer terms than were asked for: the cover has ended
      · obtain ⟨finite, all⟩ := Cover.finite_of_length_lt taken ended
        exact ⟨finite, all, lt_of_lt_of_le ended within, rfl⟩
      · cases unexhausted }

/-- The terms of a finite cover that cover `[a, b)` are together at least as long. -/
lemma le_sum_of_finite (finite : c.tail = none) (covers : CoversUpTo c.terms a b) :
    .ofPositivePart (b - a) ≤ c.sum := by
  rw [Cover.sum_eq_total, Cover.total, Cover.withTail, finite]
  exact covers.le_sum_lengths

/-- When terms that were read cover `[a, b)` and the sum is too small, the tail has declared it. -/
lemma underdeclares (taken : c.take budget = .ok examined) (within : budget ≤ cfg.maxCoverTerms)
    (covers : CoversUpTo examined a b) (small : c.sum < .ofPositivePart (b - a)) :
    c.Underdeclares cfg a b := by
  refine ⟨fun finite => ?_, small, budget, within, examined, taken, covers⟩
  have long := le_sum_of_finite finite (covers.mono (Cover.subset_of_take finite taken) le_rfl)
  exact ENNRat.not_lt.2 long small

/-- One round: a sound certificate, or the tail has declared too small a sum, or nothing is settled
below the last budget. -/
lemma examine_cases (lt : a < b) (halfOpen : c.IsHalfOpen) (within : budget ≤ cfg.maxCoverTerms) :
    (∃ cert examined, examine cfg a b c budget = .ok (some cert) ∧ cert.Sound cfg a b c examined) ∨
      examine cfg a b c budget = .error (.compactness ⟨a, b⟩ (.belowLength c.sum)) ∧
        c.Underdeclares cfg a b ∨
      examine cfg a b c budget = .ok none ∧ budget < cfg.maxCoverTerms := by
  obtain ⟨examined, taken⟩ := halfOpen.exists_take budget
  rw [examine_eq taken]
  split_ifs with wrong
  · have covers := (firstUncovered_eq_iff lt.le).1 wrong.1
    exact .inr (.inl ⟨rfl, underdeclares taken within covers wrong.2⟩)
  · cases settled :
      verdict? cfg.maxCoverTerms budget examined.length (firstUncovered a b examined) b with
    | none =>
      obtain ⟨full, room⟩ := verdict?_eq_none settled
      exact .inr (.inr ⟨rfl, lt_of_le_of_lt full room⟩)
    | some verdict =>
      have enough : firstUncovered a b examined = b → .ofPositivePart (b - a) ≤ c.sum :=
        fun reached => ENNRat.not_lt.1 fun small => wrong ⟨reached, small⟩
      exact .inl ⟨_, examined, rfl, sound_of_verdict lt.le taken within enough settled⟩

/-- The whole search: a sound certificate, or the tail has declared too small a sum. -/
lemma search_cases (lt : a < b) (halfOpen : c.IsHalfOpen) {budgets : List Nat}
    (last : cfg.maxCoverTerms ∈ budgets) (within : ∀ n ∈ budgets, n ≤ cfg.maxCoverTerms) :
    (∃ cert examined, search cfg a b c budgets = .ok cert ∧ cert.Sound cfg a b c examined) ∨
      search cfg a b c budgets = .error (.compactness ⟨a, b⟩ (.belowLength c.sum)) ∧
        c.Underdeclares cfg a b := by
  induction budgets with
  | nil => cases last
  | cons budget rest ih =>
    have allowed := within budget List.mem_cons_self
    rw [search]
    rcases examine_cases lt halfOpen allowed with ⟨cert, examined, found, sound⟩ | ⟨wrong, under⟩ |
      ⟨unsettled, below⟩
    · rw [found]
      exact .inl ⟨cert, examined, rfl, sound⟩
    · rw [wrong]
      exact .inr ⟨rfl, under⟩
    -- the last budget settles the matter, so that it is still to come
    · rw [unsettled]
      have later : cfg.maxCoverTerms ∈ rest := (List.mem_cons.1 last).resolve_left below.ne'
      exact ih later fun n hn => within n (List.mem_cons_of_mem _ hn)

/-- The last number of terms that is tried is the largest one allowed. -/
lemma mem_budgets (limit : Nat) : limit ∈ budgets limit :=
  List.mem_append_right _ (List.mem_singleton_self limit)

lemma le_of_mem_budgets {limit n : Nat} (h : n ∈ budgets limit) : n ≤ limit := by
  rcases List.mem_append.1 h with smaller | last
  · have below := (List.mem_filter.1 smaller).2
    exact (of_decide_eq_true below).le
  · exact (List.mem_singleton.1 last).le

/-- For an interval that is not empty the certificate is searched for. -/
lemma certify_of_lt (lt : a < b) :
    certify cfg a b c = search cfg a b c (budgets cfg.maxCoverTerms) :=
  if_neg (not_le.2 lt)

/-- A cover with half-open terms has a certificate, which is sound, unless its tail has declared too
small a sum; that is the only error, and a finite cover has no tail. -/
theorem certify_sound (cfg : Config) (lt : a < b) (halfOpen : c.IsHalfOpen) :
    (∃ cert examined, certify cfg a b c = .ok cert ∧ cert.Sound cfg a b c examined) ∨
      certify cfg a b c = .error (.compactness ⟨a, b⟩ (.belowLength c.sum)) ∧
        c.Underdeclares cfg a b := by
  rw [certify_of_lt lt]
  exact search_cases lt halfOpen (mem_budgets cfg.maxCoverTerms) fun n => le_of_mem_budgets

/-- The certificate of an endless cover with terms in no order, one of them reversed. -/
theorem certify_sound_unsorted :
    let steps : Tail :=
      ⟨fun n => .ok (HalfOpen.mk (n + 1) (n + 2)).toInterval, .infinite, none, "unit steps"⟩
    let c : Cover := ⟨[⟨3, 5⟩, ⟨2, 1⟩, ⟨-1, 1⟩], some steps⟩
    (0 : Rat) < 4 ∧ c.IsHalfOpen ∧
      ((∃ cert examined, certify .default 0 4 c = .ok cert ∧ cert.Sound .default 0 4 c examined) ∨
        certify .default 0 4 c = .error (.compactness ⟨0, 4⟩ (.belowLength c.sum)) ∧
          c.Underdeclares .default 0 4) := by
  intro steps c
  have halfOpen : c.IsHalfOpen := by
    rintro tail ⟨⟩ n
    exact ⟨_, rfl⟩
  have lt : (0 : Rat) < 4 := by decide
  exact ⟨lt, halfOpen, certify_sound .default lt halfOpen⟩

end Compactness
end LineMeasure
