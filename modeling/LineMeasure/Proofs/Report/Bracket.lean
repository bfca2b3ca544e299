import LineMeasure.Proofs.Compactness.Budget
import LineMeasure.Proofs.Cover.CanonicalTerms
import LineMeasure.Proofs.OuterMeasure.Value
import LineMeasure.Report
import Mathlib.Data.List.Forall2

/-!
# Reports bracket the outer measure

The upper witness of a report is the sum of a canonical cover, which is above the outer measure by
less than the excess. The lower witnesses are certificates for the pieces of positive width. The
canonical cover has a term for each bounded piece that includes it, whatever the other terms add
(`coversUpTo_canonical`), so that no certificate finds a gap (`Certificate.Sound.answersFor`). The
details begin with `PASS` exactly when all these pieces are covered; and when all these terms are
allowed, every piece is found covered and the lengths add up to the outer measure.
-/

namespace LineMeasure
open Compactness

/-- An interval has two ends exactly when it is bounded. -/
lemma Interval.ends?_eq_some {c : Interval} {t : HalfOpen} :
    c.ends? = some t ↔ ∃ l u, c = ⟨some l, some u⟩ ∧ t = ⟨l.point, u.point⟩ := by
  obtain ⟨_ | l, _ | u⟩ := c <;> simp [ends?, eq_comm]

namespace RealSet

/-- The bounded pieces of positive width, each from its left to its right end. -/
def widePieces (s : RealSet) : List HalfOpen :=
  (s.components.filterMap Interval.ends?).filter fun t => t.left < t.right

variable {s : RealSet} {t : HalfOpen}

lemma mem_widePieces : t ∈ s.widePieces ↔
    (∃ c ∈ s.components, c.ends? = some t) ∧ t.left < t.right := by
  rw [widePieces, List.mem_filter, List.mem_filterMap, decide_eq_true_eq]

lemma le_of_ends {c : Interval} (hc : c ∈ s.components) (ends : c.ends? = some t) :
    t.left ≤ t.right := by
  obtain ⟨l, u, rfl, rfl⟩ := Interval.ends?_eq_some.1 ends
  exact Interval.le_of_nonempty (s.normal.nonempty _ hc)

/-- Ends in order without a distance add nothing to a sum of distances. -/
lemma sum_filter_wide {ts : List HalfOpen} (ordered : ∀ t ∈ ts, t.left ≤ t.right) :
    ((ts.filter fun t => t.left < t.right).map fun t => t.right - t.left).sum =
      (ts.map fun t => t.right - t.left).sum := by
  induction ts with
  | nil => rfl
  | cons t ts ih =>
    have rest := ih fun u hu => ordered u (List.mem_cons_of_mem _ hu)
    by_cases wide : t.left < t.right
    · rw [List.filter_cons_of_pos (by simpa using wide), List.map_cons, List.sum_cons, rest,
        List.map_cons, List.sum_cons]
    · have point : t.right = t.left := le_antisymm (not_lt.1 wide) (ordered t List.mem_cons_self)
      rw [List.filter_cons_of_neg (by simpa using wide), rest, List.map_cons, List.sum_cons, point,
        sub_self, zero_add]

/-- The other bounded pieces are points, which have no width. -/
lemma sum_widePieces (s : RealSet) :
    (s.widePieces.map fun t => t.right - t.left).sum = s.totalWidth := by
  apply sum_filter_wide
  intro t ht
  obtain ⟨c, hc, ends⟩ := List.mem_filterMap.1 ht
  exact le_of_ends hc ends

end RealSet

namespace Cover

variable {s : RealSet} {eps : Rat} {t : HalfOpen}

/-- A piece becomes half-open exactly when it is bounded. -/
lemma isHalfOpen_padded (eps : Rat) (index : Nat) (c : Interval) :
    (padded eps index c).isHalfOpen = c.isBounded := by
  rw [padded_eq]
  obtain ⟨_ | l, _ | u⟩ := c <;> rfl

/-- Of the pieces from an index on, the bounded ones become half-open. -/
lemma countP_padded (eps : Rat) (index : Nat) (cs : List Interval) :
    (cs.mapIdx fun i => padded eps (index + i)).countP Interval.isHalfOpen =
      cs.countP Interval.isBounded := by
  induction cs generalizing index with
  | nil => rfl
  | cons c cs ih =>
    rw [List.mapIdx_cons, index_succ, List.countP_cons, ih, isHalfOpen_padded, List.countP_cons]

/-- The canonical cover has a term for each bounded piece. -/
lemma length_terms_canonical (s : RealSet) (eps : Rat) :
    (canonical s eps).terms.length = s.components.countP Interval.isBounded := by
  have bounded := countP_padded eps 0 s.components
  simp only [Nat.zero_add] at bounded
  rw [← bounded]
  exact List.length_filterMap_eq_countP

/-- The term for a bounded piece begins with the piece and ends behind it. -/
lemma coversUpTo_canonical (nonneg : 0 ≤ eps) {c : Interval} (hc : c ∈ s.components)
    (ends : c.ends? = some t) :
    CoversUpTo (canonical s eps).terms t.left t.right := by
  obtain ⟨i, hi, rfl⟩ := List.mem_iff_getElem.1 hc
  obtain ⟨l, u, piece, rfl⟩ := Interval.ends?_eq_some.1 ends
  have pad := mul_nonneg nonneg (padShare_nonneg i s.components[i])
  have term :
      (⟨l.point, u.point + eps * padShare i s.components[i]⟩ : HalfOpen) ∈
        (canonical s eps).terms := by
    refine mem_terms_canonical.2 (List.mem_mapIdx.2 ⟨i, hi, ?_⟩)
    rw [padded_eq, piece]
    rfl
  intro y above below
  exact ⟨_, term, HalfOpen.mem_toInterval.2 ⟨above, below.trans_le (le_add_of_nonneg_right pad)⟩⟩

/-- The canonical cover declares enough for any interval: it is finite or has an infinite sum. -/
lemma canonical_declares (s : RealSet) (eps w : Rat) :
    (canonical s eps).tail = none ∨ .ofPositivePart w ≤ (canonical s eps).sum := by
  cases h : s.isBounded with
  | true => exact .inl (canonical_of_bounded eps h).2
  | false =>
    rw [sum_canonical_of_unbounded h]
    exact .inr (ENNRat.le_infinite _)

/-- The sum of the canonical cover is above the extent of the set by less than the excess. -/
lemma sum_canonical_brackets (s : RealSet) (positive : 0 < eps) :
    s.extent ≤ (canonical s eps).sum ∧
      (s.extent ≠ .infinite → (canonical s eps).sum < s.extent + .finite eps positive.le) := by
  rw [sum_canonical s positive.le]
  refine ⟨le_add_of_nonneg_right (ENNRat.nonneg _), fun finite => ?_⟩
  have share : 0 ≤ eps * padShares 0 s.components :=
    mul_nonneg positive.le (padShares_nonneg 0 s.components)
  cases h : s.extent with
  | infinite => exact absurd h finite
  | finite width nonneg =>
    rw [ENNRat.ofPositivePart_of_nonneg share, ENNRat.finite_add_finite, ENNRat.finite_add_finite,
      ENNRat.finite_lt_finite]
    exact add_lt_add_right (mul_padShares_lt positive s.components) width

end Cover

/-- The certificate for a piece: it is covered in full length, or the terms have run out, and no gap
was found. -/
structure Certificate.AnswersFor (t : HalfOpen) (cert : Certificate) : Prop where
  start : cert.a = t.left
  stop : cert.b = t.right
  verdict :
    cert.isCovered = true ∧ cert.isExhausted = false ∧ cert.certifiedLength = t.right - t.left ∨
    cert.isCovered = false ∧ cert.isExhausted = true
  gapWitness : cert.gapWitness = none

namespace Certificate

/-- The empty interval at zero needs no term. -/
instance : Inhabited Certificate := ⟨⟨0, 0, .vacuous, 0, 0, 0, 0⟩⟩

variable {cfg : Config} {t : HalfOpen} {c : Cover} {examined : List HalfOpen} {cert : Certificate}

lemma gapWitness_of_covered (covered : cert.isCovered = true) : cert.gapWitness = none := by
  rw [gapWitness, if_neg]
  intro gap
  rw [isCovered, gap] at covered
  cases covered

/-- No gap is found in an interval that the terms of the cover include. -/
lemma Sound.answersFor (sound : cert.Sound cfg t.left t.right c examined)
    (covers : CoversUpTo c.terms t.left t.right) : cert.AnswersFor t := by
  cases exhausted : cert.isExhausted with
  | true =>
    obtain ⟨uncovered, -, gapless⟩ := sound.of_exhausted exhausted
    exact ⟨sound.start, sound.stop, .inr ⟨uncovered, exhausted⟩, gapless⟩
  | false =>
    have covered : cert.isCovered = true := by
      by_contra uncovered
      obtain ⟨-, rfl, -⟩ := sound.of_gap (Bool.eq_false_of_not_eq_true uncovered) exhausted
      exact uncovered (sound.isCovered_iff_covers.2 covers)
    have full : cert.certifiedLength = t.right - t.left := by
      rw [sound.certifiedLength_eq, sound.isCovered_iff.1 covered]
    exact ⟨sound.start, sound.stop, .inl ⟨covered, exhausted, full⟩, gapWitness_of_covered covered⟩

/-- What the terms of the list include is covered when all of them are allowed. -/
lemma Sound.isCovered_of_few (sound : cert.Sound cfg t.left t.right c examined)
    (halfOpen : c.IsHalfOpen)
    (covers : CoversUpTo c.terms t.left t.right) (few : c.terms.length ≤ cfg.maxCoverTerms) :
    cert.isCovered = true := by
  obtain ⟨allowed, taken⟩ := halfOpen.exists_take cfg.maxCoverTerms
  have listed := halfOpen.isPrefix_take halfOpen.take_length_terms taken few
  exact (sound.isCovered_iff_allowed halfOpen taken).2 (covers.mono listed.subset le_rfl)

/-- Certificates that answer for pieces, all of them covered, certify the widths of the pieces. -/
lemma certifiedLengths_of_covered {ts : List HalfOpen} {certificates : List Certificate}
    (answers : List.Forall₂ AnswersFor ts certificates)
    (covered : ∀ cert ∈ certificates, cert.isCovered = true) :
    certificates.map certifiedLength = ts.map fun t => t.right - t.left := by
  induction answers with
  | nil => rfl
  | cons answer _ ih =>
    rw [List.forall_mem_cons] at covered
    rw [List.map_cons, List.map_cons, ih covered.2]
    rcases answer.verdict with ⟨-, -, full⟩ | ⟨uncovered, -⟩
    · rw [full]
    · exact absurd covered.1 (Bool.eq_false_iff.1 uncovered)

end Certificate

namespace Report
open Cover

variable {cfg : Config} {s : RealSet}

/-- The witness of a report on `s` has a certificate for every piece of positive width. -/
lemma exists_certificate (cfg : Config) {t : HalfOpen} (ht : t ∈ s.widePieces) :
    ∃ cert, certify cfg t.left t.right (canonical s cfg.reportEps) = .ok cert ∧ cert.AnswersFor t ∧
      (s.components.countP Interval.isBounded ≤ cfg.maxCoverTerms → cert.isCovered = true) := by
  obtain ⟨⟨c, hc, ends⟩, lt⟩ := RealSet.mem_widePieces.1 ht
  have halfOpen := isHalfOpen_canonical s cfg.reportEps
  obtain ⟨cert, examined, found, sound⟩ :=
    exists_sound_certificate cfg lt halfOpen (canonical_declares s cfg.reportEps (t.right - t.left))
  have covers := coversUpTo_canonical cfg.reportEps_pos.le hc ends
  refine ⟨cert, found, sound.answersFor covers, fun few => ?_⟩
  rw [← length_terms_canonical s cfg.reportEps] at few
  exact sound.isCovered_of_few halfOpen covers few

/-- A report holds the extent of the set, the sum of the witness and certificates of the pieces. -/
lemma of_eq_ok {certificates : List Certificate}
    (certified :
      s.widePieces.mapM (fun t => certify cfg t.left t.right (canonical s cfg.reportEps)) =
        .ok certificates) :
    Report.of cfg s =
      .ok ⟨s, s.extent, cfg.reportEps, (canonical s cfg.reportEps).sum, certificates⟩ := by
  rw [Report.of, outerMeasure_eq_extent]
  exact congrArg (fun result : Except Error (List Certificate) =>
    (Report.mk s s.extent cfg.reportEps (canonical s cfg.reportEps).sum) <$> result) certified

/-- The report of every set is made, with a certificate for each piece of positive width. -/
lemma exists_report (cfg : Config) (s : RealSet) :
    ∃ certificates,
      Report.of cfg s =
        .ok ⟨s, s.extent, cfg.reportEps, (canonical s cfg.reportEps).sum, certificates⟩ ∧
      List.Forall₂ Certificate.AnswersFor s.widePieces certificates ∧
      (s.components.countP Interval.isBounded ≤ cfg.maxCoverTerms →
        ∀ cert ∈ certificates, cert.isCovered = true) := by
  choose! g found answers covered using fun t (ht : t ∈ s.widePieces) => exists_certificate cfg ht
  refine ⟨s.widePieces.map g, of_eq_ok (mapM_eq_ok found), ?_, fun few => ?_⟩
  · exact List.forall₂_map_right_iff.2 (List.forall₂_same.2 answers)
  · exact List.forall_mem_map.2 fun t ht => covered t ht few

/-- A report begins with `PASS` exactly when all its certificates are for covered pieces. -/
lemma details_startsWith_pass {r : Report} :
    (∃ rest, r.details = "PASS" ++ rest) ↔ ∀ cert ∈ r.certificates, cert.isCovered = true := by
  rw [details, ← List.all_eq_true]
  cases r.certificates.all (·.isCovered) with
  | true =>
    have split : "PASS: " = "PASS" ++ ": " := by decide
    simp only [if_true, String.append_assoc, split]
    exact iff_of_true ⟨_, rfl⟩ trivial
  | false =>
    refine iff_of_false ?_ Bool.false_ne_true
    rintro ⟨rest, eq⟩
    have letters := congrArg String.toList eq
    simp at letters

/-- The report of every set is made, and its witnesses bracket the outer measure. -/
theorem of_brackets (cfg : Config) (s : RealSet) :
    ∃ r, Report.of cfg s = .ok r ∧ r.set = s ∧ outerMeasure cfg s = .ok r.value ∧
      r.value ≤ r.witnessTotal ∧
      (r.value ≠ .infinite →
        r.witnessTotal < r.value + .finite cfg.reportEps cfg.reportEps_pos.le) ∧
      List.Forall₂ Certificate.AnswersFor s.widePieces r.certificates ∧
      ((∃ rest, r.details = "PASS" ++ rest) ↔ ∀ cert ∈ r.certificates, cert.isCovered = true) ∧
      (s.components.countP Interval.isBounded ≤ cfg.maxCoverTerms →
        (∀ cert ∈ r.certificates, cert.isCovered = true) ∧ (∃ rest, r.details = "PASS" ++ rest) ∧
          (s.isBounded = true → ∃ nonneg,
            r.value = .finite (r.certificates.map Certificate.certifiedLength).sum nonneg)) := by
  obtain ⟨certificates, made, answers, covered⟩ := exists_report cfg s
  obtain ⟨below, above⟩ := sum_canonical_brackets s cfg.reportEps_pos
  refine ⟨_, made, rfl, outerMeasure_eq_extent cfg s, below, above, answers,
    details_startsWith_pass, fun few => ?_⟩
  refine ⟨covered few, details_startsWith_pass.2 (covered few), fun bounded => ?_⟩
  rw [Certificate.certifiedLengths_of_covered answers (covered few), RealSet.sum_widePieces]
  exact RealSet.extent_of_bounded bounded

/-- The pad of the closed piece reaches over the point and into the last piece; still both pieces
are covered. -/
theorem of_brackets_overlappingPads :
    let s := RealSet.ofIntervals
      [⟨some ⟨0, true⟩, some ⟨1, true⟩⟩, .point (10001 / 10000),
        ⟨some ⟨10002 / 10000, false⟩, some ⟨2, true⟩⟩]
    ∃ r, Report.of .default s = .ok r ∧ outerMeasure .default s = .ok r.value ∧
      (∀ cert ∈ r.certificates, cert.isCovered = true) ∧ (∃ rest, r.details = "PASS" ++ rest) ∧
      ∃ nonneg, r.value = .finite (r.certificates.map Certificate.certifiedLength).sum nonneg := by
  intro s
  have bounded : s.isBounded = true := by cbv
  have few : s.components.countP Interval.isBounded ≤ Config.default.maxCoverTerms := by
    refine List.countP_le_length.trans ?_
    cbv
  obtain ⟨r, made, -, value, -, -, -, -, report⟩ := of_brackets .default s
  obtain ⟨covered, pass, lengths⟩ := report few
  exact ⟨r, made, value, covered, pass, lengths bounded⟩

end Report
end LineMeasure
