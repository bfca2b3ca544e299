import LineMeasure.Given.Set
import LineMeasure.Proofs.Contract.Conformance
import LineMeasure.Proofs.Record.RoundTrip
import LineMeasure.Proofs.Report.Bracket

/-!
# What is written is read back

Intervals, sets, rational numbers and extended numbers are read back from what is written of them,
and the terms of a cover, as intervals `[left, right)` in their order, and the total of its tail
from its document. No document that the library writes breaks its contract, and every set has a
report.
-/

namespace LineMeasure

namespace Json

/-- The field of a name, when the document is an object that has it. -/
def get? (name : String) : Json → Option Json
  | object fields => field? name fields
  | _ => none

end Json

namespace Value

/-- The text of a number is read as the number, under any name. -/
lemma real_text (name : String) (q : Rat) : (Value.text (Rational.text q)).real name = .ok q := by
  rw [real, toRat, Rational.ofText?_text]
  rfl

end Value

namespace ENNRat

/-- The text of a finite number is not the word for infinity. -/
lemma text_ne_inf (q : Rat) : Rational.text q ≠ "inf" := by
  intro eq
  have unread : Rational.ofText? "inf" = none := by decide +kernel
  rw [← eq, Rational.ofText?_text] at unread
  cases unread

/-- An extended number is read back from its text. -/
lemma ofText_text (v : ENNRat) : ofText v.text = .ok v := by
  cases v with
  | infinite => exact if_pos rfl
  | finite q nonneg =>
    rw [ofText, text, if_neg (text_ne_inf q), Value.real_text]
    have read : Value.extendedOfRat q = .ok (finite q nonneg) := by
      rw [Value.extendedOfRat, ofRat?, dif_pos nonneg]
    change (Value.extendedOfRat q).mapError _ = _
    rw [read]
    rfl

end ENNRat

namespace Cover

/-- The interval that an entry of a list of terms describes by its ends. -/
def readTerm? (entry : Json) : Option Interval := do
  let left ← entry.get? "left"
  let right ← entry.get? "right"
  (Given.interval (.ico (.ofJson left) (.ofJson right))).toOption

/-- The terms that the document of a cover lists. -/
def readTerms? (document : Json) : Option (List Interval) := do
  match ← document.get? "terms" with
  | .array entries => entries.mapM readTerm?
  | _ => none

/-- The total that the document of a cover declares for its tail, if there is a tail. -/
def readTotal? (document : Json) : Option (Option ENNRat) := do
  match ← document.get? "tail" with
  | .null => return none
  | tail =>
    match ← tail.get? "total" with
    | .text s => some <$> (ENNRat.ofText s).toOption
    | _ => none

/-- A term is read back from its entry. -/
lemma readTerm?_termToJson (t : HalfOpen) : readTerm? (termToJson t) = some t.toInterval := by
  -- the two ends make up the record of the term
  have read :
      (IntervalRecord.ico (.text (Rational.text t.left))
        (.text (Rational.text t.right))).toInterval = .ok t.toInterval :=
    t.toInterval.ofJson_toJson .document
  have left : (termToJson t).get? "left" = some (.text (Rational.text t.left)) := rfl
  have right : (termToJson t).get? "right" = some (.text (Rational.text t.right)) := rfl
  simp only [readTerm?, left, right, Option.bind_eq_bind, Option.bind_some, Value.ofJson,
    Given.interval, read]
  rfl

/-- The terms of a cover are read back in order. -/
lemma readTerms?_toJson (c : Cover) :
    readTerms? c.toJson = some (c.terms.map HalfOpen.toInterval) := by
  have reads : readTerm? ∘ termToJson = fun t => pure t.toInterval := funext readTerm?_termToJson
  change (c.terms.map termToJson).mapM readTerm? = _
  rw [List.mapM_map, reads, List.mapM_pure]
  rfl

/-- The total of the tail of a cover is read back. -/
lemma readTotal?_toJson (c : Cover) : readTotal? c.toJson = some (c.tail.map Tail.total) := by
  obtain ⟨terms, _ | tail⟩ := c
  · rfl
  · change some <$> (ENNRat.ofText tail.total.text).toOption = _
    rw [ENNRat.ofText_text]
    rfl

end Cover

/-- Documents keep their contracts, and what was written is read back from them. -/
theorem documents_lossless :
    (∀ (origin : Origin) (i : Interval), Interval.ofJson origin i.toJson = .ok i ∧
      Contract.interval.conform i.toJson = .ok i.toJson) ∧
    (∀ (origin : Origin) (s : RealSet), RealSet.ofJson origin s.toJson = .ok s ∧
      Contract.realSet.conform s.toJson = .ok s.toJson) ∧
    (∀ (name : String) (q : Rat), (Value.text (Rational.text q)).real name = .ok q) ∧
    (∀ v : ENNRat, ENNRat.ofText v.text = .ok v) ∧
    (∀ c : Cover, Contract.cover.conform c.toJson = .ok c.toJson ∧
      Cover.readTerms? c.toJson = some (c.terms.map HalfOpen.toInterval) ∧
      Cover.readTotal? c.toJson = some (c.tail.map Tail.total)) ∧
    ∀ (cfg : Config) (s : RealSet), ∃ r, Report.of cfg s = .ok r ∧
      Contract.measureReport.conform r.toJson = .ok r.toJson := by
  refine ⟨fun origin i => ⟨i.ofJson_toJson origin, ?_⟩,
    fun origin s => ⟨s.ofJson_toJson origin, ?_⟩, Value.real_text, ENNRat.ofText_text,
    fun c => ⟨?_, c.readTerms?_toJson, c.readTotal?_toJson⟩, fun cfg s => ?_⟩
  · exact Contract.conform_of_accepts (Contract.accepts_interval i)
  · exact Contract.conform_of_accepts (Contract.accepts_set true s)
  · exact Contract.conform_of_accepts (Contract.accepts_cover c)
  · obtain ⟨certificates, made, -⟩ := Report.exists_report cfg s
    exact ⟨_, made, Contract.conform_of_accepts (Contract.accepts_report cfg.reportEps_pos.le)⟩

end LineMeasure
