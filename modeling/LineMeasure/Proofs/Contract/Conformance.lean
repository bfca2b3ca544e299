import LineMeasure.Error
import LineMeasure.Proofs.Rational.RoundTrip
import LineMeasure.Report
import Mathlib.Data.List.Forall2

/-!
# Documents keep their contracts

The texts of numbers have the forms that the contracts ask for: any rational number that of a
rational one, and any extended number that of an extended one, since it has no sign. An object has
the shape of a record when its fields are those of the record in their order, each of its own shape
(`Shape.accepts_record`). From this the documents of intervals, sets, covers and reports keep their
contracts, part by part.
-/

namespace LineMeasure

namespace TextForm
open Rational

lemma isNumeral_toDigits (n : Nat) : isNumeral (Nat.toDigits 10 n) = true := by
  have digits : (Nat.toDigits 10 n).all Char.isDigit = true :=
    List.all_eq_true.2 fun _ hc => Nat.isDigit_of_mem_toDigits (by decide) (by decide) hc
  rw [isNumeral, digits, List.isEmpty_eq_false_iff.2 Nat.toDigits_ne_nil]
  rfl

/-- The text of a number without its sign is a numeral, or two of them with a slash between. -/
lemma isQuotient_magnitudeText (q : Rat) : isQuotient (magnitudeText q) = true := by
  have no_slash (c : Char) (hc : c ∈ Nat.toDigits 10 q.num.natAbs) : (c == '/') = false :=
    beq_eq_false_of_mem_toDigits hc (by decide)
  by_cases whole : q.den = 1
  · rw [magnitudeText, if_pos whole, List.append_nil, isQuotient, cutAt_of_none no_slash]
    exact isNumeral_toDigits _
  · rw [magnitudeText, if_neg whole, isQuotient, cutAt_append no_slash (beq_self_eq_true '/')]
    simp only [isNumeral_toDigits, Bool.and_self]

/-- It begins with a digit, and so with no sign. -/
lemma magnitudeText_ne_minus (q : Rat) (cs : List Char) : magnitudeText q ≠ '-' :: cs := by
  intro eq
  obtain ⟨c, ds, digits⟩ :=
    List.exists_cons_of_ne_nil (Nat.toDigits_ne_nil (n := q.num.natAbs) (b := 10))
  have digit : c.isDigit = true := by
    apply Nat.isDigit_of_mem_toDigits (b := 10) (n := q.num.natAbs) (by decide) (by decide)
    rw [digits]
    exact List.mem_cons_self
  rw [magnitudeText, digits, List.cons_append] at eq
  exact ne_of_isDigit digit (by decide) (List.cons.inj eq).1

/-- A number that is not negative has no sign in its text. -/
lemma isQuotient_text {q : Rat} (nonneg : 0 ≤ q) : isQuotient (text q).toList = true := by
  have unsigned : ¬ q.num < 0 := Int.not_lt.2 (Rat.num_nonneg.2 nonneg)
  rw [toList_text, signText, if_neg unsigned]
  exact isQuotient_magnitudeText q

lemma accepts_of_acceptsLine {form : TextForm} {s : String} (h : form.acceptsLine s.toList = true) :
    form.accepts s = true := by
  rw [accepts, Text.fitsLine, h, Bool.true_or]

/-- The text of a number has the form of rational numbers. -/
lemma rational_accepts_text (q : Rat) : rational.accepts (text q) = true := by
  apply accepts_of_acceptsLine
  rw [toList_text, signText]
  split
  · exact isQuotient_magnitudeText q
  · rw [List.nil_append, acceptsLine]
    · exact isQuotient_magnitudeText q
    · exact magnitudeText_ne_minus q

lemma nonnegative_accepts_text {q : Rat} (nonneg : 0 ≤ q) : nonnegative.accepts (text q) = true :=
  accepts_of_acceptsLine (isQuotient_text nonneg)

lemma extended_accepts_text (v : ENNRat) : extended.accepts v.text = true := by
  cases v with
  -- the word for infinity is an alternative of its own
  | infinite => decide
  | finite q nonneg =>
    apply accepts_of_acceptsLine
    rw [acceptsLine, ENNRat.text, isQuotient_text nonneg, Bool.or_true]

end TextForm

namespace Shape

variable {shape items : Shape} {fields : List (String × Shape)} {found : List (String × Json)}
    {document : Json}

/-- A document has a shape when nothing is wrong with it. -/
lemma accepts_iff : shape.accepts document = true ↔ shape.violations document = [] :=
  List.isEmpty_iff

lemma accepts_truth (b : Bool) : truth.accepts (.bool b) = true := by
  rw [accepts_iff, violations]

lemma accepts_anyText (s : String) : (text none).accepts (.text s) = true := by
  rw [accepts_iff, violations]
  rfl

lemma accepts_text {form : TextForm} {s : String} (h : form.accepts s = true) :
    (text (some form)).accepts (.text s) = true := by
  rw [accepts_iff, violations, Option.filter_some, h]
  rfl

lemma accepts_count (n : Nat) : count.accepts (.int n) = true := by
  have nonneg : Json.isNegative (.int n) = false :=
    decide_eq_false (Int.not_lt.2 (Int.natCast_nonneg n))
  rw [accepts_iff, violations, nonneg]
  rfl

lemma accepts_list {documents : List Json} (h : ∀ d ∈ documents, items.accepts d = true) :
    (list items).accepts (.array documents) = true := by
  rw [accepts_iff, violations, List.flatten_eq_nil_iff]
  intro part hpart
  obtain ⟨i, hi, rfl⟩ := List.mem_mapIdx.1 hpart
  rw [accepts_iff.1 (h _ (List.getElem_mem hi))]
  rfl

lemma accepts_optional (h : shape.accepts document = true) :
    (optional shape).accepts document = true := by
  have fine : (shape.violations document).isEmpty = true := h
  rw [accepts_iff]
  by_cases absent : document = .null
  · rw [absent, violations]
  · rw [violations, if_pos fine]
    exact absent

lemma accepts_optional_null : (optional shape).accepts .null = true := by
  rw [accepts_iff, violations]

/-- A field that is there has the name and the shape that the record asks for. -/
def Keeps (f : String × Shape) (g : String × Json) : Prop :=
  f.1 = g.1 ∧ f.2.accepts g.2 = true

lemma names_of_keeps (keeps : List.Forall₂ Keeps fields found) :
    found.map (·.1) = fields.map (·.1) := by
  induction keeps with
  | nil => rfl
  | cons keep _ ih => rw [List.map_cons, List.map_cons, keep.1, ih]

/-- The fields of a record are found by their names, each with its shape. -/
lemma exists_field (distinct : (fields.map (·.1)).Nodup) (keeps : List.Forall₂ Keeps fields found) :
    ∀ f ∈ fields, ∃ value, Json.field? f.1 found = some value ∧ f.2.accepts value = true := by
  induction keeps with
  | nil => exact fun f hf => by cases hf
  | @cons f g fields found keep _ ih =>
    obtain ⟨name, first⟩ := g
    rw [List.map_cons, List.nodup_cons] at distinct
    rw [List.forall_mem_cons]
    refine ⟨⟨first, ?_, keep.2⟩, fun other hother => ?_⟩
    · rw [keep.1]
      exact List.lookup_cons_self
    -- the names differ, so that the first field does not hide the later ones
    · obtain ⟨value, there, accepted⟩ := ih distinct.2 other hother
      have differs : (other.1 == name) = false := by
        refine beq_false_of_ne fun same => distinct.1 ?_
        rw [keep.1, ← same]
        exact List.mem_map_of_mem hother
      refine ⟨value, ?_, accepted⟩
      rw [Json.field?, List.lookup_cons, differs]
      exact there

/-- Nothing is wrong with fields that are found with their shapes. -/
lemma fieldViolations_eq_nil
    (h : ∀ f ∈ fields, ∃ value, Json.field? f.1 found = some value ∧ f.2.accepts value = true) :
    fieldViolations fields found = [] := by
  induction fields with
  | nil => rw [fieldViolations]
  | cons f fields ih =>
    obtain ⟨⟨value, there, accepted⟩, rest⟩ := List.forall_mem_cons.1 h
    rw [fieldViolations, ih rest, List.append_nil, there]
    simp only [accepts_iff.1 accepted, List.map_nil]

/-- An object with the fields of a record, in their order and each of its shape, has the shape of
the record. -/
lemma accepts_record (closed : Bool) (distinct : (fields.map (·.1)).Nodup)
    (keeps : List.Forall₂ Keeps fields found) :
    (record fields closed).accepts (.object found) = true := by
  have there := exists_field distinct keeps
  have nothing_missing :
      (fields.map (·.1)).filter (fun name => !Json.hasField name found) = [] := by
    rw [List.filter_eq_nil_iff]
    rintro name hname
    obtain ⟨f, hf, rfl⟩ := List.mem_map.1 hname
    obtain ⟨value, present, -⟩ := there f hf
    have has : Json.hasField f.1 found = true := Option.isSome_iff_exists.2 ⟨value, present⟩
    rw [has]
    exact Bool.false_ne_true
  have nothing_extra : (found.map (·.1)).filter (fun name => !fields.any (·.1 == name)) = [] := by
    rw [names_of_keeps keeps, List.filter_eq_nil_iff]
    rintro name hname
    obtain ⟨f, hf, rfl⟩ := List.mem_map.1 hname
    have known : fields.any (·.1 == f.1) = true := List.any_eq_true.2 ⟨f, hf, beq_self_eq_true f.1⟩
    rw [known]
    exact Bool.false_ne_true
  -- an open record would not look at the extra fields
  rw [accepts_iff, violations, nothing_missing, nothing_extra, fieldViolations_eq_nil there]
  cases closed <;> rfl

end Shape

namespace Contract
open Shape

lemma conform_of_accepts {c : Contract} {document : Json} (h : c.shape.accepts document = true) :
    c.conform document = .ok document := by
  rw [conform, violations, accepts_iff.1 h]

lemma accepts_rational (q : Rat) : rationalShape.accepts (.text (Rational.text q)) = true :=
  accepts_text (TextForm.rational_accepts_text q)

lemma accepts_extended (v : ENNRat) : extendedShape.accepts (.text v.text) = true :=
  accepts_text (TextForm.extended_accepts_text v)

lemma accepts_end (e : Option Bound) :
    (optional rationalShape).accepts (Interval.endToJson e) = true := by
  cases e with
  | none => exact accepts_optional_null
  | some b => exact accepts_optional (accepts_rational b.point)

/-- The document of an interval has its fields. -/
lemma accepts_interval (i : Interval) : (record intervalFields true).accepts i.toJson = true :=
  accepts_record true (by decide)
    (.cons ⟨rfl, accepts_end i.lower⟩ (.cons ⟨rfl, accepts_end i.upper⟩
      (.cons ⟨rfl, accepts_truth i.leftClosed⟩ (.cons ⟨rfl, accepts_truth i.rightClosed⟩ .nil))))

/-- The document of a set lists intervals. -/
lemma accepts_set (closed : Bool) (s : RealSet) :
    (record componentFields closed).accepts s.toJson = true := by
  have pieces :
      ∀ d ∈ s.components.map Interval.toJson, (record intervalFields true).accepts d = true :=
    List.forall_mem_map.2 fun i _ => accepts_interval i
  exact accepts_record closed (by decide) (.cons ⟨rfl, accepts_list pieces⟩ .nil)

lemma accepts_term (t : HalfOpen) : termShape.accepts (Cover.termToJson t) = true :=
  accepts_record true (by decide)
    (.cons ⟨rfl, accepts_rational t.left⟩ (.cons ⟨rfl, accepts_rational t.right⟩ .nil))

lemma accepts_tail (tail : Option Tail) :
    (optional tailShape).accepts (tail.elim .null Cover.tailToJson) = true := by
  cases tail with
  | none => exact accepts_optional_null
  | some tail =>
    exact accepts_optional (accepts_record true (by decide)
      (.cons ⟨rfl, accepts_extended tail.total⟩
        (.cons ⟨rfl, accepts_anyText tail.description⟩ .nil)))

/-- The document of a cover lists its terms and describes its tail. -/
lemma accepts_cover (c : Cover) : cover.shape.accepts c.toJson = true := by
  have terms : ∀ d ∈ c.terms.map Cover.termToJson, termShape.accepts d = true :=
    List.forall_mem_map.2 fun t _ => accepts_term t
  exact accepts_record true (by decide)
    (.cons ⟨rfl, accepts_list terms⟩ (.cons ⟨rfl, accepts_tail c.tail⟩ .nil))

/-- A certificate is written with its interval, its verdict and how far the terms reach. -/
lemma accepts_certificate (cert : Certificate) : certificateShape.accepts cert.toJson = true :=
  accepts_record true (by decide)
    (.cons ⟨rfl, accepts_rational cert.a⟩ (.cons ⟨rfl, accepts_rational cert.b⟩
      (.cons ⟨rfl, accepts_truth cert.isCovered⟩ (.cons ⟨rfl, accepts_rational cert.reach⟩
        (.cons ⟨rfl, accepts_count cert.termsExamined⟩ .nil)))))

/-- The document of a report keeps its contract when the excess is not negative. -/
lemma accepts_report {r : Report} (nonneg : 0 ≤ r.witnessEps) :
    measureReport.shape.accepts r.toJson = true := by
  have certificates :
      ∀ d ∈ r.certificates.map Certificate.toJson, certificateShape.accepts d = true :=
    List.forall_mem_map.2 fun cert _ => accepts_certificate cert
  have excess :
      (Shape.text (some .nonnegative)).accepts (.text (Rational.text r.witnessEps)) = true :=
    accepts_text (TextForm.nonnegative_accepts_text nonneg)
  exact accepts_record true (by decide)
    (.cons ⟨rfl, accepts_set false r.set⟩
      (.cons ⟨rfl, accepts_extended r.value⟩ (.cons ⟨rfl, excess⟩
      (.cons ⟨rfl, accepts_extended r.witnessTotal⟩ (.cons ⟨rfl, accepts_list certificates⟩
        (.cons ⟨rfl, accepts_anyText r.details⟩ .nil))))))

end Contract
end LineMeasure
