import LineMeasure.RealSet.Normal

/-!
# Finite unions of intervals

The sets of the library: finite unions of intervals, held in normal form. They are closed under
union, intersection, complement, difference and shifting, and for each of these operations a lemma
says which numbers belong to the result.
-/

namespace LineMeasure

/-- A finite union of intervals, by its pieces from left to right. -/
structure RealSet where
  components : List Interval
  normal : RealSet.Normal components
  deriving DecidableEq

namespace RealSet

@[ext]
theorem ext_components {s t : RealSet} (h : s.components = t.components) : s = t := by
  cases s
  cases t
  simpa using h

/-- The members of a set are those of its pieces. -/
instance : Membership Rat RealSet :=
  ⟨fun s x => ∃ c ∈ s.components, x ∈ c⟩

theorem mem_iff {s : RealSet} {x : Rat} : x ∈ s ↔ ∃ c ∈ s.components, x ∈ c :=
  Iff.rfl

instance (s : RealSet) (x : Rat) : Decidable (x ∈ s) :=
  decidable_of_iff' _ mem_iff

/-- The union of a list of intervals. -/
def ofIntervals (cs : List Interval) : RealSet :=
  ⟨normalize cs, normalize_normal cs⟩

@[simp]
theorem mem_ofIntervals {cs : List Interval} {x : Rat} : x ∈ ofIntervals cs ↔ ∃ c ∈ cs, x ∈ c :=
  mem_normalize

theorem mem_ofIntervals_singleton {c : Interval} {x : Rat} : x ∈ ofIntervals [c] ↔ x ∈ c := by
  simp

/-- The empty set. -/
def empty : RealSet :=
  ⟨[], by simp, List.Pairwise.nil⟩

instance : EmptyCollection RealSet := ⟨empty⟩

@[simp]
theorem not_mem_empty (x : Rat) : ¬ x ∈ (∅ : RealSet) := by
  rintro ⟨c, hc, _⟩
  cases hc

/-- The whole line. -/
def line : RealSet :=
  ofIntervals [.line]

@[simp]
theorem mem_line (x : Rat) : x ∈ line := by
  simp [line, Interval.line, Interval.mem_iff]

/-- The set of finitely many points. -/
def ofPoints (ps : List Rat) : RealSet :=
  ofIntervals (ps.map .point)

/-- Whether the set has no pieces. -/
def isEmpty (s : RealSet) : Bool :=
  s.components.isEmpty

/-- Whether every piece is bounded. -/
def isBounded (s : RealSet) : Bool :=
  s.components.all (·.isBounded)

/-- The finite ends of an interval. -/
def endsOf (c : Interval) : List Rat :=
  (c.lower.map (·.point)).toList ++ (c.upper.map (·.point)).toList

/-- The finite ends of the pieces, in increasing order and each once. -/
def breakpoints (s : RealSet) : List Rat :=
  Rational.increasing (s.components.flatMap endsOf)

/-- The union of two sets. -/
instance : Union RealSet :=
  ⟨fun s t => ofIntervals (s.components ++ t.components)⟩

theorem mem_union {s t : RealSet} {x : Rat} : x ∈ s ∪ t ↔ x ∈ s ∨ x ∈ t := by
  change x ∈ ofIntervals (s.components ++ t.components) ↔ _
  rw [mem_ofIntervals]
  simp only [List.mem_append, mem_iff, or_and_right, exists_or]

/-- The union of a list of sets. -/
def unionOf (sets : List RealSet) : RealSet :=
  ofIntervals (sets.flatMap (·.components))

theorem mem_unionOf {sets : List RealSet} {x : Rat} : x ∈ unionOf sets ↔ ∃ s ∈ sets, x ∈ s := by
  rw [unionOf, mem_ofIntervals]
  simp only [List.mem_flatMap, mem_iff]
  grind

/-- The intersection of two sets: the intersections of their pieces, two by two. -/
instance : Inter RealSet :=
  ⟨fun s t => ofIntervals (s.components.flatMap fun c => t.components.map (c ∩ ·))⟩

theorem mem_inter {s t : RealSet} {x : Rat} : x ∈ s ∩ t ↔ x ∈ s ∧ x ∈ t := by
  change x ∈ ofIntervals (s.components.flatMap fun c => t.components.map (c ∩ ·)) ↔ _
  rw [mem_ofIntervals]
  simp only [List.mem_flatMap, List.mem_map, mem_iff]
  constructor
  · rintro ⟨i, ⟨c, hc, d, hd, rfl⟩, hx⟩
    obtain ⟨hxc, hxd⟩ := Interval.mem_inter.1 hx
    exact ⟨⟨c, hc, hxc⟩, d, hd, hxd⟩
  · rintro ⟨⟨c, hc, hxc⟩, d, hd, hxd⟩
    exact ⟨c ∩ d, ⟨c, hc, d, hd, rfl⟩, Interval.mem_inter.2 ⟨hxc, hxd⟩⟩

/-- The gaps that remain from a lower end on, beside pieces in order. -/
def gapsFrom (lower : Option Bound) : List Interval → List Interval
  | [] => [⟨lower, none⟩]
  | c :: cs =>
    let gap := c.lower.toList.map fun l => ⟨lower, some l.flip⟩
    match c.upper with
    | none => gap
    | some u => gap ++ gapsFrom (some u.flip) cs

/-- The complement of a set: the gaps before, between and after its pieces. -/
def complement (s : RealSet) : RealSet :=
  ofIntervals (gapsFrom none s.components)

/-- The members of the first set that are not members of the second. -/
instance : SDiff RealSet :=
  ⟨fun s t => s ∩ t.complement⟩

/-- Inclusion of sets. -/
instance : HasSubset RealSet :=
  ⟨fun s t => ∀ x ∈ s, x ∈ t⟩

/-- Whether the first set is included in the second: nothing is left of their difference. -/
def isSubset (s t : RealSet) : Bool :=
  (s \ t).isEmpty

/-- The set moved by `t`. -/
def shift (t : Rat) (s : RealSet) : RealSet :=
  ofIntervals (s.components.map (Interval.shift t))

theorem mem_shift {t x : Rat} {s : RealSet} : x ∈ s.shift t ↔ x - t ∈ s := by
  rw [shift, mem_ofIntervals]
  simp only [List.mem_map, mem_iff]
  grind [Interval.mem_shift]

/-- The text of a set: its pieces joined by the sign for union. -/
def text (s : RealSet) : String :=
  if s.isEmpty then "∅" else " ∪ ".intercalate (s.components.map Interval.text)

end RealSet
end LineMeasure
