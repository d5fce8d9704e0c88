import Mathlib.Data.List.Induction
import TestExclusions.Proofs.Registry.Agreement

/-! Which test a registry refuses. A test may come back in another definition of its suite, with other
suites in between; it is the first one to come back that is refused, and the place it is held against
is the very first one of that test. -/
namespace TestExclusions

/-- Both exclusions are of the same test of the same suite. -/
def Exclusion.SameTest (a b : Exclusion) : Prop := a.suite = b.suite ∧ a.testId = b.testId

instance (a b : Exclusion) : Decidable (a.SameTest b) := inferInstanceAs (Decidable (_ ∧ _))

namespace Registry

/-- No suite excludes a test twice. -/
def Distinct (exclusions : List Exclusion) : Prop :=
  ∀ suite, ((exclusions.filter (·.suite = suite)).map (·.testId)).Nodup

/-- The exclusion at `position` is the earliest one of a list whose test stands in front of it, and
the one at `origin` is the very first one of that test. -/
structure FirstRepeat (exclusions : List Exclusion) (origin position : Nat)
    (first second : Exclusion) : Prop where
  atOrigin : exclusions[origin]? = some first
  atPosition : exclusions[position]? = some second
  before : origin < position
  same : first.SameTest second
  earliest : ∀ i j a b, i < j → j < position → exclusions[i]? = some a →
    exclusions[j]? = some b → ¬a.SameTest b
  veryFirst : ∀ i a, i < origin → exclusions[i]? = some a → ¬a.SameTest second

/-! ## Lists of exclusions -/

theorem distinct_iff_pairwise {exclusions : List Exclusion} :
    Distinct exclusions ↔ exclusions.Pairwise fun a b => ¬a.SameTest b := by
  induction exclusions with
  | nil => simp [Distinct]
  | cons exclusion rest ih =>
    rw [List.pairwise_cons, ← ih]
    have hcons : ∀ suite, (((exclusion :: rest).filter (·.suite = suite)).map (·.testId)).Nodup ↔
        (exclusion.suite = suite → ∀ e ∈ rest, e.suite = suite → e.testId ≠ exclusion.testId) ∧
          ((rest.filter (·.suite = suite)).map (·.testId)).Nodup := by
      intro suite
      by_cases hsuite : exclusion.suite = suite
      · simp [hsuite]
      · simp [hsuite]
    simp only [Distinct, hcons]
    constructor
    · intro h
      refine ⟨fun e he hsame => ?_, fun suite => (h suite).2⟩
      exact (h exclusion.suite).1 rfl e he hsame.1.symm hsame.2.symm
    · intro h suite
      refine ⟨fun hsuite e he hname htest => h.1 e he ⟨?_, htest.symm⟩, h.2 suite⟩
      rw [hsuite, hname]

/-- A list that repeats a test does so first at one exclusion, in front of which no test is repeated. -/
theorem exists_first_repeat {exclusions : List Exclusion} (h : ¬Distinct exclusions) :
    ∃ before second after first, exclusions = before ++ second :: after ∧ Distinct before ∧
      before.find? (·.SameTest second) = some first := by
  induction exclusions using List.reverseRecOn with
  | nil => exact absurd (by simp [Distinct]) h
  | append_singleton rest last ih =>
    by_cases hrest : Distinct rest
    · refine ⟨rest, last, [], ?_⟩
      suffices hfound : (rest.find? (·.SameTest last)).isSome by
        obtain ⟨first, hfirst⟩ := Option.isSome_iff_exists.mp hfound
        exact ⟨first, rfl, hrest, hfirst⟩
      by_contra hnone
      apply h
      rw [distinct_iff_pairwise, List.pairwise_append]
      refine ⟨distinct_iff_pairwise.mp hrest, List.pairwise_singleton _ _, fun a ha b hb => ?_⟩
      rw [List.mem_singleton.mp hb]
      simp only [List.find?_isSome, decide_eq_true_eq, not_exists, not_and] at hnone
      exact hnone a ha
    · obtain ⟨before, second, after, first, heq, hbefore, hfirst⟩ := ih hrest
      exact ⟨before, second, after ++ [last], first, by simp [heq], hbefore, hfirst⟩

theorem firstRepeat_of_find? {before : List Exclusion} {first second : Exclusion}
    (hdistinct : Distinct before) (hfirst : before.find? (·.SameTest second) = some first)
    (after : List Exclusion) :
    ∃ origin, FirstRepeat (before ++ second :: after) origin before.length first second := by
  obtain ⟨hsame, front, back, hsplit, hfront⟩ := List.find?_eq_some_iff_append.mp hfirst
  have hlength : front.length < before.length := by
    rw [hsplit, List.length_append, List.length_cons]
    omega
  have hget : ∀ i, i < before.length → (before ++ second :: after)[i]? = before[i]? :=
    fun i hi => List.getElem?_append_left hi
  have hfront' : ∀ i, i < front.length → before[i]? = front[i]? := by
    intro i hi
    rw [hsplit, List.getElem?_append_left hi]
  refine ⟨front.length, ?_, by simp, hlength, by simpa using hsame, ?_, ?_⟩
  · rw [hget _ hlength, hsplit]
    simp
  · intro i j a b hij hj ha hb
    rw [hget _ (by omega)] at ha
    rw [hget _ hj] at hb
    obtain ⟨hi, rfl⟩ := List.getElem?_eq_some_iff.mp ha
    obtain ⟨hj, rfl⟩ := List.getElem?_eq_some_iff.mp hb
    exact List.pairwise_iff_getElem.mp (distinct_iff_pairwise.mp hdistinct) i j hi hj hij
  · intro i a hi ha
    rw [hget _ (by omega), hfront' i hi] at ha
    simpa using hfront a (List.mem_of_getElem? ha)

/-! ## Refusals -/

/-- The suite of the refused test holds what stands in front of it, in order, so that the place found
there is the first one. -/
theorem ofExclusions_of_find? {before after : List Exclusion} {first second : Exclusion}
    (hdistinct : Distinct before) (hfirst : before.find? (·.SameTest second) = some first) :
    ofExclusions (before ++ second :: after) =
      .error (.duplicateTest second.suite second.testId first.location second.location) := by
  obtain ⟨registry, hbefore⟩ := (declareAll_isOk_iff wellFormed_empty).mpr hdistinct
  have hgrown := grown_of_declareAll wellFormed_empty hbefore
  have hheld : registry.exclusionsOf second.suite = before.filter (·.suite = second.suite) :=
    hgrown.exclusionsOf second.suite
  have hfound : (registry.exclusionsOf second.suite).find? (·.testId = second.testId) =
      some first := by
    rw [hheld, List.find?_filter, ← hfirst]
    congr 1
    funext exclusion
    rw [Bool.eq_iff_iff]
    simp only [decide_eq_true_eq]
    exact Iff.rfl
  have hrefused := declare_eq hgrown.wellFormed second
  rw [hfound] at hrefused
  rw [ofExclusions, declareAll_append, hbefore]
  change registry.declareAll (second :: after) = _
  rw [declareAll, hrefused]

theorem ofExclusions_of_not_distinct {exclusions : List Exclusion} (h : ¬Distinct exclusions) :
    ∃ origin position first second, FirstRepeat exclusions origin position first second ∧
      ofExclusions exclusions =
        .error (.duplicateTest second.suite second.testId first.location second.location) := by
  obtain ⟨before, second, after, first, rfl, hdistinct, hfirst⟩ := exists_first_repeat h
  obtain ⟨origin, hrepeat⟩ := firstRepeat_of_find? hdistinct hfirst after
  exact ⟨origin, before.length, first, second, hrepeat, ofExclusions_of_find? hdistinct hfirst⟩

/-- Definitions are refused as their exclusions are. -/
theorem ofDefinitions_of_ofExclusions_error {definitions : List Definition} {e : LoadError}
    (h : ofExclusions (definitions.flatMap (·.exclusions)) = .error e) :
    ofDefinitions definitions = .error e := by
  have hend := endAlike_defineAll alike_empty definitions
  rw [← ofDefinitions, ← ofExclusions, h] at hend
  generalize ofDefinitions definitions = built at hend
  cases hend
  rfl

theorem distinct_flatMap_iff {definitions : List Definition} :
    Distinct (definitions.flatMap (·.exclusions)) ↔
      ∀ suite, ((recordsOf definitions suite).map (·.testId)).Nodup := by
  refine forall_congr' fun suite => ?_
  rw [← map_testId_declaredFor, ← declared_eq_declaredFor, declared]

/-- If a suite has a test twice, the earliest exclusion whose test came before is refused, with its
own place and that of the very first exclusion of its test. It does not matter whether the exclusions
come one by one or in definitions. -/
theorem first_repeat_is_refused :
    (∀ exclusions : List Exclusion,
      (∃ suite, ¬((exclusions.filter (·.suite = suite)).map (·.testId)).Nodup) →
        ∃ origin position first second, FirstRepeat exclusions origin position first second ∧
          ofExclusions exclusions =
            .error (.duplicateTest second.suite second.testId first.location second.location)) ∧
    ∀ definitions : List Definition,
      (∃ suite, ¬((recordsOf definitions suite).map (·.testId)).Nodup) →
        ∃ origin position first second,
          FirstRepeat (definitions.flatMap (·.exclusions)) origin position first second ∧
          ofDefinitions definitions =
            .error (.duplicateTest second.suite second.testId first.location second.location) := by
  constructor
  · intro exclusions h
    exact ofExclusions_of_not_distinct (not_forall.mpr h)
  · intro definitions h
    rw [← not_forall, ← distinct_flatMap_iff] at h
    obtain ⟨origin, position, first, second, hrepeat, herror⟩ := ofExclusions_of_not_distinct h
    exact ⟨origin, position, first, second, hrepeat, ofDefinitions_of_ofExclusions_error herror⟩

/-- Definitions of two suites in turns. Both have the test `t`; the test `u` comes back before it. -/
def interleavedDefinitions : List Definition :=
  [⟨"A", "a.rb", [⟨"t", "x", some 1⟩, ⟨"u", "y", some 3⟩]⟩, ⟨"B", "b.rb", [⟨"t", "x", some 1⟩]⟩,
    ⟨"A", "c.toml", [⟨"v", "x", none⟩, ⟨"u", "z", none⟩, ⟨"t", "z", none⟩, ⟨"u", "w", none⟩]⟩]

/-- The place found for a test is in another unit, behind records of another suite. -/
theorem first_repeat_is_refused_interleaved :
    (¬((recordsOf interleavedDefinitions "A").map (·.testId)).Nodup ∧
      ∃ origin position first second,
        FirstRepeat (interleavedDefinitions.flatMap (·.exclusions)) origin position first second ∧
        ofDefinitions interleavedDefinitions =
          .error (.duplicateTest second.suite second.testId first.location second.location)) ∧
    (¬(((interleavedDefinitions.flatMap (·.exclusions)).filter (·.suite = "A")).map
        (·.testId)).Nodup ∧
      ∃ origin position first second,
        FirstRepeat (interleavedDefinitions.flatMap (·.exclusions)) origin position first second ∧
        ofExclusions (interleavedDefinitions.flatMap (·.exclusions)) =
          .error (.duplicateTest second.suite second.testId first.location second.location)) ∧
    ofDefinitions interleavedDefinitions =
      .error (.duplicateTest "A" "u" ⟨"a.rb", some 3⟩ ⟨"c.toml", none⟩) := by
  have hrecords : ¬((recordsOf interleavedDefinitions "A").map (·.testId)).Nodup := by decide
  have hexclusions : ¬(((interleavedDefinitions.flatMap (·.exclusions)).filter
      (·.suite = "A")).map (·.testId)).Nodup := by decide
  exact ⟨⟨hrecords, first_repeat_is_refused.2 _ ⟨"A", hrecords⟩⟩,
    ⟨hexclusions, first_repeat_is_refused.1 _ ⟨"A", hexclusions⟩⟩, by decide +kernel⟩

end Registry
end TestExclusions
