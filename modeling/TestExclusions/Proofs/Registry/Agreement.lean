import TestExclusions.Proofs.Outcome
import TestExclusions.Proofs.Registry.Answers

/-! Ways to build a registry and to check what goes into it. Definitions, and the exclusions that
they amount to, make registries that answer alike or fail with the same error; the check of one
definition is what a registry of that definition alone would say. -/
namespace TestExclusions
namespace Registry

/-! ## One declaration -/

/-- A declaration fails if its test stands among the exclusions of its suite, with the place of the
one found there. -/
theorem declare_eq {registry : Registry} (h : registry.WellFormed) (exclusion : Exclusion) :
    registry.declare exclusion =
      match (registry.exclusionsOf exclusion.suite).find? (·.testId = exclusion.testId) with
      | some first => .error
          (.duplicateTest exclusion.suite exclusion.testId first.location exclusion.location)
      | none => .ok ⟨put ((registry.entry exclusion.suite).push exclusion) registry.suites,
          registry.total + 1⟩ := by
  rw [declare, Suite.declare, (h.entry exclusion.suite).find?_eq, exclusions_entry, name_entry]
  cases (registry.exclusionsOf exclusion.suite).find? (·.testId = exclusion.testId) <;> rfl

theorem declareAll_append (registry : Registry) (before after : List Exclusion) :
    registry.declareAll (before ++ after) =
      (registry.declareAll before).bind (·.declareAll after) := by
  induction before generalizing registry with
  | nil => rfl
  | cons exclusion rest ih =>
    simp only [List.cons_append, declareAll]
    split
    · exact ih _
    · rfl

/-! ## Registries that answer alike -/

/-- Both registries hold the same exclusions for every suite. Their suites without exclusions may
differ. -/
structure Alike (a b : Registry) : Prop where
  left : a.WellFormed
  right : b.WellFormed
  exclusionsOf : ∀ suite, a.exclusionsOf suite = b.exclusionsOf suite

/-- Two attempts end alike: with the same error, or with registries that answer alike. -/
inductive EndAlike : Except LoadError Registry → Except LoadError Registry → Prop where
  | fail (e : LoadError) : EndAlike (.error e) (.error e)
  | succeed {a b : Registry} (h : Alike a b) : EndAlike (.ok a) (.ok b)

theorem alike_empty : Alike empty empty := ⟨wellFormed_empty, wellFormed_empty, fun _ => rfl⟩

section Alike
variable {a b : Registry} (h : Alike a b)
include h

theorem Alike.register (suite : String) : Alike (a.register suite) b :=
  ⟨wellFormed_register h.left suite, h.right, fun other => by
    rw [exclusionsOf_register h.left, h.exclusionsOf]⟩

theorem endAlike_declare (exclusion : Exclusion) :
    EndAlike (a.declare exclusion) (b.declare exclusion) := by
  have ha := declare_eq h.left exclusion
  have hb := declare_eq h.right exclusion
  rw [h.exclusionsOf] at ha
  cases hfound : (b.exclusionsOf exclusion.suite).find? (·.testId = exclusion.testId) with
  | some first =>
    rw [hfound] at ha hb
    rw [ha, hb]
    exact .fail _
  | none =>
    rw [hfound] at ha hb
    have halike := fun suite => (exclusionsOf_of_declare h.left ha suite).trans
      ((congrArg (· ++ _) (h.exclusionsOf suite)).trans
        (exclusionsOf_of_declare h.right hb suite).symm)
    rw [ha, hb]
    exact .succeed ⟨wellFormed_of_declare h.left ha, wellFormed_of_declare h.right hb, halike⟩

theorem endAlike_declareAll (exclusions : List Exclusion) :
    EndAlike (a.declareAll exclusions) (b.declareAll exclusions) := by
  induction exclusions generalizing a b with
  | nil => exact .succeed h
  | cons exclusion rest ih =>
    have hfirst := endAlike_declare h exclusion
    simp only [declareAll]
    generalize a.declare exclusion = x, b.declare exclusion = y at hfirst
    cases hfirst with
    | fail e => exact .fail e
    | succeed hnext => exact ih hnext

/-- Making suites known on the way changes nothing in how definitions end. -/
theorem endAlike_defineAll (definitions : List Definition) :
    EndAlike (a.defineAll definitions) (b.declareAll (definitions.flatMap (·.exclusions))) := by
  induction definitions generalizing a b with
  | nil => exact .succeed h
  | cons definition rest ih =>
    have hfirst := endAlike_declareAll (h.register definition.suite) definition.exclusions
    rw [List.flatMap_cons, declareAll_append]
    simp only [defineAll]
    generalize (a.register definition.suite).declareAll definition.exclusions = x,
      b.declareAll definition.exclusions = y at hfirst
    cases hfirst with
    | fail e => exact .fail e
    | succeed hnext => exact ih hnext

theorem Alike.find?_eq (suite testId : String) : a.find? suite testId = b.find? suite testId := by
  rw [h.left.find?_eq, h.right.find?_eq, h.exclusionsOf]

/-- The suites that have exclusions are the same, in the same order. -/
theorem Alike.occupied_eq : a.suiteNames.filter (fun suite => a.exclusionsOf suite ≠ []) =
    b.suiteNames.filter fun suite => b.exclusionsOf suite ≠ [] := by
  have hincreasing : ∀ {r : Registry}, r.WellFormed →
      Sorted.Increasing id (r.suiteNames.filter fun suite => r.exclusionsOf suite ≠ []) :=
    fun hr => (List.pairwise_map.mpr hr.ordered).filter _
  have hknown : ∀ (r : Registry) (suite : String), r.exclusionsOf suite ≠ [] →
      suite ∈ r.suiteNames := by
    intro r suite hne
    rw [← containsSuite_iff_mem, containsSuite_iff]
    rw [exclusionsOf_eq] at hne
    cases hfound : r.suite? suite with
    | some known => rfl
    | none => simp [hfound] at hne
  refine (hincreasing h.left).ext (hincreasing h.right) fun suite => ?_
  simp only [List.mem_filter, decide_eq_true_eq]
  constructor
  · rintro ⟨-, hne⟩
    rw [h.exclusionsOf] at hne
    exact ⟨hknown b suite hne, hne⟩
  · rintro ⟨-, hne⟩
    rw [← h.exclusionsOf] at hne
    exact ⟨hknown a suite hne, hne⟩

omit h in
/-- Suites without exclusions add nothing to the list of all exclusions. -/
theorem exclusions_eq_occupied {registry : Registry} (h : registry.WellFormed) :
    registry.exclusions = (registry.suiteNames.filter fun suite =>
      registry.exclusionsOf suite ≠ []).flatMap registry.exclusionsOf := by
  rw [exclusions_eq_flatMap h]
  induction registry.suiteNames with
  | nil => rfl
  | cons suite rest ih =>
    by_cases hne : registry.exclusionsOf suite = []
    · simp [hne, ih]
    · simp [hne, ih]

theorem Alike.exclusions_eq : a.exclusions = b.exclusions := by
  rw [exclusions_eq_occupied h.left, exclusions_eq_occupied h.right, h.occupied_eq,
    funext h.exclusionsOf]

end Alike

/-! ## Definitions and flat lists -/

/-- What building a registry from definitions has in common with building one from their exclusions:
the error that a suite declares a test twice, or all answers but whether a suite without records is
known. -/
inductive Agreement (definitions : List Definition) :
    Except LoadError Registry → Except LoadError Registry → Prop where
  | fail (suite testId : String) (first second : Location) : Agreement definitions
      (.error (.duplicateTest suite testId first second))
      (.error (.duplicateTest suite testId first second))
  | succeed (registry flat : Registry)
      (size : flat.size = registry.size)
      (exclusions : flat.exclusions = registry.exclusions)
      (reason? : ∀ suite testId, flat.reason? suite testId = registry.reason? suite testId)
      (location? : ∀ suite testId, flat.location? suite testId = registry.location? suite testId)
      (reasonsOf : ∀ suite, flat.reasonsOf suite = registry.reasonsOf suite)
      (suiteNames : flat.suiteNames = registry.suiteNames.filter fun suite =>
        ¬∀ definition ∈ definitions, definition.suite = suite → definition.records = []) :
      Agreement definitions (.ok registry) (.ok flat)

theorem declareAll_eq_error {registry : Registry} (h : registry.WellFormed)
    {exclusions : List Exclusion} {e : LoadError}
    (herror : registry.declareAll exclusions = .error e) :
    ∃ suite testId first second, e = .duplicateTest suite testId first second := by
  induction exclusions generalizing registry with
  | nil => cases herror
  | cons exclusion rest ih =>
    simp only [declareAll] at herror
    split at herror
    · rename_i next hnext
      exact ih (wellFormed_of_declare h hnext) herror
    · rename_i e' hfirst
      cases herror
      rw [declare_eq h] at hfirst
      split at hfirst
      · cases hfirst
        exact ⟨_, _, _, _, rfl⟩
      · cases hfirst

/-- A registry of exclusions knows only suites that have some. -/
theorem suiteNames_of_ofExclusions {exclusions : List Exclusion} {flat : Registry}
    (h : ofExclusions exclusions = .ok flat) :
    flat.suiteNames = flat.suiteNames.filter fun suite => flat.exclusionsOf suite ≠ [] := by
  have hgrown := grown_of_declareAll wellFormed_empty h
  refine (List.filter_eq_self.mpr fun suite hsuite => ?_).symm
  rw [← containsSuite_iff_mem, hgrown.containsSuite] at hsuite
  obtain ⟨exclusion, hexclusion, hname⟩ := hsuite.resolve_left Bool.false_ne_true
  rw [decide_eq_true_eq, hgrown.exclusionsOf]
  exact List.ne_nil_of_mem (List.mem_append_right _ (List.mem_filter.mpr
    ⟨hexclusion, decide_eq_true hname⟩))

theorem declaredFor_eq_nil_iff {definitions : List Definition} {suite : String} :
    declaredFor definitions suite = [] ↔
      ∀ definition ∈ definitions, definition.suite = suite → definition.records = [] := by
  simp [declaredFor, Definition.exclusions]

theorem agreement_ofDefinitions (definitions : List Definition) : Agreement definitions
    (ofDefinitions definitions) (ofExclusions (definitions.flatMap (·.exclusions))) := by
  have hend := endAlike_defineAll alike_empty definitions
  rw [← ofDefinitions, ← ofExclusions] at hend
  cases hdefinitions : ofDefinitions definitions with
  | error e =>
    cases hflat : ofExclusions (definitions.flatMap (·.exclusions)) with
    | ok flat => rw [hdefinitions, hflat] at hend; cases hend
    | error e' =>
      rw [hdefinitions, hflat] at hend
      cases hend
      obtain ⟨suite, testId, first, second, rfl⟩ := declareAll_eq_error wellFormed_empty hflat
      exact .fail suite testId first second
  | ok registry =>
    cases hflat : ofExclusions (definitions.flatMap (·.exclusions)) with
    | error e => rw [hdefinitions, hflat] at hend; cases hend
    | ok flat =>
      rw [hdefinitions, hflat] at hend
      cases hend with
      | succeed halike =>
        refine .succeed registry flat ?_ halike.exclusions_eq.symm ?_ ?_ ?_ ?_
        · rw [size, size, halike.left.total, halike.right.total, halike.exclusions_eq]
        · intro suite testId
          rw [reason?, reason?, halike.find?_eq]
        · intro suite testId
          rw [location?, location?, halike.find?_eq]
        · intro suite
          rw [reasonsOf, reasonsOf, halike.exclusionsOf]
        · rw [suiteNames_of_ofExclusions hflat, ← halike.occupied_eq]
          simp only [exclusionsOf_of_ofDefinitions hdefinitions, ne_eq, declaredFor_eq_nil_iff]

/-! ## The check of one definition -/

theorem find?_exclusions (definition : Definition) (testId : String) :
    definition.exclusions.find? (·.testId = testId) =
      (definition.records.find? (·.testId = testId)).map fun record =>
        ⟨definition.suite, record.testId, record.reason, ⟨definition.unit, record.line⟩⟩ := by
  rw [Definition.exclusions, List.find?_map]
  rfl

/-- Checking records against those seen goes like adding them to a registry whose suite holds the
ones seen. -/
theorem checkFrom_eq {registry : Registry} (h : registry.WellFormed) {definition : Definition}
    {seen rest : List Record}
    (hseen : registry.exclusionsOf definition.suite =
      { definition with records := seen }.exclusions) :
    definition.checkFrom seen rest =
      (registry.declareAll { definition with records := rest }.exclusions).map fun _ => () := by
  induction rest generalizing registry seen with
  | nil => rfl
  | cons record rest ih =>
    have hdeclare := declare_eq h
      ⟨definition.suite, record.testId, record.reason, ⟨definition.unit, record.line⟩⟩
    rw [hseen, find?_exclusions] at hdeclare
    simp only [Definition.checkFrom, Definition.exclusions, List.map_cons, declareAll]
    cases hfound : seen.find? (·.testId = record.testId) with
    | some first =>
      rw [hfound] at hdeclare
      rw [hdeclare]
      rfl
    | none =>
      rw [hfound] at hdeclare
      rw [hdeclare]
      refine ih (wellFormed_of_declare h hdeclare) ?_
      rw [exclusionsOf_of_declare h hdeclare, hseen]
      simp [Definition.exclusions]

theorem checkDistinct_eq (definition : Definition) :
    definition.checkDistinct = (ofDefinitions [definition]).map fun _ => () := by
  have hregister := wellFormed_register wellFormed_empty definition.suite
  have hchecked : definition.checkFrom [] definition.records = _ := checkFrom_eq hregister
    (exclusionsOf_register wellFormed_empty definition.suite definition.suite)
  rw [Definition.checkDistinct, hchecked, ofDefinitions, defineAll]
  split
  · rename_i next hnext
    rw [hnext]
    rfl
  · rename_i e herror
    rw [herror]

/-- The only definition of a suite declares all its records. -/
theorem recordsOf_eq {definitions : List Definition} (h : (definitions.map (·.suite)).Nodup)
    {definition : Definition} (hmem : definition ∈ definitions) :
    recordsOf definitions definition.suite = definition.records := by
  have hone : definitions.filter (·.suite = definition.suite) = [definition] := by
    refine List.perm_singleton.mp ((List.perm_ext_iff_of_nodup (h.of_map.filter _)
      (List.nodup_singleton _)).mpr fun other => ?_)
    rw [List.mem_filter, List.mem_singleton, decide_eq_true_eq]
    constructor
    · rintro ⟨hother, hsuite⟩
      exact List.inj_on_of_nodup_map h hother hmem hsuite
    · rintro rfl
      exact ⟨hmem, rfl⟩
  simp [recordsOf, hone]

/-- Definitions of different suites make a registry if each of them passes its own check. -/
theorem ofDefinitions_isOk_iff_check {definitions : List Definition}
    (h : (definitions.map (·.suite)).Nodup) :
    (∃ registry, ofDefinitions definitions = .ok registry) ↔
      ∀ definition ∈ definitions, definition.checkDistinct = .ok () := by
  simp only [ofDefinitions_isOk_iff, Definition.checkDistinct_eq_ok_iff]
  constructor
  · intro hdistinct definition hmem
    rw [← recordsOf_eq h hmem]
    exact hdistinct definition.suite
  · intro hcheck suite
    by_cases hsuite : ∃ definition ∈ definitions, definition.suite = suite
    · obtain ⟨definition, hmem, rfl⟩ := hsuite
      rw [recordsOf_eq h hmem]
      exact hcheck definition hmem
    · have hnone : definitions.filter (·.suite = suite) = [] := by simpa using hsuite
      simp [recordsOf, hnone]

/-- Definitions and the exclusions they amount to build registries that agree, or fail alike. The
check of a definition fails as a registry of it alone does, so that definitions of different suites
may be checked one by one. -/
theorem constructions_agree (definitions : List Definition) :
    Agreement definitions (ofDefinitions definitions)
      (ofExclusions (definitions.flatMap (·.exclusions))) ∧
    (∀ (definition : Definition) (e : LoadError),
      definition.checkDistinct = .error e ↔ ofDefinitions [definition] = .error e) ∧
    ((definitions.map (·.suite)).Nodup →
      ((∃ registry, ofDefinitions definitions = .ok registry) ↔
        ∀ definition ∈ definitions, definition.checkDistinct = .ok ())) := by
  refine ⟨agreement_ofDefinitions definitions, fun definition e => ?_,
    ofDefinitions_isOk_iff_check⟩
  rw [checkDistinct_eq, Outcome.map_eq_error_iff]

/-- Definitions of two suites, the first of which declares a test twice. -/
def repeatedDefinitions : List Definition :=
  [⟨"A", "a.rb", [⟨"t", "x", some 1⟩, ⟨"u", "y", some 2⟩, ⟨"t", "z", some 4⟩]⟩, ⟨"B", "b.rb", []⟩]

theorem constructions_agree_repeated : (repeatedDefinitions.map (·.suite)).Nodup ∧
    ((∃ registry, ofDefinitions repeatedDefinitions = .ok registry) ↔
      ∀ definition ∈ repeatedDefinitions, definition.checkDistinct = .ok ()) ∧
    ofDefinitions repeatedDefinitions =
      .error (.duplicateTest "A" "t" ⟨"a.rb", some 1⟩ ⟨"a.rb", some 4⟩) := by
  have hsuites : (repeatedDefinitions.map (·.suite)).Nodup := by decide
  exact ⟨hsuites, (constructions_agree repeatedDefinitions).2.2 hsuites, by decide +kernel⟩

end Registry
end TestExclusions
