import TestExclusions.Proofs.Registry

/-! What a registry of definitions answers. It answers what the definitions of each suite declare,
in their order, and does not depend on how the definitions of several suites are mixed. -/
namespace TestExclusions
namespace Registry

/-- The records of the definitions of a suite, in the order of the definitions. -/
def recordsOf (definitions : List Definition) (suite : String) : List Record :=
  (definitions.filter (·.suite = suite)).flatMap (·.records)

/-- The exclusions that the definitions of a suite declare, in the order of the definitions. -/
def declaredFor (definitions : List Definition) (suite : String) : List Exclusion :=
  (definitions.filter (·.suite = suite)).flatMap (·.exclusions)

/-- A definition of the suite, in the unit of the location, has the record on its line. -/
def Declares (definitions : List Definition) (suite testId reason : String)
    (location : Location) : Prop :=
  ∃ definition ∈ definitions, definition.suite = suite ∧ definition.unit = location.unit ∧
    ⟨testId, reason, location.line⟩ ∈ definition.records

/-- The answers of a registry that holds what definitions declare, and nothing else. -/
structure Answers (registry : Registry) (definitions : List Definition) : Prop where
  found : ∀ suite testId reason location,
    registry.reason? suite testId = some reason ∧ registry.location? suite testId = some location ↔
      Declares definitions suite testId reason location
  missing : ∀ suite testId,
    (∀ reason location, ¬Declares definitions suite testId reason location) →
      registry.reason? suite testId = none ∧ registry.location? suite testId = none
  reasonsOf : ∀ suite, registry.reasonsOf suite =
    (recordsOf definitions suite).map fun record => (record.testId, record.reason)
  containsSuite : ∀ suite,
    registry.containsSuite suite ↔ ∃ definition ∈ definitions, definition.suite = suite
  increasing : registry.suiteNames.Pairwise (· < ·)
  suiteNames : ∀ suite,
    suite ∈ registry.suiteNames ↔ ∃ definition ∈ definitions, definition.suite = suite
  exclusions : registry.exclusions = registry.suiteNames.flatMap (declaredFor definitions)
  size : registry.size = (definitions.flatMap (·.records)).length
  isEmpty : registry.isEmpty ↔ definitions.flatMap (·.records) = []

/-! ## Declarations of one suite -/

theorem declared_eq_declaredFor (definitions : List Definition) (suite : String) :
    declared definitions suite = declaredFor definitions suite := by
  induction definitions with
  | nil => rfl
  | cons definition rest ih =>
    rw [declared_cons, ih, declaredFor, declaredFor, List.filter_cons]
    by_cases hsuite : definition.suite = suite
    · have hall : definition.exclusions.filter (·.suite = suite) = definition.exclusions := by
        rw [List.filter_eq_self]
        intro exclusion hexclusion
        simpa [hsuite] using Definition.suite_of_mem_exclusions hexclusion
      simp [hsuite, hall]
    · have hnone : definition.exclusions.filter (·.suite = suite) = [] := by
        rw [List.filter_eq_nil_iff]
        intro exclusion hexclusion
        simpa [Definition.suite_of_mem_exclusions hexclusion] using hsuite
      simp [hsuite, hnone]

theorem map_testId_declaredFor (definitions : List Definition) (suite : String) :
    (declaredFor definitions suite).map (·.testId) =
      (recordsOf definitions suite).map (·.testId) := by
  simp [declaredFor, recordsOf, List.map_flatMap, Definition.map_testId_exclusions]

theorem map_reason_declaredFor (definitions : List Definition) (suite : String) :
    (declaredFor definitions suite).map (fun exclusion => (exclusion.testId, exclusion.reason)) =
      (recordsOf definitions suite).map fun record => (record.testId, record.reason) := by
  simp [declaredFor, recordsOf, List.map_flatMap, Definition.exclusions, Function.comp_def]

theorem mem_declaredFor_iff {definitions : List Definition} {suite testId reason : String}
    {location : Location} : ⟨suite, testId, reason, location⟩ ∈ declaredFor definitions suite ↔
      Declares definitions suite testId reason location := by
  simp only [declaredFor, List.mem_flatMap, List.mem_filter, decide_eq_true_eq, Declares, and_assoc]
  refine exists_congr fun definition => and_congr_right fun _ => and_congr_right fun hsuite => ?_
  rw [Definition.exclusions, List.mem_map]
  constructor
  · rintro ⟨record, hrecord, heq⟩
    cases heq
    exact ⟨rfl, hrecord⟩
  · rintro ⟨hunit, hrecord⟩
    exact ⟨_, hrecord, by rw [hsuite, hunit]⟩

/-! ## The running total -/

theorem size_of_declareAll {registry next : Registry} {exclusions : List Exclusion}
    (h : registry.WellFormed) (hnext : registry.declareAll exclusions = .ok next) :
    next.size = registry.size + exclusions.length := by
  induction exclusions generalizing registry with
  | nil =>
    cases hnext
    rfl
  | cons exclusion rest ih =>
    simp only [declareAll] at hnext
    split at hnext
    · rename_i first hfirst
      rw [ih (wellFormed_of_declare h hfirst) hnext, size_of_declare h hfirst, List.length_cons]
      omega
    · cases hnext

theorem size_of_defineAll {registry next : Registry} {definitions : List Definition}
    (h : registry.WellFormed) (hnext : registry.defineAll definitions = .ok next) :
    next.size = registry.size + (definitions.flatMap (·.records)).length := by
  induction definitions generalizing registry with
  | nil =>
    cases hnext
    rfl
  | cons definition rest ih =>
    simp only [defineAll] at hnext
    split at hnext
    · rename_i first hfirst
      have hregister := wellFormed_register h definition.suite
      have hfirstSize : first.size = registry.size + definition.records.length := by
        rw [size_of_declareAll hregister hfirst, Definition.exclusions, List.length_map]
        rfl
      rw [ih (grown_of_declareAll hregister hfirst).wellFormed hnext, hfirstSize,
        List.flatMap_cons, List.length_append]
      omega
    · cases hnext

/-! ## Answers -/

section Answers
variable {registry : Registry} (h : registry.WellFormed)
include h

/-- An exclusion is looked up exactly if it is one of its suite. -/
theorem find?_eq_some_iff {suite testId : String} {exclusion : Exclusion} :
    registry.find? suite testId = some exclusion ↔
      exclusion ∈ registry.exclusionsOf suite ∧ exclusion.testId = testId := by
  rw [h.find?_eq]
  constructor
  · intro hfind
    exact ⟨List.mem_of_find?_eq_some hfind, by simpa using List.find?_some hfind⟩
  · rintro ⟨hmem, rfl⟩
    cases hfind : (registry.exclusionsOf suite).find? (·.testId = exclusion.testId) with
    | none => simpa using List.find?_eq_none.mp hfind exclusion hmem
    | some other =>
      have hsame : other.testId = exclusion.testId := by simpa using List.find?_some hfind
      rw [List.inj_on_of_nodup_map (h.distinct suite) (List.mem_of_find?_eq_some hfind) hmem hsame]

/-- All exclusions are those of the suites in their order. -/
theorem exclusions_eq_flatMap :
    registry.exclusions = registry.suiteNames.flatMap registry.exclusionsOf := by
  rw [exclusions, suiteNames, List.flatMap_map]
  apply List.flatMap_congr
  intro suite hsuite
  have hfound : registry.suite? suite.name = some suite := find?_eq_some_of_mem h.ordered hsuite
  rw [exclusionsOf_eq, hfound]
  rfl

theorem mem_exclusions_iff {exclusion : Exclusion} : exclusion ∈ registry.exclusions ↔
    exclusion ∈ registry.exclusionsOf exclusion.suite := by
  rw [exclusions, List.mem_flatMap]
  constructor
  · rintro ⟨suite, hsuite, hexclusion⟩
    have hfound : registry.suite? suite.name = some suite := find?_eq_some_of_mem h.ordered hsuite
    rwa [exclusionsOf_eq, (h.suites suite hsuite).named exclusion hexclusion, hfound]
  · intro hexclusion
    rw [exclusionsOf_eq] at hexclusion
    cases hfound : registry.suite? exclusion.suite with
    | none => simp [hfound] at hexclusion
    | some suite =>
      rw [hfound] at hexclusion
      exact ⟨suite, List.mem_of_find?_eq_some hfound, hexclusion⟩

theorem suite_of_mem_exclusionsOf {suite : String} {exclusion : Exclusion}
    (hexclusion : exclusion ∈ registry.exclusionsOf suite) : exclusion.suite = suite := by
  rw [← exclusions_entry] at hexclusion
  rw [(h.entry suite).named exclusion hexclusion, name_entry]

/-- A reason is that of the only exclusion of the test. -/
theorem reason?_eq_some_iff {suite testId reason : String} :
    registry.reason? suite testId = some reason ↔ ∃ exclusion ∈ registry.exclusions,
      exclusion.suite = suite ∧ exclusion.testId = testId ∧ exclusion.reason = reason := by
  simp only [reason?, Option.map_eq_some_iff, find?_eq_some_iff h]
  refine exists_congr fun exclusion => ?_
  rw [mem_exclusions_iff h]
  constructor
  · rintro ⟨⟨hmem, rfl⟩, rfl⟩
    obtain rfl := suite_of_mem_exclusionsOf h hmem
    exact ⟨hmem, rfl, rfl, rfl⟩
  · rintro ⟨hmem, rfl, rfl, rfl⟩
    exact ⟨⟨hmem, rfl⟩, rfl⟩

/-- No suite excludes a test twice, and no two suites have a name in common. -/
theorem nodup_exclusions :
    (registry.exclusions.map fun exclusion => (exclusion.suite, exclusion.testId)).Nodup := by
  rw [exclusions, List.map_flatMap, List.nodup_flatMap]
  refine ⟨fun suite hsuite => ?_, List.Pairwise.imp_of_mem ?_ h.ordered⟩
  · have hdistinct := (h.suites suite hsuite).distinct
    apply List.Nodup.of_map Prod.snd
    rwa [List.map_map]
  · intro first second hfirst hsecond hlt
    apply List.disjoint_left.mpr
    intro name hname hname'
    obtain ⟨exclusion, hexclusion, rfl⟩ := List.mem_map.mp hname
    obtain ⟨other, hother, heq⟩ := List.mem_map.mp hname'
    have hsuites : other.suite = exclusion.suite := congrArg Prod.fst heq
    rw [(h.suites _ hfirst).named _ hexclusion, (h.suites _ hsecond).named _ hother] at hsuites
    exact hlt.ne hsuites.symm

end Answers

theorem containsSuite_iff_mem {registry : Registry} {suite : String} :
    registry.containsSuite suite ↔ suite ∈ registry.suiteNames := by
  simp [containsSuite, suiteNames]

section OfDefinitions
variable {definitions : List Definition} {registry : Registry}
  (h : ofDefinitions definitions = .ok registry)
include h

theorem wellFormed_of_ofDefinitions : registry.WellFormed :=
  (grown_of_defineAll wellFormed_empty h).wellFormed

theorem exclusionsOf_of_ofDefinitions (suite : String) :
    registry.exclusionsOf suite = declaredFor definitions suite := by
  rw [(grown_of_defineAll wellFormed_empty h).exclusionsOf, declared_eq_declaredFor]
  rfl

theorem containsSuite_of_ofDefinitions (suite : String) :
    registry.containsSuite suite ↔ ∃ definition ∈ definitions, definition.suite = suite := by
  rw [(grown_of_defineAll wellFormed_empty h).containsSuite]
  exact or_iff_right Bool.false_ne_true

theorem answers_of_ofDefinitions : Answers registry definitions := by
  have hregistry := wellFormed_of_ofDefinitions h
  have hexclusionsOf := exclusionsOf_of_ofDefinitions h
  have hcontains := containsSuite_of_ofDefinitions h
  have hsize := size_of_defineAll wellFormed_empty h
  have hfind : ∀ suite testId reason location,
      registry.reason? suite testId = some reason ∧
          registry.location? suite testId = some location ↔
        Declares definitions suite testId reason location := by
    intro suite testId reason location
    rw [← mem_declaredFor_iff, ← hexclusionsOf]
    constructor
    · rintro ⟨hreason, hlocation⟩
      obtain ⟨exclusion, hfound, rfl⟩ := Option.map_eq_some_iff.mp hreason
      rw [location?, hfound] at hlocation
      cases hlocation
      obtain ⟨hmem, rfl⟩ := (find?_eq_some_iff hregistry).mp hfound
      obtain rfl := suite_of_mem_exclusionsOf hregistry hmem
      exact hmem
    · intro hmem
      have hfound := (find?_eq_some_iff hregistry).mpr ⟨hmem, rfl⟩
      simp [reason?, location?, hfound]
  refine ⟨hfind, fun suite testId hnone => ?_, fun suite => ?_, hcontains, ?_, fun suite => ?_,
    ?_, ?_, ?_⟩
  · cases hfound : registry.find? suite testId with
    | none => simp [reason?, location?, hfound]
    | some exclusion =>
      refine absurd ((hfind suite testId exclusion.reason exclusion.location).mp ?_) (hnone _ _)
      simp [reason?, location?, hfound]
  · rw [reasonsOf, hexclusionsOf, map_reason_declaredFor]
  · exact List.pairwise_map.mpr hregistry.ordered
  · rw [← containsSuite_iff_mem, hcontains]
  · rw [exclusions_eq_flatMap hregistry]
    exact congrArg registry.suiteNames.flatMap (funext hexclusionsOf)
  · rw [hsize]
    exact Nat.zero_add _
  · have htotal : registry.total = (definitions.flatMap (·.records)).length :=
      hsize.trans (Nat.zero_add _)
    rw [isEmpty, htotal, decide_eq_true_eq, List.length_eq_zero_iff]

end OfDefinitions

theorem ofDefinitions_isOk_iff {definitions : List Definition} :
    (∃ registry, ofDefinitions definitions = .ok registry) ↔
      ∀ suite, ((recordsOf definitions suite).map (·.testId)).Nodup := by
  have hok : (∃ registry, ofDefinitions definitions = .ok registry) ↔ _ :=
    defineAll_isOk_iff wellFormed_empty
  rw [hok]
  refine forall_congr' fun suite => ?_
  have hempty : empty.exclusionsOf suite = [] := rfl
  rw [hempty, List.nil_append, declared_eq_declaredFor, map_testId_declaredFor]

/-- Definitions that differ in nothing but how their suites are mixed make up the same registry, or
none. -/
theorem ofDefinitions_congr {definitions others : List Definition}
    (h : ∀ suite, others.filter (·.suite = suite) = definitions.filter (·.suite = suite)) :
    (ofDefinitions others).toOption = (ofDefinitions definitions).toOption := by
  have hok : (∃ registry, ofDefinitions others = .ok registry) ↔
      ∃ registry, ofDefinitions definitions = .ok registry := by
    rw [ofDefinitions_isOk_iff, ofDefinitions_isOk_iff]
    simp only [recordsOf, h]
  cases hothers : ofDefinitions others with
  | error e =>
    cases hdefinitions : ofDefinitions definitions with
    | error e' => rfl
    | ok registry =>
      obtain ⟨registry', hregistry'⟩ := hok.mpr ⟨registry, hdefinitions⟩
      rw [hothers] at hregistry'
      cases hregistry'
  | ok registry' =>
    obtain ⟨registry, hdefinitions⟩ := hok.mp ⟨registry', hothers⟩
    rw [hdefinitions]
    refine congrArg some (ext_of_wellFormed (wellFormed_of_ofDefinitions hothers)
      (wellFormed_of_ofDefinitions hdefinitions) (fun suite => ?_) fun suite => ?_)
    · rw [containsSuite_of_ofDefinitions hothers, containsSuite_of_ofDefinitions hdefinitions]
      have hnames : ∀ ds : List Definition, (∃ definition ∈ ds, definition.suite = suite) ↔
          ds.filter (·.suite = suite) ≠ [] := by simp
      rw [hnames, hnames, h]
    · rw [exclusionsOf_of_ofDefinitions hothers, exclusionsOf_of_ofDefinitions hdefinitions,
        declaredFor, declaredFor, h]

/-- A registry is made from definitions exactly if the records of no suite name a test twice. It
answers what they declare, and definitions of the same suites in another mixture give the same
answers. -/
theorem ofDefinitions_spec (definitions : List Definition) :
    ((∃ registry, ofDefinitions definitions = .ok registry) ↔
      ∀ suite, ((recordsOf definitions suite).map (·.testId)).Nodup) ∧
    (∀ registry, ofDefinitions definitions = .ok registry → Answers registry definitions) ∧
    ∀ others : List Definition,
      (∀ suite, others.filter (·.suite = suite) = definitions.filter (·.suite = suite)) →
        (ofDefinitions others).toOption = (ofDefinitions definitions).toOption :=
  ⟨ofDefinitions_isOk_iff, fun _ => answers_of_ofDefinitions, fun _ => ofDefinitions_congr⟩

/-- Three definitions, of two suites, one of which is taken up again. -/
def sampleDefinitions : List Definition :=
  [⟨"B", "b.rb", [⟨"u", "x", some 2⟩]⟩, ⟨"A", "a.json", []⟩,
    ⟨"B", "c.toml", [⟨"t", "y", none⟩]⟩]

def sampleRegistry : Registry :=
  ⟨[⟨"A", [], []⟩,
    ⟨"B", [⟨"B", "u", "x", ⟨"b.rb", some 2⟩⟩, ⟨"B", "t", "y", ⟨"c.toml", none⟩⟩],
      [("u", 0), ("t", 1)]⟩], 2⟩

theorem ofDefinitions_spec_sample : ofDefinitions sampleDefinitions = .ok sampleRegistry ∧
    Answers sampleRegistry sampleDefinitions ∧
    (ofDefinitions [⟨"A", "a.json", []⟩, ⟨"B", "b.rb", [⟨"u", "x", some 2⟩]⟩,
      ⟨"B", "c.toml", [⟨"t", "y", none⟩]⟩]).toOption =
        (ofDefinitions sampleDefinitions).toOption := by
  have hsample : ofDefinitions sampleDefinitions = .ok sampleRegistry := by rfl
  obtain ⟨-, hanswers, hmixed⟩ := ofDefinitions_spec sampleDefinitions
  refine ⟨hsample, hanswers _ hsample, hmixed _ fun suite => ?_⟩
  by_cases hsuite : "B" = suite
  · subst hsuite
    decide
  · simp [sampleDefinitions, List.filter_cons, hsuite]

end Registry
end TestExclusions
