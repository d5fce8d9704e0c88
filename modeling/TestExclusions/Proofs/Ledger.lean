import Mathlib.Data.List.Dedup
import Mathlib.Data.Prod.Lex
import TestExclusions.Ledger
import TestExclusions.Proofs.Registry.Answers

/-! What a ledger reports. However often and in whatever order tests are decided, its state tells
exactly which ones were, and a report follows from them and the registry. -/
namespace TestExclusions
open Sorted (Increasing)

namespace TestName

/-- Tests come in the order of their suites, and of their identifiers in one suite. -/
def key (test : TestName) : String ×ₗ String := toLex (test.suite, test.testId)

theorem key_injective : Function.Injective key := by
  rintro ⟨suite, testId⟩ ⟨suite', testId'⟩ h
  cases toLex.injective h
  rfl

theorem le_iff (a b : TestName) : le a b = true ↔ a.key ≤ b.key := by
  simp [le, key, Prod.Lex.toLex_le_toLex]

theorem key_lt_iff (a b : TestName) :
    a.key < b.key ↔ a.suite < b.suite ∨ a.suite = b.suite ∧ a.testId < b.testId :=
  Prod.Lex.toLex_lt_toLex

end TestName

/-- The test that an exclusion is about. -/
def Exclusion.test (exclusion : Exclusion) : TestName := ⟨exclusion.suite, exclusion.testId⟩

def SkippedTest.test (skipped : SkippedTest) : TestName := ⟨skipped.suite, skipped.testId⟩

def StaleExclusion.test (stale : StaleExclusion) : TestName := ⟨stale.suite, stale.testId⟩

namespace Ledger

/-! ## Calls -/

/-- What a worker asks of a ledger. -/
inductive Call where
  | decide (test : TestName)
  | finish

inductive Reply where
  | decision (decision : Decision)
  | report (report : SkipReport)

/-- Answers one call; a report leaves the ledger as it is. -/
def call (ledger : Ledger) : Call → Reply × Ledger
  | .decide test => (.decision (ledger.decide test).1, (ledger.decide test).2)
  | .finish => (.report ledger.report, ledger)

/-- The ledger after calls. -/
def afterCalls (ledger : Ledger) (calls : List Call) : Ledger :=
  calls.foldl (fun ledger call => (ledger.call call).2) ledger

/-- The replies to calls that are made one after the other. -/
def replies (ledger : Ledger) : List Call → List Reply
  | [] => []
  | call :: rest => (ledger.call call).1 :: replies (ledger.call call).2 rest

/-- The tests that calls decide about. -/
def decidedIn (calls : List Call) : List TestName :=
  calls.filterMap fun
    | .decide test => some test
    | .finish => none

/-- A report that is called for is that of the ledger after the calls before. -/
theorem replies_getElem_finish (ledger : Ledger) (before after : List Call) :
    (ledger.replies (before ++ .finish :: after))[before.length]? =
      some (.report (ledger.afterCalls before).report) := by
  induction before generalizing ledger with
  | nil => rfl
  | cons call rest ih => exact ih (ledger.call call).2

/-! ## The tests that were met -/

theorem mem_enter {met : List (TestName × Bool)} (h : Increasing (fun e => e.1.key) met)
    {test : TestName} {skipped : Bool} {e : TestName × Bool} :
    e ∈ enter test skipped met ↔ e = (test, skipped) ∨ e ∈ met ∧ e.1 ≠ test := by
  induction met with
  | nil => simp [enter]
  | cons first rest ih =>
    obtain ⟨hhead, hrest⟩ := List.pairwise_cons.mp h
    simp only [enter]
    split
    · rename_i hfirst
      have hothers : ∀ e ∈ rest, e.1 ≠ test := by
        rintro e he rfl
        exact (hhead e he).ne (congrArg TestName.key hfirst)
      simp only [List.mem_cons]
      constructor
      · rintro (rfl | he)
        · exact .inl rfl
        · exact .inr ⟨.inr he, hothers e he⟩
      · rintro (rfl | ⟨rfl | he, hne⟩)
        · exact .inl rfl
        · exact absurd hfirst hne
        · exact .inr he
    · rename_i hfirst
      split
      · rename_i hle
        have hlt := lt_of_le_of_ne ((TestName.le_iff _ _).mp hle)
          fun heq => hfirst (TestName.key_injective heq).symm
        have hothers : ∀ e ∈ first :: rest, e.1 ≠ test := by
          rintro e he rfl
          rcases List.mem_cons.mp he with rfl | he
          · exact hfirst rfl
          · exact (hlt.trans (hhead e he)).ne rfl
        rw [List.mem_cons]
        exact or_congr_right ⟨fun he => ⟨he, hothers e he⟩, fun he => he.1⟩
      · simp only [List.mem_cons, ih hrest]
        constructor
        · rintro (rfl | rfl | ⟨he, hne⟩)
          · exact .inr ⟨.inl rfl, hfirst⟩
          · exact .inl rfl
          · exact .inr ⟨.inr he, hne⟩
        · rintro (rfl | ⟨rfl | he, hne⟩)
          · exact .inr (.inl rfl)
          · exact .inl rfl
          · exact .inr (.inr ⟨he, hne⟩)

theorem increasing_enter {met : List (TestName × Bool)} (h : Increasing (fun e => e.1.key) met)
    (test : TestName) (skipped : Bool) :
    Increasing (fun e => e.1.key) (enter test skipped met) := by
  induction met with
  | nil => exact List.pairwise_singleton _ _
  | cons first rest ih =>
    obtain ⟨hhead, hrest⟩ := List.pairwise_cons.mp h
    simp only [enter]
    split
    · rename_i hfirst
      exact List.pairwise_cons.mpr ⟨fun e he => hfirst ▸ hhead e he, hrest⟩
    · rename_i hfirst
      split
      · rename_i hle
        have hlt := lt_of_le_of_ne ((TestName.le_iff _ _).mp hle)
          fun heq => hfirst (TestName.key_injective heq).symm
        refine List.pairwise_cons.mpr ⟨fun e he => ?_, h⟩
        rcases List.mem_cons.mp he with rfl | he
        · exact hlt
        · exact hlt.trans (hhead e he)
      · rename_i hle
        have hlt : first.1.key < test.key := lt_of_not_ge fun h => hle ((TestName.le_iff _ _).mpr h)
        refine List.pairwise_cons.mpr ⟨fun e he => ?_, ih hrest⟩
        rcases (mem_enter hrest).mp he with rfl | ⟨he, -⟩
        · exact hlt
        · exact hhead e he

/-- The ledger of a registry has noted the tests that were decided about, each once. -/
structure Tracks (ledger : Ledger) (registry : Registry) (decided : List TestName) : Prop where
  source : ledger.registry = registry
  increasing : Increasing (fun e => e.1.key) ledger.met
  mem : ∀ test skipped, (test, skipped) ∈ ledger.met ↔
    test ∈ decided ∧ skipped = (registry.reason? test.suite test.testId).isSome

theorem tracks_ofRegistry (registry : Registry) : Tracks (ofRegistry registry) registry [] :=
  ⟨rfl, List.Pairwise.nil, by simp [ofRegistry]⟩

section Tracks
variable {ledger : Ledger} {registry : Registry} {decided : List TestName}
  (h : Tracks ledger registry decided)
include h

/-- A decision replaces what was noted about its test, by the same. -/
theorem tracks_call (call : Call) :
    Tracks (ledger.call call).2 registry (decided ++ decidedIn [call]) := by
  cases call with
  | finish => exact (List.append_nil decided).symm ▸ h
  | decide test =>
    refine ⟨h.source, increasing_enter h.increasing _ _, fun other skipped => ?_⟩
    refine (mem_enter h.increasing).trans ?_
    rw [h.mem, h.source]
    by_cases hother : other = test
    · subst hother
      simp [decidedIn]
    · simp [decidedIn, hother]

theorem tracks_afterCalls (calls : List Call) :
    Tracks (ledger.afterCalls calls) registry (decided ++ decidedIn calls) := by
  induction calls generalizing ledger decided with
  | nil => exact (List.append_nil decided).symm ▸ h
  | cons call rest ih =>
    have hrest := ih (tracks_call h call)
    rwa [List.append_assoc, decidedIn, decidedIn, ← List.filterMap_append] at hrest

end Tracks

/-! ## Reports -/

/-- The report of a run that decided about the given tests, as a function of their set alone. -/
structure Exact (registry : Registry) (decided : List TestName) (report : SkipReport) : Prop where
  schemaVersion : report.schemaVersion = SkipReport.currentSchema
  skippedIncreasing : report.skipped.Pairwise fun a b =>
    a.suite < b.suite ∨ a.suite = b.suite ∧ a.testId < b.testId
  mem_skipped : ∀ suite testId reason, ⟨suite, testId, reason⟩ ∈ report.skipped ↔
    ⟨suite, testId⟩ ∈ decided ∧ registry.reason? suite testId = some reason
  staleIncreasing : report.stale.Pairwise fun a b =>
    a.suite < b.suite ∨ a.suite = b.suite ∧ a.testId < b.testId
  mem_stale : ∀ stale, stale ∈ report.stale ↔ ∃ exclusion ∈ registry.exclusions,
    ⟨exclusion.suite, exclusion.testId⟩ ∉ decided ∧ stale =
      ⟨exclusion.suite, exclusion.testId, exclusion.reason, exclusion.location.display⟩
  considered : report.summary.considered = decided.dedup.length
  ran : report.summary.ran =
    decided.dedup.countP fun test => registry.reason? test.suite test.testId = none
  configured : report.summary.configured = registry.size
  skippedCount : report.summary.skipped = report.skipped.length
  staleCount : report.summary.stale = report.stale.length
  considered_eq : report.summary.considered = report.summary.skipped + report.summary.ran
  configured_eq : report.summary.configured = report.summary.skipped + report.summary.stale

theorem increasing_iff {α : Type} {t : α → TestName} {as : List α} :
    Increasing (fun a => (t a).key) as ↔ as.Pairwise fun a b =>
      (t a).suite < (t b).suite ∨ (t a).suite = (t b).suite ∧ (t a).testId < (t b).testId := by
  simp only [Increasing, TestName.key_lt_iff]

theorem nodup_map_test {registry : Registry} (hregistry : registry.WellFormed) :
    (registry.exclusions.map (·.test)).Nodup := by
  apply List.Nodup.of_map fun test : TestName => (test.suite, test.testId)
  rw [List.map_map]
  exact Registry.nodup_exclusions hregistry

section Tracks
variable {ledger : Ledger} {registry : Registry} {decided : List TestName}
  (h : Tracks ledger registry decided)
include h

theorem hasMet_iff (test : TestName) : ledger.hasMet test ↔ test ∈ decided := by
  simp only [hasMet, List.any_eq_true, decide_eq_true_eq, Prod.exists]
  constructor
  · rintro ⟨_, skipped, hmem, rfl⟩
    exact ((h.mem _ _).mp hmem).1
  · intro hdecided
    exact ⟨test, _, (h.mem _ _).mpr ⟨hdecided, rfl⟩, rfl⟩

theorem perm_dedup : (ledger.met.map (·.1)).Perm decided.dedup := by
  have hnodup : (ledger.met.map (·.1)).Nodup := by
    apply List.Nodup.of_map TestName.key
    rw [List.map_map]
    exact h.increasing.nodup
  refine (List.perm_ext_iff_of_nodup hnodup decided.nodup_dedup).mpr fun test => ?_
  rw [List.mem_dedup, ← hasMet_iff h]
  simp [hasMet]

theorem mem_skipped_iff (suite testId reason : String) :
    ⟨suite, testId, reason⟩ ∈ ledger.skipped ↔
      ⟨suite, testId⟩ ∈ decided ∧ registry.reason? suite testId = some reason := by
  simp only [Ledger.skipped, List.mem_filterMap, Prod.exists, h.source]
  constructor
  · rintro ⟨test, skipped, hmem, hskipped⟩
    obtain ⟨hdecided, rfl⟩ := (h.mem _ _).mp hmem
    -- the test was skipped for a reason, so that the empty one is never used
    cases hreason : registry.reason? test.suite test.testId with
    | none => simp [hreason] at hskipped
    | some found =>
      rw [hreason] at hskipped
      cases hskipped
      exact ⟨hdecided, hreason⟩
  · rintro ⟨hdecided, hreason⟩
    refine ⟨⟨suite, testId⟩, true, (h.mem _ _).mpr ⟨hdecided, ?_⟩, ?_⟩
    · simp [hreason]
    · simp [hreason]

theorem increasing_skipped :
    Increasing (·.test.key) ledger.skipped := by
  refine List.pairwise_filterMap.mpr (h.increasing.imp ?_)
  rintro ⟨first, firstSkipped⟩ ⟨second, secondSkipped⟩ hlt
  intro a ha b hb
  dsimp only at ha hb
  split at ha
  · split at hb
    · cases ha
      cases hb
      exact hlt
    · cases hb
  · cases ha

theorem mem_stale_iff (stale : StaleExclusion) : stale ∈ ledger.stale ↔
    ∃ exclusion ∈ registry.exclusions, exclusion.test ∉ decided ∧ stale =
      ⟨exclusion.suite, exclusion.testId, exclusion.reason, exclusion.location.display⟩ := by
  have hunmet : ∀ test, ledger.hasMet test = false ↔ test ∉ decided := by
    intro test
    rw [← hasMet_iff h, Bool.not_eq_true]
  simp only [Ledger.stale, Sorted.mem_sort, List.mem_map, List.mem_filter, h.source, Exclusion.test,
    Bool.not_eq_true', hunmet, and_assoc, eq_comm (b := stale)]

theorem increasing_stale (hregistry : registry.WellFormed) :
    Increasing (·.test.key) ledger.stale := by
  refine Sorted.increasing_sort (fun a b => TestName.le_iff a.test b.test) ?_
  rw [List.map_map]
  have hnodup := (nodup_map_test hregistry).map TestName.key_injective
  rw [List.map_map] at hnodup
  rw [h.source]
  exact hnodup.sublist (List.filter_sublist.map _)

omit h in
theorem length_skipped : ledger.skipped.length = ledger.met.countP (·.2) := by
  rw [Ledger.skipped, List.length_filterMap_eq_countP]
  congr 1
  funext ⟨test, skipped⟩
  cases skipped <;> rfl

/-- The exclusions of the tests that were met are those that were skipped. -/
theorem length_skipped_eq_countP (hregistry : registry.WellFormed) :
    ledger.skipped.length =
      registry.exclusions.countP fun exclusion => ledger.hasMet exclusion.test := by
  have hskipped : (ledger.skipped.map (·.test)).Nodup := by
    apply List.Nodup.of_map TestName.key
    rw [List.map_map]
    exact (increasing_skipped h).nodup
  have hmet : ((registry.exclusions.filter fun exclusion =>
      ledger.hasMet exclusion.test).map (·.test)).Nodup :=
    (nodup_map_test hregistry).sublist (List.filter_sublist.map _)
  have hperm := (List.perm_ext_iff_of_nodup hskipped hmet).mpr fun test => by
    simp only [List.mem_map, List.mem_filter, hasMet_iff h]
    constructor
    · rintro ⟨⟨suite, testId, reason⟩, hmem, rfl⟩
      obtain ⟨hdecided, hreason⟩ := (mem_skipped_iff h _ _ _).mp hmem
      obtain ⟨exclusion, hexclusion, rfl, rfl, rfl⟩ :=
        (Registry.reason?_eq_some_iff hregistry).mp hreason
      exact ⟨exclusion, ⟨hexclusion, hdecided⟩, rfl⟩
    · rintro ⟨exclusion, ⟨hexclusion, hdecided⟩, rfl⟩
      refine ⟨⟨exclusion.suite, exclusion.testId, exclusion.reason⟩, ?_, rfl⟩
      refine (mem_skipped_iff h _ _ _).mpr ⟨hdecided, ?_⟩
      exact (Registry.reason?_eq_some_iff hregistry).mpr ⟨exclusion, hexclusion, rfl, rfl, rfl⟩
  have hlength := hperm.length_eq
  rwa [List.length_map, List.length_map, ← List.countP_eq_length_filter] at hlength

theorem ran_eq : ledger.ran =
    decided.dedup.countP fun test => registry.reason? test.suite test.testId = none := by
  rw [← (perm_dedup h).countP_eq, List.countP_map, ran]
  apply List.countP_congr
  rintro ⟨test, skipped⟩ hmem
  obtain ⟨-, rfl⟩ := (h.mem _ _).mp hmem
  simp

theorem exact_report (hregistry : registry.WellFormed) : Exact registry decided ledger.report := by
  have hconsidered : ledger.met.length = ledger.skipped.length + ledger.ran := by
    rw [length_skipped, ran, List.length_eq_countP_add_countP (·.2)]
    simp
  have hconfigured : registry.size = ledger.skipped.length + ledger.stale.length := by
    have hstale : ledger.stale.length =
        registry.exclusions.countP fun exclusion => !ledger.hasMet exclusion.test := by
      rw [Ledger.stale, (Sorted.sort_perm _ _).length_eq, List.length_map, h.source,
        ← List.countP_eq_length_filter]
      rfl
    rw [length_skipped_eq_countP h hregistry, hstale, Registry.size, hregistry.total,
      List.length_eq_countP_add_countP fun exclusion => ledger.hasMet exclusion.test]
    simp
  refine ⟨rfl, increasing_iff.mp (increasing_skipped h), mem_skipped_iff h,
    increasing_iff.mp (increasing_stale h hregistry), mem_stale_iff h, ?_, ran_eq h, ?_, rfl, rfl,
    hconsidered, ?_⟩
  · exact (List.length_map _).symm.trans (perm_dedup h).length_eq
  · exact congrArg Registry.size h.source
  · exact (congrArg Registry.size h.source).trans hconfigured

end Tracks

/-- Exact reports of runs that decided about the same tests are the same. -/
theorem Exact.unique {registry : Registry} {decided decided' : List TestName}
    {report report' : SkipReport} (h : Exact registry decided report)
    (h' : Exact registry decided' report') (hsame : ∀ test, test ∈ decided' ↔ test ∈ decided) :
    report' = report := by
  have hskipped : report'.skipped = report.skipped := by
    apply Increasing.ext (increasing_iff (t := SkippedTest.test).mpr h'.skippedIncreasing)
      (increasing_iff.mpr h.skippedIncreasing)
    rintro ⟨suite, testId, reason⟩
    rw [h'.mem_skipped, h.mem_skipped, hsame]
  have hstale : report'.stale = report.stale := by
    apply Increasing.ext (increasing_iff (t := StaleExclusion.test).mpr h'.staleIncreasing)
      (increasing_iff.mpr h.staleIncreasing)
    intro stale
    rw [h'.mem_stale, h.mem_stale]
    simp only [hsame]
  have hperm : decided'.dedup.Perm decided.dedup :=
    (List.perm_ext_iff_of_nodup decided'.nodup_dedup decided.nodup_dedup).mpr (by simpa using hsame)
  have hsummary : report'.summary = report.summary := by
    apply SkipSummary.ext
    · rw [h'.considered, h.considered, hperm.length_eq]
    · rw [h'.skippedCount, h.skippedCount, hskipped]
    · rw [h'.ran, h.ran, hperm.countP_eq]
    · rw [h'.configured, h.configured]
    · rw [h'.staleCount, h.staleCount, hstale]
  exact SkipReport.ext (h'.schemaVersion.trans h.schemaVersion.symm) hsummary hskipped hstale

/-- A registry that has been made from definitions or from exclusions. -/
def Built (registry : Registry) : Prop :=
  (∃ definitions, Registry.ofDefinitions definitions = .ok registry) ∨
    ∃ exclusions, Registry.ofExclusions exclusions = .ok registry

theorem Built.wellFormed {registry : Registry} (h : Built registry) : registry.WellFormed := by
  rcases h with ⟨definitions, h⟩ | ⟨exclusions, h⟩
  · exact Registry.wellFormed_of_ofDefinitions h
  · exact (Registry.grown_of_declareAll Registry.wellFormed_empty h).wellFormed

/-- Every report is exact for the tests that were decided about before it was called for, so that
calls that decide about the same tests, in whatever order and however often, give the same one. -/
theorem report_exact {registry : Registry} (h : Built registry) (before after : List Call) :
    ∃ report, ((ofRegistry registry).replies (before ++ .finish :: after))[before.length]? =
        some (.report report) ∧
      Exact registry (decidedIn before) report ∧
      ∀ before' after', (∀ test, test ∈ decidedIn before' ↔ test ∈ decidedIn before) →
        ((ofRegistry registry).replies (before' ++ .finish :: after'))[before'.length]? =
          some (.report report) := by
  have hexact : ∀ calls, Exact registry (decidedIn calls)
      ((ofRegistry registry).afterCalls calls).report := fun calls =>
    exact_report (tracks_afterCalls (tracks_ofRegistry registry) calls) h.wellFormed
  refine ⟨_, replies_getElem_finish _ before after, hexact before, fun before' after' hsame => ?_⟩
  rw [replies_getElem_finish, (hexact before).unique (hexact before') hsame]

/-- Two runs that meet one of the two tests of a sample, and another one. -/
theorem report_exact_sample : Built Registry.sampleRegistry ∧ ∃ report,
    ((ofRegistry Registry.sampleRegistry).replies [.decide ⟨"B", "u"⟩, .decide ⟨"A", "v"⟩,
      .finish, .decide ⟨"A", "v"⟩, .finish])[4]? = some (.report report) ∧
    Exact Registry.sampleRegistry [⟨"B", "u"⟩, ⟨"A", "v"⟩, ⟨"A", "v"⟩] report ∧
    ((ofRegistry Registry.sampleRegistry).replies [.decide ⟨"A", "v"⟩, .decide ⟨"B", "u"⟩,
      .finish])[2]? = some (.report report) := by
  have hbuilt : Built Registry.sampleRegistry := .inl ⟨Registry.sampleDefinitions, rfl⟩
  obtain ⟨report, hreport, hexact, hsame⟩ := report_exact hbuilt
    [.decide ⟨"B", "u"⟩, .decide ⟨"A", "v"⟩, .finish, .decide ⟨"A", "v"⟩] []
  refine ⟨hbuilt, report, hreport, hexact,
    hsame [.decide ⟨"A", "v"⟩, .decide ⟨"B", "u"⟩] [] fun test => ?_⟩
  simp [decidedIn, or_comm]

end Ledger
end TestExclusions
