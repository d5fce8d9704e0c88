import Mathlib.Data.List.Nodup
import Mathlib.Data.String.Basic
import TestExclusions.Proofs.Sorted
import TestExclusions.Registry

/-! What a registry holds. Its suites stand in order, so that it is known by its answers; the
exclusions of a suite are those declared for it, in the order of their declaration. -/
namespace TestExclusions

/-! ## One definition -/

/-- Keys that are new to those seen before, told one element at a time. -/
theorem nodup_cons_seen {α β : Type} (key : α → β) {seen rest : List α} {a : α}
    (hnew : key a ∉ seen.map key) :
    ((rest.map key).Nodup ∧ ∀ b ∈ rest, key b ∉ (seen ++ [a]).map key) ↔
      ((a :: rest).map key).Nodup ∧ ∀ b ∈ a :: rest, key b ∉ seen.map key := by
  simp only [List.map_cons, List.nodup_cons, List.map_append, List.map_nil, List.mem_append,
    List.mem_singleton, List.forall_mem_cons, not_or]
  constructor
  · rintro ⟨hnodup, hfresh⟩
    refine ⟨⟨fun hmem => ?_, hnodup⟩, hnew, fun b hb => (hfresh b hb).1⟩
    obtain ⟨b, hb, heq⟩ := List.mem_map.mp hmem
    exact (hfresh b hb).2 heq
  · rintro ⟨⟨hhead, hnodup⟩, -, hfresh⟩
    refine ⟨hnodup, fun b hb => ⟨hfresh b hb, fun heq => ?_⟩⟩
    exact hhead (heq ▸ List.mem_map_of_mem hb)

namespace Definition

theorem checkFrom_eq_ok_iff {definition : Definition} {seen rest : List Record} :
    definition.checkFrom seen rest = .ok () ↔
      (rest.map (·.testId)).Nodup ∧ ∀ record ∈ rest, record.testId ∉ seen.map (·.testId) := by
  induction rest generalizing seen with
  | nil => simp [checkFrom]
  | cons record rest ih =>
    simp only [checkFrom]
    split
    · rename_i first hfirst
      have hmem := List.mem_of_find?_eq_some hfirst
      have hsame : first.testId = record.testId := by simpa using List.find?_some hfirst
      constructor
      · intro h
        cases h
      · rintro ⟨-, hnew⟩
        have hrecord := hnew record List.mem_cons_self
        exact absurd (hsame ▸ List.mem_map_of_mem hmem) hrecord
    · rename_i hnone
      have hrecord : record.testId ∉ seen.map (·.testId) := by simpa using hnone
      rw [ih]
      exact nodup_cons_seen Record.testId hrecord

/-- A unit passes if it declares no test twice. -/
theorem checkDistinct_eq_ok_iff {definition : Definition} :
    definition.checkDistinct = .ok () ↔ (definition.records.map (·.testId)).Nodup := by
  simp [checkDistinct, checkFrom_eq_ok_iff]

theorem suite_of_mem_exclusions {definition : Definition} {exclusion : Exclusion}
    (h : exclusion ∈ definition.exclusions) : exclusion.suite = definition.suite := by
  obtain ⟨record, -, rfl⟩ := List.mem_map.mp h
  rfl

theorem map_testId_exclusions (definition : Definition) :
    definition.exclusions.map (·.testId) = definition.records.map (·.testId) := by
  simp [exclusions]

end Definition

/-! ## One suite -/

namespace Suite

/-- The position of each test, told from the exclusions. -/
def positionsOf (exclusions : List Exclusion) : List (String × Nat) :=
  exclusions.mapIdx fun position exclusion => (exclusion.testId, position)

/-- What every suite of a registry is like: the positions are those of its exclusions, which are of
its name and exclude no test twice. -/
structure WellFormed (suite : Suite) : Prop where
  positions : suite.positions = positionsOf suite.exclusions
  named : ∀ exclusion ∈ suite.exclusions, exclusion.suite = suite.name
  distinct : (suite.exclusions.map (·.testId)).Nodup

theorem wellFormed_empty (name : String) : (empty name).WellFormed :=
  ⟨rfl, by simp [empty], List.nodup_nil⟩

theorem lookup_positionsOf (exclusions : List Exclusion) (testId : String) :
    (positionsOf exclusions).lookup testId = exclusions.findIdx? (·.testId = testId) := by
  have h : ∀ start, (exclusions.mapIdx fun position exclusion =>
      (exclusion.testId, start + position)).lookup testId =
        (exclusions.findIdx? (·.testId = testId)).map (start + ·) := by
    induction exclusions with
    | nil => simp
    | cons exclusion rest ih =>
      intro start
      rw [List.mapIdx_cons, List.lookup_cons, List.findIdx?_cons]
      by_cases heq : exclusion.testId = testId
      · simp [heq]
      · have hne : (testId == exclusion.testId) = false := by simpa using Ne.symm heq
        have hnext := ih (start + 1)
        simp only [Nat.add_assoc, Nat.add_comm 1] at hnext
        rw [hne]
        simp [heq, hnext, Function.comp_def]
  simpa [positionsOf] using h 0

/-- A test stands at one position, which the index gives. -/
theorem WellFormed.lookup_eq_some_iff {suite : Suite} (h : suite.WellFormed) {testId : String}
    {position : Nat} : suite.positions.lookup testId = some position ↔
      (suite.exclusions[position]?).map (·.testId) = some testId := by
  rw [h.positions, lookup_positionsOf, List.findIdx?_eq_some_iff_getElem]
  constructor
  · rintro ⟨hlt, heq, -⟩
    simpa [hlt] using heq
  · intro hat
    obtain ⟨exclusion, hget, heq⟩ := Option.map_eq_some_iff.mp hat
    obtain ⟨hlt, rfl⟩ := List.getElem?_eq_some_iff.mp hget
    refine ⟨hlt, by simpa using heq, fun earlier hearlier hsame => ?_⟩
    have hinj := List.nodup_iff_injective_getElem.mp h.distinct
    have hpositions := @hinj ⟨earlier, by simp; omega⟩ ⟨position, by simpa using hlt⟩
      (by simpa [heq] using hsame)
    simp only [Fin.mk.injEq] at hpositions
    omega

/-- Looking a test up by its position finds its exclusion. -/
theorem WellFormed.find?_eq {suite : Suite} (h : suite.WellFormed) (testId : String) :
    suite.find? testId = suite.exclusions.find? (·.testId = testId) := by
  rw [find?, h.positions, lookup_positionsOf, List.find?_eq_bind_findIdx?_getElem?]

theorem WellFormed.push {suite : Suite} (h : suite.WellFormed) {exclusion : Exclusion}
    (hname : exclusion.suite = suite.name)
    (hnew : exclusion.testId ∉ suite.exclusions.map (·.testId)) :
    (suite.push exclusion).WellFormed := by
  refine ⟨?_, ?_, ?_⟩
  · simp [Suite.push, h.positions, positionsOf]
  · intro other hother
    rcases List.mem_append.mp hother with hother | hother
    · exact h.named other hother
    · rw [List.mem_singleton.mp hother, hname]
      rfl
  · simp only [Suite.push, List.map_append, List.map_cons, List.map_nil]
    rw [List.nodup_append']
    exact ⟨h.distinct, List.nodup_singleton _, by simpa using hnew⟩

theorem WellFormed.declare_eq_ok_iff {suite next : Suite} (h : suite.WellFormed)
    {exclusion : Exclusion} : suite.declare exclusion = .ok next ↔
      exclusion.testId ∉ suite.exclusions.map (·.testId) ∧ next = suite.push exclusion := by
  have hnone : suite.find? exclusion.testId = none ↔
      exclusion.testId ∉ suite.exclusions.map (·.testId) := by
    rw [h.find?_eq]
    simp
  rw [← hnone, declare]
  cases suite.find? exclusion.testId <;> simp [eq_comm]

end Suite

namespace Registry

/-! ## Putting a suite at its place -/

/-- Suites in strictly increasing order of their names. -/
abbrev Ordered (suites : List Suite) : Prop := Sorted.Increasing Suite.name suites

theorem find?_eq_none_of_lt {suites : List Suite} {name : String}
    (h : ∀ suite ∈ suites, name < suite.name) : suites.find? (·.name = name) = none := by
  rw [List.find?_eq_none]
  intro suite hsuite
  simpa using (h suite hsuite).ne'

theorem find?_eq_some_of_mem {suites : List Suite} {suite : Suite} (h : Ordered suites)
    (hmem : suite ∈ suites) : suites.find? (·.name = suite.name) = some suite := by
  induction suites with
  | nil => cases hmem
  | cons first rest ih =>
    obtain ⟨hhead, hrest⟩ := List.pairwise_cons.mp h
    rcases List.mem_cons.mp hmem with rfl | hmem
    · simp
    · rw [List.find?_cons_of_neg (by simpa using (hhead suite hmem).ne), ih hrest hmem]

/-- The suite that is put is the only one whose entry differs afterwards. -/
theorem find?_put {suites : List Suite} (h : Ordered suites) (suite : Suite) (other : String) :
    (put suite suites).find? (·.name = other) =
      if other = suite.name then some suite else suites.find? (·.name = other) := by
  induction suites with
  | nil =>
    by_cases hother : other = suite.name
    · simp [put, hother]
    · simp [put, hother, Ne.symm hother]
  | cons first rest ih =>
    obtain ⟨hhead, hrest⟩ := List.pairwise_cons.mp h
    simp only [put]
    split
    · rename_i hname
      by_cases hother : other = suite.name
      · simp [hother]
      · simp [hother, Ne.symm hother, hname]
    · rename_i hname
      split
      · by_cases hother : other = suite.name
        · simp [hother]
        · rw [List.find?_cons_of_neg (by simpa using Ne.symm hother), if_neg hother]
      · by_cases hfirst : first.name = other
        · have hother : other ≠ suite.name := fun e => hname (hfirst.trans e)
          simp [hfirst, hother]
        · rw [List.find?_cons_of_neg (by simpa using hfirst), ih hrest,
            List.find?_cons_of_neg (by simpa using hfirst)]

theorem mem_put {suites : List Suite} {suite other : Suite} (h : other ∈ put suite suites) :
    other = suite ∨ other ∈ suites := by
  induction suites with
  | nil => exact .inl (List.mem_singleton.mp h)
  | cons first rest ih =>
    simp only [put] at h
    split at h
    · exact (List.mem_cons.mp h).imp_right (List.mem_cons_of_mem _)
    · split at h
      · exact List.mem_cons.mp h
      · rcases List.mem_cons.mp h with rfl | h
        · exact .inr List.mem_cons_self
        · exact (ih h).imp_right (List.mem_cons_of_mem _)

theorem ordered_put {suites : List Suite} (h : Ordered suites) (suite : Suite) :
    Ordered (put suite suites) := by
  induction suites with
  | nil => exact List.pairwise_singleton _ _
  | cons first rest ih =>
    obtain ⟨hhead, hrest⟩ := List.pairwise_cons.mp h
    simp only [put]
    split
    · rename_i hname
      exact List.pairwise_cons.mpr ⟨fun s hs => hname ▸ hhead s hs, hrest⟩
    · rename_i hname
      split
      · rename_i hlt
        refine List.pairwise_cons.mpr ⟨fun s hs => ?_, h⟩
        rcases List.mem_cons.mp hs with rfl | hs
        · exact hlt
        · exact hlt.trans (hhead s hs)
      · rename_i hnot
        refine List.pairwise_cons.mpr ⟨fun s hs => ?_, ih hrest⟩
        rcases mem_put hs with rfl | hs
        · exact lt_of_le_of_ne (not_lt.mp hnot) hname
        · exact hhead s hs

/-- The exclusions of a suite that is put come instead of those it had. -/
theorem length_flatMap_put {suites : List Suite} (h : Ordered suites) (suite : Suite) :
    ((put suite suites).flatMap (·.exclusions)).length +
        (((suites.find? (·.name = suite.name)).map (·.exclusions)).getD []).length =
      (suites.flatMap (·.exclusions)).length + suite.exclusions.length := by
  induction suites with
  | nil => simp [put]
  | cons first rest ih =>
    obtain ⟨hhead, hrest⟩ := List.pairwise_cons.mp h
    simp only [put]
    split
    · rename_i hname
      simp only [hname, decide_true, List.find?_cons_of_pos, Option.map_some, Option.getD_some,
        List.flatMap_cons, List.length_append]
      omega
    · rename_i hname
      split
      · rename_i hlt
        have hnone : (first :: rest).find? (·.name = suite.name) = none := by
          apply find?_eq_none_of_lt
          intro s hs
          rcases List.mem_cons.mp hs with rfl | hs
          · exact hlt
          · exact hlt.trans (hhead s hs)
        simp only [hnone, Option.map_none, Option.getD_none, List.length_nil, List.flatMap_cons,
          List.length_append]
        omega
      · have hstep := ih hrest
        rw [List.find?_cons_of_neg (by simpa using hname)]
        simp only [List.flatMap_cons, List.length_append]
        omega

/-! ## What every registry is like -/

/-- The suites stand in order and are well-formed, and the total is the number of exclusions. -/
structure WellFormed (registry : Registry) : Prop where
  ordered : Ordered registry.suites
  suites : ∀ suite ∈ registry.suites, suite.WellFormed
  total : registry.total = registry.exclusions.length

theorem wellFormed_empty : empty.WellFormed := ⟨List.Pairwise.nil, by simp [empty], rfl⟩

section Answers
variable {registry : Registry}

theorem exclusionsOf_eq (registry : Registry) (suite : String) :
    registry.exclusionsOf suite = ((registry.suite? suite).map (·.exclusions)).getD [] := by
  unfold exclusionsOf
  cases registry.suite? suite <;> rfl

@[simp] theorem exclusions_entry (registry : Registry) (name : String) :
    (registry.entry name).exclusions = registry.exclusionsOf name := by
  rw [exclusionsOf_eq, entry]
  cases registry.suite? name <;> rfl

@[simp] theorem name_entry (registry : Registry) (name : String) :
    (registry.entry name).name = name := by
  rw [entry]
  cases hfound : registry.suite? name with
  | none => rfl
  | some known => simpa using List.find?_some hfound

theorem containsSuite_iff {suite : String} :
    registry.containsSuite suite ↔ (registry.suite? suite).isSome := by
  simp [containsSuite, suite?]

/-- A suite of which a test is excluded is known. -/
theorem containsSuite_of_reason? {suite testId reason : String}
    (h : registry.reason? suite testId = some reason) : registry.containsSuite suite := by
  rw [containsSuite_iff]
  rw [reason?, find?] at h
  cases hfound : registry.suite? suite with
  | some known => rfl
  | none =>
    rw [hfound] at h
    cases h

theorem WellFormed.entry (h : registry.WellFormed) (name : String) :
    (registry.entry name).WellFormed := by
  rw [Registry.entry]
  cases hfound : registry.suite? name with
  | none => exact Suite.wellFormed_empty name
  | some known => exact h.suites known (List.mem_of_find?_eq_some hfound)

theorem WellFormed.distinct (h : registry.WellFormed) (suite : String) :
    ((registry.exclusionsOf suite).map (·.testId)).Nodup := by
  rw [← exclusions_entry]
  exact (h.entry suite).distinct

theorem WellFormed.find?_eq (h : registry.WellFormed) (suite testId : String) :
    registry.find? suite testId =
      (registry.exclusionsOf suite).find? (·.testId = testId) := by
  rw [find?, exclusionsOf_eq]
  cases hfound : registry.suite? suite with
  | none => rfl
  | some known => exact (h.suites known (List.mem_of_find?_eq_some hfound)).find?_eq testId

/-- The last exclusion of a suite is found if its test is not excluded before. -/
theorem WellFormed.find?_of_concat (h : registry.WellFormed) {suite : String}
    {front : List Exclusion} {exclusion : Exclusion}
    (hlast : registry.exclusionsOf suite = front ++ [exclusion])
    (hnew : exclusion.testId ∉ front.map (·.testId)) :
    registry.find? suite exclusion.testId = some exclusion := by
  have hfront : front.find? (·.testId = exclusion.testId) = none := by
    simpa using hnew
  rw [h.find?_eq, hlast, List.find?_append, hfront]
  simp

end Answers

/-! ## Changing one suite -/

section Put
variable {registry : Registry} (h : registry.WellFormed)
include h

theorem exclusionsOf_put (suite : Suite) (total : Nat) (other : String) :
    exclusionsOf ⟨put suite registry.suites, total⟩ other =
      if other = suite.name then suite.exclusions else registry.exclusionsOf other := by
  rw [exclusionsOf_eq, exclusionsOf_eq, suite?, find?_put h.ordered]
  split
  · simp
  · rfl

theorem containsSuite_put (suite : Suite) (total : Nat) (other : String) :
    containsSuite ⟨put suite registry.suites, total⟩ other ↔
      other = suite.name ∨ registry.containsSuite other := by
  rw [containsSuite_iff, containsSuite_iff, suite?, find?_put h.ordered]
  split
  · rename_i hname
    simp [hname]
  · rename_i hname
    simp [hname, suite?]

/-- A well-formed suite may be put if the total counts its exclusions. -/
theorem wellFormed_put {suite : Suite} (hsuite : suite.WellFormed) {total : Nat}
    (htotal : total + (registry.exclusionsOf suite.name).length =
      registry.total + suite.exclusions.length) :
    WellFormed ⟨put suite registry.suites, total⟩ := by
  refine ⟨ordered_put h.ordered suite, fun other hother => ?_, ?_⟩
  · rcases mem_put hother with rfl | hother
    · exact hsuite
    · exact h.suites other hother
  · have hlength := length_flatMap_put h.ordered suite
    rw [exclusionsOf_eq, suite?, h.total, exclusions] at htotal
    rw [exclusions]
    dsimp only
    omega

end Put

/-- Well-formed registries with the same suites and the same exclusions in each are the same. -/
theorem ext_of_wellFormed {a b : Registry} (ha : a.WellFormed) (hb : b.WellFormed)
    (hsuites : ∀ suite, a.containsSuite suite ↔ b.containsSuite suite)
    (hexclusions : ∀ suite, a.exclusionsOf suite = b.exclusionsOf suite) : a = b := by
  have hmem : ∀ {c d : Registry}, c.WellFormed → d.WellFormed →
      (∀ suite, c.containsSuite suite → d.containsSuite suite) →
      (∀ suite, c.exclusionsOf suite = d.exclusionsOf suite) →
      ∀ suite ∈ c.suites, suite ∈ d.suites := by
    intro c d hc hd hknown hsame suite hsuite
    have hunique : c.suite? suite.name = some suite := find?_eq_some_of_mem hc.ordered hsuite
    have hcontains : d.containsSuite suite.name := by
      apply hknown
      rw [containsSuite_iff, hunique]
      rfl
    obtain ⟨found, hfound⟩ := Option.isSome_iff_exists.mp (containsSuite_iff.mp hcontains)
    have hfoundMem := List.mem_of_find?_eq_some hfound
    have hname : found.name = suite.name := by simpa using List.find?_some hfound
    have hvalue : suite.exclusions = found.exclusions := by
      have h := hsame suite.name
      rw [exclusionsOf_eq, exclusionsOf_eq, hunique, hfound] at h
      exact h
    have hpositions : suite.positions = found.positions := by
      rw [(hc.suites suite hsuite).positions, (hd.suites found hfoundMem).positions, hvalue]
    have heq : found = suite := by
      cases found
      cases suite
      simp_all
    exact heq ▸ hfoundMem
  have heq : a.suites = b.suites := ha.ordered.ext hb.ordered fun suite =>
    ⟨hmem ha hb (fun s => (hsuites s).mp) hexclusions suite,
      hmem hb ha (fun s => (hsuites s).mpr) (fun s => (hexclusions s).symm) suite⟩
  have htotal : a.total = b.total := by rw [ha.total, hb.total, exclusions, exclusions, heq]
  cases a
  cases b
  simp_all

/-! ## Declarations -/

section Declare
variable {registry next : Registry} (h : registry.WellFormed) {exclusion : Exclusion}
include h

theorem declare_eq_ok_iff : registry.declare exclusion = .ok next ↔
    exclusion.testId ∉ (registry.exclusionsOf exclusion.suite).map (·.testId) ∧
      next = ⟨put ((registry.entry exclusion.suite).push exclusion) registry.suites,
        registry.total + 1⟩ := by
  have hentry : ∀ suite, (registry.entry exclusion.suite).declare exclusion = .ok suite ↔ _ :=
    fun suite => (h.entry exclusion.suite).declare_eq_ok_iff
  simp only [exclusions_entry] at hentry
  unfold declare
  cases hdeclare : (registry.entry exclusion.suite).declare exclusion with
  | error e =>
    simp only [hdeclare, reduceCtorEq, false_iff, not_and] at hentry ⊢
    exact fun hnew _ => hentry _ hnew rfl
  | ok suite =>
    obtain ⟨hnew, rfl⟩ := (hentry suite).mp hdeclare
    simp [hnew, eq_comm]

variable (hnext : registry.declare exclusion = .ok next)
include hnext

theorem wellFormed_of_declare : next.WellFormed := by
  obtain ⟨hnew, rfl⟩ := (declare_eq_ok_iff h).mp hnext
  apply wellFormed_put h
  · exact (h.entry _).push (name_entry _ _).symm (by simpa using hnew)
  · simp [Suite.push]
    omega

theorem exclusionsOf_of_declare (suite : String) : next.exclusionsOf suite =
    registry.exclusionsOf suite ++ [exclusion].filter (·.suite = suite) := by
  obtain ⟨-, rfl⟩ := (declare_eq_ok_iff h).mp hnext
  rw [exclusionsOf_put h]
  by_cases hsuite : suite = exclusion.suite
  · simp [hsuite, Suite.push]
  · simp [hsuite, Ne.symm hsuite, Suite.push]

theorem containsSuite_of_declare (suite : String) :
    next.containsSuite suite ↔ suite = exclusion.suite ∨ registry.containsSuite suite := by
  obtain ⟨-, rfl⟩ := (declare_eq_ok_iff h).mp hnext
  rw [containsSuite_put h]
  simp [Suite.push]

/-- The new exclusion is found, and everything else is found as before. -/
theorem find?_of_declare (suite testId : String) : next.find? suite testId =
    if suite = exclusion.suite ∧ testId = exclusion.testId then some exclusion
    else registry.find? suite testId := by
  have hnew : (registry.exclusionsOf exclusion.suite).find? (·.testId = exclusion.testId) =
      none := by
    simpa using ((declare_eq_ok_iff h).mp hnext).1
  rw [(wellFormed_of_declare h hnext).find?_eq, exclusionsOf_of_declare h hnext,
    List.find?_append, h.find?_eq]
  by_cases hsuite : suite = exclusion.suite
  · subst hsuite
    by_cases htest : testId = exclusion.testId
    · subst htest
      rw [hnew]
      simp
    · simp [htest, Ne.symm htest]
  · simp [hsuite, Ne.symm hsuite]

theorem reasonsOf_of_declare (suite : String) : next.reasonsOf suite = registry.reasonsOf suite ++
    if suite = exclusion.suite then [(exclusion.testId, exclusion.reason)] else [] := by
  rw [reasonsOf, exclusionsOf_of_declare h hnext, List.map_append]
  by_cases hsuite : suite = exclusion.suite
  · simp [reasonsOf, hsuite]
  · simp [reasonsOf, hsuite, Ne.symm hsuite]

theorem size_of_declare : next.size = registry.size + 1 := by
  obtain ⟨-, rfl⟩ := (declare_eq_ok_iff h).mp hnext
  rfl

end Declare

/-- What a registry holds after exclusions have been added to it. -/
structure Grown (before after : Registry) (known : String → Prop)
    (added : String → List Exclusion) : Prop where
  wellFormed : after.WellFormed
  containsSuite : ∀ suite, after.containsSuite suite ↔ before.containsSuite suite ∨ known suite
  exclusionsOf : ∀ suite, after.exclusionsOf suite = before.exclusionsOf suite ++ added suite

theorem grown_of_declareAll {registry next : Registry} {exclusions : List Exclusion}
    (h : registry.WellFormed) (hnext : registry.declareAll exclusions = .ok next) :
    Grown registry next (fun suite => ∃ e ∈ exclusions, e.suite = suite)
      fun suite => exclusions.filter (·.suite = suite) := by
  induction exclusions generalizing registry with
  | nil =>
    cases hnext
    exact ⟨h, by simp, by simp⟩
  | cons exclusion rest ih =>
    simp only [declareAll] at hnext
    split at hnext
    · rename_i first hfirst
      have hgrown := ih (wellFormed_of_declare h hfirst) hnext
      refine ⟨hgrown.wellFormed, fun suite => ?_, fun suite => ?_⟩
      · rw [hgrown.containsSuite, containsSuite_of_declare h hfirst]
        simp only [List.mem_cons, exists_eq_or_imp, eq_comm (a := suite)]
        tauto
      · rw [hgrown.exclusionsOf, exclusionsOf_of_declare h hfirst, List.append_assoc,
          ← List.filter_append]
        rfl
    · cases hnext

theorem declareAll_isOk_iff {registry : Registry} {exclusions : List Exclusion}
    (h : registry.WellFormed) :
    (∃ next, registry.declareAll exclusions = .ok next) ↔ ∀ suite,
      ((registry.exclusionsOf suite ++ exclusions.filter (·.suite = suite)).map
        (·.testId)).Nodup := by
  induction exclusions generalizing registry with
  | nil =>
    constructor
    · intro _ suite
      simpa using h.distinct suite
    · intro _
      exact ⟨registry, rfl⟩
  | cons exclusion rest ih =>
    have hsplit : ∀ suite, registry.exclusionsOf suite ++
        (exclusion :: rest).filter (·.suite = suite) = (registry.exclusionsOf suite ++
          [exclusion].filter (·.suite = suite)) ++ rest.filter (·.suite = suite) := by
      intro suite
      rw [List.append_assoc, ← List.filter_append]
      rfl
    by_cases hnew : exclusion.testId ∈ (registry.exclusionsOf exclusion.suite).map (·.testId)
    · have herror : ∀ next, registry.declareAll (exclusion :: rest) ≠ .ok next := by
        intro next hnext
        simp only [declareAll] at hnext
        split at hnext
        · rename_i first hfirst
          exact ((declare_eq_ok_iff h).mp hfirst).1 hnew
        · cases hnext
      refine ⟨fun ⟨next, hnext⟩ => absurd hnext (herror next), fun hnodup => ?_⟩
      have hsuite := hnodup exclusion.suite
      rw [List.map_append, List.nodup_append'] at hsuite
      exact absurd hnew fun hmem => hsuite.2.2 hmem (by simp)
    · obtain ⟨next, hfirst⟩ : ∃ next, registry.declare exclusion = .ok next :=
        ⟨_, (declare_eq_ok_iff h).mpr ⟨hnew, rfl⟩⟩
      simp only [declareAll, hfirst]
      rw [ih (wellFormed_of_declare h hfirst)]
      simp only [exclusionsOf_of_declare h hfirst, hsplit]

/-! ## Definitions -/

theorem wellFormed_register {registry : Registry} (h : registry.WellFormed) (suite : String) :
    (registry.register suite).WellFormed :=
  wellFormed_put h (h.entry suite) (by simp)

theorem exclusionsOf_register {registry : Registry} (h : registry.WellFormed)
    (name suite : String) :
    (registry.register name).exclusionsOf suite = registry.exclusionsOf suite := by
  rw [register, exclusionsOf_put h]
  split
  · rename_i hname
    simp [hname]
  · rfl

theorem containsSuite_register {registry : Registry} (h : registry.WellFormed)
    (name suite : String) : (registry.register name).containsSuite suite ↔
      suite = name ∨ registry.containsSuite suite := by
  rw [register, containsSuite_put h, name_entry]

/-- What definitions declare for a suite. -/
def declared (definitions : List Definition) (suite : String) : List Exclusion :=
  (definitions.flatMap (·.exclusions)).filter (·.suite = suite)

theorem declared_cons (definition : Definition) (rest : List Definition) (suite : String) :
    declared (definition :: rest) suite =
      definition.exclusions.filter (·.suite = suite) ++ declared rest suite := by
  rw [declared, List.flatMap_cons, List.filter_append]
  rfl

theorem grown_of_defineAll {registry next : Registry} {definitions : List Definition}
    (h : registry.WellFormed) (hnext : registry.defineAll definitions = .ok next) :
    Grown registry next (fun suite => ∃ d ∈ definitions, d.suite = suite)
      (declared definitions) := by
  induction definitions generalizing registry with
  | nil =>
    cases hnext
    exact ⟨h, by simp, by simp [declared]⟩
  | cons definition rest ih =>
    simp only [defineAll] at hnext
    split at hnext
    · rename_i first hfirst
      have hown := grown_of_declareAll (wellFormed_register h definition.suite) hfirst
      have hrest := ih hown.wellFormed hnext
      refine ⟨hrest.wellFormed, fun suite => ?_, fun suite => ?_⟩
      · rw [hrest.containsSuite, hown.containsSuite, containsSuite_register h]
        simp only [List.mem_cons, exists_eq_or_imp]
        constructor
        · rintro (((rfl | hknown) | ⟨e, he, rfl⟩) | hlater)
          · exact .inr (.inl rfl)
          · exact .inl hknown
          · exact .inr (.inl (Definition.suite_of_mem_exclusions he).symm)
          · exact .inr (.inr hlater)
        · rintro (hknown | hname | hlater)
          · exact .inl (.inl (.inr hknown))
          · exact .inl (.inl (.inl hname.symm))
          · exact .inr hlater
      · rw [hrest.exclusionsOf, hown.exclusionsOf, exclusionsOf_register h, declared_cons,
          List.append_assoc]
    · cases hnext

theorem defineAll_isOk_iff {registry : Registry} {definitions : List Definition}
    (h : registry.WellFormed) :
    (∃ next, registry.defineAll definitions = .ok next) ↔ ∀ suite,
      ((registry.exclusionsOf suite ++ declared definitions suite).map (·.testId)).Nodup := by
  induction definitions generalizing registry with
  | nil =>
    constructor
    · intro _ suite
      simpa [declared] using h.distinct suite
    · intro _
      exact ⟨registry, rfl⟩
  | cons definition rest ih =>
    have hregister := wellFormed_register h definition.suite
    have hown : (∃ next, (registry.register definition.suite).declareAll definition.exclusions =
        .ok next) ↔ _ := declareAll_isOk_iff hregister
    simp only [exclusionsOf_register h] at hown
    simp only [defineAll, declared_cons]
    split
    · rename_i first hfirst
      have hgrown := grown_of_declareAll hregister hfirst
      rw [ih hgrown.wellFormed]
      simp only [hgrown.exclusionsOf, exclusionsOf_register h, List.append_assoc]
    · rename_i error herror
      constructor
      · rintro ⟨next, hnext⟩
        cases hnext
      · intro hnodup
        have hprefix : ∀ suite, ((registry.exclusionsOf suite ++
            definition.exclusions.filter (·.suite = suite)).map (·.testId)).Nodup := by
          intro suite
          have hlong := hnodup suite
          rw [← List.append_assoc, List.map_append] at hlong
          exact hlong.of_append_left
        obtain ⟨next, hnext⟩ := hown.mpr hprefix
        rw [herror] at hnext
        cases hnext

end Registry
end TestExclusions
