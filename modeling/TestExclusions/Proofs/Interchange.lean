import TestExclusions.Interchange
import TestExclusions.Proofs.Json.Written
import TestExclusions.Proofs.Json.Yield

/-! Round trips of the JSON forms. Locations, records, exclusions and reports come back from both
forms of their texts if their numbers are below the limits, and what is decoded from a text always
has such numbers. -/
namespace TestExclusions
open Json (Fault Decoder Decodes DecodesMembers KeptBy Written Yields)
open Json (decodes_fields decodes_list decodes_natural decodes_string)
open Json (once_eq_ok_iff yields_fields yields_natural yields_pure yields_true)
open Json.Decoder Outcome

/-! ## Fields -/

theorem decodes_count {n : Nat} (h : n < countLimit) : Decodes count (.number n) n :=
  decodes_natural h h

theorem decodes_line {n : Nat} (h : n < countLimit) :
    Decodes (nullable count) (.number n) (some n) := by
  rintro _ ⟨⟩
  refine (Json.reads_natural h h).nullable fun hnull => ?_
  have hdigit := Json.isDigit_of_mem_digits (List.mem_of_mem_head? hnull)
  cases hdigit

/-- The member for a line sets the line, or leaves open that there is one. -/
theorem decodes_lineMember {σ : Type} {member : σ → String → Except Fault (Decoder σ)} {state : σ}
    {set : Option Nat → σ} (hkey : member state "line" = .ok (set <$> nullable count))
    {line : Option Nat} (h : ∀ n ∈ line, n < countLimit) :
    DecodesMembers member state (lineMember line)
      ((line.map fun n => set (some n)).getD state) := by
  cases line with
  | none => exact .nil state
  | some n => exact .cons hkey ((decodes_line (h n rfl)).map set) (.nil _)

theorem due_eq_ok_iff {α : Type} {field : Option α} {a : α} :
    due field = .ok a ↔ field = some a := by
  cases field <;> simp [due]

section Members
variable {α σ : Type} {soFar : Option α} {value : Decoder α} {set : α → σ} {d : Decoder σ}
  {I : σ → Prop} {P : α → Prop}

/-- A member that is met for the first time keeps the condition if what it sets does. -/
theorem yields_once (h : once soFar value set = .ok d) (hvalue : Yields value P)
    (hset : ∀ a, P a → I (set a)) : Yields d I := by
  obtain ⟨-, rfl⟩ := once_eq_ok_iff.mp h
  exact (hvalue.mono hset).map

theorem yields_once_unchecked (h : once soFar value set = .ok d) (hset : ∀ a, I (set a)) :
    Yields d I :=
  yields_once h (yields_true value) fun a _ => hset a

/-- An unknown member changes nothing. -/
theorem yields_ignored {state : σ} (hstate : I state)
    (h : .ok ((fun _ => state) <$> ignored) = (.ok d : Except Fault (Decoder σ))) :
    Yields d I := by
  cases h
  exact ((yields_true ignored).mono fun _ _ => hstate).map

end Members

theorem yields_line : Yields (nullable count) fun line => ∀ n ∈ line, n < countLimit :=
  (yields_natural countLimit).nullable

theorem forall_mem_join {P : Nat → Prop} {read : Option (Option Nat)}
    (h : ∀ line ∈ read, ∀ n ∈ line, P n) : ∀ n ∈ read.join, P n := by
  cases read with
  | none => simp
  | some line => exact h line rfl

/-! ## Locations -/

namespace Location

def InRange (location : Location) : Prop := ∀ line ∈ location.line, line < countLimit

theorem decodes {location : Location} (h : location.InRange) :
    Decodes decoder location.toJson location := by
  refine decodes_fields (.cons rfl ((decodes_string _).map _) (decodes_lineMember rfl h)) ?_
  obtain ⟨unit, line⟩ := location
  cases line <;> rfl

def Partial.InRange (soFar : Partial) : Prop := ∀ line ∈ soFar.line.join, line < countLimit

theorem keptBy_member : KeptBy member Partial.InRange := by
  intro soFar key d h hd
  unfold member at hd
  split at hd
  · exact yields_once_unchecked hd fun _ => h
  · exact yields_once hd yields_line fun _ hline => hline
  · exact yields_ignored h hd

theorem yields_inRange : Yields decoder InRange := by
  refine yields_fields ?_ (by simp [Partial.InRange]) keptBy_member ?_
  · refine (yields_true _).bind fun _ _ => ?_
    exact (yields_line.element false).bind fun _ hline => yields_pure (forall_mem_join hline)
  · intro read location h hfinish
    obtain ⟨unit, -, hlocation⟩ := bind_eq_ok_iff.mp hfinish
    cases hlocation
    exact h

end Location

/-! ## Records -/

namespace Record

def InRange (record : Record) : Prop := ∀ line ∈ record.line, line < countLimit

theorem decodes {record : Record} (h : record.InRange) :
    Decodes decoder record.toJson record := by
  refine decodes_fields (.cons rfl ((decodes_string _).map _)
    (.cons rfl ((decodes_string _).map _) (decodes_lineMember rfl h))) ?_
  obtain ⟨testId, reason, line⟩ := record
  cases line <;> rfl

def Partial.InRange (soFar : Partial) : Prop := ∀ line ∈ soFar.line.join, line < countLimit

theorem keptBy_member : KeptBy member Partial.InRange := by
  intro soFar key d h hd
  unfold member at hd
  split at hd
  · exact yields_once_unchecked hd fun _ => h
  · exact yields_once_unchecked hd fun _ => h
  · exact yields_once hd yields_line fun _ hline => hline
  · exact yields_ignored h hd

theorem yields_inRange : Yields decoder InRange := by
  refine yields_fields ?_ (by simp [Partial.InRange]) keptBy_member ?_
  · refine (yields_true _).bind fun _ _ => (yields_true _).bind fun _ _ => ?_
    exact (yields_line.element false).bind fun _ hline => yields_pure (forall_mem_join hline)
  · intro read record h hfinish
    obtain ⟨testId, -, hfinish⟩ := bind_eq_ok_iff.mp hfinish
    obtain ⟨reason, -, hrecord⟩ := bind_eq_ok_iff.mp hfinish
    cases hrecord
    exact h

end Record

/-! ## Exclusions -/

namespace Exclusion

def InRange (exclusion : Exclusion) : Prop := exclusion.location.InRange

theorem decodes {exclusion : Exclusion} (h : exclusion.InRange) :
    Decodes decoder exclusion.toJson exclusion :=
  decodes_fields (.cons rfl ((decodes_string _).map _) (.cons rfl ((decodes_string _).map _)
    (.cons rfl ((decodes_string _).map _) (.cons rfl ((Location.decodes h).map _) (.nil _))))) rfl

/-- An exclusion is read without its location, too. -/
theorem decodes_unplaced (suite testId reason : String) :
    Decodes decoder (.object [("suite", .string suite), ("test_id", .string testId),
      ("reason", .string reason)]) ⟨suite, testId, reason, .inline⟩ :=
  decodes_fields (.cons rfl ((decodes_string _).map _) (.cons rfl ((decodes_string _).map _)
    (.cons rfl ((decodes_string _).map _) (.nil _)))) rfl

theorem inRange_inline : Location.inline.InRange := by simp [Location.InRange, Location.inline]

theorem inRange_getD {read : Option Location} (h : ∀ location ∈ read, location.InRange) :
    (read.getD .inline).InRange := by
  cases read with
  | none => exact inRange_inline
  | some location => exact h location rfl

def Partial.InRange (soFar : Partial) : Prop :=
  ∀ location ∈ soFar.location, location.InRange

theorem keptBy_member : KeptBy member Partial.InRange := by
  intro soFar key d h hd
  unfold member at hd
  split at hd
  · exact yields_once_unchecked hd fun _ => h
  · exact yields_once_unchecked hd fun _ => h
  · exact yields_once_unchecked hd fun _ => h
  · refine yields_once hd Location.yields_inRange fun location hlocation => ?_
    simpa [Partial.InRange] using hlocation
  · exact yields_ignored h hd

theorem yields_inRange : Yields decoder InRange := by
  refine yields_fields ?_ (by simp [Partial.InRange]) keptBy_member ?_
  · refine (yields_true _).bind fun _ _ => (yields_true _).bind fun _ _ =>
      (yields_true _).bind fun _ _ => ?_
    exact (Location.yields_inRange.element false).bind fun _ hlocation =>
      yields_pure (inRange_getD hlocation)
  · intro read exclusion h hfinish
    obtain ⟨suite, -, hfinish⟩ := bind_eq_ok_iff.mp hfinish
    obtain ⟨testId, -, hfinish⟩ := bind_eq_ok_iff.mp hfinish
    obtain ⟨reason, -, hexclusion⟩ := bind_eq_ok_iff.mp hfinish
    cases hexclusion
    exact inRange_getD h

end Exclusion

/-! ## Reports -/

namespace SkipSummary

/-- The counts are below the limit. -/
structure InRange (summary : SkipSummary) : Prop where
  considered : summary.considered < countLimit
  skipped : summary.skipped < countLimit
  ran : summary.ran < countLimit
  configured : summary.configured < countLimit
  stale : summary.stale < countLimit

theorem decodes {summary : SkipSummary} (h : summary.InRange) :
    Decodes decoder summary.toJson summary :=
  decodes_fields (.cons rfl ((decodes_count h.considered).map _)
    (.cons rfl ((decodes_count h.skipped).map _) (.cons rfl ((decodes_count h.ran).map _)
      (.cons rfl ((decodes_count h.configured).map _)
        (.cons rfl ((decodes_count h.stale).map _) (.nil _)))))) rfl

structure Partial.InRange (soFar : Partial) : Prop where
  considered : ∀ n ∈ soFar.considered, n < countLimit
  skipped : ∀ n ∈ soFar.skipped, n < countLimit
  ran : ∀ n ∈ soFar.ran, n < countLimit
  configured : ∀ n ∈ soFar.configured, n < countLimit
  stale : ∀ n ∈ soFar.stale, n < countLimit

theorem keptBy_member : KeptBy member Partial.InRange := by
  intro soFar key d h hd
  have hcount := yields_natural countLimit
  unfold member at hd
  split at hd
  · exact yields_once hd hcount fun n hn => { h with considered := by simpa using hn }
  · exact yields_once hd hcount fun n hn => { h with skipped := by simpa using hn }
  · exact yields_once hd hcount fun n hn => { h with ran := by simpa using hn }
  · exact yields_once hd hcount fun n hn => { h with configured := by simpa using hn }
  · exact yields_once hd hcount fun n hn => { h with stale := by simpa using hn }
  · exact yields_ignored h hd

theorem yields_inRange : Yields decoder InRange := by
  have hcount := yields_natural countLimit
  refine yields_fields ?_ ?_ keptBy_member ?_
  · exact (hcount.elementDue true).bind fun _ hconsidered =>
      (hcount.elementDue false).bind fun _ hskipped =>
      (hcount.elementDue false).bind fun _ hran =>
      (hcount.elementDue false).bind fun _ hconfigured =>
      (hcount.elementDue false).bind fun _ hstale =>
      yields_pure ⟨hconsidered, hskipped, hran, hconfigured, hstale⟩
  · constructor <;> simp
  · intro read summary h hfinish
    obtain ⟨_, hconsidered, hfinish⟩ := bind_eq_ok_iff.mp hfinish
    obtain ⟨_, hskipped, hfinish⟩ := bind_eq_ok_iff.mp hfinish
    obtain ⟨_, hran, hfinish⟩ := bind_eq_ok_iff.mp hfinish
    obtain ⟨_, hconfigured, hfinish⟩ := bind_eq_ok_iff.mp hfinish
    obtain ⟨_, hstale, hsummary⟩ := bind_eq_ok_iff.mp hfinish
    cases hsummary
    exact ⟨h.considered _ (due_eq_ok_iff.mp hconsidered), h.skipped _ (due_eq_ok_iff.mp hskipped),
      h.ran _ (due_eq_ok_iff.mp hran), h.configured _ (due_eq_ok_iff.mp hconfigured),
      h.stale _ (due_eq_ok_iff.mp hstale)⟩

end SkipSummary

theorem SkippedTest.decodes (test : SkippedTest) :
    Decodes SkippedTest.decoder test.toJson test :=
  decodes_fields (.cons rfl ((decodes_string _).map _) (.cons rfl ((decodes_string _).map _)
    (.cons rfl ((decodes_string _).map _) (.nil _)))) rfl

theorem StaleExclusion.decodes (exclusion : StaleExclusion) :
    Decodes StaleExclusion.decoder exclusion.toJson exclusion :=
  decodes_fields (.cons rfl ((decodes_string _).map _) (.cons rfl ((decodes_string _).map _)
    (.cons rfl ((decodes_string _).map _) (.cons rfl ((decodes_string _).map _) (.nil _))))) rfl

namespace SkipReport

structure InRange (report : SkipReport) : Prop where
  schemaVersion : report.schemaVersion < schemaLimit
  summary : report.summary.InRange

theorem decodes {report : SkipReport} (h : report.InRange) :
    Decodes decoder report.toJson report := by
  have hexact : report.schemaVersion < Json.exactLimit :=
    Nat.lt_trans h.schemaVersion (by decide)
  exact decodes_fields (.cons rfl ((decodes_natural h.schemaVersion hexact).map _)
    (.cons rfl ((SkipSummary.decodes h.summary).map _)
      (.cons rfl ((decodes_list fun test _ => test.decodes).map _)
        (.cons rfl ((decodes_list fun exclusion _ => exclusion.decodes).map _) (.nil _))))) rfl

structure Partial.InRange (soFar : Partial) : Prop where
  schemaVersion : ∀ n ∈ soFar.schemaVersion, n < schemaLimit
  summary : ∀ summary ∈ soFar.summary, summary.InRange

theorem keptBy_member : KeptBy member Partial.InRange := by
  intro soFar key d h hd
  unfold member at hd
  split at hd
  · exact yields_once hd (yields_natural schemaLimit)
      fun n hn => { h with schemaVersion := by simpa using hn }
  · exact yields_once hd SkipSummary.yields_inRange
      fun summary hsummary => { h with summary := by simpa using hsummary }
  · exact yields_once_unchecked hd fun _ => { h with }
  · exact yields_once_unchecked hd fun _ => { h with }
  · exact yields_ignored h hd

theorem yields_inRange : Yields decoder InRange := by
  refine yields_fields ?_ ?_ keptBy_member ?_
  · exact ((yields_natural schemaLimit).elementDue true).bind fun _ hschemaVersion =>
      (SkipSummary.yields_inRange.elementDue false).bind fun _ hsummary =>
      (yields_true _).bind fun _ _ => (yields_true _).bind fun _ _ =>
      yields_pure ⟨hschemaVersion, hsummary⟩
  · constructor <;> simp
  · intro read report h hfinish
    obtain ⟨_, hschemaVersion, hfinish⟩ := bind_eq_ok_iff.mp hfinish
    obtain ⟨_, hsummary, hfinish⟩ := bind_eq_ok_iff.mp hfinish
    obtain ⟨_, -, hfinish⟩ := bind_eq_ok_iff.mp hfinish
    obtain ⟨_, -, hreport⟩ := bind_eq_ok_iff.mp hfinish
    cases hreport
    exact ⟨h.schemaVersion _ (due_eq_ok_iff.mp hschemaVersion),
      h.summary _ (due_eq_ok_iff.mp hsummary)⟩

end SkipReport

/-! ## Round trips -/

/-- Values in range come back from both forms of their texts, and so does whatever a text is decoded
into. -/
structure RoundTrips {α : Type} (toJson : α → Json) (decoder : Decoder α) (InRange : α → Prop) :
    Prop where
  compact : ∀ a, InRange a → decode decoder (toJson a).compactText = .ok a
  pretty : ∀ a, InRange a → decode decoder (toJson a).prettyText = .ok a
  again : ∀ text a, decode decoder text = .ok a →
    decode decoder (toJson a).compactText = .ok a ∧ decode decoder (toJson a).prettyText = .ok a

theorem roundTrips {α : Type} {toJson : α → Json} {decoder : Decoder α} {InRange : α → Prop}
    (hdecodes : ∀ {a}, InRange a → Decodes decoder (toJson a) a)
    (hyields : Yields decoder InRange) : RoundTrips toJson decoder InRange := by
  have hcompact : ∀ a, InRange a → decode decoder (toJson a).compactText = .ok a :=
    fun a ha => (hdecodes ha).decode (Json.written_compact _)
  have hpretty : ∀ a, InRange a → decode decoder (toJson a).prettyText = .ok a :=
    fun a ha => (hdecodes ha).decode (Json.written_pretty _)
  refine ⟨hcompact, hpretty, fun text a ha => ?_⟩
  have hrange := hyields.decode ha
  exact ⟨hcompact a hrange, hpretty a hrange⟩

/-- A string as it is written in a text. -/
def quotedText (value : String) : String := String.ofList (Json.quoted value)

theorem Location.compactText_unlined (unit : String) :
    (⟨unit, none⟩ : Location).toJson.compactText =
      "\x7b\"unit\":" ++ quotedText unit ++ "\x7d" := by
  apply String.toList_inj.mp
  simp [Json.compactText, toJson, lineMember, Json.compact, Json.compactMembers, Json.quoted,
    quotedText, Json.escape]

theorem Record.compactText_unlined (testId reason : String) :
    (⟨testId, reason, none⟩ : Record).toJson.compactText =
      "\x7b\"test_id\":" ++ quotedText testId ++ ",\"reason\":" ++ quotedText reason ++ "\x7d" := by
  apply String.toList_inj.mp
  simp [Json.compactText, toJson, lineMember, Json.compact, Json.compactMembers, Json.quoted,
    quotedText, Json.escape]

theorem Exclusion.compactText_eq (suite testId reason : String) (location : Location) :
    (⟨suite, testId, reason, location⟩ : Exclusion).toJson.compactText =
      "\x7b\"suite\":" ++ quotedText suite ++ ",\"test_id\":" ++ quotedText testId ++
      ",\"reason\":" ++ quotedText reason ++ ",\"location\":" ++ location.toJson.compactText ++
      "\x7d" := by
  apply String.toList_inj.mp
  simp [Json.compactText, toJson, Json.compact, Json.compactMembers, Json.quoted,
    quotedText, Json.escape]

/-- Reports, locations, records and exclusions come back from their texts, whatever strings they
hold. A line that is absent has no member, and an exclusion that omits its location is an inline
one. -/
theorem interchange_round_trip :
    RoundTrips SkipReport.toJson SkipReport.decoder SkipReport.InRange ∧
    (∀ report : SkipReport, report.InRange →
      decode SkipReport.decoder report.prettyText = .ok report) ∧
    RoundTrips Location.toJson Location.decoder Location.InRange ∧
    (∀ unit, (⟨unit, none⟩ : Location).toJson.compactText =
      "\x7b\"unit\":" ++ quotedText unit ++ "\x7d") ∧
    RoundTrips Record.toJson Record.decoder Record.InRange ∧
    (∀ testId reason, (⟨testId, reason, none⟩ : Record).toJson.compactText =
      "\x7b\"test_id\":" ++ quotedText testId ++ ",\"reason\":" ++ quotedText reason ++ "\x7d") ∧
    RoundTrips Exclusion.toJson Exclusion.decoder Exclusion.InRange ∧
    (∀ suite testId reason location,
      (⟨suite, testId, reason, location⟩ : Exclusion).toJson.compactText =
        "\x7b\"suite\":" ++ quotedText suite ++ ",\"test_id\":" ++ quotedText testId ++
        ",\"reason\":" ++ quotedText reason ++ ",\"location\":" ++ location.toJson.compactText ++
        "\x7d") ∧
    ∀ suite testId reason text, Written (.object [("suite", .string suite),
        ("test_id", .string testId), ("reason", .string reason)]) text.toList →
      decode Exclusion.decoder text = .ok ⟨suite, testId, reason, .inline⟩ := by
  have hreport := roundTrips SkipReport.decodes SkipReport.yields_inRange
  exact ⟨hreport, hreport.pretty, roundTrips Location.decodes Location.yields_inRange,
    Location.compactText_unlined, roundTrips Record.decodes Record.yields_inRange,
    Record.compactText_unlined, roundTrips Exclusion.decodes Exclusion.yields_inRange,
    Exclusion.compactText_eq,
    fun suite testId reason _ htext =>
      (Exclusion.decodes_unplaced suite testId reason).decode htext⟩

/-- A report with the largest numbers, an empty list, and strings that have to be escaped. -/
theorem interchange_round_trip_extreme :
    let report : SkipReport := ⟨4294967295, ⟨18446744073709551615, 0, 1, 2, 3⟩,
      [⟨"a\\b", "\"quoted\"", "tab\tbell\x07é😀"⟩], []⟩
    let location : Location := ⟨"unit\n", some 18446744073709551615⟩
    decode SkipReport.decoder report.prettyText = .ok report ∧
    decode SkipReport.decoder report.toJson.compactText = .ok report ∧
    decode Location.decoder location.toJson.compactText = .ok location ∧
    decode Record.decoder (⟨"", "", none⟩ : Record).toJson.compactText = .ok ⟨"", "", none⟩ ∧
    decode Exclusion.decoder (⟨"s", "t", "r", location⟩ : Exclusion).toJson.compactText =
      .ok ⟨"s", "t", "r", location⟩ := by
  have hline : ∀ line ∈ some 18446744073709551615, line < countLimit := by
    rintro _ ⟨⟩
    decide
  have hcounts : SkipSummary.InRange ⟨18446744073709551615, 0, 1, 2, 3⟩ := by
    constructor <;> decide
  obtain ⟨hreport, hpretty, hlocation, -, hrecord, -, hexclusion, -⟩ := interchange_round_trip
  exact ⟨hpretty _ ⟨by decide, hcounts⟩, hreport.compact _ ⟨by decide, hcounts⟩,
    hlocation.compact _ hline, hrecord.compact _ nofun, hexclusion.compact _ hline⟩

end TestExclusions
