import TestExclusions.Command.Run
import TestExclusions.Proofs.Interchange
import TestExclusions.Proofs.Load.Accounting
import TestExclusions.Proofs.Pattern.Glob
import TestExclusions.Proofs.Registry.Answers

/-! Listing the suites that a pattern selects. A name without a star selects the suite of this name, and
one with a star behind it those whose names begin with it; what is printed in JSON can be decoded. -/
namespace TestExclusions.Command
open Json (Fault Decoder Decodes decodes_fields decodes_list decodes_string)
open Json.Decoder (due elementDue fields ignored once string)
open Pattern (Glob)

/-! ## Decoding listings -/

namespace Listing

/-- A listed exclusion as a record, which has no line. -/
def recordOf (exclusion : String × String) : Record := ⟨exclusion.1, exclusion.2, none⟩

def pairOf (record : Record) : String × String := (record.testId, record.reason)

/-- The members read so far. -/
structure Partial where
  suite : Option String := none
  exclusions : Option (List Record) := none

def member (soFar : Partial) : String → Except Fault (Decoder Partial)
  | "suite" => once soFar.suite string ({ soFar with suite := some · })
  | "exclusions" =>
    once soFar.exclusions (Decoder.list Record.decoder) ({ soFar with exclusions := some · })
  | _ => .ok ((fun _ => soFar) <$> ignored)

def finish (read : Partial) : Except Fault Listing := do
  return ⟨← due read.suite, (← due read.exclusions).map pairOf⟩

def inOrder : Decoder Listing := do
  let suite ← elementDue true string
  let exclusions ← elementDue false (Decoder.list Record.decoder)
  return ⟨suite, exclusions.map pairOf⟩

def decoder : Decoder Listing := fields inOrder {} member finish

theorem toJson_eq (listing : Listing) : listing.toJson = .object [
    ("suite", .string listing.suite),
    ("exclusions", .array ((listing.exclusions.map recordOf).map (·.toJson)))] := by
  rw [List.map_map]
  rfl

theorem decodes (listing : Listing) : Decodes decoder listing.toJson listing := by
  have hrecord : ∀ record ∈ listing.exclusions.map recordOf,
      Decodes Record.decoder record.toJson record := by
    intro record hrecord
    obtain ⟨exclusion, -, rfl⟩ := List.mem_map.mp hrecord
    exact Record.decodes (by simp [Record.InRange, recordOf])
  have hpairs : (listing.exclusions.map recordOf).map pairOf = listing.exclusions := by
    rw [List.map_map]
    exact List.map_id _
  rw [toJson_eq]
  refine decodes_fields (.cons rfl ((decodes_string _).map _)
    (.cons rfl ((decodes_list hrecord).map _) (.nil _))) ?_
  change Except.ok (⟨listing.suite, (listing.exclusions.map recordOf).map pairOf⟩ : Listing) = _
  rw [hpairs]

end Listing

/-! ## Runs -/

/-- A command prints the JSON array of listings, which are decoded from it as they are, and changes
nothing. -/
def PrintsListings (invocation : Invocation) (disk : Disk) (found : List Listing) : Prop :=
  ∃ printed, invocation.run disk = (.ok { printed }, disk) ∧
    printed = (Json.array (found.map (·.toJson))).prettyText ++ "\n" ∧
    Decoder.decode (Decoder.list Listing.decoder) printed = .ok found

theorem printsListings_run {disk : Disk} {root : Path} {mode : LoadMode} {loaded : Loaded}
    (hload : disk.load mode root = .ok loaded) {text : String} {pattern : SuitePattern}
    (hpattern : SuitePattern.ofText text = .ok pattern) (verbosity : Nat) :
    PrintsListings ⟨root, mode, verbosity, .list (some text) true⟩ disk
      (listings loaded.registry pattern) := by
  refine ⟨_, ?_, rfl, (decodes_list fun listing _ => listing.decodes).decode_line⟩
  simp [Invocation.run, runList, SuitePattern.ofOption, hpattern, Disk.loadFor, hload, Except.mapError,
    bind, Except.bind, pure, Except.pure]

/-! ## Selections -/

/-- The suites of a registry whose names are wanted are listed in increasing order of their names, each
with the tests and the reasons that its file declares in the order of their declaration. -/
structure ListsExactly (disk : Disk) (files : List SuiteFile) (registry : Registry)
    (wanted : String → Prop) (found : List Listing) : Prop where
  order : found.Pairwise fun a b => a.suite < b.suite
  suites : ∀ suite, (∃ listing ∈ found, listing.suite = suite) ↔
    registry.containsSuite suite ∧ wanted suite
  exclusions : ∀ listing ∈ found, listing.exclusions = registry.reasonsOf listing.suite
  declared : ∀ listing ∈ found, ∃ file,
    Load.owner? files listing.suite = some file ∧ Load.Declares disk registry file

theorem listsExactly_listings {disk : Disk} {files : List SuiteFile} {registry : Registry}
    (h : Load.Holds disk files registry) {pattern : SuitePattern} {wanted : String → Prop}
    (hwanted : ∀ suite, pattern.isMatch suite = true ↔ wanted suite) :
    ListsExactly disk files registry wanted (listings registry pattern) := by
  have hmem : ∀ listing ∈ listings registry pattern, registry.containsSuite listing.suite ∧
      listing.exclusions = registry.reasonsOf listing.suite := by
    intro listing hlisting
    obtain ⟨suite, hsuite, rfl⟩ := List.mem_map.mp hlisting
    exact ⟨Registry.containsSuite_iff_mem.mpr (List.mem_of_mem_filter hsuite), rfl⟩
  refine ⟨?_, fun suite => ?_, fun listing hlisting => (hmem listing hlisting).2,
    fun listing hlisting => ?_⟩
  · have hnames : registry.suiteNames.Pairwise (· < ·) :=
      List.pairwise_map.mpr h.wellFormed.ordered
    exact List.pairwise_map.mpr (hnames.filter _)
  · simp [listings, Registry.containsSuite_iff_mem, ← hwanted]
  · obtain ⟨file, definition, howner, hfile⟩ :=
      (h.containsSuite listing.suite).mp (hmem listing hlisting).1
    obtain ⟨-, hsuite⟩ := Load.owner?_eq_some howner
    rw [← hsuite] at howner ⊢
    exact ⟨file, howner, h.declares howner hfile⟩

/-- A pattern that only one name matches lists the suite of this name, if there is one. -/
theorem listings_eq {registry : Registry} (h : registry.WellFormed) {pattern : SuitePattern}
    {name : String} (hpattern : ∀ suite, pattern.isMatch suite = true ↔ suite = name) :
    listings registry pattern =
      if registry.containsSuite name then [⟨name, registry.reasonsOf name⟩] else [] := by
  have hnodup : registry.suiteNames.Nodup := h.ordered.nodup
  have hfilter : registry.suiteNames.filter pattern.isMatch =
      registry.suiteNames.filter (· == name) := by
    refine List.filter_congr fun suite _ => ?_
    rw [Bool.eq_iff_iff, hpattern, beq_iff_eq]
  rw [listings, hfilter, List.filter_beq, hnodup.count]
  simp only [← Registry.containsSuite_iff_mem]
  split <;> rfl

/-! ## Names as patterns -/

/-- A letter, a digit, an underscore or a colon, of which the names of suites are made. -/
def IsNameChar (c : Char) : Prop := Line.isWordChar c = true ∨ c = ':'

instance (c : Char) : Decidable (IsNameChar c) := inferInstanceAs (Decidable (_ ∨ _))

theorem isPlain_of_isNameChar {c : Char} (h : IsNameChar c) : Glob.IsPlain c := by
  intro hspecial
  have hspecials : Glob.specials.all (fun special => !decide (IsNameChar special)) = true := by decide
  simpa [h] using List.all_eq_true.mp hspecials c hspecial

section Names
variable {name : String} (hname : ∀ c ∈ name.toList, IsNameChar c)
include hname

/-- A name selects the suite of this name. -/
theorem selects_name : ∃ pattern, SuitePattern.ofText name = .ok pattern ∧
    ∀ suite, pattern.isMatch suite = true ↔ suite = name := by
  have hread := Glob.read_plain fun c hc => isPlain_of_isNameChar (hname c hc)
  refine ⟨.glob (name.toList.map .literal), by rw [SuitePattern.ofText, hread], fun suite => ?_⟩
  rw [SuitePattern.isMatch, Glob.isMatch_literals, String.toList_inj]

/-- A name with a star behind it selects the suites whose names begin with it. -/
theorem selects_front : ∃ pattern, SuitePattern.ofText (name ++ "*") = .ok pattern ∧
    ∀ suite, pattern.isMatch suite = true ↔ name.toList <+: suite.toList := by
  have hread := Glob.read_plain_star fun c hc => isPlain_of_isNameChar (hname c hc)
  refine ⟨.glob (name.toList.map .literal ++ [.many]), by rw [SuitePattern.ofText, hread], ?_⟩
  intro suite
  rw [SuitePattern.isMatch, Glob.isMatch_literals_many]

/-- Wherever a load succeeds, a name as a pattern lists the suite of this name or nothing, and a name
with a star behind it lists the suites whose names begin with it. -/
theorem lists_by_name {disk : Disk} {root : Path} {mode : LoadMode} {loaded : Loaded}
    (hload : disk.load mode root = .ok loaded) (verbosity : Nat) :
    ∃ files, disk.suiteFiles root = .ok files ∧
      (∃ found, PrintsListings ⟨root, mode, verbosity, .list (some name) true⟩ disk found ∧
        ListsExactly disk files loaded.registry (· = name) found ∧
        found = if loaded.registry.containsSuite name then
          [⟨name, loaded.registry.reasonsOf name⟩] else []) ∧
      ∃ found, PrintsListings ⟨root, mode, verbosity, .list (some (name ++ "*")) true⟩ disk found ∧
        ListsExactly disk files loaded.registry (name.toList <+: ·.toList) found := by
  obtain ⟨files, hfiles, hholds⟩ := Load.holds_of_load hload
  obtain ⟨pattern, hpattern, hmatch⟩ := selects_name hname
  obtain ⟨pattern', hpattern', hmatch'⟩ := selects_front hname
  refine ⟨files, hfiles, ⟨_, printsListings_run hload hpattern verbosity,
    listsExactly_listings hholds hmatch, listings_eq hholds.wellFormed hmatch⟩, ?_⟩
  exact ⟨_, printsListings_run hload hpattern' verbosity, listsExactly_listings hholds hmatch'⟩

end Names

/-- A disk with a suite, one below it without exclusions, and two whose names begin otherwise. -/
def accentedDisk : Disk :=
  ⟨[], [(["d"], .directory),
    (["d", "Été.rb"], .file "exclude 'b', \"say \\\"é\\\"\"\nexclude :a, '\\\\'\n".toUTF8),
    (["d", "Été"], .directory), (["d", "Été", "B.rb"], .file "".toUTF8),
    (["d", "Ét.rb"], .file "exclude :t, 'r'\n".toUTF8),
    (["d", "XÉté.rb"], .file "exclude :t, 'r'\n".toUTF8)], []⟩

theorem lists_by_name_accented :
    PrintsListings ⟨⟨"d"⟩, .strict, 0, .list (some "Été") true⟩ accentedDisk
      [⟨"Été", [("b", "say \"é\""), ("a", "\\")]⟩] ∧
    ∃ found, PrintsListings ⟨⟨"d"⟩, .strict, 0, .list (some "Été*") true⟩ accentedDisk found ∧
      ∀ suite, (∃ listing ∈ found, listing.suite = suite) ↔ suite ∈ ["Été", "Été::B"] := by
  have hname : ∀ c ∈ "Été".toList, IsNameChar c := by
    have hall : "Été".toList.all (fun c => decide (IsNameChar c)) = true := by decide +kernel
    exact fun c hc => of_decide_eq_true (List.all_eq_true.mp hall c hc)
  have hanswers : (accentedDisk.load .strict ⟨"d"⟩).map (fun loaded =>
      (loaded.registry.suiteNames, loaded.registry.reasonsOf "Été")) =
      .ok (["XÉté", "Ét", "Été", "Été::B"], [("b", "say \"é\""), ("a", "\\")]) := by decide +kernel
  obtain ⟨loaded, hload, hloaded⟩ := Outcome.map_eq_ok_iff.mp hanswers
  obtain ⟨hnames, hreasons⟩ := Prod.mk.inj hloaded
  obtain ⟨_, -, ⟨found, hprints, -, hfound⟩, found', hprints', hlists⟩ :=
    lists_by_name hname hload 0
  have hknown : loaded.registry.containsSuite "Été" := by
    rw [Registry.containsSuite_iff_mem, hnames]
    decide
  rw [if_pos hknown, hreasons] at hfound
  refine ⟨hfound ▸ hprints, found', hprints', fun suite => ?_⟩
  rw [hlists.suites, Registry.containsSuite_iff_mem, hnames]
  constructor
  · rintro ⟨hsuite, hfront⟩
    revert suite
    decide +kernel
  · intro hsuite
    revert suite
    decide +kernel

end TestExclusions.Command
