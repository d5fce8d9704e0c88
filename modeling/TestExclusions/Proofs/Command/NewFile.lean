import TestExclusions.Command.Add
import TestExclusions.Proofs.SuiteFile
import TestExclusions.Proofs.SuiteName

/-! The file of a new suite. A suite name without a fault leads to names that a path can enter, and
the file they lead to is found again as a file of exclusion lines. -/
namespace TestExclusions.Command

theorem segmentsOf_ne_nil (cs : List Char) : segmentsOf cs ≠ [] := by
  fun_induction segmentsOf cs with
  | case1 => simp
  | case2 => simp
  | case3 c rest h ih =>
    cases hsegments : segmentsOf rest with
    | nil => exact absurd hsegments ih
    | cons first more => simp [Text.consFirst]

theorem segments_ne_nil (suite : String) : segments suite ≠ [] := by
  simp [segments, segmentsOf_ne_nil]

theorem segmentsOf_of_not_mem {cs : List Char} (h : ':' ∉ cs) : segmentsOf cs = [cs] := by
  induction cs with
  | nil => rfl
  | cons c rest ih =>
    obtain ⟨hc, hrest⟩ := not_or.mp (fun hmem => h (List.mem_cons.mpr hmem))
    rw [segmentsOf, ih hrest]
    · rfl
    · rintro more rfl -
      exact hc rfl

/-- The segments of a name, put together again, are the name. -/
theorem intercalate_segmentsOf (cs : List Char) :
    List.intercalate [':', ':'] (segmentsOf cs) = cs := by
  fun_induction segmentsOf cs with
  | case1 => rfl
  | case2 rest ih =>
    obtain ⟨first, more, hsegments⟩ := List.exists_cons_of_ne_nil (segmentsOf_ne_nil rest)
    rw [hsegments] at ih ⊢
    rw [List.intercalate_cons_cons, ih]
    rfl
  | case3 c rest _ ih =>
    obtain ⟨first, more, hsegments⟩ := List.exists_cons_of_ne_nil (segmentsOf_ne_nil rest)
    rw [hsegments] at ih ⊢
    cases more with
    | nil => simpa [Text.consFirst] using ih
    | cons second others =>
      rw [List.intercalate_cons_cons] at ih
      simp [Text.consFirst, List.intercalate_cons_cons, ← ih]

theorem intercalate_segments (suite : String) :
    SuiteFile.separator.intercalate (segments suite) = suite := by
  have hseparator : SuiteFile.separator.toList = [':', ':'] := by decide
  rw [← String.toList_inj, String.toList_intercalate, segments, List.map_map, hseparator]
  simpa using intercalate_segmentsOf suite.toList

/-- A segment without a fault can name a file that is not hidden. -/
theorem segmentFault?_eq_none_iff {segment : String} : segmentFault? segment = none ↔
    segment ≠ "" ∧ '/' ∉ segment.toList ∧ '\\' ∉ segment.toList ∧
      segment.toList.head? ≠ some '.' := by
  unfold segmentFault?
  by_cases hempty : segment = ""
  · simp [hempty]
  · rw [if_neg hempty]
    by_cases hseparator : segment.toList.any fun c => c = '/' || c = '\\'
    · rw [if_pos hseparator]
      simp only [List.any_eq_true, Bool.or_eq_true, decide_eq_true_eq] at hseparator
      obtain ⟨c, hmem, rfl | rfl⟩ := hseparator
      · simp [hmem]
      · simp [hmem]
    · rw [if_neg hseparator]
      have hslash : '/' ∉ segment.toList := fun hmem => hseparator
        (List.any_eq_true.mpr ⟨_, hmem, by simp⟩)
      have hbackslash : '\\' ∉ segment.toList := fun hmem => hseparator
        (List.any_eq_true.mpr ⟨_, hmem, by simp⟩)
      simp [hempty, hslash, hbackslash]

/-- The directory that a segment gets. -/
theorem isName_of_segment {segment : String} (h : segmentFault? segment = none) :
    Path.IsName (Text.utf8 segment) ∧ (Text.utf8 segment).head? ≠ some Path.dot := by
  obtain ⟨hempty, hslash, -, hhidden⟩ := segmentFault?_eq_none_iff.mp h
  refine ⟨Path.isName_utf8_iff.mpr ⟨hempty, ?_, ?_, hslash⟩, fun hhead => ?_⟩
  · rintro rfl
    simp at hhidden
  · rintro rfl
    simp at hhidden
  · exact hhidden ((Text.head?_utf8_eq_iff (by decide)).mp hhead)

/-- The file name that a last segment gets. -/
theorem isName_of_lastSegment {segment : String} (h : segmentFault? segment = none) :
    Path.IsName (Text.utf8 (segment ++ ".rb")) ∧
      (Text.utf8 (segment ++ ".rb")).head? ≠ some Path.dot := by
  obtain ⟨⟨hnil, -, -, hslash⟩, hhead⟩ := isName_of_segment h
  obtain ⟨first, rest, hsegment⟩ := List.exists_cons_of_ne_nil hnil
  rw [hsegment] at hslash hhead
  have hextension : Path.slash ∉ Text.utf8 ".rb" := by decide
  have hlength : (Text.utf8 ".rb").length = 3 := rfl
  rw [Text.utf8_append, hsegment]
  refine ⟨⟨by simp, fun h => ?_, fun h => ?_, fun hmem => ?_⟩, hhead⟩
  · simpa [hlength] using congrArg List.length h
  · simpa [hlength] using congrArg List.length h
  · exact (List.mem_append.mp hmem).elim hslash hextension

/-- The names that lead to the file of a new suite: its segments, the last one with an
extension. -/
theorem newFileNames_eq {suite : String} (h : suiteNameFault? suite = none) :
    ∃ front last, segments suite = front ++ [last] ∧
      newFileNames suite = front.map Text.utf8 ++ [Text.utf8 (last ++ ".rb")] ∧
      ∀ segment ∈ front ++ [last], segmentFault? segment = none := by
  have hne := segments_ne_nil suite
  have hsegments := List.dropLast_concat_getLast hne
  refine ⟨(segments suite).dropLast, (segments suite).getLast hne, hsegments.symm, ?_, ?_⟩
  · simp [newFileNames, List.getLast?_eq_some_getLast hne]
  · rw [hsegments]
    intro segment hsegment
    rw [suiteNameFault?, List.findSome?_eq_none_iff] at h
    exact h segment hsegment

theorem newFileNames_ne_nil {suite : String} (h : suiteNameFault? suite = none) :
    newFileNames suite ≠ [] := by
  obtain ⟨front, last, -, hnames, -⟩ := newFileNames_eq h
  simp [hnames]

/-- A path can enter the names that lead to the file of a new suite, and none of them begins with a
dot. -/
theorem visible_of_mem_newFileNames {suite : String} (h : suiteNameFault? suite = none) :
    ∀ name ∈ newFileNames suite, Path.IsName name ∧ name.head? ≠ some Path.dot := by
  obtain ⟨front, last, -, hnames, hsegments⟩ := newFileNames_eq h
  intro name hname
  rw [hnames] at hname
  rcases List.mem_append.mp hname with hname | hname
  · obtain ⟨segment, hsegment, rfl⟩ := List.mem_map.mp hname
    exact isName_of_segment (hsegments segment (List.mem_append_left _ hsegment))
  · obtain rfl := List.mem_singleton.mp hname
    exact isName_of_lastSegment (hsegments last (by simp))

theorem isName_of_mem_newFileNames {suite : String} (h : suiteNameFault? suite = none) :
    ∀ name ∈ newFileNames suite, Path.IsName name :=
  fun name hname => (visible_of_mem_newFileNames h name hname).1

/-- The segments name the file of a new suite: they are its directories and its stem. -/
theorem namedBy_newFile (root : Path) {suite : String} (h : suiteNameFault? suite = none) :
    ∃ directories stem, newFileNames suite = SuiteFile.namesOf directories stem "rb" ∧
      SuiteFile.NamedBy root directories stem "rb" ⟨suite, newFile root suite, .lines⟩ := by
  obtain ⟨front, last, hsegments, hnames, hfaults⟩ := newFileNames_eq h
  have hdot : Text.utf8 (last ++ ".rb") = Text.utf8 last ++ Path.dot :: Text.utf8 "rb" :=
    Text.utf8_append last ".rb"
  rw [hdot] at hnames
  refine ⟨front.map Text.utf8, Text.utf8 last, hnames, ?_, by simp, ?_, ?_⟩
  · exact (isName_of_segment (hfaults last (by simp))).1.1
  · have hshown : (front.map Text.utf8 ++ [Text.utf8 last]).map Text.ofBytes = segments suite := by
      simp [hsegments, Function.comp_def]
    rw [hshown]
    exact (intercalate_segments suite).symm
  · rw [newFile, hnames, SuiteFile.namesOf]

/-- The file of a new suite is found as one of exclusion lines. -/
theorem ofNames?_newFileNames {root : Path} (hroot : root.bytes ≠ []) {suite : String}
    (hname : suiteNameFault? suite = none) :
    SuiteFile.ofNames? root (newFileNames suite) = some ⟨suite, newFile root suite, .lines⟩ := by
  obtain ⟨directories, stem, hnames, hnamed⟩ := namedBy_newFile root hname
  have hvisible : (newFileNames suite).any SuiteFile.isHidden = false :=
    SuiteFile.any_isHidden_eq_false_iff.mpr fun name hmem hdot =>
      absurd hdot (visible_of_mem_newFileNames hname name hmem).2
  exact (SuiteFile.ofNames?_eq_some_iff hroot (isName_of_mem_newFileNames hname)).mpr
    ⟨hvisible, directories, stem, "rb", hnames, hnamed⟩

section Root
variable (root : Path) {suite : String} (hname : suiteNameFault? suite = none)
include hname

theorem components_newFile : (newFile root suite).components =
    root.components ++ (newFileNames suite).map .name :=
  Path.components_enter_names (isName_of_mem_newFileNames hname)

/-- The file of a new suite stands for the suite. -/
theorem suiteName?_newFile : SuiteFile.suiteName? root (newFile root suite) = some suite := by
  obtain ⟨directories, stem, hnames, hnamed⟩ := namedBy_newFile root hname
  rw [SuiteFile.suiteName?_of_components (components_newFile root hname), hnames,
    SuiteFile.suiteOfNames?_namesOf hnamed.stem_ne rfl, ← hnamed.suite]

/-- The file of a new suite is one of exclusion lines. -/
theorem ofPath?_newFile : Format.ofPath? (newFile root suite) = some .lines := by
  obtain ⟨directories, stem, hnames, hnamed⟩ := namedBy_newFile root hname
  have hfile : (newFile root suite).fileName? = some (stem ++ Path.dot :: Text.utf8 "rb") := by
    rw [Path.fileName?, components_newFile root hname, hnames, SuiteFile.namesOf, List.map_append,
      ← List.append_assoc]
    simp
  exact (Format.ofPath?_eq_some_iff hfile).mpr ⟨stem, "rb", rfl, hnamed.stem_ne, rfl⟩

end Root

end TestExclusions.Command
