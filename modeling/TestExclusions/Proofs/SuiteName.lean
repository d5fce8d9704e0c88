import TestExclusions.Proofs.Path
import TestExclusions.SuiteFile

/-! Which suite a file is named for. The names that lead to it from a root are directories and a
file name, which is a stem, a dot and an extension. -/
namespace TestExclusions

/-! ## Extensions -/

namespace Path

/-- A name has what stands behind its last dot as its extension, unless nothing stands in front. -/
theorem splitExtension_eq_some_iff {name stem extension : Bytes} :
    splitExtension name = (stem, some extension) ↔
      name = stem ++ dot :: extension ∧ stem ≠ [] ∧ dot ∉ extension := by
  have hreversed : ∀ front back, Text.splitFirst? dot name.reverse = some (front, back) ↔
      name = back.reverse ++ dot :: front.reverse ∧ dot ∉ front := by
    intro front back
    rw [Text.splitFirst?_eq_some_iff, List.reverse_eq_iff]
    simp
  unfold splitExtension
  cases hsplit : Text.splitFirst? dot name.reverse with
  | none =>
    simp only [Prod.mk.injEq, reduceCtorEq, and_false, false_iff, not_and]
    rintro rfl - hdot
    rw [Text.splitFirst?_eq_none_iff] at hsplit
    simp at hsplit
  | some parts =>
    obtain ⟨front, back⟩ := parts
    obtain ⟨hname, hfront⟩ := (hreversed front back).mp hsplit
    dsimp only
    constructor
    · intro h
      split at h
      · cases h
      · rename_i hback
        cases h
        exact ⟨hname, by simpa using hback, by simpa using hfront⟩
    · rintro ⟨hother, hstem, hdot⟩
      have hsame := (hreversed extension.reverse stem.reverse).mpr
        ⟨by simpa using hother, by simpa using hdot⟩
      cases hsplit.symm.trans hsame
      rw [if_neg (by simpa using hstem)]
      simp

end Path

namespace Format

/-- Exclusion lines have one of two extensions, and manifests one of two others. -/
theorem ofExtension?_eq_some_iff {extension : String} {format : Format} :
    ofExtension? extension = some format ↔
      extension ∈ ["rb", "txt"] ∧ format = .lines ∨
        extension ∈ ["toml", "json"] ∧ format = .manifest := by
  unfold ofExtension?
  split <;> simp_all [eq_comm]

/-- Every format has one of four extensions. -/
theorem mem_of_ofExtension? {extension : String} {format : Format}
    (h : ofExtension? extension = some format) : extension ∈ ["rb", "txt", "toml", "json"] := by
  rcases ofExtension?_eq_some_iff.mp h with ⟨hmem, -⟩ | ⟨hmem, -⟩
  · exact List.mem_append_left ["toml", "json"] hmem
  · exact List.mem_append_right ["rb", "txt"] hmem

theorem dot_not_mem_of_ofExtension? {extension : String} {format : Format}
    (h : ofExtension? extension = some format) : Path.dot ∉ Text.utf8 extension := by
  have hall : ∀ extension ∈ ["rb", "txt", "toml", "json"], Path.dot ∉ Text.utf8 extension := by
    decide
  exact hall extension (mem_of_ofExtension? h)

theorem splitExtension_of_ofExtension? {stem : Bytes} {extension : String} {format : Format}
    (hstem : stem ≠ []) (h : ofExtension? extension = some format) :
    Path.splitExtension (stem ++ Path.dot :: Text.utf8 extension) =
      (stem, some (Text.utf8 extension)) :=
  Path.splitExtension_eq_some_iff.mpr ⟨rfl, hstem, dot_not_mem_of_ofExtension? h⟩

/-- A path has a format if it ends in a name that has an extension of the format. -/
theorem ofPath?_eq_some_iff {path : Path} {name : Bytes} (hname : path.fileName? = some name)
    {format : Format} : ofPath? path = some format ↔ ∃ stem extension,
      name = stem ++ Path.dot :: Text.utf8 extension ∧ stem ≠ [] ∧
        ofExtension? extension = some format := by
  rw [ofPath?, Path.extension?, hname, Option.bind_some, Option.bind_eq_some_iff]
  constructor
  · rintro ⟨bytes, hbytes, hformat⟩
    obtain ⟨extension, hextension, hknown⟩ := Option.bind_eq_some_iff.mp hformat
    obtain rfl := Text.ofUtf8?_eq_some_iff.mp hextension
    obtain ⟨hsplit, hstem, -⟩ := Path.splitExtension_eq_some_iff.mp (Prod.ext rfl hbytes)
    exact ⟨_, extension, hsplit, hstem, hknown⟩
  · rintro ⟨stem, extension, rfl, hstem, hformat⟩
    rw [splitExtension_of_ofExtension? hstem hformat]
    exact ⟨Text.utf8 extension, rfl, by simpa using hformat⟩

end Format

/-! ## Suites -/

namespace SuiteFile

@[simp] theorem names?_map_name (names : List Bytes) :
    names? (names.map .name) = some names := by
  induction names with
  | nil => rfl
  | cons name rest ih => simp [names?, ih]

/-- The components behind those of the root decide on the suite of a path. -/
theorem suiteName?_of_components {root path : Path} {names : List Bytes}
    (h : path.components = root.components ++ names.map .name) :
    suiteName? root path = suiteOfNames? names := by
  simp [suiteName?, Path.below?, h]

/-- Whatever is entered from a root has a suite. -/
theorem suiteName?_enter {root : Path} {names : List Bytes} (hroot : root.bytes ≠ [])
    (hnames : ∀ name ∈ names, Path.IsName name) :
    suiteName? root (root.enter names) = suiteOfNames? names :=
  suiteName?_of_components (Path.components_enter hnames hroot)

/-- The names of directories, and the file name that a stem and an extension make. -/
def namesOf (directories : List Bytes) (stem : Bytes) (extension : String) : List Bytes :=
  directories ++ [stem ++ Path.dot :: Text.utf8 extension]

/-- Directories, a stem and an extension name a file and its suite. -/
structure NamedBy (root : Path) (directories : List Bytes) (stem : Bytes) (extension : String)
    (file : SuiteFile) : Prop where
  stem_ne : stem ≠ []
  format : extension ∈ ["rb", "txt"] ∧ file.format = .lines ∨
    extension ∈ ["toml", "json"] ∧ file.format = .manifest
  suite : file.suite = "::".intercalate ((directories ++ [stem]).map Text.ofBytes)
  path : file.path = root.enter (namesOf directories stem extension)

theorem isHidden_utf8 (text : String) :
    isHidden (Text.utf8 text) = decide (text.toList.head? = some '.') := by
  rw [isHidden, Text.ofUtf8?_utf8]

/-- What is not hidden begins with a dot only if it is not UTF-8. -/
theorem isHidden_eq_false_iff {name : Bytes} :
    isHidden name = false ↔ (name.head? = some Path.dot → Text.ofUtf8? name = none) := by
  cases htext : Text.ofUtf8? name with
  | some text =>
    obtain rfl := Text.ofUtf8?_eq_some_iff.mp htext
    have hdot : (Text.utf8 text).head? = some Path.dot ↔ text.toList.head? = some '.' :=
      Text.head?_utf8_eq_iff (by decide)
    simp [isHidden_utf8, hdot]
  | none => simp [isHidden, htext]

theorem any_isHidden_eq_false_iff {names : List Bytes} : names.any isHidden = false ↔
    ∀ name ∈ names, name.head? = some Path.dot → Text.ofUtf8? name = none := by
  simp only [List.any_eq_false, Bool.not_eq_true, isHidden_eq_false_iff]

theorem suiteOfNames?_namesOf {directories : List Bytes} {stem : Bytes} {extension : String}
    {format : Format} (hstem : stem ≠ []) (h : Format.ofExtension? extension = some format) :
    suiteOfNames? (namesOf directories stem extension) =
      some ("::".intercalate ((directories ++ [stem]).map Text.ofBytes)) := by
  rw [suiteOfNames?, namesOf, List.getLast?_concat, List.dropLast_concat, Option.map_some,
    SuiteFile.stem, Format.splitExtension_of_ofExtension? hstem h, separator]

/-- Names lead to the file of a suite exactly if they name it and none of them is hidden. -/
theorem ofNames?_eq_some_iff {root : Path} {names : List Bytes} (hroot : root.bytes ≠ [])
    (hnames : ∀ name ∈ names, Path.IsName name) {file : SuiteFile} :
    ofNames? root names = some file ↔ names.any isHidden = false ∧
      ∃ directories stem extension, names = namesOf directories stem extension ∧
        NamedBy root directories stem extension file := by
  have hfileName : ∀ front last, names = front ++ [last] →
      (root.enter names).fileName? = some last := by
    rintro front last rfl
    obtain ⟨hfront, hlast⟩ := List.forall_mem_append.mp hnames
    rw [Path.enter_concat]
    exact Path.fileName?_push (hlast last List.mem_cons_self) (Path.bytes_enter_ne hfront hroot)
  unfold ofNames?
  dsimp only
  rw [suiteName?_enter hroot hnames]
  constructor
  · intro h
    split at h
    · cases h
    · rename_i hvisible
      split at h
      · rename_i format suite hformat hsuite
        cases h
        obtain ⟨last, hlast, -⟩ := Option.map_eq_some_iff.mp hsuite
        obtain ⟨front, hsplit⟩ := List.getLast?_eq_some_iff.mp hlast
        obtain ⟨stem, extension, rfl, hstem, hextension⟩ :=
          (Format.ofPath?_eq_some_iff (hfileName front last hsplit)).mp hformat
        refine ⟨Bool.eq_false_iff.mpr hvisible, front, stem, extension, hsplit, hstem, ?_, ?_,
          by rw [hsplit, namesOf]⟩
        · exact Format.ofExtension?_eq_some_iff.mp hextension
        · rw [hsplit, ← namesOf, suiteOfNames?_namesOf hstem hextension] at hsuite
          exact (Option.some.inj hsuite).symm
      · cases h
  · rintro ⟨hvisible, directories, stem, extension, hsplit, hnamed⟩
    obtain ⟨suite, path, format⟩ := file
    obtain ⟨hstem, hformat, rfl, rfl⟩ := hnamed
    have hextension := Format.ofExtension?_eq_some_iff.mpr hformat
    have hpath : Format.ofPath? (root.enter names) = some format :=
      (Format.ofPath?_eq_some_iff (hfileName _ _ hsplit)).mpr
        ⟨stem, extension, rfl, hstem, hextension⟩
    rw [hvisible, hpath, hsplit, suiteOfNames?_namesOf hstem hextension]
    rfl

end SuiteFile
end TestExclusions
