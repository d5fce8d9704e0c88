import Mathlib.Data.List.Induction
import TestExclusions.Installed
import TestExclusions.Proofs.Outcome

/-! Runs of a registry in use. However often it is exchanged, and whatever the disk holds whenever it
is loaded anew, what it hands out is what was installed last. -/
namespace TestExclusions.Installed

/-! ## Calls -/

/-- What is asked of a registry in use. A reload meets the disk as it is by then. -/
inductive Call where
  | snapshot
  | replace (registry : Registry)
  | reload (disk : Disk) (mode : LoadMode) (root : Path)

inductive Reply where
  | taken (snapshot : Snapshot)
  | replaced (previous : Snapshot)
  | reloaded (result : Except LoadError (List LoadFailure))

def call (installed : Installed) : Call → Reply × Installed
  | .snapshot => (.taken installed.snapshot, installed)
  | .replace registry =>
    (.replaced (installed.replace registry).1, (installed.replace registry).2)
  | .reload disk mode root =>
    (.reloaded (installed.reload disk mode root).1, (installed.reload disk mode root).2)

/-- What is in use after calls. -/
def afterCalls (installed : Installed) (calls : List Call) : Installed :=
  calls.foldl (fun installed call => (installed.call call).2) installed

/-- The replies to calls that are made one after the other. -/
def replies (installed : Installed) : List Call → List Reply
  | [] => []
  | call :: rest => (installed.call call).1 :: replies (installed.call call).2 rest

/-- A call is answered from what is in use after the calls before it. -/
theorem replies_getElem? (installed : Installed) (calls : List Call) (i : Nat) :
    (installed.replies calls)[i]? =
      calls[i]?.map fun call => ((installed.afterCalls (calls.take i)).call call).1 := by
  induction calls generalizing installed i with
  | nil => simp [replies]
  | cons call rest ih =>
    cases i with
    | zero => rfl
    | succ i => exact ih (installed.call call).2 i

theorem reload_of_ok {installed : Installed} {disk : Disk} {mode : LoadMode} {root : Path}
    {loaded : Loaded} (h : disk.load mode root = .ok loaded) :
    installed.reload disk mode root = (.ok loaded.failures, (installed.replace loaded.registry).2) := by
  rw [reload, h]

theorem reload_of_error {installed : Installed} {disk : Disk} {mode : LoadMode} {root : Path}
    {e : LoadError} (h : disk.load mode root = .error e) :
    installed.reload disk mode root = (.error e, installed) := by
  rw [reload, h]

/-- A reload fails exactly if the load does. -/
theorem reload_fst_eq_error_iff {installed : Installed} {disk : Disk} {mode : LoadMode}
    {root : Path} {e : LoadError} :
    (installed.reload disk mode root).1 = .error e ↔ disk.load mode root = .error e := by
  cases h : disk.load mode root with
  | ok loaded => simp [reload_of_ok h]
  | error cause => simp [reload_of_error h]

/-! ## Installations -/

/-- The registry that a call installs. A load that fails has none. -/
def Call.installs? : Call → Option Registry
  | .snapshot => none
  | .replace registry => some registry
  | .reload disk mode root => (disk.load mode root).toOption.map (·.registry)

/-- The registries that are installed in a run, the first one at its start. An installation is told
from the others by its position here. -/
def installations (first : Registry) (calls : List Call) : List Registry :=
  first :: calls.filterMap Call.installs?

/-- A snapshot of the last of some installations. -/
structure IsLatest (installations : List Registry) (taken : Snapshot) : Prop where
  position : taken.number + 1 = installations.length
  installed : installations[taken.number]? = some taken.registry

theorem IsLatest.number_eq_iff {old new : List Registry} {taken taken' : Snapshot}
    (h : IsLatest old taken) (h' : IsLatest new taken') :
    taken.number = taken'.number ↔ old.length = new.length := by
  have hposition := h.position
  have hposition' := h'.position
  omega

theorem IsLatest.eq {installations : List Registry} {taken taken' : Snapshot}
    (h : IsLatest installations taken) (h' : IsLatest installations taken') : taken = taken' := by
  obtain ⟨number, registry⟩ := taken
  obtain rfl : number = taken'.number := (h.number_eq_iff h').mpr rfl
  obtain rfl : registry = taken'.registry := Option.some.inj (h.installed.symm.trans h'.installed)
  rfl

/-- The next installation follows the last one. -/
theorem IsLatest.replace {old : List Registry} {installed : Installed}
    (h : IsLatest old installed.current) (registry : Registry) :
    IsLatest (old ++ [registry]) (installed.replace registry).2.current := by
  refine ⟨?_, ?_⟩
  · simp [Installed.replace, h.position]
  · simp [Installed.replace, h.position]

theorem IsLatest.call {old : List Registry} {installed : Installed}
    (h : IsLatest old installed.current) (call : Call) :
    IsLatest (old ++ call.installs?.toList) (installed.call call).2.current := by
  cases call with
  | snapshot => simpa [Call.installs?, Installed.call] using h
  | replace registry => exact h.replace registry
  | reload disk mode root =>
    cases hload : disk.load mode root with
    | ok loaded =>
      simpa [Call.installs?, Installed.call, hload, reload_of_ok hload, Except.toOption]
        using h.replace loaded.registry
    | error e =>
      simpa [Call.installs?, Installed.call, hload, reload_of_error hload, Except.toOption] using h

theorem isLatest_start (first : Registry) : IsLatest [first] (start first).current := ⟨rfl, rfl⟩

theorem isLatest_afterCalls (first : Registry) (calls : List Call) :
    IsLatest (installations first calls) ((start first).afterCalls calls).current := by
  induction calls using List.reverseRecOn with
  | nil => exact isLatest_start first
  | append_singleton calls call ih =>
    have hnext := ih.call call
    simp only [installations, afterCalls, List.filterMap_append, List.foldl_append] at hnext ⊢
    cases hinstalls : call.installs? <;> simpa [hinstalls] using hnext

/-! ## Runs -/

section Run
variable {first : Registry} {calls : List Call} {i j : Nat}

/-- The reply to the call at some position of a run. -/
def replyAt (first : Registry) (calls : List Call) (i : Nat) : Option Reply :=
  ((start first).replies calls)[i]?

/-- What is in use when that call is made. -/
def usedAt (first : Registry) (calls : List Call) (i : Nat) : Installed :=
  (start first).afterCalls (calls.take i)

/-- What has been installed by then. -/
def installedAt (first : Registry) (calls : List Call) (i : Nat) : List Registry :=
  installations first (calls.take i)

theorem isLatest_usedAt (first : Registry) (calls : List Call) (i : Nat) :
    IsLatest (installedAt first calls i) (usedAt first calls i).current :=
  isLatest_afterCalls first (calls.take i)

theorem replyAt_eq {call : Call} (h : calls[i]? = some call) :
    replyAt first calls i = some ((usedAt first calls i).call call).1 := by
  rw [replyAt, replies_getElem?, h]
  rfl

/-- What a call leaves in use is in use when the next one is made. -/
theorem usedAt_succ {call : Call} (h : calls[i]? = some call) :
    usedAt first calls (i + 1) = ((usedAt first calls i).call call).2 := by
  rw [usedAt, afterCalls, List.take_add_one, List.foldl_append, h]
  rfl

theorem isLatest_of_taken {taken : Snapshot} (h : replyAt first calls i = some (.taken taken)) :
    calls[i]? = some .snapshot ∧ IsLatest (installedAt first calls i) taken := by
  rw [replyAt, replies_getElem?, Option.map_eq_some_iff] at h
  obtain ⟨call, hcall, hreply⟩ := h
  cases call <;> cases hreply
  exact ⟨hcall, isLatest_usedAt first calls i⟩

theorem isLatest_of_replaced {previous : Snapshot}
    (h : replyAt first calls i = some (.replaced previous)) :
    (∃ registry, calls[i]? = some (.replace registry)) ∧
      IsLatest (installedAt first calls i) previous := by
  rw [replyAt, replies_getElem?, Option.map_eq_some_iff] at h
  obtain ⟨call, hcall, hreply⟩ := h
  cases call <;> cases hreply
  exact ⟨⟨_, hcall⟩, isLatest_usedAt first calls i⟩

/-- Between two positions nothing is installed exactly if no call there installs anything. -/
theorem length_installedAt_eq_iff (h : i ≤ j) :
    (installedAt first calls i).length = (installedAt first calls j).length ↔
      ∀ k call, i ≤ k → k < j → calls[k]? = some call → call.installs? = none := by
  have hsplit : calls.take j = calls.take i ++ (calls.take j).drop i := by
    conv => lhs; rw [← List.take_append_drop i (calls.take j), List.take_take, Nat.min_eq_left h]
  have hnone : (((calls.take j).drop i).filterMap Call.installs?).length = 0 ↔
      ∀ call ∈ (calls.take j).drop i, call.installs? = none := by
    rw [List.length_eq_zero_iff, List.filterMap_eq_nil_iff]
  rw [installedAt, installedAt, hsplit]
  simp only [installations, List.length_cons, List.filterMap_append, List.length_append]
  refine Iff.trans (by omega) (hnone.trans
    ⟨fun hall k call hik hkj hcall => ?_, fun hall call hcall => ?_⟩)
  · refine hall call (List.mem_iff_getElem?.mpr ⟨k - i, ?_⟩)
    rw [List.getElem?_drop, Nat.add_sub_cancel' hik, List.getElem?_take_of_lt hkj, hcall]
  · obtain ⟨n, hn⟩ := List.mem_iff_getElem?.mp hcall
    rw [List.getElem?_drop, List.getElem?_take] at hn
    split at hn
    · exact hall (i + n) call (Nat.le_add_right i n) ‹_› hn
    · cases hn

/-- What a call replaces is not what an earlier call has replaced. -/
theorem number_ne_of_replaced {old new : Snapshot} (hij : i < j)
    (hold : replyAt first calls i = some (.replaced old))
    (hnew : replyAt first calls j = some (.replaced new)) : old.number ≠ new.number := by
  obtain ⟨⟨registry, hcall⟩, hlatest⟩ := isLatest_of_replaced hold
  rw [Ne, hlatest.number_eq_iff (isLatest_of_replaced hnew).2,
    length_installedAt_eq_iff (Nat.le_of_lt hij)]
  intro hnone
  cases hnone i _ (Nat.le_refl i) hij hcall

theorem number_eq_iff_of_taken {taken previous : Snapshot} (hij : i < j)
    (htaken : replyAt first calls i = some (.taken taken))
    (hprevious : replyAt first calls j = some (.replaced previous)) :
    taken.number = previous.number ↔
      ∀ k call, i < k → k < j → calls[k]? = some call → call.installs? = none := by
  obtain ⟨hsnapshot, hlatest⟩ := isLatest_of_taken htaken
  rw [hlatest.number_eq_iff (isLatest_of_replaced hprevious).2,
    length_installedAt_eq_iff (Nat.le_of_lt hij)]
  refine ⟨fun hnone k call hik => hnone k call (Nat.le_of_lt hik), fun hnone k call hik => ?_⟩
  rcases Nat.lt_or_eq_of_le hik with hlt | rfl
  · exact hnone k call hlt
  · -- The call that takes the snapshot installs nothing.
    rintro - hcall
    obtain rfl : Call.snapshot = call := Option.some.inj (hsnapshot.symm.trans hcall)
    rfl

theorem eq_of_number_eq {taken previous : Snapshot} (hij : i < j)
    (htaken : replyAt first calls i = some (.taken taken))
    (hprevious : replyAt first calls j = some (.replaced previous))
    (hsame : taken.number = previous.number) : taken = previous := by
  obtain ⟨-, hlatest⟩ := isLatest_of_taken htaken
  obtain ⟨-, hlatest'⟩ := isLatest_of_replaced hprevious
  have hearlier : installedAt first calls i <+: installedAt first calls j :=
    List.cons_prefix_cons.mpr ⟨rfl, (List.take_prefix_take_left (Nat.le_of_lt hij)).filterMap _⟩
  rw [hearlier.eq_of_length ((hlatest.number_eq_iff hlatest').mp hsame)] at hlatest
  exact hlatest.eq hlatest'

end Run

/-- What a run does with the registries that are installed. Two of them are the same one if they have
the same number. -/
structure HandsOutLatest (first : Registry) (calls : List Call) : Prop where
  used : ∀ i, IsLatest (installedAt first calls i) (usedAt first calls i).current
  snapshot : ∀ i, calls[i]? = some .snapshot →
    ∃ taken, replyAt first calls i = some (.taken taken) ∧
      IsLatest (installedAt first calls i) taken
  replace : ∀ i registry, calls[i]? = some (.replace registry) →
    ∃ previous, replyAt first calls i = some (.replaced previous) ∧
      IsLatest (installedAt first calls i) previous
  replaced_once : ∀ i j old new, replyAt first calls i = some (.replaced old) →
    replyAt first calls j = some (.replaced new) → old.number = new.number → i = j
  /-- A snapshot is what a later call replaces exactly if nothing was installed in between. -/
  snapshot_replaced : ∀ i j taken previous, i < j →
    replyAt first calls i = some (.taken taken) →
    replyAt first calls j = some (.replaced previous) →
    (taken.number = previous.number ↔
      ∀ k call, i < k → k < j → calls[k]? = some call → call.installs? = none) ∧
    (taken.number = previous.number → taken = previous)
  reload_fails_iff : ∀ i disk mode root e, calls[i]? = some (.reload disk mode root) →
    (replyAt first calls i = some (.reloaded (.error e)) ↔ disk.load mode root = .error e)
  reload_failed : ∀ i disk mode root e, calls[i]? = some (.reload disk mode root) →
    disk.load mode root = .error e → usedAt first calls (i + 1) = usedAt first calls i
  /-- A registry that is loaded anew is a new one, and answers all queries in the place of the old. -/
  reloaded : ∀ i disk mode root loaded, calls[i]? = some (.reload disk mode root) →
    disk.load mode root = .ok loaded →
    replyAt first calls i = some (.reloaded (.ok loaded.failures)) ∧
      (usedAt first calls (i + 1)).current =
        ⟨(usedAt first calls i).current.number + 1, loaded.registry⟩

theorem handsOutLatest (first : Registry) (calls : List Call) : HandsOutLatest first calls where
  used := isLatest_usedAt first calls
  snapshot i hcall := ⟨_, replyAt_eq hcall, isLatest_usedAt first calls i⟩
  replace i registry hcall := ⟨_, replyAt_eq hcall, isLatest_usedAt first calls i⟩
  replaced_once i j old new hold hnew hsame := by
    rcases Nat.lt_trichotomy i j with hlt | heq | hgt
    · exact absurd hsame (number_ne_of_replaced hlt hold hnew)
    · exact heq
    · exact absurd hsame.symm (number_ne_of_replaced hgt hnew hold)
  snapshot_replaced i j taken previous hij htaken hprevious :=
    ⟨number_eq_iff_of_taken hij htaken hprevious, eq_of_number_eq hij htaken hprevious⟩
  reload_fails_iff i disk mode root e hcall := by
    rw [replyAt_eq hcall, call, Option.some.injEq, Reply.reloaded.injEq, reload_fst_eq_error_iff]
  reload_failed i disk mode root e hcall h := by
    rw [usedAt_succ hcall, call, reload_of_error h]
  reloaded i disk mode root loaded hcall h := by
    rw [replyAt_eq hcall, usedAt_succ hcall, call, reload_of_ok h]
    exact ⟨rfl, rfl⟩

/-- The disk with one file of exclusion lines. -/
def oneFile (text : String) : Disk :=
  ⟨[], [(["d"], .directory), (["d", "A.rb"], .file text.toUTF8)], []⟩

/-- A run that loads a file, and later the same one when it is malformed. -/
def reloading : List Call :=
  [.snapshot, .reload (oneFile "exclude :t, \"r\"\n") .strict ⟨"d"⟩, .snapshot,
    .reload (oneFile "exclude :t\n") .strict ⟨"d"⟩, .replace .empty]

theorem handsOutLatest_reloading : HandsOutLatest .empty reloading ∧
    replyAt .empty reloading 1 = some (.reloaded (.ok [])) ∧
    (∃ e, replyAt .empty reloading 3 = some (.reloaded (.error e))) ∧
    ∃ taken, replyAt .empty reloading 2 = some (.taken taken) ∧
      replyAt .empty reloading 4 = some (.replaced taken) ∧
      taken.number = 1 ∧ taken.registry.reason? "A" "t" = some "r" := by
  have hlaws := handsOutLatest .empty reloading
  have hloaded : ((oneFile "exclude :t, \"r\"\n").load .strict ⟨"d"⟩).map (fun loaded =>
      (loaded.failures, loaded.registry.reason? "A" "t")) = .ok ([], some "r") := by decide +kernel
  obtain ⟨loaded, hload, hanswers⟩ := Outcome.map_eq_ok_iff.mp hloaded
  obtain ⟨hfailures, hreason⟩ := Prod.mk.inj hanswers
  have hfails : ((oneFile "exclude :t\n").load .strict ⟨"d"⟩).toOption.map (·.registry) = none := by
    decide +kernel
  obtain ⟨hreply, hused⟩ := hlaws.reloaded 1 _ _ _ loaded rfl hload
  obtain ⟨taken, htaken, hlatest⟩ := hlaws.snapshot 2 rfl
  obtain ⟨previous, hprevious, -⟩ := hlaws.replace 4 _ rfl
  -- Between the snapshot and the replacement there is only the load that fails.
  obtain ⟨hsame, heq⟩ := hlaws.snapshot_replaced 2 4 taken previous (by decide) htaken hprevious
  have hidentical : taken = previous := by
    refine heq (hsame.mpr fun k call hk hk' hcall => ?_)
    obtain rfl : k = 3 := by omega
    exact Option.some.inj hcall ▸ hfails
  have htaken' : taken = ⟨1, loaded.registry⟩ := (hlatest.eq (hlaws.used 2)).trans hused
  refine ⟨hlaws, hfailures ▸ hreply, ?_, taken, htaken, hidentical ▸ hprevious, ?_, ?_⟩
  · cases hload' : (oneFile "exclude :t\n").load .strict ⟨"d"⟩ with
    | ok loaded' => rw [hload'] at hfails; cases hfails
    | error e => exact ⟨e, (hlaws.reload_fails_iff 3 _ _ _ e rfl).mpr hload'⟩
  · rw [htaken']
  · rw [htaken', hreason]

end TestExclusions.Installed
