import TestExclusions.Log
import TestExclusions.Proofs.Load.Modes

/-! What a load warns of. Each file that is left out is told of once, those whose suites belong to
others before those that cannot be loaded. -/
namespace TestExclusions

namespace Load

/-- Failures in the order in which they are told of. -/
def inTurn (failures : List LoadFailure) : List LoadFailure :=
  failures.filter isDoubled ++ failures.filter (!isDoubled ·)

end Load

namespace Disk
open Load (inTurn)

/-- Nothing that a walk logs is a warning. -/
theorem level_of_mem_walkEvents {disk : Disk} {root : Path} {event : Event}
    (h : event ∈ disk.walkEvents root) : event.level = .debug := by
  unfold walkEvents at h
  split at h
  · cases h
  · obtain ⟨path, -, rfl⟩ := List.mem_map.mp h
    rfl

theorem filter_walkEvents (disk : Disk) (root : Path) :
    (disk.walkEvents root).filter (·.level = .warn) = [] := by
  rw [List.filter_eq_nil_iff]
  intro event hevent
  simp [level_of_mem_walkEvents hevent]

/-- What a load logs if it succeeds. -/
theorem loadEvents_of_load {disk : Disk} (hdisk : disk.WellFormed) {mode : LoadMode} {root : Path}
    {loaded : Loaded} (hload : disk.load mode root = .ok loaded) (schedule : Schedule) :
    ∃ definitions, disk.loadEvents schedule mode root = disk.walkEvents root ++
      ((loaded.failures.filter Load.isDoubled).map .skipped ++
        (schedule.order definitions).map .read ++
        ((loaded.failures.filter (!Load.isDoubled ·)).map .skipped ++ [.loaded root loaded])) := by
  unfold loadEvents
  cases hsuiteFiles : disk.suiteFiles root with
  | error e =>
    rw [Load.load_of_suiteFiles_error hsuiteFiles] at hload
    cases hload
  | ok found =>
    have hfound := increasing_of_suiteFiles hdisk hsuiteFiles
    have hbestEffort : disk.load .bestEffort root = .ok loaded := by
      cases mode with
      | bestEffort => exact hload
      | strict => exact ((Load.load_strict_eq_ok_iff hdisk).mp hload).1
    obtain ⟨hdoubled, hunloadable⟩ := Load.failures_of_passes hfound hsuiteFiles hbestEffort
    -- a strict load that succeeds has left nothing out
    have hsilent :
        (mode = .strict && !(loaded.failures.filter Load.isDoubled).isEmpty) = false := by
      cases mode with
      | bestEffort => rfl
      | strict => simp [((Load.load_strict_eq_ok_iff hdisk).mp hload).2]
    refine ⟨(Load.readAll disk (Load.claim [] found).1).1.map (·.2), ?_⟩
    dsimp only
    rw [hdoubled, hunloadable, hload, if_neg (by simpa using hsilent)]

/-- A load warns of each file that it leaves out, and of nothing else. -/
theorem warnings_of_load {disk : Disk} (hdisk : disk.WellFormed) {mode : LoadMode} {root : Path}
    {loaded : Loaded} (hload : disk.load mode root = .ok loaded) (schedule : Schedule) :
    (disk.loadEvents schedule mode root).filter (·.level = .warn) =
      (inTurn loaded.failures).map .skipped := by
  obtain ⟨definitions, hevents⟩ := loadEvents_of_load hdisk hload schedule
  have hskipped : ∀ failures : List LoadFailure,
      (failures.map Event.skipped).filter (·.level = .warn) = failures.map .skipped := by
    intro failures
    rw [List.filter_eq_self]
    intro event hevent
    obtain ⟨failure, -, rfl⟩ := List.mem_map.mp hevent
    rfl
  have hread : ((schedule.order definitions).map Event.read).filter (·.level = .warn) = [] := by
    rw [List.filter_eq_nil_iff]
    intro event hevent
    obtain ⟨definition, -, rfl⟩ := List.mem_map.mp hevent
    simp [Event.read]
  have hlast : [Event.loaded root loaded].filter (·.level = .warn) = [] := rfl
  simp only [hevents, List.filter_append, filter_walkEvents, hskipped, hread, hlast, inTurn,
    List.nil_append, List.append_nil, List.map_append]

end Disk
end TestExclusions
