import TestExclusions.Load

/-! A registry in use that can be exchanged for another one. Each registry that is installed gets
a number of its own, so that two installations are told apart even if they hold the same. -/
namespace TestExclusions

/-- A registry and the number of its installation. -/
structure Snapshot where
  number : Nat
  registry : Registry
  deriving DecidableEq, Repr

/-- The registry installed at present. -/
structure Installed where
  current : Snapshot
  deriving DecidableEq, Repr

namespace Installed

/-- The first installation. -/
def start (registry : Registry) : Installed := ⟨0, registry⟩

def snapshot (installed : Installed) : Snapshot := installed.current

/-- Installs a registry, and returns the one installed before. -/
def replace (installed : Installed) (registry : Registry) : Snapshot × Installed :=
  (installed.current, ⟨⟨installed.current.number + 1, registry⟩⟩)

/-- Installs what a load yields; if the load fails, the registry in use stays. -/
def reload (installed : Installed) (disk : Disk) (mode : LoadMode) (root : Path) :
    Except LoadError (List LoadFailure) × Installed :=
  match disk.load mode root with
  | .ok loaded => (.ok loaded.failures, (installed.replace loaded.registry).2)
  | .error e => (.error e, installed)

end Installed
end TestExclusions
