import VolumeMigration.Helm.Call

/-!
# The register of releases

Every release that a run has begun to install is recorded, with the attempt it belongs to,
and forgotten only when it is gone. So the register holds at every moment all releases that
may still exist.

A release is forgotten by its name and namespace. That is enough because names are made from
the ids of attempts.
-/

namespace VolumeMigration

/-- A release that may exist, and the attempt that installed it. -/
structure ReleaseRecord where
  release : Helm.ReleaseRef
  attempt : String
  deriving DecidableEq, Repr

/-- The recorded releases, oldest first. -/
structure Registry where
  records : List ReleaseRecord := []
  deriving DecidableEq, Repr

namespace Registry

def isEmpty (g : Registry) : Bool := g.records.isEmpty

def size (g : Registry) : Nat := g.records.length

/-- Records a release. -/
def record (g : Registry) (entry : ReleaseRecord) : Registry := ⟨g.records ++ [entry]⟩

/-- Forgets every record of a release. -/
def remove (g : Registry) (ns name : String) : Registry :=
  ⟨g.records.filter fun r ↦ !(r.release.name == name && r.release.ns == ns)⟩

/-- The records of one attempt. -/
def ofAttempt (g : Registry) (attempt : String) : List ReleaseRecord :=
  g.records.filter (·.attempt == attempt)

@[simp] theorem records_record (g : Registry) (entry : ReleaseRecord) :
    (g.record entry).records = g.records ++ [entry] := rfl

theorem mem_records_remove {g : Registry} {ns name : String} {r : ReleaseRecord} :
    r ∈ (g.remove ns name).records ↔
      r ∈ g.records ∧ ¬(r.release.name = name ∧ r.release.ns = ns) := by
  simp only [remove, List.mem_filter, Bool.not_eq_true', Bool.and_eq_false_iff,
    beq_eq_false_iff_ne, ne_eq, Classical.not_and_iff_not_or_not]

end Registry

end VolumeMigration
