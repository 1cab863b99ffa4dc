import PointInTime.Error
import PointInTime.Json.Basic

/-!
# Options of a restore

What the caller chooses for one restore; whatever is left open is decided when the restore is
planned.
-/

namespace PointInTime

structure RestoreOptions where
  sourceScope : String
  /-- The only cluster of the namespace if none is given. -/
  sourceCluster : Option String := none
  /-- The source namespace if none is given. -/
  targetScope : Option String := none
  /-- Named after the source and the instant if none is given. -/
  targetCluster : Option String := none
  /-- The newest backup that covers the instant if none is given. -/
  backupName : Option String := none
  /-- The latest instant that can be restored if none is given. -/
  instant : Option Instant := none
  /-- Whether a missing target namespace is to be created. -/
  createNamespace : Bool := false
deriving DecidableEq

namespace RestoreOptions

def target (o : RestoreOptions) : String :=
  o.targetScope.getD o.sourceScope

end RestoreOptions
end PointInTime
