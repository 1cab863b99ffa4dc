import PointInTime.Procedure.Retry
import PointInTime.Server.Request
import PointInTime.Standby.Tracking

/-!
# Keeping the tracking record

The record of a standby cluster lies in a configuration of its namespace.  It is overwritten as a
whole, by whoever saves last.
-/

namespace PointInTime
namespace TrackingRecord

def manager : String := "rewind-controller"

/-- The stored record; none if it was never saved or cannot be read. -/
def load (scope cluster : String) : Operation (Option TrackingRecord) := do
  let data ← Operation.getConfig scope (Name.forTracking cluster)
  return data.bind ofData?

/-- Save the record, trying again when that may help. -/
def save (scope cluster : String) (record : TrackingRecord) : Operation Unit :=
  Procedure.retryLimited {} RetryPolicy.maxAttempts_default_pos
    (Operation.applyConfig scope (Name.forTracking cluster) manager record.toData)

end TrackingRecord
end PointInTime
