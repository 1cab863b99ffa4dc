import PointInTime.Json.Record
import PointInTime.Instant.Rfc3339

/-!
# Instants in JSON

Stored objects hold instants in RFC 3339 and are read leniently.  What this library itself shows
holds them in the plain form, and is read like what people give.
-/

namespace PointInTime
namespace Instant

/-! ## In stored objects -/

def ofJson? (j : Json) : Option Instant :=
  j.asString?.bind fun s => ofStored? s.toList

def toJson (t : Instant) : Json :=
  .str (String.ofList t.storedText)

/-! ## In what is shown -/

def ofShownJson? (j : Json) : Option Instant :=
  j.asString?.bind fun s => ofGiven? s.toList

/-- Reading an instant that was shown or left out; an empty text leaves it out too. -/
def ofOptionalShown? (slot : Option Json) : Option (Option Instant) :=
  match slot with
  | some (.str "") => some none
  | slot => Json.optionally ofShownJson? slot

def shownJson (t : Instant) : Json :=
  .str t.format

def optionalJson (t : Option Instant) : Json :=
  (t.map shownJson).getD .null

end Instant
end PointInTime
