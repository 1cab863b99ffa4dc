import PointInTime.Resource.Restore
import PointInTime.Proofs.Instant.Stored
import PointInTime.Proofs.Resource.Object

/-!
# Restore jobs on the way to the server and back

A restore job is sent as an object, stored as one, and read from what is stored.  Main statement: a
job is read back as a whole, and with whatever status has been put in the place of its own.
-/

namespace PointInTime

theorem BackupSource.ofJson?_toJson (s : BackupSource) : ofJson? s.toJson = some s := by
  have hkeys : ((Json.present "destination" (s.destination.map .str) ++
      Json.present "storageName" (s.storageName.map .str)).map Prod.fst).Nodup := by
    refine List.Nodup.sublist ?_ (by decide : ["destination", "storageName"].Nodup)
    rw [List.map_append]
    exact (Json.keys_present_sublist _ _).append (Json.keys_present_sublist _ _)
  unfold ofJson? toJson
  rw [Json.record?_obj hkeys]
  simp [Assoc.find?_append, Json.find?_present, Json.optionally_text]

theorem BackupSource.optionally_toJson (o : Option BackupSource) :
    Json.optionally ofJson? (o.map toJson) = some o :=
  Json.optionally_map ofJson?_toJson (fun _ h => by cases h) o

theorem RecoveryTarget.ofJson?_toJson (t : RecoveryTarget) : ofJson? t.toJson = some t := by
  have hkeys : ((("type", Json.str t.targetType) :: Json.present "date" (t.date.map .str) ++
      Json.present "backupSource" (t.backupSource.map BackupSource.toJson)).map
      Prod.fst).Nodup := by
    refine List.Nodup.sublist ?_ (by decide : ["type", "date", "backupSource"].Nodup)
    simp only [List.cons_append, List.map_cons, List.map_append]
    exact ((Json.keys_present_sublist _ _).append (Json.keys_present_sublist _ _)).cons_cons _
  unfold ofJson? toJson
  rw [Json.record?_obj hkeys]
  simp [Assoc.find?_append, Assoc.find?, Json.find?_present, Json.optionally_text, Json.required,
    Json.asString?, BackupSource.optionally_toJson]

theorem RecoveryTarget.optionally_toJson (o : Option RecoveryTarget) :
    Json.optionally ofJson? (o.map toJson) = some o :=
  Json.optionally_map ofJson?_toJson (fun _ h => by cases h) o

theorem RestoreSpec.ofJson?_toJson (s : RestoreSpec) : ofJson? s.toJson = some s := by
  have hkeys : ((("pxcCluster", Json.str s.cluster) ::
      Json.present "backupName" (s.backupName.map .str) ++
      Json.present "backupSource" (s.backupSource.map BackupSource.toJson) ++
      Json.present "pitr" (s.target.map RecoveryTarget.toJson)).map Prod.fst).Nodup := by
    refine List.Nodup.sublist ?_
      (by decide : ["pxcCluster", "backupName", "backupSource", "pitr"].Nodup)
    simp only [List.cons_append, List.map_cons, List.map_append, List.append_assoc]
    exact ((Json.keys_present_sublist _ _).append
      ((Json.keys_present_sublist _ _).append (Json.keys_present_sublist _ _))).cons_cons _
  unfold ofJson? toJson
  rw [Json.record?_obj hkeys]
  simp [Assoc.find?_append, Assoc.find?, Json.find?_present, Json.optionally_text, Json.required,
    Json.asString?, BackupSource.optionally_toJson, RecoveryTarget.optionally_toJson]

theorem RestoreStatus.ofJson?_toJson (s : RestoreStatus) : ofJson? s.toJson = some s := by
  have hkeys : ((Json.present "state" (s.state.map .str) ++
      Json.present "comments" (s.comments.map .str) ++
      Json.present "completed" (s.completed.map Instant.toJson)).map Prod.fst).Nodup := by
    refine List.Nodup.sublist ?_ (by decide : ["state", "comments", "completed"].Nodup)
    simp only [List.map_append, List.append_assoc]
    exact (Json.keys_present_sublist _ _).append
      ((Json.keys_present_sublist _ _).append (Json.keys_present_sublist _ _))
  unfold ofJson? toJson
  rw [Json.record?_obj hkeys]
  simp [Assoc.find?_append, Json.find?_present, Json.optionally_text, Instant.optionally_toJson]

theorem RestoreStatus.optionally_toJson (o : Option RestoreStatus) :
    Json.optionally ofJson? (o.map toJson) = some o :=
  Json.optionally_map ofJson?_toJson (fun _ h => by cases h) o

namespace Restore

def ofStored? (j : Json) : Option Restore :=
  (Object.ofJson? j).bind ofObject?

/-- A job as it is stored, with anything in the place of its status. -/
def storedWith (r : Restore) (status : Option Json) : Json :=
  .obj (Object.parts r.apiVersion r.kind r.metadata.toJson r.spec.toJson status)

theorem ofStored?_storedWith (r : Restore) {slot : Option Json} {status : Option RestoreStatus}
    (hstatus : Json.optionally RestoreStatus.ofJson? slot = some status) :
    ofStored? (r.storedWith slot) = some { r with status := status } := by
  obtain ⟨o, ho, hparts⟩ := Object.exists_object_of_parts r.apiVersion r.kind r.metadata
    r.spec.toJson slot
  rw [ofStored?, storedWith, ho, Option.bind_some, ofObject?, hparts]
  unfold ofJson?
  rw [Object.record?_parts]
  simp [Object.parts, Assoc.find?, Json.find?_present, Json.defaulted, Json.required,
    Json.asString?, hstatus, Metadata.ofJson?_toJson_stored, RestoreSpec.ofJson?_toJson]

theorem ofStored?_toJson (r : Restore) : ofStored? r.toJson = some r :=
  ofStored?_storedWith r (RestoreStatus.optionally_toJson r.status)

end Restore

/-!
## The state as it is written

The state of a stored job is a text in its status, which may be an object or, as every record, a
list of its parts.  A job that can be read is in the state that is written, whatever else stands
there.
-/

namespace RestoreStatus

def word? : Json → Option String
  | .obj fields => (Assoc.find? "state" fields).bind Json.asString?
  | .arr (state :: _) => state.asString?
  | _ => none

theorem state_eq_word? {j : Json} {status : RestoreStatus} (h : ofJson? j = some status) :
    status.state = word? j := by
  obtain ⟨r, hr, hstate⟩ : ∃ r, j.record? ["state", "comments", "completed"] = some r ∧
      Json.optionally Json.asString? (r "state") = some status.state := by
    unfold ofJson? at h
    simp only [Option.bind_eq_bind, Option.bind_eq_some_iff] at h
    obtain ⟨r, hr, state, hstate, _, _, _, _, hstatus⟩ := h
    exact ⟨r, hr, by rw [hstate, ← Option.some.inj hstatus]⟩
  rw [Json.eq_of_optionally_asString? hstate]
  cases j with
  | obj fields =>
      rw [Json.record?_obj_eq hr]
      rfl
  | arr items =>
      rw [Json.record?_arr_eq hr]
      cases items with
      | nil => rfl
      | cons state rest => rfl
  | _ => cases hr

end RestoreStatus

namespace Restore

def word? (j : Json) : Option String :=
  (j.field? "status").bind RestoreStatus.word?

theorem field?_status_of_object {j : Json} {o : Object} (h : Object.ofJson? j = some o) :
    o.toJson.field? "status" = j.field? "status" := by
  unfold Object.ofJson? at h
  simp only [Option.bind_eq_bind, Option.bind_eq_some_iff] at h
  obtain ⟨fields, hfields, metadata, _, ho⟩ := h
  have hj : j = .obj fields := by
    cases j <;> cases hfields
    rfl
  have hdata : Assoc.find? "status" (Object.splitTypes (fields.erase "metadata")).2 =
      Assoc.find? "status" fields := by
    unfold Object.splitTypes
    split <;> simp [Assoc.find?_erase_of_ne]
  rw [hj, ← Option.some.inj ho]
  simp only [Object.toJson, Json.field?]
  split <;> simpa [Assoc.find?] using hdata

theorem state_eq_ofText_word? {j : Json} {r : Restore} (h : ofStored? j = some r) :
    r.state = .ofText ((word? j).getD "") := by
  obtain ⟨o, ho, hr⟩ := Option.bind_eq_some_iff.mp h
  have hstatus : Json.optionally RestoreStatus.ofJson? (j.field? "status") = some r.status := by
    unfold ofObject? ofJson? at hr
    simp only [Option.bind_eq_bind, Option.bind_eq_some_iff] at hr
    obtain ⟨record, hrecord, _, _, _, _, _, _, _, _, status, hstatus, hr⟩ := hr
    have hslot : record "status" = o.toJson.field? "status" := by
      rw [Json.record?_obj_eq hrecord]
      rfl
    rw [← field?_status_of_object ho, ← hslot, hstatus, ← Option.some.inj hr]
  have hstate : r.status.bind (·.state) = word? j := by
    unfold word?
    cases hslot : j.field? "status" with
    | none =>
        rw [hslot] at hstatus
        rw [← Option.some.inj hstatus]
        rfl
    | some v =>
        rw [hslot] at hstatus
        rcases Json.optionally_some_cases hstatus with ⟨rfl, hnone⟩ | ⟨status, hread, hsome⟩
        · rw [hnone]
          rfl
        · rw [hsome]
          exact RestoreStatus.state_eq_word? hread
  rw [state, hstate]

end Restore
end PointInTime
