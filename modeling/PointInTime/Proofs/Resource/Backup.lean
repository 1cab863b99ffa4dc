import PointInTime.Proofs.Instant.Stored
import PointInTime.Proofs.Resource.Object
import PointInTime.Resource.Backup

/-!
# Backups on the way to the server and back

Main statement: a backup that is written as an object is read back as a whole.
-/

namespace PointInTime

theorem BackupSpec.ofJson?_toJson (s : BackupSpec) : ofJson? s.toJson = some s := by
  have hkeys : ((("pxcCluster", Json.str s.cluster) ::
      Json.present "storageName" (s.storageName.map .str)).map Prod.fst).Nodup := by
    refine List.Nodup.sublist ?_ (by decide : ["pxcCluster", "storageName"].Nodup)
    rw [List.map_cons]
    exact (Json.keys_present_sublist _ _).cons_cons _
  unfold ofJson? toJson
  rw [Json.record?_obj hkeys]
  simp [Assoc.find?, Json.find?_present, Json.optionally_text, Json.defaulted, Json.asString?]

theorem BackupStatus.ofJson?_toJson (s : BackupStatus) : ofJson? s.toJson = some s := by
  have hkeys : ((Json.present "state" (s.state.map .str) ++
      Json.present "completed" (s.completed.map Instant.toJson) ++
      Json.present "destination" (s.destination.map .str) ++
      Json.present "storageName" (s.storageName.map .str) ++
      Json.present "latestRestorableTime" (s.latestRestorableTime.map Instant.toJson)).map
      Prod.fst).Nodup := by
    refine List.Nodup.sublist ?_ (by decide :
      ["state", "completed", "destination", "storageName", "latestRestorableTime"].Nodup)
    simp only [List.map_append, List.append_assoc]
    exact (Json.keys_present_sublist _ _).append ((Json.keys_present_sublist _ _).append
      ((Json.keys_present_sublist _ _).append
        ((Json.keys_present_sublist _ _).append (Json.keys_present_sublist _ _))))
  unfold ofJson? toJson
  rw [Json.record?_obj hkeys]
  simp [Assoc.find?_append, Json.find?_present, Json.optionally_text, Instant.optionally_toJson]

theorem BackupStatus.optionally_toJson (o : Option BackupStatus) :
    Json.optionally ofJson? (o.map toJson) = some o :=
  Json.optionally_map ofJson?_toJson (fun _ h => by cases h) o

namespace Backup

def ofStored? (j : Json) : Option Backup :=
  (Object.ofJson? j).bind ofObject?

theorem ofStored?_toJson (b : Backup) : ofStored? b.toJson = some b := by
  obtain ⟨o, ho, hparts⟩ := Object.exists_object_of_parts b.apiVersion b.kind b.metadata
    b.spec.toJson (b.status.map BackupStatus.toJson)
  have hread : Object.ofJson? b.toJson = some o := ho
  rw [ofStored?, hread, Option.bind_some, ofObject?, hparts]
  unfold ofJson?
  rw [Object.record?_parts]
  simp [Object.parts, Assoc.find?, Json.find?_present, Json.defaulted, Json.required,
    Json.asString?, Metadata.ofJson?_toJson_stored, BackupSpec.ofJson?_toJson,
    BackupStatus.optionally_toJson]

end Backup
end PointInTime
