import PointInTime.Proofs.Resource.Backup
import PointInTime.Proofs.Restore.Job
import PointInTime.Proofs.Server.Places

/-!
# Objects are read as they were written

What is written to the server is read from it by the same words, however it was made.  The operator
writes to a restore job what becomes of it, and changes nothing else of it.

Main statement: every restore job and every backup is read back as it was written, and a job that
was created is read as the one that was built, with the status that it was given last.
-/

namespace PointInTime

/-!
## Giving a status
-/

/-- The fields of an object whose status is replaced or taken off. -/
def replaceStatus (status : Option Json) (fields : Assoc Json) : Assoc Json :=
  match status with
  | some s => fields.set "status" s
  | none => fields.erase "status"

theorem find?_metadata_replaceStatus (status : Option Json) (fields : Assoc Json) :
    (replaceStatus status fields).find? "metadata" = fields.find? "metadata" := by
  cases status with
  | some s => exact Assoc.find?_set_of_ne (by decide) s fields
  | none => exact Assoc.find?_erase_of_ne (by decide) fields

theorem Restore.mapFields_storedWith (r : Restore) (old new : Option Json) :
    (r.storedWith old).mapFields (replaceStatus new) = r.storedWith new := by
  cases old with
  | none =>
      cases new with
      | none => rfl
      | some s => rfl
  | some s =>
      cases new with
      | none => rfl
      | some s' => rfl

namespace Store

variable {scope name : String}

theorem placeOf_mapFields_replaceStatus (status : Option Json) (j : Json) :
    placeOf (j.mapFields (replaceStatus status)) = placeOf j := by
  cases j with
  | obj fields =>
      simp [placeOf, metadataText, Json.path?, Json.field?, Json.mapFields,
        find?_metadata_replaceStatus]
  | _ => rfl

theorem find?_setStatus (status : Option Json) (objects : List Json) :
    find? scope name (setStatus scope name status objects) =
      (find? scope name objects).map fun j => j.mapFields (replaceStatus status) := by
  have hset : setStatus scope name status objects = objects.map fun j =>
      if isAt scope name j = true then j.mapFields (replaceStatus status) else j := by
    unfold setStatus replaceStatus
    cases status <;> rfl
  have hat (j : Json) : isAt scope name
      (if isAt scope name j = true then j.mapFields (replaceStatus status) else j) =
        isAt scope name j := by
    split
    · rw [Bool.eq_iff_iff, isAt_iff, isAt_iff, placeOf_mapFields_replaceStatus]
    · rfl
  rw [hset, find?, List.find?_map]
  simp only [Function.comp_def, hat]
  cases hfound : find? scope name objects with
  | none =>
      unfold find? at hfound
      rw [hfound]
      rfl
  | some j =>
      have hj : isAt scope name j = true := List.find?_some hfound
      unfold find? at hfound
      rw [hfound]
      simp [hj]

/-- By induction on the statuses that were given: the last one stands, and the rest is unchanged. -/
theorem find?_foldl_setStatus {r : Restore} {status : Option Json} {objects : List Json}
    (hr : find? scope name objects = some (r.storedWith status)) (given : List (Option Json)) :
    find? scope name (given.foldl (fun objects s => setStatus scope name s objects) objects) =
      some (r.storedWith (given.getLast?.getD status)) := by
  induction given generalizing status objects with
  | nil => exact hr
  | cons first rest ih =>
      have hfirst : find? scope name (setStatus scope name first objects) =
          some (r.storedWith first) := by
        rw [find?_setStatus, hr, Option.map_some, Restore.mapFields_storedWith]
      rw [List.foldl_cons, ih hfirst, List.getLast?_cons]
      rfl

/-!
## Reading a job
-/

theorem readRestore_eq_ok {j : Json} {r : Restore} (h : Restore.ofStored? j = some r) :
    readRestore (some j) = Except.ok (some r) := by
  obtain ⟨o, ho, hr⟩ := Option.bind_eq_some_iff.mp h
  simp only [readRestore, readOne, ho, bind, Except.bind, hr]
  rfl

theorem getRestore_of_created {s s' : Store} {job : Restore} {given : List (Option Json)}
    {status : Option RestoreStatus} (hnew : job.status = none)
    (hcreated : (s.perform (.createRestore job)).1 = Except.ok ())
    (hs' : find? job.metadata.scope job.metadata.name s'.restores =
      find? job.metadata.scope job.metadata.name
        (given.foldl
          (fun objects v => setStatus job.metadata.scope job.metadata.name v objects)
          (s.perform (.createRestore job)).2.restores))
    (hstatus : Json.optionally RestoreStatus.ofJson? (given.getLast?.getD none) = some status) :
    (s'.perform (.getRestore job.metadata.scope job.metadata.name)).1 =
      Except.ok (some { job with status := status }) := by
  have hstored : job.toJson = job.storedWith none := by
    unfold Restore.toJson
    rw [hnew]
    rfl
  have hplaced := find?_of_createRestore hcreated
  rw [hstored] at hplaced
  rw [find?_foldl_setStatus hplaced given] at hs'
  show readRestore (find? job.metadata.scope job.metadata.name s'.restores) = _
  rw [hs']
  exact readRestore_eq_ok (Restore.ofStored?_storedWith job hstatus)

end Store

/-!
## Whatever was written
-/

theorem objects_read_back :
    (∀ r : Restore, Restore.ofStored? r.toJson = some r) ∧
      (∀ b : Backup, Backup.ofStored? b.toJson = some b) ∧
      ∀ (name scope cluster : String) (backup : BackupRecord) (instant : Instant)
        (storageName : String) (job : Restore) (s s' : Store) (given : List (Option Json))
        (status : Option RestoreStatus),
        Job.build name scope cluster backup instant storageName = Except.ok job →
        (s.perform (.createRestore job)).1 = Except.ok () →
        Store.find? scope name s'.restores = Store.find? scope name
          (given.foldl (fun objects v => Store.setStatus scope name v objects)
            (s.perform (.createRestore job)).2.restores) →
        Json.optionally RestoreStatus.ofJson? (given.getLast?.getD none) = some status →
        (s'.perform (.getRestore scope name)).1 =
          Except.ok (some { job with status := status }) := by
  refine ⟨Restore.ofStored?_toJson, Backup.ofStored?_toJson, ?_⟩
  intro name scope cluster backup instant storageName job s s' given status hjob hcreated hs'
    hstatus
  obtain ⟨rfl, rfl, hnew, -⟩ := Job.build_eq_ok hjob
  exact Store.getRestore_of_created hnew hcreated hs' hstatus

/-- A backup of the last second of 2016, a leap second, and half a second into it. -/
def exampleLeapRecord : BackupRecord where
  name := "b1"
  cluster := "c1"
  state := .succeeded
  completedAt := some ⟨1483228799, 1500000000, by decide⟩
  destination := some "s3://b/b1"
  storageName := none
  archivesLogs := false
  latestRestorableTime := none

/-- What an operator may write to a job. -/
def exampleGiven : List (Option Json) :=
  [some (.obj [("state", .str "Running")]),
    some (.obj [("state", .str "Succeeded"), ("completed", .str "2016-12-31T23:59:60.500Z")])]

theorem job_read_with_leap_second :
    ∃ (job : Restore) (s' : Store),
      Job.build "r1" "staging" "c2" exampleLeapRecord .epoch "s3" = Except.ok job ∧
        (s'.perform (.getRestore "staging" "r1")).1 =
          Except.ok (some { job with
            status := some ⟨some "Succeeded", none, exampleLeapRecord.completedAt⟩ }) := by
  obtain ⟨-, -, hread⟩ := objects_read_back
  obtain ⟨job, hjob⟩ : ∃ job, Job.build "r1" "staging" "c2" exampleLeapRecord .epoch "s3" =
      Except.ok job := ⟨_, rfl⟩
  have hcreated : (Store.perform {} (.createRestore job)).1 = Except.ok () := by
    cases hjob
    rfl
  have hstatus : Json.optionally RestoreStatus.ofJson? (exampleGiven.getLast?.getD none) =
      some (some ⟨some "Succeeded", none, exampleLeapRecord.completedAt⟩) := by
    decide +kernel
  let later : Store :=
    { restores := exampleGiven.foldl (fun objects v => Store.setStatus "staging" "r1" v objects)
        (Store.perform {} (.createRestore job)).2.restores }
  exact ⟨job, later, hjob, hread _ _ _ _ _ _ job {} later exampleGiven _ hjob hcreated rfl hstatus⟩

end PointInTime
