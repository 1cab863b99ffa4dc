import PointInTime.Proofs.Instant.Stamp
import PointInTime.Proofs.Server.Configs
import PointInTime.Proofs.Server.Looks
import PointInTime.Proofs.Standby.Tracking
import PointInTime.Standby.Tracker

/-!
# Identities in the store

The identity of a backup is stored as texts, to the second.  Main statement: whatever the server
holds, an identity that is saved can be loaded, and what is loaded identifies exactly the backups
that lie in the same place and were completed in the same second.  A leap second is a second of its
own, and no year is too far away for it.
-/

namespace PointInTime

namespace TrackingRecord

variable {b b' : BackupRecord} {t : Instant} {destination : String} {record : TrackingRecord}

theorem sameIdentity_iff (hcompleted : b.completedAt = some t)
    (hdestination : b.destination = some destination) :
    SameIdentity b' b ↔
      b'.destination = some destination ∧ ∃ t', b'.completedAt = some t' ∧ t'.SameSecond t := by
  rw [SameIdentity, hcompleted, hdestination, and_comm, Option.map_some, Option.map_eq_some_iff]
  simp only [Instant.truncate_eq_truncate_iff]

/-!
## Saving and loading
-/

variable {stamp : Stamp} {c : Clock} {s : Store}

theorem run_save (stamp : Stamp) (c : Clock) (s : Store) (scope cluster : String)
    (record : TrackingRecord) :
    Procedure.run (Store.serving id stamp) (save scope cluster record).run c s =
      (Except.ok (), c,
        (s.perform (.applyConfig scope (Name.forTracking cluster) manager record.toData)).2) :=
  rfl

theorem outcome_load {scope cluster : String} {data : Assoc String}
    (hs : s.configAt scope (Name.forTracking cluster) =
      some (ConfigMap.toJson scope (Name.forTracking cluster) data)) :
    s.outcome stamp c (load scope cluster) = Except.ok (ofData? data) := by
  have hread : Procedure.run (Store.serving id stamp)
      (Operation.getConfig scope (Name.forTracking cluster)).run c s =
        (Except.ok (some data), c, s) :=
    Store.run_send_of_isLook rfl (Store.perform_getConfig hs)
  unfold Store.outcome load
  rw [ExceptT.run_bind, Procedure.bind_eq_bind, Procedure.run_bind, hread]
  rfl

theorem identity_survives_storage (stamp : Stamp) (c : Clock) (s : Store) (scope cluster : String)
    (hcompleted : b.completedAt = some t) (hdestination : b.destination = some destination) :
    ∃ record s' loaded, ofRecord? b = some record ∧
      Procedure.run (Store.serving id stamp) (save scope cluster record).run c s =
        (Except.ok (), c, s') ∧
      s'.outcome stamp c (load scope cluster) = Except.ok (some loaded) ∧
      loaded.identifies b = true ∧
      ∀ b', loaded.identifies b' = true ↔
        b'.destination = some destination ∧ ∃ t', b'.completedAt = some t' ∧ t'.SameSecond t := by
  have hrecord : ofRecord? b = some ⟨t.truncate, destination⟩ := by
    simp [ofRecord?, hcompleted, hdestination]
  have hwritten := Store.configAt_perform_applyConfig scope (Name.forTracking cluster) manager
    (toData ⟨t.truncate, destination⟩) s
  refine ⟨_, _, ⟨t.truncate, destination⟩, hrecord, run_save stamp c s scope cluster _, ?_, ?_, ?_⟩
  · rw [outcome_load hwritten, ofData?_toData_of_identity hrecord]
  · exact (identifies_iff hrecord).mpr ⟨rfl, rfl⟩
  · intro b'
    rw [identifies_iff hrecord, sameIdentity_iff hcompleted hdestination]

/-- A backup that was completed in a leap second of the year −1, half a second into it. -/
def exampleRecord : BackupRecord where
  name := "b1"
  cluster := "c1"
  state := .succeeded
  completedAt := some ⟨-62167219201, 1500000000, by decide⟩
  destination := some "s3://b/b1"
  storageName := none
  archivesLogs := false
  latestRestorableTime := none

/-- The same second without the leap second is another one. -/
theorem identity_of_leap_second :
    ∃ record s' loaded, ofRecord? exampleRecord = some record ∧
      record.completedAt.format = "-0001-12-31 23:59:60" ∧
      Procedure.run (Store.serving id ⟨.epoch, ""⟩) (save "staging" "c2" record).run {} {} =
        (Except.ok (), {}, s') ∧
      s'.outcome ⟨.epoch, ""⟩ {} (load "staging" "c2") = Except.ok (some loaded) ∧
      loaded.identifies exampleRecord = true ∧
      loaded.identifies
        { exampleRecord with completedAt := some ⟨-62167219201, 500000000, by decide⟩ } =
          false := by
  obtain ⟨record, s', loaded, hrecord, hsaved, hloaded, hself, hothers⟩ :=
    identity_survives_storage ⟨.epoch, ""⟩ {} {} "staging" "c2" (b := exampleRecord) rfl rfl
  refine ⟨record, s', loaded, hrecord, ?_, hsaved, hloaded, hself, ?_⟩
  · cases hrecord
    decide +kernel
  · rw [Bool.eq_false_iff, Ne, hothers]
    rintro ⟨-, t', ht', -, hnanos⟩
    cases ht'
    revert hnanos
    decide

end TrackingRecord
end PointInTime
