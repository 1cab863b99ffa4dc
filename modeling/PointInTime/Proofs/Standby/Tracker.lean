import PointInTime.Standby.Tracker
import PointInTime.Proofs.Server.Operation

/-!
# What loading and saving a tracking record ensures

Loading is one reading.  Saving writes one and the same configuration until a write succeeds or
nothing is to be gained by another one: all writes but the last have failed, and the last one has
succeeded exactly when saving has.
-/

namespace PointInTime
namespace TrackingRecord

variable {asks : History Server → Demand → Prop} {h : History Server}

theorem ensures_load {returns : History Server → Option TrackingRecord → Prop}
    {fails : History Server → Error → Prop} {scope cluster : String}
    (hasks : asks h (.server (.getConfig scope (Name.forTracking cluster))))
    (hreturns : ∀ data : Option (Assoc String),
      returns (h ++ [⟨.server (.getConfig scope (Name.forTracking cluster)), Except.ok data⟩])
        (data.bind ofData?))
    (hfails : ∀ e,
      fails (h ++ [⟨.server (.getConfig scope (Name.forTracking cluster)), Except.error e⟩]) e) :
    Operation.Ensures asks returns fails (load scope cluster) h := by
  unfold load
  rw [Operation.ensures_bind]
  exact Operation.ensures_send.mpr ⟨hasks, hreturns, hfails⟩

def write (scope cluster : String) (record : TrackingRecord) : Request :=
  .applyConfig scope (Name.forTracking cluster) manager record.toData

def IsFailedWrite (scope cluster : String) (record : TrackingRecord) (e : Exchange Server) : Prop :=
  ∃ error : Error, e = ⟨.server (write scope cluster record), Except.error error⟩

theorem ensures_save {returns : History Server → Unit → Prop}
    {fails : History Server → Error → Prop} {scope cluster : String} {record : TrackingRecord}
    (hasks : ∀ more, asks (h ++ more) (.server (write scope cluster record)))
    (hreturns : ∀ more, (∀ e ∈ more, IsFailedWrite scope cluster record e) →
      returns (h ++ more ++ [⟨.server (write scope cluster record), Except.ok ()⟩]) ())
    (hfails : ∀ more e, (∀ e ∈ more, IsFailedWrite scope cluster record e) →
      fails (h ++ more ++ [⟨.server (write scope cluster record), Except.error e⟩]) e) :
    Operation.Ensures asks returns fails (save scope cluster record) h := by
  apply Procedure.ensures_retryLimited
    (fun h' => ∃ more, h' = h ++ more ∧ ∀ e ∈ more, IsFailedWrite scope cluster record e) {}
    (by decide)
  · rintro _ ⟨more, rfl, hmore⟩
    refine ⟨hasks more, fun x : Except Error Unit => ?_⟩
    cases x with
    | ok _ =>
        exact ⟨hreturns more hmore, by simp⟩
    | error error =>
        refine ⟨hfails more error hmore, fun _ _ => ⟨_, List.append_assoc _ _ _, ?_⟩⟩
        intro e he
        rcases List.mem_append.mp he with hold | hnew
        · exact hmore e hold
        · exact ⟨error, List.mem_singleton.mp hnew⟩
  · exact ⟨[], by simp⟩

end TrackingRecord
end PointInTime
