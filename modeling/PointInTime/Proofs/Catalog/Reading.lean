import PointInTime.Catalog.Basic
import PointInTime.Proofs.Server.Operation

/-!
# Reading the catalog

The catalog is two listings, the second of which is left out when the first one shows nothing.  A
listing that fails counts as an empty one.  What the catalog selects depends on the two answers
alone.
-/

namespace PointInTime
namespace Catalog

def newestOf (backups : List Backup) (clusters : List Cluster) (cluster : Option String) :
    Option BackupRecord :=
  ((records backups clusters).filter (·.isEligible)).find? (ofCluster cluster)

theorem newestOf_nil (clusters : List Cluster) (cluster : Option String) :
    newestOf [] clusters cluster = none := by
  simp [newestOf, records, BackupRecord.sortNewestFirst]

variable {asks : History Server → Demand → Prop} {h : History Server}

theorem ensures_listAll {ends : History Server → List BackupRecord → Prop} {scope : String}
    (hbackups : asks h (.server (.listBackups scope)))
    (hclusters : ∀ backups : List Backup,
      asks (h ++ [⟨.server (.listBackups scope), Except.ok backups⟩])
        (.server (.listClusters scope)))
    (hnothing : ∀ outcome : Except Error (List Backup), outcome.toOption.getD [] = [] →
      ends (h ++ [⟨.server (.listBackups scope), outcome⟩]) [])
    (hlisted : ∀ (backups : List Backup) (clusters : Except Error (List Cluster)),
      ends (h ++ [⟨.server (.listBackups scope), Except.ok backups⟩] ++
          [⟨.server (.listClusters scope), clusters⟩])
        (records backups (clusters.toOption.getD []))) :
    Procedure.Ensures asks ends (listAll scope) h := by
  refine ⟨hbackups, fun outcome => ?_⟩
  cases outcome with
  | error e =>
      exact hnothing (Except.error e) rfl
  | ok backups =>
      cases backups with
      | nil =>
          exact hnothing (Except.ok []) rfl
      | cons b rest =>
          refine ⟨hclusters (b :: rest), fun clusters => ?_⟩
          cases clusters with
          | error e => exact hlisted (b :: rest) (Except.error e)
          | ok clusters => exact hlisted (b :: rest) (Except.ok clusters)

theorem ensures_newest {ends : History Server → Option BackupRecord → Prop} {scope : String}
    {cluster : Option String}
    (hbackups : asks h (.server (.listBackups scope)))
    (hclusters : ∀ backups : List Backup,
      asks (h ++ [⟨.server (.listBackups scope), Except.ok backups⟩])
        (.server (.listClusters scope)))
    (hnothing : ∀ outcome : Except Error (List Backup), outcome.toOption.getD [] = [] →
      ends (h ++ [⟨.server (.listBackups scope), outcome⟩]) none)
    (hlisted : ∀ (backups : List Backup) (clusters : Except Error (List Cluster)),
      ends (h ++ [⟨.server (.listBackups scope), Except.ok backups⟩] ++
          [⟨.server (.listClusters scope), clusters⟩])
        (newestOf backups (clusters.toOption.getD []) cluster)) :
    Procedure.Ensures asks ends (newest scope cluster) h := by
  unfold newest list
  simp only [Procedure.bind_eq_bind, Procedure.ensures_bind, Procedure.pure_eq_done,
    Procedure.ensures_done]
  exact ensures_listAll hbackups hclusters hnothing hlisted

end Catalog
end PointInTime
