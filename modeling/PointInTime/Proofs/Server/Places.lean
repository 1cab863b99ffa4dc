import PointInTime.Proofs.Json.Record
import PointInTime.Proofs.Server.Answers

/-!
# Places of objects

An object is stored under the namespace and the name that it says are its own.  What is said here is
where the objects that a restore creates go, and that an object at one place hides nothing that is
at another one.
-/

namespace PointInTime

namespace Store

/-- The namespace and the name of an object, by which it is found. -/
def placeOf (j : Json) : String × String :=
  (metadataText "namespace" j, metadataText "name" j)

theorem isAt_iff {scope name : String} {j : Json} :
    isAt scope name j = true ↔ placeOf j = (scope, name) := by
  simp [isAt, placeOf]

theorem placeOf_of_find? {scope name : String} {objects : List Json} {j : Json}
    (hj : find? scope name objects = some j) : placeOf j = (scope, name) :=
  isAt_iff.mp (List.find?_some hj)

/-!
## What an object says of its place
-/

theorem placeOf_of_metadata {j metadata : Json} (hmetadata : j.field? "metadata" = some metadata) :
    placeOf j =
      (((metadata.field? "namespace").bind Json.asString?).getD "",
        ((metadata.field? "name").bind Json.asString?).getD "") := by
  have hpath (key : String) : j.path? ["metadata", key] = metadata.field? key := by
    simp [Json.path?, hmetadata]
  simp [placeOf, metadataText, hpath]

theorem placeOf_of_stored {j : Json} {m : StoredMetadata}
    (hj : j.field? "metadata" = some m.toJson) (hm : m.identity = []) :
    placeOf j = (m.scope.getD "", m.name.getD "") := by
  have hscope : m.toJson.field? "namespace" = m.scope.map .str := by
    simp [StoredMetadata.toJson, Json.field?, hm, Assoc.find?_append, Json.find?_present]
  have hname : m.toJson.field? "name" = m.name.map .str := by
    simp [StoredMetadata.toJson, Json.field?, hm, Assoc.find?_append, Json.find?_present]
  have htext (o : Option String) : ((o.map Json.str).bind Json.asString?).getD "" = o.getD "" := by
    cases o <;> rfl
  rw [placeOf_of_metadata hj, hscope, hname, htext, htext]

theorem placeOf_cloneFor (c : Cluster) (scope name : String) :
    placeOf (c.cloneFor scope name).toJson = (scope, name) := by
  have hmetadata : (c.cloneFor scope name).toJson.field? "metadata" =
      some (c.cloneFor scope name).object.metadata.toJson := by
    unfold Cluster.toJson Object.toJson
    cases (c.cloneFor scope name).object.types <;> simp [Json.field?, Assoc.find?]
  exact placeOf_of_stored hmetadata rfl

theorem placeOf_restore (r : Restore) :
    placeOf r.toJson = (r.metadata.scope, r.metadata.name) := by
  have hmetadata : r.toJson.field? "metadata" = some r.metadata.toJson := by
    simp [Restore.toJson, Json.field?, Assoc.find?]
  have hscope : r.metadata.toJson.field? "namespace" = some (.str r.metadata.scope) := by
    simp [Metadata.toJson, Json.field?, Assoc.find?]
  have hname : r.metadata.toJson.field? "name" = some (.str r.metadata.name) := by
    simp [Metadata.toJson, Json.field?, Assoc.find?]
  rw [placeOf_of_metadata hmetadata, hscope, hname]
  rfl

theorem placeOf_copyTo (s : Secret) (source target : String) :
    placeOf (s.copyTo source target).toJson = (target, s.metadata.name.getD "") := by
  have hmetadata : (s.copyTo source target).toJson.field? "metadata" =
      some (s.copyTo source target).metadata.toJson := by
    simp [Secret.toJson, Json.field?, Assoc.find?_append, Assoc.find?, Json.find?_present]
  exact placeOf_of_stored hmetadata rfl

theorem name_of_stored {j : Json} {m : StoredMetadata} (hj : StoredMetadata.ofJson? j = some m) :
    m.name = (j.field? "name").bind Json.asString? := by
  cases j with
  | obj fields =>
      unfold StoredMetadata.ofJson? at hj
      simp only [Json.asObject?, Option.bind_eq_bind, Option.bind_some] at hj
      split at hj
      · cases hj
      · simp only [Option.bind_eq_some_iff] at hj
        rcases hj with ⟨name, hname, _, _, _, _, _, _, _, _, hm⟩
        cases hm
        exact Json.eq_of_optionally_asString? hname
  | _ => cases hj

theorem name_of_secret {j : Json} {s : Secret} (hs : Secret.ofJson? j = some s) :
    s.metadata.name.getD "" = (placeOf j).2 := by
  cases j with
  | obj fields =>
      unfold Secret.ofJson? at hs
      simp only [Json.asObject?, Option.bind_eq_bind, Option.bind_some] at hs
      split at hs
      · cases hs
      · simp only [Option.bind_eq_some_iff] at hs
        rcases hs with ⟨metadata, hmetadata, _, _, _, _, _, _, _, _, hs⟩
        cases hs
        cases hslot : Assoc.find? "metadata" fields with
        | none =>
            rw [hslot] at hmetadata
            cases hmetadata
            simp [placeOf, metadataText, Json.path?, Json.field?, hslot]
        | some stored =>
            rw [hslot] at hmetadata
            have hfield : (Json.obj fields).field? "metadata" = some stored := hslot
            rw [placeOf_of_metadata hfield]
            rcases Json.optionally_some_cases hmetadata with ⟨rfl, rfl⟩ | ⟨m, hm, rfl⟩
            · rfl
            · exact congrArg (Option.getD · "") (name_of_stored hm)
  | _ => cases hs

/-!
## Creating
-/

theorem find?_append_of_ne {scope name : String} {j : Json} (hj : placeOf j ≠ (scope, name))
    (objects : List Json) : find? scope name (objects ++ [j]) = find? scope name objects := by
  have hat : isAt scope name j = false := by
    rw [Bool.eq_false_iff]
    exact fun h => hj (isAt_iff.mp h)
  simp [find?, List.find?_append, hat]

theorem create_of_free {j : Json} {objects : List Json}
    (hfree : find? (placeOf j).1 (placeOf j).2 objects = none) :
    create j objects = some (objects ++ [j]) := by
  have hnone : objects.any (isAt (placeOf j).1 (placeOf j).2) = false := by
    simpa [find?] using hfree
  unfold create
  rw [show objects.any (isAt (metadataText "namespace" j) (metadataText "name" j)) = false from
    hnone]
  rfl

theorem perform_createCluster {s : Store} {c : Cluster}
    (hfree : find? (placeOf c.toJson).1 (placeOf c.toJson).2 s.clusters = none) :
    s.perform (.createCluster c) =
      (Except.ok (), { s with clusters := s.clusters ++ [c.toJson] }) := by
  simp only [perform, create_of_free hfree]
  rfl

theorem perform_createSecret (scope : String) {s : Store} {secret : Secret}
    (hfree : find? (placeOf secret.toJson).1 (placeOf secret.toJson).2 s.secrets = none) :
    s.perform (.createSecret scope secret) =
      (Except.ok (), { s with secrets := s.secrets ++ [secret.toJson] }) := by
  simp only [perform, create_of_free hfree]
  rfl

theorem perform_createRestore {s : Store} {r : Restore}
    (hfree : find? (placeOf r.toJson).1 (placeOf r.toJson).2 s.restores = none) :
    s.perform (.createRestore r) =
      (Except.ok (), { s with restores := s.restores ++ [r.toJson] }) := by
  simp only [perform, create_of_free hfree]
  rfl

theorem create_eq_some {j : Json} {objects objects' : List Json}
    (h : create j objects = some objects') :
    find? (placeOf j).1 (placeOf j).2 objects = none ∧ objects' = objects ++ [j] := by
  unfold create at h
  split at h
  · cases h
  · rename_i hfree
    refine ⟨?_, (Option.some.inj h).symm⟩
    simpa [find?, placeOf] using hfree

theorem eq_of_createCluster {s : Store} {c : Cluster}
    (h : (s.perform (.createCluster c)).1 = Except.ok ()) :
    find? (placeOf c.toJson).1 (placeOf c.toJson).2 s.clusters = none ∧
      (s.perform (.createCluster c)).2 = { s with clusters := s.clusters ++ [c.toJson] } := by
  simp only [perform] at h ⊢
  cases hcreate : create c.toJson s.clusters with
  | none =>
      rw [hcreate] at h
      cases h
  | some clusters =>
      obtain ⟨hfree, rfl⟩ := create_eq_some hcreate
      exact ⟨hfree, rfl⟩

theorem eq_of_createRestore {s : Store} {job : Restore}
    (h : (s.perform (.createRestore job)).1 = Except.ok ()) :
    find? (placeOf job.toJson).1 (placeOf job.toJson).2 s.restores = none ∧
      (s.perform (.createRestore job)).2 = { s with restores := s.restores ++ [job.toJson] } := by
  simp only [perform] at h ⊢
  cases hcreate : create job.toJson s.restores with
  | none =>
      rw [hcreate] at h
      cases h
  | some restores =>
      obtain ⟨hfree, rfl⟩ := create_eq_some hcreate
      exact ⟨hfree, rfl⟩

theorem find?_append_self {scope name : String} {j : Json} {objects : List Json}
    (hj : placeOf j = (scope, name)) (hfree : find? scope name objects = none) :
    find? scope name (objects ++ [j]) = some j := by
  unfold find? at hfree ⊢
  rw [List.find?_append, hfree]
  simp [isAt_iff.mpr hj]

/-- A cluster that was created took a place that was free. -/
theorem find?_of_createCluster {s : Store} {c : Cluster} {scope name : String}
    (hc : placeOf c.toJson = (scope, name))
    (h : (s.perform (.createCluster c)).1 = Except.ok ()) :
    find? scope name s.clusters = none ∧
      find? scope name (s.perform (.createCluster c)).2.clusters = some c.toJson := by
  obtain ⟨hfree, hcreated⟩ := eq_of_createCluster h
  rw [hc] at hfree
  rw [hcreated]
  exact ⟨hfree, find?_append_self hc hfree⟩

theorem find?_of_createRestore {s : Store} {job : Restore}
    (h : (s.perform (.createRestore job)).1 = Except.ok ()) :
    find? job.metadata.scope job.metadata.name (s.perform (.createRestore job)).2.restores =
      some job.toJson := by
  obtain ⟨hfree, hcreated⟩ := eq_of_createRestore h
  rw [placeOf_restore] at hfree
  rw [hcreated]
  exact find?_append_self (placeOf_restore job) hfree

/-!
## What a request keeps
-/

/-- Clusters and secrets may have been added, and those that were there are as they were. -/
structure Grows (s s' : Store) : Prop where
  clusters : s.clusters <+: s'.clusters
  secrets : s.secrets <+: s'.secrets

theorem grows_refl (s : Store) : Grows s s :=
  ⟨List.prefix_rfl, List.prefix_rfl⟩

theorem grows_perform (s : Store) (r : Request) : Grows s (s.perform r).2 := by
  cases r with
  | createCluster c =>
      simp only [perform]
      split
      · rename_i clusters hcreate
        rcases create_eq_some hcreate with ⟨_, rfl⟩
        exact ⟨List.prefix_append _ _, List.prefix_rfl⟩
      · exact grows_refl s
  | createSecret scope secret =>
      simp only [perform]
      split
      · rename_i secrets hcreate
        rcases create_eq_some hcreate with ⟨_, rfl⟩
        exact ⟨List.prefix_rfl, List.prefix_append _ _⟩
      · exact grows_refl s
  | createRestore job =>
      simp only [perform]
      split <;> exact ⟨List.prefix_rfl, List.prefix_rfl⟩
  | createNamespace name =>
      simp only [perform]
      split <;> exact ⟨List.prefix_rfl, List.prefix_rfl⟩
  | _ => exact ⟨List.prefix_rfl, List.prefix_rfl⟩

theorem LossyAnswers.grows {s s' : Store} {d : Demand} {x : d.Answer}
    (ha : LossyAnswers s d x s') : Grows s s' := by
  cases d with
  | stamp =>
      rw [ha.of_stamp]
      exact grows_refl s
  | server r =>
      rcases ha.cases with ⟨rfl, _⟩ | ⟨rfl, _⟩
      · exact grows_perform s r
      · exact grows_refl _

theorem find?_of_prefix {scope name : String} {objects objects' : List Json} {j : Json}
    (hmore : objects <+: objects') (hj : find? scope name objects = some j) :
    find? scope name objects' = some j :=
  hmore.find?_eq_some hj

/-!
## Reading one object
-/

theorem readOne_eq_none {α : Type} {read? : Json → Option α} {o : Option Json}
    (h : readOne read? o = Except.ok none) : o = none := by
  cases o with
  | none => rfl
  | some j =>
      simp only [readOne] at h
      split at h <;> cases h

theorem readOne_eq_some {α : Type} {read? : Json → Option α} {o : Option Json} {a : α}
    (h : readOne read? o = Except.ok (some a)) : ∃ j, o = some j ∧ read? j = some a := by
  cases o with
  | none => cases h
  | some j =>
      simp only [readOne] at h
      split at h
      · rename_i hread
        cases h
        exact ⟨j, rfl, hread⟩
      · cases h

theorem readOne_of_read {α : Type} {read? : Json → Option α} {o : Option Json} {j : Json} {a : α}
    (hj : o = some j) (hread : read? j = some a) : readOne read? o = Except.ok (some a) := by
  simp only [hj, readOne, hread]

theorem isSome_of_readOne {α : Type} {read? : Json → Option α} {stored : Option Json}
    {found : Option α} (h : readOne read? stored = Except.ok found) :
    found.isSome = stored.isSome := by
  cases found with
  | none =>
      rw [readOne_eq_none h]
      rfl
  | some a =>
      obtain ⟨j, hj, -⟩ := readOne_eq_some h
      rw [hj]
      rfl

end Store
end PointInTime
