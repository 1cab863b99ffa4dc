import Mathlib.Data.List.Nodup
import PointInTime.Proofs.Workflow.Copying
import PointInTime.Proofs.Workflow.Credentials

/-!
# The secrets that a definition names

Profiles and backends may share a secret with each other and with the root credentials.  Listing
them, a use of a secret that is listed already can only make it essential, so that neither the order
of the profiles nor how many of them share it matters.

Main statement: each secret is listed once, the root credentials first; the secrets are those that
the definition names, and the essential ones those that a restore reads through.
-/

namespace PointInTime

/-!
## Storage profiles
-/

theorem Json.bind_asNonEmpty?_eq_some {o : Option Json} {text : String} :
    o.bind Json.asNonEmpty? = some text ↔ o = some (.str text) ∧ text ≠ "" := by
  cases o with
  | none => simp
  | some j =>
      cases j <;> simp [Json.asNonEmpty?, Json.asString?, Option.filter_eq_some_iff]

namespace Cluster

variable {c : Cluster} {storageName secret : String} {profile : Json}

/-- A storage profile gives one of its backends this secret. -/
def ProfileNames (profile : Json) (secret : String) : Prop :=
  secret ≠ "" ∧ ∃ backend, (backend = "s3" ∨ backend = "azure") ∧
    profile.path? [backend, "credentialsSecret"] = some (.str secret)

/-- A profile of this name gives a backend this secret. -/
def StorageNames (c : Cluster) (storageName secret : String) : Prop :=
  ∃ storages profile, c.path? ["spec", "backup", "storages"] = some (.obj storages) ∧
    (storageName, profile) ∈ storages ∧ ProfileNames profile secret

theorem mem_profileCredentials :
    ⟨storageName, secret⟩ ∈ profileCredentials storageName profile ↔
      ProfileNames profile secret := by
  simp only [profileCredentials, backends, List.mem_filterMap, Option.map_eq_some_iff,
    Json.bind_asNonEmpty?_eq_some, List.mem_cons, List.not_mem_nil, or_false]
  constructor
  · rintro ⟨backend, hbackend, _, ⟨hread, hne⟩, ⟨⟩⟩
    exact ⟨hne, backend, hbackend, hread⟩
  · rintro ⟨hne, backend, hbackend, hread⟩
    exact ⟨backend, hbackend, secret, ⟨hread, hne⟩, rfl⟩

theorem storageName_of_mem_profileCredentials {cred : StorageCredential}
    (hcred : cred ∈ profileCredentials storageName profile) : cred.storageName = storageName := by
  simp only [profileCredentials, List.mem_filterMap, Option.map_eq_some_iff] at hcred
  rcases hcred with ⟨_, _, _, _, rfl⟩
  rfl

theorem mem_storageCredentials :
    ⟨storageName, secret⟩ ∈ c.storageCredentials ↔ c.StorageNames storageName secret := by
  unfold storageCredentials StorageNames
  cases hstorages : c.path? ["spec", "backup", "storages"] with
  | none => simp
  | some j =>
      cases j with
      | obj storages =>
          show _ ∈ storages.flatMap _ ↔ _
          rw [List.mem_flatMap]
          constructor
          · rintro ⟨⟨name, profile⟩, hmem, hcred⟩
            cases storageName_of_mem_profileCredentials hcred
            exact ⟨storages, profile, rfl, hmem, mem_profileCredentials.mp hcred⟩
          · rintro ⟨_, profile, ⟨⟩, hmem, hnames⟩
            exact ⟨(storageName, profile), hmem, mem_profileCredentials.mpr hnames⟩
      | _ => simp [Json.asObject?]

end Cluster

namespace Clone

variable {cluster : Cluster} {restoreStorage : Option String} {refs : List CredentialRef}

/-!
## Listing the secrets
-/

theorem mem_secrets_addCredential {secret : String} {cred : StorageCredential} :
    secret ∈ (addCredential restoreStorage refs cred).map (·.secret) ↔
      secret ∈ refs.map (·.secret) ∨ cred.secretName = secret := by
  rw [secrets_addCredential]
  split
  · rename_i hlisted
    constructor
    · exact Or.inl
    · rintro (hold | rfl)
      · exact hold
      · exact hlisted
  · rw [List.mem_append, List.mem_singleton, eq_comm (a := secret)]

theorem mem_secrets_foldl {secret : String} (creds : List StorageCredential) :
    secret ∈ (creds.foldl (addCredential restoreStorage) refs).map (·.secret) ↔
      secret ∈ refs.map (·.secret) ∨ ∃ cred ∈ creds, cred.secretName = secret := by
  induction creds generalizing refs with
  | nil => simp
  | cons cred rest ih =>
      rw [List.foldl_cons, ih, mem_secrets_addCredential, or_assoc]
      simp only [List.mem_cons, exists_eq_or_imp]

/-- A use of a secret that is essential already changes nothing about it. -/
theorem addCredential_cons_of_essential {ref : CredentialRef} (href : ref.essential = true)
    (rest : List CredentialRef) (cred : StorageCredential) :
    ∃ rest', addCredential restoreStorage (ref :: rest) cred = ref :: rest' := by
  unfold addCredential
  split
  · have hsame (essential : Bool) : { ref with essential := ref.essential || essential } = ref := by
      rw [href, Bool.true_or, ← href]
    refine ⟨_, List.cons_eq_cons.mpr ⟨?_, rfl⟩⟩
    show (if ref.secret = cred.secretName then _ else ref) = ref
    rw [hsame, ite_self]
  · exact ⟨_, rfl⟩

theorem foldl_addCredential_cons (restoreStorage : Option String) {ref : CredentialRef}
    (href : ref.essential = true) (creds : List StorageCredential) (rest : List CredentialRef) :
    ∃ rest', creds.foldl (addCredential restoreStorage) (ref :: rest) = ref :: rest' := by
  induction creds generalizing rest with
  | nil => exact ⟨rest, rfl⟩
  | cons cred creds ih =>
      rcases addCredential_cons_of_essential href rest cred with ⟨added, hadded⟩
      rw [List.foldl_cons, hadded]
      exact ih added

theorem head?_credentialRefs (cluster : Cluster) (restoreStorage : Option String) :
    (credentialRefs cluster restoreStorage).head? = some (rootRef cluster) := by
  have hroot : (rootRef cluster).essential = true := rfl
  rcases foldl_addCredential_cons restoreStorage hroot cluster.storageCredentials [] with
    ⟨rest, hrest⟩
  rw [credentialRefs, hrest, List.head?_cons]

theorem mem_secrets_credentialRefs {secret : String} :
    secret ∈ (credentialRefs cluster restoreStorage).map (·.secret) ↔
      secret = cluster.secretsName ∨ ∃ storageName, cluster.StorageNames storageName secret := by
  have hroot : secret ∈ [rootRef cluster].map (·.secret) ↔ secret = cluster.secretsName :=
    List.mem_singleton
  rw [credentialRefs, mem_secrets_foldl, hroot]
  apply or_congr_right
  constructor
  · rintro ⟨⟨storageName, _⟩, hcred, rfl⟩
    exact ⟨storageName, Cluster.mem_storageCredentials.mp hcred⟩
  · rintro ⟨storageName, hnames⟩
    exact ⟨⟨storageName, secret⟩, Cluster.mem_storageCredentials.mpr hnames, rfl⟩

/-!
## Which secrets are essential
-/

theorem isEssential_iff {secret : String} :
    IsEssential cluster restoreStorage secret ↔
      secret = cluster.secretsName ∨ ∃ storageName,
        restoreStorage = some storageName ∧ cluster.StorageNames storageName secret := by
  apply or_congr_right
  constructor
  · rintro ⟨⟨storageName, _⟩, hcred, hstorage, rfl⟩
    exact ⟨storageName, hstorage, Cluster.mem_storageCredentials.mp hcred⟩
  · rintro ⟨storageName, hstorage, hnames⟩
    exact ⟨⟨storageName, secret⟩, Cluster.mem_storageCredentials.mpr hnames, hstorage, rfl⟩

/-- A reference stands for all uses of its secret. -/
theorem requires_iff_of_nodup (hrefs : (refs.map (·.secret)).Nodup) {ref : CredentialRef}
    (href : ref ∈ refs) : Requires refs ref.secret ↔ ref.essential = true := by
  constructor
  · rintro ⟨other, hother, hsecret, hessential⟩
    cases List.inj_on_of_nodup_map hrefs hother href hsecret
    exact hessential
  · intro hessential
    exact ⟨ref, href, rfl, hessential⟩

/-- Where the profiles come in their order decides in which order the secrets after the first are
listed and which use of each is noted, and nothing else. -/
theorem credentialRefs_complete_and_graded (cluster : Cluster) (restoreStorage : Option String) :
    ((credentialRefs cluster restoreStorage).map (·.secret)).Nodup ∧
      (credentialRefs cluster restoreStorage).head? = some (rootRef cluster) ∧
      (∀ secret, secret ∈ (credentialRefs cluster restoreStorage).map (·.secret) ↔
        secret = cluster.secretsName ∨
          ∃ storageName, cluster.StorageNames storageName secret) ∧
      ∀ ref ∈ credentialRefs cluster restoreStorage, ref.essential = true ↔
        ref.secret = cluster.secretsName ∨ ∃ storageName,
          restoreStorage = some storageName ∧ cluster.StorageNames storageName ref.secret := by
  have hnodup := nodup_credentialRefs cluster restoreStorage
  refine ⟨hnodup, head?_credentialRefs cluster restoreStorage, ?_, ?_⟩
  · intro secret
    exact mem_secrets_credentialRefs
  · intro ref href
    rw [← requires_iff_of_nodup hnodup href, requires_credentialRefs_iff, isEssential_iff]

/-!
### Profiles that share a secret
-/

/-- Two profiles and both backends of one of them share a secret, a third profile has the root
credentials, and a backend with an empty name has none. -/
def sharingCluster : Cluster where
  object :=
    { metadata := { name := some "c1", scope := some "prod" }
      data :=
        [("spec", .obj [("backup", .obj [("storages", .obj
          [("daily", .obj
              [("azure", .obj [("credentialsSecret", .str "shared")]),
                ("s3", .obj [("credentialsSecret", .str "shared")])]),
            ("hourly", .obj [("s3", .obj [("credentialsSecret", .str "")])]),
            ("monthly", Workflow.exampleProfile "azure" "c1-secrets"),
            ("weekly", Workflow.exampleProfile "s3" "shared")])])])] }

theorem sharingCluster_graded :
    credentialRefs sharingCluster (some "weekly") =
        [⟨"c1-secrets", true, "root credentials"⟩, ⟨"shared", true, "storage daily"⟩] ∧
      sharingCluster.StorageNames "weekly" "shared" := by
  have hrefs : credentialRefs sharingCluster (some "weekly") =
      [⟨"c1-secrets", true, "root credentials"⟩, ⟨"shared", true, "storage daily"⟩] := by
    decide +kernel
  have hshared : (⟨"shared", true, "storage daily"⟩ : CredentialRef) ∈
      credentialRefs sharingCluster (some "weekly") := by
    rw [hrefs]
    exact List.mem_cons_of_mem _ (List.mem_singleton_self _)
  rcases credentialRefs_complete_and_graded sharingCluster (some "weekly") with ⟨_, _, _, hgraded⟩
  rcases (hgraded _ hshared).mp rfl with hroot | ⟨_, ⟨⟩, hnames⟩
  · exact absurd hroot (by decide +kernel)
  · exact ⟨hrefs, hnames⟩

end Clone
end PointInTime
