import PointInTime.Proofs.Json.Edit
import PointInTime.Proofs.Json.Record
import PointInTime.Workflow.Clone

/-!
# Clones of cluster definitions

A clone is edited where its source is tied to its own place or to its own backups.  It names the
same secrets, and everything else in it is as it was.

Main statement: a clone of a cluster is free of its origin and keeps the rest, and a clone of a
clone is the clone of the source, but for what it is said to be cloned from.
-/

namespace PointInTime

open Json (IsObject SameBut mapFieldsAt place)

/-!
## Documents of objects
-/

namespace Object

/-- API version and kind as fields, if there are any. -/
def typeFields (o : Object) : Assoc Json :=
  match o.types with
  | some (version, kind) => [("apiVersion", .str version), ("kind", .str kind)]
  | none => []

theorem field?_toJson {key : String} (hkey : key ≠ "metadata") (o : Object) :
    o.toJson.field? key = (Assoc.find? key o.typeFields).or (Assoc.find? key o.data) := by
  show Assoc.find? key (o.typeFields ++ ("metadata", o.metadata.toJson) :: o.data) = _
  rw [Assoc.find?_append, Assoc.find?, if_neg hkey.symm]

/-- Objects of the same types differ outside their metadata in as much as their data does. -/
theorem sameBut_toJson {edited : List (List String)} {o o' : Object} (htypes : o'.types = o.types)
    (hdata : SameBut edited (.obj o.data) (.obj o'.data)) :
    SameBut (["metadata"] :: edited) o.toJson o'.toJson := by
  intro p hp
  match p with
  | [] => exact Or.inr ⟨⟨_, List.mem_cons_self, List.nil_prefix⟩, ⟨_, rfl⟩, ⟨_, rfl⟩⟩
  | .item index :: rest => exact Or.inl rfl
  | .field key :: rest =>
      have hkey : key ≠ "metadata" := by
        intro heq
        apply hp ["metadata"] List.mem_cons_self
        rw [heq]
        exact Json.place_isPrefix_cons_iff.mpr ⟨rfl, List.nil_prefix⟩
      have htyped : o'.typeFields = o.typeFields := by rw [typeFields, typeFields, htypes]
      have hread (o : Object) : Json.at? (.field key :: rest) o.toJson =
          ((Assoc.find? key o.typeFields).or (Assoc.find? key o.data)).bind (Json.at? rest) :=
        congrArg (·.bind (Json.at? rest)) (field?_toJson hkey o)
      rw [hread o, hread o', htyped]
      cases Assoc.find? key o.typeFields with
      | some j => exact Or.inl rfl
      | none =>
          rcases hdata (.field key :: rest) fun e he => hp e (List.mem_cons_of_mem _ he) with
            hsame | ⟨⟨e, he, hinside⟩, hobjects⟩
          · exact Or.inl hsame
          · exact Or.inr ⟨⟨e, List.mem_cons_of_mem _ he, hinside⟩, hobjects⟩

end Object

namespace Cluster

/-!
## The edits of a clone
-/

/-- A specification is absent or an object. -/
def HasPlainSpec (c : Cluster) : Prop :=
  ∀ spec, c.path? ["spec"] = some spec → ∃ fields, spec = .obj fields

/-- The data without the status and with a specification. -/
def bare (data : Assoc Json) : Assoc Json :=
  if (data.erase "status").has "spec" then data.erase "status"
  else (data.erase "status").set "spec" (.obj [])

/-- A specification with the secret named in it, no schedule and archiving off. -/
def quietSpec (secret : String) (spec : Assoc Json) : Assoc Json :=
  (spec.set "secretsName" (.str secret)).modify "backup" (Json.mapFields quietBackup)

theorem data_cloneFor (c : Cluster) (scope name : String) :
    (c.cloneFor scope name).object.data =
      (bare c.object.data).modify "spec" (Json.mapFields (quietSpec c.secretsName)) := by
  show ((bare c.object.data).modify "spec" _).modify "spec" _ = _
  rw [Assoc.modify_modify]
  congr 1
  funext spec
  cases spec <;> rfl

theorem quietBackup_quietBackup (backup : Assoc Json) :
    quietBackup (quietBackup backup) = quietBackup backup := by
  have hgone : (quietBackup backup).find? "schedule" = none := by
    rw [quietBackup, Assoc.find?_modify_of_ne (by decide)]
    exact Assoc.find?_erase_self _ _
  have hoff : (Json.mapFields (Assoc.set "enabled" (.bool false)) ∘
      Json.mapFields (Assoc.set "enabled" (.bool false))) =
        Json.mapFields (Assoc.set "enabled" (.bool false)) := by
    funext pitr
    cases pitr with
    | obj fields => exact congrArg Json.obj (Assoc.set_set _ _ _ _)
    | _ => rfl
  rw [quietBackup, Assoc.erase_eq_self hgone, quietBackup, Assoc.modify_modify, hoff]

theorem quietSpec_quietSpec (secret : String) (spec : Assoc Json) :
    quietSpec secret (quietSpec secret spec) = quietSpec secret spec := by
  have hquiet : Json.mapFields quietBackup ∘ Json.mapFields quietBackup =
      Json.mapFields quietBackup := by
    funext backup
    cases backup with
    | obj fields => exact congrArg Json.obj (quietBackup_quietBackup fields)
    | _ => rfl
  rw [quietSpec, quietSpec, Assoc.set_modify_of_ne (by decide), Assoc.set_set,
    Assoc.modify_modify, hquiet]

theorem find?_status_bare (data : Assoc Json) : (bare data).find? "status" = none := by
  unfold bare
  split
  · exact Assoc.find?_erase_self _ _
  · rw [Assoc.find?_set_of_ne (by decide)]
    exact Assoc.find?_erase_self _ _

theorem find?_spec_bare (data : Assoc Json) :
    (bare data).find? "spec" = some ((data.find? "spec").getD (.obj [])) := by
  have hsame : (data.erase "status").find? "spec" = data.find? "spec" :=
    Assoc.find?_erase_of_ne (by decide) data
  unfold bare Assoc.has
  rw [hsame]
  cases hspec : data.find? "spec" with
  | none => exact Assoc.find?_set_self _ _ _
  | some spec => exact hsame.trans hspec

theorem bare_modify_bare (f : Json → Json) (data : Assoc Json) :
    bare ((bare data).modify "spec" f) = (bare data).modify "spec" f := by
  have hstatus : ((bare data).modify "spec" f).find? "status" = none := by
    rw [Assoc.find?_modify_of_ne (by decide), find?_status_bare]
  have hspec : ((bare data).modify "spec" f).has "spec" = true := by
    rw [Assoc.has, Assoc.find?_modify_self, find?_spec_bare]
    rfl
  rw [bare, Assoc.erase_eq_self hstatus, if_pos hspec]

/-!
## The edits one by one
-/

section

variable (c : Cluster) (scope name : String)

/-- The document of a clone with its secret named and nothing else changed. -/
def pinned : Json :=
  mapFieldsAt ["spec"] (Assoc.set "secretsName" (.str c.secretsName)) (.obj (bare c.object.data))

def unscheduled : Json :=
  mapFieldsAt ["spec", "backup"] (Assoc.erase "schedule") c.pinned

theorem obj_data_cloneFor :
    Json.obj (c.cloneFor scope name).object.data =
      mapFieldsAt ["spec", "backup", "pitr"] (Assoc.set "enabled" (.bool false))
        c.unscheduled := by
  have hbackup : mapFieldsAt ["spec", "backup"] quietBackup =
      mapFieldsAt ["spec", "backup", "pitr"] (Assoc.set "enabled" (.bool false)) ∘
        mapFieldsAt ["spec", "backup"] (Assoc.erase "schedule") := by
    have hpitr (f : Assoc Json → Assoc Json) : mapFieldsAt ["spec", "backup", "pitr"] f =
        mapFieldsAt ["spec", "backup"] (Assoc.modify "pitr" (Json.mapFields f)) := by
      simp only [Json.mapFieldsAt_cons, Json.mapFieldsAt_nil]
    rw [hpitr, ← Json.mapFieldsAt_comp]
    rfl
  have hspec : mapFieldsAt ["spec"] (quietSpec c.secretsName) =
      mapFieldsAt ["spec", "backup"] quietBackup ∘
        mapFieldsAt ["spec"] (Assoc.set "secretsName" (.str c.secretsName)) := by
    have hinner (f : Assoc Json → Assoc Json) : mapFieldsAt ["spec", "backup"] f =
        mapFieldsAt ["spec"] (Assoc.modify "backup" (Json.mapFields f)) := by
      simp only [Json.mapFieldsAt_cons, Json.mapFieldsAt_nil]
    rw [hinner, ← Json.mapFieldsAt_comp]
    rfl
  have hdata : Json.obj ((bare c.object.data).modify "spec"
      (Json.mapFields (quietSpec c.secretsName))) =
        mapFieldsAt ["spec"] (quietSpec c.secretsName) (.obj (bare c.object.data)) := by
    rw [Json.mapFieldsAt_cons, Json.mapFieldsAt_nil]
    rfl
  rw [data_cloneFor, hdata, hspec, hbackup]
  rfl

theorem sameBut_pinned :
    SameBut [["spec", "secretsName"]] (.obj (bare c.object.data)) c.pinned :=
  Json.sameBut_mapFieldsAt (Json.edits_set _ _) ["spec"] _

theorem sameBut_unscheduled : SameBut [["spec", "backup", "schedule"]] c.pinned c.unscheduled :=
  Json.sameBut_mapFieldsAt (Json.edits_erase _) ["spec", "backup"] _

theorem sameBut_clone :
    SameBut [["spec", "backup", "pitr", "enabled"]] c.unscheduled
      (.obj (c.cloneFor scope name).object.data) := by
  rw [obj_data_cloneFor]
  exact Json.sameBut_mapFieldsAt (Json.edits_set _ _) ["spec", "backup", "pitr"] _

/-- What a clone has at the end has been there since its status was left out, if no edit lies at
this path. -/
theorem path?_cloneFor {path : List String}
    (hpath : ∀ e ∈ [["spec", "secretsName"], ["spec", "backup", "schedule"],
      ["spec", "backup", "pitr", "enabled"]], ¬ e <+: path ∧ ¬ path <+: e) :
    (c.cloneFor scope name).path? path = (Json.obj (bare c.object.data)).path? path := by
  have hedits := (c.sameBut_pinned.trans c.sameBut_unscheduled).trans (c.sameBut_clone scope name)
  exact hedits.path?_eq hpath

theorem path?_spec_bare (key : String) (path : List String) (data : Assoc Json) :
    (Json.obj (bare data)).path? ("spec" :: key :: path) =
      (Json.obj data).path? ("spec" :: key :: path) := by
  show ((bare data).find? "spec").bind _ = (data.find? "spec").bind _
  rw [find?_spec_bare]
  cases data.find? "spec" with
  | none => rfl
  | some spec => rfl

end

/-!
## What a clone reads as
-/

variable {c : Cluster}

theorem secretsName_ne_empty (c : Cluster) : c.secretsName ≠ "" := by
  unfold secretsName
  cases hnamed : (c.path? ["spec", "secretsName"]).bind Json.asNonEmpty? with
  | none =>
      intro hempty
      have hlength := congrArg String.length hempty
      simp [String.length_append] at hlength
  | some secret =>
      rcases Option.bind_eq_some_iff.mp hnamed with ⟨j, _, hj⟩
      rcases Option.filter_eq_some_iff.mp hj with ⟨_, hsome⟩
      exact of_decide_eq_true hsome

theorem secretsName_cloneFor (hspec : c.HasPlainSpec) (scope name : String) :
    (c.cloneFor scope name).secretsName = c.secretsName := by
  have hplain : ∃ fields, (Json.obj (bare c.object.data)).path? ["spec"] = some (.obj fields) := by
    rw [Json.path?_singleton]
    show ∃ fields, (bare c.object.data).find? "spec" = some (.obj fields)
    rw [find?_spec_bare]
    cases hdata : c.object.data.find? "spec" with
    | none => exact ⟨[], rfl⟩
    | some spec =>
        rcases hspec spec ((Json.path?_singleton "spec" _).trans hdata) with ⟨fields, rfl⟩
        exact ⟨fields, rfl⟩
  have hpinned : c.pinned.path? ["spec", "secretsName"] = some (.str c.secretsName) := by
    rcases hplain with ⟨fields, hfields⟩
    have hread := Json.path?_mapFieldsAt "secretsName"
      (Assoc.set "secretsName" (.str c.secretsName)) ["spec"] (.obj (bare c.object.data))
    rw [hfields] at hread
    exact hread.trans (Assoc.find?_set_self _ _ _)
  have hclone : (c.cloneFor scope name).path? ["spec", "secretsName"] =
      some (.str c.secretsName) := by
    rw [← hpinned]
    exact (c.sameBut_unscheduled.trans (c.sameBut_clone scope name)).path?_eq (by decide)
  have hread : (Json.str c.secretsName).asNonEmpty? = some c.secretsName :=
    Option.filter_eq_some_iff.mpr ⟨rfl, decide_eq_true c.secretsName_ne_empty⟩
  rw [secretsName, hclone, Option.bind_some, hread, Option.getD_some]

theorem storageCredentials_cloneFor (c : Cluster) (scope name : String) :
    (c.cloneFor scope name).storageCredentials = c.storageCredentials := by
  have hstorages : (c.cloneFor scope name).path? ["spec", "backup", "storages"] =
      c.path? ["spec", "backup", "storages"] :=
    (c.path?_cloneFor scope name (by decide)).trans (path?_spec_bare _ _ _)
  rw [storageCredentials, storageCredentials, hstorages]

theorem credentialRefs_cloneFor (hspec : c.HasPlainSpec) (scope name : String)
    (restoreStorage : Option String) :
    Clone.credentialRefs (c.cloneFor scope name) restoreStorage =
      Clone.credentialRefs c restoreStorage := by
  rw [Clone.credentialRefs, Clone.credentialRefs, Clone.rootRef, Clone.rootRef,
    storageCredentials_cloneFor, secretsName_cloneFor hspec]

theorem status_cloneFor (c : Cluster) (scope name : String) :
    (c.cloneFor scope name).path? ["status"] = none := by
  rw [c.path?_cloneFor scope name (by decide), Json.path?_singleton]
  exact find?_status_bare _

theorem schedule_cloneFor (c : Cluster) (scope name : String) :
    (c.cloneFor scope name).path? ["spec", "backup", "schedule"] = none := by
  have herased : c.unscheduled.path? ["spec", "backup", "schedule"] = none := by
    refine (Json.path?_mapFieldsAt "schedule" (Assoc.erase "schedule") ["spec", "backup"]
      _).trans ?_
    simp only [Assoc.find?_erase_self, Option.bind_fun_none]
  exact ((c.sameBut_clone scope name).path?_eq (by decide)).trans herased

theorem archivesLogs_cloneFor (c : Cluster) (scope name : String) :
    (c.cloneFor scope name).archivesLogs = false := by
  have hread : (c.cloneFor scope name).path? ["spec", "backup", "pitr", "enabled"] =
      ((c.unscheduled.path? ["spec", "backup", "pitr"]).bind Json.asObject?).bind fun _ =>
        some (.bool false) := by
    rw [path?, obj_data_cloneFor]
    refine (Json.path?_mapFieldsAt "enabled" _ ["spec", "backup", "pitr"] _).trans ?_
    simp only [Assoc.find?_set_self]
  rw [archivesLogs, hread]
  cases (c.unscheduled.path? ["spec", "backup", "pitr"]).bind Json.asObject? with
  | none => rfl
  | some pitr => rfl

/-!
## What a clone has in common with its source
-/

/-- The fields outside the metadata that a clone has of its own. -/
def tiedPaths : List (List String) :=
  [["status"], ["spec", "secretsName"], ["spec", "backup", "schedule"],
    ["spec", "backup", "pitr", "enabled"]]

theorem sameBut_bare (data : Assoc Json) :
    SameBut (if data.has "spec" then [["status"]] else [["status"], ["spec"]])
      (.obj data) (.obj (bare data)) := by
  have hhas : (data.erase "status").has "spec" = data.has "spec" := by
    rw [Assoc.has, Assoc.has, Assoc.find?_erase_of_ne (by decide)]
  have herased : SameBut [["status"]] (.obj data) (.obj (data.erase "status")) :=
    Json.sameBut_mapFieldsAt (Json.edits_erase "status") [] (.obj data)
  unfold bare
  rw [hhas]
  by_cases hspec : data.has "spec" = true
  · rw [if_pos hspec, if_pos hspec]
    exact herased
  · rw [if_neg hspec, if_neg hspec]
    exact herased.trans
      (Json.sameBut_mapFieldsAt (Json.edits_set "spec" (.obj [])) [] (.obj (data.erase "status")))

theorem has_spec_iff : c.object.data.has "spec" = true ↔ c.path? ["spec"] ≠ none := by
  rw [path?, Json.path?_singleton, Assoc.has, Option.isSome_iff_ne_none]
  rfl

theorem sameBut_cloneFor (hspec : c.path? ["spec"] ≠ none) (scope name : String) :
    SameBut (["metadata"] :: tiedPaths) c.toJson (c.cloneFor scope name).toJson := by
  have hbare := sameBut_bare c.object.data
  rw [if_pos (has_spec_iff.mpr hspec)] at hbare
  have hedited := c.sameBut_unscheduled.trans (c.sameBut_clone scope name)
  exact Object.sameBut_toJson rfl (hbare.trans (c.sameBut_pinned.trans hedited))

theorem sameBut_cloneFor_of_absent (hspec : c.path? ["spec"] = none) (scope name : String) :
    SameBut (["metadata"] :: ["spec"] :: tiedPaths) c.toJson (c.cloneFor scope name).toJson := by
  have hbare := sameBut_bare c.object.data
  rw [if_neg fun hhas => has_spec_iff.mp hhas hspec] at hbare
  have hdata := hbare.trans
    (c.sameBut_pinned.trans (c.sameBut_unscheduled.trans (c.sameBut_clone scope name)))
  exact Object.sameBut_toJson rfl (hdata.mono (by decide))

theorem spec_cloneFor_of_absent (hspec : c.path? ["spec"] = none) (scope name : String) :
    (c.cloneFor scope name).path? ["spec"] =
      some (.obj [("secretsName", .str c.secretsName)]) := by
  rw [path?, Json.path?_singleton] at hspec ⊢
  have hdata : c.object.data.find? "spec" = none := hspec
  show (c.cloneFor scope name).object.data.find? "spec" = _
  rw [data_cloneFor, Assoc.find?_modify_self, find?_spec_bare, hdata]
  rfl

theorem getD_annotations_strip (m : StoredMetadata) :
    m.strip.annotations.getD [] = (m.annotations.getD []).erase Mark.lastApplied := by
  show (m.annotations.bind _).getD [] = _
  cases m.annotations with
  | none => rfl
  | some annotations =>
      by_cases hkept : annotations.erase Mark.lastApplied = []
      · simp [hkept]
      · simp [hkept]

theorem annotations_cloneFor (c : Cluster) (scope name : String) :
    (c.cloneFor scope name).object.metadata.annotations =
      some (((c.object.metadata.annotations.getD []).erase Mark.lastApplied).set Mark.clonedFrom
        (c.scope.getD "" ++ "/" ++ c.name)) := by
  rw [← getD_annotations_strip]
  rfl

/-- A copy of a cluster under a name of its own that is free of its origin and keeps the rest. -/
structure IsFreeCopy (c : Cluster) (scope name : String) (copy : Cluster) : Prop where
  credentials : ∀ restoreStorage,
    Clone.credentialRefs copy restoreStorage = Clone.credentialRefs c restoreStorage
  status : copy.path? ["status"] = none
  schedule : copy.path? ["spec", "backup", "schedule"] = none
  archiving : copy.archivesLogs = false
  identity : copy.object.metadata.identity = []
  name_eq : copy.object.metadata.name = some name
  scope_eq : copy.object.metadata.scope = some scope
  labels : copy.object.metadata.labels = c.object.metadata.labels
  annotations : ∀ key, key ≠ Mark.lastApplied → key ≠ Mark.clonedFrom →
    (copy.object.metadata.annotations.getD []).find? key =
      (c.object.metadata.annotations.getD []).find? key
  lastApplied : (copy.object.metadata.annotations.getD []).find? Mark.lastApplied = none
  origin : (copy.object.metadata.annotations.getD []).find? Mark.clonedFrom =
    some (c.scope.getD "" ++ "/" ++ c.name)
  rest : c.path? ["spec"] ≠ none → SameBut (["metadata"] :: tiedPaths) c.toJson copy.toJson
  /-- A specification that is made for the copy says where the root credentials are. -/
  rest_of_absent : c.path? ["spec"] = none →
    SameBut (["metadata"] :: ["spec"] :: tiedPaths) c.toJson copy.toJson ∧
      copy.path? ["spec"] = some (.obj [("secretsName", .str c.secretsName)])

theorem isFreeCopy_cloneFor (hspec : c.HasPlainSpec) (scope name : String) :
    IsFreeCopy c scope name (c.cloneFor scope name) := by
  have hannotations : (c.cloneFor scope name).object.metadata.annotations.getD [] =
      ((c.object.metadata.annotations.getD []).erase Mark.lastApplied).set Mark.clonedFrom
        (c.scope.getD "" ++ "/" ++ c.name) := by
    rw [annotations_cloneFor]
    rfl
  constructor
  case credentials => exact credentialRefs_cloneFor hspec scope name
  case status => exact c.status_cloneFor scope name
  case schedule => exact c.schedule_cloneFor scope name
  case archiving => exact c.archivesLogs_cloneFor scope name
  case identity => rfl
  case name_eq => rfl
  case scope_eq => rfl
  case labels => rfl
  case annotations =>
    intro key hlast hcloned
    rw [hannotations, Assoc.find?_set_of_ne hcloned, Assoc.find?_erase_of_ne hlast]
  case lastApplied =>
    rw [hannotations, Assoc.find?_set_of_ne (by decide), Assoc.find?_erase_self]
  case origin =>
    rw [hannotations, Assoc.find?_set_self]
  case rest =>
    intro hpresent
    exact sameBut_cloneFor hpresent scope name
  case rest_of_absent =>
    intro habsent
    exact ⟨sameBut_cloneFor_of_absent habsent scope name,
      spec_cloneFor_of_absent habsent scope name⟩

/-!
## Clones of clones
-/

/-- The same definition, said to be cloned from somewhere. -/
def creditedTo (c : Cluster) (origin : String) : Cluster where
  object := { c.object with metadata := c.object.metadata.annotate Mark.clonedFrom origin }

theorem data_cloneFor_cloneFor (hspec : c.HasPlainSpec) (scope name scope' name' : String) :
    ((c.cloneFor scope name).cloneFor scope' name').object.data =
      (c.cloneFor scope' name').object.data := by
  have htwice :
      Json.mapFields (quietSpec c.secretsName) ∘ Json.mapFields (quietSpec c.secretsName) =
        Json.mapFields (quietSpec c.secretsName) := by
    rw [Json.mapFields_mapFields]
    exact congrArg Json.mapFields (funext (quietSpec_quietSpec c.secretsName))
  rw [data_cloneFor, secretsName_cloneFor hspec, data_cloneFor, data_cloneFor, bare_modify_bare,
    Assoc.modify_modify, htwice]

theorem annotations_cloneFor_cloneFor (c : Cluster) (scope name scope' name' : String) :
    ((c.cloneFor scope name).cloneFor scope' name').object.metadata.annotations =
      ((c.cloneFor scope' name').creditedTo
        (scope ++ "/" ++ name)).object.metadata.annotations := by
  have hgone : (((c.object.metadata.annotations.getD []).erase Mark.lastApplied).set
      Mark.clonedFrom (c.scope.getD "" ++ "/" ++ c.name)).find? Mark.lastApplied = none := by
    rw [Assoc.find?_set_of_ne (by decide), Assoc.find?_erase_self]
  show _ = some (((c.cloneFor scope' name').object.metadata.annotations.getD []).set _ _)
  rw [annotations_cloneFor, annotations_cloneFor, annotations_cloneFor, Option.getD_some,
    Assoc.erase_eq_self hgone, Assoc.set_set, Assoc.set_set]
  rfl

/-- A clone keeps what is not tied to its origin, and a clone of a clone is the clone of the source
with another origin. -/
theorem clone_is_free_copy (hspec : c.HasPlainSpec) (scope name : String) :
    IsFreeCopy c scope name (c.cloneFor scope name) ∧
      ∀ scope' name', (c.cloneFor scope name).cloneFor scope' name' =
        (c.cloneFor scope' name').creditedTo (scope ++ "/" ++ name) := by
  constructor
  · exact isFreeCopy_cloneFor hspec scope name
  · intro scope' name'
    have hdata := data_cloneFor_cloneFor hspec scope name scope' name'
    have hannotations := annotations_cloneFor_cloneFor c scope name scope' name'
    rw [cloneFor, creditedTo, Cluster.mk.injEq, Object.mk.injEq]
    refine ⟨rfl, ?_, hdata⟩
    exact congrArg (fun annotations =>
      { (c.cloneFor scope' name').object.metadata with annotations := annotations }) hannotations

/-- A ready cluster with a schedule and archived logs, last configured by another client. -/
def exampleSource : Cluster where
  object :=
    { types := some ("pxc.percona.com/v1", "PerconaXtraDBCluster")
      metadata :=
        { name := some "c1"
          scope := some "prod"
          labels := some [("team", "orders")]
          annotations := some [(Mark.lastApplied, "c1"), ("note", "keep")]
          identity := [("uid", .str "u-1")] }
      data :=
        [("spec", .obj
            [("backup", .obj
              [("pitr", .obj [("enabled", .bool true), ("storageName", .str "aws")]),
                ("schedule", .arr [.obj [("name", .str "daily")]]),
                ("storages", .obj [("aws", .obj [("s3", .obj
                  [("credentialsSecret", .str "aws-keys")])])])])]),
          ("status", .obj [("state", .str "ready")])] }

theorem hasPlainSpec_exampleSource : exampleSource.HasPlainSpec := by
  intro spec hspec
  cases hspec
  exact ⟨_, rfl⟩

/-- It is cloned to staging, and from there to a third place. -/
theorem exampleSource_cloned_twice :
    IsFreeCopy exampleSource "staging" "c2" (exampleSource.cloneFor "staging" "c2") ∧
      (exampleSource.cloneFor "staging" "c2").cloneFor "test" "c3" =
        (exampleSource.cloneFor "test" "c3").creditedTo "staging/c2" := by
  rcases clone_is_free_copy hasPlainSpec_exampleSource "staging" "c2" with ⟨hcopy, htwice⟩
  exact ⟨hcopy, htwice "test" "c3"⟩

end Cluster
end PointInTime
