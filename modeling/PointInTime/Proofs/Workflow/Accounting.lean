import Mathlib.Data.List.Nodup
import PointInTime.Proofs.Resource.Cluster
import PointInTime.Proofs.Resource.Secret
import PointInTime.Proofs.Server.Frank
import PointInTime.Proofs.Workflow.Copying
import PointInTime.Proofs.Workflow.Credentials

/-!
# The account of a clone

A clone that succeeds says of every credential what became of it: it was copied, it was there before
or it was left out with a warning.  The credentials that it speaks of are those of the definition
that it creates.

Main statement: on a frank server that account is true, whichever requests fail.  A server that is
not frank makes a secret that is nowhere one that was there before.
-/

namespace PointInTime

open Procedure (EndsFrankly)

namespace Clone

/-!
## What became of one secret
-/

/-- What becomes of a secret that is to be copied, if it is not there. -/
inductive Handles (req : Request) (name : String) (s : Store) :
    Except Error Bool → Store → Prop where
  | copied {secret : Secret} :
      (s.perform (.getSecret req.sourceScope name)).1 = .ok (some secret) →
      Store.find? req.targetScope name s.secrets = none →
        Handles req name s (.ok true) (s.withSecret (secret.copyTo req.sourceScope req.targetScope))
  | existing : s.HasSecret req.targetScope name → Handles req name s (.ok false) s
  | failed (e : Error) : Handles req name s (.error e) s
  | lost (e : Error) {secret : Secret} :
      (s.perform (.getSecret req.sourceScope name)).1 = .ok (some secret) →
        Handles req name s (.error e)
          (s.withSecret (secret.copyTo req.sourceScope req.targetScope))

variable {req : Request} {s s' : Store} {name : String}

/-- A secret is copied under the name by which it was read. -/
theorem placeOf_copy {secret : Secret}
    (hread : (s.perform (.getSecret req.sourceScope name)).1 = .ok (some secret)) :
    Store.placeOf (secret.copyTo req.sourceScope req.targetScope).toJson =
      (req.targetScope, name) := by
  rcases Store.readOne_eq_some hread with ⟨j, hj, hsecret⟩
  rw [Store.placeOf_copyTo, Store.name_of_secret hsecret, Store.placeOf_of_find? hj]

theorem endsFrankly_createCopy {secret : Secret}
    (hread : (s.perform (.getSecret req.sourceScope name)).1 = .ok (some secret)) :
    EndsFrankly s (createCopy req secret).run fun s' outcome => Handles req name s outcome s' := by
  have hplace := placeOf_copy hread
  refine Procedure.endsFrankly_bind ((Operation.endsFrankly_createSecret s _ _).mono ?_)
  intro s' outcome hmakes
  cases hmakes with
  | created hfree =>
      rw [hplace] at hfree
      exact Handles.copied hread hfree
  | occupied message hthere =>
      rw [hplace] at hthere
      exact Handles.existing hthere
  | @failed e hother =>
      cases e with
      | conflict message => exact absurd rfl (hother message)
      | _ => exact Handles.failed _
  | @lost e hother =>
      cases e with
      | conflict message => exact absurd rfl (hother message)
      | _ => exact Handles.lost _ hread

theorem endsFrankly_copySecret (req : Request) (name : String) (s : Store) :
    EndsFrankly s (copySecret req name).run fun s' outcome => Handles req name s outcome s' := by
  unfold copySecret
  refine Operation.endsFrankly_bind ((Operation.endsFrankly_look rfl).mono ?_)
  intro s₁ inTarget hlook
  rcases hlook with ⟨rfl, htarget⟩
  match inTarget with
  | .error e => exact Handles.failed e
  | .ok (some secret) =>
      have hread := (htarget _ rfl).getSecret
      rcases Store.readOne_eq_some hread with ⟨j, hj, _⟩
      exact Handles.existing ⟨j, hj⟩
  | .ok none =>
      refine Operation.endsFrankly_bind ((Operation.endsFrankly_look rfl).mono ?_)
      intro s₂ inSource hlook
      rcases hlook with ⟨rfl, hsource⟩
      match inSource with
      | .error e => exact Handles.failed e
      | .ok none => exact Handles.failed _
      | .ok (some secret) => exact endsFrankly_createCopy (hsource _ rfl).getSecret

/-!
## The account
-/

/-- A secret of the target that was not there before and says what the one in the source says. -/
def IsCopied (req : Request) (s₀ s : Store) (name : String) : Prop :=
  Store.find? req.targetScope name s₀.secrets = none ∧
    ∃ secret copy : Secret,
      (s₀.perform (.getSecret req.sourceScope name)).1 = .ok (some secret) ∧
        (s.perform (.getSecret req.targetScope name)).1 = .ok (some copy) ∧
        copy.data = secret.data ∧ copy.stringData = secret.stringData ∧
        copy.type = secret.type ∧ copy.immutable = secret.immutable ∧
        copy.metadata.labels = secret.metadata.labels

/-- A secret of the target is as it was before. -/
def IsUntouched (req : Request) (s₀ s : Store) (name : String) : Prop :=
  ∃ j, Store.find? req.targetScope name s₀.secrets = some j ∧
    Store.find? req.targetScope name s.secrets = some j

def warning (ref : CredentialRef) (e : Error) : String :=
  ref.purpose ++ " secret " ++ ref.secret ++ " not copied: " ++ e.message

/-- A report accounts for credentials: each of them was copied, was there before or is warned of. -/
structure Accounts (req : Request) (s₀ s : Store) (refs : List CredentialRef) (report : Report)
    (warned : List (CredentialRef × Error)) : Prop where
  once : (report.copied ++ report.existing ++ warned.map (·.1.secret)).Perm (refs.map (·.secret))
  copied : ∀ name ∈ report.copied, IsCopied req s₀ s name
  existing : ∀ name ∈ report.existing, IsUntouched req s₀ s name
  dispensable : ∀ w ∈ warned, w.1 ∈ refs ∧ w.1.essential = false
  warnings : report.warnings = warned.map fun w => warning w.1 w.2

/-- A clone on its way through the credentials has created nothing but copies of those that it has
dealt with. -/
structure Underway (req : Request) (s₀ s : Store) (refs : List CredentialRef) (report : Report)
    (warned : List (CredentialRef × Error)) : Prop extends
    Accounts req s₀ s refs report warned where
  clusters : s.clusters = s₀.clusters
  added : ∃ added, s.secrets = s₀.secrets ++ added ∧
    ∀ j ∈ added, ∃ ref ∈ refs, Store.placeOf j = (req.targetScope, ref.secret)

theorem underway_nil (req : Request) (s : Store) (scope name : String) :
    Underway req s s [] { scope := scope, clusterName := name } [] where
  once := List.Perm.nil
  copied _ h := nomatch h
  existing _ h := nomatch h
  dispensable _ h := nomatch h
  warnings := rfl
  clusters := rfl
  added := ⟨[], (List.append_nil _).symm, fun _ h => nomatch h⟩

/-!
### More secrets
-/

variable {s₀ : Store}

theorem find?_of_other {scope name : String} {objects added : List Json}
    (hadded : ∀ j ∈ added, Store.placeOf j ≠ (scope, name)) :
    Store.find? scope name (objects ++ added) = Store.find? scope name objects := by
  have hnone : Store.find? scope name added = none := by
    apply List.find?_eq_none.mpr
    intro j hj hat
    exact hadded j hj (Store.isAt_iff.mp hat)
  unfold Store.find? at hnone ⊢
  rw [List.find?_append, hnone, Option.or_none]

theorem IsCopied.mono (h : IsCopied req s₀ s name) (hmore : s.secrets <+: s'.secrets) :
    IsCopied req s₀ s' name := by
  rcases h with ⟨hfree, secret, copy, hsource, htarget, hsame⟩
  refine ⟨hfree, secret, copy, hsource, ?_, hsame⟩
  rcases Store.readOne_eq_some htarget with ⟨j, hj, hread⟩
  exact Store.readOne_of_read (Store.find?_of_prefix hmore hj) hread

theorem IsUntouched.mono (h : IsUntouched req s₀ s name) (hmore : s.secrets <+: s'.secrets) :
    IsUntouched req s₀ s' name := by
  rcases h with ⟨j, hbefore, hnow⟩
  exact ⟨j, hbefore, Store.find?_of_prefix hmore hnow⟩

theorem Accounts.mono {refs : List CredentialRef} {report : Report}
    {warned : List (CredentialRef × Error)} (h : Accounts req s₀ s refs report warned)
    (hmore : s.secrets <+: s'.secrets) : Accounts req s₀ s' refs report warned where
  once := h.once
  copied name hname := (h.copied name hname).mono hmore
  existing name hname := (h.existing name hname).mono hmore
  dispensable := h.dispensable
  warnings := h.warnings

/-!
### One credential more
-/

variable {refs : List CredentialRef} {ref : CredentialRef} {report : Report}
variable {warned : List (CredentialRef × Error)}

theorem perm_put_last (before after : List String) (name : String) :
    (before ++ [name] ++ after).Perm (before ++ after ++ [name]) := by
  rw [List.append_assoc, List.append_assoc]
  exact List.perm_append_comm.append_left before

theorem Accounts.addCopied (h : Accounts req s₀ s refs report warned)
    (hcopied : IsCopied req s₀ s ref.secret) :
    Accounts req s₀ s (refs ++ [ref]) { report with copied := report.copied ++ [ref.secret] }
      warned where
  once := by
    have hlast := perm_put_last report.copied (report.existing ++ warned.map (·.1.secret))
      ref.secret
    rw [← List.append_assoc, ← List.append_assoc] at hlast
    rw [List.map_append, List.map_singleton]
    exact hlast.trans (h.once.append_right _)
  copied name hname := by
    rcases List.mem_append.mp hname with hbefore | hnow
    · exact h.copied name hbefore
    · rw [List.mem_singleton.mp hnow]
      exact hcopied
  existing := h.existing
  dispensable w hw := ⟨List.mem_append_left _ (h.dispensable w hw).1, (h.dispensable w hw).2⟩
  warnings := h.warnings

theorem Accounts.addExisting (h : Accounts req s₀ s refs report warned)
    (huntouched : IsUntouched req s₀ s ref.secret) :
    Accounts req s₀ s (refs ++ [ref]) { report with existing := report.existing ++ [ref.secret] }
      warned where
  once := by
    have hlast := perm_put_last (report.copied ++ report.existing) (warned.map (·.1.secret))
      ref.secret
    rw [List.append_assoc report.copied] at hlast
    rw [List.map_append, List.map_singleton]
    exact hlast.trans (h.once.append_right _)
  copied := h.copied
  existing name hname := by
    rcases List.mem_append.mp hname with hbefore | hnow
    · exact h.existing name hbefore
    · rw [List.mem_singleton.mp hnow]
      exact huntouched
  dispensable w hw := ⟨List.mem_append_left _ (h.dispensable w hw).1, (h.dispensable w hw).2⟩
  warnings := h.warnings

theorem Accounts.addWarning (h : Accounts req s₀ s refs report warned) (e : Error)
    (hdispensable : ref.essential = false) :
    Accounts req s₀ s (refs ++ [ref])
      { report with warnings := report.warnings ++ [warning ref e] } (warned ++ [(ref, e)]) where
  once := by
    rw [List.map_append, List.map_append, List.map_singleton, List.map_singleton,
      ← List.append_assoc]
    exact h.once.append_right _
  copied := h.copied
  existing := h.existing
  dispensable w hw := by
    rcases List.mem_append.mp hw with hbefore | hnow
    · exact ⟨List.mem_append_left _ (h.dispensable w hbefore).1, (h.dispensable w hbefore).2⟩
    · rw [List.mem_singleton.mp hnow]
      exact ⟨List.mem_append_right _ (List.mem_singleton_self _), hdispensable⟩
  warnings := by
    rw [List.map_append, List.map_singleton, h.warnings]

theorem Handles.state {outcome : Except Error Bool} (h : Handles req name s outcome s') :
    s' = s ∨ ∃ secret : Secret, Store.placeOf secret.toJson = (req.targetScope, name) ∧
      s' = s.withSecret secret := by
  cases h with
  | copied hread _ => exact Or.inr ⟨_, placeOf_copy hread, rfl⟩
  | existing _ => exact Or.inl rfl
  | failed _ => exact Or.inl rfl
  | lost _ hread => exact Or.inr ⟨_, placeOf_copy hread, rfl⟩

theorem Handles.secrets {outcome : Except Error Bool} (h : Handles req name s outcome s') :
    s.secrets <+: s'.secrets := by
  rcases h.state with rfl | ⟨secret, _, rfl⟩
  · exact List.prefix_rfl
  · exact List.prefix_append _ _

/-- Secrets that were not dealt with yet are as they were, wherever they are. -/
theorem Underway.find?_eq (h : Underway req s₀ s refs report warned)
    (hfresh : name ∉ refs.map (·.secret)) (scope : String) :
    Store.find? scope name s.secrets = Store.find? scope name s₀.secrets := by
  rcases h.added with ⟨added, hsecrets, hplaces⟩
  rw [hsecrets]
  apply find?_of_other
  intro j hj heq
  rcases hplaces j hj with ⟨ref, href, hplace⟩
  rw [hplace] at heq
  exact hfresh (List.mem_map.mpr ⟨ref, href, congrArg Prod.snd heq⟩)

theorem Underway.extend {report' : Report} {warned' : List (CredentialRef × Error)}
    {outcome : Except Error Bool} (h : Underway req s₀ s refs report warned)
    (hhandles : Handles req ref.secret s outcome s')
    (haccounts : Accounts req s₀ s' (refs ++ [ref]) report' warned') :
    Underway req s₀ s' (refs ++ [ref]) report' warned' := by
  rcases h.added with ⟨added, hsecrets, hplaces⟩
  have hbefore (j : Json) (hj : j ∈ added) :
      ∃ r ∈ refs ++ [ref], Store.placeOf j = (req.targetScope, r.secret) := by
    rcases hplaces j hj with ⟨r, hr, hplace⟩
    exact ⟨r, List.mem_append_left _ hr, hplace⟩
  rcases hhandles.state with rfl | ⟨secret, hplace, rfl⟩
  · exact ⟨haccounts, h.clusters, added, hsecrets, hbefore⟩
  · refine ⟨haccounts, h.clusters, added ++ [secret.toJson], ?_, ?_⟩
    · rw [← List.append_assoc, ← hsecrets]
      rfl
    · intro j hj
      rcases List.mem_append.mp hj with hold | hnew
      · exact hbefore j hold
      · rw [List.mem_singleton.mp hnew]
        exact ⟨ref, List.mem_append_right _ (List.mem_singleton_self _), hplace⟩

theorem Underway.isCopied (h : Underway req s₀ s refs report warned)
    (hfresh : name ∉ refs.map (·.secret)) {secret : Secret}
    (hread : (s.perform (.getSecret req.sourceScope name)).1 = .ok (some secret))
    (hfree : Store.find? req.targetScope name s.secrets = none) :
    IsCopied req s₀ (s.withSecret (secret.copyTo req.sourceScope req.targetScope)) name := by
  rcases Store.readOne_eq_some hread with ⟨j, hj, hsecret⟩
  have hcopied := Store.find?_append_self (placeOf_copy hread) hfree
  rw [h.find?_eq hfresh] at hj hfree
  refine ⟨hfree, secret, secret.copyTo req.sourceScope req.targetScope, ?_, ?_, rfl, rfl, rfl, rfl,
    rfl⟩
  · exact Store.readOne_of_read hj hsecret
  · exact Store.readOne_of_read hcopied (Secret.ofJson?_copyTo hsecret _ _)

theorem Underway.isUntouched (h : Underway req s₀ s refs report warned)
    (hfresh : name ∉ refs.map (·.secret)) (hthere : s.HasSecret req.targetScope name) :
    IsUntouched req s₀ s name := by
  rcases hthere with ⟨j, hj⟩
  exact ⟨j, (h.find?_eq hfresh _).symm.trans hj, hj⟩

theorem endsFrankly_copyCredential (h : Underway req s₀ s refs report warned)
    (hfresh : ref.secret ∉ refs.map (·.secret)) :
    EndsFrankly s (copyCredential req report ref).run fun s' outcome =>
      ∀ report', outcome = .ok report' →
        ∃ warned', Underway req s₀ s' (refs ++ [ref]) report' warned' := by
  refine Procedure.endsFrankly_bind ((endsFrankly_copySecret req ref.secret s).mono ?_)
  intro s' outcome hhandles
  have hbefore := h.toAccounts.mono hhandles.secrets
  match outcome, hhandles with
  | .ok true, .copied hread hfree =>
      intro report' hreport
      cases hreport
      exact ⟨warned, h.extend (.copied hread hfree)
        (hbefore.addCopied (h.isCopied hfresh hread hfree))⟩
  | .ok false, .existing hthere =>
      intro report' hreport
      cases hreport
      exact ⟨warned, h.extend (.existing hthere)
        (hbefore.addExisting (h.isUntouched hfresh hthere))⟩
  | .error e, hhandles =>
      cases hessential : ref.essential with
      | true =>
          intro report' hreport
          cases hreport
      | false =>
          intro report' hreport
          cases hreport
          exact ⟨warned ++ [(ref, e)], h.extend hhandles (hbefore.addWarning e hessential)⟩

/-- By induction on the credentials that are left. -/
theorem endsFrankly_copyCredentials {rest : List CredentialRef}
    (h : Underway req s₀ s refs report warned)
    (hnodup : ((refs ++ rest).map (·.secret)).Nodup) :
    EndsFrankly s (rest.foldlM (copyCredential req) report).run fun s' outcome =>
      ∀ report', outcome = .ok report' →
        ∃ warned', Underway req s₀ s' (refs ++ rest) report' warned' := by
  induction rest generalizing s refs report warned with
  | nil =>
      intro report' hreport
      cases hreport
      rw [List.append_nil]
      exact ⟨warned, h⟩
  | cons ref rest ih =>
      have hfresh : ref.secret ∉ refs.map (·.secret) := by
        rw [List.map_append, List.map_cons] at hnodup
        intro hmem
        exact (List.nodup_append.mp hnodup).2.2 _ hmem _ List.mem_cons_self rfl
      have hsplit : refs ++ ref :: rest = refs ++ [ref] ++ rest := List.append_cons refs ref rest
      rw [hsplit] at hnodup ⊢
      rw [List.foldlM_cons]
      refine Operation.endsFrankly_bind ((endsFrankly_copyCredential h hfresh).mono ?_)
      intro s' outcome hone
      match outcome with
      | .error e =>
          intro report' hreport
          cases hreport
      | .ok report' =>
          rcases hone report' rfl with ⟨warned', hnext⟩
          exact ih hnext hnodup

/-!
## A whole clone
-/

/-- A clone was created, and what the report says of its credentials is so. -/
structure Accounted (req : Request) (s₀ s : Store) (report : Report) (created : Cluster)
    (warned : List (CredentialRef × Error)) : Prop where
  isClone : ∃ source,
    (s₀.perform (.getCluster req.sourceScope req.sourceCluster)).1 = .ok (some source) ∧
      created = source.cloneFor req.targetScope req.targetCluster
  isThere : Store.find? req.targetScope req.targetCluster s.clusters = some created.toJson
  once : ∀ ref ∈ credentialRefs created req.restoreStorage,
    (report.copied ++ report.existing ++ warned.map (·.1.secret)).count ref.secret = 1
  accounts : Accounts req s₀ s (credentialRefs created req.restoreStorage) report warned

theorem Accounts.accounted {source : Cluster}
    (hread : (s₀.perform (.getCluster req.sourceScope req.sourceCluster)).1 = .ok (some source))
    (hspec : source.HasPlainSpec)
    (hthere : Store.find? req.targetScope req.targetCluster s.clusters =
      some (source.cloneFor req.targetScope req.targetCluster).toJson)
    (h : Accounts req s₀ s (credentialRefs source req.restoreStorage) report warned) :
    Accounted req s₀ s report (source.cloneFor req.targetScope req.targetCluster) warned := by
  rw [← Cluster.credentialRefs_cloneFor hspec req.targetScope req.targetCluster] at h
  refine ⟨⟨source, hread, rfl⟩, hthere, ?_, h⟩
  intro ref href
  rw [h.once.count_eq]
  exact List.count_eq_one_of_mem (nodup_credentialRefs _ _) (List.mem_map_of_mem href)

theorem endsFrankly_run
    (hspec : ∀ source,
      (s₀.perform (.getCluster req.sourceScope req.sourceCluster)).1 = .ok (some source) →
        source.HasPlainSpec) :
    EndsFrankly s₀ (run req).run fun s' outcome =>
      ∀ report, outcome = .ok report →
        ∃ created warned, Accounted req s₀ s' report created warned := by
  unfold run source
  rw [bind_assoc]
  refine Operation.endsFrankly_bind ((Operation.endsFrankly_look rfl).mono ?_)
  intro s₁ found hlook
  rcases hlook with ⟨rfl, htold⟩
  match found with
  | .error e => exact fun _ hreport => nomatch hreport
  | .ok none => exact fun _ hreport => nomatch hreport
  | .ok (some source) =>
      have hread := (htold _ rfl).getCluster
      show EndsFrankly _ (Operation.getCluster _ _ >>= fun _ => _).run _
      refine Operation.endsFrankly_bind ((Operation.endsFrankly_look rfl).mono ?_)
      intro s₂ existing hlook
      rcases hlook with ⟨rfl, _⟩
      match existing with
      | .error e => exact fun _ hreport => nomatch hreport
      | .ok (some taken) => exact fun _ hreport => nomatch hreport
      | .ok none =>
          have hcopies := endsFrankly_copyCredentials (underway_nil req s₂ req.targetScope
            req.targetCluster) (nodup_credentialRefs source req.restoreStorage)
          show EndsFrankly _ (List.foldlM _ _ _ >>= fun _ => _ : Operation Report).run _
          refine Operation.endsFrankly_bind (hcopies.mono ?_)
          intro s₃ copied hcopied
          match copied with
          | .error e => exact fun _ hreport => nomatch hreport
          | .ok report =>
              rcases hcopied report rfl with ⟨warned, hunderway⟩
              have hcreation := Operation.endsFrankly_createCluster s₃
                (Store.placeOf_cloneFor source req.targetScope req.targetCluster)
              refine Operation.endsFrankly_bind (hcreation.mono ?_)
              intro s₄ created hcreated
              match created with
              | .error e => exact fun _ hreport => nomatch hreport
              | .ok () =>
                  intro _ hreport
                  cases hreport
                  rcases hcreated rfl with ⟨hthere, hsecrets⟩
                  have haccounts := hunderway.toAccounts.mono
                    (hsecrets ▸ List.prefix_rfl : s₃.secrets <+: s₄.secrets)
                  exact ⟨_, warned, haccounts.accounted hread (hspec source hread) hthere⟩

/-- A clone that succeeds on a frank server has created a cluster, and each of its credentials is
accounted for once and truly. -/
theorem clone_accounts_for_credentials (req : Request) {s₀ s : Store} {log : History Server}
    {report : Report}
    (hspec : ∀ source,
      (s₀.perform (.getCluster req.sourceScope req.sourceCluster)).1 = .ok (some source) →
        source.HasPlainSpec)
    (pass : Procedure.Passes Store.frank s₀ (run req).run log s (.done (.ok report))) :
    ∃ created warned, Accounted req s₀ s report created warned :=
  (endsFrankly_run hspec).holds pass report rfl

/-!
## The account of the example
-/

open Workflow (exampleStore exampleStamp)

theorem hasPlainSpec_exampleStore (source : Cluster)
    (hread : (exampleStore.perform (.getCluster "prod" "c1")).1 = .ok (some source)) :
    source.HasPlainSpec := by
  cases hread
  intro spec hspec
  cases hspec
  exact ⟨_, rfl⟩

/-- The secrets that are there are copied, and the one that is missing is warned of. -/
theorem example_accounted_for :
    ∃ log s report created warned,
      Procedure.Passes Store.frank exampleStore (run exampleRequest).run log s
        (.done (.ok report)) ∧
      report.copied = ["c1-secrets", "aws"] ∧ report.existing = [] ∧
      Accounted exampleRequest exampleStore s report created warned := by
  obtain ⟨report, hreport, hcopied, hexisting⟩ :
      ∃ report, (Procedure.run (Store.serving id exampleStamp) (run exampleRequest).run {}
          exampleStore).1 = .ok report ∧
        report.copied = ["c1-secrets", "aws"] ∧ report.existing = [] := ⟨_, rfl, rfl, rfl⟩
  have pass := Procedure.passes_run (E := Store.frank)
    (fun d s => ⟨s, Or.inl rfl, Store.frank_serving exampleStamp d s⟩) (run exampleRequest).run {}
    exampleStore
  rw [hreport] at pass
  rcases clone_accounts_for_credentials exampleRequest hasPlainSpec_exampleStore pass with
    ⟨created, warned, haccounted⟩
  exact ⟨_, _, report, created, warned, pass, hcopied, hexisting, haccounted⟩

/-- A server that refuses secrets for another reason makes them secrets that were there before. -/
theorem existing_secret_nowhere :
    ¬ ∀ (req : Request) (s₀ s : Store) (log : History Server) (report : Report),
      (∀ source,
        (s₀.perform (.getCluster req.sourceScope req.sourceCluster)).1 = .ok (some source) →
          source.HasPlainSpec) →
      Procedure.Passes (Store.unreliable fun _ _ => False) s₀ (run req).run log s
        (.done (.ok report)) →
      ∃ created warned, Accounted req s₀ s report created warned := by
  intro hall
  obtain ⟨report, hreport, hexisting⟩ :
      ∃ report, (Procedure.run (refusingSecrets exampleStamp) (run exampleRequest).run {}
          exampleStore).1 = .ok report ∧
        report.existing = ["c1-secrets", "aws"] := ⟨_, rfl, rfl⟩
  have pass := Procedure.passes_run (E := Store.unreliable fun _ _ => False)
    (fun d s => ⟨s, Or.inl rfl, unreliable_refusingSecrets (fun _ _ => False) exampleStamp d s⟩)
    (run exampleRequest).run {} exampleStore
  rw [hreport] at pass
  rcases hall exampleRequest _ _ _ report hasPlainSpec_exampleStore pass with
    ⟨created, warned, haccounted⟩
  have hlisted : "c1-secrets" ∈ report.existing := by
    rw [hexisting]
    exact List.mem_cons_self
  rcases haccounted.accounts.existing "c1-secrets" hlisted with ⟨j, hbefore, _⟩
  cases hbefore

end Clone
end PointInTime
