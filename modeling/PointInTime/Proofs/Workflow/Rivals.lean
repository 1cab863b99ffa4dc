import PointInTime.Proofs.Procedure.Interleaving
import PointInTime.Proofs.Server.Answers
import PointInTime.Proofs.Workflow.Entitlement

/-!
# Rival restores

Any number of restores run at the same time against one lossy server, on which others may do
anything but delete clusters.  A place for a cluster is given away once: what decides between rivals
is the creation of the cluster, and not the looks before it, which another one can outrun.

Main statement: of the restores that aim at one place, at most one creates the cluster and submits
a job for it, and all others fail; none of them touches a cluster or a secret that is there.
-/

namespace PointInTime
namespace Workflow

open Procedure (Threads)

variable {ι : Type} {others : Store → Store → Prop}

def rivals (o : ι → RestoreOptions) (x : Store) :
    Threads Server Store ι (Except Error Submission) :=
  Threads.start x fun i => (execute (o i)).run

def KeepsClusters (others : Store → Store → Prop) : Prop :=
  ∀ x y scope name, others x y → (Store.find? scope name x.clusters).isSome = true →
    (Store.find? scope name y.clusters).isSome = true

/-!
## Creations and submissions
-/

/-- A job was asked for, whatever came of it. -/
def Submitted (h : History Server) (job : Restore) : Prop :=
  ∃ x : Except Error Unit, (⟨.server (.createRestore job), x⟩ : Exchange Server) ∈ h

theorem hasCreated_append_singleton {h : History Server} {e : Exchange Server}
    {scope name : String} (hc : HasCreated (h ++ [e]) scope name) :
    HasCreated h scope name ∨
      ∃ c : Cluster, e = ⟨.server (.createCluster c), Except.ok ()⟩ ∧
        Store.placeOf c.toJson = (scope, name) := by
  rcases hc with ⟨c, hheard, hplace⟩
  rcases List.mem_append.mp hheard with hold | hnew
  · exact Or.inl ⟨c, hold, hplace⟩
  · exact Or.inr ⟨c, (List.mem_singleton.mp hnew).symm, hplace⟩

theorem submitted_append_singleton {h : History Server} {e : Exchange Server} {job : Restore}
    (hs : Submitted (h ++ [e]) job) :
    Submitted h job ∨ ∃ x : Except Error Unit, e = ⟨.server (.createRestore job), x⟩ := by
  rcases hs with ⟨x, hx⟩
  rcases List.mem_append.mp hx with hold | hnew
  · exact Or.inl ⟨x, hold⟩
  · exact Or.inr ⟨x, (List.mem_singleton.mp hnew).symm⟩

/-!
## What is kept at every moment
-/

structure Exclusive (o : ι → RestoreOptions) (h : ι → History Server) (s : Store) : Prop where
  taken : ∀ i scope name, HasCreated (h i) scope name →
    (Store.find? scope name s.clusters).isSome = true
  single : ∀ i j scope name, HasCreated (h i) scope name → HasCreated (h j) scope name → i = j
  entitled : ∀ i job, Submitted (h i) job →
    Entitled (o i) (h i) job.metadata.scope job.spec.cluster

variable {o : ι → RestoreOptions} {h : ι → History Server} {s s' : Store}

theorem exclusive_start (o : ι → RestoreOptions) (x : Store) :
    Exclusive o (rivals o x).logs x := by
  have hnone {i : ι} {scope name : String} : ¬ HasCreated ((rivals o x).logs i) scope name := by
    rintro ⟨c, hheard, _⟩
    cases hheard
  refine ⟨fun _ _ _ hc => absurd hc hnone, fun _ _ _ _ hc => absurd hc hnone, ?_⟩
  rintro i job ⟨_, hmem⟩
  cases hmem

theorem Exclusive.drift (hothers : KeepsClusters others) (hd : others s s')
    (hs : Exclusive o h s) : Exclusive o h s' :=
  ⟨fun i scope name hc => hothers _ _ _ _ hd (hs.taken i scope name hc), hs.single, hs.entitled⟩

variable [DecidableEq ι]

/-- Only the restore that moved has created anything new. -/
theorem hasCreated_update {i j : ι} {e : Exchange Server} {scope name : String}
    (hc : HasCreated (Function.update h i (h i ++ [e]) j) scope name) :
    HasCreated (h j) scope name ∨ j = i ∧
      ∃ c : Cluster, e = ⟨.server (.createCluster c), Except.ok ()⟩ ∧
        Store.placeOf c.toJson = (scope, name) := by
  by_cases hj : j = i
  · subst hj
    rw [Function.update_self] at hc
    exact (hasCreated_append_singleton hc).imp id fun hnew => ⟨rfl, hnew⟩
  · rw [Function.update_of_ne hj] at hc
    exact Or.inl hc

theorem Exclusive.answer {i : ι} {d : Demand} {x : d.Answer} (hasks : Asks (o i) (h i) d)
    (ha : Store.LossyAnswers s d x s') (hs : Exclusive o h s) :
    Exclusive o (Function.update h i (h i ++ [⟨d, x⟩])) s' := by
  have hnew {c : Cluster} {scope name : String}
      (he : (⟨d, x⟩ : Exchange Server) = ⟨.server (.createCluster c), Except.ok ()⟩)
      (hplace : Store.placeOf c.toJson = (scope, name)) :
      Store.find? scope name s.clusters = none ∧
        (Store.find? scope name s'.clusters).isSome = true := by
    cases he
    rcases ha.of_ok with ⟨hok, rfl⟩
    rcases Store.find?_of_createCluster hplace hok with ⟨hfree, htaken⟩
    exact ⟨hfree, by rw [htaken]; rfl⟩
  have hkept {scope name : String} (ht : (Store.find? scope name s.clusters).isSome = true) :
      (Store.find? scope name s'.clusters).isSome = true := by
    rcases Option.isSome_iff_exists.mp ht with ⟨j, hj⟩
    rw [Store.find?_of_prefix ha.grows.clusters hj]
    rfl
  constructor
  · intro j scope name hc
    rcases hasCreated_update hc with hold | ⟨_, c, he, hplace⟩
    · exact hkept (hs.taken j scope name hold)
    · exact (hnew he hplace).2
  -- Whoever creates finds the place free, and a place that was given away is not.
  · intro j k scope name hj hk
    rcases hasCreated_update hj with hjold | ⟨rfl, c, he, hplace⟩
    · rcases hasCreated_update hk with hkold | ⟨rfl, c, he, hplace⟩
      · exact hs.single j k scope name hjold hkold
      · have htaken := hs.taken j scope name hjold
        rw [(hnew he hplace).1] at htaken
        cases htaken
    · rcases hasCreated_update hk with hkold | ⟨rfl, _⟩
      · have htaken := hs.taken k scope name hkold
        rw [(hnew he hplace).1] at htaken
        cases htaken
      · rfl
  · intro j job hj
    by_cases hji : j = i
    · subst hji
      rw [Function.update_self] at hj ⊢
      rcases submitted_append_singleton hj with hold | ⟨y, he⟩
      · exact (hs.entitled j job hold).append _
      · cases he
        have hentitled : Entitled (o j) (h j) job.metadata.scope job.spec.cluster := hasks
        exact hentitled.append _
    · rw [Function.update_of_ne hji] at hj ⊢
      exact hs.entitled j job hj

/-!
## The rivals
-/

/-- Whatever has been planned, if anything, was planned for this place. -/
def AimsAt (o : RestoreOptions) (h : History Server) (scope name : String) : Prop :=
  ∀ p, Planned o h p → p.targetScope = scope ∧ p.targetCluster = name

theorem aimsAt_of_options {o : RestoreOptions} {scope name : String} (hscope : o.target = scope)
    (hname : o.targetCluster = some name) (h : History Server) : AimsAt o h scope name := by
  intro p hp
  rcases hp.target with ⟨htarget, hcluster⟩
  exact ⟨htarget.trans hscope, hcluster name hname⟩

theorem Entitled.hasCreated_of_aimsAt {o : RestoreOptions} {h : History Server}
    {scope name scope' name' : String} (he : Entitled o h scope' name')
    (haims : AimsAt o h scope name) : HasCreated h scope name := by
  rcases he with ⟨⟨p, hp, hscope, hname⟩, hcreated⟩
  rcases haims p hp with ⟨hscope', hname'⟩
  rw [← hscope', ← hname', hscope, hname]
  exact hcreated

/-- Others leave an object as it is. -/
def Stays (others : Store → Store → Prop) (part : Store → List Json) (scope name : String)
    (j : Json) : Prop :=
  ∀ x y, others x y → Store.find? scope name (part x) = some j →
    Store.find? scope name (part y) = some j

theorem one_restore_per_cluster (hothers : KeepsClusters others) (o : ι → RestoreOptions)
    (x : Store) {now : Threads Server Store ι (Except Error Submission)}
    (hnow : Threads.Reaches (Store.lossy others) (rivals o x) now) (scope name : String) :
    (∀ i j, HasCreated (now.logs i) scope name → HasCreated (now.logs j) scope name → i = j) ∧
      (∀ i job, Submitted (now.logs i) job → job.metadata.scope = scope →
        job.spec.cluster = name → HasCreated (now.logs i) scope name) ∧
      (∀ i, AimsAt (o i) (now.logs i) scope name → ¬ HasCreated (now.logs i) scope name →
        (∀ job, ¬ Submitted (now.logs i) job) ∧
          ∀ outcome, (now.threads i).rest = .done outcome → ∃ e, outcome = Except.error e) ∧
      ∀ later, Threads.Reaches (Store.lossy others) now later → ∀ j,
        (Stays others Store.clusters scope name j →
          Store.find? scope name now.state.clusters = some j →
          Store.find? scope name later.state.clusters = some j) ∧
        (Stays others Store.secrets scope name j →
          Store.find? scope name now.state.secrets = some j →
          Store.find? scope name later.state.secrets = some j) := by
  obtain ⟨hexclusive, hdescribed⟩ := Threads.Reaches.keeps (Exclusive o)
    (fun _ _ _ hd hs => hs.drift hothers hd) (fun _ _ _ _ _ _ hasks ha hs => hs.answer hasks ha)
    hnow (fun i => ensures_execute (o i)) (exclusive_start o x)
  refine ⟨?_, ?_, ?_, ?_⟩
  · intro i j hi hj
    exact hexclusive.single i j scope name hi hj
  · rintro i job hjob rfl rfl
    exact (hexclusive.entitled i job hjob).2
  · intro i haims hnone
    constructor
    · intro job hjob
      exact hnone ((hexclusive.entitled i job hjob).hasCreated_of_aimsAt haims)
    · intro outcome hdone
      have hends := hdescribed i
      rw [hdone] at hends
      cases outcome with
      | error e => exact ⟨e, rfl⟩
      | ok submission =>
          rcases hends with ⟨scope', name', hentitled⟩
          exact absurd (hentitled.hasCreated_of_aimsAt haims) hnone
  · intro later hlater j
    constructor
    · intro hstays hj
      exact hlater.keeps_state (fun s s' hd => hstays s s' hd)
        (fun _ _ _ _ ha hj => Store.find?_of_prefix (Store.LossyAnswers.grows ha).clusters hj) hj
    · intro hstays hj
      exact hlater.keeps_state (fun s s' hd => hstays s s' hd)
        (fun _ _ _ _ ha hj => Store.find?_of_prefix (Store.LossyAnswers.grows ha).secrets hj) hj

/-!
## A race
-/

/-- One rival has found the name free; the other one is done before it goes on. -/
def exampleRace : Threads Server Store Bool (Except Error Submission) :=
  let answer := Store.serving id exampleStamp
  let restore := (execute (exampleOptions "staging")).run
  let early := Procedure.advance answer 14 restore exampleStore
  let winner := Procedure.run answer restore {} early.2.2
  let loser := Procedure.run answer early.1 {} winner.2.2
  (((rivals (fun _ => exampleOptions "staging") exampleStore).move true early.2.1 early.2.2
    early.1).move false (Procedure.exchanges answer restore {} early.2.2) winner.2.2
      (.done winner.1)).move true (Procedure.exchanges answer early.1 {} winner.2.2) loser.2.2
        (.done loser.1)

theorem reaches_exampleRace :
    Threads.Reaches (Store.lossy fun _ _ => False)
      (rivals (fun _ => exampleOptions "staging") exampleStore) exampleRace := by
  have honest (d : Demand) (s : Store) : Store.LossyAnswers s d
      (Store.serving id exampleStamp d s).1 (Store.serving id exampleStamp d s).2 :=
    Store.LossyAnswers.answered (Store.answers_serving id exampleStamp d s)
  have hrun (p : Procedure Server (Except Error Submission)) (s : Store) :=
    Procedure.passes_run (E := Store.lossy fun _ _ => False)
      (fun d s => ⟨s, Or.inl rfl, honest d s⟩) p {} s
  refine ((Threads.reaches_of_passes true ?_ rfl rfl).trans
    (Threads.reaches_of_passes false (hrun _ _) rfl ?_)).trans
      (Threads.reaches_of_passes true (hrun _ _) rfl ?_)
  · exact Procedure.passes_advance honest 14 _ _
  · rfl
  · rfl

theorem one_restore_per_cluster_race :
    HasCreated (exampleRace.logs false) "staging" "c2" ∧
      ¬ HasCreated (exampleRace.logs true) "staging" "c2" ∧
      (∀ job, ¬ Submitted (exampleRace.logs true) job) ∧
      (∃ e, (exampleRace.threads true).rest = .done (Except.error e)) ∧
      Store.find? "prod" "aws" exampleRace.state.secrets = some (exampleSecret "aws") := by
  have hnobody : KeepsClusters fun _ _ => False := fun _ _ _ _ hd => hd.elim
  obtain ⟨hsingle, _, hothers, _⟩ := one_restore_per_cluster hnobody
    (fun _ : Bool => exampleOptions "staging") exampleStore reaches_exampleRace "staging" "c2"
  have haims (i : Bool) : AimsAt (exampleOptions "staging") (exampleRace.logs i) "staging" "c2" :=
    aimsAt_of_options rfl rfl _
  -- Only the winner's success is computed; what becomes of the loser is the theorem.
  have hwinner : HasCreated (exampleRace.logs false) "staging" "c2" := by
    by_contra hnone
    rcases (hothers false (haims false) hnone).2 _ rfl with ⟨e, he⟩
    have hok : (Procedure.run (Store.serving id exampleStamp)
        (execute (exampleOptions "staging")).run {} (Procedure.advance
          (Store.serving id exampleStamp) 14 (execute (exampleOptions "staging")).run
          exampleStore).2.2).1.isOk = true := by
      decide +kernel
    rw [he] at hok
    cases hok
  have hloser : ¬ HasCreated (exampleRace.logs true) "staging" "c2" := by
    intro hcreated
    cases hsingle false true hwinner hcreated
  rcases hothers true (haims true) hloser with ⟨hnever, hfails⟩
  rcases hfails _ rfl with ⟨e, he⟩
  have hkept := (one_restore_per_cluster hnobody (fun _ : Bool => exampleOptions "staging")
    exampleStore Relation.ReflTransGen.refl "prod" "aws").2.2.2 exampleRace reaches_exampleRace
    (exampleSecret "aws")
  exact ⟨hwinner, hloser, hnever, ⟨e, congrArg _ he⟩, hkept.2 (fun _ _ hd => hd.elim) rfl⟩

end Workflow
end PointInTime
