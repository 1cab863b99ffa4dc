import PointInTime.Proofs.Workflow.Survey

/-!
# A restore that is refused

A plan that cannot be made and a plan that something blocks are refused alike, and nothing is asked
for beyond what planning asks for.

Main statements: a plan has a blocker exactly if one of its four checks failed, and a refused
restore ends where its plan ended, with the same exchanges and without a write.
-/

namespace PointInTime
namespace Workflow

open Operation

/-!
## Findings
-/

theorem blockersOf_append (a b : List Finding) :
    blockersOf (a ++ b) = blockersOf a ++ blockersOf b :=
  List.filterMap_append

theorem blockersOf_cons_eq_nil (f : Finding) (rest : List Finding) :
    blockersOf (f :: rest) = [] ↔ f.2 = none ∧ blockersOf rest = [] := by
  rcases f with ⟨check, blocker⟩
  cases blocker <;> simp [blockersOf]

theorem windowFinding_eq_none (window : RecoveryWindow) (instant : Instant) :
    (windowFinding window instant).2 = none ↔ instant ∈ window := by
  simp [windowFinding]

theorem namespaceFinding_eq_none (scope : String) (doesExist create : Bool) :
    (namespaceFinding scope doesExist create).2 = none ↔ doesExist = true ∨ create = true := by
  cases doesExist <;> simp [namespaceFinding]

theorem nameFinding_eq_none (clone : Clone.Preview) :
    (nameFinding clone).2 = none ↔ clone.collision = false := by
  simp [nameFinding]

theorem credentialFinding_eq_none (c : Clone.CredentialPlan) :
    (credentialFinding c).2 = none ↔ c.isBlocking = false := by
  simp [credentialFinding]

theorem blockersOf_credentials_eq_nil (credentials : List Clone.CredentialPlan) :
    blockersOf (credentials.map credentialFinding) = [] ↔
      ∀ c ∈ credentials, c.isBlocking = false := by
  induction credentials with
  | nil => simp [blockersOf]
  | cons c rest ih =>
      rw [List.map_cons, blockersOf_cons_eq_nil, ih, List.forall_mem_cons,
        credentialFinding_eq_none]

/-- What the four checks of a plan ask for. -/
structure IsClear (p : Plan) (mayCreate : Bool) : Prop where
  inWindow : p.instant ∈ p.window
  hasNamespace : p.namespaceExists = true ∨ mayCreate = true
  isFree : p.clone.collision = false
  isProvided : ∀ c ∈ p.clone.credentials, c.isBlocking = false

theorem Surveyed.blockers_eq_nil {o : RestoreOptions} {h : History Server} {p : Plan}
    (hp : Surveyed o h p) : p.blockers = [] ↔ IsClear p o.createNamespace := by
  rcases hp with ⟨source, backup, window, instant, storageName, doesExist, clone, _, _, _, rfl⟩
  have hblockers : (assemble o source backup window instant storageName doesExist clone).blockers =
      blockersOf
        ([sourceFinding o.sourceScope source, backupFinding backup, windowFinding window instant,
          namespaceFinding o.target doesExist o.createNamespace, nameFinding clone] ++
          clone.credentials.map credentialFinding) := rfl
  rw [hblockers, blockersOf_append, List.append_eq_nil_iff, blockersOf_credentials_eq_nil]
  simp only [blockersOf_cons_eq_nil, windowFinding_eq_none, namespaceFinding_eq_none,
    nameFinding_eq_none]
  constructor
  · rintro ⟨⟨_, _, hwindow, hnamespace, hname, _⟩, hcredentials⟩
    exact ⟨hwindow, hnamespace, hname, hcredentials⟩
  · rintro ⟨hwindow, hnamespace, hname, hcredentials⟩
    exact ⟨⟨rfl, rfl, hwindow, hnamespace, hname, rfl⟩, hcredentials⟩

/-!
## From a plan to its refusal
-/

/-- Why a planned restore is not begun. -/
def refusal? : Except Error Plan → Option Error
  | .error e => some e
  | .ok p => p.firstError?

theorem refusal?_eq_some_iff {outcome : Except Error Plan} {e : Error} :
    refusal? outcome = some e ↔
      outcome = Except.error e ∨
        ∃ p b rest, outcome = Except.ok p ∧ p.blockers = b :: rest ∧ e = b.toError := by
  cases outcome with
  | error e' => simp [refusal?]
  | ok p =>
      cases hblockers : p.blockers <;>
        simp [refusal?, Plan.firstError?, hblockers, eq_comm]

/-- What follows once planning has ended. -/
def afterPlan : Except Error Plan → Procedure Server (Except Error Submission)
  | .error e => .done (Except.error e)
  | .ok p =>
      match p.firstError? with
      | some e => .done (Except.error e)
      | none => (carryOut p).run

theorem execute_run (o : RestoreOptions) :
    (execute o).run = Procedure.bind (plan o).run afterPlan := by
  unfold execute
  rw [ExceptT.run_bind, Procedure.bind_eq_bind]
  congr 1
  funext outcome
  cases outcome with
  | error e => rfl
  | ok p =>
      show ExceptT.run (match p.firstError? with
        | some e => throw e
        | none => carryOut p) = afterPlan (Except.ok p)
      simp only [afterPlan]
      cases p.firstError? <;> rfl

theorem afterPlan_of_refusal {outcome : Except Error Plan} {e : Error}
    (he : refusal? outcome = some e) : afterPlan outcome = .done (Except.error e) := by
  cases outcome with
  | error e' =>
      cases he
      rfl
  | ok p =>
      unfold refusal? at he
      simp only [afterPlan, he]

theorem refusal?_ok_eq_none {p : Plan} :
    refusal? (Except.ok p) = none ↔ p.isBlocked = false := by
  unfold refusal? Plan.firstError? Plan.isBlocked
  cases hblockers : p.blockers <;> simp [hblockers]

theorem afterPlan_of_not_refused {p : Plan} (hp : refusal? (Except.ok p) = none) :
    afterPlan (Except.ok p) = (carryOut p).run := by
  unfold refusal? at hp
  simp only [afterPlan, hp]

/-!
## From a plan to its execution
-/

/-- What is left to carry out once the namespace is there. -/
def cloneAndSubmit (p : Plan) : Operation Submission := do
  let clone ← Clone.run p.cloneRequest
  let job ← Job.submit p.targetScope p.targetCluster p.backup p.instant p.storageName
  return ⟨job, p.targetCluster, p.targetScope, p.backup.name, p.instant, clone⟩

theorem carryOut_eq (p : Plan) :
    carryOut p =
      if p.createNamespace then createNamespace p.targetScope >>= fun _ => cloneAndSubmit p
      else cloneAndSubmit p := by
  unfold carryOut cloneAndSubmit
  split <;> rfl

/-!
## Runs
-/

section

variable {σ : Type} (answer : (d : Demand) → σ → d.Answer × σ)
variable (o : RestoreOptions) (c : Clock) (s : σ)

theorem looks_of_plan :
    ∀ e ∈ Procedure.exchanges answer (plan o).run c s, e.1.IsLook := by
  have hplan : Procedure.EnsuresIn (Surroundings.anything Server σ) (fun h _ d => Looking h d)
      _ (plan o).run [] s := (ensures_plan o []).ensuresIn
  exact Procedure.forall_exchanges_of_ensuresIn id (fun _ _ => trivial)
    (fun _ _ _ hlook => hlook) hplan c

theorem surveyed_of_plan {p : Plan}
    (hp : (Procedure.run answer (plan o).run c s).1 = Except.ok p) :
    Surveyed o (Procedure.exchanges answer (plan o).run c s) p := by
  have hplan : Procedure.EnsuresIn (Surroundings.anything Server σ) (fun h _ d => Looking h d)
      _ (plan o).run [] s := (ensures_plan o []).ensuresIn
  have hends := Procedure.ends_of_ensuresIn answer id (fun _ _ => trivial) hplan c
  rw [hp] at hends
  exact hends

theorem refused_without_writing :
    (∀ e ∈ Procedure.exchanges answer (plan o).run c s, ¬ e.1.IsWrite) ∧
      (∀ p, (Procedure.run answer (plan o).run c s).1 = Except.ok p →
        (p.isBlocked = false ↔ IsClear p o.createNamespace)) ∧
      ∀ e, ((Procedure.run answer (plan o).run c s).1 = Except.error e ∨
          ∃ p b rest, (Procedure.run answer (plan o).run c s).1 = Except.ok p ∧
            p.blockers = b :: rest ∧ e = b.toError) →
        Procedure.run answer (execute o).run c s =
            (Except.error e, (Procedure.run answer (plan o).run c s).2) ∧
          Procedure.exchanges answer (execute o).run c s =
            Procedure.exchanges answer (plan o).run c s := by
  refine ⟨?_, ?_, ?_⟩
  · intro e he
    exact (looks_of_plan answer o c s e he).not_isWrite
  · intro p hp
    rw [← (surveyed_of_plan answer o c s hp).blockers_eq_nil]
    simp [Plan.isBlocked]
  · intro e he
    rw [← refusal?_eq_some_iff] at he
    -- Nothing follows a plan that is refused.
    rw [execute_run, Procedure.run_bind, Procedure.exchanges_bind, afterPlan_of_refusal he]
    exact ⟨rfl, List.append_nil _⟩

end

/-- The namespace is missing and may not be created, and the instant lies before the backup. -/
def exampleRefused : RestoreOptions :=
  { exampleOptions "dev" with createNamespace := false, instant := some .epoch }

theorem refused_before_backup :
    let answer := Store.serving id exampleStamp
    let completion : Instant := ⟨1735689600, 0, by decide⟩
    (∃ p, (Procedure.run answer (plan exampleRefused).run {} exampleStore).1 = Except.ok p ∧
        p.isBlocked = true ∧ ¬ IsClear p false) ∧
      (Procedure.run answer (execute exampleRefused).run {} exampleStore).1 =
        Except.error (.outOfRange .epoch completion completion) ∧
      ∀ e ∈ Procedure.exchanges answer (execute exampleRefused).run {} exampleStore,
        ¬ e.1.IsWrite := by
  intro answer completion
  obtain ⟨hwrites, hclear, hrefused⟩ :=
    refused_without_writing answer exampleRefused {} exampleStore
  have hrefusal : refusal? (Procedure.run answer (plan exampleRefused).run {} exampleStore).1 =
      some (.outOfRange .epoch completion completion) := by
    decide +kernel
  rcases hrefused _ (refusal?_eq_some_iff.mp hrefusal) with ⟨hrun, hlog⟩
  refine ⟨?_, by rw [hrun], ?_⟩
  · have hblocked : ((Procedure.run answer (plan exampleRefused).run {} exampleStore).1.toOption.any
        Plan.isBlocked) = true := by
      decide +kernel
    rcases exists_ok_of_any hblocked with ⟨p, hp, hp_blocked⟩
    refine ⟨p, hp, hp_blocked, ?_⟩
    intro hfree
    rw [(hclear p hp).mpr hfree] at hp_blocked
    cases hp_blocked
  · rw [hlog]
    exact hwrites

end Workflow
end PointInTime
