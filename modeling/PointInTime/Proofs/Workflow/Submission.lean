import PointInTime.Proofs.Workflow.Entitlement

/-!
# What a restore has submitted

A restore that has been started has submitted one job as the very last thing it did, and one that
could not be started has submitted none.  Starting a restore takes no time, as long as requests take
none.

Main statement: `ensures_execute_submitted`, for all answers.
-/

namespace PointInTime

open Operation

/-!
## Submissions
-/

/-- A job was created. -/
def created (job : Restore) : Exchange Server :=
  ⟨.server (.createRestore job), Except.ok ()⟩

/-- No job was asked for. -/
def Spared (h : History Server) : Prop :=
  ∀ e ∈ h, Sparing h e.1

/-- No job was created. -/
def NoneCreated (h : History Server) : Prop :=
  ∀ job, created job ∉ h

variable {h : History Server}

theorem spared_append {h' : History Server} : Spared (h ++ h') ↔ Spared h ∧ Spared h' :=
  List.forall_mem_append

theorem spared_stamp (stamp : Stamp) : Spared [⟨.stamp, stamp⟩] := by
  intro e he
  rw [List.mem_singleton.mp he]
  trivial

theorem Spared.noneCreated (hh : Spared h) : NoneCreated h := by
  intro job hjob
  cases hh _ hjob

theorem Spared.noneCreated_of_error (hh : Spared h) (job : Restore) (e : Error) :
    NoneCreated (h ++ [⟨.server (.createRestore job), Except.error e⟩]) := by
  intro job' hjob'
  rcases List.mem_append.mp hjob' with hbefore | hnow
  · exact hh.noneCreated job' hbefore
  · cases List.mem_singleton.mp hnow

namespace Workflow

/-- The job that a submission reports. -/
def Submission.Names (s : Submission) (job : Restore) : Prop :=
  job.metadata.name = s.job ∧ job.metadata.scope = s.scope ∧ job.spec.cluster = s.cluster

/-- One job was submitted, at the end, for a cluster that had been created before. -/
def HasSubmitted (h : History Server) (s : Submission) : Prop :=
  ∃ before job, h = before ++ [created job] ∧ Spared before ∧
    HasCreated before s.scope s.cluster ∧ s.Names job

theorem ensures_cloneAndSubmit_submitted (p : Plan) (hh : Spared h) :
    Ensures (fun _ _ => True) HasSubmitted (fun h' _ => NoneCreated h') (cloneAndSubmit p) h := by
  unfold cloneAndSubmit
  rw [Operation.ensures_bind]
  have hclone := Procedure.Ensures.collect (fun h' d hd => Clone.Asks.sparing (h := h') hd)
    (Clone.ensures_run p.cloneRequest h) hh
  refine Procedure.Ensures.mono (fun _ _ _ => trivial) ?_ hclone
  intro more outcome hends
  obtain ⟨hcloned, hspared⟩ := hends
  cases outcome with
  | error e => exact Spared.noneCreated hspared
  | ok report =>
      have hcreated : HasCreated (h ++ more) p.targetScope p.targetCluster :=
        Clone.Cloned.hasCreated hcloned
      show Ensures _ _ _ (Job.submit _ _ _ _ _ >>= fun _ => pure _) _
      rw [Operation.ensures_bind]
      -- the stamp stands between the clone and the job
      have hstamped (stamp : Stamp) : Spared (h ++ more ++ [⟨.stamp, stamp⟩]) :=
        spared_append.mpr ⟨hspared, spared_stamp stamp⟩
      refine Job.ensures_submit trivial ?_ ?_
      · intro stamp name e hbuild
        exact (hstamped stamp).noneCreated
      · intro stamp job hbuild
        rcases Job.build_eq_ok hbuild with ⟨_, hscope, _⟩
        refine ⟨trivial, ?_, (hstamped stamp).noneCreated_of_error job⟩
        exact ⟨_, job, rfl, hstamped stamp, hcreated.append _, rfl, hscope,
          Job.cluster_of_build hbuild⟩

theorem ensures_carryOut_submitted (p : Plan) (hh : Spared h) :
    Ensures (fun _ _ => True) HasSubmitted (fun h' _ => NoneCreated h') (carryOut p) h := by
  have hanswered (x : Except Error Unit) :
      Spared (h ++ [⟨.server (.createNamespace p.targetScope), x⟩]) := by
    rw [spared_append]
    constructor
    · exact hh
    · intro e he
      rw [List.mem_singleton.mp he]
      rfl
  rw [carryOut_eq]
  split
  · unfold createNamespace
    rw [Operation.ensures_bind, Operation.ensures_bind, ensures_of]
    split
    · refine (ensures_send (r := .createNamespace p.targetScope)).mpr ⟨trivial, ?_, ?_⟩
      · intro _
        exact ensures_cloneAndSubmit_submitted p (hanswered _)
      · intro e
        exact (hanswered _).noneCreated
    · exact hh.noneCreated
  · exact ensures_cloneAndSubmit_submitted p hh

theorem ensures_execute_submitted (o : RestoreOptions) :
    Ensures (fun _ _ => True) HasSubmitted (fun h' _ => NoneCreated h') (execute o) [] := by
  rw [ensures_iff, execute_run, Procedure.ensures_bind]
  have hplan := Procedure.Ensures.collect (fun h' d hd => Demand.IsLook.sparing hd h')
    (ensures_plan o []) (by simp)
  refine Procedure.Ensures.mono (fun _ _ _ => trivial) ?_ hplan
  intro more outcome hends
  have hspared : Spared ([] ++ more) := hends.2
  cases hrefusal : refusal? outcome with
  | some e =>
      rw [afterPlan_of_refusal hrefusal]
      exact hspared.noneCreated
  | none =>
      cases outcome with
      | error e => cases hrefusal
      | ok p =>
          rw [afterPlan_of_not_refused hrefusal]
          exact ensures_carryOut_submitted p hspared

/-!
## Starting takes no time
-/

theorem prompt_copySecret (req : Clone.Request) (name : String) :
    Prompt (Clone.copySecret req name) := by
  unfold Clone.copySecret
  refine prompt_bind (prompt_send _) fun found => ?_
  cases found with
  | some existing => trivial
  | none =>
      refine prompt_bind (prompt_send _) fun source => ?_
      refine prompt_bind (prompt_orMissing _ _) fun secret => ?_
      refine Procedure.prompt_bind (prompt_send _) fun outcome => ?_
      split <;> trivial

theorem prompt_copyCredential (req : Clone.Request) (report : Clone.Report)
    (ref : Clone.CredentialRef) : Prompt (Clone.copyCredential req report ref) := by
  refine Procedure.prompt_bind (prompt_copySecret req ref.secret) fun outcome => ?_
  split
  · trivial
  · trivial
  · split <;> trivial

theorem prompt_clone (req : Clone.Request) : Prompt (Clone.run req) := by
  unfold Clone.run Clone.source
  refine prompt_bind (prompt_bind (prompt_send _) fun _ => prompt_orMissing _ _) fun cluster => ?_
  refine prompt_bind (prompt_send _) fun existing => ?_
  split
  · trivial
  · refine prompt_bind (prompt_foldlM (prompt_copyCredential req) _ _) fun report => ?_
    exact prompt_bind (prompt_send _) fun _ => prompt_of _

theorem prompt_cloneAndSubmit (p : Plan) : Prompt (cloneAndSubmit p) := by
  unfold cloneAndSubmit Job.submit
  refine prompt_bind (prompt_clone _) fun report => ?_
  refine prompt_bind ?_ fun job => prompt_of _
  refine prompt_bind (prompt_lift fun _ => trivial) fun stamp => ?_
  refine prompt_bind (prompt_of _) fun job => ?_
  exact prompt_bind (prompt_send _) fun _ => prompt_of _

theorem prompt_execute (o : RestoreOptions) : Prompt (execute o) := by
  refine prompt_bind (prompt_plan o) fun p => ?_
  split
  · trivial
  · rw [carryOut_eq]
    split
    · unfold createNamespace
      refine prompt_bind ?_ fun _ => prompt_cloneAndSubmit p
      exact prompt_bind (prompt_of _) fun _ => prompt_send _
    · exact prompt_cloneAndSubmit p

theorem lasts_execute_error {o : RestoreOptions} {c c' : Clock} {log : Procedure.Chronicle Server}
    {e : Error} (course : Procedure.Lasts c (execute o).run log c' (Except.error e)) :
    NoneCreated (log.map Prod.snd) :=
  course.leads.ends (ensures_execute_submitted o)

theorem lasts_execute_ok {o : RestoreOptions} {c c' : Clock} {log : Procedure.Chronicle Server}
    {s : Submission} (course : Procedure.Lasts c (execute o).run log c' (Except.ok s)) :
    c' = c ∧ ∃ before job, log = before ++ [(c.now, created job)] ∧
      Spared (before.map Prod.snd) ∧ HasCreated (before.map Prod.snd) s.scope s.cluster ∧
      s.Names job := by
  have hsubmitted : HasSubmitted (log.map Prod.snd) s :=
    course.leads.ends (ensures_execute_submitted o)
  rcases course.of_prompt (prompt_execute o) with ⟨hclock, htimes⟩
  rcases hsubmitted with ⟨history, job, hlog, hspared, hcreated, hnames⟩
  rcases List.map_eq_append_iff.mp hlog with ⟨before, last, rfl, rfl, hlast⟩
  rcases List.map_eq_singleton_iff.mp hlast with ⟨⟨t, e⟩, rfl, rfl⟩
  have htime : t = c.now := htimes _ (List.mem_append_right _ (List.mem_singleton_self _))
  exact ⟨hclock, before, job, by rw [htime], hspared, hcreated, hnames⟩

end Workflow
end PointInTime
