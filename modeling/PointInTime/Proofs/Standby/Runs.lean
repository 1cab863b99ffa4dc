import PointInTime.Proofs.Server.Answers
import PointInTime.Proofs.Standby.Contract

/-!
# Runs of a controller

A run is a series of cycles, each of which begins where the one before it stopped.  A cycle may stop
anywhere: it has ended, or the controller was cut off and another one begins anew.

What every step of a cycle keeps is kept by every run.  What the loop of a controller does is a run,
wherever it is cut off.
-/

namespace PointInTime
namespace Standby

structure Episode (σ : Type) where
  start : σ
  log : History Server
  stop : σ
  rest : Procedure Server (Except Error Outcome)

inductive Runs {σ : Type} (E : Surroundings Server σ) (s : Settings) :
    σ → List (Episode σ) → σ → Prop where
  | start (x : σ) : Runs E s x [] x
  | episode {x y z : σ} {past : List (Episode σ)} {log : History Server}
      {rest : Procedure Server (Except Error Outcome)} :
      Runs E s x past y → Procedure.Passes E y (cycle s).run log z rest →
      Runs E s x (past ++ [⟨y, log, z, rest⟩]) z

variable {σ : Type} {E : Surroundings Server σ} {s : Settings} {x y z : σ}
variable {past : List (Episode σ)} {log : History Server}
variable {rest : Procedure Server (Except Error Outcome)}

def Ends (s : Settings) (h : History Server) : Except Error Outcome → Prop
  | .ok outcome => Returns s h outcome
  | .error _ => Never IsSave h

/-- Every moment of a cycle, given what its steps keep. -/
theorem passes_cycle_keeps (Inv : History Server → σ → Prop)
    (hdrift : ∀ h x y, E.drifts x y → Inv h x → Inv h y)
    (hanswer : ∀ h x d a y, Asks s h d → E.answers x d a y → Inv h x → Inv (h ++ [⟨d, a⟩]) y)
    (pass : Procedure.Passes E x (cycle s).run log y rest) (hx : Inv [] x) :
    Inv log y ∧ Procedure.Ensures (Asks s) (Ends s) rest log := by
  have hcycle : Procedure.Ensures (Asks s) (Ends s) (cycle s).run [] := by
    refine Procedure.Ensures.mono (fun _ _ hd => hd) ?_ (ensures_cycle s)
    intro more outcome hend
    cases outcome with
    | ok _ => exact hend
    | error _ => exact hend
  simpa using pass.keeps hdrift hanswer hcycle hx

theorem Runs.keeps {Inv : σ → Prop}
    (hcycle : ∀ x log y rest, Procedure.Passes E x (cycle s).run log y rest → Inv x → Inv y)
    (run : Runs E s x past y) (hx : Inv x) : Inv y := by
  induction run with
  | start => exact hx
  | episode _ pass ih => exact hcycle _ _ _ _ pass ih

theorem Runs.append {later : List (Episode σ)} (first : Runs E s x past y)
    (second : Runs E s y later z) : Runs E s x (past ++ later) z := by
  induction second with
  | start =>
      simpa using first
  | episode _ pass ih =>
      rw [← List.append_assoc]
      exact Runs.episode ih pass

/-!
## The loop

Between two cycles, and after the last one, the loop asks for nothing.  It is then at the start of
a cycle that has not begun.
-/

def IsRun (E : Surroundings Server σ) (s : Settings) (x : σ) (log : History Server) (y : σ) :
    Prop :=
  ∃ episodes, Runs E s x episodes y ∧ log = (episodes.map Episode.log).flatten

theorem isRun_of_passes_cycle (pass : Procedure.Passes E x (cycle s).run log y rest) :
    IsRun E s x log y :=
  ⟨_, Runs.episode (Runs.start x) pass, by simp⟩

theorem IsRun.append {log' : History Server} (first : IsRun E s x log y)
    (second : IsRun E s y log' z) : IsRun E s x (log ++ log') z := by
  obtain ⟨past, hpast, rfl⟩ := first
  obtain ⟨later, hlater, rfl⟩ := second
  exact ⟨_, hpast.append hlater, by simp⟩

theorem isRun_of_passes_done {b : Bool} {q : Procedure Server Bool}
    (pass : Procedure.Passes E x (.done b) log y q) : IsRun E s x log y := by
  obtain ⟨hlog, hidle⟩ := Procedure.passes_done pass
  rw [hlog]
  exact isRun_of_passes_cycle (hidle (cycle s).run)

theorem isRun_of_passes_pauseFor {d : Duration} {q : Procedure Server Wake}
    (pass : Procedure.Passes E x (Procedure.pauseFor d) log y q) : IsRun E s x log y := by
  obtain ⟨hlog, hidle⟩ := Procedure.passes_pauseFor pass
  rw [hlog]
  exact isRun_of_passes_cycle (hidle (cycle s).run)

theorem isRun_of_passes_run {cycles : Nat} {q : Procedure Server Bool}
    (pass : Procedure.Passes E x (run s cycles) log y q) : IsRun E s x log y := by
  induction cycles generalizing x log with
  | zero =>
      exact isRun_of_passes_done pass
  | succ cycles ih =>
      rw [run, Procedure.bind_eq_bind] at pass
      rcases Procedure.passes_bind pass with
        ⟨_, hcycle, _⟩ | ⟨outcome, before, after, middle, rfl, hcycle, hafter⟩
      · exact isRun_of_passes_cycle hcycle
      · apply (isRun_of_passes_cycle hcycle).append
        by_cases hcancelled : isCancelled outcome = true
        · simp only [hcancelled, if_true] at hafter
          exact isRun_of_passes_done hafter
        · simp only [hcancelled, Bool.false_eq_true, if_false] at hafter
          rcases Procedure.passes_bind hafter with
            ⟨_, hpause, _⟩ | ⟨w, before, after, middle, rfl, hpause, hnext⟩
          · exact isRun_of_passes_pauseFor hpause
          · apply (isRun_of_passes_pauseFor hpause).append
            cases w with
            | cancelled => exact isRun_of_passes_done hnext
            | elapsed => exact ih hnext

/-!
## Submissions, decided
-/

theorem isSubmission_iff (e : Exchange Server) :
    (match e.1 with
      | .server r => r.isCreateRestore
      | .stamp => false) = true ↔ IsSubmission e := by
  rcases e with ⟨d, a⟩
  constructor
  · intro hd
    cases d with
    | stamp => cases hd
    | server r =>
        cases r with
        | createRestore job => exact ⟨job, rfl⟩
        | _ => cases hd
  · rintro ⟨job, rfl⟩
    rfl

instance : DecidablePred IsSubmission :=
  fun e => decidable_of_iff _ (isSubmission_iff e)

instance (h : History Server) : Decidable (Never IsSubmission h) :=
  inferInstanceAs (Decidable (∀ e ∈ h, ¬ IsSubmission e))

/-!
## A standby and its first backup

A small example: the source has one backup, nothing has been restored yet, and a cycle looks at its
job only once.
-/

def exampleSettings : Settings where
  sourceScope := "prod"
  targetScope := "standby"
  targetCluster := "standby1"
  restoreTimeout := ⟨0⟩

def exampleBackup : Json :=
  .obj
    [("metadata", .obj [("name", .str "b1"), ("namespace", .str "prod")]),
      ("spec", .obj [("pxcCluster", .str "c1"), ("storageName", .str "s3")]),
      ("status", .obj
        [("state", .str "Succeeded"), ("completed", .str "2025-01-01T00:00:00Z"),
          ("destination", .str "s3://b/b1")])]

def exampleStore : Store where
  backups := [exampleBackup]

def exampleOperator (x : Store) : Store :=
  { x with
    restores := x.restores.map fun j =>
      j.mapFields fun fields => fields.set "status" (.obj [("state", .str "Succeeded")]) }

/-- A cycle that is answered after others took a turn: its outcome, the clock and the store. -/
def exampleCycle (turn : Store → Store) (x : Store) : Except Error Outcome × Clock × Store :=
  Procedure.run (Store.serving turn ⟨.epoch, "abcd"⟩) (cycle exampleSettings).run {} x

def exampleLog (turn : Store → Store) (x : Store) : History Server :=
  Procedure.exchanges (Store.serving turn ⟨.epoch, "abcd"⟩) (cycle exampleSettings).run {} x

theorem passes_exampleCycle (others : Store → Store → Prop) (turn : Store → Store)
    (hturn : ∀ x, turn x = x ∨ others x (turn x)) (x : Store) :
    Procedure.Passes (Store.faulty others) x (cycle exampleSettings).run (exampleLog turn x)
      (exampleCycle turn x).2.2 (.done (exampleCycle turn x).1) :=
  Store.passes_serving hturn _ _ _ _

theorem exampleCycle_restored :
    (exampleCycle exampleOperator exampleStore).1 =
      .ok (.restored "b1" "restore-standby1-19700101000000-abcd") := by
  have houtcome : (exampleCycle exampleOperator exampleStore).1.toOption =
      some (.restored "b1" "restore-standby1-19700101000000-abcd") := by
    decide +kernel
  cases hcycle : (exampleCycle exampleOperator exampleStore).1 with
  | error e =>
      rw [hcycle] at houtcome
      cases houtcome
  | ok outcome =>
      rw [hcycle] at houtcome
      rw [Option.some.inj houtcome]

end Standby
end PointInTime
