import PointInTime.Proofs.Server.Looks
import PointInTime.Server.Write

/-!
# The writes of a history

What a history has written is told by the requests of its exchanges, and what has been created by
those that succeeded.  As long as no request fails these are the same.
-/

namespace PointInTime

/-! ## What was to be written -/

def write? : Exchange Server → Option Request
  | ⟨.server r, _⟩ => if r.isWrite then some r else none
  | ⟨.stamp, _⟩ => none

/-- The requests to write, whatever came of them. -/
def writes (h : History Server) : List Request :=
  h.filterMap write?

@[simp] theorem writes_append (a b : History Server) : writes (a ++ b) = writes a ++ writes b :=
  List.filterMap_append

theorem writes_eq_nil {h : History Server} (hh : ∀ e ∈ h, ¬ e.1.IsWrite) : writes h = [] := by
  unfold writes
  rw [List.filterMap_eq_nil_iff]
  rintro ⟨d, x⟩ he
  cases d with
  | stamp => rfl
  | server r =>
      have hnone : r.isWrite = false := Bool.eq_false_iff.mpr (hh _ he)
      simp [write?, hnone]

/-! ## What was created -/

def created? : Exchange Server → Option Write
  | ⟨.server r, .ok _⟩ => Write.of? r
  | ⟨.server _, .error _⟩ => none
  | ⟨.stamp, _⟩ => none

/-- The writes that succeeded. -/
def creations (h : History Server) : List Write :=
  h.filterMap created?

def Succeeds : Exchange Server → Prop
  | ⟨.server _, .ok _⟩ => True
  | ⟨.server _, .error _⟩ => False
  | ⟨.stamp, _⟩ => True

def AllSucceed (h : History Server) : Prop :=
  ∀ e ∈ h, Succeeds e

instance (e : Exchange Server) : Decidable (Succeeds e) :=
  match e with
  | ⟨.server _, .ok _⟩ => .isTrue trivial
  | ⟨.server _, .error _⟩ => .isFalse id
  | ⟨.stamp, _⟩ => .isTrue trivial

instance (h : History Server) : Decidable (AllSucceed h) :=
  List.decidableBAll Succeeds h

theorem creations_append (a b : History Server) :
    creations (a ++ b) = creations a ++ creations b :=
  List.filterMap_append

theorem creations_of_looks {h : History Server} (hh : ∀ e ∈ h, e.1.IsLook) : creations h = [] := by
  unfold creations
  rw [List.filterMap_eq_nil_iff]
  rintro ⟨d, x⟩ he
  cases d with
  | stamp => rfl
  | server r =>
      have hlook : r.isLook = true := hh _ he
      cases x with
      | error e => rfl
      | ok v =>
          have hnone : (Write.of? r).isSome = false := by
            rw [Write.isSome_of?, Request.isWrite_of_isLook hlook]
          simpa [created?] using hnone

theorem AllSucceed.append_left {a b : History Server} (h : AllSucceed (a ++ b)) : AllSucceed a :=
  fun e he => h e (List.mem_append_left b he)

theorem AllSucceed.append_right {a b : History Server} (h : AllSucceed (a ++ b)) : AllSucceed b :=
  fun e he => h e (List.mem_append_right a he)

theorem not_allSucceed_of_error (h : History Server) (r : Request) (e : Error) :
    ¬ AllSucceed (h ++ [⟨.server r, Except.error e⟩]) :=
  fun hall => hall _ (List.mem_append_right h (List.mem_singleton_self _))

end PointInTime
