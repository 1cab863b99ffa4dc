import PointInTime.Proofs.Server.Writes
import PointInTime.Proofs.Workflow.Survey

/-!
# Planned actions and what came of them

The actions of a plan are gone through in their order.  Each of them is tried once, and what has
been created so far is a part of what has been gone through, in the same order.  As long as no
request failed nothing is missing.
-/

namespace PointInTime
namespace Workflow

/-! ## What was planned -/

/-- A write is what an action announces.  The name of a job is announced by its pattern. -/
structure Describes (stamp : Stamp) (a : PlannedAction) (w : Write) : Prop where
  kind : w.resource.kind = a.kind
  scope : w.scope = a.scope
  name :
    if a.kind = Resource.Kind.restore then
      ∃ cluster, a.name = jobPattern cluster ∧
        w.name = Name.forJob cluster stamp.time stamp.nonce
    else w.name = a.name

theorem describes_of_name {stamp : Stamp} {a : PlannedAction} {w : Write}
    (hkind : w.resource.kind = a.kind) (hscope : w.scope = a.scope) (hname : w.name = a.name)
    (hother : a.kind ≠ Resource.Kind.restore) : Describes stamp a w :=
  ⟨hkind, hscope, by rw [if_neg hother]; exact hname⟩

/-- What was created is an ordered part of the actions. -/
def Began (stamp : Stamp) (actions : List PlannedAction) (h : History Server) : Prop :=
  List.SublistForall₂ (fun w a => Describes stamp a w) (creations h) actions

/-- The actions have been gone through. -/
structure Tally (stamp : Stamp) (actions : List PlannedAction) (h : History Server) : Prop where
  partly : Began stamp actions h
  wholly : AllSucceed h → List.Forall₂ (fun w a => Describes stamp a w) (creations h) actions

variable {stamp : Stamp} {actions : List PlannedAction} {h : History Server}

theorem Began.extend (hb : Began stamp actions h) (more : List PlannedAction) :
    Began stamp (actions ++ more) h := by
  rcases List.sublistForall₂_iff.mp hb with ⟨part, hpart, hsub⟩
  exact List.sublistForall₂_iff.mpr ⟨part, hpart, hsub.trans (List.sublist_append_left _ _)⟩

theorem tally_nil : Tally stamp [] [] :=
  ⟨List.SublistForall₂.nil, fun _ => List.Forall₂.nil⟩

/-- What creates nothing leaves the tally as it is. -/
theorem Tally.idle {e : Exchange Server} (t : Tally stamp actions h) (he : created? e = none) :
    Tally stamp actions (h ++ [e]) := by
  have hsame : creations (h ++ [e]) = creations h := by
    simp [creations, he]
  constructor
  · unfold Began
    rw [hsame]
    exact t.partly
  · intro hall
    rw [hsame]
    exact t.wholly hall.append_left

theorem Tally.made {a : PlannedAction} {w : Write} {r : Request} {v : r.Value}
    (t : Tally stamp actions h) (hw : Write.of? r = some w) (ha : Describes stamp a w) :
    Tally stamp (actions ++ [a]) (h ++ [⟨.server r, Except.ok v⟩]) := by
  have hmore : creations (h ++ [⟨.server r, Except.ok v⟩]) = creations h ++ [w] := by
    simp [creations, created?, hw]
  have hlast : List.Forall₂ (fun w a => Describes stamp a w) [w] [a] :=
    List.Forall₂.cons ha List.Forall₂.nil
  constructor
  · rcases List.sublistForall₂_iff.mp t.partly with ⟨part, hpart, hsub⟩
    unfold Began
    rw [hmore]
    exact List.sublistForall₂_iff.mpr
      ⟨part ++ [a], List.rel_append hpart hlast, hsub.append (List.Sublist.refl [a])⟩
  · intro hall
    rw [hmore]
    exact List.rel_append (t.wholly hall.append_left) hlast

/-- Once a request has failed, actions may be left out. -/
theorem Tally.extend (t : Tally stamp actions h) (hfailed : ¬ AllSucceed h)
    (more : List PlannedAction) : Tally stamp (actions ++ more) h :=
  ⟨t.partly.extend more, fun hall => absurd hall hfailed⟩

end Workflow
end PointInTime
