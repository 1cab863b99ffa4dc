import PointInTime.Proofs.Server.Unreliable
import PointInTime.Server.Rehearsal

/-!
# Rehearsals as servers

A rehearsal finds the names of a request in its address, where a slash, a question mark or a hash
mark in a name leads astray.  Names without them arrive as they are.  Then a request is answered
from the objects of the rehearsal, or it fails, or it is refused, and around an answer nothing moves
but the states of clusters and jobs.

Main statements: a run of a rehearsal under plain names is a passage on an unreliable server, as
long as the replies of its script are refusals, and where nothing is scripted a request is answered
as the objects answer it.
-/

namespace PointInTime

/-!
## Plain names
-/

theorem Text.forall_mem_intercalate {P : Char → Prop} {separator : String} {texts : List String}
    (hseparator : ∀ c ∈ separator.toList, P c) (htexts : ∀ s ∈ texts, ∀ c ∈ s.toList, P c) :
    ∀ c ∈ (separator.intercalate texts).toList, P c := by
  induction texts with
  | nil => simp
  | cons s rest ih =>
      have hrest := ih fun s' hs' => htexts s' (List.mem_cons_of_mem s hs')
      have hs := htexts s List.mem_cons_self
      cases rest with
      | nil => simpa using hs
      | cons s' rest =>
          intro c hc
          rw [String.intercalate_cons_cons, String.toList_append, String.toList_append,
            List.mem_append, List.mem_append] at hc
          rcases hc with (hc | hc) | hc
          · exact hs c hc
          · exact hseparator c hc
          · exact hrest c hc

theorem Http.Target.path_of_ofText? {path rest : List Char} {t : Http.Target}
    (hpath : ∀ c ∈ path, c ≠ '?' ∧ c ≠ '#') (ht : ofText? (path ++ '?' :: rest) = some t) :
    t.path = path := by
  have hsent : (path ++ '?' :: rest).takeWhile (· ≠ '#') =
      path ++ '?' :: rest.takeWhile (· ≠ '#') := by
    rw [List.takeWhile_append_of_pos fun c hc => by simpa using (hpath c hc).2]
    rfl
  have hread : (path ++ '?' :: rest.takeWhile (· ≠ '#')).takeWhile (· ≠ '?') = path := by
    rw [List.takeWhile_append_of_pos fun c hc => by simpa using (hpath c hc).1]
    simp
  simp only [ofText?, hsent, hread] at ht
  split at ht
  · cases ht
    rfl
  · cases ht

theorem Resource.plural_ne_empty (kind : String) : plural kind ≠ "" := by
  intro h
  have hlist := congrArg String.toList h
  unfold plural at hlist
  simp only [String.toList_ofList, String.toList_empty] at hlist
  split at hlist <;> simp at hlist

namespace Request

variable {r : Request} {t : Http.Target}

/-- No name in the path of a request divides the path or ends it. -/
def IsPlain (r : Request) : Prop :=
  ∀ part ∈ r.pathParts, ∀ c ∈ part.toList, c ≠ '/' ∧ c ≠ '?' ∧ c ≠ '#'

theorem parts_of_target? (hr : r.IsPlain) (ht : r.target? = some t) : t.parts = r.pathParts := by
  have hpath : t.path = ("/".intercalate r.pathParts).toList := by
    unfold target? at ht
    split at ht
    · cases ht
    · apply Http.Target.path_of_ofText? _ (by simpa using ht)
      apply Text.forall_mem_intercalate
      · simp
      · intro part hpart c hc
        exact (hr part hpart c hc).2
  have hwhole : ∀ part ∈ r.pathParts.map String.toList, '/' ∉ part := by
    intro part hpart hslash
    rcases List.mem_map.mp hpart with ⟨name, hname, rfl⟩
    exact (hr name hname '/' hslash).1 rfl
  have hnonempty : r.pathParts.map String.toList ≠ [] := by
    cases r <;> simp [pathParts]
  rw [Http.Target.parts, hpath, Text.parts_eq_splitOn, String.toList_intercalate,
    show "/".toList = ['/'] from rfl, List.splitOn_intercalate '/' hwhole hnonempty]
  simp [Function.comp_def]

theorem last_ne_empty (ht : r.target? = some t) : r.pathParts.getLast?.getD "" ≠ "" := by
  have haddressed : r.addressee? ≠ some "" := by
    intro h
    rw [target?, if_pos h] at ht
    cases ht
  cases r with
  | listBackups scope => simp [pathParts, Resource.plural_ne_empty]
  | listClusters scope => simp [pathParts, Resource.plural_ne_empty]
  | createCluster c => simp [pathParts, Resource.plural_ne_empty]
  | createRestore job => simp [pathParts, Resource.plural_ne_empty]
  | listRestores scope => simp [pathParts, Resource.plural_ne_empty]
  | createSecret scope secret => simp [pathParts]
  | exec scope pod container command => simp [pathParts]
  | _ => simpa [addressee?, pathParts] using haddressed

theorem arrival_of_isPlain (hr : r.IsPlain) (ht : r.target? = some t) :
    r.arrival t = .reached (r.pathParts.getLast?.getD "") := by
  have hparts := parts_of_target? hr ht
  rw [arrival, lastPart, hparts, if_neg (last_ne_empty ht), if_pos rfl]

example : (target? (.getSecret "staging" "c1#x")).map (arrival (.getSecret "staging" "c1#x")) =
    some (.reached "c1") := by
  decide +kernel

end Request

/-!
## What happens by itself
-/

/-- Clusters and jobs come to other statuses. -/
inductive Store.Moves (s : Store) : Store → Prop where
  | rest : Moves s s
  | cluster {s' : Store} (scope name : String) (status : Option Json) :
      Moves s s' → Moves s { s' with clusters := setStatus scope name status s'.clusters }
  | job {s' : Store} (scope name : String) (status : Option Json) :
      Moves s s' → Moves s { s' with restores := setStatus scope name status s'.restores }

theorem Store.Moves.trans {s s' s'' : Store} (first : s.Moves s') (second : s'.Moves s'') :
    s.Moves s'' := by
  induction second with
  | rest => exact first
  | cluster scope name status _ ih => exact Moves.cluster scope name status ih
  | job scope name status _ ih => exact Moves.job scope name status ih

namespace Rehearsal

variable {r : Request} {w middle later : Rehearsal}

/-- The replies in a script are refusals. -/
def Refuses (disturbances : Assoc (List (Option Disturbance))) : Prop :=
  ∀ key script, disturbances.find? key = some script →
    ∀ code reason message, some (Disturbance.replies code reason message) ∈ script →
      Request.isRefusal code = true

/-- Nothing is scripted. -/
structure IsStill (w : Rehearsal) : Prop where
  disturbances : w.disturbances = []
  clusterStates : w.clusterStates = []
  createdState : w.createdState = none
  jobScripts : w.jobScripts = []

theorem IsStill.refuses (hw : w.IsStill) : Refuses w.disturbances := by
  rw [hw.disturbances]
  nofun

/-- A rehearsal goes on by itself, and not at all if nothing is scripted. -/
structure Proceeds (w later : Rehearsal) : Prop where
  moves : w.store.Moves later.store
  refuses : Refuses w.disturbances → Refuses later.disturbances
  still : w.IsStill → later.IsStill ∧ later.store = w.store

theorem proceeds_refl (w : Rehearsal) : w.Proceeds w :=
  ⟨Store.Moves.rest, id, fun hw => ⟨hw, rfl⟩⟩

theorem Proceeds.trans (first : w.Proceeds middle) (second : middle.Proceeds later) :
    w.Proceeds later := by
  constructor
  · exact first.moves.trans second.moves
  · exact second.refuses ∘ first.refuses
  · intro hw
    rcases first.still hw with ⟨hmiddle, hstore⟩
    rcases second.still hmiddle with ⟨hlater, hstore'⟩
    exact ⟨hlater, hstore'.trans hstore⟩

theorem proceeds_progressCluster (scope name : String) (w : Rehearsal) :
    w.Proceeds (w.progressCluster scope name) := by
  unfold progressCluster
  split
  · rename_i state rest hscript
    split
    · constructor
      · exact Store.Moves.cluster scope name _ Store.Moves.rest
      · exact id
      · intro hw
        rw [hw.clusterStates] at hscript
        cases hscript
    · exact proceeds_refl w
  · exact proceeds_refl w

theorem IsStill.nextStep? (hw : w.IsStill) (job : JobProgress) : w.nextStep? job = none := by
  rw [Rehearsal.nextStep?, hw.jobScripts]
  rfl

theorem proceeds_progressJob (scope name : String) (w : Rehearsal) :
    w.Proceeds (w.progressJob scope name).2 := by
  unfold progressJob
  split
  · exact proceeds_refl w
  · rename_i job hjob
    split
    · exact proceeds_refl w
    · rename_i hstep
      constructor
      · exact Store.Moves.rest
      · exact id
      · intro hw
        rw [hw.nextStep?] at hstep
        cases hstep
    · rename_i status hstep
      constructor
      · exact Store.Moves.job scope name _ Store.Moves.rest
      · exact id
      · intro hw
        rw [hw.nextStep?] at hstep
        cases hstep

theorem not_isStill_of_progressJob (scope name : String) (w : Rehearsal)
    (h : (w.progressJob scope name).1 = false) : ¬ w.IsStill := by
  intro hw
  unfold progressJob at h
  split at h
  · cases h
  · rw [hw.nextStep?] at h
    cases h

theorem proceeds_settleCluster (scope name : String) (w : Rehearsal) :
    w.Proceeds (w.settleCluster scope name) := by
  unfold settleCluster
  split
  · rename_i state hstate
    constructor
    · exact Store.Moves.cluster scope name _ Store.Moves.rest
    · exact id
    · intro hw
      rw [hw.createdState] at hstate
      cases hstate
  · exact proceeds_refl w

/-- What is only counted or logged moves nothing. -/
theorem proceeds_of_eq (hstore : later.store = w.store)
    (hdisturbances : later.disturbances = w.disturbances)
    (hclusters : later.clusterStates = w.clusterStates)
    (hcreated : later.createdState = w.createdState) (hjobs : later.jobScripts = w.jobScripts) :
    w.Proceeds later := by
  constructor
  · rw [hstore]
    exact Store.Moves.rest
  · rw [hdisturbances]
    exact id
  · intro hw
    refine ⟨⟨?_, ?_, ?_, ?_⟩, hstore⟩
    · rw [hdisturbances, hw.disturbances]
    · rw [hclusters, hw.clusterStates]
    · rw [hcreated, hw.createdState]
    · rw [hjobs, hw.jobScripts]

theorem proceeds_settleJob (scope name : String) (w : Rehearsal) :
    w.Proceeds (w.settleJob scope name) :=
  proceeds_of_eq rfl rfl rfl rfl rfl

theorem proceeds_note (r : Request) (w : Rehearsal) : w.Proceeds (w.note r) :=
  proceeds_of_eq rfl rfl rfl rfl rfl

theorem proceeds_noteWrite (r : Request) (t : Http.Target) (w : Rehearsal) :
    w.Proceeds (w.noteWrite r t) :=
  proceeds_of_eq rfl rfl rfl rfl rfl

/-!
## Disturbances
-/

theorem refuses_takeFirst {m : Assoc (List (Option Disturbance))} (hm : Refuses m)
    (keys : List String) :
    Refuses (takeFirst m keys).2 ∧
      ∀ code reason message, (takeFirst m keys).1 = some (.replies code reason message) →
        Request.isRefusal code = true := by
  induction keys with
  | nil => exact ⟨hm, nofun⟩
  | cons key keys ih =>
      unfold takeFirst
      split
      · rename_i d rest hfound
        constructor
        · intro other script hscript code reason message hmem
          by_cases hother : other = key
          · subst hother
            rw [Assoc.find?_set_self] at hscript
            cases hscript
            exact hm other _ hfound code reason message (List.mem_cons_of_mem d hmem)
          · rw [Assoc.find?_set_of_ne hother] at hscript
            exact hm other script hscript code reason message hmem
        · rintro code reason message rfl
          exact hm key _ hfound code reason message List.mem_cons_self
      · exact ih

theorem takeFirst_nil (keys : List String) : takeFirst [] keys = (none, []) := by
  induction keys with
  | nil => rfl
  | cons key keys ih => exact ih

theorem proceeds_takeDisturbance (r : Request) (w : Rehearsal) :
    w.Proceeds (w.takeDisturbance r).2 := by
  constructor
  · exact Store.Moves.rest
  · intro hw
    exact (refuses_takeFirst hw (disturbanceKeys r)).1
  · intro hw
    refine ⟨⟨?_, hw.clusterStates, hw.createdState, hw.jobScripts⟩, rfl⟩
    show (takeFirst w.disturbances (disturbanceKeys r)).2 = []
    rw [hw.disturbances, takeFirst_nil]

theorem IsStill.takeDisturbance (hw : w.IsStill) (r : Request) :
    (w.takeDisturbance r).1 = none := by
  show (takeFirst w.disturbances (disturbanceKeys r)).1 = none
  rw [hw.disturbances, takeFirst_nil]

/-!
## Answers under plain names
-/

/-- How a rehearsal answers a request: from the objects, before and after which it goes on by
itself, or, where that is scripted, by a refusal or a failure.  What has no address fails too. -/
inductive Answers (r : Request) (w : Rehearsal) : Except Error r.Value × Rehearsal → Prop where
  | performed {before later : Rehearsal} :
      w.Proceeds before → (before.perform r).2.Proceeds later →
      Answers r w ((before.perform r).1, later)
  | refused {later : Rehearsal} (code : Nat) (reason message : String) :
      ¬ w.IsStill → w.Proceeds later → Answers r w (r.refused code reason message, later)
  | failed {later : Rehearsal} (e : Error) :
      ¬ w.IsStill ∨ r.target? = none → w.Proceeds later → Answers r w (.error e, later)

theorem Answers.of_proceeds {result : Except Error r.Value × Rehearsal} (h : w.Proceeds middle)
    (hanswer : Answers r middle result) : Answers r w result := by
  have hstill (hmiddle : ¬ middle.IsStill) : ¬ w.IsStill := fun hw => hmiddle (h.still hw).1
  cases hanswer with
  | performed hbefore hlater => exact Answers.performed (h.trans hbefore) hlater
  | refused code reason message hmiddle hlater =>
      exact Answers.refused code reason message (hstill hmiddle) (h.trans hlater)
  | failed e hmiddle hlater => exact Answers.failed e (hmiddle.imp_left hstill) (h.trans hlater)

theorem answers_of_performed {before : Rehearsal} {x : Except Error r.Value}
    (hbefore : w.Proceeds before) (hperformed : before.perform r = (x, middle))
    (hlater : middle.Proceeds later) : Answers r w (x, later) := by
  have hmiddle : (before.perform r).2.Proceeds later := by
    rw [hperformed]
    exact hlater
  have hanswer := Answers.performed hbefore hmiddle
  rw [hperformed] at hanswer
  exact hanswer

theorem answers_serveAt {name : String} (hname : r.pathParts.getLast?.getD "" = name)
    (w : Rehearsal) : Answers r w (w.serveAt name r) := by
  have hserved : Answers r w (w.perform r) :=
    Answers.performed (proceeds_refl w) (proceeds_refl _)
  -- Only what is about one object is looked up by the name in its address.
  cases r with
  | getCluster scope sent =>
      change sent = name at hname
      subst hname
      exact Answers.performed (proceeds_progressCluster scope sent w) (proceeds_refl _)
  | getRestore scope sent =>
      change sent = name at hname
      subst hname
      have hmoved := proceeds_progressJob scope sent w
      have hgone := not_isStill_of_progressJob scope sent w
      unfold serveAt
      dsimp only
      split
      · rename_i later hjob
        rw [hjob] at hmoved
        exact Answers.performed hmoved (proceeds_refl _)
      · rename_i later hjob
        rw [hjob] at hmoved hgone
        exact Answers.refused Request.notFoundCode "" "" (hgone rfl) hmoved
  | getSecret scope sent =>
      change sent = name at hname
      subst hname
      exact hserved
  | namespaceExists sent =>
      change sent = name at hname
      subst hname
      exact hserved
  | getConfig scope sent =>
      change sent = name at hname
      subst hname
      exact hserved
  | createCluster c =>
      unfold serveAt
      dsimp only
      split
      · rename_i later hcreated
        exact answers_of_performed (proceeds_refl w) hcreated (proceeds_settleCluster _ _ later)
      · rename_i e later hrefused
        exact answers_of_performed (proceeds_refl w) hrefused (proceeds_refl later)
  | createRestore job =>
      unfold serveAt
      dsimp only
      split
      · rename_i later hcreated
        exact answers_of_performed (proceeds_refl w) hcreated (proceeds_settleJob _ _ later)
      · rename_i e later hrefused
        exact answers_of_performed (proceeds_refl w) hrefused (proceeds_refl later)
  | _ => exact hserved

theorem answers_receive (hr : r.IsPlain) {disturbance : Option Disturbance}
    (hproceeds : w.Proceeds middle) (hstill : w.IsStill → disturbance = none)
    (hrefuses : ∀ code reason message, disturbance = some (.replies code reason message) →
      Request.isRefusal code = true) :
    Answers r w (middle.receive r disturbance) := by
  unfold receive
  split
  · rename_i htarget
    exact Answers.failed Request.unaddressable (Or.inr htarget) hproceeds
  · rename_i t htarget
    have hnoted := hproceeds.trans (proceeds_noteWrite r t middle)
    split
    · rename_i code reason message
      have hscripted : ¬ w.IsStill := fun hw => nomatch hstill hw
      rw [Request.replied, if_pos (hrefuses code reason message rfl)]
      exact Answers.refused code reason message hscripted hnoted
    · rw [serve, Request.arrival_of_isPlain hr htarget]
      exact Answers.of_proceeds hnoted (answers_serveAt rfl _)

theorem answers_answerRequest (hr : r.IsPlain) (hw : Refuses w.disturbances) :
    Answers r w (w.answerRequest r) := by
  have hproceeds : w.Proceeds ((w.note r).takeDisturbance r).2 :=
    (proceeds_note r w).trans (proceeds_takeDisturbance r _)
  have hundisturbed (hstill : w.IsStill) : ((w.note r).takeDisturbance r).1 = none :=
    ((proceeds_note r w).still hstill).1.takeDisturbance r
  unfold answerRequest
  split
  · rename_i e later htaken
    rw [htaken] at hproceeds hundisturbed
    exact Answers.failed e (Or.inl fun hstill => nomatch hundisturbed hstill) hproceeds
  · rename_i disturbance later _ htaken
    have hdisturbance : (takeFirst w.disturbances (disturbanceKeys r)).1 = disturbance :=
      congrArg Prod.fst htaken
    rw [htaken] at hproceeds hundisturbed
    apply answers_receive hr hproceeds hundisturbed
    rw [← hdisturbance]
    exact (refuses_takeFirst hw (disturbanceKeys r)).2

theorem Answers.refuses {result : Except Error r.Value × Rehearsal} (h : Answers r w result)
    (hw : Refuses w.disturbances) : Refuses result.2.disturbances := by
  cases h with
  | performed hbefore hlater => exact hlater.refuses (hbefore.refuses hw)
  | refused _ _ _ _ hlater => exact hlater.refuses hw
  | failed _ _ hlater => exact hlater.refuses hw

/-- Where nothing is scripted, only what has no address is not answered from the objects. -/
theorem Answers.of_isStill {result : Except Error r.Value × Rehearsal} (h : Answers r w result)
    (hw : w.IsStill) :
    result.2.IsStill ∧
      (result.1 = (w.store.perform r).1 ∧ result.2.store = (w.store.perform r).2 ∨
        r.target? = none ∧ (∃ e, result.1 = .error e) ∧ result.2.store = w.store) := by
  cases h with
  | @performed before later hbefore hlater =>
      rcases hbefore.still hw with ⟨hstill, hstore⟩
      have hperformed : (before.perform r).2.IsStill :=
        ⟨hstill.disturbances, hstill.clusterStates, hstill.createdState, hstill.jobScripts⟩
      rcases hlater.still hperformed with ⟨hends, hkept⟩
      refine ⟨hends, Or.inl ?_⟩
      rw [← hstore]
      exact ⟨rfl, hkept⟩
  | refused code reason message hscripted hlater => exact absurd hw hscripted
  | failed e hwhy hlater =>
      rcases hlater.still hw with ⟨hends, hkept⟩
      rcases hwhy with hscripted | hunsent
      · exact absurd hw hscripted
      · exact ⟨hends, Or.inr ⟨hunsent, ⟨e, rfl⟩, hkept⟩⟩

theorem answerRequest_of_isStill (hw : w.IsStill) (hr : r.IsPlain) (ht : r.target? ≠ none) :
    (w.answerRequest r).1 = (w.store.perform r).1 ∧
      (w.answerRequest r).2.store = (w.store.perform r).2 := by
  rcases ((answers_answerRequest hr hw.refuses).of_isStill hw).2 with hserved | ⟨hunsent, _⟩
  · exact hserved
  · exact absurd hunsent ht

/-!
## Whole runs
-/

section Runs

variable {α : Type}

def AsksPlainly (d : Demand) : Prop :=
  ∀ r, d = .server r → r.IsPlain

theorem Answers.passes {result : Except Error r.Value × Rehearsal} (h : Answers r w result)
    (next : Except Error r.Value → Procedure Server α) :
    Procedure.Passes (Store.unreliable Store.Moves) w.store
      (Procedure.ask (I := Server) (.server r) next) [⟨.server r, result.1⟩] result.2.store
      (next result.1) := by
  cases h with
  | @performed before later hbefore hlater =>
      apply Procedure.Passes.drift hbefore.moves
      apply Procedure.Passes.ask
      · exact Store.UnreliableAnswers.lossy (.answered (.served r))
      · exact Procedure.Passes.drift hlater.moves (Procedure.Passes.here _ _)
  | refused code reason message _ hlater =>
      apply Procedure.Passes.drift hlater.moves
      apply Procedure.Passes.ask
      · exact Store.UnreliableAnswers.refused r code reason message
      · exact Procedure.Passes.here _ _
  | failed e _ hlater =>
      apply Procedure.Passes.drift hlater.moves
      apply Procedure.Passes.ask
      · exact Store.UnreliableAnswers.lossy (.answered (.failed r e))
      · exact Procedure.Passes.here _ _

theorem passes_run (p : Procedure Server α) (c : Clock) (w : Rehearsal)
    (hw : Refuses w.disturbances)
    (hplain : ∀ e ∈ Procedure.exchanges answer p c w, AsksPlainly e.1) :
    Procedure.Passes (Store.unreliable Store.Moves) w.store p (Procedure.exchanges answer p c w)
      (Procedure.run answer p c w).2.2.store (.done (Procedure.run answer p c w).1) := by
  apply Procedure.passes_run_of_steps (fun w => Refuses w.disturbances) AsksPlainly _ p c w hw
    hplain
  intro d w hw hd
  cases d with
  | stamp =>
      refine ⟨hw, fun next => Procedure.Passes.ask ?_ (Procedure.Passes.here _ _)⟩
      exact Store.UnreliableAnswers.lossy (.answered (.stamped _))
  | server r =>
      have hanswer := answers_answerRequest (hd r rfl) hw
      exact ⟨hanswer.refuses hw, hanswer.passes⟩

theorem passes_run_of_isStill (p : Procedure Server α) (c : Clock) (w : Rehearsal)
    (hw : w.IsStill) (hplain : ∀ e ∈ Procedure.exchanges answer p c w, AsksPlainly e.1) :
    Procedure.Passes (Store.faulty fun _ _ => False) w.store p
      (Procedure.exchanges answer p c w) (Procedure.run answer p c w).2.2.store
      (.done (Procedure.run answer p c w).1) := by
  apply Procedure.passes_run_of_steps IsStill AsksPlainly _ p c w hw hplain
  intro d w hw hd
  cases d with
  | stamp =>
      refine ⟨⟨hw.disturbances, hw.clusterStates, hw.createdState, hw.jobScripts⟩, fun next => ?_⟩
      exact Procedure.Passes.ask (Store.Answers.stamped _) (Procedure.Passes.here _ _)
  | server r =>
      rcases (answers_answerRequest (hd r rfl) hw.refuses).of_isStill hw with ⟨hstill, hanswer⟩
      refine ⟨hstill, fun next => Procedure.Passes.ask ?_ (Procedure.Passes.here _ _)⟩
      rcases hanswer with ⟨hserved, hstore⟩ | ⟨_, ⟨e, hfailed⟩, hstore⟩
      · exact hserved ▸ hstore ▸ Store.Answers.served r
      · exact hfailed ▸ hstore ▸ Store.Answers.failed r e

end Runs

end Rehearsal
end PointInTime
