import PointInTime.Name
import PointInTime.Server.Reply
import PointInTime.Server.Write

/-!
# Rehearsals

A rehearsal is a server that follows a script.  It stores objects, and besides it fails on demand,
moves clusters and jobs from state to state whenever they are read, and keeps a log of the requests
and of the writes that reached it.  Every list of a script ends with an entry that stands for all
after it, except that of the disturbances, after which nothing is disturbed.
-/

namespace PointInTime

inductive Disturbance where
  | fails (error : Error)
  | replies (code : Nat) (reason message : String)

inductive JobStep where
  | gone
  | reports (status : Option Json)

structure JobProgress where
  /-- How many jobs were created before it. -/
  number : Nat
  readings : Nat := 0
deriving DecidableEq, Repr

structure Rehearsal where
  store : Store := {}
  /-- By request, in words, with or without what it is about. -/
  disturbances : Assoc (List (Option Disturbance)) := []
  /-- The states of clusters to come, by place. -/
  clusterStates : Assoc (List (Option String)) := []
  /-- The state of a cluster that is created. -/
  createdState : Option String := none
  /-- The scripts of the jobs, by number. -/
  jobScripts : List (List JobStep) := []
  /-- The jobs created, by place. -/
  jobs : Assoc JobProgress := []
  /-- How many jobs were created. -/
  created : Nat := 0
  calls : List (List String) := []
  writes : List Write := []
  /-- The jobs that were submitted, refused ones too. -/
  submitted : List String := []
  stamps : Nat := 0

namespace Rehearsal

/-! ## Scripts -/

def next? {α : Type} : List α → Option α × List α
  | [] => (none, [])
  | [a] => (some a, [a])
  | a :: rest => (some a, rest)

def nth? {α : Type} (script : List α) (number : Nat) : Option α :=
  script[min number (script.length - 1)]?

def place (scope name : String) : String :=
  scope ++ "/" ++ name

/-- The keys under which disturbances of a request may stand: that of what it is about first. -/
def disturbanceKeys (r : Request) : List String :=
  match r.words with
  | [] => []
  | method :: about => [method ++ " " ++ "/".intercalate about, method]

def takeFirst (m : Assoc (List (Option Disturbance))) :
    List String → Option Disturbance × Assoc (List (Option Disturbance))
  | [] => (none, m)
  | key :: keys =>
      match m.find? key with
      | some (d :: rest) => (d, m.set key rest)
      | _ => takeFirst m keys

def takeDisturbance (r : Request) (w : Rehearsal) : Option Disturbance × Rehearsal :=
  let (d, rest) := takeFirst w.disturbances (disturbanceKeys r)
  (d, { w with disturbances := rest })

/-! ## The log -/

def note (r : Request) (w : Rehearsal) : Rehearsal :=
  { w with
    calls := w.calls ++ [r.words]
    submitted :=
      match r with
      | .createRestore job => w.submitted ++ [job.metadata.name]
      | _ => w.submitted }

def noteWrite (r : Request) (t : Http.Target) (w : Rehearsal) : Rehearsal :=
  { w with writes := w.writes ++ ((Write.of? r).map (Write.sentTo t)).toList }

/-! ## What happens on its own -/

def stateStatus (state : String) : Json :=
  .obj [("state", .str state)]

def progressCluster (scope name : String) (w : Rehearsal) : Rehearsal :=
  match (w.clusterStates.find? (place scope name)).map next? with
  | some (some state, rest) =>
      if (Store.find? scope name w.store.clusters).isSome then
        { w with
          clusterStates := w.clusterStates.set (place scope name) rest
          store :=
            { w.store with
              clusters :=
                Store.setStatus scope name (state.map stateStatus) w.store.clusters } }
      else w
  | _ => w

def nextStep? (job : JobProgress) (w : Rehearsal) : Option JobStep :=
  (nth? w.jobScripts job.number).bind fun script => nth? script job.readings

/-- Before a job is read, its next step is made; whether the job is to be found. -/
def progressJob (scope name : String) (w : Rehearsal) : Bool × Rehearsal :=
  match w.jobs.find? (place scope name) with
  | none => (true, w)
  | some job =>
      let read := { job with readings := job.readings + 1 }
      let later := { w with jobs := w.jobs.set (place scope name) read }
      match w.nextStep? job with
      | none => (true, w)
      | some .gone => (false, later)
      | some (.reports status) =>
          (true,
            { later with
              store :=
                { w.store with
                  restores := Store.setStatus scope name status w.store.restores } })

def settleCluster (scope name : String) (w : Rehearsal) : Rehearsal :=
  match w.createdState with
  | some state =>
      { w with
        store :=
          { w.store with
            clusters :=
              Store.setStatus scope name (some (stateStatus state)) w.store.clusters } }
  | none => w

def settleJob (scope name : String) (w : Rehearsal) : Rehearsal :=
  { w with created := w.created + 1, jobs := w.jobs.set (place scope name) ⟨w.created, 0⟩ }

/-! ## Answers -/

def perform (r : Request) (w : Rehearsal) : Except Error r.Value × Rehearsal :=
  let (answer, store) := w.store.perform r
  (answer, { w with store := store })

def serveAt (name : String) (w : Rehearsal) : (r : Request) → Except Error r.Value × Rehearsal
  | .getCluster scope _ => perform (.getCluster scope name) (w.progressCluster scope name)
  | .getSecret scope _ => perform (.getSecret scope name) w
  | .namespaceExists _ => perform (.namespaceExists name) w
  | .getConfig scope _ => perform (.getConfig scope name) w
  | .getRestore scope _ =>
      match w.progressJob scope name with
      | (true, w) => perform (.getRestore scope name) w
      | (false, w) => (.ok none, w)
  | .createCluster c =>
      match perform (.createCluster c) w with
      | (.ok (), w) => (.ok (), w.settleCluster (c.scope.getD "") c.name)
      | (.error e, w) => (.error e, w)
  | .createRestore r =>
      match perform (.createRestore r) w with
      | (.ok (), w) => (.ok (), w.settleJob r.metadata.scope r.metadata.name)
      | (.error e, w) => (.error e, w)
  | r => perform r w

def serve (t : Http.Target) (r : Request) (w : Rehearsal) : Except Error r.Value × Rehearsal :=
  let absent := r.refused Request.notFoundCode Request.notFoundReason "not found"
  match r.arrival t with
  | .reached name => w.serveAt name r
  | .strayed scope =>
      if w.store.namespaces.contains scope then (r.accepted 200 (Namespace.toJson scope), w)
      else (absent, w)
  | .nowhere => (absent, w)

def receive (r : Request) (disturbance : Option Disturbance) (w : Rehearsal) :
    Except Error r.Value × Rehearsal :=
  match r.target? with
  | none => (.error Request.unaddressable, w)
  | some t =>
      let w := w.noteWrite r t
      match disturbance with
      | some (.replies code reason message) => (r.replied code reason message, w)
      | _ => w.serve t r

def answerRequest (r : Request) (w : Rehearsal) : Except Error r.Value × Rehearsal :=
  match (w.note r).takeDisturbance r with
  | (some (.fails e), w) => (.error e, w)
  | (disturbance, w) => w.receive r disturbance

/-! ## Stamps -/

/-- The instant of all stamps, later than any other instant of a rehearsal. -/
def stampTime : Instant := ⟨253402300799, 0, by decide⟩

/-- The nonce of a number: its digits in the alphabet of nonces, the last one first. -/
def nonceOf (n : Nat) : String :=
  String.ofList <|
    (List.range Name.nonceLength).map fun i =>
      Name.nonceAlphabet.getD
        (n / Nat.pow Name.nonceAlphabet.length i % Name.nonceAlphabet.length) 'b'

def nextStamp (w : Rehearsal) : Stamp × Rehearsal :=
  (⟨stampTime, nonceOf w.stamps⟩, { w with stamps := w.stamps + 1 })

def answer (d : Demand) (w : Rehearsal) : d.Answer × Rehearsal :=
  match d with
  | .server r => w.answerRequest r
  | .stamp => w.nextStamp

end Rehearsal

/-- A server that is out of reach: every request fails, and stamps are still given. -/
def Demand.unreachable (d : Demand) (stamps : Nat) : d.Answer × Nat :=
  match d with
  | .server _ => (.error (.server (.unanswered "the server is out of reach")), stamps)
  | .stamp => (⟨Rehearsal.stampTime, Rehearsal.nonceOf stamps⟩, stamps + 1)

end PointInTime
