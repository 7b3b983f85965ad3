import Sbegw.Schema.Validate
import Sbegw.Configd.Diff

/-!
# The configuration store

Running and candidate configuration, revisions, audit trail, and the commit that takes the candidate
into operation.  A method is a function of the store that answers with what the call returns or
raises and the store it leaves behind: what happened before an exception stays.
-/

namespace Sbegw.Configd

open Schema (Capabilities)

/-! ### What a commit calls -/

/-- `ApplyResult` -/
structure ApplyResult where
  ok : Bool
  messages : List String
  requiresConfirmation : Bool

/-- A registered applier.  `.error text` is an exception that prints as `text`. -/
structure Applier where
  name : String
  preflight : Option (Obj → Obj → Except String (Bool × List String))
  apply : Obj → Obj → Except String ApplyResult

/-- A registered health check. -/
structure HealthCheck where
  name : String
  check : Obj → Except String (Bool × List String)

/-- The storage steps that raise. -/
structure Faults where
  /-- `candidate.json` in `stage` -/
  candidate : Bool
  /-- the checkpoint revision -/
  checkpoint : Bool
  /-- `running.json` in `commit` -/
  running : Bool
  /-- the commit revision -/
  revision : Bool
  /-- `running.json` in `_rollback_to` -/
  rollback : Bool
  /-- the audit row -/
  audit : Bool
deriving DecidableEq

/-- Storage that works. -/
def Faults.none : Faults := ⟨false, false, false, false, false, false⟩

/-- What surrounds the store during a call. -/
structure Env where
  capabilities : Capabilities
  appliers : List Applier
  healthChecks : List HealthCheck
  faults : Faults

/-- An environment without hooks in which nothing fails. -/
def Env.quiet : Env := ⟨Capabilities.empty, [], [], Faults.none⟩

/-! ### State -/

/-- `_pending` -/
structure Pending where
  txid : String
  previous : Obj
  revision : ℕ
  deadline : ℕ
  user : String
deriving DecidableEq

/-- A row of `revisions`. -/
structure Revision where
  id : ℕ
  txid : String
  ts : ℕ
  user : String
  source : String
  summary : String
  config : Obj
deriving DecidableEq

/-- A row of `audit`. -/
structure AuditRow where
  id : ℕ
  txid : String
  ts : ℕ
  user : String
  sourceIp : String
  action : String
  resource : String
  success : Bool
  detail : String
  diff : List Change
deriving DecidableEq

/-- One call of an applier, `applier(old, new)`. -/
structure Call where
  applier : String
  old : Obj
  new : Obj
deriving DecidableEq

/-- Where the thread of a rollback timer stands. -/
inductive TimerPhase where
  /-- waits for its deadline -/
  | sleeping (deadline : ℕ)
  /-- has fired and waits for the lock of its first section -/
  | waiting
  /-- has cleared `_pending` and waits for the lock of `_rollback_to(previous)` -/
  | restoring (previous : Obj)
  /-- has restored the configuration; these applier calls are left -/
  | reapplying (calls : List Call)
deriving DecidableEq

/-- `ConfigStore`, with what it writes to.  `timers` holds the timer threads by transaction, `calls`
every applier call so far, and `disk` the document in `running.json`. -/
structure Store where
  running : Obj
  candidate : Obj
  pending : Option Pending
  rollbackTimer : Option String
  timers : Dict String TimerPhase
  disk : Option Obj
  revisions : List Revision
  lastRevision : ℕ
  audit : List AuditRow
  lastAudit : ℕ
  calls : List Call
  clock : ℕ

/-! ### Loading -/

mutual
/-- `merge(dst[key], value)` where both are objects; else the value stays. -/
def mergeValue : Json → Json → Json
  | .obj src, v =>
    match v with
    | .obj dst => .obj (merge src dst)
    | v => v
  | _, v => v
/-- `merge(dst, src)` of `_migrate`, in the order of `src`. -/
def merge : List (String × Json) → Obj → Obj
  | [], dst => dst
  | (k, v) :: src, dst =>
    merge src (Dict.set k (match Dict.lookup k dst with
      | none => v
      | some u => mergeValue v u) dst)
end

/-- `_migrate(cfg)` -/
def migrate (cfg : Obj) : Obj :=
  let version := (Dict.lookup "schema_version" cfg).getD (.int 0)
  let merged := merge Schema.defaultEntries cfg
  if Json.pyEq version (.int Schema.schemaVersion) then merged
  else Dict.set "schema_version" (.int Schema.schemaVersion) merged

/-- `ConfigStore.__init__` on what is on disk: `running.json` and the database survive, everything
else is new.  An unreadable `running.json` is replaced by the defaults. -/
def Store.restart (s : Store) : Store :=
  let running := match s.disk with
    | some cfg => migrate cfg
    | none => Schema.defaultEntries
  { s with
    running := running
    candidate := running
    pending := none
    rollbackTimer := none
    timers := []
    disk := some (s.disk.getD Schema.defaultEntries) }

/-! ### Storage -/

/-- `write_atomic(running_path, json.dumps(cfg))`, which leaves equal content alone. -/
def writeRunning (fault : Bool) (cfg : Obj) (s : Store) : Except Exn Unit × Store :=
  if s.disk = some cfg then (.ok (), s)
  else if fault then (.error (.storage "running.json"), s)
  else (.ok (), { s with disk := some cfg })

/-- `_latest_revision()` -/
def Store.latestRevision (s : Store) : ℕ := (s.revisions.getLast?.map Revision.id).getD 0

/-- `_save_revision(...)` without a fault: the newest 60 rows stay. -/
def Store.saveRevision (s : Store) (txid user source summary : String) (cfg : Obj) : Store :=
  let row : Revision := ⟨s.lastRevision + 1, txid, s.clock, user, source, summary, cfg⟩
  let rows := s.revisions ++ [row]
  { s with revisions := rows.drop (rows.length - 60), lastRevision := s.lastRevision + 1 }

/-- `_audit(...)` without a fault: the newest 5000 rows stay. -/
def Store.addAudit (s : Store) (txid user sourceIp action : String) (success : Bool)
    (detail : String) (changes : List Change) : Store :=
  let row : AuditRow := ⟨s.lastAudit + 1, txid, s.clock, user, sourceIp, action, "config", success,
    detail, redact changes⟩
  let rows := s.audit ++ [row]
  { s with audit := rows.drop (rows.length - 5000), lastAudit := s.lastAudit + 1 }

/-! ### Candidate -/

/-- A function that edits a document in place, or raises. -/
abbrev Mutation := Obj → Except Exn Obj

/-- `discard_candidate()` -/
def discardCandidate (s : Store) : Store := { s with candidate := s.running }

/-- `stage(mutate)` -/
def stage (env : Env) (mutate : Mutation) (s : Store) : Except Exn (List String) × Store :=
  match mutate s.candidate with
  | .error e => (.error e, s)
  | .ok trial =>
    match Schema.validate env.capabilities trial with
    | .error e => (.error e, s)
    | .ok (trial, warnings) =>
      if env.faults.candidate then (.error (.storage "candidate.json"), { s with candidate := trial })
      else (.ok warnings, { s with candidate := trial })

/-! ### Commit -/

/-- The keyword arguments of `commit`. -/
structure CommitArgs where
  user : String
  sourceIp : String
  summary : String
  rollbackSeconds : ℤ
  confirmRequired : Option Bool
  force : Bool
deriving DecidableEq

/-- The defaults of the keyword arguments. -/
def CommitArgs.default : CommitArgs := ⟨"system", "local", "", 120, none, false⟩

/-- What `commit` returns; `committed` is `True` in both of its returns. -/
structure CommitReturn where
  txid : String
  revision : Option ℕ
  changes : List Change
  warnings : List String
  messages : List String
  confirmPending : Bool
  rollbackDeadline : Option ℕ
deriving DecidableEq

/-- The problems the preflight hooks report, those of a hook that answers `ok` left out. -/
def preflightProblems (old new : Obj) (appliers : List Applier) : List String :=
  appliers.flatMap fun a =>
    match a.preflight with
    | none => []
    | some check =>
      match check old new with
      | .ok (ok, msgs) => if ok then [] else msgs
      | .error exc => [a.name ++ " preflight raised: " ++ exc]

/-- What the health checks report. -/
def unhealthy (new : Obj) (checks : List HealthCheck) : List String :=
  checks.flatMap fun h =>
    match h.check new with
    | .ok (ok, msgs) => if ok then [] else msgs
    | .error exc => [h.name ++ " health check raised: " ++ exc]

/-- What an applier answers; an exception counts as a failure. -/
def Applier.result (a : Applier) (old new : Obj) : ApplyResult :=
  match a.apply old new with
  | .ok r => r
  | .error exc => ⟨false, [a.name ++ ": " ++ exc], false⟩

/-- What the appliers did. -/
structure Applied where
  messages : List String
  needsConfirm : Bool
  failed : Option String
  calls : List Call

/-- The apply loop, up to the first applier that fails. -/
def applyAll (old new : Obj) : List Applier → Applied
  | [] => ⟨[], false, none, []⟩
  | a :: rest =>
    let result := a.result old new
    let call : Call := ⟨a.name, old, new⟩
    if result.ok then
      let later := applyAll old new rest
      ⟨result.messages ++ later.messages, result.requiresConfirmation || later.needsConfirm,
        later.failed, call :: later.calls⟩
    else ⟨result.messages, result.requiresConfirmation, some a.name, [call]⟩

/-- The locked section of `_rollback_to(config)`. -/
def resetTo (fault : Bool) (config : Obj) (s : Store) : Except Exn Unit × Store :=
  writeRunning fault config { s with running := config, candidate := config }

/-- The applier calls of `_rollback_to`. -/
def rollbackCalls (appliers : List Applier) (current config : Obj) : List Call :=
  appliers.map fun a => ⟨a.name, current, config⟩

/-- `_rollback_to(config)` -/
def rollbackTo (env : Env) (config : Obj) (s : Store) : Except Exn Unit × Store :=
  match resetTo env.faults.rollback config s with
  | (.error e, s') => (.error e, s')
  | (.ok (), s') =>
    (.ok (), { s' with calls := s'.calls ++ rollbackCalls env.appliers s.running config })

section Commit

variable (env : Env) (args : CommitArgs) (txid : String)

/-- Record the failure and raise. -/
def refuse (stage message detail : String) (details : List String) (changes : List Change)
    (s : Store) : Except Exn CommitReturn × Store :=
  if env.faults.audit then (.error (.storage "audit"), s)
  else (.error (.commit message stage txid details),
    s.addAudit txid args.user args.sourceIp "commit" false detail changes)

/-- Roll back to the configuration before the commit, record the failure and raise. -/
def backOut (old : Obj) (stage message detail : String) (details : List String)
    (changes : List Change) (s : Store) : Except Exn CommitReturn × Store :=
  match rollbackTo env old s with
  | (.error e, s') => (.error e, s')
  | (.ok (), s') => refuse env args txid stage message detail details changes s'

/-- Does a commit with these answers of the appliers wait for confirmation? -/
def awaits (needsConfirm : Bool) : Bool :=
  args.confirmRequired.getD needsConfirm && decide (0 < args.rollbackSeconds)

/-- Arm the rollback timer. -/
def arm (old : Obj) (revision : ℕ) (s : Store) : Store :=
  let deadline := s.clock + args.rollbackSeconds.toNat
  { s with
    pending := some ⟨txid, old, revision, deadline, args.user⟩
    rollbackTimer := some txid
    timers := Dict.set txid (.sleeping deadline) s.timers }

/-- The summary of a commit. -/
def CommitArgs.text (args : CommitArgs) (changes : List Change) : String :=
  if args.summary = "" then summarise changes else args.summary

/-- The end of a commit: arm the timer where confirmation is awaited, record and return. -/
def conclude (old : Obj) (changes : List Change) (warnings messages : List String)
    (needsConfirm : Bool) (revision : ℕ) (s : Store) : Except Exn CommitReturn × Store :=
  let s := if awaits args needsConfirm then arm args txid old revision s else s
  if env.faults.audit then (.error (.storage "audit"), s)
  else
    (.ok ⟨txid, some revision, changes, warnings, messages, s.pending.isSome,
        s.pending.map Pending.deadline⟩,
      s.addAudit txid args.user args.sourceIp "commit" true (args.text changes) changes)

/-- The commit proper, after the health checks: the new configuration becomes the running one. -/
def install (old new : Obj) (changes : List Change) (warnings messages : List String)
    (needsConfirm : Bool) (checkpoint : ℕ) (s : Store) : Except Exn CommitReturn × Store :=
  match writeRunning env.faults.running new { s with running := new } with
  | (.error e, s) => (.error e, s)
  | (.ok (), s) =>
    let s := { s with candidate := new }
    if !changes.isEmpty && env.faults.revision then (.error (.storage "revisions"), s)
    else
      let s := if changes.isEmpty then s
        else s.saveRevision txid args.user "commit" (args.text changes) new
      let revision := if changes.isEmpty then checkpoint else s.lastRevision
      conclude env args txid old changes warnings messages needsConfirm revision s

/-- The commit from the checkpoint on. -/
def applyNew (old new : Obj) (changes : List Change) (warnings : List String) (s : Store) :
    Except Exn CommitReturn × Store :=
  if !changes.isEmpty && env.faults.checkpoint then (.error (.storage "revisions"), s)
  else
    let s := if changes.isEmpty then s
      else s.saveRevision txid args.user "checkpoint"
        (if args.summary = "" then "pre-apply checkpoint" else args.summary) old
    let checkpoint := if changes.isEmpty then s.latestRevision else s.lastRevision
    let applied := applyAll old new env.appliers
    let s := { s with calls := s.calls ++ applied.calls }
    match applied.failed with
    | some name =>
      backOut env args txid old "apply" ("apply failed in " ++ name) ("apply failed in " ++ name)
        applied.messages changes s
    | none =>
      match unhealthy new env.healthChecks with
      | [] =>
        install env args txid old new changes warnings applied.messages applied.needsConfirm
          checkpoint s
      | problems =>
        backOut env args txid old "health" "health check failed after apply"
          (Text.join "; " problems) problems changes s

/-- `commit(...)` with the transaction id `txid`. -/
def commit (s : Store) : Except Exn CommitReturn × Store :=
  match s.pending with
  | some p => (.error (.commit "another commit is awaiting confirmation" "lock" p.txid []), s)
  | none =>
    let changes := changesOf s.running s.candidate
    if changes.isEmpty && !args.force then
      (.ok ⟨txid, none, [], [], ["no changes to commit"], false, none⟩, s)
    else
      match Schema.validate env.capabilities s.candidate with
      | .error (.validation path message) =>
        let text := path ++ ": " ++ message
        refuse env args txid "validate" text ("validation failed: " ++ text) [] changes s
      | .error e => (.error e, s)
      | .ok (new, warnings) =>
        match preflightProblems s.running new env.appliers with
        | [] => applyNew env args txid s.running new changes warnings s
        | problems =>
          refuse env args txid "preflight" "preflight failed" (Text.join "; " problems) problems
            changes s

end Commit

/-! ### Confirmation and timeout -/

/-- `_rollback_timer.cancel()`: a timer that has not fired yet never will. -/
def cancelTimer (s : Store) : Dict String TimerPhase :=
  match s.rollbackTimer with
  | none => s.timers
  | some t =>
    match Dict.lookup t s.timers with
    | some (.sleeping _) => Dict.erase t s.timers
    | _ => s.timers

/-- `confirm(txid)` -/
def confirm (fault : Bool) (txid user : String) (s : Store) : Except Exn Bool × Store :=
  match s.pending with
  | none => (.ok false, s)
  | some p =>
    if p.txid ≠ txid then (.ok false, s)
    else
      let s := { s with timers := cancelTimer s, rollbackTimer := none, pending := none }
      if fault then (.error (.storage "audit"), s)
      else (.ok true, s.addAudit txid user "local" "confirm" true "commit confirmed" [])

/-- The timer of `txid` reaches its deadline. -/
def fire (txid : String) (s : Store) : Option Store :=
  match Dict.lookup txid s.timers with
  | some (.sleeping deadline) =>
    if deadline ≤ s.clock then some { s with timers := Dict.set txid .waiting s.timers } else none
  | _ => none

/-- The first section of `_rollback_timeout(txid)`. -/
def expire (txid : String) (s : Store) : Option Store :=
  match Dict.lookup txid s.timers with
  | some .waiting =>
    match s.pending with
    | some p =>
      if p.txid = txid then
        some { s with
          pending := none
          rollbackTimer := none
          timers := Dict.set txid (.restoring p.previous) s.timers }
      else some { s with timers := Dict.erase txid s.timers }
    | none => some { s with timers := Dict.erase txid s.timers }
  | _ => none

/-- The second section: the locked part of `_rollback_to(previous)`. -/
def restore (env : Env) (txid : String) (s : Store) : Option (Except Exn Unit × Store) :=
  match Dict.lookup txid s.timers with
  | some (.restoring previous) =>
    match resetTo env.faults.rollback previous s with
    | (.ok (), s') =>
      let calls := rollbackCalls env.appliers s.running previous
      some (.ok (), { s' with timers := Dict.set txid (.reapplying calls) s'.timers })
    | (.error e, s') => some (.error e, { s' with timers := Dict.erase txid s'.timers })
  | _ => none

/-- The next applier call of the timer's `_rollback_to`, outside the lock; after the last one the
rollback is recorded. -/
def reapply (fault : Bool) (txid : String) (s : Store) : Option (Except Exn Unit × Store) :=
  match Dict.lookup txid s.timers with
  | some (.reapplying (call :: rest)) =>
    some (.ok (), { s with
      calls := s.calls ++ [call]
      timers := Dict.set txid (.reapplying rest) s.timers })
  | some (.reapplying []) =>
    let s := { s with timers := Dict.erase txid s.timers }
    if fault then some (.error (.storage "audit"), s)
    else some (.ok (), s.addAudit txid "system" "local" "rollback" true "rollback timer expired" [])
  | _ => none

/-! ### Revisions -/

/-- The part of `rollback_to_revision(id)` before its commit. -/
def loadRevision (id : ℕ) (s : Store) : Except Exn Unit × Store :=
  match s.revisions.find? fun r => r.id = id with
  | none =>
    (.error (.commit ("revision " ++ Text.ofNat id ++ " not found") "revision" "-" []), s)
  | some row => (.ok (), { s with candidate := migrate row.config })

/-- `rollback_to_revision(id)` -/
def rollbackToRevision (env : Env) (user sourceIp txid : String) (id : ℕ) (s : Store) :
    Except Exn CommitReturn × Store :=
  match loadRevision id s with
  | (.error e, s') => (.error e, s')
  | (.ok (), s') =>
    let summary := "rollback to revision " ++ Text.ofNat id
    commit env { CommitArgs.default with user, sourceIp, summary } txid s'

end Sbegw.Configd
