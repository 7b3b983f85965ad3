import Sbegw.Lib.Run
import Sbegw.Configd.Store

/-!
# The store under concurrent callers

The machine whose steps are the locked sections of the store's methods and the moves of the timer
threads.  Any number of clients take the steps; a run is one interleaving.  Transaction ids are
fresh: a commit takes one that no commit of the run had before.
-/

namespace Sbegw.Configd

open Machine

/-- One step of a caller or of a timer thread. -/
inductive Action where
  /-- `stage(mutate)` -/
  | stage (env : Env) (mutate : Mutation)
  /-- `discard_candidate()` -/
  | discard
  /-- `commit(...)` -/
  | commit (env : Env) (args : CommitArgs) (txid : String)
  /-- `confirm(txid)`; `fault` when the audit row cannot be written -/
  | confirm (fault : Bool) (txid user : String)
  /-- `rollback_to_revision(id)` up to its commit -/
  | loadRevision (id : ℕ)
  /-- time passes -/
  | tick
  /-- the timer of `txid` reaches its deadline -/
  | fire (txid : String)
  /-- the first section of the timer of `txid` -/
  | expire (txid : String)
  /-- the second section -/
  | restore (env : Env) (txid : String)
  /-- the next applier call of the timer, or its audit row after the last one -/
  | reapply (fault : Bool) (txid : String)

/-- What a step answers. -/
inductive Answer where
  | unit (r : Except Exn Unit)
  | warnings (r : Except Exn (List String))
  | commit (r : Except Exn CommitReturn)
  | confirm (r : Except Exn Bool)

/-- The store, and the transaction ids that commits were given. -/
structure Sys where
  store : Store
  issued : List String

/-- A store that has just been built, before its first commit. -/
def Sys.start (s : Store) : Sys := ⟨s.restart, []⟩

/-- The transition function; a step that is not enabled has no successor. -/
def step (s : Sys) : Action → Option (Answer × Sys)
  | .stage env mutate =>
    let r := stage env mutate s.store
    some (.warnings r.1, { s with store := r.2 })
  | .discard => some (.unit (.ok ()), { s with store := discardCandidate s.store })
  | .commit env args txid =>
    if s.issued.contains txid then none
    else
      let r := commit env args txid s.store
      some (.commit r.1, ⟨r.2, txid :: s.issued⟩)
  | .confirm fault txid user =>
    let r := confirm fault txid user s.store
    some (.confirm r.1, { s with store := r.2 })
  | .loadRevision id =>
    let r := loadRevision id s.store
    some (.unit r.1, { s with store := r.2 })
  | .tick => some (.unit (.ok ()), { s with store := { s.store with clock := s.store.clock + 1 } })
  | .fire txid => (fire txid s.store).map fun t => (.unit (.ok ()), { s with store := t })
  | .expire txid => (expire txid s.store).map fun t => (.unit (.ok ()), { s with store := t })
  | .restore env txid =>
    (restore env txid s.store).map fun r => (.unit r.1, { s with store := r.2 })
  | .reapply fault txid =>
    (reapply fault txid s.store).map fun r => (.unit r.1, { s with store := r.2 })

/-- A run of the store. -/
abbrev StoreRun := Run step

/-- A step of a run. -/
abbrev StoreStep := Machine.Step Sys Action Answer

/-! ### A small installation -/

/-- A store before its first start: nothing on disk, no rows. -/
def Store.blank : Store := ⟨[], [], none, none, [], none, [], 0, [], 0, [], 0⟩

/-- `cfg["system"]["hostname"] = name` -/
def setHostname (name : String) : Mutation := fun cfg =>
  match Dict.lookup "system" cfg with
  | some (.obj sys) =>
    .ok (Dict.set "system" (.obj (Dict.set "hostname" (.str name) sys)) cfg)
  | some _ => .error .type
  | none => .error (.key "'system'")

/-- A commit that waits one second for its confirmation. -/
def CommitArgs.awaiting : CommitArgs :=
  { CommitArgs.default with rollbackSeconds := 1, confirmRequired := some true }

/-- A commit that does not ask for confirmation. -/
def CommitArgs.plain : CommitArgs := { CommitArgs.default with confirmRequired := some false }

end Sbegw.Configd
