import Sbegw.Edit
import Sbegw.Lib.Text

/-!
# The client database

`clientd`: what is stored about the client devices, and the update that the API makes.  What SQLite
makes of a value in a column is a parameter.
-/

namespace Sbegw.Clientd

open Text

/-- A row of `client_history`; a detail that is dumped JSON is kept as the value it stands for. -/
structure HistoryRow where
  id : ℕ
  mac : String
  ts : ℚ
  event : String
  detail : Json
deriving DecidableEq

/-- `ClientDatabase`: the rows of `clients` by address (a column that is `NULL` is absent), the
history, and the live view of the last poll. -/
structure ClientDatabase where
  rows : Dict String Obj
  history : List HistoryRow
  lastHistory : ℕ
  live : Dict String Obj
deriving DecidableEq

/-- What surrounds the database during a call: the clock, what a column stores for a value, and the
two transactions that may raise. -/
structure Env where
  now : ℚ
  stored : String → Json → Json
  updateFault : Bool
  historyFault : Bool

/-- `normalise_mac(mac)` -/
def normaliseMac (mac : String) : String := replace '-' ':' (lower (strip mac))

/-- `allowed` -/
def updatable : List String :=
  ["name", "fixed_ip", "blocked", "quarantined", "note", "down_limit_kbps", "up_limit_kbps"]

/-- The columns an update names. -/
def updatesOf (fields : Obj) : Obj :=
  let updates := fields.filter fun e => updatable.contains e.1
  match Dict.lookup "tags" fields with
  | some tags => Dict.set "tags" tags updates
  | none => updates

/-- SQLite can bind the value; tags are bound as text. -/
def bindable (e : String × Json) : Bool :=
  e.1 == "tags" ||
    match e.2 with
    | .int i => decide (-(2 ^ 63) ≤ i ∧ i < 2 ^ 63)
    | .arr _ | .obj _ => false
    | _ => true

/-- `_history(mac, event, detail)`: the newest 20000 rows stay. -/
def ClientDatabase.record (env : Env) (mac event : String) (detail : Json) (db : ClientDatabase) :
    Except Exn Unit × ClientDatabase :=
  if env.historyFault then (.error (.storage "client_history"), db)
  else
    let rows := db.history ++ [⟨db.lastHistory + 1, mac, env.now, event, detail⟩]
    (.ok (), { db with
      history := rows.drop (rows.length - 20000)
      lastHistory := db.lastHistory + 1 })

/-- The detail of an update in the history. -/
def updateDetail (updates : Obj) : Json :=
  .obj (updates.map fun e => (e.1, if e.1 = "note" then .str "***" else e.2))

/-- The columns of a row after an update. -/
def assign (env : Env) (updates row : Obj) : Obj :=
  Dict.update row (updates.map fun e => (e.1, env.stored e.1 e.2))

/-- `update(mac, **fields)`; answers whether the client is known. -/
def ClientDatabase.update (env : Env) (mac : String) (fields : Obj) (db : ClientDatabase) :
    Except Exn Bool × ClientDatabase :=
  -- a keyword cannot repeat a parameter
  if (Dict.lookup "mac" fields).isSome || (Dict.lookup "self" fields).isSome then (.error .type, db)
  else
    let updates := updatesOf fields
    if updates.isEmpty then (.ok false, db)
    else if !updates.all bindable then (.error (.storage "clients"), db)
    else if env.updateFault then (.error (.storage "clients"), db)
    else
      let mac := normaliseMac mac
      let known := Dict.lookup mac db.rows
      let db := match known with
        | some row => { db with rows := Dict.set mac (assign env updates row) db.rows }
        | none => db
      match db.record env mac "updated" (updateDetail updates) with
      | (.error e, db) => (.error e, db)
      | (.ok (), db) => (.ok known.isSome, db)

/-- `get(mac)` -/
def ClientDatabase.get (mac : String) (db : ClientDatabase) : Option Obj :=
  let mac := normaliseMac mac
  let stored := (Dict.lookup mac db.rows).map fun row =>
    Dict.set "tags" ((Dict.lookup "tags" row).getD (.arr [])) (Dict.set "online" (.bool false) row)
  match Dict.lookup mac db.live with
  | some live => if live.isEmpty then stored else some live
  | none => stored

end Sbegw.Clientd
