import Sbegw.Configd.Store

/-!
# Staging a change and committing it

The two calls that every caller with a change makes one after the other.
-/

namespace Sbegw.Configd

/-- A change: what is staged, and how it is committed. -/
structure Draft where
  mutate : Mutation
  args : CommitArgs

/-- `stage(mutate)` and then `commit(...)`; what either of them raises goes to the caller.  The
warnings of the staging come with the answer. -/
def submit (env : Env) (txid : String) (d : Draft) (s : Store) :
    Except Exn (CommitReturn × List String) × Store :=
  match stage env d.mutate s with
  | (.error e, s) => (.error e, s)
  | (.ok warnings, s) =>
    match commit env d.args txid s with
    | (.error e, s) => (.error e, s)
    | (.ok r, s) => (.ok (r, warnings), s)

/-! ### Editing a document -/

/-- `f` on the object `cfg[k]`; any other value there raises `bad`. -/
def inside (k : String) (bad : Exn) (f : Obj → Except Exn Obj) : Mutation := fun cfg =>
  match Dict.lookup k cfg with
  | some (.obj o) => (f o).map fun o' => Dict.set k (.obj o') cfg
  | some _ => .error bad
  | none => .error (.key (Schema.pyRepr k))

/-- `f` on the object `cfg.setdefault(k, d)`; any other value there raises `bad`. -/
def insideOr (k : String) (d : Obj) (bad : Exn) (f : Obj → Except Exn Obj) : Mutation := fun cfg =>
  match (Dict.lookup k cfg).getD (.obj d) with
  | .obj o => (f o).map fun o' => Dict.set k (.obj o') cfg
  | _ => .error bad

/-- `f` on the object `cfg[k]`, where an absent key raises `KeyError(missing)`. -/
def insideKnown (k missing : String) (bad : Exn) (f : Obj → Except Exn Obj) : Mutation := fun cfg =>
  if (Dict.lookup k cfg).isSome then inside k bad f cfg
  else .error (.key (Schema.pyRepr missing))

mutual
/-- `_deep_update(target, updates)`, over `updates` -/
def deepUpdate : List (String × Json) → Obj → Obj
  | [], target => target
  | (k, v) :: updates, target =>
    deepUpdate updates (Dict.set k (match Dict.lookup k target with
      | none => v
      | some u => deepValue v u) target)
/-- The value that `v` leaves at a key where `u` stood. -/
def deepValue : Json → Json → Json
  | .obj updates, u =>
    match u with
    | .obj target => .obj (deepUpdate updates target)
    | _ => .obj updates
  | v, _ => v
end

end Sbegw.Configd
