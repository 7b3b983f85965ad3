import Sbegw.Json

/-!
# Programs that edit a document in place

Validation in Python mutates the object it checks and raises on the first thing it refuses.
`EditM β` is such a program: it starts from an object and the warnings so far, and either raises or
answers with a value, the edited object and more warnings.
-/

namespace Sbegw

/-- What the code raises. -/
inductive Exn where
  /-- `schema.ValidationError(path, message)` -/
  | validation (path message : String)
  /-- `ValueError(message)` -/
  | value (message : String)
  /-- `KeyError(message)` -/
  | key (message : String)
  /-- `TypeError`, raised by an operator or a built-in on a value of the wrong type -/
  | type
  /-- `AttributeError`, raised by a method call on a value of the wrong type -/
  | attribute
  /-- `PermissionError(message)` -/
  | permission (message : String)
  /-- `CommitError(message, stage, txid, details)` -/
  | commit (message stage txid : String) (details : List String)
  /-- `OSError` or `sqlite3.Error` out of a storage call -/
  | storage (message : String)
  /-- `ApiError(status, code, message)` -/
  | api (status : ℕ) (code message : String)
  /-- any other exception of code this one calls -/
  | other (message : String)
deriving DecidableEq

/-- `str(exc)` of a `ValidationError`. -/
def Exn.text : Exn → String
  | .validation path message => path ++ ": " ++ message
  | .value m => m
  | .key m => m
  | .type => ""
  | .attribute => ""
  | .permission m => m
  | .commit m _ _ _ => m
  | .storage m => m
  | .api _ _ m => m
  | .other m => m

@[simp] theorem ok_bind {β γ : Type} (b : β) (f : β → Except Exn γ) : (Except.ok b >>= f) = f b := rfl

@[simp] theorem error_bind {β γ : Type} (e : Exn) (f : β → Except Exn γ) :
    ((Except.error e : Except Exn β) >>= f) = .error e := rfl

theorem except_bind_eq_ok {β γ : Type} {x : Except Exn β} {f : β → Except Exn γ} {c : γ} :
    (x >>= f) = .ok c ↔ ∃ b, x = .ok b ∧ f b = .ok c := by
  cases x with
  | error e => simp
  | ok b => simp

/-- A program that edits a JSON object. -/
def EditM (β : Type) : Type := Obj → List String → Except Exn (β × Obj × List String)

namespace EditM

variable {β γ σ : Type}

instance : Monad EditM where
  pure b := fun a w => .ok (b, a, w)
  bind m f := fun a w =>
    match m a w with
    | .ok (b, a', w') => f b a' w'
    | .error e => .error e

/-- Raise. -/
def throw (e : Exn) : EditM β := fun _ _ => .error e

/-- A check that does not look at the object. -/
def lift (x : Except Exn β) : EditM β := fun a w =>
  match x with
  | .ok b => .ok (b, a, w)
  | .error e => .error e

/-- `warnings.append(text)`. -/
def warn (text : String) : EditM Unit := fun a w => .ok ((), a, w ++ [text])

/-- The object as it stands. -/
def self : EditM Obj := fun a w => .ok (a, a, w)

/-- `d.get(k)`, with `None` for an absent key. -/
def get (k : String) : EditM Json := fun a w => .ok ((Dict.lookup k a).getD .null, a, w)

/-- `d[k]`. -/
def item (k : String) : EditM Json := fun a w =>
  match Dict.lookup k a with
  | some v => .ok (v, a, w)
  | none => .error (.key ("'" ++ k ++ "'"))

/-- `d.setdefault(k, v)`. -/
def setdefault (k : String) (v : Json) : EditM Json := fun a w =>
  match Dict.lookup k a with
  | some u => .ok (u, a, w)
  | none => .ok (v, Dict.set k v a, w)

/-- `d[k] = v`. -/
def put (k : String) (v : Json) : EditM Unit := fun a w => .ok ((), Dict.set k v a, w)

/-- `p` on `d.setdefault(k, d)`: edit the object at `k`; any other value there raises `bad`. -/
def within (k : String) (d : Obj) (bad : Json → Exn) (p : EditM β) : EditM β := fun a w =>
  match (Dict.lookup k a).getD (.obj d) with
  | .obj o =>
    match p o w with
    | .ok (b, o', w') => .ok (b, Dict.set k (.obj o') a, w')
    | .error e => .error e
  | v => .error (bad v)

/-- `for k, v in d.items()` with a body that edits the object `v`; a value that is no object raises
`bad k`.  The accumulator `s` runs through the loop. -/
def eachEntry (bad : String → Exn) (f : σ → String → EditM σ) : σ → Obj → List String →
    Except Exn (σ × Obj × List String)
  | s, [], w => .ok (s, [], w)
  | s, (k, v) :: rest, w =>
    match v with
    | .obj o =>
      match f s k o w with
      | .ok (s', o', w') =>
        match eachEntry bad f s' rest w' with
        | .ok (t, rest', w'') => .ok (t, (k, .obj o') :: rest', w'')
        | .error e => .error e
      | .error e => .error e
    | _ => .error (bad k)

/-- The loop over the entries of the edited object itself. -/
def entriesOf (bad : String → Exn) (f : σ → String → EditM σ) (s : σ) : EditM σ := fun a w =>
  eachEntry bad f s a w

/-- `for i, x in enumerate(xs)` with a body that edits the object `x`; an element that is no object
raises `bad i`. -/
def eachElem (bad : ℕ → Exn) (f : σ → ℕ → EditM σ) : ℕ → σ → List Json →
    List String → Except Exn (σ × List Json × List String)
  | _, s, [], w => .ok (s, [], w)
  | i, s, v :: rest, w =>
    match v with
    | .obj o =>
      match f s i o w with
      | .ok (s', o', w') =>
        match eachElem bad f (i + 1) s' rest w' with
        | .ok (t, rest', w'') => .ok (t, .obj o' :: rest', w'')
        | .error e => .error e
      | .error e => .error e
    | _ => .error (bad i)

/-- The values a `for` loop over `v` goes through. -/
def pyIter : Json → Except Exn (List Json)
  | .arr xs => .ok xs
  | .obj kvs => .ok (kvs.map fun e => .str e.1)
  | .str s => .ok (s.toList.map fun c => .str (String.ofList [c]))
  | _ => .error .type

/-- `for i, x in enumerate(d.setdefault(k, []))` with a body that edits the object `x`. -/
def elemsOf (k : String) (bad : ℕ → Exn) (f : σ → ℕ → EditM σ) (s : σ) : EditM σ := fun a w =>
  match (Dict.lookup k a).getD (.arr []) with
  | .arr xs =>
    match eachElem bad f 0 s xs w with
    | .ok (t, xs', w') => .ok (t, Dict.set k (.arr xs') a, w')
    | .error e => .error e
  | v =>
    -- a non-list is iterated all the same; its elements are strings
    match pyIter v with
    | .ok [] => .ok (s, a, w)
    | .ok (_ :: _) => .error (bad 0)
    | .error e => .error e

/-- A loop whose body only checks. -/
def forM_ (f : ℕ → Json → Except Exn Unit) : ℕ → List Json → Except Exn Unit
  | _, [] => .ok ()
  | i, x :: xs => match f i x with | .ok () => forM_ f (i + 1) xs | .error e => .error e

/-- `raise e` when `c` holds. -/
def raiseIf (c : Bool) (e : Exn) : EditM Unit := if c then throw e else pure ()

/-- `if c: p` -/
def when (c : Prop) [Decidable c] (p : EditM Unit) : EditM Unit := if c then p else pure ()

end EditM

end Sbegw
