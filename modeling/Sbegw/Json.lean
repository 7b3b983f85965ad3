import Sbegw.Lib.Dict
import Mathlib.Data.Rat.Defs

/-!
# Configuration documents

A configuration is one JSON document, held as the Python values `json.load` builds.  `int` and
`float` stay apart, since `isinstance(value, int)` tells them apart; a finite float is the rational
number it stands for.  Objects keep their insertion order.
-/

namespace Sbegw

/-- A JSON value as Python holds it. -/
inductive Json where
  | null
  | bool (b : Bool)
  | int (i : ℤ)
  | float (q : ℚ)
  | str (s : String)
  | arr (xs : List Json)
  | obj (kvs : List (String × Json))

/-- A JSON object. -/
abbrev Obj := Dict String Json

instance : Inhabited Json := ⟨.null⟩

namespace Json

/-! ### Identity of documents -/

mutual
/-- The same document, down to the order of the keys: what `json.dumps` prints the same. -/
def beq : Json → Json → Bool
  | .null, .null => true
  | .bool a, .bool b => a == b
  | .int a, .int b => a == b
  | .float a, .float b => a == b
  | .str a, .str b => a == b
  | .arr a, .arr b => beqArr a b
  | .obj a, .obj b => beqObj a b
  | _, _ => false
def beqArr : List Json → List Json → Bool
  | [], [] => true
  | a :: as, b :: bs => beq a b && beqArr as bs
  | _, _ => false
def beqObj : List (String × Json) → List (String × Json) → Bool
  | [], [] => true
  | (k, a) :: as, (l, b) :: bs => (k == l && beq a b) && beqObj as bs
  | _, _ => false
end

mutual
theorem beq_refl : ∀ a : Json, beq a a = true
  | .null => rfl
  | .bool a => by simp [beq]
  | .int a => by simp [beq]
  | .float a => by simp [beq]
  | .str a => by simp [beq]
  | .arr a => by simpa [beq] using beqArr_refl a
  | .obj a => by simpa [beq] using beqObj_refl a
theorem beqArr_refl : ∀ a : List Json, beqArr a a = true
  | [] => rfl
  | a :: as => by simp [beqArr, beq_refl a, beqArr_refl as]
theorem beqObj_refl : ∀ a : List (String × Json), beqObj a a = true
  | [] => rfl
  | (k, a) :: as => by simp [beqObj, beq_refl a, beqObj_refl as]
end

mutual
theorem eq_of_beq : ∀ a b : Json, beq a b = true → a = b := by
  intro a b h
  match a, b with
  | .null, .null => rfl
  | .bool a, .bool b => simp only [beq, beq_iff_eq] at h; rw [h]
  | .int a, .int b => simp only [beq, beq_iff_eq] at h; rw [h]
  | .float a, .float b => simp only [beq, beq_iff_eq] at h; rw [h]
  | .str a, .str b => simp only [beq, beq_iff_eq] at h; rw [h]
  | .arr a, .arr b => rw [eq_of_beqArr a b (by simpa [beq] using h)]
  | .obj a, .obj b => rw [eq_of_beqObj a b (by simpa [beq] using h)]
theorem eq_of_beqArr : ∀ a b : List Json, beqArr a b = true → a = b := by
  intro a b h
  match a, b with
  | [], [] => rfl
  | a :: as, b :: bs =>
    simp only [beqArr, Bool.and_eq_true] at h
    rw [eq_of_beq a b h.1, eq_of_beqArr as bs h.2]
theorem eq_of_beqObj : ∀ a b : List (String × Json), beqObj a b = true → a = b := by
  intro a b h
  match a, b with
  | [], [] => rfl
  | (k, a) :: as, (l, b) :: bs =>
    simp only [beqObj, Bool.and_eq_true, beq_iff_eq] at h
    rw [h.1.1, eq_of_beq a b h.1.2, eq_of_beqObj as bs h.2]
end

instance : DecidableEq Json := fun a b =>
  decidable_of_iff (beq a b = true) ⟨eq_of_beq a b, fun h => h ▸ beq_refl a⟩

/-! ### Python's view of a value -/

/-- The number a value counts as in comparisons: `True == 1 == 1.0`. -/
def num? : Json → Option ℚ
  | .bool b => some (if b then 1 else 0)
  | .int i => some i
  | .float q => some q
  | _ => none

mutual
/-- `a == b`. -/
def pyEq : Json → Json → Bool
  | .null, b => match b with | .null => true | _ => false
  | .bool a, b => b.num? == some (if a then 1 else 0)
  | .int a, b => b.num? == some (a : ℚ)
  | .float a, b => b.num? == some a
  | .str a, b => match b with | .str b => a == b | _ => false
  | .arr a, b => match b with | .arr b => pyEqArr a b | _ => false
  | .obj a, b =>
    match b with
    | .obj b => pyEqObj [] a b && b.all fun e => (Dict.lookup e.1 a).isSome
    | _ => false
def pyEqArr : List Json → List Json → Bool
  | [], bs => bs.isEmpty
  | a :: as, bs => match bs with | [] => false | b :: bs => pyEq a b && pyEqArr as bs
/-- Every entry of the first object has its equal in the second one; the entries of the keys `seen`
are hidden. -/
def pyEqObj (seen : List String) : List (String × Json) → List (String × Json) → Bool
  | [], _ => true
  | (k, a) :: as, b =>
    (seen.contains k || match Dict.lookup k b with | some v => pyEq a v | none => false) &&
      pyEqObj (k :: seen) as b
end

@[simp] theorem pyEq_str (s t : String) : pyEq (.str s) (.str t) = (s == t) := by rw [pyEq]

/-- `bool(value)`. -/
def truthy : Json → Bool
  | .null => false
  | .bool b => b
  | .int i => i != 0
  | .float q => q != 0
  | .str s => s != ""
  | .arr xs => !xs.isEmpty
  | .obj kvs => !kvs.isEmpty

/-- The entries of an object; anything else has none. -/
def entries : Json → Obj
  | .obj kvs => kvs
  | _ => []

/-- `value.get(key)` of an object. -/
def get? (j : Json) (k : String) : Option Json := Dict.lookup k j.entries

/-- `value.get(key, d)` of an object. -/
def getD (j : Json) (k : String) (d : Json) : Json := (j.get? k).getD d

/-- `value[key] = v` of an object. -/
def put (j : Json) (k : String) (v : Json) : Json :=
  match j with
  | .obj kvs => .obj (Dict.set k v kvs)
  | j => j

/-- `isinstance(value, dict)`. -/
def isObj : Json → Bool
  | .obj _ => true
  | _ => false

@[simp] theorem get?_obj (k : String) (kvs : Obj) : (Json.obj kvs).get? k = Dict.lookup k kvs := rfl

@[simp] theorem entries_obj (kvs : Obj) : (Json.obj kvs).entries = kvs := rfl

end Json

end Sbegw
