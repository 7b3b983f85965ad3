import Sbegw.Json
import Sbegw.Lib.Text

/-!
# Differences between documents

The flat list of changes that the audit trail and the pending view show, and its redaction.
-/

namespace Sbegw.Configd

open Text

/-- One entry of a diff; a side without a value is `None`. -/
structure Change where
  path : String
  old : Json
  new : Json
deriving DecidableEq

/-- `f"{path}.{key}" if path else str(key)` -/
def subPath (path key : String) : String := if path = "" then key else path ++ "." ++ key

/-- The keys that `a` lacks; the entries of the keys `seen` are hidden. -/
def diffAdded (seen : List String) (a : Obj) (path : String) : Obj → Dict String (List Change)
  | [] => []
  | (k, v) :: rest =>
    if seen.contains k || (Dict.lookup k a).isSome then diffAdded (k :: seen) a path rest
    else (k, [⟨subPath path k, .null, v⟩]) :: diffAdded (k :: seen) a path rest

mutual
/-- `diff_config(old, new, path)` -/
def diffConfig : Json → Json → String → List Change
  | .obj a, new, path =>
    match new with
    | .obj b => (Dict.sorted (diffKept [] a b path ++ diffAdded [] a path b)).flatMap Prod.snd
    | new => [⟨path, .obj a, new⟩]
  | old, new, path => if Json.pyEq old new then [] else [⟨path, old, new⟩]
/-- The changes under the keys of the old object; the entries of the keys `seen` are hidden. -/
def diffKept (seen : List String) : List (String × Json) → Obj → String →
    Dict String (List Change)
  | [], _, _ => []
  | (k, v) :: rest, b, path =>
    if seen.contains k then diffKept (k :: seen) rest b path
    else
      (k, match Dict.lookup k b with
        | none => [⟨subPath path k, v, .null⟩]
        | some u => diffConfig v u (subPath path k)) :: diffKept (k :: seen) rest b path
end

/-- `diff_config(old, new)` of two documents. -/
def changesOf (old new : Obj) : List Change := diffConfig (.obj old) (.obj new) ""

/-! ### What a diff says -/

theorem mem_sorted {α : Type} {d : Dict String α} {e : String × α} :
    e ∈ Dict.sorted d ↔ e ∈ d :=
  List.mem_insertionSort _

theorem flatMap_sorted_eq_nil {α : Type} {d : Dict String (List α)} :
    (Dict.sorted d).flatMap Prod.snd = [] ↔ ∀ e ∈ d, e.2 = [] := by
  simp [List.flatMap_eq_nil_iff, mem_sorted]

theorem isSome_of_diffAdded_nil {a : Obj} {path : String} :
    ∀ (seen : List String) (b : Obj), (∀ e ∈ diffAdded seen a path b, e.2 = []) →
      (∀ k ∈ seen, (Dict.lookup k a).isSome = true) →
      ∀ e ∈ b, (Dict.lookup e.1 a).isSome = true
  | _, [], _, _ => by simp
  | seen, (k, v) :: rest, h, hseen => by
    have hk : (Dict.lookup k a).isSome = true := by
      by_contra hn
      have hns : k ∉ seen := fun hk => hn (hseen k hk)
      simp [diffAdded, hns, hn] at h
    have hrest : ∀ e ∈ diffAdded (k :: seen) a path rest, e.2 = [] := by
      simpa [diffAdded, hk] using h
    intro e he
    rcases List.mem_cons.mp he with rfl | he
    · exact hk
    · refine isSome_of_diffAdded_nil (k :: seen) rest hrest ?_ e he
      intro j hj
      rcases List.mem_cons.mp hj with rfl | hj
      · exact hk
      · exact hseen j hj

/-- Of two values that are not both objects the diff is one entry or none. -/
theorem diffConfig_of_not_objs {r c : Json} (h : (r.isObj && c.isObj) = false) (path : String) :
    diffConfig r c path = if Json.pyEq r c then [] else [⟨path, r, c⟩] := by
  cases r with
  | obj a =>
    cases c with
    | obj b => simp [Json.isObj] at h
    | _ => simp [diffConfig, Json.pyEq]
  | _ => simp [diffConfig]

theorem diffConfig_objs (a b : Obj) (path : String) :
    diffConfig (.obj a) (.obj b) path =
      (Dict.sorted (diffKept [] a b path ++ diffAdded [] a path b)).flatMap Prod.snd := by
  rw [diffConfig]

theorem lookup_diffKept {k : String} {b : Obj} {path : String} :
    ∀ {seen : List String} {a : Obj}, k ∉ seen →
      Dict.lookup k (diffKept seen a b path) = (Dict.lookup k a).map fun v =>
        match Dict.lookup k b with
        | none => [⟨subPath path k, v, .null⟩]
        | some u => diffConfig v u (subPath path k)
  | seen, [], _ => rfl
  | seen, (j, v) :: a, hk => by
    simp only [diffKept, List.contains_iff_mem]
    by_cases hjk : j = k
    · subst hjk
      rw [if_neg hk, Dict.lookup_cons, if_pos rfl, Dict.lookup_cons, if_pos rfl]; rfl
    · have hk' : k ∉ j :: seen := by simp [hk, Ne.symm hjk]
      rw [Dict.lookup_cons, if_neg hjk]
      by_cases hj : j ∈ seen
      · rw [if_pos hj]; exact lookup_diffKept hk'
      · rw [if_neg hj, Dict.lookup_cons, if_neg hjk]; exact lookup_diffKept hk'

theorem lookup_diffAdded {k : String} {a : Obj} {path : String} (ha : Dict.lookup k a = none) :
    ∀ {seen : List String} {b : Obj}, k ∉ seen →
      Dict.lookup k (diffAdded seen a path b) =
        (Dict.lookup k b).map fun v => [⟨subPath path k, .null, v⟩]
  | seen, [], _ => rfl
  | seen, (j, v) :: b, hk => by
    simp only [diffAdded]
    by_cases hjk : j = k
    · subst hjk
      have hj : ¬(seen.contains j || (Dict.lookup j a).isSome) = true := by simp [hk, ha]
      rw [if_neg hj, Dict.lookup_cons, if_pos rfl, Dict.lookup_cons, if_pos rfl]; rfl
    · have hk' : k ∉ j :: seen := by simp [hk, Ne.symm hjk]
      rw [Dict.lookup_cons, if_neg hjk]
      by_cases hj : (seen.contains j || (Dict.lookup j a).isSome) = true
      · rw [if_pos hj]; exact lookup_diffAdded ha hk'
      · rw [if_neg hj, Dict.lookup_cons, if_neg hjk]; exact lookup_diffAdded ha hk'

mutual
/-- No changes means equal: the no-op gate of a commit sees what `==` sees. -/
theorem pyEq_of_diffConfig_nil : ∀ (a b : Json) (path : String),
    diffConfig a b path = [] → Json.pyEq a b = true
  | .obj a, .obj b, path, h => by
    rw [diffConfig, flatMap_sorted_eq_nil] at h
    have hkept : ∀ e ∈ diffKept [] a b path, e.2 = [] := fun e he =>
      h e (List.mem_append_left _ he)
    have hadded : ∀ e ∈ b, (Dict.lookup e.1 a).isSome = true :=
      isSome_of_diffAdded_nil [] b (fun e he => h e (List.mem_append_right _ he)) (by simp)
    simp only [Json.pyEq, Bool.and_eq_true, List.all_eq_true]
    exact ⟨pyEqObj_of_diffKept_nil [] a b path hkept, hadded⟩
  | .obj a, .null, path, h => by simp [diffConfig] at h
  | .obj a, .bool _, path, h => by simp [diffConfig] at h
  | .obj a, .int _, path, h => by simp [diffConfig] at h
  | .obj a, .float _, path, h => by simp [diffConfig] at h
  | .obj a, .str _, path, h => by simp [diffConfig] at h
  | .obj a, .arr _, path, h => by simp [diffConfig] at h
  | .null, b, path, h => by by_contra hn; simp [diffConfig, hn] at h
  | .bool _, b, path, h => by by_contra hn; simp [diffConfig, hn] at h
  | .int _, b, path, h => by by_contra hn; simp [diffConfig, hn] at h
  | .float _, b, path, h => by by_contra hn; simp [diffConfig, hn] at h
  | .str _, b, path, h => by by_contra hn; simp [diffConfig, hn] at h
  | .arr _, b, path, h => by by_contra hn; simp [diffConfig, hn] at h
theorem pyEqObj_of_diffKept_nil (seen : List String) : ∀ (a : List (String × Json)) (b : Obj)
    (path : String), (∀ e ∈ diffKept seen a b path, e.2 = []) → Json.pyEqObj seen a b = true
  | [], _, _, _ => by simp [Json.pyEqObj]
  | (k, v) :: rest, b, path, h => by
    by_cases hs : seen.contains k = true
    · simp only [diffKept, hs, if_true] at h
      simp only [Json.pyEqObj, hs, Bool.true_or, Bool.true_and]
      exact pyEqObj_of_diffKept_nil _ rest b path h
    · simp only [diffKept, hs, if_false, List.forall_mem_cons, Bool.false_eq_true] at h
      simp only [Json.pyEqObj, hs, Bool.false_or, Bool.and_eq_true]
      refine ⟨?_, pyEqObj_of_diffKept_nil _ rest b path h.2⟩
      cases hl : Dict.lookup k b with
      | none => simp [hl] at h
      | some u =>
        simp only [hl] at h
        exact pyEq_of_diffConfig_nil v u _ h.1
end

/-! ### A document and itself -/

/-- Behind entries of other keys a key shows its own value. -/
theorem lookup_append_cons {k : String} {v : Json} {pre rest : Obj} (h : k ∉ pre.keys) :
    Dict.lookup k (pre ++ (k, v) :: rest) = some v := by
  induction pre with
  | nil => simp [Dict.lookup]
  | cons e pre ih =>
    obtain ⟨j, u⟩ := e
    simp only [Dict.keys, List.map_cons, List.mem_cons, not_or] at h
    show (if j = k then some u else Dict.lookup k (pre ++ (k, v) :: rest)) = some v
    rw [if_neg (Ne.symm h.1), ih h.2]

mutual
/-- A value equals itself. -/
theorem pyEq_self : ∀ a : Json, Json.pyEq a a = true
  | .null => rfl
  | .bool a => by simp [Json.pyEq, Json.num?]
  | .int a => by simp [Json.pyEq, Json.num?]
  | .float a => by simp [Json.pyEq, Json.num?]
  | .str a => by simp
  | .arr a => by simpa [Json.pyEq] using pyEqArr_self a
  | .obj a => by
    have h := pyEqObj_self [] [] a (fun _ h => h)
    simp only [Json.pyEq, Bool.and_eq_true, List.all_eq_true]
    refine ⟨h, fun e he => ?_⟩
    rw [Option.isSome_iff_ne_none, Ne, Dict.lookup_eq_none_iff, not_not]
    exact List.mem_map_of_mem he
theorem pyEqArr_self : ∀ a : List Json, Json.pyEqArr a a = true
  | [] => rfl
  | a :: as => by simp [Json.pyEqArr, pyEq_self a, pyEqArr_self as]
theorem pyEqObj_self (seen : List String) (pre : Obj) : ∀ as : List (String × Json),
    (∀ k, k ∈ pre.keys → k ∈ seen) → Json.pyEqObj seen as (pre ++ as) = true
  | [], _ => by simp [Json.pyEqObj]
  | (k, a) :: as, h => by
    have hrest := pyEqObj_self (k :: seen) (pre ++ [(k, a)]) as (by
      intro j hj
      simp only [Dict.keys, List.map_append, List.map_cons, List.map_nil, List.mem_append,
        List.mem_singleton] at hj
      rcases hj with hj | rfl
      · exact List.mem_cons_of_mem _ (h j hj)
      · exact List.mem_cons_self)
    rw [List.append_assoc] at hrest
    simp only [Json.pyEqObj, Bool.and_eq_true, Bool.or_eq_true]
    refine ⟨?_, hrest⟩
    by_cases hk : seen.contains k = true
    · exact Or.inl hk
    · rw [lookup_append_cons fun hmem => hk (by simpa using h k hmem)]
      exact Or.inr (pyEq_self a)
end

/-- No key of a document is new to it. -/
theorem diffAdded_self (a : Obj) (path : String) : ∀ (seen : List String) (b : Obj),
    (∀ e ∈ b, (Dict.lookup e.1 a).isSome = true) → diffAdded seen a path b = []
  | _, [], _ => rfl
  | seen, (k, v) :: rest, h => by
    have hk : (Dict.lookup k a).isSome = true := h (k, v) List.mem_cons_self
    simp only [diffAdded, hk, Bool.or_true, if_true]
    exact diffAdded_self a path (k :: seen) rest fun e he => h e (List.mem_cons_of_mem _ he)

mutual
/-- A document does not differ from itself. -/
theorem diffConfig_self : ∀ (a : Json) (path : String), diffConfig a a path = []
  | .obj a, path => by
    rw [diffConfig, flatMap_sorted_eq_nil]
    intro e he
    rcases List.mem_append.mp he with he | he
    · exact diffKept_self [] [] a path (fun _ h => h) e he
    · rw [diffAdded_self a path [] a fun e he => by
        rw [Option.isSome_iff_ne_none, Ne, Dict.lookup_eq_none_iff, not_not]
        exact List.mem_map_of_mem he] at he
      cases he
  | .null, path => rfl
  | .bool a, path => by simp [diffConfig, pyEq_self]
  | .int a, path => by simp [diffConfig, pyEq_self]
  | .float a, path => by simp [diffConfig, pyEq_self]
  | .str a, path => by simp [diffConfig, pyEq_self]
  | .arr a, path => by simp [diffConfig, pyEq_self]
theorem diffKept_self (seen : List String) (pre : Obj) : ∀ (as : List (String × Json))
    (path : String), (∀ k, k ∈ pre.keys → k ∈ seen) →
      ∀ e ∈ diffKept seen as (pre ++ as) path, e.2 = []
  | [], _, _ => by simp [diffKept]
  | (k, a) :: as, path, h => by
    have hrest := diffKept_self (k :: seen) (pre ++ [(k, a)]) as path (by
      intro j hj
      simp only [Dict.keys, List.map_append, List.map_cons, List.map_nil, List.mem_append,
        List.mem_singleton] at hj
      rcases hj with hj | rfl
      · exact List.mem_cons_of_mem _ (h j hj)
      · exact List.mem_cons_self)
    rw [List.append_assoc] at hrest
    intro e he
    by_cases hk : seen.contains k = true
    · simp only [diffKept, hk, if_true] at he
      exact hrest e he
    · simp only [diffKept, hk, Bool.false_eq_true, if_false] at he
      rcases List.mem_cons.mp he with rfl | he
      · rw [lookup_append_cons fun hmem => hk (by simpa using h k hmem)]
        exact diffConfig_self a _
      · exact hrest e he
end

/-- Where candidate and running configuration are the same there is nothing to commit. -/
theorem changesOf_self (a : Obj) : changesOf a a = [] := diffConfig_self (.obj a) ""

/-! ### Redaction -/

/-- `SECRET_KEYS` -/
def secretKeys : List String :=
  ["passphrase", "password", "psk", "secret", "private_key", "preshared", "token", "totp", "hash",
   "api_key"]

/-- `_is_secret_key(key)` -/
def isSecretKey (key : String) : Bool := secretKeys.any fun s => isInfixOf s (lower key)

mutual
/-- `_redact_value(value)` -/
def redactValue : Json → Json
  | .obj kvs => .obj (redactEntries kvs)
  | .arr xs => .arr (redactList xs)
  | v => v
def redactEntries : List (String × Json) → List (String × Json)
  | [] => []
  | (k, v) :: rest => (k, if isSecretKey k then .str "***" else redactValue v) :: redactEntries rest
def redactList : List Json → List Json
  | [] => []
  | v :: rest => redactValue v :: redactList rest
end

/-- `path.rsplit(".", 1)[-1]` -/
def leafOf (path : String) : String := ((split '.' path).getLast?).getD path

/-- `_redact(changes)` -/
def redact (changes : List Change) : List Change :=
  changes.map fun c =>
    if isSecretKey (leafOf c.path) || isSecretKey c.path then
      ⟨c.path, .str "***", .str "***"⟩
    else ⟨c.path, redactValue c.old, redactValue c.new⟩

/-- The head of a path. -/
def headOf (path : String) : String := ((split '.' path).head?).getD path

/-- `_summarise(changes)` -/
def summarise (changes : List Change) : String :=
  if changes.isEmpty then "no changes"
  else
    let heads := ((changes.map fun c => headOf c.path).dedup).insertionSort (· ≤ ·)
    ofNat changes.length ++ " change(s) in " ++ join ", " (heads.take 5)

end Sbegw.Configd
