import Sbegw.Schema.Accepted
import Sbegw.Authd

/-!
# The accounts of a document

The users and their roles as a document gives them.  A validation fills in the role of a user that
has none, and keeps every other role and every name.
-/

namespace Sbegw

namespace Schema

open EditM

/-- A record before and after its check. -/
def Filled (e e' : String × Json) : Prop :=
  e.1 = e'.1 ∧ ∃ user, e.2 = .obj user ∧
    e'.2 = .obj (Dict.setdefault "role" (.str "read-only") user)

theorem validateUser_eq_ok {username : String} {user user' : Obj} {w w' : List String} {u v : Unit}
    (h : validateUser u username user w = .ok (v, user', w')) :
    user' = Dict.setdefault "role" (.str "read-only") user := by
  unfold validateUser at h
  obtain ⟨x, user₁, w₁, hrole, h⟩ := bind_eq_ok.mp h
  obtain ⟨y, user₂, w₂, hget, h⟩ := bind_eq_ok.mp h
  have h2 := Quiet.get "password_hash" _ _ _ _ _ hget
  have h3 := Quiet.raiseIf _ _ _ _ _ _ _ h
  unfold field at hrole
  obtain ⟨z, user₃, w₃, hset, hcheck⟩ := bind_eq_ok.mp hrole
  rw [setdefault_eq_ok] at hset
  have h4 := Quiet.lift _ _ _ _ _ _ hcheck
  rw [h3, h2, h4, hset.2.1]

theorem eachEntry_filled {bad : String → Exn} : ∀ (users : Obj) {users' : Obj}
    {w w' : List String} {u v : Unit},
    eachEntry bad validateUser u users w = .ok (v, users', w') → List.Forall₂ Filled users users'
  | [], users', w, w', u, v, h => by
    simp only [eachEntry, Except.ok.injEq, Prod.mk.injEq] at h
    rw [← h.2.1]
    exact .nil
  | (k, x) :: users, users', w, w', u, v, h => by
    cases x with
    | obj o =>
      obtain ⟨s₁, o', w₁, hf, t₂, rest, w₂, hrest, -, rfl, -⟩ := eachEntry_cons_eq_ok.mp h
      refine .cons ⟨rfl, o, rfl, ?_⟩ (eachEntry_filled users hrest)
      rw [validateUser_eq_ok hf]
    | _ => simp [eachEntry] at h

/-- **Validation keeps the accounts**, up to roles that are filled in. -/
theorem validate_users {caps : Capabilities} {cfg t : Obj} {w : List String}
    (h : validate caps cfg = .ok (t, w)) : ∃ users users',
      (Dict.lookup "users" cfg).getD (.obj []) = .obj users ∧
        Dict.lookup "users" t = some (.obj users') ∧ List.Forall₂ Filled users users' := by
  obtain ⟨_, users, users', _, _, hold, hcheck, hnew, -, -⟩ :=
    section_of_validate h [_, _, _, _, _, _, _, _, _, _, _, _] _ [] rfl
  exact ⟨users, users', hold, hnew, eachEntry_filled users hcheck⟩

end Schema

namespace Authd

open Configd (Draft inside)

/-! ### Accounts -/

/-- The record of a user, whatever it is. -/
def account (cfg : Obj) (username : String) : Option Json := (usersOf cfg).get? username

/-- `users.get(username)` -/
def recordOf (running : Obj) (username : String) : Option Obj :=
  match (usersOf running).get? username with
  | some (.obj user) => some user
  | _ => none

/-- The role a document gives a user: `users[username].get("role", "read-only")`. -/
def roleIn (cfg : Obj) (username : String) : Option Json :=
  (recordOf cfg username).map fun user => (Dict.lookup "role" user).getD (.str "read-only")

theorem account_of_lookup {cfg users : Obj} (h : Dict.lookup "users" cfg = some (.obj users))
    (username : String) : account cfg username = Dict.lookup username users := by
  simp [account, usersOf, h]

theorem account_of_usersOf {cfg users : Obj} (h : usersOf cfg = .obj users) (username : String) :
    account cfg username = Dict.lookup username users := by
  rw [account, h]
  rfl

theorem roleIn_eq_some {cfg : Obj} {username : String} {role : Json} :
    roleIn cfg username = some role ↔ ∃ user, account cfg username = some (.obj user) ∧
      (Dict.lookup "role" user).getD (.str "read-only") = role := by
  unfold roleIn recordOf account
  cases h : (usersOf cfg).get? username with
  | none => simp
  | some v => cases v <;> simp

/-- A document in which `needs_setup()` holds has no account. -/
theorem account_of_needsSetup {cfg : Obj} (h : needsSetup cfg = true) (username : String) :
    account cfg username = none := by
  unfold needsSetup at h
  unfold account usersOf Json.get?
  cases hl : Dict.lookup "users" cfg with
  | none => rfl
  | some v =>
    cases v with
    | obj users =>
      have hnil : users = [] := by simpa [hl, Json.truthy] using h
      subst hnil
      rfl
    | _ => rfl

section

variable {users users' : Obj} (h : List.Forall₂ Schema.Filled users users')

include h

theorem lookup_filled (username : String) :
    (Dict.lookup username users = none ∧ Dict.lookup username users' = none) ∨
    ∃ user, Dict.lookup username users = some (.obj user) ∧ Dict.lookup username users' =
      some (.obj (Dict.setdefault "role" (.str "read-only") user)) := by
  induction h with
  | nil => exact Or.inl ⟨rfl, rfl⟩
  | @cons e e' users users' he _ ih =>
    obtain ⟨name, value⟩ := e
    obtain ⟨name', value'⟩ := e'
    obtain ⟨hname, user, hvalue, hvalue'⟩ := he
    dsimp only at hname hvalue hvalue'
    subst hname hvalue hvalue'
    by_cases hn : name = username
    · refine Or.inr ⟨user, ?_, ?_⟩
      · rw [Dict.lookup_cons, if_pos hn]
      · rw [Dict.lookup_cons, if_pos hn]
    · rw [Dict.lookup_cons, Dict.lookup_cons, if_neg hn, if_neg hn]
      exact ih

end

section

variable {caps : Schema.Capabilities} {cfg t : Obj} {w : List String}

/-- A validated document has the accounts it had before. -/
theorem account_validate (h : Schema.validate caps cfg = .ok (t, w)) (username : String) :
    (account cfg username = none ∧ account t username = none) ∨
    ∃ user, account cfg username = some (.obj user) ∧ account t username =
      some (.obj (Dict.setdefault "role" (.str "read-only") user)) := by
  obtain ⟨users, users', hcfg, ht, hfilled⟩ := Schema.validate_users h
  rw [account_of_usersOf hcfg, account_of_lookup ht]
  exact lookup_filled hfilled username

theorem account_isSome_validate (h : Schema.validate caps cfg = .ok (t, w)) (username : String) :
    (account t username).isSome = (account cfg username).isSome := by
  rcases account_validate h username with ⟨h1, h2⟩ | ⟨user, h1, h2⟩
  · rw [h1, h2]
  · rw [h1, h2]
    rfl

/-- **Validation keeps the roles.** -/
theorem roleIn_validate (h : Schema.validate caps cfg = .ok (t, w)) (username : String) :
    roleIn t username = roleIn cfg username := by
  rcases account_validate h username with ⟨h1, h2⟩ | ⟨user, h1, h2⟩
  · have hnone : ∀ {cfg : Obj}, account cfg username = none → roleIn cfg username = none := by
      intro cfg hn
      unfold roleIn recordOf
      rw [show (usersOf cfg).get? username = none from hn]
      rfl
    rw [hnone h1, hnone h2]
  · have hcfg : roleIn cfg username = some ((Dict.lookup "role" user).getD (.str "read-only")) :=
      roleIn_eq_some.mpr ⟨user, h1, rfl⟩
    have ht : roleIn t username = some ((Dict.lookup "role" user).getD (.str "read-only")) := by
      refine roleIn_eq_some.mpr ⟨_, h2, ?_⟩
      rw [Dict.lookup_setdefault_self]
      rfl
    rw [hcfg, ht]

end

/-! ### The first owner -/

/-- The change of `create_owner`. -/
def ownerDraft (env : Env) (username password : String) : Draft where
  mutate := fun cfg => do
    let cfg ← inside "users" .type
      (fun users => pure (Dict.set username (newUser env "owner" password) users)) cfg
    inside "system" .type (fun sys => pure (Dict.set "setup_complete" (.bool true) sys)) cfg
  args := accountArgs username "initial setup"

theorem createOwner_eq (env : Env) (running : Obj) (username : String) (password : Json) :
    createOwner env running username password =
      (if !needsSetup running then
          .error (.permission "initial setup has already been completed")
        else (validatePassword env password).map fun p => ownerDraft env username p) := by
  unfold createOwner
  cases needsSetup running with
  | false => rfl
  | true => cases validatePassword env password <;> rfl

/-- A password that passes is text. -/
theorem validatePassword_eq_ok {env : Env} {password : Json} {p : String}
    (h : validatePassword env password = .ok p) : password = .str p := by
  unfold validatePassword at h
  cases password with
  | str s =>
    dsimp only at h
    split at h
    · cases h
    · split at h
      · cases h
      · rw [Except.ok.inj h]
  | _ => cases h

theorem account_ownerDraft {env : Env} {username password : String} {cfg cfg' : Obj}
    (h : (ownerDraft env username password).mutate cfg = .ok cfg') (name : String) :
    account cfg' name =
      if name = username then some (newUser env "owner" password) else account cfg name := by
  unfold ownerDraft inside at h
  dsimp only at h
  cases hu : Dict.lookup "users" cfg with
  | none => simp [hu] at h
  | some v =>
    cases v with
    | obj users =>
      simp only [hu, pure, Except.pure, Except.map, ok_bind] at h
      have hsystem : ∀ v : Json, Dict.lookup "users" (Dict.set "system" v (Dict.set "users" (.obj
          (Dict.set username (newUser env "owner" password) users)) cfg)) = some (.obj
          (Dict.set username (newUser env "owner" password) users)) := by
        intro v
        rw [Dict.lookup_set_of_ne (by decide), Dict.lookup_set_self]
      rw [account_of_lookup hu]
      split at h
      · have h := Except.ok.inj h
        subst h
        rw [account_of_lookup (hsystem _), Dict.lookup_set]
      · cases h
      · cases h
    | _ => simp [hu] at h

end Authd

end Sbegw
