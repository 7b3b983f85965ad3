import Sbegw.Configd.Failure
import Sbegw.Authd.Accounts
import Sbegw.Api.Frames

/-!
# Roles through a request

What a request makes of the roles of the users.  A commit takes the roles of the candidate into
operation or leaves those of the running configuration; the changes that touch accounts change one
role each, and all other ones keep the roles they find.
-/

namespace Sbegw.Api

open Configd (Draft Store Docs Succeeds Fails CommitSettles CommitFails)
open Authd (roleIn account)

/-- The role of every user, as a document gives it. -/
abbrev Roles : Type := String → Option Json

/-! ### Commits -/

section

variable {env : Configd.Env} {args : Configd.CommitArgs} {d : Draft} {s : Store} {ds : Docs}

theorem roles_validate {caps : Schema.Capabilities} {cfg t : Obj} {w : List String}
    (h : Schema.validate caps cfg = .ok (t, w)) : roleIn t = roleIn cfg :=
  funext fun username => Authd.roleIn_validate h username

theorem roles_of_applies {new : Obj} (h : Configd.Applies env args s new) :
    roleIn new = roleIn s.candidate := by
  obtain ⟨w, hv⟩ := h.valid
  exact roles_validate hv

/-- A commit that returns leaves the roles of the candidate there. -/
theorem roles_of_commitSettles (h : CommitSettles env args s ds) :
    (roleIn ds.running = roleIn s.running ∨ roleIn ds.running = roleIn s.candidate) ∧
      roleIn ds.candidate = roleIn s.candidate := by
  cases h with
  | idle _ _ _ => exact ⟨Or.inl rfl, rfl⟩
  | installed happ _ _ _ => exact ⟨Or.inr (roles_of_applies happ), roles_of_applies happ⟩

theorem roles_of_commitFails {guarded : Bool} (h : CommitFails guarded env args s ds) :
    (roleIn ds.running = roleIn s.running ∨ roleIn ds.running = roleIn s.candidate) ∧
      (roleIn ds.candidate = roleIn s.running ∨ roleIn ds.candidate = roleIn s.candidate) := by
  have hrefused : roleIn (Configd.refusedCandidate guarded env s) = roleIn s.running ∨
      roleIn (Configd.refusedCandidate guarded env s) = roleIn s.candidate := by
    unfold Configd.refusedCandidate
    split
    · exact Or.inl rfl
    · exact Or.inr rfl
  cases h with
  | locked _ =>
    refine ⟨Or.inl rfl, ?_⟩
    cases guarded with
    | false => exact Or.inr rfl
    | true => exact Or.inl rfl
  | invalid _ _ _ => exact ⟨Or.inl rfl, hrefused⟩
  | @broken e _ _ _ _ =>
    refine ⟨Or.inl rfl, ?_⟩
    cases guarded <;> cases e <;> first | exact Or.inr rfl | exact Or.inl rfl
  | preflight _ _ _ _ => exact ⟨Or.inl rfl, hrefused⟩
  | checkpoint _ _ _ _ _ => exact ⟨Or.inl rfl, Or.inr rfl⟩
  | backedOut _ _ => exact ⟨Or.inl rfl, Or.inl rfl⟩
  | unwritten happ _ _ => exact ⟨Or.inr (roles_of_applies happ), Or.inr rfl⟩
  | unrecorded happ _ _ _ =>
    exact ⟨Or.inr (roles_of_applies happ), Or.inr (roles_of_applies happ)⟩

theorem roles_of_stages {t : Obj} (h : Configd.Stages env d s t) :
    ∃ trial, d.mutate s.candidate = .ok trial ∧ roleIn t = roleIn trial := by
  obtain ⟨trial, w, hm, hv⟩ := h
  exact ⟨trial, hm, roles_validate hv⟩

/-- A change that settles leaves its roles in the candidate, and in the running configuration
unless that stays as it is. -/
theorem roles_of_settles (h : Succeeds env d s ds) :
    ∃ trial, d.mutate s.candidate = .ok trial ∧ roleIn ds.candidate = roleIn trial ∧
      (roleIn ds.running = roleIn s.running ∨ roleIn ds.running = roleIn trial) := by
  obtain ⟨hst, -, hc⟩ := h
  obtain ⟨trial, hm, ht⟩ := roles_of_stages hst
  obtain ⟨hrun, hcand⟩ := roles_of_commitSettles hc
  refine ⟨trial, hm, hcand.trans ht, ?_⟩
  exact hrun.imp_right fun h => h.trans ht

/-- A change that fails leaves roles that were there, or its own. -/
theorem roles_of_fails {guarded : Bool} (h : Fails guarded env d s ds) :
    (roleIn ds.running = roleIn s.running ∨
      ∃ trial, d.mutate s.candidate = .ok trial ∧ roleIn ds.running = roleIn trial) ∧
    (roleIn ds.candidate = roleIn s.running ∨ roleIn ds.candidate = roleIn s.candidate ∨
      ∃ trial, d.mutate s.candidate = .ok trial ∧ roleIn ds.candidate = roleIn trial) := by
  cases h with
  | refused _ => exact ⟨Or.inl rfl, Or.inr (Or.inl rfl)⟩
  | unsaved hst _ =>
    obtain ⟨trial, hm, ht⟩ := roles_of_stages hst
    exact ⟨Or.inl rfl, Or.inr (Or.inr ⟨trial, hm, ht⟩)⟩
  | committing hst _ hc =>
    obtain ⟨trial, hm, ht⟩ := roles_of_stages hst
    obtain ⟨hrun, hcand⟩ := roles_of_commitFails hc
    refine ⟨hrun.imp_right fun h => ⟨trial, hm, h.trans ht⟩, ?_⟩
    rcases hcand with hcand | hcand
    · exact Or.inl hcand
    · exact Or.inr (Or.inr ⟨trial, hm, hcand.trans ht⟩)

end

/-! ### `_commit` and its callers -/

section

variable {w : World} {n : ℕ} {d : Draft} {s : Store} {ds : Docs}

/-- `_commit` of a change that settles. -/
theorem commit_settles (h : Succeeds w.env d s ds) : ∃ r t, commit w n d s = (.ok r, t) ∧
    t.docs = ds ∧ (d.args.confirmRequired = some false → t.pending = s.pending) := by
  obtain ⟨t, warnings, -, hst, hc⟩ := h.stage
  obtain ⟨r, u, hu, hdocs, hpend⟩ := @Configd.commit_settles w.env d.args (w.txid n) _ ds hc
  unfold commit
  rw [hst]
  dsimp only
  rw [hu]
  exact ⟨_, u, rfl, hdocs, hpend⟩

/-- `_commit` of a change that fails. -/
theorem commit_fails (h : Fails true w.env d s ds) : ∃ e t, commit w n d s = (.error e, t) ∧
    t.docs = ds ∧ (d.args.confirmRequired = some false → t.pending = s.pending) := by
  unfold commit
  rcases h.stage with ⟨e, t, hst, hdocs, hpend⟩ | ⟨t, warnings, hst, hc⟩
  · rw [hst]
    exact ⟨_, t, rfl, hdocs, fun _ => hpend⟩
  · obtain ⟨e, u, hu, hdocs, hpend⟩ := @Configd.commit_fails w.env d.args (w.txid n) _ true ds hc
    rw [hst]
    dsimp only
    rw [hu]
    cases e with
    | commit message stage txid details => exact ⟨_, _, rfl, hdocs, hpend⟩
    | _ => exact ⟨_, _, rfl, hdocs, hpend⟩

/-- What a change leaves of the roles: those of before, or those the change makes. -/
structure Left (d : Draft) (s t : Store) : Prop where
  running : roleIn t.running = roleIn s.running ∨
    ∃ trial, d.mutate s.candidate = .ok trial ∧ roleIn t.running = roleIn trial
  candidate : roleIn t.candidate = roleIn s.running ∨ roleIn t.candidate = roleIn s.candidate ∨
    ∃ trial, d.mutate s.candidate = .ok trial ∧ roleIn t.candidate = roleIn trial

theorem Left.of_settles {t : Store} (h : Succeeds w.env d s ds) (ht : t.docs = ds) : Left d s t := by
  obtain ⟨trial, hm, hcand, hrun⟩ := roles_of_settles h
  subst ht
  exact ⟨hrun.imp_right fun h => ⟨trial, hm, h⟩, Or.inr (Or.inr ⟨trial, hm, hcand⟩)⟩

theorem Left.of_fails {guarded : Bool} {t : Store} (h : Fails guarded w.env d s ds)
    (ht : t.docs = ds) : Left d s t := by
  obtain ⟨hrun, hcand⟩ := roles_of_fails h
  subst ht
  exact ⟨hrun, hcand⟩

/-- `stage` and `commit` without a guard. -/
theorem submit_left (txid : String) (d : Draft) (s : Store) :
    Left d s (Configd.submit w.env txid d s).2 ∧
      ((∃ r, (Configd.submit w.env txid d s).1 = .ok r) → ∃ trial, d.mutate s.candidate = .ok trial ∧
        roleIn (Configd.submit w.env txid d s).2.candidate = roleIn trial) := by
  rcases Configd.draft_ends false w.env d s with ⟨ds, h⟩ | ⟨ds, h⟩
  · obtain ⟨r, t, ht, hdocs, -⟩ := @Configd.submit_settles w.env d txid s ds h
    rw [ht]
    refine ⟨Left.of_settles h hdocs, fun _ => ?_⟩
    obtain ⟨trial, hm, hcand, -⟩ := roles_of_settles h
    subst hdocs
    exact ⟨trial, hm, hcand⟩
  · obtain ⟨e, t, ht, hdocs, -⟩ := @Configd.submit_fails w.env d txid s ds h
    rw [ht]
    exact ⟨Left.of_fails h hdocs, fun ⟨r, hr⟩ => by cases hr⟩

/-- `_commit`. -/
theorem commit_left (n : ℕ) (d : Draft) (s : Store) : Left d s (commit w n d s).2 := by
  rcases Configd.draft_ends true w.env d s with ⟨ds, h⟩ | ⟨ds, h⟩
  · obtain ⟨r, t, ht, hdocs, -⟩ := @commit_settles w n d s ds h
    rw [ht]
    exact Left.of_settles h hdocs
  · obtain ⟨e, t, ht, hdocs, -⟩ := @commit_fails w n d s ds h
    rw [ht]
    exact Left.of_fails h hdocs

end

/-! ### Changes of accounts -/

section

variable {cfg cfg' users : Obj} {username : String}

/-- The roles of a table of users. -/
def rolesOf (users : Obj) : Roles := fun username =>
  match Dict.lookup username users with
  | some (.obj user) => some ((Dict.lookup "role" user).getD (.str "read-only"))
  | _ => none

theorem roleIn_of_usersOf (h : Authd.usersOf cfg = .obj users) : roleIn cfg = rolesOf users := by
  funext username
  unfold roleIn Authd.recordOf rolesOf
  rw [h]
  show Option.map _ (match Dict.lookup username users with | some (.obj user) => some user | _ => none) = _
  cases Dict.lookup username users with
  | none => rfl
  | some v => cases v <;> rfl

/-- The roles depend on the users alone. -/
theorem roles_of_lookup (h : Dict.lookup "users" cfg' = Dict.lookup "users" cfg) :
    roleIn cfg' = roleIn cfg := by
  funext username
  unfold roleIn Authd.recordOf Authd.usersOf
  rw [h]

theorem Writes.roles {keys : List String} {m : Configd.Mutation} (h : Writes keys m)
    (hkeys : "users" ∉ keys) (hm : m cfg = .ok cfg') : roleIn cfg' = roleIn cfg :=
  roles_of_lookup (h cfg cfg' hm "users" hkeys)

theorem rolesOf_set (user : Obj) : rolesOf (Dict.set username (.obj user) users) =
    Function.update (rolesOf users) username
      (some ((Dict.lookup "role" user).getD (.str "read-only"))) := by
  funext n
  unfold rolesOf
  by_cases hn : n = username
  · subst hn
    simp
  · rw [Dict.lookup_set_of_ne hn, Function.update_of_ne hn]

theorem rolesOf_erase :
    rolesOf (Dict.erase username users) = Function.update (rolesOf users) username none := by
  funext n
  unfold rolesOf
  by_cases hn : n = username
  · subst hn
    simp
  · rw [Dict.lookup_erase_of_ne hn, Function.update_of_ne hn]

/-- A change inside the users, as a change of the table. -/
theorem inside_users {bad : Exn} {f : Obj → Except Exn Obj}
    (h : Configd.inside "users" bad f cfg = .ok cfg') : ∃ users users',
      roleIn cfg = rolesOf users ∧ f users = .ok users' ∧ roleIn cfg' = rolesOf users' := by
  unfold Configd.inside at h
  split at h
  · next users hu =>
    cases hf : f users with
    | error e => simp [hf, Except.map] at h
    | ok users' =>
      simp only [hf, Except.map, Except.ok.injEq] at h
      refine ⟨users, users', roleIn_of_usersOf ?_, hf, ?_⟩
      · simp [Authd.usersOf, hu]
      · rw [← h]
        exact roleIn_of_usersOf (by simp [Authd.usersOf])
  · cases h
  · cases h

/-- A change of a record that keeps its role, or sets it. -/
theorem inside_record {bad : Exn} {f : Obj → Except Exn Obj} {users' : Obj}
    (h : Configd.inside username bad f users = .ok users') : ∃ user user', f user = .ok user' ∧
      rolesOf users username = some ((Dict.lookup "role" user).getD (.str "read-only")) ∧
      rolesOf users' = Function.update (rolesOf users) username
        (some ((Dict.lookup "role" user').getD (.str "read-only"))) := by
  unfold Configd.inside at h
  split at h
  · next user hu =>
    cases hf : f user with
    | error e => simp [hf, Except.map] at h
    | ok user' =>
      simp only [hf, Except.map, Except.ok.injEq] at h
      refine ⟨user, user', hf, ?_, ?_⟩
      · simp [rolesOf, hu]
      · rw [← h, rolesOf_set]
  · cases h
  · cases h

/-- A change of another field of a record keeps all roles. -/
theorem roles_of_field {bad bad' : Exn} {field : String} (hfield : field ≠ "role") (v : Json)
    (h : Configd.inside "users" bad (Configd.inside username bad' fun user =>
      pure (Dict.set field v user)) cfg = .ok cfg') : roleIn cfg' = roleIn cfg := by
  obtain ⟨users, users', hcfg, hf, hcfg'⟩ := inside_users h
  obtain ⟨user, user', hu, hrole, hroles⟩ := inside_record hf
  have hu := Except.ok.inj hu
  rw [hcfg, hcfg', hroles, ← hu, Dict.lookup_set_of_ne hfield.symm, ← hrole]
  exact Function.update_eq_self _ _

variable {env : Authd.Env} {actor password : String} {pw : Json} {d : Draft}

theorem setPassword_roles (hd : Authd.setPassword env username pw actor = .ok d)
    (h : d.mutate cfg = .ok cfg') : roleIn cfg' = roleIn cfg := by
  unfold Authd.setPassword at hd
  cases hv : Authd.validatePassword env pw with
  | error e => simp [hv] at hd
  | ok password =>
    simp only [hv, ok_bind] at hd
    have hd := Except.ok.inj hd
    subst hd
    dsimp only at h
    generalize Authd.hasUser (Authd.usersOf cfg) username = x at h
    cases x with
    | error e => cases h
    | ok known =>
      cases known with
      | false => cases h
      | true => exact roles_of_field (by decide) _ h

theorem enableTotp_roles (h : (Authd.enableTotp env username actor).mutate cfg = .ok cfg') :
    roleIn cfg' = roleIn cfg :=
  roles_of_field (by decide) _ h

theorem changeRole_roles {role : Json} {ctx : Ctx}
    (h : (changeRole username role ctx).mutate cfg = .ok cfg') :
    roleIn cfg' = Function.update (roleIn cfg) username (some role) := by
  obtain ⟨users, users', hcfg, hf, hcfg'⟩ := inside_users h
  unfold Configd.insideKnown at hf
  split at hf
  · obtain ⟨user, user', hu, -, hroles⟩ := inside_record hf
    have hu := Except.ok.inj hu
    rw [hcfg, hcfg', hroles, ← hu, Dict.lookup_set_self]
    rfl
  · cases hf

theorem rolesOf_newUser (role : String) :
    rolesOf (Dict.set username (Authd.newUser env role password) users) =
      Function.update (rolesOf users) username (some (.str role)) :=
  rolesOf_set _

theorem createUser_roles {running : Obj} {role : Json}
    (hd : Authd.createUser env running username pw role actor = .ok d)
    (h : d.mutate cfg = .ok cfg') :
    Authd.hasUser (Authd.usersOf running) username = .ok false ∧
      ∃ r, role = .str r ∧ roleIn cfg' = Function.update (roleIn cfg) username (some (.str r)) := by
  have hrest : ∀ r, (do
      let password ← Authd.validatePassword env pw
      if ← Authd.hasUser (Authd.usersOf running) username then
        .error (.value ("user '" ++ username ++ "' already exists"))
      return {
        mutate := Configd.inside "users" .type fun users =>
          pure (Dict.set username (Authd.newUser env r password) users)
        args := Authd.accountArgs actor ("create user " ++ username) } : Except Exn Draft) = .ok d →
      Authd.hasUser (Authd.usersOf running) username = .ok false ∧
        roleIn cfg' = Function.update (roleIn cfg) username (some (.str r)) := by
    intro r hd
    obtain ⟨password, -, hd⟩ := except_bind_eq_ok.mp hd
    obtain ⟨known, hknown, hd⟩ := except_bind_eq_ok.mp hd
    cases known with
    | true => cases hd
    | false =>
      have hd := Except.ok.inj hd
      subst hd
      refine ⟨hknown, ?_⟩
      obtain ⟨users, users', hcfg, hf, hcfg'⟩ := inside_users h
      have hf := Except.ok.inj hf
      rw [hcfg, hcfg', ← hf, rolesOf_newUser]
  unfold Authd.createUser at hd
  cases role with
  | str r =>
    dsimp only at hd
    split at hd
    · obtain ⟨hknown, hroles⟩ := hrest r hd
      exact ⟨hknown, r, rfl, hroles⟩
    · cases hd
  | _ => cases hd

theorem deleteUser_roles {running : Obj} (hd : Authd.deleteUser running username actor = .ok d)
    (h : d.mutate cfg = .ok cfg') : roleIn cfg' = Function.update (roleIn cfg) username none := by
  unfold Authd.deleteUser at hd
  obtain ⟨known, -, hd⟩ := except_bind_eq_ok.mp hd
  cases known with
  | false => cases hd
  | true =>
    cases hu : Authd.usersOf running with
    | obj users =>
      rw [hu] at hd
      obtain ⟨all, -, hd⟩ := except_bind_eq_ok.mp hd
      split at hd
      · cases hd
      · have hd := Except.ok.inj hd
        subst hd
        obtain ⟨users, users', hcfg, hf, hcfg'⟩ := inside_users h
        have hf := Except.ok.inj hf
        rw [hcfg, hcfg', ← hf, rolesOf_erase]
    | _ =>
      rw [hu] at hd
      cases hd

theorem ownerDraft_roles (h : (Authd.ownerDraft env username password).mutate cfg = .ok cfg') :
    roleIn cfg' = Function.update (roleIn cfg) username (some (.str "owner")) := by
  unfold Authd.ownerDraft at h
  dsimp only at h
  obtain ⟨t, ht, hsystem⟩ := except_bind_eq_ok.mp h
  obtain ⟨users, users', hcfg, hf, htroles⟩ := inside_users ht
  have hf := Except.ok.inj hf
  have hframe : roleIn cfg' = roleIn t :=
    @Writes.roles t cfg' ["system"] _ (.inside (by simp) _ _) (by simp) hsystem
  rw [hframe, htroles, hcfg, ← hf, rolesOf_newUser]

end

end Sbegw.Api
