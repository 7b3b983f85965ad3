import Sbegw.Api.System

/-!
# There is always an owner

Of the paths that write the users only the deletion of an account looks for the last owner.  The
others keep an owner where the users they bring into operation have one.
-/

namespace Sbegw.Api

open Machine
open Configd (Draft Store)
open Authd (roleIn account)

/-- Some user has the role `owner`. -/
def HasOwner (roles : Roles) : Prop := ∃ username, roles username = some (.str "owner")

/-- Some other user has. -/
def HasOtherOwner (username : String) (roles : Roles) : Prop :=
  ∃ other, other ≠ username ∧ roles other = some (.str "owner")

theorem HasOtherOwner.update {username : String} {roles : Roles} (h : HasOtherOwner username roles)
    (role : Option Json) : HasOwner (Function.update roles username role) := by
  obtain ⟨other, hne, hother⟩ := h
  exact ⟨other, by rw [Function.update_of_ne hne, hother]⟩

theorem hasOwner_update (username : String) (roles : Roles) :
    HasOwner (Function.update roles username (some (.str "owner"))) :=
  ⟨username, Function.update_self _ _ _⟩

/-! ### The guard of `delete_user` -/

theorem mem_owners : ∀ {users : Obj} {all : List String}, Authd.owners users = .ok all →
    all.Sublist users.keys ∧ ∀ u ∈ all, ∃ user, (u, Json.obj user) ∈ users ∧
      Dict.lookup "role" user = some (.str "owner")
  | [], all, h => by
    obtain rfl := Except.ok.inj h
    exact ⟨List.Sublist.refl _, fun u hu => by cases hu⟩
  | (u, v) :: rest, all, h => by
    unfold Authd.owners at h
    cases v with
    | obj user =>
      dsimp only at h
      split at h
      · next hrole =>
        have hrole : Dict.lookup "role" user = some (.str "owner") := by
          cases hl : Dict.lookup "role" user with
          | none => simp [hl] at hrole
          | some r => simpa [hl] using hrole
        cases hr : Authd.owners rest with
        | error e => simp [hr, Except.map] at h
        | ok others =>
          simp only [hr, Except.map] at h
          obtain rfl := Except.ok.inj h
          obtain ⟨hsub, hmem⟩ := mem_owners hr
          refine ⟨hsub.cons_cons u, fun u' hu' => ?_⟩
          rcases List.mem_cons.mp hu' with rfl | hu'
          · exact ⟨user, List.mem_cons_self, hrole⟩
          · obtain ⟨user', hin, hrole'⟩ := hmem u' hu'
            exact ⟨user', List.mem_cons_of_mem _ hin, hrole'⟩
      · obtain ⟨hsub, hmem⟩ := mem_owners h
        refine ⟨hsub.cons u, fun u' hu' => ?_⟩
        obtain ⟨user', hin, hrole'⟩ := hmem u' hu'
        exact ⟨user', List.mem_cons_of_mem _ hin, hrole'⟩
    | _ => cases h

theorem exists_ne_of_two {names : List String} (hd : names.Nodup) (h2 : 1 < names.length)
    (name : String) : ∃ other ∈ names, other ≠ name := by
  match names, hd, h2 with
  | a :: b :: rest, hd, _ =>
    have hab : a ≠ b := by
      rintro rfl
      simp at hd
    by_cases ha : a = name
    · refine ⟨b, by simp, ?_⟩
      rintro rfl
      exact hab ha
    · exact ⟨a, by simp, ha⟩

/-- Where `delete_user` goes ahead, another user is an owner. -/
theorem otherOwner_of_deleteUser {running users : Obj} {name actor : String} {d : Draft}
    (hd : Authd.deleteUser running name actor = .ok d) (hu : Authd.usersOf running = .obj users)
    (hnodup : (Dict.keys users).Nodup) (howner : HasOwner (roleIn running)) :
    HasOtherOwner name (roleIn running) := by
  unfold Authd.deleteUser at hd
  obtain ⟨known, -, hd⟩ := except_bind_eq_ok.mp hd
  cases known with
  | false => cases hd
  | true =>
    rw [hu] at hd
    obtain ⟨all, hall, hd⟩ := except_bind_eq_ok.mp hd
    split at hd
    · cases hd
    · next hguard =>
      obtain ⟨owner, howner⟩ := howner
      by_cases hname : owner = name
      · subst hname
        rw [roleIn_of_usersOf hu] at howner ⊢
        have hrole : ((Dict.lookup owner users).getD .null).getD "role" .null = .str "owner" := by
          unfold rolesOf at howner
          cases hl : Dict.lookup owner users with
          | none => simp [hl] at howner
          | some v =>
            cases v with
            | obj user =>
              simp only [hl] at howner
              cases hr : Dict.lookup "role" user with
              | none => simp [hr] at howner
              | some r =>
                simp only [hr, Option.getD_some, Option.some.injEq] at howner
                show (Dict.lookup "role" user).getD .null = _
                rw [hr, howner]
                rfl
            | _ => simp [hl] at howner
        have htwo : 1 < all.length := by
          by_contra hle
          exact hguard ⟨hrole, by omega⟩
        obtain ⟨hsub, hmem⟩ := mem_owners hall
        obtain ⟨other, hin, hne⟩ := exists_ne_of_two (hnodup.sublist hsub) htwo owner
        obtain ⟨user, huser, hr⟩ := hmem other hin
        refine ⟨other, hne, ?_⟩
        unfold rolesOf
        rw [Dict.lookup_of_mem hnodup huser]
        show some ((Dict.lookup "role" user).getD (.str "read-only")) = _
        rw [hr]
        rfl
      · exact ⟨owner, hname, howner⟩

/-! ### Setup makes an owner -/

/-- Documents without a difference give the same keys. -/
theorem lookup_of_pyEqObj {k : String} {b : Obj} {v : Json} : ∀ {seen : List String} {a : Obj},
    Json.pyEqObj seen a b = true → k ∉ seen → Dict.lookup k a = some v →
    ∃ v', Dict.lookup k b = some v' ∧ Json.pyEq v v' = true
  | seen, [], _, _, hl => by cases hl
  | seen, (k', u) :: rest, h, hk, hl => by
    unfold Json.pyEqObj at h
    obtain ⟨hhead, htail⟩ := Bool.and_eq_true_iff.mp h
    rw [Dict.lookup_cons] at hl
    split at hl
    · next heq =>
      subst heq
      obtain rfl := Option.some.inj hl
      rcases Bool.or_eq_true_iff.mp hhead with hseen | hvalue
      · exact absurd (List.elem_iff.mp hseen) hk
      · cases hb : Dict.lookup k' b with
        | none => simp [hb] at hvalue
        | some v' => exact ⟨v', rfl, by simpa [hb] using hvalue⟩
    · next hne =>
      refine lookup_of_pyEqObj htail ?_ hl
      intro hmem
      rcases List.mem_cons.mp hmem with h' | h'
      · exact hne h'.symm
      · exact hk h'

/-- A candidate that does not differ from a document without users has none either. -/
theorem account_of_unchanged {running candidate : Obj}
    (hc : Configd.changesOf running candidate = []) (hneeds : Authd.needsSetup running = true)
    (username : String) : account candidate username = none := by
  have heq := Configd.pyEq_of_diffConfig_nil _ _ _ hc
  unfold Json.pyEq at heq
  obtain ⟨hkept, hadded⟩ := Bool.and_eq_true_iff.mp heq
  unfold account Authd.usersOf
  cases hu : Dict.lookup "users" candidate with
  | none => rfl
  | some v =>
    have hsome : (Dict.lookup "users" running).isSome = true := by
      rw [List.all_eq_true] at hadded
      exact hadded _ (Dict.mem_of_lookup hu)
    obtain ⟨v', hv'⟩ := Option.isSome_iff_exists.mp hsome
    obtain ⟨u, hu', hpy⟩ := lookup_of_pyEqObj hkept (by simp) hv'
    obtain rfl := Option.some.inj (hu.symm.trans hu')
    have hfalsy : v'.truthy = false := by
      unfold Authd.needsSetup at hneeds
      simpa [hv'] using hneeds
    cases v with
    | obj users =>
      cases v' with
      | obj users' =>
        have hnil : users' = [] := by simpa [Json.truthy] using hfalsy
        subst hnil
        unfold Json.pyEq at hpy
        have hall := (Bool.and_eq_true_iff.mp hpy).2
        cases users with
        | nil => rfl
        | cons e rest => simp at hall
      | null => simp [Json.pyEq] at hpy
      | bool b => simp [Json.pyEq, Json.num?] at hpy
      | int i => simp [Json.pyEq, Json.num?] at hpy
      | float q => simp [Json.pyEq, Json.num?] at hpy
      | str s => simp [Json.pyEq] at hpy
      | arr xs => simp [Json.pyEq] at hpy
    | _ => rfl

/-- **First-run setup makes an owner.** -/
theorem hasOwner_of_createOwner {w : World} {g g' : Gateway} {username : String} {password : Json}
    (h : submitOf w (Authd.createOwner w.auth g.store.running username password) g = (.ok (), g')) :
    HasOwner (roleIn g'.store.running) := by
  cases hneeds : Authd.needsSetup g.store.running with
  | false =>
    rw [Authd.createOwner_eq, hneeds] at h
    cases (Prod.mk.inj h).1
  | true =>
    cases hv : Authd.validatePassword w.auth password with
    | error e =>
      rw [Authd.createOwner_eq, hneeds, hv] at h
      cases (Prod.mk.inj h).1
    | ok p =>
      have hdraft : Authd.createOwner w.auth g.store.running username password =
          .ok (Authd.ownerDraft w.auth username p) := by
        rw [Authd.createOwner_eq, hneeds, hv]
        rfl
      rw [hdraft] at h
      unfold submitOf at h
      dsimp only at h
      rcases Configd.draft_ends false w.env (Authd.ownerDraft w.auth username p) g.store with
        ⟨ds, hd⟩ | ⟨ds, hd⟩
      · obtain ⟨r, t, ht, hdocs, -⟩ :=
          @Configd.submit_settles w.env (Authd.ownerDraft w.auth username p) (w.txid 0) g.store ds hd
        rw [ht] at h
        obtain ⟨-, rfl⟩ := Prod.mk.inj h
        have hrun : t.running = ds.running := congrArg Configd.Docs.running hdocs
        show HasOwner (roleIn t.running)
        rw [hrun]
        obtain ⟨hst, -, hc⟩ := hd
        obtain ⟨trial, hm, hroles⟩ := roles_of_stages hst
        rw [ownerDraft_roles hm] at hroles
        cases hc with
        | idle hp hnone hf =>
          have hnone := account_of_unchanged hnone hneeds username
          have hrole := congrFun hroles username
          rw [Function.update_self] at hrole
          obtain ⟨user, haccount, -⟩ := Authd.roleIn_eq_some.mp hrole
          cases hnone.symm.trans haccount
        | installed happ _ _ _ =>
          have happlied := roles_of_applies happ
          have hnew := happlied.trans hroles
          exact ⟨username, by rw [hnew, Function.update_self]⟩
      · obtain ⟨e, t, ht, -, -⟩ :=
          @Configd.submit_fails w.env (Authd.ownerDraft w.auth username p) (w.txid 0) g.store ds hd
        rw [ht] at h
        cases (Prod.mk.inj h).1

/-! ### One step -/

section

variable {w : World} {ctx : Ctx} {g g' : Gateway}

/-- The users that the handler may bring into operation have an owner, or `delete_user` looks at the
users that it changes. -/
def leavesOwner (route : Route) (ctx : Ctx) (g : Gateway) : Prop :=
  match route with
  | .postSetup => True
  | .postUser => ∀ body username, ctx.json = .ok body →
      Dict.lookup "username" body = some (.str username) →
      Authd.hasUser (Authd.usersOf g.store.running) username = .ok false →
      Dict.lookup "role" body = some (.str "owner") ∨
        HasOtherOwner username (roleIn g.store.candidate)
  | .putUser name => HasOwner (roleIn g.store.candidate) ∧ ∀ body role, ctx.json = .ok body →
      ((Dict.lookup "enable_mfa" body).getD .null).truthy = false →
      Dict.lookup "role" body = some role →
      role = .str "owner" ∨ HasOtherOwner name (roleIn g.store.candidate)
  | .deleteUser name => HasOtherOwner name (roleIn g.store.candidate) ∨
      roleIn g.store.candidate = roleIn g.store.running ∧
        ∃ users, Authd.usersOf g.store.running = .obj users ∧ (Dict.keys users).Nodup
  | .postBackup => ∀ body incoming, ctx.json = .ok body →
      Dict.lookup "config" body = some (.obj incoming) → HasOwner (roleIn incoming)
  | .postRollback id => ∀ i row, Text.readInt id = some i →
      g.store.revisions.find? (fun r => r.id = i.toNat) = some row →
      HasOwner (roleIn (Configd.migrate row.config))
  | route => route.commits = true → HasOwner (roleIn g.store.candidate)

/-- **What a handler keeps**: that there is an owner. -/
theorem HasOwner.handle {route : Route} (h : HasOwner (roleIn g.store.running))
    (hc : leavesOwner route ctx g) (hg : (handle w route ctx g).2 = g') :
    HasOwner (roleIn g'.store.running) := by
  cases hsp : route.special with
  | false =>
    have hcommits : route.commits = true → HasOwner (roleIn g.store.candidate) := by
      cases route <;> first | exact hc | cases hsp
    obtain ⟨-, hidle, hspared⟩ := @handle_spared w ctx g route hsp
    rw [hg] at hidle hspared
    cases hcm : route.commits with
    | false =>
      rw [hidle hcm]
      exact h
    | true =>
      rcases (hspared hcm).running with hr | hr
      · rw [hr]
        exact h
      · rw [hr]
        exact hcommits hcm
  | true =>
    subst hg
    cases route with
    | postLogin =>
      show HasOwner (roleIn (postLogin w ctx g).2.store.running)
      rw [(@postLogin_effect w ctx g).1]
      exact h
    | postLogout =>
      show HasOwner (roleIn (postLogout ctx g).2.store.running)
      rw [(@postLogout_effect ctx g).1]
      exact h
    | deleteSession id =>
      show HasOwner (roleIn (deleteSession id g).2.store.running)
      rw [(@deleteSession_effect g id).1]
      exact h
    | postSetup =>
      obtain ⟨hstore, -⟩ := @postSetup_effect w ctx g
      show HasOwner (roleIn (postSetup w ctx g).2.store.running)
      rcases hstore with hs | ⟨-, username, hr | hr⟩
      · rw [hs]
        exact h
      · rw [hr]
        exact h
      · rw [hr]
        exact hasOwner_update username _
    | postUser =>
      obtain ⟨-, hrun⟩ := @postUser_effect w ctx g
      show HasOwner (roleIn (postUser w ctx g).2.store.running)
      rcases hrun with hr | ⟨body, username, role, hbody, hname, hrole, hnew, hr⟩
      · rw [hr]
        exact h
      · rw [hr]
        rcases hc body username hbody hname hnew with howner | hother
        · rw [howner] at hrole
          rw [← show Json.str "owner" = Json.str role from hrole]
          exact hasOwner_update username _
        · exact hother.update _
    | putUser name =>
      obtain ⟨-, hrun⟩ := @putUser_effect w ctx g name
      obtain ⟨hcand, hbodies⟩ := hc
      show HasOwner (roleIn (putUser w name ctx g).2.store.running)
      rcases hrun with hsp | ⟨body, role, hbody, hrole, hmfa, -, hr⟩
      · rcases hsp.running with hr | hr
        · rw [hr]
          exact h
        · rw [hr]
          exact hcand
      · rcases hr with hr | hr | hr
        · rw [hr]
          exact hcand
        · rw [hr]
          exact h
        · rw [hr]
          rcases hbodies body role hbody hmfa hrole with rfl | hother
          · exact hasOwner_update name _
          · exact hother.update _
    | deleteUser name =>
      obtain ⟨hstore, -⟩ := @deleteUser_effect w ctx g name
      show HasOwner (roleIn (deleteUser w name ctx g).2.store.running)
      rcases hstore with hs | ⟨⟨d, hd⟩, hr | hr⟩
      · rw [hs]
        exact h
      · rw [hr]
        exact h
      · rw [hr]
        rcases hc with hother | ⟨hsame, users, hu, hnodup⟩
        · exact hother.update _
        · have hother := otherOwner_of_deleteUser hd hu hnodup h
          rw [hsame]
          exact hother.update _
    | postBackup =>
      obtain ⟨-, hrun⟩ := @postBackup_effect w ctx g
      rcases hrun with hr | ⟨body, incoming, hbody, hconfig, hr⟩
      · rw [hr]
        exact h
      · rw [hr]
        exact hc body incoming hbody hconfig
    | postRollback id =>
      obtain ⟨-, hrun⟩ := @postRollback_effect w ctx g id
      rw [handle_postRollback]
      rcases hrun with hr | ⟨i, row, hi, hrow, hr⟩
      · rw [hr]
        exact h
      · rw [hr]
        exact hc i row hi hrow
    | _ => cases hsp

/-- The users that the step may bring into operation have an owner. -/
def keepsOwner (x : GatewayStep) : Prop :=
  match x.act with
  | .request w r => ∀ ctx, (enter w r x.pre).1 = .ok ctx → leavesOwner r.route ctx x.pre
  | .restore _ txid => ∀ previous, restoring x.pre txid = some previous → HasOwner (roleIn previous)
  | _ => True

theorem HasOwner.step {a : Action} {o : Except Exn Json} (h : HasOwner (roleIn g.store.running))
    (hs : step g a = some (o, g')) (hk : keepsOwner ⟨g, a, o, g'⟩) :
    HasOwner (roleIn g'.store.running) := by
  by_cases ha : ∃ w r, a = .request w r
  · obtain ⟨w, r, rfl⟩ := ha
    obtain ⟨m, -, ⟨rfl, -⟩ | ⟨ctx, hctx, -, hg⟩⟩ := request_effect hs
    · exact h
    · have hleaves : leavesOwner r.route ctx { g with auth := m } := hk ctx hctx
      exact @HasOwner.handle w ctx { g with auth := m } g' r.route h hleaves hg.symm
  · obtain ⟨-, hrun⟩ := timer_effect hs fun w r hwr => ha ⟨w, r, hwr⟩
    rcases hrun with hr | ⟨env, txid, previous, rfl, hprev, hr⟩
    · rw [hr]
      exact h
    · rw [hr]
      exact hk previous hprev

end

/-! ### Every run -/

/-- **There is always an owner.**  In every run from a gateway on which `create_owner` has succeeded,
whose steps bring only users with an owner into operation, the running configuration has an owner. -/
theorem always_an_owner {w : World} {g₀ g s : Gateway} {username : String} {password : Json}
    (hg : submitOf w (Authd.createOwner w.auth g₀.store.running username password) g₀ = (.ok (), g))
    {l : List GatewayStep} (hrun : GatewayRun g l s) (hsteps : ∀ x ∈ l, keepsOwner x) :
    HasOwner (roleIn s.store.running) := by
  refine hrun.history (fun _ s => HasOwner (roleIn s.store.running)) (fun _ x => keepsOwner x) ?_ []
    (hasOwner_of_createOwner hg) ?_
  · intro _ u a o v hu hs hx
    exact hu.step hs hx
  · intro l₁ x l₂ hl
    exact hsteps x (by simp [hl])

/-! ### The only owner demoted -/

/-- `create_owner` for `alice` on a fresh store. -/
def createAlice : Except Exn Unit × Gateway := submitOf (World.plain 0)
  (Authd.createOwner (World.plain 0).auth Gateway.fresh.store.running "alice"
    (.str "Correct-Horse-1")) Gateway.fresh

/-- No record of the document has the role `owner`. -/
def ownerless (cfg : Obj) : Bool :=
  match Authd.usersOf cfg with
  | .obj users => users.all fun e => decide (rolesOf users e.1 ≠ some (.str "owner"))
  | _ => true

theorem not_hasOwner {cfg : Obj} (h : ownerless cfg = true) : ¬ HasOwner (roleIn cfg) := by
  rintro ⟨username, hrole⟩
  obtain ⟨user, haccount, -⟩ := Authd.roleIn_eq_some.mp hrole
  unfold ownerless at h
  cases hu : Authd.usersOf cfg with
  | obj users =>
    rw [Authd.account_of_usersOf hu] at haccount
    simp only [hu, List.all_eq_true, decide_eq_true_eq] at h
    have hmem := Dict.mem_of_lookup haccount
    rw [roleIn_of_usersOf hu] at hrole
    exact h _ hmem hrole
  | _ =>
    rw [account, hu] at haccount
    cases haccount

/-- `PUT /users` takes the role of the only owner. -/
theorem no_owner : createAlice.1 = .ok () ∧ ∃ l s, GatewayRun createAlice.2 l s ∧
    l.map Step.act = [loginAlice, demoteAlice] ∧ ¬ HasOwner (roleIn s.store.running) := by
  refine ⟨by decide +kernel, ?_⟩
  obtain ⟨l, s, hrun, hacts, htest⟩ := @Run.of_test _ _ _ step createAlice.2
    [loginAlice, demoteAlice] (fun _ s => ownerless s.store.running) (by decide +kernel)
  exact ⟨l, s, hrun, hacts, not_hasOwner htest⟩

theorem always_an_owner_login : ∃ l s, GatewayRun createAlice.2 l s ∧ l.map Step.act = [loginAlice] ∧
    HasOwner (roleIn s.store.running) := by
  obtain ⟨l, s, hrun, hacts, -⟩ := @Run.of_test _ _ _ step createAlice.2 [loginAlice]
    (fun _ _ => true) (by decide)
  have hok : createAlice = (.ok (), createAlice.2) := Prod.ext (by decide) rfl
  have hkeeps : ∀ x ∈ l, keepsOwner x := by
    intro x hx
    have hact : x.act = loginAlice := by
      have hmem : x.act ∈ l.map Step.act := List.mem_map_of_mem hx
      rw [hacts] at hmem
      exact List.mem_singleton.mp hmem
    unfold keepsOwner
    rw [hact]
    intro ctx _ hcommits
    cases hcommits
  exact ⟨l, s, hrun, hacts, always_an_owner hok hrun hkeeps⟩

end Sbegw.Api
