import Sbegw.Configd.Clean
import Sbegw.Api.System

/-!
# Settings requests are all or nothing

Over a clean store, a request that only hands a change to `_commit` either fails and changes neither what runs nor what
is on disk nor the clients, or makes run what validation makes of the changed candidate.  The store stays clean over
every run in which storage works and no caller of `commit` leaves a refused change in the candidate: the routes that do
not discard it succeed, and the channels are switched by `hostapd`.
-/

namespace Sbegw.Api

open Machine
open Configd (Draft Store Faults Stages Guarded Sound changesOf)

/-- The handler only hands a change to `_commit`. -/
def Route.settings : Route → Bool
  | .putSystem | .putController | .putPort _ | .postNetwork | .putNetwork _ | .deleteNetwork _
  | .putWan _ | .putFirewall | .putNat | .putRouting | .putServices | .putDpi | .putRadio _
  | .postWifiNetwork | .putWifiNetwork _ | .deleteWifiNetwork _ | .postMld | .putMld _ | .deleteMld _
  | .putRegulatory | .putChannelSettings | .postBackup => true
  | _ => false

/-- The handler commits a change of its own, some of it without discarding what is refused. -/
def Route.unguarded : Route → Bool
  | .postSetup | .postControllerSync | .putClient _ | .postRollback _ | .postUser | .putUser _
  | .deleteUser _ => true
  | _ => false

/-- Storage works in the step, a change commits as it is staged, and nothing refused is left in the candidate. -/
def Orderly (x : GatewayStep) : Prop :=
  match x.act with
  | .request w r => w.env.faults = Faults.none ∧ (r.route.unguarded = true → ∃ reply, x.out = .ok reply) ∧
      (r.route = .postChannelOptimize → ∀ moves, w.moves x.pre.store.running = .ok moves →
        ∀ m ∈ moves, m.switched = true) ∧
      ∀ ctx d, (enter w r x.pre).1 = .ok ctx → draftOf w ctx r.route = some (.ok d) → Sound d x.pre.store.candidate
  | .restore env _ => env.faults.rollback = false
  | _ => True

/-- A settings request that fails changes nothing; one that succeeds makes its change run, and no other. -/
structure AllOrNothing (w : World) (r : Request) (x : GatewayStep) : Prop where
  clients : x.post.clients = x.pre.clients
  failed : ∀ e, x.out = .error e → x.post.store.running = x.pre.store.running
  done : ∀ reply, x.out = .ok reply → ∃ ctx d t, (enter w r x.pre).1 = .ok ctx ∧
    draftOf w ctx r.route = some (.ok d) ∧ Stages w.env d x.pre.store t ∧ changesOf x.post.store.running t = [] ∧
      (x.post.store.running = t ∨ x.post.store.running = x.pre.store.running)

section

variable {w : World} {ctx : Ctx} {g g' : Gateway} {d : Draft} {s : Store} {o : Except Exn Json}

/-! ### Guarded changes -/

/-- `_commit` guards the candidate. -/
theorem commit_guarded (n : ℕ) (hf : w.env.faults = Faults.none) (hd : Sound d s.candidate) :
    Guarded w.env d s (commit w n d s).1.isOk (commit w n d s).2.docs := by
  unfold commit
  rcases Configd.stage_cases w.env d s with ⟨-, e, he⟩ | ⟨u, hu, ⟨hfault, -⟩ | ⟨-, warnings, hw⟩⟩
  · rw [he]
    exact .refused
  · rw [hf] at hfault
    cases hfault
  · rw [hw]
    dsimp only
    rcases Configd.commit_ends true w.env d.args (s.staged u) with ⟨ds, h⟩ | ⟨ds, h⟩
    · obtain ⟨r, t, ht, hdocs, -⟩ := @Configd.commit_settles w.env d.args (w.txid n) (s.staged u) ds h
      rw [ht]
      show Guarded w.env d s true t.docs
      rw [hdocs]
      exact .of_settles hd hu h
    · obtain ⟨e, t, ht, hdocs, -⟩ := @Configd.commit_fails w.env d.args (w.txid n) (s.staged u) true ds h
      have hguarded : Guarded w.env d s false (Configd.afterError true e t).docs := by
        rw [hdocs]
        exact .of_fails hf hd hu h
      rw [ht]
      cases e with
      | commit message stage txid details => exact hguarded
      | _ => exact hguarded

theorem draftOf_settings {route : Route} (h : route.settings = true) : ∃ x, draftOf w ctx route = some x := by
  cases route with
  | read permission => cases h
  | postSetup | postLogin | postLogout | postControllerInform | postControllerSync | postControllerReset => cases h
  | deleteSession id | postRadioRecover id | postRollback id => cases h
  | postChannelScan | postChannelOptimize | postCommit | postConfirm | postDiscard | postUser => cases h
  | putClient mac | putUser name | deleteUser name => cases h
  | postClientAction mac action => cases h
  | _ => exact ⟨_, rfl⟩

theorem handle_settings {route : Route} {x : Except Exn Draft} (h : draftOf w ctx route = some x) :
    handle w route ctx g = commitOf w x g := by
  unfold handle
  rw [h]

theorem clean_commitOf {x : Except Exn Draft} (hf : w.env.faults = Faults.none)
    (hd : ∀ d, x = .ok d → Sound d g.store.candidate) (hg : g.store.Clean) : (commitOf w x g).2.store.Clean := by
  cases x with
  | error e => exact hg
  | ok d => exact (commit_guarded 0 hf (hd d rfl)).clean hg

/-! ### The other handlers -/

theorem clean_of_commit {n : ℕ} {r : Json} {t : Store} (h : commit w n d s = (.ok r, t)) (hs : s.Clean) : t.Clean := by
  unfold commit at h
  rcases Configd.stage_cases w.env d s with ⟨-, e, he⟩ | ⟨u, -, ⟨-, he⟩ | ⟨-, warnings, hw⟩⟩
  · simp [he] at h
  · simp [he] at h
  · rw [hw] at h
    dsimp only at h
    rcases hc : Configd.commit w.env d.args (w.txid n) (s.staged u) with ⟨e | c, v⟩
    · rw [hc] at h
      cases e <;> cases h
    · rw [hc] at h
      obtain ⟨-, rfl⟩ := Prod.mk.inj h
      exact Configd.clean_of_commit hc hs.disk

theorem clean_of_submitOf {x : Except Exn Draft} (h : submitOf w x g = (.ok (), g')) (hg : g.store.Clean) :
    g'.store.Clean := by
  unfold submitOf at h
  cases x with
  | error e => cases h
  | ok d =>
    dsimp only at h
    rcases hs : Configd.submit w.env (w.txid 0) d g.store with ⟨e | r, t⟩
    · rw [hs] at h
      cases h
    · rw [hs] at h
      obtain ⟨-, rfl⟩ := Prod.mk.inj h
      exact Configd.clean_of_submit hs hg.disk

theorem clean_postSetup {reply : Json} (h : (postSetup w ctx g).1 = .ok reply) (hg : g.store.Clean) :
    (postSetup w ctx g).2.store.Clean := by
  unfold postSetup at h ⊢
  rcases hd : setupDraft w ctx g with e | ⟨username, password, d⟩
  · rw [hd] at h
    cases h
  · rw [hd] at h
    dsimp only at h ⊢
    rcases hs : submitOf w (.ok d) g with ⟨e | r, g₁⟩
    · rw [hs] at h
      cases h
    · rw [hs] at h
      dsimp only at h ⊢
      have hclean := clean_of_submitOf hs hg
      split
      · exact hclean
      · exact hclean

theorem clean_postControllerSync {reply : Json} (h : (postControllerSync w g).1 = .ok reply) (hg : g.store.Clean) :
    (postControllerSync w g).2.store.Clean := by
  have hsync : ∀ {r : Json} {g₁ : Gateway}, syncOnce w g = (.ok r, g₁) → g₁.store.Clean := by
    intro r g₁ hs
    unfold syncOnce at hs
    rcases hd : syncDraft w g.store.running with e | _ | d
    · rw [hd] at hs
      cases hs
    · rw [hd] at hs
      dsimp only at hs
      split at hs
      · cases hs
      · obtain ⟨-, rfl⟩ := Prod.mk.inj hs
        exact hg
    · rw [hd] at hs
      dsimp only at hs
      rcases hsub : submitOf w (.ok d) g with ⟨e | u, g₂⟩
      · rw [hsub] at hs
        cases hs
      · rw [hsub] at hs
        dsimp only at hs
        split at hs
        · cases hs
        · obtain ⟨-, rfl⟩ := Prod.mk.inj hs
          exact clean_of_submitOf hsub hg
  unfold postControllerSync at h ⊢
  split
  · exact hg
  · next hon =>
    rw [if_neg hon] at h
    rcases hs : syncOnce w g with ⟨e | r, g₁⟩
    · rw [hs] at h
      cases e <;> cases h
    · exact hsync hs

theorem optimise_switched : ∀ (moves : List Move) (n : ℕ), (∀ m ∈ moves, m.switched = true) →
    (optimise w n moves g).2 = g
  | [], _, _ => rfl
  | m :: rest, n, h => by
    unfold optimise
    rw [if_pos (h m List.mem_cons_self)]
    split
    · rfl
    · exact optimise_switched rest n fun m hm => h m (List.mem_cons_of_mem _ hm)

theorem clean_rollbackTo {user sourceIp : String} {i : ℤ} {c : Configd.CommitReturn}
    (h : (rollbackTo w user sourceIp i g).1 = .ok c) (hg : g.store.Clean) :
    (rollbackTo w user sourceIp i g).2.store.Clean := by
  unfold rollbackTo Configd.rollbackToRevision at h ⊢
  by_cases hneg : i < 0
  · rw [if_pos hneg] at h
    cases h
  · rw [if_neg hneg] at h ⊢
    rcases hload : Configd.loadRevision i.toNat g.store with ⟨e | u, s⟩
    · rw [hload] at h
      cases h
    · rw [hload] at h
      have hdisk : s.disk = some s.running := by
        unfold Configd.loadRevision at hload
        split at hload
        · cases hload
        · obtain ⟨-, rfl⟩ := Prod.mk.inj hload
          exact hg.disk
      dsimp only at h ⊢
      exact Configd.clean_of_commit (Prod.ext h rfl) hdisk

theorem clean_postRollback {id : String} {reply : Json} (h : (postRollback w id ctx g).1 = .ok reply)
    (hg : g.store.Clean) : (postRollback w id ctx g).2.store.Clean := by
  unfold postRollback at h ⊢
  cases hid : Text.readInt id with
  | none => exact hg
  | some i =>
    rw [hid] at h
    dsimp only at h ⊢
    cases hr : (rollbackTo w ctx.user ctx.sourceIp i g).1 with
    | error e =>
      rw [hr] at h
      cases h
    | ok c => exact clean_rollbackTo hr hg

theorem clean_postCommit (hg : g.store.Clean) : (postCommit w ctx g).2.store.Clean := by
  unfold postCommit
  split
  · exact hg
  · next summary seconds _ =>
    have hdocs := @Configd.docs_commit_clean w.env { Configd.CommitArgs.default with
      user := ctx.user, sourceIp := ctx.sourceIp, summary := Schema.pyStr summary,
      rollbackSeconds := seconds } g.store (w.txid 0) hg.candidate rfl
    have hclean := hg.of_docs hdocs
    dsimp only
    split
    · exact hclean
    · exact hclean

theorem clean_postConfirm (hg : g.store.Clean) : (postConfirm w ctx g).2.store.Clean := by
  unfold postConfirm
  split
  · exact hg
  · dsimp only
    split
    · exact hg
    · split
      · next txid _ =>
        exact hg.of_docs (confirm_docs w.env.faults.audit txid ctx.user g.store)
      · exact hg

theorem store_postClientAction (mac action : String) : (postClientAction w mac action ctx g).2.store = g.store := by
  have hmark : ∀ call blocked, (markBlocked w call blocked mac g).2.store = g.store := by
    intro call blocked
    unfold markBlocked
    split <;> rfl
  unfold postClientAction
  split
  · rfl
  · split
    · exact hmark _ _
    · split
      · exact hmark _ _
      · split <;> rfl

theorem clean_putClient {mac : String} {reply : Json} (h : (putClient w mac ctx g).1 = .ok reply)
    (hg : g.store.Clean) : (putClient w mac ctx g).2.store.Clean := by
  unfold putClient at h ⊢
  split
  · exact hg
  · next body hbody =>
    rw [hbody] at h
    dsimp only at h
    split
    · exact hg
    · exact hg
    · next db hdb =>
      rw [hdb] at h
      dsimp only at h ⊢
      split
      · exact hg
      · next address haddress =>
        rw [haddress] at h
        dsimp only at h ⊢
        rcases hc : commit w 0 (fixedIp ((db.get mac).getD []) mac address ctx) g.store with ⟨e | r, t⟩
        · rw [hc] at h
          cases h
        · exact clean_of_commit hc hg

theorem clean_putUserRest {name : String} {body : Obj} {reply : Json}
    (h : (putUserRest w name body ctx g).1 = .ok reply) (hg : g.store.Clean) :
    (putUserRest w name body ctx g).2.store.Clean := by
  unfold putUserRest at h ⊢
  split
  · next hmfa =>
    rw [if_pos hmfa] at h
    rcases hs : Configd.submit w.env (w.txid 1) (Authd.enableTotp w.auth name ctx.user) g.store with ⟨e | r, t⟩
    · rw [hs] at h
      cases h
    · exact Configd.clean_of_submit hs hg.disk
  · next hmfa =>
    rw [if_neg hmfa] at h
    split
    · exact hg
    · next role hrole =>
      rw [hrole] at h
      dsimp only at h ⊢
      rcases hc : commit w 1 (changeRole name role ctx) g.store with ⟨e | r, t⟩
      · rw [hc] at h
        cases h
      · exact clean_of_commit hc hg

theorem clean_putUser {name : String} {reply : Json} (h : (putUser w name ctx g).1 = .ok reply)
    (hg : g.store.Clean) : (putUser w name ctx g).2.store.Clean := by
  unfold putUser at h ⊢
  split
  · exact hg
  · next body hbody =>
    rw [hbody] at h
    dsimp only at h
    split
    · next hpw =>
      rw [hpw] at h
      exact clean_putUserRest h hg
    · next password hpw =>
      rw [hpw] at h
      dsimp only at h
      unfold setPassword at h ⊢
      rcases hs : submitOf w (Authd.setPassword w.auth name password ctx.user) g with ⟨e | u, g₁⟩
      · rw [hs] at h
        cases h
      · rw [hs] at h
        have hclean : g₁.store.Clean := clean_of_submitOf hs hg
        exact @clean_putUserRest w ctx (g₁.revoke name) name body reply h hclean

theorem clean_deleteUser {name : String} {reply : Json} (h : (deleteUser w name ctx g).1 = .ok reply)
    (hg : g.store.Clean) : (deleteUser w name ctx g).2.store.Clean := by
  unfold deleteUser at h ⊢
  split
  · exact hg
  · next hself =>
    rw [if_neg hself] at h
    unfold deleteAccount at h ⊢
    rcases hs : submitOf w (Authd.deleteUser g.store.running name ctx.user) g with ⟨e | u, g₁⟩
    · rw [hs] at h
      cases e <;> cases h
    · have hclean : g₁.store.Clean := clean_of_submitOf hs hg
      exact hclean

theorem clean_postUser {reply : Json} (h : (postUser w ctx g).1 = .ok reply) (hg : g.store.Clean) :
    (postUser w ctx g).2.store.Clean := by
  unfold postUser at h ⊢
  rcases hs : submitOf w (postUserDraft w ctx g) g with ⟨e | u, g₁⟩
  · rw [hs] at h
    cases h
  · exact clean_of_submitOf hs hg

/-- **A handler leaves a clean store clean** where storage works and no refused change is left. -/
theorem clean_handle {route : Route} (hf : w.env.faults = Faults.none)
    (hloose : route.unguarded = true → ∃ reply, (handle w route ctx g).1 = .ok reply)
    (hmoves : route = .postChannelOptimize → ∀ moves, w.moves g.store.running = .ok moves →
      ∀ m ∈ moves, m.switched = true)
    (hd : ∀ d, draftOf w ctx route = some (.ok d) → Sound d g.store.candidate) (hg : g.store.Clean) :
    (handle w route ctx g).2.store.Clean := by
  by_cases hsettings : route.settings = true
  · obtain ⟨x, hx⟩ := @draftOf_settings w ctx route hsettings
    rw [handle_settings hx]
    exact clean_commitOf hf (fun d hok => hd d (hx.trans (congrArg some hok))) hg
  · cases route with
    | read permission => exact hg
    | postControllerInform => exact hg
    | postControllerReset => exact hg
    | postRadioRecover id => exact hg
    | postChannelScan => exact hg
    | postLogin =>
      exact hg.of_docs (congrArg Store.docs postLogin_effect.1)
    | postLogout =>
      exact hg.of_docs (congrArg Store.docs postLogout_effect.1)
    | deleteSession id =>
      exact hg.of_docs (congrArg Store.docs (deleteSession_effect id).1)
    | postDiscard => exact ⟨Configd.changesOf_self _, hg.disk⟩
    | postConfirm => exact clean_postConfirm hg
    | postCommit => exact clean_postCommit hg
    | postClientAction mac action =>
      exact hg.of_docs (congrArg Store.docs (store_postClientAction mac action))
    | postChannelOptimize =>
      show (postChannelOptimize w ctx g).2.store.Clean
      unfold postChannelOptimize
      split
      · exact hg
      · next moves hm =>
        obtain ⟨_, -, hm⟩ := except_bind_eq_ok.mp hm
        show (optimise w 0 moves g).2.store.Clean
        rw [optimise_switched moves 0 (hmoves rfl moves hm)]
        exact hg
    | postSetup =>
      obtain ⟨reply, h⟩ := hloose rfl
      exact clean_postSetup h hg
    | postControllerSync =>
      obtain ⟨reply, h⟩ := hloose rfl
      exact clean_postControllerSync h hg
    | putClient mac =>
      obtain ⟨reply, h⟩ := hloose rfl
      exact clean_putClient h hg
    | postRollback id =>
      obtain ⟨reply, h⟩ := hloose rfl
      rw [handle_postRollback] at h ⊢
      exact clean_postRollback h hg
    | postUser =>
      obtain ⟨reply, h⟩ := hloose rfl
      exact clean_postUser h hg
    | putUser name =>
      obtain ⟨reply, h⟩ := hloose rfl
      exact clean_putUser h hg
    | deleteUser name =>
      obtain ⟨reply, h⟩ := hloose rfl
      exact clean_deleteUser h hg
    | _ => exact absurd rfl hsettings

/-! ### Steps -/

theorem clean_step {a : Action} (hs : step g a = some (o, g')) (ha : Orderly ⟨g, a, o, g'⟩) (hg : g.store.Clean) :
    g'.store.Clean := by
  cases a with
  | request w r =>
    obtain ⟨hf, hloose, hmoves, hd⟩ := ha
    obtain ⟨m, -, ⟨rfl, -⟩ | ⟨ctx, hctx, ho, rfl⟩⟩ := request_effect hs
    · exact hg
    · refine clean_handle hf (fun h => ?_) hmoves (fun d => hd ctx d hctx) hg
      obtain ⟨reply, hr⟩ := hloose h
      exact ⟨reply, answer_eq_ok (ho.symm.trans hr)⟩
  | tick =>
    obtain ⟨-, rfl⟩ := Prod.mk.inj (Option.some.inj hs)
    exact hg
  | fire txid =>
    obtain ⟨s, h, heq⟩ := Option.map_eq_some_iff.mp hs
    obtain ⟨-, rfl⟩ := Prod.mk.inj heq
    unfold Configd.fire at h
    split at h
    · split at h
      · rw [← Option.some.inj h]
        exact hg
      · cases h
    · cases h
  | expire txid =>
    obtain ⟨s, h, heq⟩ := Option.map_eq_some_iff.mp hs
    obtain ⟨-, rfl⟩ := Prod.mk.inj heq
    unfold Configd.expire at h
    split at h
    · split at h
      · split at h
        · rw [← Option.some.inj h]
          exact hg
        · rw [← Option.some.inj h]
          exact hg
      · rw [← Option.some.inj h]
        exact hg
    · cases h
  | restore env txid =>
    obtain ⟨⟨x, s⟩, h, heq⟩ := Option.map_eq_some_iff.mp hs
    obtain ⟨-, rfl⟩ := Prod.mk.inj heq
    have hfault : env.faults.rollback = false := ha
    unfold Configd.restore at h
    split at h
    · next previous _ =>
      rcases Configd.resetTo_cases env.faults.rollback previous g.store with hr | ⟨hf, -⟩
      · rw [hr] at h
        obtain ⟨-, rfl⟩ := Prod.mk.inj (Option.some.inj h)
        exact ⟨Configd.changesOf_self previous, rfl⟩
      · rw [hfault] at hf
        cases hf
    · cases h
  | reapply fault txid =>
    obtain ⟨⟨x, s⟩, h, heq⟩ := Option.map_eq_some_iff.mp hs
    obtain ⟨-, rfl⟩ := Prod.mk.inj heq
    unfold Configd.reapply at h
    split at h
    · obtain ⟨-, rfl⟩ := Prod.mk.inj (Option.some.inj h)
      exact hg
    · split at h
      · obtain ⟨-, rfl⟩ := Prod.mk.inj (Option.some.inj h)
        exact hg
      · obtain ⟨-, rfl⟩ := Prod.mk.inj (Option.some.inj h)
        have hdocs := Configd.docs_of_same (Configd.same_addAudit
          { g.store with timers := Dict.erase txid g.store.timers } txid "system" "local" "rollback" true
          "rollback timer expired" [])
        exact Configd.Store.Clean.of_docs hg hdocs
    · cases h

theorem allOrNothing_step {r : Request} (hs : step g (.request w r) = some (o, g'))
    (ha : Orderly ⟨g, .request w r, o, g'⟩) (hr : r.route.settings = true) :
    AllOrNothing w r ⟨g, .request w r, o, g'⟩ := by
  obtain ⟨hf, -, -, hd⟩ := ha
  obtain ⟨m, -, ⟨rfl, e, he⟩ | ⟨ctx, hctx, ho, rfl⟩⟩ := request_effect hs
  · refine ⟨rfl, fun _ _ => rfl, fun reply hreply => ?_⟩
    have hreply : o = .ok reply := hreply
    subst hreply
    have hd' := Option.some.inj hs
    rw [dispatch_eq] at hd'
    rcases hent : enter w r g with ⟨e' | ctx, gm⟩
    · rw [hent] at hd'
      cases answer_eq_ok (Prod.mk.inj hd').1
    · rw [hent] at he
      cases he
  · obtain ⟨x, hx⟩ := @draftOf_settings w ctx r.route hr
    rw [handle_settings hx] at ho ⊢
    cases x with
    | error e =>
      refine ⟨rfl, fun _ _ => rfl, fun reply hreply => ?_⟩
      cases answer_eq_ok (ho.symm.trans hreply)
    | ok d =>
      have hguarded := @commit_guarded w d g.store 0 hf (hd ctx d hctx hx)
      refine ⟨rfl, fun e he => ?_, fun reply hreply => ?_⟩
      · have herror : (commit w 0 d g.store).1.isOk = false := by
          have he : answer (commit w 0 d g.store).1 = .error e := ho.symm.trans he
          cases hc : (commit w 0 d g.store).1 with
          | error e => rfl
          | ok reply =>
            rw [hc] at he
            cases he
        rw [herror] at hguarded
        exact hguarded.failed
      · have hok : (commit w 0 d g.store).1 = .ok reply := answer_eq_ok (ho.symm.trans hreply)
        rw [hok] at hguarded
        obtain ⟨t, ht, hc, hrun⟩ := hguarded.done
        exact ⟨ctx, d, t, hctx, hx, ht, hc, hrun⟩

end

/-- **Every settings request is all or nothing.**  In a run of requests and timers from a clean store whose steps go
their normal way, nothing is left in the candidate, what runs is on disk, and each settings request either fails and
changes nothing or makes its change run. -/
theorem settings_atomic {g g' : Gateway} {l : List GatewayStep} (hrun : GatewayRun g l g') (hg : g.store.Clean)
    (hl : ∀ x ∈ l, Orderly x) : ∀ x ∈ l, x.pre.store.Clean ∧ x.post.store.Clean ∧
      ∀ w r, x.act = .request w r → r.route.settings = true → AllOrNothing w r x := by
  intro x hx
  obtain ⟨l₁, l₂, rfl, hbefore, hs, -⟩ := hrun.of_mem hx
  have hpre : x.pre.store.Clean := by
    refine hbefore.history (fun _ s => s.store.Clean) (fun _ x => Orderly x) ?_ [] hg ?_
    · intro _ u a o v hu hs hx
      exact clean_step hs hx hu
    · intro l₃ y l₄ hl₁
      exact hl y (by simp [hl₁])
  refine ⟨hpre, clean_step hs (hl x hx) hpre, fun w r hact hr => ?_⟩
  obtain ⟨pre, act, out, post⟩ := x
  obtain rfl : act = .request w r := hact
  exact allOrNothing_step hs (hl _ hx) hr

/-! ### A refused request and one that is taken -/

/-- The request goes its normal way. -/
def orderly (x : GatewayStep) : Bool :=
  match x.act with
  | .request w r => decide (w.env.faults = Faults.none) && (!r.route.unguarded || x.out.isOk) &&
      decide (r.route ≠ .postChannelOptimize) &&
      match (enter w r x.pre).1 with
      | .error _ => true
      | .ok ctx =>
        match draftOf w ctx r.route with
        | some (.ok d) => decide (Sound d x.pre.store.candidate)
        | _ => true
  | _ => false

theorem orderly_of_test {x : GatewayStep} (h : orderly x = true) : Orderly x := by
  unfold orderly at h
  unfold Orderly
  cases hact : x.act with
  | request w r =>
    rw [hact] at h
    simp only [Bool.and_eq_true, Bool.or_eq_true, Bool.not_eq_true', decide_eq_true_eq] at h
    obtain ⟨⟨⟨hf, hloose⟩, hroute⟩, hd⟩ := h
    refine ⟨hf, fun hu => ?_, fun hr => absurd hr hroute, fun ctx d hctx hdraft => ?_⟩
    · rcases hloose with hn | hok
      · rw [hu] at hn
        cases hn
      · cases ho : x.out with
        | error e =>
          rw [ho] at hok
          cases hok
        | ok reply => exact ⟨reply, rfl⟩
    · rw [hctx] at hd
      dsimp only at hd
      rw [hdraft] at hd
      exact of_decide_eq_true hd
  | _ =>
    rw [hact] at h
    cases h

/-- `alice` renames the gateway. -/
def renameAlice (now : ℚ) (name : String) : Action :=
  .request (World.plain now) (.browser .putSystem (some "token") [("hostname", .str name)])

theorem settings_atomic_rename : ∃ l s, GatewayRun Gateway.fresh l s ∧
    l.map Step.act = [setupAlice, renameAlice 1 "two words", renameAlice 2 "attic"] ∧
    l.map (fun x => x.out.isOk) = [true, false, true] ∧
    ∀ x ∈ l, x.pre.store.Clean ∧ x.post.store.Clean ∧
      ∀ w r, x.act = .request w r → r.route.settings = true → AllOrNothing w r x := by
  obtain ⟨l, s, hrun, hacts, htest⟩ := @Run.of_test _ _ _ step Gateway.fresh
    [setupAlice, renameAlice 1 "two words", renameAlice 2 "attic"]
    (fun l _ => l.all orderly && decide (l.map (fun x => x.out.isOk) = [true, false, true])) (by decide +kernel)
  simp only [Bool.and_eq_true, List.all_eq_true, decide_eq_true_eq] at htest
  obtain ⟨hsteps, houts⟩ := htest
  have hfresh : Gateway.fresh.store.Clean := Configd.clean_restart fun cfg h => by cases h
  exact ⟨l, s, hrun, hacts, houts, settings_atomic hrun hfresh fun x hx => orderly_of_test (hsteps x hx)⟩

end Sbegw.Api
