import Sbegw.Lib.Run
import Sbegw.Api.Accounts
import Sbegw.Api.Setup

/-!
# The gateway under requests

The machine whose steps are whole requests, each with what surrounds it, and the moves of the rollback
timers.  A request that is not admitted answers without reaching its handler.
-/

namespace Sbegw.Api

open Machine
open Authd (AuthManager roleIn)

/-! ### Admission -/

/-- The context in which a request reaches its handler. -/
def enter (w : World) (r : Request) (g : Gateway) : Except Exn Ctx × Gateway :=
  match r.route.permission with
  | none => (.ok ⟨none, r.sourceIp, r.agent, none, r.body⟩, g)
  | some permission =>
    match admission w r permission g with
    | (.error e, g) => (.error e, g)
    | (.ok (p, token), g) => (.ok ⟨some p, r.sourceIp, r.agent, token, r.body⟩, g)

/-- The answer to a request; an exception that is no `ApiError` is an internal error. -/
def answer : Except Exn Json → Except Exn Json
  | .error (.api status code message) => .error (.api status code message)
  | .error e => .error (.api 500 "internal_error" e.text)
  | .ok reply => .ok reply

theorem answer_eq_ok {x : Except Exn Json} {reply : Json} (h : answer x = .ok reply) :
    x = .ok reply := by
  cases x with
  | error e => cases e <;> cases h
  | ok r => exact h

/-- **A request is admission and then its handler.** -/
theorem dispatch_eq (w : World) (r : Request) (g : Gateway) : dispatch w r g =
    match enter w r g with
    | (.error e, g) => (answer (.error e), g)
    | (.ok ctx, g) => (answer (handle w r.route ctx g).1, (handle w r.route ctx g).2) := by
  unfold dispatch enter
  dsimp only
  cases r.route.permission with
  | none =>
    dsimp only
    rcases handle w r.route ⟨none, r.sourceIp, r.agent, none, r.body⟩ g with ⟨e | reply, g'⟩
    · cases e <;> rfl
    · rfl
  | some permission =>
    dsimp only
    rcases admission w r permission g with ⟨e | ⟨p, token⟩, g'⟩
    · cases e <;> rfl
    · dsimp only
      rcases handle w r.route ⟨some p, r.sourceIp, r.agent, token, r.body⟩ g' with ⟨e | reply, g''⟩
      · cases e <;> rfl
      · rfl

/-- What admission does to the sessions: nothing, or it looks one up. -/
def Renews (env : Authd.Env) (m m' : AuthManager) : Prop :=
  m' = m ∨ ∃ token, m' = (m.principalForSession env token).2

theorem authenticate_effect (w : World) (c : Credentials) (g : Gateway) :
    ∃ m, (authenticate w c g).2 = { g with auth := m } ∧ Renews w.auth g.auth m := by
  unfold authenticate
  split
  · split
    · exact ⟨_, rfl, Or.inl rfl⟩
    · exact ⟨_, rfl, Or.inl rfl⟩
    · exact ⟨_, rfl, Or.inl rfl⟩
  · split
    · exact ⟨_, rfl, Or.inl rfl⟩
    · next token _ =>
      split
      · next h => exact ⟨_, rfl, Or.inr ⟨token, by rw [h]⟩⟩
      · next h => exact ⟨_, rfl, Or.inr ⟨token, by rw [h]⟩⟩

/-- The state in which `admission` ends is that of `authenticate`. -/
theorem admit_state (w : World) (r : Request) (permission : String) (g : Gateway) :
    (admission w r permission g).2 = (authenticate w r.credentials g).2 := by
  unfold admission
  split
  · next h => rw [h]
  · next h =>
    rw [h]
    split
    · rfl
    · split <;> rfl

theorem enter_effect (w : World) (r : Request) (g : Gateway) :
    ∃ m, (enter w r g).2 = { g with auth := m } ∧ Renews w.auth g.auth m := by
  unfold enter
  split
  · exact ⟨_, rfl, Or.inl rfl⟩
  · next permission _ =>
    have h := authenticate_effect w r.credentials g
    rw [← admit_state w r permission g] at h
    split
    · next hgate =>
      rw [hgate] at h
      exact h
    · next hgate =>
      rw [hgate] at h
      exact h

/-! ### Steps -/

/-- One step: a request, or a move of a rollback timer. -/
inductive Action where
  | request (w : World) (r : Request)
  /-- time passes for the timers -/
  | tick
  /-- the timer of `txid` reaches its deadline -/
  | fire (txid : String)
  /-- its first section -/
  | expire (txid : String)
  /-- its second section -/
  | restore (env : Configd.Env) (txid : String)
  /-- its next applier call, or its audit row -/
  | reapply (fault : Bool) (txid : String)

/-- The transition function; a timer step that is not due has no successor. -/
def step (g : Gateway) : Action → Option (Except Exn Json × Gateway)
  | .request w r => some (dispatch w r g)
  | .tick => some (.ok .null, { g with store := { g.store with clock := g.store.clock + 1 } })
  | .fire txid => (Configd.fire txid g.store).map fun s => (.ok .null, { g with store := s })
  | .expire txid => (Configd.expire txid g.store).map fun s => (.ok .null, { g with store := s })
  | .restore env txid => (Configd.restore env txid g.store).map fun r =>
      (r.1.map fun _ => .null, { g with store := r.2 })
  | .reapply fault txid => (Configd.reapply fault txid g.store).map fun r =>
      (r.1.map fun _ => .null, { g with store := r.2 })

/-- A run of the gateway. -/
abbrev GatewayRun := Run step

/-- A step of a run. -/
abbrev GatewayStep := Machine.Step Gateway Action (Except Exn Json)

/-! ### Timers -/

section

variable {g g' : Gateway} {a : Action} {o : Except Exn Json}

/-- The document a timer is about to restore. -/
def restoring (g : Gateway) (txid : String) : Option Obj :=
  match Dict.lookup txid g.store.timers with
  | some (.restoring previous) => some previous
  | _ => none

/-- The moves of a timer leave the sessions; only its second section changes the running
configuration. -/
theorem timer_effect (hs : step g a = some (o, g')) (ha : ∀ w r, a ≠ .request w r) :
    g'.auth = g.auth ∧ (g'.store.running = g.store.running ∨
      ∃ env txid previous, a = .restore env txid ∧ restoring g txid = some previous ∧
        g'.store.running = previous) := by
  cases a with
  | request w r => exact absurd rfl (ha w r)
  | tick =>
    obtain ⟨-, rfl⟩ := Prod.mk.inj (Option.some.inj hs)
    exact ⟨rfl, Or.inl rfl⟩
  | fire txid =>
    obtain ⟨s, h, heq⟩ := Option.map_eq_some_iff.mp hs
    obtain ⟨-, rfl⟩ := Prod.mk.inj heq
    refine ⟨rfl, Or.inl ?_⟩
    unfold Configd.fire at h
    split at h
    · split at h
      · rw [← Option.some.inj h]
      · cases h
    · cases h
  | expire txid =>
    obtain ⟨s, h, heq⟩ := Option.map_eq_some_iff.mp hs
    obtain ⟨-, rfl⟩ := Prod.mk.inj heq
    refine ⟨rfl, Or.inl ?_⟩
    unfold Configd.expire at h
    split at h
    · split at h
      · split at h
        · rw [← Option.some.inj h]
        · rw [← Option.some.inj h]
      · rw [← Option.some.inj h]
    · cases h
  | restore env txid =>
    obtain ⟨⟨x, s⟩, h, heq⟩ := Option.map_eq_some_iff.mp hs
    obtain ⟨-, rfl⟩ := Prod.mk.inj heq
    refine ⟨rfl, Or.inr ⟨env, txid, ?_⟩⟩
    unfold Configd.restore at h
    unfold restoring
    cases ht : Dict.lookup txid g.store.timers with
    | none => simp [ht] at h
    | some phase =>
      cases phase with
      | restoring previous =>
        simp only [ht] at h
        refine ⟨previous, rfl, rfl, ?_⟩
        rcases Configd.resetTo_cases env.faults.rollback previous g.store with hr | ⟨-, -, hr⟩
        · rw [hr] at h
          obtain ⟨-, rfl⟩ := Prod.mk.inj (Option.some.inj h)
          rfl
        · rw [hr] at h
          obtain ⟨-, rfl⟩ := Prod.mk.inj (Option.some.inj h)
          rfl
      | _ => simp [ht] at h
  | reapply fault txid =>
    obtain ⟨⟨x, s⟩, h, heq⟩ := Option.map_eq_some_iff.mp hs
    obtain ⟨-, rfl⟩ := Prod.mk.inj heq
    refine ⟨rfl, Or.inl ?_⟩
    unfold Configd.reapply at h
    split at h
    · obtain ⟨-, rfl⟩ := Prod.mk.inj (Option.some.inj h)
      rfl
    · split at h
      · obtain ⟨-, rfl⟩ := Prod.mk.inj (Option.some.inj h)
        rfl
      · obtain ⟨-, rfl⟩ := Prod.mk.inj (Option.some.inj h)
        have hdocs := Configd.docs_of_same (Configd.same_addAudit
          { g.store with timers := Dict.erase txid g.store.timers } txid "system" "local" "rollback" true
          "rollback timer expired" [])
        exact congrArg Configd.Docs.running hdocs
    · cases h

/-- A request is refused, or its handler runs with the sessions that admission leaves. -/
theorem request_effect {w : World} {r : Request} (hs : step g (.request w r) = some (o, g')) :
    ∃ m, Renews w.auth g.auth m ∧ (g' = { g with auth := m } ∧ (∃ e, (enter w r g).1 = .error e) ∨
      ∃ ctx, (enter w r g).1 = .ok ctx ∧ o = answer (handle w r.route ctx { g with auth := m }).1 ∧
        g' = (handle w r.route ctx { g with auth := m }).2) := by
  obtain ⟨m, hm, hrenews⟩ := enter_effect w r g
  have hd := Option.some.inj hs
  rw [dispatch_eq] at hd
  refine ⟨m, hrenews, ?_⟩
  rcases he : enter w r g with ⟨e | ctx, gm⟩
  · rw [he] at hd hm
    obtain ⟨-, hg⟩ := Prod.mk.inj hd
    exact Or.inl ⟨hg.symm.trans hm, e, rfl⟩
  · rw [he] at hd hm
    obtain ⟨ho, hg⟩ := Prod.mk.inj hd
    have hm : gm = { g with auth := m } := hm
    subst hm
    exact Or.inr ⟨ctx, rfl, ho.symm, hg.symm⟩

end

/-! ### A small installation -/

/-- A request of a browser with its CSRF token. -/
def Request.browser (route : Route) (cookie : Option String) (body : Obj) : Request where
  route := route
  isGet := false
  credentials := ⟨none, cookie, "csrf"⟩
  sourceIp := "192.168.1.20"
  agent := "browser"
  body := .json (.obj body)

/-- First-run setup of `alice`, which signs her in. -/
def setupAlice : Action := .request (World.plain 0)
  (.browser .postSetup none [("username", .str "alice"), ("password", .str "Correct-Horse-1")])

/-- `alice` signs in. -/
def loginAlice : Action := .request (World.plain 0)
  (.browser .postLogin none [("username", .str "alice"), ("password", .str "Correct-Horse-1")])

/-- `alice` gives herself another role. -/
def demoteAlice : Action := .request (World.plain 1)
  (.browser (.putUser "alice") (some "token") [("role", .str "read-only")])

end Sbegw.Api
