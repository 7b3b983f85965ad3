import Sbegw.Api.Requests

/-!
# What a change writes

The top-level sections each change of the API may write.  Everything a change is made of writes one
section; a change out of several writes theirs.
-/

namespace Sbegw.Api

open Configd (Draft Mutation inside insideOr)

/-- The change writes these sections only. -/
def Writes (keys : List String) (m : Mutation) : Prop :=
  ∀ cfg cfg', m cfg = .ok cfg' → ∀ k, k ∉ keys → Dict.lookup k cfg' = Dict.lookup k cfg

namespace Writes

variable {keys : List String} {m m' : Mutation}

theorem mono {keys' : List String} (h : Writes keys m) (hsub : ∀ k ∈ keys, k ∈ keys') :
    Writes keys' m :=
  fun cfg cfg' hm k hk => h cfg cfg' hm k fun hmem => hk (hsub k hmem)

theorem error (e : Exn) : Writes keys fun _ => .error e := by
  intro cfg cfg' h
  cases h

theorem set {key : String} (hkey : key ∈ keys) (v : Obj → Json) :
    Writes keys fun cfg => .ok (Dict.set key (v cfg) cfg) := by
  intro cfg cfg' h k hk
  have hne : k ≠ key := fun hkk => hk (hkk ▸ hkey)
  rw [← Except.ok.inj h, Dict.lookup_set_of_ne hne]

theorem map_set {key : String} (hkey : key ∈ keys) {x : Except Exn Obj} {cfg cfg' : Obj}
    (h : (x.map fun o => Dict.set key (.obj o) cfg) = .ok cfg') (k : String) (hk : k ∉ keys) :
    Dict.lookup k cfg' = Dict.lookup k cfg := by
  have hne : k ≠ key := fun hkk => hk (hkk ▸ hkey)
  cases x with
  | error e => cases h
  | ok o => rw [← Except.ok.inj h, Dict.lookup_set_of_ne hne]

theorem inside {key : String} (hkey : key ∈ keys) (bad : Exn) (f : Obj → Except Exn Obj) :
    Writes keys (Configd.inside key bad f) := by
  intro cfg cfg' h
  unfold Configd.inside at h
  split at h
  · exact map_set hkey h
  · cases h
  · cases h

theorem insideOr {key : String} (hkey : key ∈ keys) (d : Obj) (bad : Exn)
    (f : Obj → Except Exn Obj) : Writes keys (Configd.insideOr key d bad f) := by
  intro cfg cfg' h
  unfold Configd.insideOr at h
  split at h
  · exact map_set hkey h
  · cases h

theorem andThen (h : Writes keys m) (h' : Writes keys m') :
    Writes keys fun cfg => m cfg >>= m' := by
  intro cfg cfg' hok k hk
  cases hm : m cfg with
  | error e =>
    simp only [hm] at hok
    cases hok
  | ok t =>
    simp only [hm] at hok
    exact (h' t cfg' hok k hk).trans (h cfg t hm k hk)

theorem withKey (key : Json) (base : String) {f : String → Mutation}
    (h : ∀ k, Writes keys (f k)) : Writes keys (withKey key base f) := by
  intro cfg cfg' hok
  unfold Api.withKey at hok
  split at hok
  · exact h _ cfg cfg' hok
  · cases hok
  · cases hok
  · cases hok

end Writes

/-- The changes a handler may make write these sections only. -/
def Drafts (keys : List String) (x : Except Exn Draft) : Prop :=
  ∀ d, x = .ok d → Writes keys d.mutate

namespace Drafts

variable {keys : List String} {α : Type}

theorem bind {x : Except Exn α} {f : α → Except Exn Draft} (h : ∀ a, Drafts keys (f a)) :
    Drafts keys (x >>= f) := by
  intro d hd
  cases x with
  | error e => cases hd
  | ok a => exact h a d hd

theorem error (e : Exn) : Drafts keys (.error e) := by
  intro d hd
  cases hd

theorem change {m : Mutation} (h : Writes keys m) (ctx : Ctx) (summary : String)
    (confirm : Option Bool) : Drafts keys (pure (ctx.change summary m confirm)) := by
  intro d hd
  rw [← Except.ok.inj hd]
  exact h

end Drafts

/-- The sections a route's change may write; a backup may write all. -/
def Route.sections : Route → List String
  | .putSystem => ["system"]
  | .putController => ["controller"]
  | .putDpi => ["dpi"]
  | .putPort _ => ["ports"]
  | .postNetwork | .putNetwork _ => ["networks"]
  | .deleteNetwork _ => ["networks", "ports"]
  | .putWan _ => ["wans"]
  | .putFirewall => ["firewall"]
  | .putNat => ["nat"]
  | .putRouting => ["routing", "policy_routes"]
  | .putServices => ["qos", "dns"]
  | .putRadio _ | .postWifiNetwork | .putWifiNetwork _ | .deleteWifiNetwork _ | .postMld | .putMld _
  | .deleteMld _ | .putRegulatory | .putChannelSettings => ["wifi"]
  | _ => []

section

variable (ctx : Ctx)

theorem updateService_writes {key : String} {keys : List String} (hkey : key ∈ keys) (body : Obj) :
    Writes keys (updateService key body) := by
  intro cfg cfg' h k hk
  unfold updateService at h
  split at h
  · rw [Except.ok.inj h]
  · exact Writes.insideOr hkey _ _ _ cfg cfg' h k hk
  · cases h

theorem putServices_writes : Drafts ["qos", "dns"] (putServices ctx) := by
  refine Drafts.bind fun body => Drafts.bind fun _ => ?_
  have hm : Writes ["qos", "dns"]
      fun cfg => (updateService "qos" body cfg).bind (updateService "dns" body) :=
    Writes.andThen (updateService_writes (by simp) body) (updateService_writes (by simp) body)
  dsimp only
  split
  · exact Drafts.error _
  · exact Drafts.change hm ctx _ _

theorem putRouting_writes : Drafts ["routing", "policy_routes"] (putRouting ctx) := by
  refine Drafts.bind fun body => Drafts.change ?_ ctx _ _
  intro cfg cfg' h k hk
  split at h
  · next routes _ =>
    rw [Writes.inside (by simp) _ _ _ cfg' h k hk]
    exact Writes.set (by simp) (fun _ => routes) cfg _ rfl k hk
  · exact Writes.inside (by simp) _ _ cfg cfg' h k hk

theorem deleteNetwork_writes (nid : String) :
    Drafts ["networks", "ports"] (deleteNetwork nid ctx) := by
  refine Drafts.change ?_ ctx _ _
  intro cfg cfg' h k hk
  dsimp only at h
  generalize hm : Configd.inside "networks" _ _ cfg = x at h
  cases x with
  | error e => cases h
  | ok t =>
    rw [ok_bind] at h
    rw [Writes.inside (by simp) _ _ t cfg' h k hk, Writes.inside (by simp) _ _ cfg t hm k hk]

theorem putRadio_writes (caps : Schema.Capabilities) (rid : String) :
    Drafts ["wifi"] (putRadio caps rid ctx) := by
  refine Drafts.bind fun body => ?_
  split
  · exact Drafts.error _
  · exact Drafts.change (.inside (by simp) _ _) ctx _ _

theorem postMld_writes (caps : Schema.Capabilities) : Drafts ["wifi"] (postMld caps ctx) := by
  refine Drafts.bind fun body => Drafts.bind fun r => ?_
  dsimp only
  split
  · exact Drafts.error _
  · exact Drafts.change (.withKey _ _ fun _ => .inside (by simp) _ _) ctx _ _

/-- **What a route may change**: its change writes the sections of the route only. -/
theorem draftOf_writes {w : World} {route : Route} {x : Except Exn Draft}
    (h : draftOf w ctx route = some x) (hroute : route ≠ .postBackup) :
    Drafts route.sections x := by
  cases route with
  | putSystem =>
    cases h
    exact Drafts.bind fun _ => Drafts.change (.inside (by simp [Route.sections]) _ _) ctx _ _
  | putController =>
    cases h
    exact Drafts.bind fun _ => Drafts.bind fun _ =>
      Drafts.change (.inside (by simp [Route.sections]) _ _) ctx _ _
  | putDpi =>
    cases h
    exact Drafts.bind fun _ => Drafts.bind fun _ =>
      Drafts.change (.inside (by simp [Route.sections]) _ _) ctx _ _
  | putPort id =>
    cases h
    exact Drafts.bind fun _ => Drafts.change (.inside (by simp [Route.sections]) _ _) ctx _ _
  | postNetwork =>
    cases h
    exact Drafts.bind fun _ => Drafts.bind fun _ =>
      Drafts.change (.withKey _ _ fun _ => .inside (by simp [Route.sections]) _ _) ctx _ _
  | putNetwork id =>
    cases h
    exact Drafts.bind fun _ => Drafts.change (.inside (by simp [Route.sections]) _ _) ctx _ _
  | deleteNetwork id =>
    cases h
    exact deleteNetwork_writes ctx id
  | putWan id =>
    cases h
    exact Drafts.bind fun _ => Drafts.change (.inside (by simp [Route.sections]) _ _) ctx _ _
  | putFirewall =>
    cases h
    exact Drafts.bind fun _ => Drafts.change (.inside (by simp [Route.sections]) _ _) ctx _ _
  | putNat =>
    cases h
    exact Drafts.bind fun _ => Drafts.change (.inside (by simp [Route.sections]) _ _) ctx _ _
  | putRouting =>
    cases h
    exact putRouting_writes ctx
  | putServices =>
    cases h
    exact putServices_writes ctx
  | putRadio id =>
    cases h
    exact putRadio_writes ctx _ id
  | postWifiNetwork =>
    cases h
    exact Drafts.bind fun _ => Drafts.bind fun _ =>
      Drafts.change (.withKey _ _ fun _ => .inside (by simp [Route.sections]) _ _) ctx _ _
  | putWifiNetwork id =>
    cases h
    exact Drafts.bind fun _ => Drafts.change (.inside (by simp [Route.sections]) _ _) ctx _ _
  | deleteWifiNetwork id =>
    cases h
    exact Drafts.change (.inside (by simp [Route.sections]) _ _) ctx _ _
  | postMld =>
    cases h
    exact postMld_writes ctx _
  | putMld id =>
    cases h
    exact Drafts.bind fun _ => Drafts.change (.inside (by simp [Route.sections]) _ _) ctx _ _
  | deleteMld id =>
    cases h
    exact Drafts.change (.inside (by simp [Route.sections]) _ _) ctx _ _
  | putRegulatory =>
    cases h
    exact Drafts.bind fun _ => Drafts.change (.inside (by simp [Route.sections]) _ _) ctx _ _
  | putChannelSettings =>
    cases h
    exact Drafts.bind fun _ => Drafts.change (.inside (by simp [Route.sections]) _ _) ctx _ _
  | postBackup => exact absurd rfl hroute
  | _ => cases h

theorem fixedIp_writes (client : Obj) (mac : String) (address : Json) :
    Writes ["networks"] (fixedIp client mac address ctx).mutate :=
  .inside (by simp) _ _

end

theorem applyDesired_writes (desired : Desired) :
    Writes ["networks", "wifi", "dns", "ports"] (applyDesired desired) := by
  intro cfg cfg' h k hk
  unfold applyDesired at h
  dsimp only at h
  generalize hwifi : Configd.inside "wifi" _ _ _ = x at h
  cases x with
  | error e => cases h
  | ok t =>
    rw [ok_bind] at h
    generalize hdns : Configd.inside "dns" _ _ _ = y at h
    cases y with
    | error e => cases h
    | ok u =>
      rw [ok_bind] at h
      have hset := @Writes.set ["networks", "wifi", "dns", "ports"] "networks" (by simp)
        (fun _ => .obj desired.networks) cfg _ rfl k hk
      have ht := Writes.inside (by simp) _ _ _ t hwifi k hk
      have hu := Writes.inside (by simp) _ _ t u hdns k hk
      rw [← hset, ← ht, ← hu]
      split at h
      · rw [Except.ok.inj h]
      · exact Writes.inside (by simp) _ _ u cfg' h k hk

theorem channelDraft_writes (radio : String) (channel : ℤ) :
    Writes ["wifi"] (channelDraft radio channel).mutate :=
  .inside (by simp) _ _

end Sbegw.Api
