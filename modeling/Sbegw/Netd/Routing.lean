import Sbegw.Netd
import Sbegw.Schema.Validate
import Mathlib.Data.List.Chain

/-!
# Routes and rules

`NetDaemon.apply_routing` on the routing tables, where every command succeeds.  It only replaces and
adds, so what an earlier configuration had installed goes away only where a later one writes over it.
-/

namespace Sbegw.Netd

open Text Schema

/-! ### The tables -/

/-- What a route is found by. -/
structure RouteKey where
  family : ℕ
  /-- the address and the length of the prefix -/
  network : Option (ℕ × ℕ)
  metric : ℤ
  table : String
deriving DecidableEq

inductive Target where
  /-- `blackhole`, `unreachable` -/
  | special (kind : String)
  | hop (via dev : Option String)
deriving DecidableEq

/-- An fwmark rule. -/
structure MarkRule where
  mark : ℤ
  table : String
  priority : ℕ
deriving DecidableEq

/-- What the gateway has installed. -/
structure Tables where
  routes : Dict RouteKey Target
  rules : List MarkRule

/-- After a boot. -/
def Tables.empty : Tables := ⟨[], []⟩

/-- `ip route replace`: a route of the same prefix and metric in the table makes way. -/
def Tables.put (e : RouteKey × Target) (k : Tables) : Tables := { k with routes := Dict.set e.1 e.2 k.routes }

/-- `ip rule add`: a rule that is there is not added again. -/
def Tables.addRule (r : MarkRule) (k : Tables) : Tables :=
  if r ∈ k.rules then k else { k with rules := k.rules ++ [r] }

/-- The metric that counts: the kernel has no IPv6 route of metric 0. -/
def effectiveMetric (family : ℕ) (metric : ℤ) : ℤ := if family = 6 ∧ metric = 0 then 1024 else metric

/-- `rtnl.replace_route`, the route it asks for. -/
def replaceRoute (network : Option (ℕ × ℕ)) (via dev : Option String) (metric : ℤ) (table kind : String)
    (family : ℕ) : RouteKey × Target :=
  (⟨family, network, effectiveMetric family metric, table⟩,
    if kind = "blackhole" ∨ kind = "unreachable" then .special kind else .hop via dev)

/-! ### What a configuration asks for -/

/-- `x` where it is used only if it is truthy. -/
def textIf (x : Json) : Option String := if x.truthy then some (pyStr x) else none

/-- `"default"` -/
def defaultNetwork4 : Option (ℕ × ℕ) := some (0, 0)

/-- One entry of `routing.static`. -/
def staticRoute (route : Json) : Except Exn (RouteKey × Target) :=
  match route.get? "destination" with
  | some (.str s) =>
    let metric := match route.getD "metric" (.int 100) with
      | .int m => m
      | _ => 100
    .ok (replaceRoute ((Ip.ipInterface s).map fun n => (n.networkAddress, n.prefixlen))
      (textIf (route.getD "via" .null)) (textIf (route.getD "interface" .null)) metric "main"
      (pyStr (route.getD "type" (.str "gateway"))) (if ':' ∈ s.toList then 6 else 4))
  | some _ => .error .type
  | none => .error (.key "'destination'")

/-- `routing.get("static", [])` -/
def staticEntries (cfg : Obj) : List Json :=
  match Dict.lookup "static" (sectionOf cfg "routing") with
  | some (.arr xs) => xs
  | _ => []

/-- The table of a WAN: its place among the WANs, from 1 on. -/
def wanTable (place : ℕ) : String := ofNat (100 + place)

/-- The default route of a WAN's table, where its gateway is known. -/
def wanRoute (gateway : String → Option String) (cfg : Obj) (e : (String × Json) × ℕ) :
    Option (RouteKey × Target) :=
  let iface := wanInterface e.1.2 cfg
  (gateway iface).map fun gw =>
    replaceRoute defaultNetwork4 (some gw) (some iface) 100 (wanTable e.2) "gateway" 4

def wanRoutes (gateway : String → Option String) (cfg : Obj) : List (RouteKey × Target) :=
  ((Dict.sorted (sectionOf cfg "wans")).zipIdx 1).filterMap (wanRoute gateway cfg)

/-- `route.get("mark") or (0x100 + index)`, as `hex` takes it. -/
def markOf (index : ℕ) (mark : Json) : Except Exn ℤ :=
  if mark.truthy then
    match mark with
    | .int i => .ok i
    | .bool _ => .ok 1
    | _ => .error .type
  else .ok (0x100 + index)

/-- One entry of `policy_routes`: its rule, if it has one. -/
def policyRule (wanIds : List String) (e : Json × ℕ) : Except Exn (Option MarkRule) :=
  match e.1 with
  | .obj _ =>
    if !(e.1.getD "enabled" (.bool true)).truthy then .ok none
    else match e.1.getD "wan" .null with
      | .str target =>
        match wanIds.idxOf? target with
        | some place => (markOf e.2 (e.1.getD "mark" .null)).map fun mark =>
            some ⟨mark, wanTable (place + 1), 1000 + e.2⟩
        | none => .ok none
      | _ => .ok none
  | _ => .error .attribute

/-- `sorted(cfg.get("wans", {}))` -/
def wanIds (cfg : Obj) : List String := Dict.keys (Dict.sorted (sectionOf cfg "wans"))

/-- `cfg.get("policy_routes", [])`, as `enumerate` goes through it; the schema does not look at it. -/
def policyEntries (cfg : Obj) : Except Exn (List Json) :=
  match (Dict.lookup "policy_routes" cfg).getD (.arr []) with
  | .arr xs => .ok xs
  | .obj kvs => .ok (kvs.map fun e => .str e.1)
  | .str s => .ok (s.toList.map fun c => .str (String.ofList [c]))
  | _ => .error .type

/-! ### The function -/

/-- A loop that reads an entry and acts on it; an exception ends it. -/
def eachDo {α β : Type} (read : α → Except Exn β) (act : β → Tables → Tables) :
    List α → Tables → Except Exn Unit × Tables
  | [], k => (.ok (), k)
  | x :: xs, k =>
    match read x with
    | .error e => (.error e, k)
    | .ok b => eachDo read act xs (act b k)

/-- The rule of an entry, if it has one. -/
def addRuleIf (r : Option MarkRule) (k : Tables) : Tables :=
  match r with
  | some r => k.addRule r
  | none => k

/-- The message about dynamic routing. -/
def frrMessage (vtysh : Bool) (cfg : Obj) : Except Exn (List String) :=
  match (Dict.lookup "frr" (sectionOf cfg "routing")).getD (.obj []) with
  | .obj frr =>
    .ok (if ((Dict.lookup "enabled" frr).getD .null).truthy && !vtysh then
      ["dynamic routing is enabled but FRR is not installed; add the frr package to the rootfs"] else [])
  | _ => .error .attribute

/-- `NetDaemon.apply_routing` -/
def applyRouting (gateway : String → Option String) (vtysh : Bool) (cfg : Obj) (k : Tables) :
    Except Exn (List String) × Tables :=
  match eachDo staticRoute Tables.put (staticEntries cfg) k with
  | (.error e, k) => (.error e, k)
  | (.ok (), k) =>
    let k := (wanRoutes gateway cfg).foldl (fun k e => k.put e) k
    match policyEntries cfg with
    | .error e => (.error e, k)
    | .ok entries =>
      match eachDo (policyRule (wanIds cfg)) addRuleIf (entries.zipIdx 1) k with
      | (.error e, k) => (.error e, k)
      | (.ok (), k) => (frrMessage vtysh cfg, k)

/-! ### The property -/

/-- Routes and rules that are asked for. -/
structure Asked where
  routes : List (RouteKey × Target)
  rules : List MarkRule
deriving DecidableEq

def Asked.nothing : Asked := ⟨[], []⟩

/-- One apply: the gateways the kernel knows, and the configuration. -/
structure RoutingCall where
  gateway : String → Option String
  vtysh : Bool
  cfg : Obj

/-- The policy routes of a configuration. -/
def RoutingCall.policies (c : RoutingCall) : List (Json × ℕ) :=
  ((policyEntries c.cfg).toOption.getD []).zipIdx 1

/-- What the configuration asks for. -/
def RoutingCall.asked (c : RoutingCall) : Asked where
  routes := (staticEntries c.cfg).filterMap (fun e => (staticRoute e).toOption) ++
    wanRoutes c.gateway c.cfg
  rules := c.policies.filterMap fun e => (policyRule (wanIds c.cfg) e).toOption.join

/-- There is exactly what is asked for. -/
structure Installed (a : Asked) (k : Tables) : Prop where
  routes : ∀ key target, Dict.lookup key k.routes = some target ↔ (key, target) ∈ a.routes
  rules : ∀ r, r ∈ k.rules ↔ r ∈ a.rules

/-- The configuration can be applied to its end, and asks for no two routes in one place. -/
structure Readable (c : RoutingCall) : Prop where
  statics : ∀ e ∈ staticEntries c.cfg, ∃ r, staticRoute e = .ok r
  entries : ∃ xs, policyEntries c.cfg = .ok xs
  policies : ∀ e ∈ c.policies, ∃ r, policyRule (wanIds c.cfg) e = .ok r
  single : ∀ key t u, (key, t) ∈ c.asked.routes → (key, u) ∈ c.asked.routes → t = u

/-- Whatever was asked for is asked for again: its place by some route, its rule as it was. -/
structure Extends (a b : Asked) : Prop where
  routes : ∀ key t, (key, t) ∈ a.routes → ∃ u, (key, u) ∈ b.routes
  rules : ∀ r ∈ a.rules, r ∈ b.rules

/-! ### The loops -/

/-- A loop whose entries can all be read acts on what it reads. -/
theorem eachDo_of_read {α β : Type} {read : α → Except Exn β} (act : β → Tables → Tables) :
    ∀ {xs : List α}, (∀ x ∈ xs, ∃ b, read x = .ok b) → ∀ k : Tables,
      eachDo read act xs k =
        (.ok (), (xs.filterMap fun x => (read x).toOption).foldl (fun k b => act b k) k)
  | [], _, k => rfl
  | x :: xs, h, k => by
    obtain ⟨b, hb⟩ := h x List.mem_cons_self
    rw [eachDo, hb, List.filterMap_cons, hb]
    exact eachDo_of_read act (fun y hy => h y (List.mem_cons_of_mem _ hy)) (act b k)

theorem rules_foldl_put (es : List (RouteKey × Target)) (k : Tables) :
    (es.foldl (fun k e => k.put e) k).rules = k.rules := by
  induction es generalizing k with
  | nil => rfl
  | cons e es ih =>
    rw [List.foldl_cons, ih]
    rfl

/-- Where no two routes share a place, the routes put are there, beside those of other places. -/
theorem lookup_foldl_put {es : List (RouteKey × Target)}
    (hone : ∀ key t u, (key, t) ∈ es → (key, u) ∈ es → t = u) (k : Tables) (key : RouteKey) (t : Target) :
    Dict.lookup key (es.foldl (fun k e => k.put e) k).routes = some t ↔
      (key, t) ∈ es ∨ Dict.lookup key k.routes = some t ∧ ∀ u, (key, u) ∉ es := by
  induction es generalizing k with
  | nil => simp
  | cons e es ih =>
    obtain ⟨key', t'⟩ := e
    have hone' : ∀ key t u, (key, t) ∈ es → (key, u) ∈ es → t = u := fun key t u ht hu =>
      hone key t u (List.mem_cons_of_mem _ ht) (List.mem_cons_of_mem _ hu)
    rw [List.foldl_cons, ih hone']
    show _ ∨ Dict.lookup key (Dict.set key' t' k.routes) = some t ∧ _ ↔ _
    rw [Dict.lookup_set]
    by_cases hk : key = key'
    · subst hk
      have hfirst : (key, t') ∈ (key, t') :: es := List.mem_cons_self
      rw [if_pos rfl]
      constructor
      · rintro (h | ⟨h, -⟩)
        · exact Or.inl (List.mem_cons_of_mem _ h)
        · rw [Option.some.injEq] at h
          exact Or.inl (h ▸ hfirst)
      · rintro (h | ⟨-, h⟩)
        · have heq : t' = t := hone key t' t hfirst h
          by_cases hmem : (key, t) ∈ es
          · exact Or.inl hmem
          · refine Or.inr ⟨congrArg some heq, fun u hu => hmem ?_⟩
            rwa [hone key t u h (List.mem_cons_of_mem _ hu)]
        · exact absurd hfirst (h t')
    · have hne : ∀ u, (key, u) ∈ (key', t') :: es ↔ (key, u) ∈ es := by
        intro u
        simp [hk]
      rw [if_neg hk, hne t]
      simp only [hne]

theorem addRule_spec (k : Tables) (r : Option MarkRule) :
    (addRuleIf r k).routes = k.routes ∧ ∀ q, q ∈ (addRuleIf r k).rules ↔ q ∈ k.rules ∨ r = some q := by
  cases r with
  | none => exact ⟨rfl, fun q => by simp [addRuleIf]⟩
  | some r =>
    unfold addRuleIf Tables.addRule
    by_cases h : r ∈ k.rules
    · simp only [h, if_true, true_and]
      intro q
      constructor
      · exact Or.inl
      · rintro (hq | hq)
        · exact hq
        · rwa [← Option.some.inj hq]
    · simp only [h, if_false, true_and]
      intro q
      simp [eq_comm]

theorem foldl_addRule_spec (rs : List (Option MarkRule)) (k : Tables) :
    (rs.foldl (fun k r => addRuleIf r k) k).routes = k.routes ∧
      ∀ q, q ∈ (rs.foldl (fun k r => addRuleIf r k) k).rules ↔ q ∈ k.rules ∨ some q ∈ rs := by
  induction rs generalizing k with
  | nil => simp
  | cons r rs ih =>
    obtain ⟨hroutes, hrules⟩ := ih (addRuleIf r k)
    obtain ⟨hroutes', hrules'⟩ := addRule_spec k r
    rw [List.foldl_cons]
    refine ⟨hroutes.trans hroutes', fun q => ?_⟩
    rw [hrules, hrules', List.mem_cons, or_assoc, eq_comm]

/-! ### One apply -/

/-- **What a readable configuration does to the tables.** -/
theorem applyRouting_spec {c : RoutingCall} (h : Readable c) (k : Tables) :
    let k' := (applyRouting c.gateway c.vtysh c.cfg k).2
    k'.routes = (c.asked.routes.foldl (fun k e => k.put e) k).routes ∧
      ∀ q, q ∈ k'.rules ↔ q ∈ k.rules ∨ q ∈ c.asked.rules := by
  intro k'
  obtain ⟨xs, hxs⟩ := h.entries
  have hpol : c.policies = xs.zipIdx 1 := by simp [RoutingCall.policies, hxs, Except.toOption]
  have hpols : ∀ e ∈ xs.zipIdx 1, ∃ r, policyRule (wanIds c.cfg) e = .ok r := hpol ▸ h.policies
  have hk' : k' = ((xs.zipIdx 1).filterMap fun e => (policyRule (wanIds c.cfg) e).toOption).foldl
      (fun k r => addRuleIf r k) (c.asked.routes.foldl (fun k e => k.put e) k) := by
    show (applyRouting c.gateway c.vtysh c.cfg k).2 = _
    unfold applyRouting
    rw [eachDo_of_read Tables.put h.statics k]
    simp only [hxs]
    rw [eachDo_of_read addRuleIf hpols, RoutingCall.asked, List.foldl_append]
  obtain ⟨hroutes, hrules⟩ := foldl_addRule_spec
    ((xs.zipIdx 1).filterMap fun e => (policyRule (wanIds c.cfg) e).toOption)
    (c.asked.routes.foldl (fun k e => k.put e) k)
  refine ⟨by rw [hk', hroutes], fun q => ?_⟩
  rw [hk', hrules, rules_foldl_put]
  have hjoin : some q ∈ ((xs.zipIdx 1).filterMap fun e => (policyRule (wanIds c.cfg) e).toOption) ↔
      q ∈ c.asked.rules := by
    simp only [RoutingCall.asked, hpol, List.mem_filterMap, Option.join_eq_some_iff]
  rw [hjoin]

/-- **One apply** of a configuration that extends the last one leaves exactly what it asks for. -/
theorem installed_applyRouting {a : Asked} {k : Tables} {c : RoutingCall} (h : Installed a k)
    (hc : Readable c) (hext : Extends a c.asked) :
    Installed c.asked (applyRouting c.gateway c.vtysh c.cfg k).2 := by
  obtain ⟨hroutes, hrules⟩ := applyRouting_spec hc k
  refine ⟨fun key t => ?_, fun q => ?_⟩
  · rw [hroutes, lookup_foldl_put hc.single]
    constructor
    · rintro (hmem | ⟨hold, hnew⟩)
      · exact hmem
      · obtain ⟨u, hu⟩ := hext.routes key t ((h.routes key t).mp hold)
        exact absurd hu (hnew u)
    · exact Or.inl
  · rw [hrules, h.rules]
    constructor
    · rintro (hold | hnew)
      · exact hext.rules q hold
      · exact hnew
    · exact Or.inr

/-! ### Runs -/

/-- The applies, one after the other. -/
def applyAllRouting (k : Tables) (calls : List RoutingCall) : Tables :=
  calls.foldl (fun k c => (applyRouting c.gateway c.vtysh c.cfg k).2) k

/-- What is asked for along a run: nothing at first. -/
def askedAlong (calls : List RoutingCall) : List Asked := Asked.nothing :: calls.map RoutingCall.asked

/-- **Routing is that of the current configuration** after every run in which every configuration is
readable and extends the one before it. -/
theorem routing_current (calls : List RoutingCall) (hread : ∀ c ∈ calls, Readable c)
    (hchain : (askedAlong calls).IsChain Extends) :
    Installed ((askedAlong calls).getLast (List.cons_ne_nil _ _)) (applyAllRouting Tables.empty calls) := by
  have hrun : ∀ (calls : List RoutingCall) (a : Asked) (k : Tables), Installed a k →
      (∀ c ∈ calls, Readable c) → (a :: calls.map RoutingCall.asked).IsChain Extends →
      Installed ((a :: calls.map RoutingCall.asked).getLast (List.cons_ne_nil _ _))
        (applyAllRouting k calls) := by
    intro calls
    induction calls with
    | nil => exact fun a k h _ _ => h
    | cons c calls ih =>
      intro a k h hread hchain
      rw [List.map_cons, List.isChain_cons_cons] at hchain
      have hstep := installed_applyRouting h (hread c List.mem_cons_self) hchain.1
      have hrest := ih _ _ hstep (fun d hd => hread d (List.mem_cons_of_mem _ hd)) hchain.2
      simp only [List.map_cons, List.getLast_cons_cons]
      exact hrest
  refine hrun calls Asked.nothing Tables.empty ⟨fun key t => ?_, fun q => ?_⟩ hread hchain
  · simp [Tables.empty, Asked.nothing]
  · simp [Tables.empty, Asked.nothing]

/-! ### One run that follows the configuration, and one that does not -/

/-- The default configuration with a static route. -/
def routedConfig (via : String) : Obj :=
  Dict.set "routing" (.obj [("static", .arr [.obj [("destination", .str "10.9.0.0/16"),
      ("via", .str via), ("type", .str "gateway"), ("metric", .int 100)]]),
    ("ecmp", .bool false), ("frr", .obj [("enabled", .bool false)])]) defaultEntries

/-- An apply while the uplink has a gateway. -/
def routedCall (cfg : Obj) : RoutingCall := ⟨fun _ => some "192.0.2.1", true, cfg⟩

theorem asked_routedConfig (via : String) (hvia : via ≠ "") : (routedCall (routedConfig via)).asked =
    ⟨[(⟨4, some (168361984, 16), 100, "main"⟩, .hop (some via) none),
      (⟨4, some (0, 0), 100, "101"⟩, .hop (some "192.0.2.1") (some "eth3"))], []⟩ := by
  have hstatic : (staticEntries (routedConfig via)).filterMap (fun e => (staticRoute e).toOption) =
      [(⟨4, some (168361984, 16), 100, "main"⟩, .hop (textIf (.str via)) none)] := by rfl
  have hwan : wanRoutes (fun _ => some "192.0.2.1") (routedConfig via) =
      [(⟨4, some (0, 0), 100, "101"⟩, .hop (some "192.0.2.1") (some "eth3"))] := by rfl
  have htext : textIf (.str via) = some via := by simp [textIf, Json.truthy, hvia, pyStr]
  have hrules : (routedCall (routedConfig via)).asked.rules = [] := by rfl
  have hroutes : (routedCall (routedConfig via)).asked.routes =
      (staticEntries (routedConfig via)).filterMap (fun e => (staticRoute e).toOption) ++
        wanRoutes (fun _ => some "192.0.2.1") (routedConfig via) := rfl
  rw [hstatic, hwan, htext] at hroutes
  have hboth : ∀ a : Asked, a = ⟨a.routes, a.rules⟩ := fun _ => rfl
  rw [hboth (routedCall (routedConfig via)).asked, hrules, hroutes]
  rfl

theorem readable_routedConfig (via : String) (hvia : via ≠ "") :
    Readable (routedCall (routedConfig via)) where
  statics := by
    have hentries : staticEntries (routedCall (routedConfig via)).cfg =
        [.obj [("destination", .str "10.9.0.0/16"), ("via", .str via), ("type", .str "gateway"),
          ("metric", .int 100)]] := by rfl
    intro e he
    rw [hentries, List.mem_singleton] at he
    subst he
    exact ⟨_, rfl⟩
  entries := ⟨[], by rfl⟩
  policies := by
    have hnone : (routedCall (routedConfig via)).policies = [] := by rfl
    intro e he
    rw [hnone] at he
    exact absurd he List.not_mem_nil
  single := by
    rw [asked_routedConfig via hvia]
    intro key t u ht hu
    simp only [List.mem_cons, Prod.mk.injEq, List.not_mem_nil, or_false] at ht hu
    rcases ht with ⟨rfl, rfl⟩ | ⟨rfl, rfl⟩
    · rcases hu with ⟨-, rfl⟩ | ⟨hkey, -⟩
      · rfl
      · exact absurd hkey (by decide)
    · rcases hu with ⟨hkey, -⟩ | ⟨-, rfl⟩
      · exact absurd hkey (by decide)
      · rfl

/-- A static route whose gateway is edited. -/
theorem routing_current_edit : Installed (routedCall (routedConfig "192.168.2.7")).asked
    (applyAllRouting Tables.empty
      [routedCall (routedConfig "192.168.2.6"), routedCall (routedConfig "192.168.2.7")]) := by
  have h6 := asked_routedConfig "192.168.2.6" (by decide)
  have h7 := asked_routedConfig "192.168.2.7" (by decide)
  refine routing_current [routedCall (routedConfig "192.168.2.6"), routedCall (routedConfig "192.168.2.7")]
    (fun c hc => ?_) ?_
  · simp only [List.mem_cons, List.not_mem_nil, or_false] at hc
    rcases hc with rfl | rfl
    · exact readable_routedConfig _ (by decide)
    · exact readable_routedConfig _ (by decide)
  · simp only [askedAlong, List.map_cons, List.map_nil, List.isChain_cons_cons, List.IsChain.singleton,
      and_true, h6, h7]
    refine ⟨⟨fun _ _ h => absurd h List.not_mem_nil, fun _ h => absurd h List.not_mem_nil⟩,
      ⟨fun key t ht => ?_, fun _ h => h⟩⟩
    simp only [List.mem_cons, Prod.mk.injEq, List.not_mem_nil, or_false] at ht
    rcases ht with ⟨rfl, -⟩ | ⟨rfl, -⟩
    · exact ⟨_, List.mem_cons_self⟩
    · exact ⟨_, List.mem_cons_of_mem _ List.mem_cons_self⟩

/-- A static route that is deleted stays installed. -/
theorem deleted_route_stays : ∃ calls : List RoutingCall,
    (∀ c ∈ calls, (validate Capabilities.empty c.cfg).toOption.map Prod.fst = some c.cfg) ∧
      ¬ Installed ((askedAlong calls).getLast (List.cons_ne_nil _ _))
        (applyAllRouting Tables.empty calls) := by
  refine ⟨[routedCall (routedConfig "192.168.2.6"), routedCall defaultEntries], by decide +kernel,
    fun h => ?_⟩
  have hkey := (h.routes ⟨4, some (168361984, 16), 100, "main"⟩ (.hop (some "192.168.2.6") none)).mp
    (by decide +kernel)
  exact absurd hkey (by decide +kernel)

end Sbegw.Netd
