import Sbegw.Netd.Routing

/-!
# Marks of policy routes

The mangle table marks the packets of a policy route and `apply_routing` adds a rule for the mark.  The two
count the routes alike, so marks and tables agree; marks of routes to different WANs differ unless one of them
is set explicitly.
-/

namespace Sbegw.Netd

open Text Schema Nft

/-! ### The mangle table -/

/-- A line of the mangle table. -/
structure MangleLine where
  guards : List Match
  mark : ℤ
  comment : String

/-- `hex(route.get("mark") or (0x100 + index))`, the number it prints. -/
def setMark (index : ℕ) (route : Obj) : Except Exn ℤ :=
  let mark := ruleGet route "mark" .null
  if mark.truthy then
    match mark with
    | .int i => .ok i
    | .bool _ => .ok 1
    | _ => .error .type
  else .ok (0x100 + index)

/-- A match on an address, as the route gives it. -/
def addressGuard (route : Obj) (field : String) (side : AddrSide) : List Match :=
  let value := ruleGet route field .null
  if value.truthy then [.addr .ip side (pyStr value)] else []

/-- `_proto_expr(route["protocol"])`: a list or an object is no key. -/
def protocolGuard (route : Obj) : Except Exn (List Match) :=
  let protocol := ruleGet route "protocol" .null
  if protocol.truthy && protocol != .str "any" then
    match protocol with
    | .str p => .ok (protoExpr p)
    | .arr _ => .error .type
    | .obj _ => .error .type
    | _ => .ok []
  else .ok []

/-- `ether saddr` -/
def macGuard (route : Obj) : List Match :=
  let mac := ruleGet route "mac" .null
  if mac.truthy then [.other ("ether saddr " ++ pyStr mac)] else []

/-- The line of one entry of `policy_routes`, if it has one. -/
def mangleLine (e : Json × ℕ) : Except Exn (Option MangleLine) :=
  match e.1 with
  | .obj route =>
    if !(ruleGet route "enabled" (.bool true)).truthy then .ok none
    else do
      let protocol ← protocolGuard route
      let port ← portMatch route "dst_port" .dport
      let mark ← setMark e.2 route
      pure (some
        { guards := addressGuard route "src_network_subnet" .saddr ++ addressGuard route "src_address" .saddr ++
            addressGuard route "dst_address" .daddr ++ protocol ++ port ++ macGuard route
          mark := mark
          comment := "pbr-" ++ pyStr (ruleGet route "id" (.int e.2)) })
  | _ => .error .attribute

/-- `_render_mangle_table`, its rules. -/
def mangleLines (cfg : Obj) : Except Exn (List MangleLine) :=
  if !((Dict.lookup "policy_routes" cfg).getD (.arr [])).truthy then .ok []
  else do
    let entries ← policyEntries cfg
    collect (fun e => (mangleLine e).map Option.toList) (entries.zipIdx 1)

/-! ### Policy routes -/

/-- An enabled policy route to a WAN that exists. -/
structure Routed (cfg : Obj) (e : Json × ℕ) (target : String) : Prop where
  enabled : ∃ route, e.1 = .obj route ∧ (ruleGet route "enabled" (.bool true)).truthy = true ∧
    ruleGet route "wan" .null = .str target
  exists_ : target ∈ wanIds cfg

/-- The mark that an entry sets explicitly. -/
def explicitMark (e : Json × ℕ) : Option ℤ :=
  match e.1.getD "mark" .null with
  | .int i => if i = 0 then none else some i
  | .bool b => if b then some 1 else none
  | _ => none

/-- One of the entries sets a mark explicitly, and the other has it too. -/
def Clash (e f : Json × ℕ) : Prop :=
  match explicitMark e, explicitMark f with
  | some a, some b => a = b
  | some a, none => a = 0x100 + f.2
  | none, some b => b = 0x100 + e.2
  | none, none => False

/-- What the rule of an entry and its line have to do with each other, and with the WAN's route. -/
structure RoutedRight (c : RoutingCall) (lines : List MangleLine) (k : Tables) (e : Json × ℕ) (target : String) :
    Prop where
  /-- the line sets the mark that the rule looks up -/
  mark : ∃ line ∈ lines, mangleLine e = .ok (some line) ∧ ∃ rule ∈ k.rules,
    policyRule (wanIds c.cfg) e = .ok (some rule) ∧ rule.mark = line.mark
  /-- the table of the rule has the default route of the WAN -/
  table : ∀ rule, policyRule (wanIds c.cfg) e = .ok (some rule) →
    ∃ wan, (target, wan) ∈ sectionOf c.cfg "wans" ∧ ∀ gw, c.gateway (wanInterface wan c.cfg) = some gw →
      Dict.lookup ⟨4, defaultNetwork4, 100, rule.table⟩ k.routes =
        some (.hop (some gw) (some (wanInterface wan c.cfg)))

/-! ### Marks -/

theorem setMark_eq (index : ℕ) (route : Obj) : setMark index route = markOf index (ruleGet route "mark" .null) := rfl

theorem ruleGet_eq (route : Obj) (key : String) (d : Json) : (Json.obj route).getD key d = ruleGet route key d := by
  unfold Json.getD Json.get? ruleGet
  rfl

/-- The mark of an entry is the explicit one, or goes by its place. -/
theorem mark_eq {e : Json × ℕ} {m : ℤ} (h : markOf e.2 (e.1.getD "mark" .null) = .ok m) :
    m = (explicitMark e).getD (0x100 + e.2) := by
  unfold markOf at h
  unfold explicitMark
  generalize e.1.getD "mark" .null = mark at h ⊢
  by_cases htruthy : mark.truthy = true
  · rw [if_pos htruthy] at h
    cases mark with
    | int i =>
      have hi : i ≠ 0 := by simpa [Json.truthy] using htruthy
      simp only [if_neg hi, Option.getD_some]
      exact (Except.ok.inj h).symm
    | bool b =>
      have hb : b = true := by simpa [Json.truthy] using htruthy
      simp only [hb, if_true, Option.getD_some]
      exact (Except.ok.inj h).symm
    | _ => exact absurd h (by simp)
  · rw [if_neg htruthy] at h
    obtain rfl := Except.ok.inj h
    cases mark with
    | int i =>
      have hi : i = 0 := by simpa [Json.truthy] using htruthy
      simp only [if_pos hi, Option.getD_none]
    | bool b =>
      have hb : b = false := by simpa [Json.truthy] using htruthy
      simp only [hb, Bool.false_eq_true, if_false, Option.getD_none]
    | _ => rfl

/-- Marks that go by the place differ at different places. -/
theorem same_mark_iff {e f : Json × ℕ} (hne : e.2 ≠ f.2) :
    (explicitMark e).getD (0x100 + (e.2 : ℤ)) = (explicitMark f).getD (0x100 + (f.2 : ℤ)) ↔ Clash e f := by
  unfold Clash
  cases explicitMark e with
  | none =>
    cases explicitMark f with
    | none =>
      simp only [Option.getD_none, iff_false]
      omega
    | some b => exact eq_comm
  | some a =>
    cases explicitMark f with
    | none => exact Iff.rfl
    | some b => exact Iff.rfl

/-! ### Rules -/

theorem Routed.place {cfg : Obj} {e : Json × ℕ} {target : String} (h : Routed cfg e target) :
    ∃ place, (wanIds cfg)[place]? = some target ∧
      policyRule (wanIds cfg) e = (markOf e.2 (e.1.getD "mark" .null)).map fun mark =>
        some ⟨mark, wanTable (place + 1), 1000 + e.2⟩ := by
  obtain ⟨route, hroute, henabled, hwan⟩ := h.enabled
  obtain ⟨place, hplace⟩ := Option.isSome_iff_exists.mp (List.isSome_idxOf?.mpr h.exists_)
  obtain ⟨hlt, heq, -⟩ := List.idxOf?_eq_some_iff.mp hplace
  refine ⟨place, ?_, ?_⟩
  · rw [List.getElem?_eq_getElem hlt, heq]
  · unfold policyRule
    rw [hroute]
    simp only [ruleGet_eq, henabled, hwan, hplace]
    rfl

/-! ### Lines -/

/-- A line sets the mark that is read off its entry. -/
theorem Routed.line {cfg : Obj} {e : Json × ℕ} {target : String} (h : Routed cfg e target) {l : Option MangleLine}
    (hl : mangleLine e = .ok l) : ∃ line, l = some line ∧ markOf e.2 (e.1.getD "mark" .null) = .ok line.mark := by
  obtain ⟨route, hroute, henabled, -⟩ := h.enabled
  unfold mangleLine at hl
  rw [hroute] at hl
  simp only [henabled, Bool.not_true, Bool.false_eq_true, if_false] at hl
  obtain ⟨protocol, -, hl⟩ := except_bind_eq_ok.mp hl
  obtain ⟨port, -, hl⟩ := except_bind_eq_ok.mp hl
  obtain ⟨mark, hmark, hl⟩ := except_bind_eq_ok.mp hl
  obtain rfl := Except.ok.inj hl
  refine ⟨_, rfl, ?_⟩
  rw [hroute, ruleGet_eq]
  exact hmark

/-- An entry that can be rendered can be read for its rule. -/
theorem policyRule_of_mangleLine (ids : List String) {e : Json × ℕ} {l : Option MangleLine}
    (hl : mangleLine e = .ok l) : ∃ r, policyRule ids e = .ok r := by
  unfold mangleLine at hl
  unfold policyRule
  split at hl
  · next route hroute =>
    rw [hroute]
    simp only [ruleGet_eq]
    by_cases henabled : (ruleGet route "enabled" (.bool true)).truthy = true
    · simp only [henabled, Bool.not_true, Bool.false_eq_true, if_false] at hl ⊢
      obtain ⟨protocol, -, hl⟩ := except_bind_eq_ok.mp hl
      obtain ⟨port, -, hl⟩ := except_bind_eq_ok.mp hl
      obtain ⟨mark, hmark, -⟩ := except_bind_eq_ok.mp hl
      rw [setMark_eq] at hmark
      split
      · split
        · exact ⟨_, by rw [hmark]; rfl⟩
        · exact ⟨none, rfl⟩
      · exact ⟨none, rfl⟩
    · exact ⟨none, by simp [henabled]⟩
  · exact absurd hl (by simp)

/-- Where the mangle table can be rendered, every policy route has its line there. -/
theorem mangleLine_of_lines {c : RoutingCall} {lines : List MangleLine} (hlines : mangleLines c.cfg = .ok lines)
    {e : Json × ℕ} (he : e ∈ c.policies) :
    ∃ l, mangleLine e = .ok l ∧ ∀ line, l = some line → line ∈ lines := by
  unfold mangleLines at hlines
  unfold RoutingCall.policies at he
  split at hlines
  · -- an empty value has no entries
    next hempty =>
    exfalso
    have hnone : (policyEntries c.cfg).toOption.getD [] = [] := by
      unfold policyEntries
      generalize (Dict.lookup "policy_routes" c.cfg).getD (.arr []) = routes at hempty ⊢
      cases routes with
      | arr xs => simpa [Json.truthy, Except.toOption] using hempty
      | obj kvs => simpa [Json.truthy, Except.toOption] using hempty
      | str t => simpa [Json.truthy, Except.toOption] using hempty
      | _ => rfl
    rw [hnone] at he
    exact absurd he List.not_mem_nil
  · obtain ⟨xs, hxs, hcollect⟩ := except_bind_eq_ok.mp hlines
    rw [hxs] at he
    obtain ⟨k, hk⟩ := ok_of_collect hcollect e he
    have hmap := hk
    cases hline : mangleLine e with
    | error err =>
      rw [hline] at hk
      exact absurd hk (by simp [Except.map])
    | ok l =>
      rw [hline] at hk
      have hkl : l.toList = k := Except.ok.inj hk
      refine ⟨l, rfl, ?_⟩
      rintro line rfl
      exact (mem_collect hcollect line).mpr ⟨e, he, k, hmap, hkl ▸ List.mem_singleton_self line⟩

/-! ### Tables -/

theorem wanTable_inj {m n : ℕ} (h : wanTable m = wanTable n) : m = n := by
  have heq := ofNat_inj.mp h
  omega

theorem mem_wanRoutes {gateway : String → Option String} {cfg : Obj} {key : RouteKey} {t : Target} :
    (key, t) ∈ wanRoutes gateway cfg ↔ ∃ wid wan n gw,
      ((wid, wan), n) ∈ (Dict.sorted (sectionOf cfg "wans")).zipIdx 1 ∧ gateway (wanInterface wan cfg) = some gw ∧
        key = ⟨4, defaultNetwork4, 100, wanTable n⟩ ∧ t = .hop (some gw) (some (wanInterface wan cfg)) := by
  unfold wanRoutes
  rw [List.mem_filterMap]
  constructor
  · rintro ⟨⟨⟨wid, wan⟩, n⟩, hmem, hroute⟩
    obtain ⟨gw, hgw, hput⟩ := Option.map_eq_some_iff.mp hroute
    obtain ⟨rfl, rfl⟩ := Prod.mk.inj hput
    exact ⟨wid, wan, n, gw, hmem, hgw, rfl, rfl⟩
  · rintro ⟨wid, wan, n, gw, hmem, hgw, rfl, rfl⟩
    exact ⟨_, hmem, Option.map_eq_some_iff.mpr ⟨gw, hgw, rfl⟩⟩

theorem zipIdx_unique {α : Type} {l : List α} {x y : α} {k i : ℕ} (hx : (x, i) ∈ l.zipIdx k)
    (hy : (y, i) ∈ l.zipIdx k) : x = y := by
  have hx := (List.mk_mem_zipIdx_iff_le_and_getElem?_sub.mp hx).2
  have hy := (List.mk_mem_zipIdx_iff_le_and_getElem?_sub.mp hy).2
  exact Option.some_inj.mp (hx.symm.trans hy)

/-- Every WAN has a table of its own. -/
theorem wanRoutes_single {gateway : String → Option String} {cfg : Obj} (key : RouteKey) (t u : Target)
    (ht : (key, t) ∈ wanRoutes gateway cfg) (hu : (key, u) ∈ wanRoutes gateway cfg) : t = u := by
  obtain ⟨wid, wan, n, gw, hmem, hgw, hkey, rfl⟩ := mem_wanRoutes.mp ht
  obtain ⟨wid', wan', n', gw', hmem', hgw', hkey', rfl⟩ := mem_wanRoutes.mp hu
  obtain rfl : n = n' := by
    rw [hkey] at hkey'
    exact wanTable_inj (RouteKey.mk.inj hkey').2.2.2
  obtain ⟨-, rfl⟩ := Prod.mk.inj (zipIdx_unique hmem hmem')
  rw [Option.some_inj.mp (hgw.symm.trans hgw')]

/-- What an apply leaves behind whose routes and rules can be read. -/
theorem applyRouting_tables {c : RoutingCall} (hstatics : ∀ e ∈ staticEntries c.cfg, ∃ r, staticRoute e = .ok r)
    {xs : List Json} (hxs : policyEntries c.cfg = .ok xs)
    (hpolicies : ∀ e ∈ c.policies, ∃ r, policyRule (wanIds c.cfg) e = .ok r) (k : Tables) :
    (∀ key t, (key, t) ∈ wanRoutes c.gateway c.cfg →
      Dict.lookup key (applyRouting c.gateway c.vtysh c.cfg k).2.routes = some t) ∧
    ∀ e ∈ c.policies, ∀ r, policyRule (wanIds c.cfg) e = .ok (some r) →
      r ∈ (applyRouting c.gateway c.vtysh c.cfg k).2.rules := by
  have hpol : c.policies = xs.zipIdx 1 := by simp [RoutingCall.policies, hxs, Except.toOption]
  rw [hpol] at hpolicies ⊢
  unfold applyRouting
  rw [eachDo_of_read Tables.put hstatics k]
  simp only [hxs]
  rw [eachDo_of_read addRuleIf hpolicies]
  obtain ⟨hroutes, hrules⟩ := foldl_addRule_spec
    ((xs.zipIdx 1).filterMap fun e => (policyRule (wanIds c.cfg) e).toOption)
    ((wanRoutes c.gateway c.cfg).foldl (fun k e => k.put e)
      (((staticEntries c.cfg).filterMap fun e => (staticRoute e).toOption).foldl (fun k e => k.put e) k))
  constructor
  · intro key t ht
    rw [hroutes, lookup_foldl_put wanRoutes_single]
    exact .inl ht
  · intro e he r hr
    rw [hrules]
    refine .inr (List.mem_filterMap.mpr ⟨e, he, ?_⟩)
    rw [hr]
    rfl

/-! ### The result -/

/-- **Marks and tables of policy routes agree** after every apply for which the mangle table can be rendered and
the static routes can be read; and routes to different WANs have the same mark exactly when one of them sets it
explicitly and the other has it too. -/
theorem marks_agree (c : RoutingCall) (k : Tables) {lines : List MangleLine} (hlines : mangleLines c.cfg = .ok lines)
    (hstatics : ∀ e ∈ staticEntries c.cfg, ∃ r, staticRoute e = .ok r) :
    (∀ e ∈ c.policies, ∀ target, Routed c.cfg e target →
      RoutedRight c lines (applyRouting c.gateway c.vtysh c.cfg k).2 e target) ∧
    ∀ e ∈ c.policies, ∀ f ∈ c.policies, ∀ t u r q, Routed c.cfg e t → Routed c.cfg f u → t ≠ u →
      policyRule (wanIds c.cfg) e = .ok (some r) → policyRule (wanIds c.cfg) f = .ok (some q) →
      (r.mark = q.mark ↔ Clash e f) := by
  constructor
  · intro e he target h
    have hentries : ∃ xs, policyEntries c.cfg = .ok xs := by
      cases hxs : policyEntries c.cfg with
      | ok xs => exact ⟨xs, rfl⟩
      | error err =>
        unfold RoutingCall.policies at he
        rw [hxs] at he
        exact absurd he List.not_mem_nil
    obtain ⟨xs, hxs⟩ := hentries
    have hpolicies : ∀ e ∈ c.policies, ∃ r, policyRule (wanIds c.cfg) e = .ok r := by
      intro f hf
      obtain ⟨l, hl, -⟩ := mangleLine_of_lines hlines hf
      exact policyRule_of_mangleLine _ hl
    obtain ⟨hroutes, hrules⟩ := applyRouting_tables hstatics hxs hpolicies k
    obtain ⟨l, hl, hin⟩ := mangleLine_of_lines hlines he
    obtain ⟨line, rfl, hmark⟩ := h.line hl
    obtain ⟨place, hplace, hrule⟩ := h.place
    rw [hmark] at hrule
    refine ⟨⟨line, hin line rfl, hl, _, hrules e he _ hrule, hrule, rfl⟩, ?_⟩
    intro rule hrule'
    obtain rfl := Option.some_inj.mp (Except.ok.inj (hrule.symm.trans hrule'))
    -- the place of the WAN in the rule is its place among the tables
    unfold wanIds Dict.keys at hplace
    rw [List.getElem?_map] at hplace
    obtain ⟨⟨wid, wan⟩, hwan, hwid⟩ := Option.map_eq_some_iff.mp hplace
    obtain rfl : wid = target := hwid
    have hmem : ((wid, wan), place + 1) ∈ (Dict.sorted (sectionOf c.cfg "wans")).zipIdx 1 :=
      List.mk_mem_zipIdx_iff_le_and_getElem?_sub.mpr ⟨by omega, hwan⟩
    refine ⟨wan, (List.mem_insertionSort _).mp (List.mem_of_getElem? hwan), ?_⟩
    intro gw hgw
    exact hroutes _ _ (mem_wanRoutes.mpr ⟨wid, wan, place + 1, gw, hmem, hgw, rfl, rfl⟩)
  · intro e he f hf t u r q ht hu hne hr hq
    obtain ⟨place, hplace, hrule⟩ := ht.place
    obtain ⟨place', hplace', hrule'⟩ := hu.place
    have hmarks : ∀ {g : Json × ℕ} {n : ℕ} {rule : MarkRule},
        (markOf g.2 (g.1.getD "mark" .null)).map (fun mark => some ⟨mark, wanTable n, 1000 + g.2⟩) =
          .ok (some rule) → rule.mark = (explicitMark g).getD (0x100 + g.2) := by
      intro g n rule hg
      cases hm : markOf g.2 (g.1.getD "mark" .null) with
      | error err =>
        rw [hm] at hg
        exact absurd hg (by simp [Except.map])
      | ok m =>
        rw [hm] at hg
        obtain rfl := Option.some_inj.mp (Except.ok.inj hg)
        exact mark_eq hm
    rw [hmarks (hrule.symm.trans hr), hmarks (hrule'.symm.trans hq)]
    refine same_mark_iff ?_
    -- two entries at one place are one entry, which has one target
    intro hsame
    have hef : e.1 = f.1 := zipIdx_unique (l := (policyEntries c.cfg).toOption.getD []) (k := 1) (i := e.2) he
      (hsame ▸ hf)
    obtain ⟨route, hroute, -, hwan⟩ := ht.enabled
    obtain ⟨route', hroute', -, hwan'⟩ := hu.enabled
    obtain rfl : route = route' := Json.obj.inj (hroute.symm.trans (hef.trans hroute'))
    exact hne (Json.str.inj (hwan.symm.trans hwan'))

/-! ### Two uplinks -/

def secondUplink : Obj :=
  [("role", .str "wan"), ("name", .str "WAN 2"), ("enabled", .bool true), ("mtu", .int 1500), ("speed", .str "auto"),
    ("duplex", .str "auto"), ("flow_control", .bool true), ("network", .null), ("tagged_vlans", .arr [])]

/-- The policy routes of two clients to two WANs, the second with a mark. -/
def twoRoutes (mark : Json) : List Json :=
  [.obj [("wan", .str "wan1"), ("src_address", .str "192.168.2.10")],
    .obj [("wan", .str "wan2"), ("src_address", .str "192.168.2.11"), ("mark", mark)]]

/-- The default configuration with a second WAN. -/
def twoWans (mark : Json) : Obj :=
  Dict.set "policy_routes" (.arr (twoRoutes mark))
    (Dict.set "ports" (.obj (Dict.set "eth2" (.obj secondUplink) defaultPorts))
      (Dict.set "wans" (.obj [("wan1", .obj defaultWan), ("wan2", .obj (Dict.set "port" (.str "eth2") defaultWan))])
        defaultEntries))

/-- Without a mark of its own every route is marked and routed right. -/
theorem marks_agree_two : ∃ lines, mangleLines (twoWans .null) = .ok lines ∧
    ∀ e ∈ (routedCall (twoWans .null)).policies, ∀ target, Routed (twoWans .null) e target →
      RoutedRight (routedCall (twoWans .null)) lines
        (applyRouting (fun _ => some "192.0.2.1") true (twoWans .null) Tables.empty).2 e target := by
  refine ⟨_, rfl, ?_⟩
  have hnone : staticEntries (routedCall (twoWans .null)).cfg = [] := rfl
  refine (marks_agree (routedCall (twoWans .null)) Tables.empty rfl ?_).1
  intro e he
  rw [hnone] at he
  exact absurd he List.not_mem_nil

/-- The second route sets the mark that the first one has by its place: an accepted configuration whose two
clients share a mark. -/
theorem marks_collide :
    ((validate Capabilities.empty (twoWans (.int 257))).toOption.map Prod.fst = some (twoWans (.int 257))) ∧
    ∃ e ∈ (routedCall (twoWans (.int 257))).policies, ∃ f ∈ (routedCall (twoWans (.int 257))).policies,
      Routed (twoWans (.int 257)) e "wan1" ∧ Routed (twoWans (.int 257)) f "wan2" ∧
        policyRule (wanIds (twoWans (.int 257))) e = .ok (some ⟨257, "101", 1001⟩) ∧
        policyRule (wanIds (twoWans (.int 257))) f = .ok (some ⟨257, "102", 1002⟩) := by
  have hids : wanIds (twoWans (.int 257)) = ["wan1", "wan2"] := rfl
  refine ⟨by decide +kernel, _, List.mem_cons_self, _, List.mem_cons_of_mem _ List.mem_cons_self,
    ⟨⟨_, rfl, rfl, rfl⟩, ?_⟩, ⟨⟨_, rfl, rfl, rfl⟩, ?_⟩, rfl, rfl⟩
  · rw [hids]
    decide
  · rw [hids]
    decide

end Sbegw.Netd
