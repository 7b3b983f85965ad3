import Sbegw.Netd.Addresses
import Sbegw.Wifid.Secure
import Sbegw.Lib.Run

/-!
# VLAN memberships

An apply adds memberships and takes none away.  What a port is a member of afterwards is what its document
calls for and what it held before; a port that joins the bridge holds VLAN 1.
-/

namespace Sbegw.Netd

open Text Kernel Schema Machine

/-! ### Rounds -/

/-- What `_post_apply` reads of a BSS of `build_plan`. -/
def postBss (cfg : Obj) (e : String × Wifid.PlannedBss) : PlannedBss :=
  let wnet := (Dict.lookup e.2.wirelessNetwork (Wifid.wifiNetworks cfg)).getD .null
  let network := Wifid.strOf (wnet.getD "network" (.str "default"))
  { netdev := e.2.netdev.getD e.1
    bridge := if wnet.getD "uplink" .null = .str "wan" then wanBridge else bridge
    vlan := ((Dict.lookup network (sectionOf cfg "networks")).getD .null).getD "vlan" .null }

/-- One document is applied; in between hostapd takes netdevs away and makes others. -/
structure Round where
  cfg : Obj
  radios : Wifid.Radios
  slots : Wifid.Allocator
  gone : List String
  made : List String

/-- The BSSes of the plan. -/
def Round.bsses (r : Round) : List PlannedBss :=
  (Wifid.buildPlan r.radios r.cfg r.slots).1.bsses.map (postBss r.cfg)

/-- hostapd's part. -/
def Round.hostapd (r : Round) (k : Kernel) : Kernel :=
  r.made.foldl (fun k n => ensure n k) (r.gone.foldl (fun k n => delete n k) k)

/-- `NetworkManager.apply`, hostapd and `WifiDaemon._post_apply` -/
def Round.apply (r : Round) (k : Kernel) : Except Exn Kernel := do
  let k ← Netd.apply r.cfg k
  pure (postApply r.bsses (r.hostapd k))

/-- A round that raises goes nowhere. -/
def roundStep (k : Kernel) (r : Round) : Option (Unit × Kernel) := (r.apply k).toOption.map fun k' => ((), k')

/-! ### The property -/

def numbers (vs : List Json) : List ℤ := vs.filterMap fun v => (vidOf v).toOption

/-- The tagged VLANs of a port, the ones that are numbers. -/
def portTagged (port : Json) : List ℤ := numbers (taggedVlans port)

/-- The network's VLAN as PVID, untagged, and the tagged ones. -/
def wantedMember (pvid : ℤ) (tagged : List ℤ) (v : ℤ) : Option Member :=
  if v = pvid then some untaggedMember else if v ∈ tagged then some taggedMember else none

def tagVlans (tagged : List ℤ) (held : Dict ℤ Member) : Dict ℤ Member :=
  tagged.foldl (fun d v => addVlan v taggedMember d) held

/-- What the commands for a port make of the memberships it holds. -/
def portVlans (pvid : ℤ) (tagged : List ℤ) (held : Dict ℤ Member) : Dict ℤ Member :=
  tagVlans tagged (addVlan pvid untaggedMember held)

/-- A port of the LAN bridge has exactly the memberships of the document, which are those that a port of a
fresh bridge gets. -/
structure Exactly (pvid : ℤ) (tagged : List ℤ) (l : Link) : Prop where
  enslaved : l.master = some bridge
  wanted : ∀ v, Dict.lookup v l.vlans = wantedMember pvid tagged v
  fresh : ∀ v, Dict.lookup v l.vlans = Dict.lookup v (portVlans pvid tagged (joined bridge))

/-- Every LAN port and every BSS netdev of the LAN bridge that is there. -/
structure Memberships (r : Round) (k : Kernel) : Prop where
  ports : ∀ e ∈ lanPorts r.cfg, ∀ l, Dict.lookup e.1 k = some l → Exactly (portPvid r.cfg e.2) (portTagged e.2) l
  bsses : ∀ b ∈ r.bsses, b.bridge = bridge → ∀ l, Dict.lookup b.netdev k = some l → Exactly b.pvid [] l

/-! ### The condition -/

/-- The memberships a link has once it is in the LAN bridge. -/
def heldOnBridge (l : Link) : Dict ℤ Member := if l.master = some bridge then l.vlans else joined bridge

/-- The untagged VLAN is none of the tagged ones, and nothing else is held, VLAN 1 included. -/
structure Covered (pvid : ℤ) (tagged : List ℤ) (l : Link) : Prop where
  apart : pvid ∉ tagged
  default : 1 = pvid ∨ 1 ∈ tagged
  held : ∀ v, (Dict.lookup v (heldOnBridge l)).isSome = true → v = pvid ∨ v ∈ tagged

/-- A name that no other part of the apply uses for a link of its own. -/
structure Plain (cfg : Obj) (name : String) : Prop where
  lan : name ≠ bridge
  wan : name ≠ wanBridge
  member : ∀ e ∈ sectionOf cfg "wans", name ≠ wanMember e.2
  vlanIface : startsWith (bridge ++ ".") name = false

/-- The links are told apart by their names. -/
structure Apart (r : Round) : Prop where
  distinct : (Dict.keys (sectionOf r.cfg "ports")).Nodup
  ports : ∀ e ∈ lanPorts r.cfg, Plain r.cfg e.1 ∧ e.1 ∉ r.gone ∧ e.1 ∉ r.made
  netdevs : ∀ b ∈ r.bsses, Plain r.cfg b.netdev ∧ b.netdev ∉ Dict.keys (sectionOf r.cfg "ports")
  shared : ∀ b ∈ r.bsses, ∀ b' ∈ r.bsses, b.netdev = b'.netdev → b.bridge = b'.bridge ∧ b.pvid = b'.pvid

/-- The netdev that hostapd leaves: the one that was there, or a new one. -/
def Round.netdev (r : Round) (name : String) (k : Kernel) : Option Link :=
  let kept := if name ∈ r.gone then none else Dict.lookup name k
  if name ∈ r.made then some (kept.getD Link.fresh) else kept

/-- The names are apart, and no port holds anything that its document does not call for. -/
structure Round.Meets (r : Round) (k : Kernel) : Prop where
  apart : Apart r
  numbers : ∀ e ∈ lanPorts r.cfg, (Dict.lookup e.1 k).isSome = true → ∀ v ∈ taggedVlans e.2, ∃ i : ℤ, v = .int i
  ports : ∀ e ∈ lanPorts r.cfg, ∀ l, Dict.lookup e.1 k = some l → Covered (portPvid r.cfg e.2) (portTagged e.2) l
  bsses : ∀ b ∈ r.bsses, b.bridge = bridge → ∀ l, r.netdev b.netdev k = some l → Covered b.pvid [] l

/-! ### Adding VLANs -/

theorem lookup_addVlan (v vid : ℤ) (m : Member) (d : Dict ℤ Member) :
    Dict.lookup v (addVlan vid m d) = if v = vid then some m
      else if m.pvid then (Dict.lookup v d).map fun x => { x with pvid := false } else Dict.lookup v d := by
  unfold addVlan
  rw [Dict.lookup_set]
  by_cases hv : v = vid
  · rw [if_pos hv, if_pos hv]
  · rw [if_neg hv, if_neg hv]
    split
    · exact Dict.lookup_map_val (fun x : Member => { x with pvid := false }) v d
    · rfl

theorem lookup_tagVlans (v : ℤ) : ∀ (tagged : List ℤ) (d : Dict ℤ Member),
    Dict.lookup v (tagVlans tagged d) = if v ∈ tagged then some taggedMember else Dict.lookup v d
  | [], d => by simp [tagVlans]
  | t :: tagged, d => by
    show Dict.lookup v (tagVlans tagged (addVlan t taggedMember d)) = _
    rw [lookup_tagVlans v tagged, lookup_addVlan]
    by_cases hv : v ∈ tagged
    · simp [hv]
    · by_cases ht : v = t <;> simp [hv, ht, taggedMember]

theorem lookup_portVlans (v pvid : ℤ) (tagged : List ℤ) (d : Dict ℤ Member) :
    Dict.lookup v (portVlans pvid tagged d) = if v ∈ tagged then some taggedMember
      else if v = pvid then some untaggedMember else (Dict.lookup v d).map fun x => { x with pvid := false } := by
  unfold portVlans
  rw [lookup_tagVlans, lookup_addVlan]
  rfl

/-- What the commands make of the memberships is exactly what is wanted where nothing else is held. -/
theorem portVlans_iff {pvid : ℤ} {tagged : List ℤ} {l : Link} :
    ((∀ v, Dict.lookup v (portVlans pvid tagged (heldOnBridge l)) = wantedMember pvid tagged v) ∧
      ∀ v, Dict.lookup v (portVlans pvid tagged (heldOnBridge l)) =
        Dict.lookup v (portVlans pvid tagged (joined bridge))) ↔ Covered pvid tagged l := by
  have hjoined : Dict.lookup 1 (joined bridge) = some ⟨true, true⟩ := by decide
  constructor
  · rintro ⟨hwanted, hfresh⟩
    have hapart : pvid ∉ tagged := by
      intro hmem
      have h := hwanted pvid
      rw [lookup_portVlans, if_pos hmem, wantedMember, if_pos rfl] at h
      exact absurd h (by decide)
    refine ⟨hapart, ?_, fun v hv => ?_⟩
    · by_contra hone
      rw [not_or] at hone
      have h := (hwanted 1).symm.trans (hfresh 1)
      rw [wantedMember, if_neg hone.1, if_neg hone.2, lookup_portVlans, if_neg hone.2, if_neg hone.1,
        hjoined] at h
      cases h
    · by_contra hnot
      rw [not_or] at hnot
      have h := hwanted v
      rw [lookup_portVlans, if_neg hnot.2, if_neg hnot.1, wantedMember, if_neg hnot.1, if_neg hnot.2,
        Option.map_eq_none_iff] at h
      rw [h] at hv
      cases hv
  · rintro ⟨hapart, hdefault, hheld⟩
    have hcovered : ∀ d : Dict ℤ Member, (∀ v, (Dict.lookup v d).isSome = true → v = pvid ∨ v ∈ tagged) →
        ∀ v, Dict.lookup v (portVlans pvid tagged d) = wantedMember pvid tagged v := by
      intro d hd v
      rw [lookup_portVlans]
      unfold wantedMember
      by_cases hp : v = pvid
      · rw [if_pos hp, if_neg (by rw [hp]; exact hapart), if_pos hp]
      · by_cases ht : v ∈ tagged
        · rw [if_pos ht, if_neg hp, if_pos ht]
        · rw [if_neg ht, if_neg hp, if_neg hp, if_neg ht, Option.map_eq_none_iff,
            ← Option.not_isSome_iff_eq_none]
          intro hsome
          exact (hd v hsome).elim hp ht
    have hone : ∀ v, (Dict.lookup v (joined bridge)).isSome = true → v = pvid ∨ v ∈ tagged := by
      intro v hv
      have hv1 : v = 1 := by
        by_contra hne
        have hnone : Dict.lookup v (joined bridge) = none := by
          have hdict : joined bridge = [(1, ⟨true, true⟩)] := by decide
          rw [hdict, Dict.lookup_cons, if_neg (fun h => hne h.symm)]
          rfl
        rw [hnone] at hv
        cases hv
      rw [hv1]
      exact hdefault
    refine ⟨hcovered _ hheld, fun v => ?_⟩
    rw [hcovered _ hheld, hcovered _ hone]

/-! ### Links that an operation leaves alone -/

theorem lookup_ensure_of_ne {j name : String} (hj : j ≠ name) (k : Kernel) :
    Dict.lookup j (ensure name k) = Dict.lookup j k := by
  rw [lookup_ensure, if_neg hj]

theorem lookup_enslave_of_ne {j port : String} (hj : j ≠ port) (master : String) (k : Kernel) :
    Dict.lookup j (enslave port master k) = Dict.lookup j k := by
  unfold enslave
  rw [lookup_modify, if_neg hj]

theorem lookup_bridgeVlanAdd_of_ne {j port : String} (hj : j ≠ port) (vid : ℤ) (m : Member) (k : Kernel) :
    Dict.lookup j (bridgeVlanAdd port vid m k) = Dict.lookup j k := by
  unfold bridgeVlanAdd
  rw [lookup_modify, if_neg hj]

theorem lookup_ensureVlan_of_ne {j name : String} (hj : j ≠ name) (parent : String) (k : Kernel) :
    Dict.lookup j (ensureVlan parent name k) = Dict.lookup j k := by
  unfold ensureVlan
  split
  · exact lookup_ensure_of_ne hj k
  · rfl

/-- A loop leaves a link alone that each turn leaves alone. -/
theorem lookup_foldl {α : Type} {j : String} {f : Kernel → α → Kernel} : ∀ {xs : List α} {k : Kernel},
    (∀ x ∈ xs, ∀ k, Dict.lookup j (f k x) = Dict.lookup j k) → Dict.lookup j (xs.foldl f k) = Dict.lookup j k
  | [], _, _ => rfl
  | x :: xs, k, h => by
    rw [List.foldl_cons, lookup_foldl fun y hy => h y (List.mem_cons_of_mem x hy)]
    exact h x List.mem_cons_self k

/-! ### LAN ports -/

/-- The link of a port after its commands. -/
def lanLink (pvid : ℤ) (tagged : List ℤ) (l : Link) : Link :=
  { l with master := some bridge, vlans := portVlans pvid tagged (heldOnBridge l) }

theorem lookup_addTagged {j port : String} : ∀ {vs : List Json} {k k' : Kernel}, addTagged port vs k = .ok k' →
    Dict.lookup j k' = if j = port then (Dict.lookup j k).map fun l =>
      { l with vlans := tagVlans (numbers vs) l.vlans } else Dict.lookup j k
  | [], k, k', h => by
    obtain rfl := Except.ok.inj h
    split
    · exact (congrFun Option.map_id_fun' _).symm
    · rfl
  | v :: vs, k, k', h => by
    obtain ⟨vid, hvid, h⟩ := except_bind_eq_ok.mp h
    rw [lookup_addTagged h]
    have hlist : numbers (v :: vs) = vid :: numbers vs := by
      unfold numbers
      rw [List.filterMap_cons_some]
      rw [hvid]
      rfl
    rw [hlist]
    unfold bridgeVlanAdd
    rw [lookup_modify]
    by_cases hj : j = port
    · rw [if_pos hj, if_pos hj, if_pos hj, hj, Option.map_map]
      rfl
    · rw [if_neg hj, if_neg hj, if_neg hj]

theorem lookup_applyLanPort {cfg : Obj} {e : String × Json} {j : String} {k k' : Kernel}
    (h : applyLanPort cfg e k = .ok k') : Dict.lookup j k' =
      if j = e.1 then (Dict.lookup j k).map (lanLink (portPvid cfg e.2) (portTagged e.2)) else Dict.lookup j k := by
  unfold applyLanPort at h
  split at h
  · rw [lookup_addTagged h]
    by_cases hj : j = e.1
    · rw [if_pos hj, if_pos hj, hj]
      unfold bridgeVlanAdd enslave
      rw [lookup_modify, if_pos rfl, lookup_modify, if_pos rfl, Option.map_map, Option.map_map]
      refine congrArg (fun f => Option.map f _) (funext fun l => ?_)
      unfold lanLink heldOnBridge portVlans
      by_cases hm : l.master = some bridge
      · simp only [Function.comp_apply, ← hm]
        rfl
      · simp only [Function.comp_apply, if_neg hm]
        rfl
    · rw [if_neg hj, if_neg hj, lookup_bridgeVlanAdd_of_ne hj, lookup_enslave_of_ne hj]
  · next hnone =>
    obtain rfl := Except.ok.inj h
    split
    · next hj =>
      rw [Option.not_isSome_iff_eq_none] at hnone
      rw [hj, hnone]
      rfl
    · rfl

theorem lookup_applyLanPorts_of_notMem {cfg : Obj} {j : String} : ∀ {ports : Obj} {k k' : Kernel},
    applyLanPorts cfg ports k = .ok k' → j ∉ Dict.keys ports → Dict.lookup j k' = Dict.lookup j k
  | [], _, _, h, _ => by rw [Except.ok.inj h]
  | e :: es, k, k', h, hj => by
    obtain ⟨k₁, hport, h⟩ := except_bind_eq_ok.mp h
    rw [Dict.keys, List.map_cons, List.mem_cons, not_or] at hj
    rw [lookup_applyLanPorts_of_notMem h hj.2, lookup_applyLanPort hport, if_neg hj.1]

/-- Each LAN port gets its own commands. -/
theorem lookup_applyLanPorts {cfg : Obj} : ∀ {ports : Obj} {k k' : Kernel},
    applyLanPorts cfg ports k = .ok k' → (Dict.keys ports).Nodup → ∀ e ∈ ports,
      Dict.lookup e.1 k' = (Dict.lookup e.1 k).map (lanLink (portPvid cfg e.2) (portTagged e.2))
  | [], _, _, _, _, e, he => by simp at he
  | f :: fs, k, k', h, hnodup, e, he => by
    obtain ⟨k₁, hport, hrest⟩ := except_bind_eq_ok.mp h
    rw [Dict.keys, List.map_cons, List.nodup_cons] at hnodup
    rcases List.mem_cons.mp he with rfl | he
    · rw [lookup_applyLanPorts_of_notMem hrest hnodup.1, lookup_applyLanPort hport, if_pos rfl]
    · have hne : e.1 ≠ f.1 := by
        intro heq
        exact hnodup.1 (heq ▸ List.mem_map_of_mem he)
      rw [lookup_applyLanPorts hrest hnodup.2 e he, lookup_applyLanPort hport, if_neg hne]

/-- The loop raises on a tagged VLAN that is no number. -/
theorem applyLanPorts_ok {cfg : Obj} : ∀ {ports : Obj} {k : Kernel}, (Dict.keys ports).Nodup →
    (∀ e ∈ ports, (Dict.lookup e.1 k).isSome = true → ∀ v ∈ taggedVlans e.2, ∃ i : ℤ, v = .int i) →
    ∃ k', applyLanPorts cfg ports k = .ok k'
  | [], k, _, _ => ⟨k, rfl⟩
  | e :: es, k, hnodup, h => by
    have htagged : ∀ (vs : List Json) (k : Kernel), (∀ v ∈ vs, ∃ i : ℤ, v = .int i) →
        ∃ k', addTagged e.1 vs k = .ok k' := by
      intro vs
      induction vs with
      | nil => exact fun k _ => ⟨k, rfl⟩
      | cons v vs ih =>
        intro k hvs
        obtain ⟨i, rfl⟩ := hvs v List.mem_cons_self
        exact ih _ fun u hu => hvs u (List.mem_cons_of_mem _ hu)
    have hport : ∃ k', applyLanPort cfg e k = .ok k' := by
      unfold applyLanPort
      split
      · next hsome => exact htagged _ _ (h e List.mem_cons_self hsome)
      · exact ⟨k, rfl⟩
    obtain ⟨k₁, hk₁⟩ := hport
    rw [Dict.keys, List.map_cons, List.nodup_cons] at hnodup
    have hrest : ∃ k', applyLanPorts cfg es k₁ = .ok k' := by
      refine applyLanPorts_ok hnodup.2 fun f hf hsome => ?_
      have hne : f.1 ≠ e.1 := by
        intro heq
        exact hnodup.1 (heq ▸ List.mem_map_of_mem hf)
      rw [lookup_applyLanPort hk₁, if_neg hne] at hsome
      exact h f (List.mem_cons_of_mem e hf) hsome
    obtain ⟨k₂, hk₂⟩ := hrest
    refine ⟨k₂, ?_⟩
    show (applyLanPort cfg e k >>= fun k => applyLanPorts cfg es k) = _
    rw [hk₁]
    exact hk₂

/-! ### The other parts of the apply -/

theorem heldOnBridge_released (l : Link) : heldOnBridge (released wanBridge l) = heldOnBridge l := by
  unfold released
  split
  · next hm =>
    have hne : some wanBridge ≠ some bridge := by decide
    unfold heldOnBridge
    rw [hm, if_neg hne]
    exact if_neg (by simp)
  · rfl

/-- The bridge of the uplink takes no plain link, and gives back the ones it has. -/
theorem lookup_applyWanBridge {cfg : Obj} {j : String} (hj : Plain cfg j) (k : Kernel) :
    Dict.lookup j (applyWanBridge cfg k) = Dict.lookup j k ∨
      Dict.lookup j (applyWanBridge cfg k) = (Dict.lookup j k).map (released wanBridge) := by
  unfold applyWanBridge
  split
  · refine .inl ?_
    rw [lookup_foldl, lookup_ensure_of_ne hj.wan]
    intro e he k
    have hmember := hj.member e (List.mem_of_mem_filter he)
    unfold applyWan
    dsimp only
    rw [lookup_enslave_of_ne hmember]
    split
    · rfl
    · exact lookup_ensureVlan_of_ne hmember _ k
  · split
    · refine .inr ?_
      unfold delete
      rw [Dict.lookup_erase_of_ne hj.wan, lookup_releaseAll]
    · exact .inl rfl

theorem lookup_applyApPorts {cfg : Obj} {j : String}
    (hj : ∀ e ∈ sectionOf cfg "ports", e.1 = j → isApPort e.2 = false) (k : Kernel) :
    Dict.lookup j (applyApPorts cfg k) = Dict.lookup j k := by
  unfold applyApPorts
  split
  · refine lookup_foldl fun e he k => ?_
    rw [List.mem_filter] at he
    have hne : j ≠ e.1 := by
      intro heq
      have hfalse := hj e he.1 heq.symm
      rw [he.2] at hfalse
      cases hfalse
    rw [lookup_bridgeVlanAdd_of_ne hne, lookup_enslave_of_ne hne]
  · rfl

theorem lookup_releasePorts {cfg : Obj} {j : String}
    (hj : ∀ e ∈ sectionOf cfg "ports", e.1 = j → leaves cfg e.2 = false) (k : Kernel) :
    Dict.lookup j (releasePorts cfg k) = Dict.lookup j k := by
  unfold releasePorts
  refine lookup_foldl fun e he k => ?_
  rw [List.mem_filter] at he
  have hne : j ≠ e.1 := by
    intro heq
    have hfalse := hj e he.1 heq.symm
    rw [he.2] at hfalse
    cases hfalse
  split
  · unfold release
    rw [lookup_modify, if_neg hne]
  · rfl

theorem Plain.ne_networkInterface {cfg : Obj} {j : String} (hj : Plain cfg j) (net : Json) :
    j ≠ networkInterface net := by
  unfold networkInterface
  dsimp only
  split
  · exact hj.lan
  · intro heq
    have hplain := hj.vlanIface
    rw [heq, startsWith_append] at hplain
    cases hplain

theorem lookup_applyNetworks {cfg : Obj} {j : String} (hj : Plain cfg j) (networks : Obj) (k : Kernel) :
    Dict.lookup j (applyNetworks networks k) = Dict.lookup j k := by
  have hkeep : (!(startsWith (bridge ++ ".") j && !(wantedVlanIfaces networks).contains j)) = true := by
    rw [hj.vlanIface]
    rfl
  unfold applyNetworks deleteStale
  rw [Dict.lookup_filter_key (p := fun name => !(startsWith (bridge ++ ".") name &&
    !(wantedVlanIfaces networks).contains name)) hkeep]
  refine lookup_foldl fun e _ k => ?_
  have hstart : Dict.lookup j (if onBridge e.2 then bridgeVlanAdd bridge 1 untaggedMember k
      else ensureVlan bridge (networkInterface e.2)
        (bridgeVlanAdd bridge (vlanOr1 e.2) taggedMember k)) = Dict.lookup j k := by
    split
    · exact lookup_bridgeVlanAdd_of_ne hj.lan _ _ k
    · rw [lookup_ensureVlan_of_ne (hj.ne_networkInterface e.2), lookup_bridgeVlanAdd_of_ne hj.lan]
  unfold applyNetwork
  dsimp only
  split
  · unfold syncAddresses
    rw [lookup_modify, if_neg (hj.ne_networkInterface e.2)]
    exact hstart
  · exact hstart

/-- What `NetworkManager.apply` does to a plain link that is no port. -/
theorem heldOnBridge_apply {cfg : Obj} {j : String} (hj : Plain cfg j)
    (hport : j ∉ Dict.keys (sectionOf cfg "ports")) {k k' : Kernel} (h : Netd.apply cfg k = .ok k') :
    (Dict.lookup j k').map heldOnBridge = (Dict.lookup j k).map heldOnBridge := by
  unfold Netd.apply at h
  obtain ⟨k₁, hports, h⟩ := except_bind_eq_ok.mp h
  obtain rfl := Except.ok.inj h
  have hother : ∀ e ∈ sectionOf cfg "ports", e.1 ≠ j := by
    intro e he heq
    exact hport (heq ▸ List.mem_map_of_mem he)
  have hlan : j ∉ Dict.keys (lanPorts cfg) := by
    intro hmem
    obtain ⟨e, he, heq⟩ := List.mem_map.mp hmem
    exact hother e (List.mem_of_mem_filter he) heq
  have hstart : Dict.lookup j k₁ = Dict.lookup j k := by
    rw [lookup_applyLanPorts_of_notMem hports hlan, lookup_ensure_of_ne hj.lan]
  rw [lookup_applyNetworks hj, lookup_releasePorts fun e he heq => absurd heq (hother e he),
    lookup_applyApPorts fun e he heq => absurd heq (hother e he)]
  rcases lookup_applyWanBridge hj k₁ with hwan | hwan
  · rw [hwan, hstart]
  · rw [hwan, hstart, Option.map_map]
    exact congrArg (fun f => Option.map f _) (funext heldOnBridge_released)

/-- Each LAN port has what its own commands make of it. -/
theorem lookup_apply {cfg : Obj} (hnodup : (Dict.keys (sectionOf cfg "ports")).Nodup) {e : String × Json}
    (he : e ∈ lanPorts cfg) (hplain : Plain cfg e.1) {k k' : Kernel} (h : Netd.apply cfg k = .ok k') :
    Dict.lookup e.1 k' = (Dict.lookup e.1 k).map (lanLink (portPvid cfg e.2) (portTagged e.2)) := by
  unfold Netd.apply at h
  obtain ⟨k₁, hports, h⟩ := except_bind_eq_ok.mp h
  obtain rfl := Except.ok.inj h
  have hmem : e ∈ sectionOf cfg "ports" := List.mem_of_mem_filter he
  have hrole : e.2.getD "role" .null = .str "lan" := by
    have hlan := (List.mem_filter.mp he).2
    unfold isLan at hlan
    rw [Bool.and_eq_true, decide_eq_true_eq] at hlan
    exact hlan.1
  have hsame : ∀ f ∈ sectionOf cfg "ports", f.1 = e.1 → f.2 = e.2 := by
    intro f hf heq
    have hlook := Dict.lookup_of_mem hnodup (show (f.1, f.2) ∈ sectionOf cfg "ports" from hf)
    rw [heq, Dict.lookup_of_mem hnodup (show (e.1, e.2) ∈ sectionOf cfg "ports" from hmem)] at hlook
    exact (Option.some.inj hlook).symm
  have hap : ∀ f ∈ sectionOf cfg "ports", f.1 = e.1 → isApPort f.2 = false := by
    intro f hf heq
    unfold isApPort
    rw [hsame f hf heq, hrole]
    rfl
  have hstays : ∀ f ∈ sectionOf cfg "ports", f.1 = e.1 → leaves cfg f.2 = false := by
    intro f hf heq
    unfold leaves
    rw [hsame f hf heq, hrole]
    rfl
  have hstart : Dict.lookup e.1 k₁ = (Dict.lookup e.1 k).map (lanLink (portPvid cfg e.2) (portTagged e.2)) := by
    rw [lookup_applyLanPorts hports (Dict.nodup_keys_filter _ hnodup) e he, lookup_ensure_of_ne hplain.lan]
  rw [lookup_applyNetworks hplain, lookup_releasePorts hstays, lookup_applyApPorts hap]
  rcases lookup_applyWanBridge hplain k₁ with hwan | hwan
  · rw [hwan, hstart]
  · rw [hwan, hstart, Option.map_map]
    refine congrArg (fun f => Option.map f _) (funext fun l => ?_)
    show released wanBridge (lanLink _ _ l) = lanLink _ _ l
    have hne : some bridge ≠ some wanBridge := by decide
    unfold released
    rw [if_neg]
    exact hne

/-! ### BSSes -/

theorem lookup_gone (j : String) : ∀ (gone : List String) (k : Kernel),
    Dict.lookup j (gone.foldl (fun k n => delete n k) k) = if j ∈ gone then none else Dict.lookup j k
  | [], k => by simp
  | n :: gone, k => by
    rw [List.foldl_cons, lookup_gone j gone]
    by_cases hn : j = n
    · rw [hn]
      unfold delete
      simp
    · unfold delete
      rw [Dict.lookup_erase_of_ne hn]
      simp [hn]

theorem lookup_made (j : String) : ∀ (made : List String) (k : Kernel),
    Dict.lookup j (made.foldl (fun k n => ensure n k) k) =
      if j ∈ made then some ((Dict.lookup j k).getD Link.fresh) else Dict.lookup j k
  | [], k => by simp
  | n :: made, k => by
    rw [List.foldl_cons, lookup_made j made, lookup_ensure]
    by_cases hn : j = n
    · rw [hn, if_pos rfl]
      simp
    · simp [hn]

theorem lookup_hostapd (r : Round) (j : String) (k : Kernel) : Dict.lookup j (r.hostapd k) = r.netdev j k := by
  unfold Round.hostapd Round.netdev
  rw [lookup_made, lookup_gone]

/-- hostapd's netdevs hold on the bridge what they held before the apply. -/
theorem held_netdev {r : Round} {j : String} {k k₁ : Kernel}
    (h : (Dict.lookup j k₁).map heldOnBridge = (Dict.lookup j k).map heldOnBridge) :
    (r.netdev j k₁).map heldOnBridge = (r.netdev j k).map heldOnBridge := by
  unfold Round.netdev
  dsimp only
  by_cases hgone : j ∈ r.gone
  · rw [if_pos hgone, if_pos hgone]
  · rw [if_neg hgone, if_neg hgone]
    by_cases hmade : j ∈ r.made
    · rw [if_pos hmade, if_pos hmade]
      have hfresh : ∀ o : Option Link, heldOnBridge (o.getD Link.fresh) =
          (o.map heldOnBridge).getD (heldOnBridge Link.fresh) := by
        intro o
        cases o <;> rfl
      rw [Option.map_some, Option.map_some, hfresh, hfresh, h]
    · rw [if_neg hmade, if_neg hmade]
      exact h

/-- A netdev after the commands for a BSS of it, where `held` is what it held. -/
structure Settled (pvid : ℤ) (held : Dict ℤ Member) (l : Link) : Prop where
  enslaved : l.master = some bridge
  vlans : ∀ v, Dict.lookup v l.vlans = Dict.lookup v (portVlans pvid [] held)

theorem lookup_applyBss_of_ne {b : PlannedBss} {j : String} (hj : j ≠ b.netdev) (k : Kernel) :
    Dict.lookup j (applyBss b k) = Dict.lookup j k := by
  unfold applyBss
  dsimp only
  split
  · rw [lookup_bridgeVlanAdd_of_ne hj, lookup_enslave_of_ne hj]
  · exact lookup_enslave_of_ne hj _ k

theorem lookup_applyBss {b : PlannedBss} (hbridge : b.bridge = bridge) (k : Kernel) :
    Dict.lookup b.netdev (applyBss b k) = (Dict.lookup b.netdev k).map (lanLink b.pvid []) := by
  unfold applyBss
  dsimp only
  rw [if_pos hbridge, hbridge]
  unfold bridgeVlanAdd enslave
  rw [lookup_modify, if_pos rfl, lookup_modify, if_pos rfl, Option.map_map]
  refine congrArg (fun f => Option.map f _) (funext fun l => ?_)
  unfold lanLink heldOnBridge portVlans
  by_cases hm : l.master = some bridge
  · simp only [Function.comp_apply, ← hm]
    rfl
  · simp only [Function.comp_apply, if_neg hm]
    rfl

/-- The commands for another BSS of the netdev change nothing more. -/
theorem Settled.again {pvid : ℤ} {held : Dict ℤ Member} {l : Link} (h : Settled pvid held l) :
    Settled pvid held (lanLink pvid [] l) := by
  refine ⟨rfl, fun v => ?_⟩
  show Dict.lookup v (portVlans pvid [] (heldOnBridge l)) = _
  unfold heldOnBridge
  rw [if_pos h.enslaved, lookup_portVlans, lookup_portVlans, h.vlans, lookup_portVlans]
  by_cases hv : v = pvid
  · simp [hv]
  · simp [hv, Option.map_map, Function.comp_def]

theorem settled_foldl {n : String} {pvid : ℤ} {held : Dict ℤ Member} : ∀ {bsses : List PlannedBss} {k : Kernel},
    (∀ b ∈ bsses, b.netdev = n → b.bridge = bridge ∧ b.pvid = pvid) →
    (∃ l, Dict.lookup n k = some l ∧ Settled pvid held l) →
    ∃ l, Dict.lookup n (postApply bsses k) = some l ∧ Settled pvid held l
  | [], _, _, h => h
  | b :: bsses, k, hagree, h => by
    obtain ⟨l, hl, hsettled⟩ := h
    show ∃ l, Dict.lookup n (postApply bsses (applyBss b k)) = some l ∧ Settled pvid held l
    refine settled_foldl (fun c hc => hagree c (List.mem_cons_of_mem b hc)) ?_
    by_cases hn : b.netdev = n
    · obtain ⟨hbridge, hpvid⟩ := hagree b List.mem_cons_self hn
      refine ⟨lanLink pvid [] l, ?_, hsettled.again⟩
      rw [← hn, lookup_applyBss hbridge, hn, hl, hpvid]
      rfl
    · refine ⟨l, ?_, hsettled⟩
      rw [lookup_applyBss_of_ne (fun heq => hn heq.symm)]
      exact hl

/-- A netdev of the LAN bridge has what the commands make of it, however many BSSes it has. -/
theorem settled_postApply {n : String} {pvid : ℤ} {l : Link} : ∀ {bsses : List PlannedBss} {k : Kernel},
    (∀ b ∈ bsses, b.netdev = n → b.bridge = bridge ∧ b.pvid = pvid) → (∃ b ∈ bsses, b.netdev = n) →
    Dict.lookup n k = some l → ∃ l', Dict.lookup n (postApply bsses k) = some l' ∧ Settled pvid (heldOnBridge l) l'
  | [], _, _, h, _ => by simp at h
  | b :: bsses, k, hagree, hsome, hl => by
    have hrest : ∀ c ∈ bsses, c.netdev = n → c.bridge = bridge ∧ c.pvid = pvid :=
      fun c hc => hagree c (List.mem_cons_of_mem b hc)
    show ∃ l', Dict.lookup n (postApply bsses (applyBss b k)) = some l' ∧ Settled pvid (heldOnBridge l) l'
    by_cases hn : b.netdev = n
    · obtain ⟨hbridge, hpvid⟩ := hagree b List.mem_cons_self hn
      refine settled_foldl hrest ⟨lanLink pvid [] l, ?_, ⟨rfl, fun _ => rfl⟩⟩
      rw [← hn, lookup_applyBss hbridge, hn, hl, hpvid]
      rfl
    · refine settled_postApply hrest ?_ ?_
      · obtain ⟨c, hc, hcn⟩ := hsome
        rcases List.mem_cons.mp hc with rfl | hc
        · exact absurd hcn hn
        · exact ⟨c, hc, hcn⟩
      · rw [lookup_applyBss_of_ne (fun heq => hn heq.symm)]
        exact hl

theorem lookup_postApply_of_ne {j : String} {bsses : List PlannedBss} (hj : ∀ b ∈ bsses, b.netdev ≠ j)
    (k : Kernel) : Dict.lookup j (postApply bsses k) = Dict.lookup j k := by
  unfold postApply
  exact lookup_foldl fun b hb k => lookup_applyBss_of_ne (fun heq => hj b hb heq.symm) k

theorem lookup_postApply_none {j : String} : ∀ {bsses : List PlannedBss} {k : Kernel},
    Dict.lookup j k = none → Dict.lookup j (postApply bsses k) = none
  | [], _, h => h
  | b :: bsses, k, h => by
    show Dict.lookup j (postApply bsses (applyBss b k)) = none
    refine lookup_postApply_none ?_
    rw [← Option.not_isSome_iff_eq_none] at h ⊢
    unfold applyBss
    dsimp only
    split
    · rwa [isSome_bridgeVlanAdd, isSome_enslave]
    · rwa [isSome_enslave]

/-! ### Rounds and runs -/

theorem exactly_iff {pvid : ℤ} {tagged : List ℤ} {l l' : Link} (hm : l'.master = some bridge)
    (hv : ∀ v, Dict.lookup v l'.vlans = Dict.lookup v (portVlans pvid tagged (heldOnBridge l))) :
    Exactly pvid tagged l' ↔ Covered pvid tagged l := by
  rw [← portVlans_iff]
  constructor
  · rintro ⟨-, hwanted, hfresh⟩
    exact ⟨fun v => (hv v).symm.trans (hwanted v), fun v => (hv v).symm.trans (hfresh v)⟩
  · rintro ⟨hwanted, hfresh⟩
    exact ⟨hm, fun v => (hv v).trans (hwanted v), fun v => (hv v).trans (hfresh v)⟩

theorem covered_congr {pvid : ℤ} {tagged : List ℤ} {l l' : Link} (h : heldOnBridge l = heldOnBridge l') :
    Covered pvid tagged l ↔ Covered pvid tagged l' := by
  constructor
  · rintro ⟨hapart, hdefault, hheld⟩
    exact ⟨hapart, hdefault, h ▸ hheld⟩
  · rintro ⟨hapart, hdefault, hheld⟩
    exact ⟨hapart, hdefault, h ▸ hheld⟩

/-- **After a round the memberships are exact** if and only if nothing else was held before it. -/
theorem memberships_iff {r : Round} {k k' : Kernel} (hapart : Apart r) (h : r.apply k = .ok k') :
    Memberships r k' ↔
      (∀ e ∈ lanPorts r.cfg, ∀ l, Dict.lookup e.1 k = some l → Covered (portPvid r.cfg e.2) (portTagged e.2) l) ∧
      ∀ b ∈ r.bsses, b.bridge = bridge → ∀ l, r.netdev b.netdev k = some l → Covered b.pvid [] l := by
  obtain ⟨k₁, happly, h⟩ := except_bind_eq_ok.mp h
  obtain rfl := Except.ok.inj h
  have hport : ∀ e ∈ lanPorts r.cfg, Dict.lookup e.1 (postApply r.bsses (r.hostapd k₁)) =
      (Dict.lookup e.1 k).map (lanLink (portPvid r.cfg e.2) (portTagged e.2)) := by
    intro e he
    obtain ⟨hplain, hgone, hmade⟩ := hapart.ports e he
    have hkey : e.1 ∈ Dict.keys (sectionOf r.cfg "ports") := List.mem_map_of_mem (List.mem_of_mem_filter he)
    have hbss : ∀ b ∈ r.bsses, b.netdev ≠ e.1 := by
      intro b hb heq
      exact (hapart.netdevs b hb).2 (heq ▸ hkey)
    rw [lookup_postApply_of_ne hbss, lookup_hostapd]
    unfold Round.netdev
    rw [if_neg hgone, if_neg hmade]
    exact lookup_apply hapart.distinct he hplain happly
  have hheld : ∀ b ∈ r.bsses, (r.netdev b.netdev k₁).map heldOnBridge = (r.netdev b.netdev k).map heldOnBridge := by
    intro b hb
    obtain ⟨hplain, hkey⟩ := hapart.netdevs b hb
    exact held_netdev (heldOnBridge_apply hplain hkey happly)
  have hbss : ∀ b ∈ r.bsses, b.bridge = bridge → ∀ l, r.netdev b.netdev k₁ = some l →
      ∃ l', Dict.lookup b.netdev (postApply r.bsses (r.hostapd k₁)) = some l' ∧
        Settled b.pvid (heldOnBridge l) l' := by
    intro b hb hbridge l hl
    refine settled_postApply ?_ ⟨b, hb, rfl⟩ (by rw [lookup_hostapd, hl])
    intro c hc hcn
    obtain ⟨hcb, hcp⟩ := hapart.shared c hc b hb hcn
    exact ⟨hcb.trans hbridge, hcp⟩
  constructor
  · rintro ⟨hports, hbsses⟩
    refine ⟨fun e he l hl => ?_, fun b hb hbridge l hl => ?_⟩
    · refine (exactly_iff rfl fun _ => rfl).mp (hports e he (lanLink (portPvid r.cfg e.2) (portTagged e.2) l) ?_)
      rw [hport e he, hl]
      rfl
    · have hsome := hheld b hb
      rw [hl] at hsome
      obtain ⟨l₁, hl₁, hsame⟩ := Option.map_eq_some_iff.mp hsome
      obtain ⟨l', hl', hsettled⟩ := hbss b hb hbridge l₁ hl₁
      rw [← covered_congr hsame]
      exact (exactly_iff hsettled.enslaved hsettled.vlans).mp (hbsses b hb hbridge l' hl')
  · rintro ⟨hports, hbsses⟩
    refine ⟨fun e he l' hl' => ?_, fun b hb hbridge l' hl' => ?_⟩
    · rw [hport e he] at hl'
      obtain ⟨l, hl, rfl⟩ := Option.map_eq_some_iff.mp hl'
      exact (exactly_iff rfl fun _ => rfl).mpr (hports e he l hl)
    · cases hl₁ : r.netdev b.netdev k₁ with
      | none =>
        rw [lookup_postApply_none ((lookup_hostapd r b.netdev k₁).trans hl₁)] at hl'
        cases hl'
      | some l₁ =>
        have hsome := hheld b hb
        rw [hl₁] at hsome
        obtain ⟨l, hl, hsame⟩ := Option.map_eq_some_iff.mp hsome.symm
        obtain ⟨l'', hl'', hsettled⟩ := hbss b hb hbridge l₁ hl₁
        obtain rfl := Option.some.inj (hl''.symm.trans hl')
        have hcovered := (covered_congr hsame).mp (hbsses b hb hbridge l hl)
        exact (exactly_iff hsettled.enslaved hsettled.vlans).mpr hcovered

/-- A round that meets its condition does not raise. -/
theorem Round.Meets.apply_ok {r : Round} {k : Kernel} (h : r.Meets k) : ∃ k', r.apply k = .ok k' := by
  have hnumbers : ∀ e ∈ lanPorts r.cfg, (Dict.lookup e.1 (ensure bridge k)).isSome = true →
      ∀ v ∈ taggedVlans e.2, ∃ i : ℤ, v = .int i := by
    intro e he hsome
    rw [lookup_ensure_of_ne (h.apart.ports e he).1.lan] at hsome
    exact h.numbers e he hsome
  obtain ⟨k₁, hk₁⟩ := applyLanPorts_ok (Dict.nodup_keys_filter _ h.apart.distinct) hnumbers
  refine ⟨_, except_bind_eq_ok.mpr ⟨_, except_bind_eq_ok.mpr ⟨k₁, hk₁, rfl⟩, rfl⟩⟩

theorem Round.Meets.memberships {r : Round} {k k' : Kernel} (h : r.Meets k) (happly : r.apply k = .ok k') :
    Memberships r k' :=
  (memberships_iff h.apart happly).mpr ⟨h.ports, h.bsses⟩

theorem roundStep_eq_some {r : Round} {k k' : Kernel} {u : Unit} (h : roundStep k r = some (u, k')) :
    r.apply k = .ok k' := by
  unfold roundStep at h
  obtain ⟨k₁, hk₁, heq⟩ := Option.map_eq_some_iff.mp h
  obtain rfl := congrArg Prod.snd heq
  cases hr : r.apply k with
  | error e =>
    rw [hr] at hk₁
    cases hk₁
  | ok k₂ =>
    rw [hr] at hk₁
    exact congrArg Except.ok (Option.some.inj hk₁)

/-- **The memberships are exact after every round of a run** whose rounds meet their condition, and the next
such round gets there as well. -/
theorem memberships_of_run {k k' : Kernel} {l : List (Step Kernel Round Unit)} (hrun : Run roundStep k l k')
    (hmeets : ∀ x ∈ l, x.act.Meets x.pre) :
    (∀ x ∈ l, Memberships x.act x.post) ∧
      ∀ r : Round, r.Meets k' → ∃ k'', r.apply k' = .ok k'' ∧ Memberships r k'' := by
  constructor
  · intro x hx
    obtain ⟨before, after, rfl⟩ := List.append_of_mem hx
    obtain ⟨-, hstep, -⟩ := Run.step_at before hrun
    exact (hmeets x hx).memberships (roundStep_eq_some hstep)
  · intro r hr
    obtain ⟨k'', hk''⟩ := hr.apply_ok
    exact ⟨k'', hk'', hr.memberships hk''⟩

/-! ### Runs -/

/-- An SSID of the default network. -/
def homeRound : Round where
  cfg := Wifid.withSsids
    [("home", Wifid.plainSsid "Home" ["2g", "5g"] false (Wifid.passphraseProfile "wpa3" "required"))]
  radios := Wifid.twoRadios
  slots := Wifid.Allocator.empty
  gone := []
  made := ["wl2g0", "wl5g0"]

/-- Nothing but the ports. -/
def bareKernel : Kernel := [("eth0", Link.fresh), ("eth1", Link.fresh), ("eth3", Link.fresh)]

/-- A link of the LAN bridge in VLAN 1. -/
def defaultLink : Link := ⟨some bridge, [(1, untaggedMember)], []⟩

def homeKernel : Kernel :=
  [("eth0", defaultLink), ("eth1", defaultLink), ("eth3", Link.fresh),
    ("br-lan", ⟨none, [(1, untaggedMember)], ["192.168.2.1/24"]⟩), ("wl2g0", defaultLink), ("wl5g0", defaultLink)]

theorem covered_fresh : Covered 1 [] Link.fresh := by
  refine ⟨by simp, .inl rfl, fun v hv => .inl ?_⟩
  by_contra hne
  have hheld : heldOnBridge Link.fresh = [(1, ⟨true, true⟩)] := by decide
  rw [hheld, Dict.lookup_cons, if_neg (fun h => hne h.symm)] at hv
  cases hv

theorem apart_home : Apart homeRound := by
  have hports : ∀ e ∈ lanPorts homeRound.cfg, (e.1 ≠ bridge ∧ e.1 ≠ wanBridge ∧
      (∀ w ∈ sectionOf homeRound.cfg "wans", e.1 ≠ wanMember w.2) ∧
      startsWith (bridge ++ ".") e.1 = false) ∧ e.1 ∉ homeRound.gone ∧ e.1 ∉ homeRound.made := by
    decide
  have hbsses : ∀ b ∈ homeRound.bsses, (b.netdev ≠ bridge ∧ b.netdev ≠ wanBridge ∧
      (∀ w ∈ sectionOf homeRound.cfg "wans", b.netdev ≠ wanMember w.2) ∧
      startsWith (bridge ++ ".") b.netdev = false) ∧ b.netdev ∉ Dict.keys (sectionOf homeRound.cfg "ports") := by
    decide
  refine ⟨by decide, fun e he => ?_, fun b hb => ?_, by decide⟩
  · obtain ⟨⟨hlan, hwan, hmember, hvlan⟩, hgone⟩ := hports e he
    exact ⟨⟨hlan, hwan, hmember, hvlan⟩, hgone⟩
  · obtain ⟨⟨hlan, hwan, hmember, hvlan⟩, hkey⟩ := hbsses b hb
    exact ⟨⟨hlan, hwan, hmember, hvlan⟩, hkey⟩

/-- On a fresh bridge. -/
theorem meets_home : homeRound.Meets bareKernel := by
  have hports : ∀ e ∈ lanPorts homeRound.cfg, (portPvid homeRound.cfg e.2 = 1 ∧ taggedVlans e.2 = []) ∧
      (Dict.lookup e.1 bareKernel).getD Link.fresh = Link.fresh := by decide
  have hbsses : ∀ b ∈ homeRound.bsses, b.pvid = 1 ∧
      (homeRound.netdev b.netdev bareKernel).getD Link.fresh = Link.fresh := by decide
  refine ⟨apart_home, fun e he _ v hv => ?_, fun e he l hl => ?_, fun b hb _ l hl => ?_⟩
  · rw [(hports e he).1.2] at hv
    cases hv
  · obtain ⟨⟨hpvid, htagged⟩, hfresh⟩ := hports e he
    rw [hl, Option.getD_some] at hfresh
    unfold portTagged
    rw [hpvid, htagged, hfresh]
    exact covered_fresh
  · obtain ⟨hpvid, hfresh⟩ := hbsses b hb
    rw [hl, Option.getD_some] at hfresh
    rw [hpvid, hfresh]
    exact covered_fresh

theorem memberships_home : Memberships homeRound homeKernel := by
  have hstep : roundStep bareKernel homeRound = some ((), homeKernel) := by decide
  have hmeets : ∀ x ∈ [(⟨bareKernel, homeRound, (), homeKernel⟩ : Step Kernel Round Unit)],
      x.act.Meets x.pre := by
    intro x hx
    rw [List.mem_singleton.mp hx]
    exact meets_home
  exact (memberships_of_run (Run.cons hstep (Run.nil homeKernel)) hmeets).1 _ List.mem_cons_self

/-! ### A trunk that is one no longer -/

/-- The second port carries VLAN 20 as well. -/
def trunkEntries : Obj :=
  let port := ((Dict.lookup "eth1" defaultPorts).getD .null).entries
  Dict.set "ports" (.obj (Dict.set "eth1" (.obj (Dict.set "tagged_vlans" (.arr [.int 20]) port)) defaultPorts))
    defaultEntries

/-- A document without Wi-Fi. -/
def wiredRound (cfg : Obj) : Round := ⟨cfg, [], Wifid.Allocator.empty, [], []⟩

/-- VLAN 20 stays on the port when the document no longer has it there. -/
def staleKernel : Kernel :=
  [("eth0", defaultLink), ("eth1", ⟨some bridge, [(1, untaggedMember), (20, taggedMember)], []⟩),
    ("eth3", Link.fresh), ("br-lan", ⟨none, [(1, untaggedMember)], ["192.168.2.1/24"]⟩)]

theorem trunk_stays : validate Capabilities.empty trunkEntries = .ok (trunkEntries, []) ∧
    validate Capabilities.empty defaultEntries = .ok (defaultEntries, []) ∧
    (∃ l, Run roundStep bareKernel l staleKernel ∧
      l.map Step.act = [wiredRound trunkEntries, wiredRound defaultEntries]) ∧
    ¬ Memberships (wiredRound defaultEntries) staleKernel := by
  have htrunk : roundStep bareKernel (wiredRound trunkEntries) = some ((), staleKernel) := by decide
  have hplain : roundStep staleKernel (wiredRound defaultEntries) = some ((), staleKernel) := by decide
  refine ⟨by decide, validate_defaultEntries,
    ⟨_, Run.cons htrunk (Run.cons hplain (Run.nil staleKernel)), rfl⟩, ?_⟩
  intro hmembers
  have hport : ∃ e ∈ lanPorts defaultEntries, e.1 = "eth1" ∧ portPvid defaultEntries e.2 = 1 ∧
      taggedVlans e.2 = [] := by decide
  obtain ⟨e, he, hname, hpvid, htagged⟩ := hport
  have hlookup : Dict.lookup e.1 staleKernel =
      some ⟨some bridge, [(1, untaggedMember), (20, taggedMember)], []⟩ := by
    rw [hname]
    decide
  have hwanted := (hmembers.ports e he _ hlookup).wanted 20
  unfold portTagged at hwanted
  change _ = wantedMember (portPvid defaultEntries e.2) _ 20 at hwanted
  rw [hpvid, htagged] at hwanted
  exact absurd hwanted (by decide)

end Sbegw.Netd
