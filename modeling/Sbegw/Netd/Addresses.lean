import Sbegw.Netd.Apply
import Sbegw.Schema.Vlans

/-!
# One interface for each network

Networks are told apart by their VLANs; a network without one and the network of VLAN 1 are both on the
bridge itself.  An interface holds the address of one network, the last one that is applied to it.
-/

namespace Sbegw.Netd

open Text Kernel Schema EditM

/-! ### Distinct interfaces -/

/-- Two networks on the bridge. -/
def BothOnBridge (a b : Json) : Prop := onBridge a = true ∧ onBridge b = true

instance (a b : Json) : Decidable (BothOnBridge a b) := inferInstanceAs (Decidable (_ ∧ _))

/-- What validation says of the VLAN of a network. -/
theorem vlan_of_accepted {net : Json} {o : Obj} (hnet : net = .obj o) (h : Holds networkFacts o) :
    net.getD "vlan" .null = .null ∨ ∃ i : ℤ, net.getD "vlan" .null = .int i ∧ 1 ≤ i := by
  subst hnet
  have hvlan : IsVlan (Dict.lookup "vlan" o) := h.get (by simp [networkFacts])
  show (Dict.lookup "vlan" o).getD .null = .null ∨ ∃ i : ℤ, (Dict.lookup "vlan" o).getD .null = .int i ∧ 1 ≤ i
  rcases hvlan with hnull | ⟨i, hi, hlow, -⟩
  · exact .inl hnull
  · exact .inr ⟨i, by rw [hi]; rfl, hlow⟩

theorem networkInterface_onBridge {net : Json} (h : onBridge net = true) : networkInterface net = bridge := by
  unfold onBridge at h
  unfold networkInterface
  rw [Bool.or_eq_true, decide_eq_true_eq] at h
  exact if_pos h

theorem networkInterface_tagged {net : Json} {i : ℤ} (hi : net.getD "vlan" .null = .int i)
    (h : onBridge net = false) : networkInterface net = bridge ++ "." ++ ofInt i := by
  unfold onBridge at h
  unfold networkInterface
  rw [Bool.or_eq_false_iff, decide_eq_false_iff_not] at h
  rw [if_neg (by simp [h.1, h.2]), hi]
  rfl

theorem bridge_ne_tagged (s : String) : bridge ≠ bridge ++ "." ++ s := by
  intro h
  have hlen := congrArg String.length h
  simp only [String.length_append] at hlen
  have hone : ".".length = 1 := rfl
  omega

/-- Networks of different VLANs share their interface if they are both on the bridge. -/
theorem interface_eq_iff {a b : Json}
    (ha : a.getD "vlan" .null = .null ∨ ∃ i : ℤ, a.getD "vlan" .null = .int i ∧ 1 ≤ i)
    (hb : b.getD "vlan" .null = .null ∨ ∃ i : ℤ, b.getD "vlan" .null = .int i ∧ 1 ≤ i)
    (hdiff : ∀ v, namedVlan a = some v → namedVlan b ≠ some v) :
    networkInterface a = networkInterface b ↔ BothOnBridge a b := by
  have hnull : ∀ net : Json, net.getD "vlan" .null = .null → onBridge net = true := by
    intro net hnet
    simp [onBridge, hnet]
  unfold BothOnBridge
  cases hoa : onBridge a with
  | true =>
    cases hob : onBridge b with
    | true => simp [networkInterface_onBridge hoa, networkInterface_onBridge hob]
    | false =>
      rcases hb with hb | ⟨j, hj, -⟩
      · rw [hnull b hb] at hob
        cases hob
      · rw [networkInterface_onBridge hoa, networkInterface_tagged hj hob]
        simp [bridge_ne_tagged]
  | false =>
    rcases ha with ha | ⟨i, hi, hilow⟩
    · rw [hnull a ha] at hoa
      cases hoa
    · rw [networkInterface_tagged hi hoa]
      cases hob : onBridge b with
      | true =>
        rw [networkInterface_onBridge hob]
        simp [(bridge_ne_tagged _).symm]
      | false =>
        rcases hb with hb | ⟨j, hj, hjlow⟩
        · rw [hnull b hb] at hob
          cases hob
        · rw [networkInterface_tagged hj hob, String.append_right_inj, ofInt_inj (by omega) (by omega)]
          have hne : i ≠ j := by
            rintro rfl
            exact hdiff i (by simp [namedVlan, hi]) (by simp [namedVlan, hj])
          simp [hne]

/-- The networks of an accepted document. -/
theorem networks_of_accepted {caps : Capabilities} {cfg t : Obj} {w : List String}
    (h : validate caps cfg = .ok (t, w)) :
    (∀ e ∈ sectionOf t "networks", e.2.getD "vlan" .null = .null ∨
      ∃ i : ℤ, e.2.getD "vlan" .null = .int i ∧ 1 ≤ i) ∧
    (sectionOf t "networks").Pairwise fun a b => ∀ v, namedVlan a.2 = some v → namedVlan b.2 ≠ some v := by
  obtain ⟨networks, hl, hall⟩ := (accepted_of_validate h).networks
  obtain ⟨networks', hl', hpair⟩ := vlans_of_validate h
  obtain rfl : networks = networks' := Json.obj.inj (Option.some.inj (hl.symm.trans hl'))
  have hsection : sectionOf t "networks" = networks := by
    unfold sectionOf
    rw [hl]
    rfl
  rw [hsection]
  refine ⟨fun e he => ?_, hpair⟩
  obtain ⟨-, o, ho, hfacts⟩ := hall e he
  exact vlan_of_accepted ho hfacts

/-- No two networks share their interface where no two are on the bridge. -/
theorem nodup_interfaces_iff {caps : Capabilities} {cfg t : Obj} {w : List String}
    (h : validate caps cfg = .ok (t, w)) :
    ((sectionOf t "networks").map fun e => networkInterface e.2).Nodup ↔
      (sectionOf t "networks").Pairwise fun a b => ¬ BothOnBridge a.2 b.2 := by
  obtain ⟨hvlans, hdiff⟩ := networks_of_accepted h
  unfold List.Nodup
  rw [List.pairwise_map]
  constructor
  · intro hnodup
    refine (hdiff.and hnodup).imp_of_mem fun {a b} ha hb hab => ?_
    rw [← interface_eq_iff (hvlans a ha) (hvlans b hb) hab.1]
    exact hab.2
  · intro hapart
    refine (hdiff.and hapart).imp_of_mem fun {a b} ha hb hab => ?_
    rw [ne_eq, interface_eq_iff (hvlans a ha) (hvlans b hb) hab.1]
    exact hab.2

/-! ### Addresses -/

theorem isSome_bridgeVlanAdd (j port : String) (vid : ℤ) (m : Member) (k : Kernel) :
    (Dict.lookup j (bridgeVlanAdd port vid m k)).isSome = (Dict.lookup j k).isSome :=
  isSome_modify j port _ k

theorem isSome_syncAddresses (j name : String) (wanted : List String) (k : Kernel) :
    (Dict.lookup j (syncAddresses name wanted k)).isSome = (Dict.lookup j k).isSome :=
  isSome_modify j name _ k

theorem isSome_ensureVlan {j : String} {k : Kernel} (h : (Dict.lookup j k).isSome = true)
    (parent name : String) : (Dict.lookup j (ensureVlan parent name k)).isSome = true := by
  unfold ensureVlan
  split
  · exact isSome_ensure h name
  · exact h

/-- The links a network needs are there. -/
theorem isSome_applyNetwork {j : String} {k : Kernel} (h : (Dict.lookup j k).isSome = true) (net : Json) :
    (Dict.lookup j (applyNetwork net k)).isSome = true := by
  have hstart : (Dict.lookup j (if onBridge net then bridgeVlanAdd bridge 1 untaggedMember k
      else ensureVlan bridge (networkInterface net)
        (bridgeVlanAdd bridge (vlanOr1 net) taggedMember k))).isSome = true := by
    split
    · rwa [isSome_bridgeVlanAdd]
    · exact isSome_ensureVlan (by rwa [isSome_bridgeVlanAdd]) _ _
  unfold applyNetwork
  simp only
  split
  · rwa [isSome_syncAddresses]
  · exact hstart

/-- The network's own interface is there once the bridge is. -/
theorem isSome_own {net : Json} {k : Kernel} (h : (Dict.lookup bridge k).isSome = true) :
    (Dict.lookup (networkInterface net) (if onBridge net then bridgeVlanAdd bridge 1 untaggedMember k
      else ensureVlan bridge (networkInterface net)
        (bridgeVlanAdd bridge (vlanOr1 net) taggedMember k))).isSome = true := by
  split
  · next hon => rwa [networkInterface_onBridge hon, isSome_bridgeVlanAdd]
  · unfold ensureVlan
    rw [isSome_bridgeVlanAdd, if_pos h]
    exact isSome_ensure_self _ _

/-- A network gets its address. -/
theorem hasAddress_applyNetwork {net : Json} {k : Kernel} (h : (Dict.lookup bridge k).isSome = true)
    (hsub : (net.getD "subnet" .null).truthy = true) :
    HasAddress (applyNetwork net k) (networkInterface net) (pyStr (net.getD "subnet" .null)) := by
  unfold applyNetwork
  simp only
  rw [if_pos hsub]
  exact hasAddress_sync (isSome_own h) _

theorem hasAddress_bridgeVlanAdd {k : Kernel} {j cidr : String} (h : HasAddress k j cidr) (port : String)
    (vid : ℤ) (m : Member) : HasAddress (bridgeVlanAdd port vid m k) j cidr :=
  hasAddress_modify (fun _ => rfl) h

/-- The addresses of other interfaces stay. -/
theorem hasAddress_applyNetwork_of_ne {net : Json} {k : Kernel} {j cidr : String}
    (hj : j ≠ networkInterface net) (h : HasAddress k j cidr) : HasAddress (applyNetwork net k) j cidr := by
  have hstart : HasAddress (if onBridge net then bridgeVlanAdd bridge 1 untaggedMember k
      else ensureVlan bridge (networkInterface net)
        (bridgeVlanAdd bridge (vlanOr1 net) taggedMember k)) j cidr := by
    split
    · exact hasAddress_bridgeVlanAdd h _ _ _
    · unfold ensureVlan
      split
      · exact hasAddress_ensure (hasAddress_bridgeVlanAdd h _ _ _) _
      · exact hasAddress_bridgeVlanAdd h _ _ _
  unfold applyNetwork
  simp only
  split
  · exact hasAddress_sync_of_ne hj hstart _
  · exact hstart

theorem hasAddress_foldl_of_ne {j cidr : String} : ∀ {networks : Obj} {k : Kernel},
    j ∉ networks.map (fun e => networkInterface e.2) → HasAddress k j cidr →
    HasAddress (networks.foldl (fun k e => applyNetwork e.2 k) k) j cidr
  | [], _, _, h => h
  | e :: networks, k, hj, h => by
    rw [List.map_cons, List.mem_cons, not_or] at hj
    rw [List.foldl_cons]
    exact hasAddress_foldl_of_ne hj.2 (hasAddress_applyNetwork_of_ne hj.1 h)

/-- **Every network gets its address**, where no two share an interface. -/
theorem hasAddress_foldl : ∀ {networks : Obj} {k : Kernel},
    (networks.map fun e => networkInterface e.2).Nodup → (Dict.lookup bridge k).isSome = true →
    ∀ e ∈ networks, (e.2.getD "subnet" .null).truthy = true →
      HasAddress (networks.foldl (fun k e => applyNetwork e.2 k) k) (networkInterface e.2)
        (pyStr (e.2.getD "subnet" .null))
  | [], _, _, _, e, he, _ => by simp at he
  | e :: networks, k, hnodup, hbridge, f, hf, hsub => by
    rw [List.map_cons, List.nodup_cons] at hnodup
    rw [List.foldl_cons]
    rcases List.mem_cons.mp hf with rfl | hf
    · exact hasAddress_foldl_of_ne hnodup.1 (hasAddress_applyNetwork hbridge hsub)
    · exact hasAddress_foldl hnodup.2 (isSome_applyNetwork hbridge e.2) f hf hsub

/-! ### The whole apply -/

/-- Every network has an interface of its own, and the address of every network with a subnet is on it after
an apply. -/
structure Addressed (cfg : Obj) : Prop where
  distinct : ((sectionOf cfg "networks").map fun e => networkInterface e.2).Nodup
  present : ∀ k k', apply cfg k = .ok k' → ∀ e ∈ sectionOf cfg "networks", (e.2.getD "subnet" .null).truthy = true →
    HasAddress k' (networkInterface e.2) (pyStr (e.2.getD "subnet" .null))

theorem isSome_enslave (j port master : String) (k : Kernel) :
    (Dict.lookup j (enslave port master k)).isSome = (Dict.lookup j k).isSome := isSome_modify j port _ k

theorem isSome_addTagged {j port : String} : ∀ {vs : List Json} {k k' : Kernel}, addTagged port vs k = .ok k' →
    (Dict.lookup j k').isSome = (Dict.lookup j k).isSome
  | [], _, _, h => by
    obtain rfl := Except.ok.inj h
    rfl
  | v :: vs, k, k', h => by
    obtain ⟨vid, -, h⟩ := except_bind_eq_ok.mp h
    rw [isSome_addTagged h, isSome_bridgeVlanAdd]

theorem isSome_applyLanPorts {cfg : Obj} {j : String} : ∀ {ports : Obj} {k k' : Kernel},
    applyLanPorts cfg ports k = .ok k' → (Dict.lookup j k').isSome = (Dict.lookup j k).isSome
  | [], _, _, h => by
    obtain rfl := Except.ok.inj h
    rfl
  | e :: es, k, k', h => by
    obtain ⟨k₁, hport, h⟩ := except_bind_eq_ok.mp h
    rw [isSome_applyLanPorts h]
    unfold applyLanPort at hport
    split at hport
    · rw [isSome_addTagged hport, isSome_bridgeVlanAdd, isSome_enslave]
    · rw [Except.ok.inj hport]

/-- A loop keeps a link that each turn keeps. -/
theorem isSome_foldl {α : Type} {j : String} {f : Kernel → α → Kernel}
    (hf : ∀ k a, (Dict.lookup j k).isSome = true → (Dict.lookup j (f k a)).isSome = true) :
    ∀ {xs : List α} {k : Kernel}, (Dict.lookup j k).isSome = true → (Dict.lookup j (xs.foldl f k)).isSome = true
  | [], _, h => h
  | x :: xs, k, h => by
    rw [List.foldl_cons]
    exact isSome_foldl hf (hf k x h)

theorem isSome_releaseAll (j master : String) (k : Kernel) :
    (Dict.lookup j (releaseAll master k)).isSome = (Dict.lookup j k).isSome := by
  rw [lookup_releaseAll, Option.isSome_map]

/-- The bridge of the LAN stays. -/
theorem isSome_applyWanBridge {cfg : Obj} {k : Kernel} (h : (Dict.lookup bridge k).isSome = true) :
    (Dict.lookup bridge (applyWanBridge cfg k)).isSome = true := by
  unfold applyWanBridge
  split
  · refine isSome_foldl ?_ (isSome_ensure h wanBridge)
    intro k e hk
    unfold applyWan
    dsimp only
    rw [isSome_enslave]
    split
    · exact hk
    · exact isSome_ensureVlan hk _ _
  · split
    · have hne : bridge ≠ wanBridge := by decide
      unfold delete
      rw [Dict.lookup_erase_of_ne hne, isSome_releaseAll]
      exact h
    · exact h

theorem isSome_applyApPorts {cfg : Obj} {k : Kernel} (h : (Dict.lookup bridge k).isSome = true) :
    (Dict.lookup bridge (applyApPorts cfg k)).isSome = true := by
  unfold applyApPorts
  split
  · refine isSome_foldl ?_ h
    intro k e hk
    rw [isSome_bridgeVlanAdd, isSome_enslave]
    exact hk
  · exact h

theorem isSome_releasePorts {cfg : Obj} {k : Kernel} (h : (Dict.lookup bridge k).isSome = true) :
    (Dict.lookup bridge (releasePorts cfg k)).isSome = true := by
  unfold releasePorts
  refine isSome_foldl ?_ h
  intro k e hk
  split
  · unfold release
    rw [isSome_modify]
    exact hk
  · exact hk

/-- The interface of a network is none of the stale ones. -/
theorem lookup_deleteStale {networks : Obj} {k : Kernel} {e : String × Json} (he : e ∈ networks) :
    Dict.lookup (networkInterface e.2) (deleteStale networks k) = Dict.lookup (networkInterface e.2) k := by
  have hkeep : (!(startsWith (bridge ++ ".") (networkInterface e.2) &&
      !(wantedVlanIfaces networks).contains (networkInterface e.2))) = true := by
    cases hon : onBridge e.2 with
    | true =>
      rw [networkInterface_onBridge hon]
      have hbridge : startsWith (bridge ++ ".") bridge = false := by decide
      rw [hbridge]
      rfl
    | false =>
      have hmem : networkInterface e.2 ∈ wantedVlanIfaces networks :=
        List.mem_map_of_mem (List.mem_filter.mpr ⟨he, by rw [hon]; rfl⟩)
      rw [List.contains_iff_mem.mpr hmem, Bool.not_true, Bool.and_false]
      rfl
  unfold deleteStale
  exact Dict.lookup_filter_key (p := fun name => !(startsWith (bridge ++ ".") name &&
    !(wantedVlanIfaces networks).contains name)) hkeep k

/-- A second network on the bridge. -/
def untaggedNetwork : Obj :=
  Dict.set "dhcp" (.obj [("enabled", .bool false)]) (Dict.set "subnet" (.str "192.168.20.1/24") defaultNetwork)

def twoUntagged : Obj :=
  Dict.set "networks" (.obj [("default", .obj defaultNetwork), ("second", .obj untaggedNetwork)]) defaultEntries

/-- The links after the apply, where the kernel has none before. -/
def takenKernel : Kernel := [(bridge, ⟨none, [(1, ⟨true, true⟩)], ["192.168.20.1/24"]⟩)]

end Sbegw.Netd
