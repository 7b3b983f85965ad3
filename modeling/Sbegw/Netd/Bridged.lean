import Mathlib.Data.List.Induction
import Sbegw.Netd.Membership

/-!
# What an apply leaves

The masters of the ports and the addresses of the networks' interfaces after `NetworkManager.apply`, read off
the document.
-/

namespace Sbegw.Netd

open Text Kernel Schema

/-! ### What the document calls for -/

/-- A port of the LAN bridge, or the WAN port of an access point. -/
def joinsLan (cfg : Obj) (port : Json) : Bool := isLan port || apMode cfg && isApPort port

/-- The port is in the LAN bridge. -/
def OnLan (cfg : Obj) (port : String) : Prop := ∃ e ∈ sectionOf cfg "ports", e.1 = port ∧ joinsLan cfg e.2 = true

/-- The enabled WANs. -/
def enabledWans (cfg : Obj) : Obj := (sectionOf cfg "wans").filter fun e => (e.2.getD "enabled" (.bool true)).truthy

/-- The port, or the VLAN interface of a port, is in the WAN bridge. -/
def OnWan (cfg : Obj) (member : String) : Prop :=
  wanBridgeNeeded cfg = true ∧ ∃ e ∈ enabledWans cfg, wanMember e.2 = member

/-- The network has an address for the interface. -/
def addresses (iface : String) (net : Json) : Bool :=
  (net.getD "subnet" .null).truthy && decide (networkInterface net = iface)

/-- The networks with an address for an interface, in the order they are applied. -/
def networksOn (cfg : Obj) (iface : String) : Obj := (sectionOf cfg "networks").filter fun e => addresses iface e.2

/-- The address that an interface ends up with. -/
def interfaceSubnet (cfg : Obj) (iface : String) : Option String :=
  (networksOn cfg iface).getLast?.map fun e => pyStr (e.2.getD "subnet" .null)

/-! ### Masters -/

/-- The master of a link that is there. -/
def masterOf (j : String) (k : Kernel) : Option (Option String) := (Dict.lookup j k).map Link.master

section Masters

variable {j : String} {m : Option String} {k : Kernel}

theorem masterOf_modify {f : Link → Link} {g : Option String → Option String}
    (hf : ∀ l, (f l).master = g l.master) (name : String) (h : masterOf j k = some m) :
    masterOf j (modify name f k) = some (if j = name then g m else m) := by
  obtain ⟨l, hl, rfl⟩ := Option.map_eq_some_iff.mp h
  unfold masterOf
  rw [lookup_modify]
  split
  · next hj =>
    rw [← hj, hl]
    exact congrArg some (hf l)
  · rw [hl]
    rfl

theorem masterOf_enslave (port master : String) (h : masterOf j k = some m) :
    masterOf j (enslave port master k) = some (if j = port then some master else m) := by
  refine masterOf_modify (g := fun _ => some master) (fun l => ?_) port h
  split
  · assumption
  · rfl

theorem masterOf_bridgeVlanAdd (port : String) (vid : ℤ) (member : Member) (h : masterOf j k = some m) :
    masterOf j (bridgeVlanAdd port vid member k) = some m := by
  have hmodify := masterOf_modify (g := fun m => m) (f := fun l => { l with vlans := addVlan vid member l.vlans })
    (fun _ => rfl) port h
  rwa [ite_self] at hmodify

theorem masterOf_ensure (name : String) (h : masterOf j k = some m) : masterOf j (ensure name k) = some m := by
  obtain ⟨l, hl, rfl⟩ := Option.map_eq_some_iff.mp h
  unfold masterOf
  rw [lookup_ensure]
  split
  · next hj =>
    rw [← hj, hl]
    rfl
  · rw [hl]
    rfl

theorem masterOf_ensureVlan (parent name : String) (h : masterOf j k = some m) :
    masterOf j (ensureVlan parent name k) = some m := by
  unfold ensureVlan
  split
  · exact masterOf_ensure name h
  · exact h

/-- A loop whose turns change the master as `g` says. -/
theorem masterOf_foldl {α : Type} {f : Kernel → α → Kernel} {g : α → Option String → Option String}
    (hf : ∀ x k m, masterOf j k = some m → masterOf j (f k x) = some (g x m)) :
    ∀ (xs : List α) {k : Kernel} {m : Option String}, masterOf j k = some m →
      masterOf j (xs.foldl f k) = some (xs.foldl (fun m x => g x m) m)
  | [], _, _, h => h
  | x :: xs, k, m, h => by
    rw [List.foldl_cons, List.foldl_cons]
    exact masterOf_foldl hf xs (hf x k m h)

/-- A loop that enslaves what `p` picks. -/
theorem foldl_pick {α : Type} (p : α → Bool) (c : Option String) : ∀ (xs : List α) (m : Option String),
    xs.foldl (fun m x => if p x then c else m) m = if xs.any p then c else m
  | [], _ => rfl
  | x :: xs, m => by
    rw [List.foldl_cons, foldl_pick p c xs, List.any_cons]
    cases p x
    · rfl
    · rw [if_pos rfl, Bool.true_or, if_pos rfl, ite_self]

/-- A loop that releases what `p` picks from a master. -/
theorem foldl_release {α : Type} (p : α → Bool) (master : String) : ∀ (xs : List α) (m : Option String),
    xs.foldl (fun m x => if p x ∧ m = some master then none else m) m =
      if xs.any p ∧ m = some master then none else m
  | [], _ => by simp
  | x :: xs, m => by
    rw [List.foldl_cons, foldl_release p master xs, List.any_cons]
    cases hp : p x
    · simp
    · by_cases hm : m = some master
      · simp [hm]
      · simp [hm]

/-- A loop over the entries that `p` picks comes by the key of one of them. -/
theorem any_filter_key {p : Json → Bool} {d : Obj} :
    ((d.filter fun e => p e.2).any fun e => decide (j = e.1)) = true ↔ ∃ e ∈ d, j = e.1 ∧ p e.2 = true := by
  simp only [List.any_eq_true, List.mem_filter, decide_eq_true_eq, and_assoc]
  exact exists_congr fun e => by rw [and_comm (a := p e.2 = true)]

theorem masterOf_applyWan (wan : Json) (h : masterOf j k = some m) :
    masterOf j (applyWan wan k) = some (if j = wanMember wan then some wanBridge else m) := by
  unfold applyWan
  refine masterOf_enslave _ _ ?_
  split
  · exact h
  · exact masterOf_ensureVlan _ _ h

theorem masterOf_releaseAll (master : String) (h : masterOf j k = some m) :
    masterOf j (releaseAll master k) = some (if m = some master then none else m) := by
  obtain ⟨l, hl, rfl⟩ := Option.map_eq_some_iff.mp h
  unfold masterOf
  rw [lookup_releaseAll, hl, Option.map_some, Option.map_some]
  unfold released
  split <;> rfl

end Masters

/-! ### The parts of an apply -/

section Parts

variable {j : String} {m : Option String} {k : Kernel}

theorem masterOf_applyLanPorts {cfg : Obj} {k' : Kernel} (h : applyLanPorts cfg (lanPorts cfg) k = .ok k')
    (hnodup : (Dict.keys (sectionOf cfg "ports")).Nodup) (hm : masterOf j k = some m) :
    masterOf j k' = some (if j ∈ Dict.keys (lanPorts cfg) then some bridge else m) := by
  unfold masterOf at hm ⊢
  split
  · next hmem =>
    obtain ⟨e, he, rfl⟩ := List.mem_map.mp hmem
    obtain ⟨l, hl, -⟩ := Option.map_eq_some_iff.mp hm
    rw [lookup_applyLanPorts h (Dict.nodup_keys_filter _ hnodup) e he, hl]
    rfl
  · next hmem => rw [lookup_applyLanPorts_of_notMem h hmem, hm]

/-- The WAN bridge takes its members, and one that is not needed gives back what it has. -/
theorem masterOf_applyWanBridge (cfg : Obj) (hj : j ≠ wanBridge) (hm : masterOf j k = some m) :
    ∃ m', masterOf j (applyWanBridge cfg k) = some m' ∧ (OnWan cfg j → m' = some wanBridge) ∧
      (¬ OnWan cfg j → m' = m ∨ m = some wanBridge ∧ m' = none) := by
  unfold applyWanBridge
  split
  · next hneeded =>
    have hmember : OnWan cfg j ↔ (enabledWans cfg).any (fun e => decide (j = wanMember e.2)) = true := by
      unfold OnWan
      simp only [hneeded, true_and, List.any_eq_true, decide_eq_true_eq, eq_comm (a := j)]
    have hfold := masterOf_foldl (j := j) (f := fun k (e : String × Json) => applyWan e.2 k)
      (g := fun e m => if decide (j = wanMember e.2) then some wanBridge else m) (fun e k m h => by
        simpa using masterOf_applyWan e.2 h) (enabledWans cfg) (masterOf_ensure wanBridge hm)
    rw [foldl_pick] at hfold
    refine ⟨_, hfold, fun hon => if_pos (hmember.mp hon), fun hoff => .inl (if_neg fun h => hoff (hmember.mpr h))⟩
  · next hneeded =>
    have hoff : ¬ OnWan cfg j := fun hon => hneeded hon.1
    split
    · refine ⟨if m = some wanBridge then none else m, ?_, fun hon => absurd hon hoff, fun _ => ?_⟩
      · unfold delete masterOf
        rw [Dict.lookup_erase_of_ne hj]
        exact masterOf_releaseAll wanBridge hm
      · split
        · next hwan => exact .inr ⟨hwan, rfl⟩
        · exact .inl rfl
    · exact ⟨m, hm, fun hon => absurd hon hoff, fun _ => .inl rfl⟩

theorem masterOf_applyApPorts (cfg : Obj) (hm : masterOf j k = some m) : masterOf j (applyApPorts cfg k) =
    some (if apMode cfg = true ∧ ∃ e ∈ sectionOf cfg "ports", j = e.1 ∧ isApPort e.2 = true then some bridge
      else m) := by
  unfold applyApPorts
  split
  · next hmode =>
    have hfold := masterOf_foldl (j := j) (f := fun k (e : String × Json) =>
      bridgeVlanAdd e.1 1 untaggedMember (enslave e.1 bridge k))
      (g := fun e m => if decide (j = e.1) then some bridge else m) (fun e k m h => by
        simpa using masterOf_bridgeVlanAdd _ _ _ (masterOf_enslave e.1 bridge h))
      ((sectionOf cfg "ports").filter fun e => isApPort e.2) hm
    rw [foldl_pick] at hfold
    rw [hfold]
    simp only [any_filter_key, hmode, true_and]
  · next hmode => simp [hmode, hm]

theorem masterOf_releasePorts (cfg : Obj) (hm : masterOf j k = some m) : masterOf j (releasePorts cfg k) =
    some (if (∃ e ∈ sectionOf cfg "ports", j = e.1 ∧ leaves cfg e.2 = true) ∧ m = some bridge then none
      else m) := by
  have hfold := masterOf_foldl (j := j) (f := fun k (e : String × Json) =>
    if ((Dict.lookup e.1 k).bind Link.master) = some bridge then release e.1 k else k)
    (g := fun e m => if decide (j = e.1) = true ∧ m = some bridge then none else m) (fun e k m h => by
      obtain ⟨l, hl, rfl⟩ := Option.map_eq_some_iff.mp h
      have hrelease := masterOf_modify (g := fun _ => none) (f := fun l => { l with master := none, vlans := [] })
        (fun _ => rfl) e.1 h
      by_cases hj : j = e.1
      · rw [← hj, hl]
        rw [← hj] at hrelease
        by_cases hmaster : l.master = some bridge
        · simpa [hmaster, release] using hrelease
        · simpa [hmaster] using h
      · split
        · simpa [hj, release] using hrelease
        · simpa [hj] using h)
    ((sectionOf cfg "ports").filter fun e => leaves cfg e.2) hm
  rw [foldl_release] at hfold
  unfold releasePorts
  rw [hfold]
  simp only [any_filter_key]

end Parts

/-! ### The ports after an apply -/

/-- What joins the LAN bridge does not leave it. -/
theorem leaves_of_joinsLan {cfg : Obj} {port : Json} (h : joinsLan cfg port = true) : leaves cfg port = false := by
  unfold joinsLan isLan isApPort at h
  unfold leaves
  simp only [Bool.or_eq_true, Bool.and_eq_true, decide_eq_true_eq] at h
  rcases h with h | h
  · simp [h.1]
  · simp [h.1, h.2.1]

/-- **Each port that is there gets the master that the document says**, and no other master than it had. -/
theorem masterOf_apply {cfg : Obj} (hnodup : (Dict.keys (sectionOf cfg "ports")).Nodup) {e : String × Json}
    (he : e ∈ sectionOf cfg "ports") (hname : Plain [] e.1) {k k' : Kernel} (h : Netd.apply cfg k = .ok k')
    {m : Option String} (hm : masterOf e.1 k = some m) : ∃ m', masterOf e.1 k' = some m' ∧
      (OnWan cfg e.1 → m' = some wanBridge) ∧ (OnLan cfg e.1 → ¬ OnWan cfg e.1 → m' = some bridge) ∧
      (¬ OnLan cfg e.1 → ¬ OnWan cfg e.1 → m' = m ∨ m' = none) := by
  unfold Netd.apply at h
  obtain ⟨k₁, hports, h⟩ := except_bind_eq_ok.mp h
  obtain rfl := Except.ok.inj h
  have hpick : ∀ p : Json → Bool, (∃ f ∈ sectionOf cfg "ports", e.1 = f.1 ∧ p f.2 = true) ↔ p e.2 = true := by
    intro p
    constructor
    · rintro ⟨f, hf, heq, hp⟩
      rwa [List.inj_on_of_nodup_map hnodup he hf heq]
    · exact fun hp => ⟨e, he, rfl, hp⟩
  have hlan : e.1 ∈ Dict.keys (lanPorts cfg) ↔ isLan e.2 = true := by
    rw [← hpick isLan]
    unfold lanPorts Dict.keys
    simp only [List.mem_map, List.mem_filter, and_assoc]
    exact exists_congr fun f => by rw [and_comm (a := isLan f.2 = true), eq_comm (a := f.1)]
  have hon : OnLan cfg e.1 ↔ isLan e.2 = true ∨ apMode cfg = true ∧ isApPort e.2 = true := by
    have hjoins := hpick (joinsLan cfg)
    unfold OnLan
    simp only [eq_comm (b := e.1)]
    rw [hjoins, joinsLan, Bool.or_eq_true, Bool.and_eq_true]
  have h₁ := masterOf_applyLanPorts hports hnodup (masterOf_ensure bridge hm)
  obtain ⟨m₂, h₂, hwan, hother⟩ := masterOf_applyWanBridge cfg hname.wan h₁
  have h₃ := masterOf_applyApPorts cfg h₂
  have h₄ := masterOf_releasePorts cfg h₃
  have hmode : OnWan cfg e.1 → apMode cfg = false := by
    intro honwan
    have hneeded := honwan.1
    unfold wanBridgeNeeded at hneeded
    simpa using (Bool.and_eq_true_iff.mp hneeded).2
  have hne : (some wanBridge : Option String) ≠ some bridge := by decide
  have hend : masterOf e.1 (applyNetworks (sectionOf cfg "networks") (releasePorts cfg (applyApPorts cfg
      (applyWanBridge cfg k₁)))) = _ := (congrArg _ (lookup_applyNetworks hname _ _)).trans h₄
  simp only [hpick isApPort, hpick (leaves cfg), hlan] at hend hother
  refine ⟨_, hend, fun honwan => ?_, fun honlan hoff => ?_, fun hofflan hoff => ?_⟩
  · rw [hwan honwan, hmode honwan]
    simp [hne]
  · have hstays : leaves cfg e.2 = false := leaves_of_joinsLan ((hpick (joinsLan cfg)).mp
      (honlan.imp fun f hf => ⟨hf.1, hf.2.1.symm, hf.2.2⟩))
    rw [if_neg (by simp [hstays])]
    rcases hon.mp honlan with hlan | hap
    · rw [if_pos hlan] at hother
      have hm₂ : m₂ = some bridge := (hother hoff).resolve_right fun h => hne h.1.symm
      rw [hm₂, ite_self]
    · exact if_pos hap
  · have hnot : ¬ (isLan e.2 = true ∨ apMode cfg = true ∧ isApPort e.2 = true) := fun h => hofflan (hon.mpr h)
    rw [not_or] at hnot
    rw [if_neg hnot.1] at hother
    rw [if_neg hnot.2]
    split
    · exact .inr rfl
    · exact (hother hoff).imp id And.right

/-! ### The addresses after an apply -/

section Addresses

variable {j : String} {k : Kernel}

/-- The commands for the VLAN of a network. -/
theorem addrs_start (net : Json) {l : Link} (hl : Dict.lookup j k = some l) :
    ∃ l', Dict.lookup j (if onBridge net then bridgeVlanAdd bridge 1 untaggedMember k
      else ensureVlan bridge (networkInterface net) (bridgeVlanAdd bridge (vlanOr1 net) taggedMember k)) = some l' ∧
      l'.addrs = l.addrs := by
  have hadd : ∀ vid member, ∃ l', Dict.lookup j (bridgeVlanAdd bridge vid member k) = some l' ∧
      l'.addrs = l.addrs := by
    intro vid member
    unfold bridgeVlanAdd
    rw [lookup_modify]
    split
    · next hj =>
      rw [← hj, hl]
      exact ⟨_, rfl, rfl⟩
    · exact ⟨l, hl, rfl⟩
  split
  · exact hadd 1 untaggedMember
  · obtain ⟨l', hl', haddrs⟩ := hadd (vlanOr1 net) taggedMember
    refine ⟨l', ?_, haddrs⟩
    unfold ensureVlan
    split
    · rw [lookup_ensure]
      split
      · next hj =>
        rw [← hj, hl']
        rfl
      · exact hl'
    · exact hl'

/-- A network leaves the addresses of an interface alone that it has none for. -/
theorem addrs_applyNetwork {net : Json} {l : Link} (hnot : addresses j net = false)
    (hl : Dict.lookup j k = some l) :
    ∃ l', Dict.lookup j (applyNetwork net k) = some l' ∧ l'.addrs = l.addrs := by
  obtain ⟨l', hl', haddrs⟩ := addrs_start net hl
  unfold applyNetwork
  dsimp only
  split
  · next hsub =>
    have hj : j ≠ networkInterface net := by
      rintro rfl
      unfold addresses at hnot
      rw [hsub, decide_eq_true rfl] at hnot
      cases hnot
    unfold syncAddresses
    rw [lookup_modify, if_neg hj]
    exact ⟨l', hl', haddrs⟩
  · exact ⟨l', hl', haddrs⟩

/-- The only address of the interface is this one, as it is written or in the kernel's text. -/
def HasOnly (k : Kernel) (name cidr : String) : Prop :=
  ∃ l, Dict.lookup name k = some l ∧ l.addrs ≠ [] ∧ ∀ a ∈ l.addrs, a = cidr ∨ a = canonical cidr

theorem hasOnly_sync (h : (Dict.lookup j k).isSome = true) (cidr : String) :
    HasOnly (syncAddresses j [cidr] k) j cidr := by
  obtain ⟨l, hl⟩ := Option.isSome_iff_exists.mp h
  unfold syncAddresses HasOnly
  rw [lookup_modify, if_pos rfl, hl]
  refine ⟨_, rfl, ?_, fun a ha => ?_⟩
  · by_cases hmem : cidr ∈ l.addrs
    · have hfilter : cidr ∈ l.addrs.filter fun a => [cidr].contains a := by simp [hmem]
      exact List.append_ne_nil_of_left_ne_nil (List.ne_nil_of_mem hfilter) _
    · simp [hmem]
  · rcases List.mem_append.mp ha with ha | ha
    · left
      simpa using (List.mem_filter.mp ha).2
    · right
      obtain ⟨b, hb, rfl⟩ := List.mem_map.mp ha
      rw [List.mem_singleton.mp (List.mem_of_mem_filter hb)]

/-- The last network with an address for the interface sets it. -/
theorem hasOnly_foldl {e : String × Json} : ∀ {networks : Obj}, (Dict.lookup bridge k).isSome = true →
    (networks.filter fun e => addresses j e.2).getLast? = some e →
    HasOnly (networks.foldl (fun k e => applyNetwork e.2 k) k) j (pyStr (e.2.getD "subnet" .null)) := by
  intro networks hbridge hlast
  induction networks using List.reverseRecOn with
  | nil => cases hlast
  | append_singleton networks n ih =>
    have hstill : (Dict.lookup bridge (networks.foldl (fun k e => applyNetwork e.2 k) k)).isSome = true :=
      isSome_foldl (fun k e hk => isSome_applyNetwork hk e.2) hbridge
    rw [List.foldl_append, List.foldl_cons, List.foldl_nil]
    rw [List.filter_append] at hlast
    cases hn : addresses j n.2 with
    | true =>
      have hone : [n].filter (fun e => addresses j e.2) = [n] := List.filter_cons_of_pos hn
      rw [hone, List.getLast?_concat] at hlast
      obtain rfl := Option.some.inj hlast
      unfold addresses at hn
      rw [Bool.and_eq_true, decide_eq_true_eq] at hn
      unfold applyNetwork
      dsimp only
      rw [if_pos hn.1, hn.2.symm]
      exact hasOnly_sync (isSome_own hstill) _
    | false =>
      have hnone : [n].filter (fun e => addresses j e.2) = [] := List.filter_cons_of_neg (by simp [hn])
      rw [hnone, List.append_nil] at hlast
      obtain ⟨l, hl, hne, hall⟩ := ih hlast
      obtain ⟨l', hl', haddrs⟩ := addrs_applyNetwork hn hl
      exact ⟨l', hl', haddrs ▸ hne, haddrs ▸ hall⟩

end Addresses

/-- **Each interface with a network has the address that the document says**, and no other. -/
theorem hasOnly_apply {cfg : Obj} {k k' : Kernel} (h : Netd.apply cfg k = .ok k') {iface address : String}
    (haddress : interfaceSubnet cfg iface = some address) : HasOnly k' iface address := by
  obtain ⟨e, hlast, rfl⟩ := Option.map_eq_some_iff.mp haddress
  unfold Netd.apply at h
  obtain ⟨k₁, hports, h⟩ := except_bind_eq_ok.mp h
  obtain rfl := Except.ok.inj h
  have hstart : (Dict.lookup bridge k₁).isSome = true := by
    rw [isSome_applyLanPorts hports]
    exact isSome_ensure_self bridge k
  have hbridge : (Dict.lookup bridge (releasePorts cfg (applyApPorts cfg (applyWanBridge cfg k₁)))).isSome = true :=
    isSome_releasePorts (isSome_applyApPorts (isSome_applyWanBridge hstart))
  have hmem := List.mem_filter.mp (List.mem_of_mem_getLast? hlast)
  have hiface : iface = networkInterface e.2 := by
    have hon := hmem.2
    unfold addresses at hon
    rw [Bool.and_eq_true, decide_eq_true_eq] at hon
    exact hon.2.symm
  obtain ⟨l, hl, hne, hall⟩ := hasOnly_foldl hbridge hlast
  refine ⟨l, ?_, hne, hall⟩
  unfold applyNetworks
  rw [hiface, lookup_deleteStale hmem.1, ← hiface]
  exact hl

end Sbegw.Netd
