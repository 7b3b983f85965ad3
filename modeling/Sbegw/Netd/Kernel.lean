import Sbegw.Netd

/-!
# The kernel's links

What the commands of `rtnl` do to the links of the kernel: masters, VLAN memberships and addresses.
Every command on a link that is there succeeds.  Enslaving a port to the VLAN-filtering bridge gives it
VLAN 1, untagged; adding a VLAN leaves the other memberships of the port alone.
-/

namespace Sbegw.Netd

open Text

/-! ### Links -/

/-- The flags of a membership. -/
structure Member where
  pvid : Bool
  untagged : Bool
deriving DecidableEq

/-- A link. -/
structure Link where
  master : Option String
  /-- the VLANs it is a member of as a bridge port, or as the bridge itself -/
  vlans : Dict ℤ Member
  /-- `local/prefixlen`, of global scope -/
  addrs : List String
deriving DecidableEq

/-- A link nothing has been done to. -/
def Link.fresh : Link := ⟨none, [], []⟩

/-- The links by name. -/
abbrev Kernel := Dict String Link

namespace Kernel

/-- Change a link that is there. -/
def modify (name : String) (f : Link → Link) (k : Kernel) : Kernel :=
  match Dict.lookup name k with
  | some l => Dict.set name (f l) k
  | none => k

/-- `ip link add`, unless the link is there. -/
def ensure (name : String) (k : Kernel) : Kernel :=
  match Dict.lookup name k with
  | some _ => k
  | none => Dict.set name Link.fresh k

/-- `del_link`, `delete_link` -/
def delete (name : String) (k : Kernel) : Kernel := Dict.erase name k

/-- The memberships of a port that joins a bridge: only the LAN bridge filters VLANs. -/
def joined (master : String) : Dict ℤ Member := if master = bridge then [(1, ⟨true, true⟩)] else []

/-- `enslave` -/
def enslave (port master : String) : Kernel → Kernel :=
  modify port fun l =>
    if l.master = some master then l else { l with master := some master, vlans := joined master }

/-- `release` -/
def release (port : String) : Kernel → Kernel := modify port fun l => { l with master := none, vlans := [] }

/-- A membership is added, or its flags are set anew; one VLAN is the PVID. -/
def addVlan (vid : ℤ) (m : Member) (vlans : Dict ℤ Member) : Dict ℤ Member :=
  Dict.set vid m (if m.pvid then vlans.map fun e => (e.1, { e.2 with pvid := false }) else vlans)

/-- `bridge_vlan_add` -/
def bridgeVlanAdd (port : String) (vid : ℤ) (m : Member) : Kernel → Kernel :=
  modify port fun l => { l with vlans := addVlan vid m l.vlans }

/-- The kernel's text of an address. -/
def canonical (cidr : String) : String :=
  match Ip.ipInterface cidr with
  | some i => i.show
  | none => cidr

/-- `sync_addresses` -/
def syncAddresses (name : String) (wanted : List String) : Kernel → Kernel :=
  modify name fun l =>
    { l with addrs := l.addrs.filter (fun a => wanted.contains a) ++
      (wanted.filter fun w => !l.addrs.contains w).map canonical }

/-! ### What a command changes -/

theorem lookup_modify (j name : String) (f : Link → Link) (k : Kernel) :
    Dict.lookup j (modify name f k) = if j = name then (Dict.lookup name k).map f else Dict.lookup j k := by
  unfold modify
  cases hl : Dict.lookup name k with
  | none =>
    by_cases hj : j = name
    · rw [if_pos hj, hj, hl]
      rfl
    · rw [if_neg hj]
  | some l =>
    show Dict.lookup j (Dict.set name (f l) k) = _
    rw [Dict.lookup_set]
    rfl

theorem isSome_modify (j name : String) (f : Link → Link) (k : Kernel) :
    (Dict.lookup j (modify name f k)).isSome = (Dict.lookup j k).isSome := by
  rw [lookup_modify]
  split
  · next hj =>
    rw [Option.isSome_map, hj]
  · rfl

theorem lookup_ensure (j name : String) (k : Kernel) : Dict.lookup j (ensure name k) =
    if j = name then some ((Dict.lookup name k).getD Link.fresh) else Dict.lookup j k := by
  unfold ensure
  cases hl : Dict.lookup name k with
  | none =>
    show Dict.lookup j (Dict.set name Link.fresh k) = _
    rw [Dict.lookup_set]
    rfl
  | some l =>
    by_cases hj : j = name
    · rw [if_pos hj, hj]
      exact hl
    · rw [if_neg hj]

theorem isSome_ensure_self (name : String) (k : Kernel) : (Dict.lookup name (ensure name k)).isSome = true := by
  rw [lookup_ensure, if_pos rfl]
  rfl

theorem isSome_ensure {j : String} {k : Kernel} (h : (Dict.lookup j k).isSome = true) (name : String) :
    (Dict.lookup j (ensure name k)).isSome = true := by
  rw [lookup_ensure]
  split
  · rfl
  · exact h

/-- The link is there and holds the address, as it is written or in the kernel's text. -/
def HasAddress (k : Kernel) (name cidr : String) : Prop :=
  ∃ l, Dict.lookup name k = some l ∧ (cidr ∈ l.addrs ∨ canonical cidr ∈ l.addrs)

theorem hasAddress_modify {k : Kernel} {j name addr : String} {f : Link → Link}
    (hf : ∀ l, (f l).addrs = l.addrs) (h : HasAddress k j addr) : HasAddress (modify name f k) j addr := by
  obtain ⟨l, hl, hmem⟩ := h
  unfold HasAddress
  rw [lookup_modify]
  by_cases hj : j = name
  · rw [if_pos hj, ← hj, hl]
    exact ⟨f l, rfl, by rwa [hf]⟩
  · rw [if_neg hj]
    exact ⟨l, hl, hmem⟩

theorem hasAddress_ensure {k : Kernel} {j addr : String} (h : HasAddress k j addr) (name : String) :
    HasAddress (ensure name k) j addr := by
  obtain ⟨l, hl, hmem⟩ := h
  unfold HasAddress
  rw [lookup_ensure]
  by_cases hj : j = name
  · rw [if_pos hj, ← hj, hl]
    exact ⟨l, rfl, hmem⟩
  · rw [if_neg hj]
    exact ⟨l, hl, hmem⟩

/-- The wanted address is there afterwards. -/
theorem hasAddress_sync {k : Kernel} {name : String} (h : (Dict.lookup name k).isSome = true) (cidr : String) :
    HasAddress (syncAddresses name [cidr] k) name cidr := by
  obtain ⟨l, hl⟩ := Option.isSome_iff_exists.mp h
  unfold syncAddresses HasAddress
  rw [lookup_modify, if_pos rfl, hl]
  refine ⟨_, rfl, ?_⟩
  by_cases hmem : cidr ∈ l.addrs
  · exact .inl (by simp [hmem])
  · exact .inr (by simp [hmem])

theorem hasAddress_sync_of_ne {k : Kernel} {j name addr : String} (hj : j ≠ name) (h : HasAddress k j addr)
    (wanted : List String) : HasAddress (syncAddresses name wanted k) j addr := by
  obtain ⟨l, hl, hmem⟩ := h
  refine ⟨l, ?_, hmem⟩
  unfold syncAddresses
  rw [lookup_modify, if_neg hj]
  exact hl

end Kernel

end Sbegw.Netd
