import Sbegw.Schema.Subnets
import Sbegw.Netd

/-!
# Addresses that dnsmasq may hand out

The pool and the reservations of a network as `render_dnsmasq` prints them, against its subnet.  The
check of a pool looks at its ends and at the gateway, that of a reservation at the subnet only.
-/

namespace Sbegw.Netd

open Schema EditM Text

/-! ### Rendering -/

/-- The addresses in the `dhcp-range` and the `dhcp-host` lines of a network. -/
structure Leases where
  start : String
  stop : String
  /-- MAC address and address -/
  hosts : List (String × String)

/-- The `dhcp-host` line of a reservation. -/
def hostLine (res : Json) : String × String :=
  (pyStr (res.getD "mac" .null), pyStr (res.getD "address" .null))

/-- The lines that an object `dhcp` asks for. -/
def leasesIn (dhcp : Json) : Leases :=
  ⟨pyStr (dhcp.getD "start" .null), pyStr (dhcp.getD "end" .null),
    ((EditM.pyIter (dhcp.getD "reservations" (.arr []))).toOption.getD []).map hostLine⟩

/-- The addresses of a network with a subnet and DHCP, on a device that serves DHCP. -/
def leasesOf (net : Json) : Option Leases :=
  let dhcp := net.getD "dhcp" (.obj [])
  if (net.getD "subnet" .null).truthy && (dhcp.getD "enabled" .null).truthy then some (leasesIn dhcp)
  else none

/-- The number that the text of an address stands for. -/
def addrOf (text : String) : Option ℕ := (Ip.ipAddress text).map Ip.Addr.toNat

/-- `normalise_mac` -/
def normaliseMac (mac : String) : String := replace '-' ':' (lower (strip mac))

/-! ### The property -/

/-- The last address of `iface.network`. -/
def broadcast (iface : Ip.Iface) : ℕ := iface.networkAddress + iface.size - 1

/-- An address of the subnet that a client may have. -/
structure Usable (iface : Ip.Iface) (a : ℕ) : Prop where
  inside : iface.networkAddress ≤ a ∧ a < iface.networkAddress + iface.size
  gateway : a ≠ iface.addr.toNat
  network : a ≠ iface.networkAddress
  broadcast : a ≠ broadcast iface

/-- Two reservations share neither the address nor the MAC address. -/
def Distinct (g h : String × String) : Prop := addrOf g.2 ≠ addrOf h.2 ∧ normaliseMac g.1 ≠ normaliseMac h.1

/-- What may be handed out on a network is usable, and reserved once. -/
structure Safe (iface : Ip.Iface) (leases : Leases) : Prop where
  pool : ∃ first last, addrOf leases.start = some first ∧ addrOf leases.stop = some last ∧
    ∀ a, first ≤ a → a ≤ last → Usable iface a
  hosts : ∀ host ∈ leases.hosts, ∃ a, addrOf host.2 = some a ∧ Usable iface a
  distinct : leases.hosts.Pairwise Distinct

/-- **DHCP hand-out safety.** -/
def HandsOutSafely (t : Obj) : Prop :=
  ∀ e ∈ sectionOf t "networks", ∀ leases, leasesOf e.2 = some leases →
    ∃ iface, Ip.ipInterface (pyStr (e.2.getD "subnet" .null)) = some iface ∧ Safe iface leases

/-! ### The condition -/

/-- What the checks leave open: the pool begins at the address of the network or ends at its broadcast
address, a reservation is for one of the two or for the gateway, or two reservations are alike. -/
structure Spares (iface : Ip.Iface) (leases : Leases) : Prop where
  start : addrOf leases.start ≠ some iface.networkAddress
  stop : addrOf leases.stop ≠ some (broadcast iface)
  hosts : ∀ host ∈ leases.hosts, addrOf host.2 ≠ some iface.addr.toNat ∧
    addrOf host.2 ≠ some iface.networkAddress ∧ addrOf host.2 ≠ some (broadcast iface)
  distinct : leases.hosts.Pairwise Distinct

def SparesAll (t : Obj) : Prop :=
  ∀ e ∈ sectionOf t "networks", ∀ leases, leasesOf e.2 = some leases →
    ∀ iface, Ip.ipInterface (pyStr (e.2.getD "subnet" .null)) = some iface → Spares iface leases

/-! ### What the checks say -/

theorem ipOf_v4 {x : Json} {path : String} {addr : Ip.Addr} (h : ipOf x path (some 4) = .ok addr) :
    addrOf (pyStr x) = some addr.toNat := by
  obtain ⟨s, rfl⟩ := ipOf_eq_ok h
  unfold ipOf at h
  obtain ⟨r, hr, h⟩ := except_bind_eq_ok.mp h
  obtain rfl : s = r := Json.str.inj (needStr_eq_ok hr)
  split at h
  · exact absurd h (by simp)
  · next a ha =>
    simp only at h
    split at h
    · obtain rfl := Except.ok.inj h
      show (Ip.ipAddress s).map Ip.Addr.toNat = some a.toNat
      rw [ha]
      rfl
    · exact absurd h (by simp)

theorem cidrOf_interface {x : Json} {path : String} {iface : Ip.Iface}
    (h : cidrOf x path (some 4) = .ok iface) : Ip.ipInterface (pyStr x) = some iface := by
  obtain ⟨s, rfl, hparse⟩ := cidrOf_eq_ok h
  exact hparse

/-- An address that is in the network of an interface. -/
def Inside (iface : Ip.Iface) (a : ℕ) : Prop :=
  iface.networkAddress ≤ a ∧ a < iface.networkAddress + iface.size

theorem inside_of_contains {iface : Ip.Iface} {addr : Ip.Addr} (h : iface.contains addr = true) :
    Inside iface addr.toNat := by
  unfold Ip.Iface.contains at h
  simp only [Bool.and_eq_true, decide_eq_true_eq] at h
  exact ⟨h.1.2, h.2⟩

theorem poolEnd_eq_ok {k path : String} {a a' : Obj} {w w' : List String} {addr : Option Ip.Addr}
    (h : poolEnd k path a w = .ok (addr, a', w')) :
    a' = a ∧ ∀ x, addr = some x → addrOf (pyStr ((Dict.lookup k a).getD .null)) = some x.toNat := by
  unfold poolEnd at h
  obtain ⟨x, a₁, w₁, hget, h⟩ := bind_eq_ok.mp h
  obtain ⟨hx, ha⟩ := get_eq_ok hget
  split at h
  · obtain ⟨hok, ha', -⟩ := lift_eq_ok.mp h
    refine ⟨by rw [← ha', ha], fun y hy => ?_⟩
    cases hip : ipOf x path (some 4) with
    | error e => simp [hip, Except.map] at hok
    | ok z =>
      rw [hip] at hok
      obtain rfl : some z = addr := Except.ok.inj hok
      rw [← Option.some.inj hy, ← hx]
      exact ipOf_v4 hip
  · obtain ⟨hnone, ha', -⟩ := pure_eq_ok.mp h
    refine ⟨by rw [← ha', ha], fun y hy => ?_⟩
    rw [← hnone] at hy
    exact absurd hy (by simp)

/-- What a checked pool is: within the network, without the gateway. -/
theorem checkPool_eq_ok {iface : Ip.Iface} {base : String} {start stop : Option Ip.Addr}
    (h : checkPool iface base start stop = .ok ()) :
    ∃ s e, start = some s ∧ stop = some e ∧ Inside iface s.toNat ∧ Inside iface e.toNat ∧
      s.toNat ≤ e.toNat ∧ ¬ (s.toNat ≤ iface.addr.toNat ∧ iface.addr.toNat ≤ e.toNat) := by
  unfold checkPool at h
  split at h
  · next s e =>
    split_ifs at h with hs he hle hgate
    refine ⟨s, e, rfl, rfl, inside_of_contains (by simpa using hs), inside_of_contains (by simpa using he),
      not_lt.mp hle, hgate⟩
  · exact absurd h (by simp)

theorem pyItem_eq_ok {value v : Json} {k : String} (h : pyItem value k = .ok v) :
    value.getD k .null = v := by
  cases value with
  | obj kvs =>
    unfold pyItem at h
    simp only at h
    split at h
    · next x hx =>
      show (Dict.lookup k kvs).getD .null = v
      rw [hx, ← Except.ok.inj h]
      rfl
    · exact absurd h (by simp)
  | _ => exact absurd h (by simp [pyItem])

/-- A checked reservation is in the network; no more is asked of it. -/
theorem checkReservation_eq_ok {iface : Ip.Iface} {rbase : String} {res : Json}
    (h : checkReservation iface rbase res = .ok ()) :
    ∃ a, addrOf (hostLine res).2 = some a ∧ Inside iface a := by
  unfold checkReservation at h
  obtain ⟨mac, -, h⟩ := except_bind_eq_ok.mp h
  obtain ⟨_, -, h⟩ := except_bind_eq_ok.mp h
  obtain ⟨address, haddress, h⟩ := except_bind_eq_ok.mp h
  obtain ⟨addr, haddr, h⟩ := except_bind_eq_ok.mp h
  split at h
  · next hin =>
    refine ⟨addr.toNat, ?_, inside_of_contains hin⟩
    show addrOf (pyStr (res.getD "address" .null)) = some addr.toNat
    rw [pyItem_eq_ok haddress]
    exact ipOf_v4 haddr
  · exact absurd h (by simp)

/-- What validation makes sure of for a network that serves DHCP. -/
structure Leased (iface : Ip.Iface) (leases : Leases) : Prop where
  pool : ∃ first last, addrOf leases.start = some first ∧ addrOf leases.stop = some last ∧
    Inside iface first ∧ Inside iface last ∧ first ≤ last ∧
    ¬ (first ≤ iface.addr.toNat ∧ iface.addr.toNat ≤ last)
  hosts : ∀ host ∈ leases.hosts, ∃ a, addrOf host.2 = some a ∧ Inside iface a

theorem leased_of_validateDhcp {iface : Ip.Iface} {base : String} {a a' : Obj} {w w' : List String}
    {u : Unit} (h : validateDhcp iface base a w = .ok (u, a', w'))
    (hon : ((Json.obj a').getD "enabled" .null).truthy = true) : Leased iface (leasesIn (.obj a')) := by
  unfold validateDhcp at h
  obtain ⟨enabled, a₁, w₁, henabled, h⟩ := bind_eq_ok.mp h
  obtain ⟨hbool, ha₁⟩ := field_eq_ok henabled
  rcases ite_eq_ok h with ⟨htrue, h⟩ | ⟨hfalse, h⟩
  · obtain ⟨start, a₂, w₂, hstart, h⟩ := bind_eq_ok.mp h
    obtain ⟨stop, a₃, w₃, hstop, h⟩ := bind_eq_ok.mp h
    obtain ⟨_, a₄, w₄, hpool, h⟩ := bind_eq_ok.mp h
    obtain ⟨_, a₅, w₅, hlease, h⟩ := bind_eq_ok.mp h
    obtain ⟨ha₂, hs⟩ := poolEnd_eq_ok hstart
    obtain ⟨ha₃, he⟩ := poolEnd_eq_ok hstop
    obtain ⟨hcheck, ha₄, -⟩ := lift_eq_ok.mp hpool
    obtain ⟨-, ha₅⟩ := field_eq_ok hlease
    obtain ⟨hres, ha'⟩ := field_eq_ok h
    rw [ha₂] at he ha₃
    rw [ha₃] at ha₄
    rw [← ha₄] at ha₅
    have hsame : ∀ k, k ≠ "lease_seconds" → k ≠ "reservations" →
        (Json.obj a').getD k .null = (Dict.lookup k a₁).getD .null := by
      intro k hk hk'
      show (Dict.lookup k a').getD .null = (Dict.lookup k a₁).getD .null
      rw [ha', Dict.lookup_setdefault_of_ne hk', ha₅, Dict.lookup_setdefault_of_ne hk]
    have hreservations : (Json.obj a').getD "reservations" (.arr []) =
        (Dict.lookup "reservations" a₅).getD (.arr []) := by
      show (Dict.lookup "reservations" a').getD (.arr []) = _
      rw [ha', Dict.lookup_setdefault_self]
      rfl
    constructor
    · obtain ⟨s, e, rfl, rfl, hin, hin', hle, hgate⟩ := checkPool_eq_ok hcheck
      refine ⟨s.toNat, e.toNat, ?_, ?_, hin, hin', hle, hgate⟩
      · show addrOf (pyStr ((Json.obj a').getD "start" .null)) = some s.toNat
        rw [hsame _ (by decide) (by decide), ha₁]
        rw [ha₁] at hs
        exact hs s rfl
      · show addrOf (pyStr ((Json.obj a').getD "end" .null)) = some e.toNat
        rw [hsame _ (by decide) (by decide)]
        exact he e rfl
    · intro host hhost
      have hmem : host ∈ ((EditM.pyIter ((Json.obj a').getD "reservations" (.arr []))).toOption.getD
        []).map hostLine := hhost
      rw [hreservations] at hmem
      unfold eachChecked at hres
      obtain ⟨xs, hxs, heach⟩ := except_bind_eq_ok.mp hres
      rw [hxs] at hmem
      obtain ⟨res, hin, rfl⟩ := List.mem_map.mp hmem
      obtain ⟨i, hi⟩ := each_eq_ok heach res hin
      simp only at hi
      generalize hc : checkReservation iface _ res = r at hi
      cases r with
      | error e => simp [Except.map] at hi
      | ok r => exact checkReservation_eq_ok hc
  · obtain ⟨-, ha', -⟩ := pure_eq_ok.mp h
    have hval : (Json.obj a').getD "enabled" .null = .bool enabled := by
      show (Dict.lookup "enabled" a').getD .null = .bool enabled
      rw [← ha', ha₁, Dict.lookup_setdefault_self, ← vBool_eq_ok hbool]
      rfl
    rw [hval] at hon
    exact absurd hon hfalse

theorem leased_of_validateNetwork {cfg : Obj} {seen seen' : SeenNetworks} {nid : String} {a a' : Obj}
    {w w' : List String} (h : validateNetwork cfg seen nid a w = .ok (seen', a', w')) {leases : Leases}
    (hl : leasesOf (.obj a') = some leases) :
    ∃ iface, Ip.ipInterface (pyStr ((Json.obj a').getD "subnet" .null)) = some iface ∧
      Leased iface leases := by
  have hsame : Dict.lookup "subnet" a' = Dict.lookup "subnet" a :=
    (checked_validateNetwork cfg seen nid a w seen' a' w' h).1 "subnet" (by decide)
  unfold validateNetwork at h
  obtain ⟨_, a₁, w₁, hid, h⟩ := bind_eq_ok.mp h
  obtain ⟨_, a₂, w₂, h₁, h⟩ := bind_eq_ok.mp h
  obtain ⟨_, a₃, w₃, h₂, h⟩ := bind_eq_ok.mp h
  obtain ⟨_, a₄, w₄, h₃, h⟩ := bind_eq_ok.mp h
  obtain ⟨_, a₅, w₅, hvlan, h⟩ := bind_eq_ok.mp h
  obtain ⟨_, a₆, w₆, hclaim, h⟩ := bind_eq_ok.mp h
  obtain ⟨subnet, a₇, w₇, hget, h⟩ := bind_eq_ok.mp h
  obtain ⟨_, a₈, w₈, hdhcp, h⟩ := bind_eq_ok.mp h
  obtain ⟨_, a₉, w₉, h₄, h⟩ := bind_eq_ok.mp h
  obtain ⟨_, b₁, w₁₀, h₅, h⟩ := bind_eq_ok.mp h
  obtain ⟨_, b₂, w₁₁, h₆, h⟩ := bind_eq_ok.mp h
  obtain ⟨-, hb, -⟩ := pure_eq_ok.mp h
  have hsubnet : subnet = (Json.obj a').getD "subnet" .null := by
    obtain ⟨-, hid, -⟩ := lift_eq_ok.mp hid
    obtain ⟨-, h₁⟩ := field_eq_ok h₁
    obtain ⟨-, h₂⟩ := field_eq_ok h₂
    obtain ⟨-, h₃⟩ := field_eq_ok h₃
    obtain ⟨-, hvlan⟩ := get_eq_ok hvlan
    obtain ⟨-, hclaim, -⟩ := lift_eq_ok.mp hclaim
    show subnet = (Dict.lookup "subnet" a').getD .null
    rw [(get_eq_ok hget).1, ← hclaim, hvlan, h₃, Dict.lookup_setdefault_of_ne (by decide), h₂,
      Dict.lookup_setdefault_of_ne (by decide), h₁, Dict.lookup_setdefault_of_ne (by decide), ← hid, hsame]
  have hlook : Dict.lookup "dhcp" a' = Dict.lookup "dhcp" a₈ := by
    rw [← hb, (field_eq_ok h₆).2, Dict.lookup_setdefault_of_ne (by decide), (field_eq_ok h₅).2,
      Dict.lookup_setdefault_of_ne (by decide), (field_eq_ok h₄).2,
      Dict.lookup_setdefault_of_ne (by decide)]
  unfold leasesOf at hl
  simp only at hl
  split at hl
  · next hserves =>
    rw [Bool.and_eq_true] at hserves
    rcases ite_eq_ok hdhcp with ⟨-, hdhcp⟩ | ⟨hfalsy, -⟩
    · obtain ⟨iface, a₁₀, w₁₂, hcidr, hdhcp⟩ := bind_eq_ok.mp hdhcp
      obtain ⟨_, a₁₁, w₁₃, -, hdhcp⟩ := bind_eq_ok.mp hdhcp
      obtain ⟨_, a₁₂, w₁₄, hwithin, hdhcp⟩ := bind_eq_ok.mp hdhcp
      obtain ⟨-, ha₈, -⟩ := pure_eq_ok.mp hdhcp
      obtain ⟨o, o', -, hcheck, hset⟩ := within_eq_ok.mp hwithin
      have hval : (Json.obj a').getD "dhcp" (.obj []) = .obj o' := by
        show (Dict.lookup "dhcp" a').getD (.obj []) = .obj o'
        rw [hlook, ← ha₈, hset, Dict.lookup_set_self]
        rfl
      rw [hval] at hl hserves
      refine ⟨iface, ?_, ?_⟩
      · rw [← hsubnet]
        exact cidrOf_interface (lift_eq_ok.mp hcidr).1
      · rw [← Option.some.inj hl]
        exact leased_of_validateDhcp hcheck hserves.2
    · rw [hsubnet] at hfalsy
      exact absurd hserves.1 hfalsy
  · exact absurd hl (by simp)

theorem leased_of_validate {caps : Capabilities} {cfg t : Obj} {w : List String}
    (h : validate caps cfg = .ok (t, w)) :
    ∀ e ∈ sectionOf t "networks", ∀ leases, leasesOf e.2 = some leases →
      ∃ iface, Ip.ipInterface (pyStr (e.2.getD "subnet" .null)) = some iface ∧ Leased iface leases := by
  obtain ⟨m, _, networks, _, _, _, hl, hloop⟩ := networks_of_validate h
  have hone : ∀ (s : SeenNetworks) k a w s' a' w', validateNetwork m s k a w = .ok (s', a', w') →
      ∀ leases, leasesOf (.obj a') = some leases →
        ∃ iface, Ip.ipInterface (pyStr ((Json.obj a').getD "subnet" .null)) = some iface ∧
          Leased iface leases := fun s k a w s' a' w' hk leases => leased_of_validateNetwork hk
  have hpost := (eachEntry_post hone _ hloop).2
  intro e he leases hleases
  have hnetworks : sectionOf t "networks" = networks := by
    unfold sectionOf
    rw [hl]
    rfl
  rw [hnetworks] at he
  obtain ⟨o, ho, hall⟩ := hpost e he
  rw [ho] at hleases ⊢
  exact hall leases hleases

/-! ### Safe exactly where spared -/

/-- A pool that keeps off both ends of its network is usable from its first address to its last. -/
theorem usable_pool {iface : Ip.Iface} {first last a : ℕ} (hfirst : Inside iface first)
    (hlast : Inside iface last) (hgate : ¬ (first ≤ iface.addr.toNat ∧ iface.addr.toNat ≤ last))
    (hstart : first ≠ iface.networkAddress) (hstop : last ≠ broadcast iface) (hle : first ≤ a)
    (hle' : a ≤ last) : Usable iface a := by
  have hlow : iface.networkAddress ≤ first := hfirst.1
  have hhigh : last < iface.networkAddress + iface.size := hlast.2
  unfold broadcast at hstop
  refine ⟨⟨by omega, by omega⟩, ?_, by omega, ?_⟩
  · intro hself
    rw [hself] at hle hle'
    exact hgate ⟨hle, hle'⟩
  · show a ≠ iface.networkAddress + iface.size - 1
    omega

theorem safe_iff_spares {iface : Ip.Iface} {leases : Leases} (h : Leased iface leases) :
    Safe iface leases ↔ Spares iface leases := by
  obtain ⟨first, last, hstart, hstop, hfirst, hlast, hle, hgate⟩ := h.pool
  constructor
  · rintro ⟨⟨s, e, hs, he, hall⟩, hhosts, hdistinct⟩
    obtain rfl : first = s := Option.some.inj (hstart.symm.trans hs)
    obtain rfl : last = e := Option.some.inj (hstop.symm.trans he)
    refine ⟨?_, ?_, fun host hhost => ?_, hdistinct⟩
    · rw [hstart]
      exact fun heq => (hall first le_rfl hle).network (Option.some.inj heq)
    · rw [hstop]
      exact fun heq => (hall last hle le_rfl).broadcast (Option.some.inj heq)
    · obtain ⟨a, ha, husable⟩ := hhosts host hhost
      rw [ha]
      exact ⟨fun heq => husable.gateway (Option.some.inj heq),
        fun heq => husable.network (Option.some.inj heq),
        fun heq => husable.broadcast (Option.some.inj heq)⟩
  · rintro ⟨hs, he, hhosts, hdistinct⟩
    rw [hstart] at hs
    rw [hstop] at he
    refine ⟨⟨first, last, hstart, hstop, fun a => ?_⟩, fun host hhost => ?_, hdistinct⟩
    · exact usable_pool hfirst hlast hgate (fun heq => hs (by rw [heq])) (fun heq => he (by rw [heq]))
    · obtain ⟨a, ha, hin⟩ := h.hosts host hhost
      obtain ⟨hgateway, hnetwork, hbroadcast⟩ := hhosts host hhost
      rw [ha] at hgateway hnetwork hbroadcast
      exact ⟨a, ha, hin, fun heq => hgateway (by rw [heq]), fun heq => hnetwork (by rw [heq]),
        fun heq => hbroadcast (by rw [heq])⟩

/-- **DHCP hand-out safety**: of an accepted document it holds exactly when no pool takes an end of its
network and the reservations are for different, usable addresses and different clients. -/
theorem handsOutSafely_iff (caps : Capabilities) (cfg t : Obj) (w : List String)
    (h : validate caps cfg = .ok (t, w)) : HandsOutSafely t ↔ SparesAll t := by
  constructor
  · intro hsafe e he leases hleases iface hiface
    obtain ⟨iface', hiface', hs⟩ := hsafe e he leases hleases
    obtain ⟨i, hi, hleased⟩ := leased_of_validate h e he leases hleases
    obtain rfl : iface = iface' := Option.some.inj (hiface.symm.trans hiface')
    obtain rfl : iface = i := Option.some.inj (hiface.symm.trans hi)
    exact (safe_iff_spares hleased).mp hs
  · intro hspares e he leases hleases
    obtain ⟨iface, hiface, hleased⟩ := leased_of_validate h e he leases hleases
    exact ⟨iface, hiface, (safe_iff_spares hleased).mpr (hspares e he leases hleases iface hiface)⟩

/-! ### One reservation that is safe, and one that is not -/

/-- A network `192.168.2.1/24` that hands out `192.168.2.2` to `192.168.2.254`, with one address reserved. -/
def reserving (address : String) : Obj :=
  [("name", .str "Home"), ("purpose", .str "corporate"), ("zone", .str "lan"), ("vlan", .null),
    ("subnet", .str "192.168.2.1/24"),
    ("dhcp", .obj [("enabled", .bool true), ("start", .str "192.168.2.2"), ("end", .str "192.168.2.254"),
      ("lease_seconds", .int 86400),
      ("reservations", .arr [.obj [("mac", .str "02:00:00:00:00:01"), ("address", .str address)]])]),
    ("isolation", .bool false), ("internet_access", .bool true), ("wan", .str "auto")]

def withReservation (address : String) : Obj :=
  Dict.set "networks" (.obj [("default", .obj (reserving address))]) defaultEntries

theorem handsOutSafely_reserved : HandsOutSafely (withReservation "192.168.2.10") := by
  have hvalid : validate Capabilities.empty (withReservation "192.168.2.10") =
      .ok (withReservation "192.168.2.10", []) := by decide +kernel
  refine (handsOutSafely_iff _ _ _ _ hvalid).mpr ?_
  intro e he leases hleases iface hiface
  obtain rfl : e = ("default", .obj (reserving "192.168.2.10")) := List.mem_singleton.mp he
  obtain rfl := Option.some.inj (show leasesOf (.obj (reserving "192.168.2.10")) = some leases from hleases)
  have hcidr : Ip.ipInterface "192.168.2.1/24" = some ⟨.v4 [192, 168, 2, 1], 24⟩ := by decide +kernel
  obtain rfl := Option.some.inj (hcidr.symm.trans hiface)
  have hstart : addrOf "192.168.2.2" = some 3232236034 := by decide +kernel
  have hstop : addrOf "192.168.2.254" = some 3232236286 := by decide +kernel
  have hhost : addrOf "192.168.2.10" = some 3232236042 := by decide +kernel
  refine ⟨?_, ?_, fun host hmem => ?_, List.pairwise_singleton _ _⟩
  · show addrOf "192.168.2.2" ≠ _
    rw [hstart]
    decide
  · show addrOf "192.168.2.254" ≠ _
    rw [hstop]
    decide
  · obtain rfl : host = ("02:00:00:00:00:01", "192.168.2.10") := List.mem_singleton.mp hmem
    rw [hhost]
    decide

/-- The gateway itself may be reserved for a client. -/
theorem reserved_gateway :
    validate Capabilities.empty (withReservation "192.168.2.1") = .ok (withReservation "192.168.2.1", []) ∧
      ¬ HandsOutSafely (withReservation "192.168.2.1") := by
  refine ⟨by decide +kernel, fun hsafe => ?_⟩
  obtain ⟨iface, hiface, hs⟩ := hsafe ("default", .obj (reserving "192.168.2.1"))
    (List.mem_singleton.mpr rfl) _ rfl
  have hcidr : Ip.ipInterface "192.168.2.1/24" = some ⟨.v4 [192, 168, 2, 1], 24⟩ := by decide +kernel
  obtain rfl := Option.some.inj (hcidr.symm.trans hiface)
  obtain ⟨a, ha, husable⟩ := hs.hosts ("02:00:00:00:00:01", "192.168.2.1") (List.mem_singleton.mpr rfl)
  have hhost : addrOf "192.168.2.1" = some 3232236033 := by decide +kernel
  obtain rfl := Option.some.inj (hhost.symm.trans ha)
  exact husable.gateway (by decide)

end Sbegw.Netd
