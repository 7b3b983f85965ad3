import Sbegw.Schema.WanPorts

/-!
# Sections that settle at once

A section that has been accepted is accepted again, and nothing in it changes, whatever is checked between.
Where a check looks at another section, it looks at its keys.
-/

namespace Sbegw.Schema

open EditM

/-! ### Fields of a second run -/

theorem field_of_lookup {β : Type} {k : String} {v x : Json} {check : Json → Except Exn β} {z : Obj} {b : β}
    (h : Dict.lookup k z = some x) (hcheck : check x = .ok b) (u : List String) :
    field k v check z u = .ok (b, z, u) := by
  refine bind_eq_ok.mpr ⟨x, z, u, setdefault_eq_ok.mpr ⟨?_, (Dict.setdefault_eq_self h).symm, rfl⟩, ?_⟩
  · rw [h]
    rfl
  · exact lift_eq_ok.mpr ⟨hcheck, rfl, rfl⟩

theorem field_settled {β : Type} {k : String} {v : Json} {check : Json → Except Exn β} {a a' z : Obj}
    {w w' : List String} {b : β} (h : field k v check a w = .ok (b, a', w')) (hz : Dict.lookup k z = Dict.lookup k a') (u : List String) :
    field k v check z u = .ok (b, z, u) := by
  obtain ⟨hcheck, rfl⟩ := field_eq_ok h
  rw [Dict.lookup_setdefault_self] at hz
  exact field_of_lookup hz hcheck u

theorem get_of_lookup {k : String} {x : Json} {z : Obj} (h : Dict.lookup k z = some x) (u : List String) :
    get k z u = .ok (x, z, u) := by
  simp only [EditM.get, h, Option.getD_some]

theorem put_of_lookup {k : String} {x : Json} {z : Obj} (h : Dict.lookup k z = some x) (u : List String) :
    put k x z u = .ok ((), z, u) := by
  simp only [put, Dict.set_eq_self h]

theorem within_of_lookup {β : Type} {k : String} {d : Obj} {bad : Json → Exn} {p : EditM β} {z o : Obj} {b : β}
    {u u' : List String} (h : Dict.lookup k z = some (.obj o)) (hp : p o u = .ok (b, o, u')) :
    within k d bad p z u = .ok (b, z, u') := by
  refine within_eq_ok.mpr ⟨o, o, ?_, hp, (Dict.set_eq_self h).symm⟩
  rw [h]
  rfl

theorem raiseIf_of_false {c : Bool} (h : c = false) (e : Exn) (z : Obj) (u : List String) :
    raiseIf c e z u = .ok ((), z, u) := by
  rw [h]
  rfl

theorem ite_of_run {β : Type} {c : Prop} [hc : Decidable c] {m n : EditM β} {z : Obj} {u : List String}
    {r : β × Obj × List String} (hm : c → m z u = .ok r) (hn : ¬ c → n z u = .ok r) :
    (if c then m else n) z u = .ok r := by
  cases hc with
  | isTrue h => exact hm h
  | isFalse h => exact hn h

/-! ### What a check reads of other sections -/

/-- The same keys. -/
def SameKeys (o o' : Obj) : Prop := ∀ k, (Dict.lookup k o).isSome = (Dict.lookup k o').isSome

theorem sameKeys_of_keys {o o' : Obj} (h : Dict.keys o' = Dict.keys o) : SameKeys o o' := by
  intro k
  have hiff : Dict.lookup k o = none ↔ Dict.lookup k o' = none := by
    rw [Dict.lookup_eq_none_iff, Dict.lookup_eq_none_iff, h]
  cases hk : Dict.lookup k o with
  | none => rw [hiff.mp hk]
  | some v =>
    cases hk' : Dict.lookup k o' with
    | none =>
      rw [hiff.mpr hk'] at hk
      cases hk
    | some v' => rfl

theorem pyIn_congr {o o' : Obj} (h : SameKeys o o') (x : Json) : pyIn x (.obj o) = pyIn x (.obj o') := by
  cases x with
  | str s =>
    show Except.ok (Dict.lookup s o).isSome = Except.ok (Dict.lookup s o').isSome
    rw [h s]
  | _ => rfl

/-- The section of the document, which is an object or missing. -/
def HasSection (cfg : Obj) (name : String) (o : Obj) : Prop := (Dict.lookup name cfg).getD (.obj []) = .obj o

theorem knownNetwork_congr {cfg cfg' o o' : Obj} (h : HasSection cfg "networks" o) (h' : HasSection cfg' "networks" o')
    (hkeys : SameKeys o o') (network : Json) (path : String) :
    knownNetwork cfg network path = knownNetwork cfg' network path := by
  unfold knownNetwork
  rw [h, h', pyIn_congr hkeys]

theorem knownWan_congr {cfg cfg' o o' : Obj} (h : HasSection cfg "wans" o) (h' : HasSection cfg' "wans" o')
    (hkeys : SameKeys o o') (wan : Json) (path : String) : knownWan cfg wan path = knownWan cfg' wan path := by
  unfold knownWan
  rw [h, h', pyIn_congr hkeys]

/-! ### System -/

theorem validateSystem_again : Again Always Eq validateSystem validateSystem := by
  refine Settles.again (W := ["mode", "hostname", "ntp", "fan", "leds"]) ?_
  unfold validateSystem
  refine Settles.field (by decide) fun mode => ?_
  refine Settles.quiet (settles_when fun _ => settles_warn _ _) fun _ => ?_
  refine Settles.key (settles_setdefault (by decide)) fun hostname => ?_
  refine Settles.quiet settles_raiseIf fun _ => ?_
  refine Settles.key (settles_within ["enabled", "servers"] (by decide) ?_) fun _ => ?_
  · refine Settles.field (by decide) fun _ => ?_
    exact settles_field (by decide)
  refine Settles.key (settles_within ["mode", "manual_percent"] (by decide) ?_) fun _ => ?_
  · refine Settles.field (by decide) fun mode => ?_
    refine Settles.field (by decide) fun percent => ?_
    exact settles_when fun _ => settles_warn _ _
  refine settles_within ["mode", "brightness"] (by decide) ?_
  refine Settles.field (by decide) fun _ => ?_
  exact Settles.field (by decide) fun _ => Settles.done rfl

/-! ### Ports and networks -/

theorem validatePort_again (cfg : Obj) (pid : String) :
    Again Always Eq (validatePort cfg () pid) (validatePort cfg () pid) := by
  refine Settles.again (W := ["role", "enabled", "mtu", "tagged_vlans"]) ?_
  unfold validatePort
  refine Settles.field (by decide) fun role => ?_
  refine Settles.field (by decide) fun _ => ?_
  refine Settles.field (by decide) fun _ => ?_
  refine Settles.quiet (settles_ifSet (by decide)) fun _ => ?_
  refine Settles.get (by decide) fun network => ?_
  refine Settles.quiet (settles_when fun _ => settles_lift) fun _ => ?_
  exact settles_field (by decide)

theorem validatePort_congr {cfg cfg' o o' : Obj} (h : HasSection cfg "networks" o)
    (h' : HasSection cfg' "networks" o') (hkeys : SameKeys o o') (pid : String) :
    validatePort cfg () pid = validatePort cfg' () pid := by
  unfold validatePort
  simp only [knownNetwork_congr h h' hkeys]

theorem validatePorts_again {cfg cfg' o o' : Obj} (h : HasSection cfg "networks" o)
    (h' : HasSection cfg' "networks" o') (hkeys : SameKeys o o') :
    Again Always Eq (validatePorts cfg) (validatePorts cfg') := by
  intro a w b a' w' hrun _ u
  refine again_entriesOf (fun _ pid => ?_) a w b a' w' hrun (fun _ _ _ => trivial) u
  rw [← validatePort_congr h h' hkeys pid]
  exact validatePort_again cfg pid

theorem validateDhcp_again (iface : Ip.Iface) (base : String) :
    Again Always Eq (validateDhcp iface base) (validateDhcp iface base) := by
  refine Settles.again (W := ["enabled", "lease_seconds", "reservations"]) ?_
  unfold validateDhcp
  have hpool : ∀ (k path : String), k ∉ ["lease_seconds", "reservations"] →
      Settles Always ["lease_seconds", "reservations"] [] Eq (poolEnd k path) (poolEnd k path) := by
    intro k path hk
    unfold poolEnd
    refine Settles.get hk fun x => ?_
    split
    · exact settles_lift
    · exact Settles.done rfl
  refine Settles.field (by decide) fun enabled => ?_
  refine settles_when fun _ => ?_
  refine Settles.quiet (hpool "start" _ (by decide)) fun start => ?_
  refine Settles.quiet (hpool "end" _ (by decide)) fun stop => ?_
  refine Settles.check fun _ => ?_
  refine Settles.field (by decide) fun _ => ?_
  exact settles_field (by decide)

theorem validateNetwork_again (cfg : Obj) (seen : SeenNetworks) (nid : String) :
    Again Always Eq (validateNetwork cfg seen nid) (validateNetwork cfg seen nid) := by
  refine Settles.again (W := ["name", "purpose", "zone", "dhcp", "isolation", "internet_access", "wan"]) ?_
  unfold validateNetwork
  refine Settles.check fun _ => ?_
  refine Settles.field (by decide) fun _ => ?_
  refine Settles.field (by decide) fun _ => ?_
  refine Settles.field (by decide) fun _ => ?_
  refine Settles.get (by decide) fun vlan => ?_
  refine Settles.check fun seen => ?_
  refine Settles.get (by decide) fun subnet => ?_
  refine Settles.key ?_ fun seen => ?_
  · split
    · refine Settles.check fun iface => ?_
      refine Settles.check fun seen => ?_
      refine Settles.key ?_ fun _ => Settles.done rfl
      exact settles_within_again (by decide) (validateDhcp_again iface _) fun _ _ _ _ => trivial
    · exact (Settles.done rfl).mono fun _ h => absurd h List.not_mem_nil
  refine Settles.field (by decide) fun _ => ?_
  refine Settles.field (by decide) fun _ => ?_
  exact Settles.field (by decide) fun _ => Settles.done rfl

theorem validateNetwork_congr {cfg cfg' o o' : Obj} (h : HasSection cfg "wans" o) (h' : HasSection cfg' "wans" o')
    (hkeys : SameKeys o o') (seen : SeenNetworks) (nid : String) :
    validateNetwork cfg seen nid = validateNetwork cfg' seen nid := by
  unfold validateNetwork
  simp only [knownWan_congr h h' hkeys]

theorem validateNetworks_again {cfg cfg' o o' : Obj} (h : HasSection cfg "wans" o) (h' : HasSection cfg' "wans" o')
    (hkeys : SameKeys o o') : Again Always Eq (validateNetworks cfg) (validateNetworks cfg') := by
  intro a w b a' w' hrun _ u
  unfold validateNetworks at hrun
  obtain ⟨networks, a₁, w₁, hself, hchecks⟩ := bind_eq_ok.mp hrun
  obtain ⟨_, a₂, w₂, hraise, hrest⟩ := bind_eq_ok.mp hchecks
  obtain ⟨s, a₃, w₃, hloop, hdone⟩ := bind_eq_ok.mp hrest
  simp only [self, Except.ok.injEq, Prod.mk.injEq] at hself
  obtain ⟨rfl, rfl, rfl⟩ := hself
  obtain ⟨-, rfl, -⟩ := pure_eq_ok.mp hdone
  obtain ⟨hnonempty, hsame⟩ := raiseIf_eq_ok hraise
  rw [hsame] at hloop
  have hkeep : Dict.keys a₃ = Dict.keys a :=
    (eachEntry_post (P := fun _ _ => True) (fun _ _ _ _ _ _ _ _ => trivial) a hloop).1
  have hstill : a₃.isEmpty = false := by
    cases a₃ with
    | cons e rest => rfl
    | nil =>
      cases a with
      | nil => cases hnonempty
      | cons e rest => cases hkeep
  have hone : ∀ (s : SeenNetworks) (nid : String), Again Always Eq (validateNetwork cfg s nid)
      (validateNetwork cfg' s nid) := by
    intro s nid
    rw [← validateNetwork_congr h h' hkeys]
    exact validateNetwork_again cfg s nid
  obtain ⟨u', hagain⟩ := again_eachEntry (badEntry "networks") hone a hloop (fun _ _ _ => trivial) u
  refine ⟨(), u', ?_, rfl⟩
  unfold validateNetworks
  refine bind_eq_ok.mpr ⟨a₃, a₃, u, rfl, bind_eq_ok.mpr ⟨(), a₃, u, ?_, bind_eq_ok.mpr ⟨s, a₃, u', hagain, rfl⟩⟩⟩
  exact raiseIf_of_false hstill _ _ _

/-! ### Firewall, NAT, routing -/

theorem validateRule_again (schedules : Json) (seen : List String) (i : ℕ) :
    Again Always Eq (validateRule schedules seen i) (validateRule schedules seen i) := by
  refine Settles.again (W := ["id", "name", "action", "enabled", "log", "index", "family", "src_zone", "dst_zone",
    "protocol"]) ?_
  unfold validateRule
  refine Settles.field (by decide) fun rid => ?_
  refine Settles.quiet settles_raiseIf fun _ => ?_
  refine Settles.field (by decide) fun _ => ?_
  refine Settles.field (by decide) fun _ => ?_
  refine Settles.field (by decide) fun _ => ?_
  refine Settles.field (by decide) fun _ => ?_
  refine Settles.field (by decide) fun _ => ?_
  refine Settles.field (by decide) fun _ => ?_
  refine Settles.field (by decide) fun _ => ?_
  refine Settles.field (by decide) fun _ => ?_
  refine Settles.field (by decide) fun proto => ?_
  refine Settles.quiet (settles_ifSet (by decide)) fun _ => ?_
  refine Settles.quiet (settles_ifSet (by decide)) fun _ => ?_
  refine Settles.quiet (settles_ifSet (by decide)) fun _ => ?_
  refine Settles.quiet (settles_ifSet (by decide)) fun _ => ?_
  refine Settles.quiet (settles_ifSet (by decide)) fun _ => ?_
  exact Settles.done rfl

theorem validateFirewall_again : Again Always Eq validateFirewall validateFirewall := by
  refine Settles.again (W := ["hardware_offload", "tunnel_interfaces", "default_policies", "rules"]) ?_
  unfold validateFirewall
  refine Settles.field (by decide) fun _ => ?_
  refine Settles.field (by decide) fun _ => ?_
  refine Settles.field (by decide) fun _ => ?_
  refine Settles.self (k := "schedules") (by decide) fun fw fw' hsched => ?_
  rw [hsched]
  exact Settles.list (fills_setdefault _ _) (by decide) (fun seen i => validateRule_again _ seen i)
    (fun _ _ _ _ _ _ => trivial) fun _ => Settles.done rfl

theorem validateForward_again (cfg : Obj) (seen : List (String × String × Json)) (i : ℕ) :
    Again Always Eq (validateForward cfg seen i) (validateForward cfg seen i) := by
  refine Settles.again (W := ["id", "name", "enabled", "protocol", "internal_port", "wan"]) ?_
  unfold validateForward
  refine Settles.field (by decide) fun fid => ?_
  refine Settles.field (by decide) fun _ => ?_
  refine Settles.field (by decide) fun _ => ?_
  refine Settles.field (by decide) fun proto => ?_
  refine Settles.quiet (settles_item (by decide)) fun external => ?_
  refine Settles.check fun ext => ?_
  refine Settles.quiet (settles_item (by decide)) fun address => ?_
  refine Settles.check fun _ => ?_
  refine Settles.field (by decide) fun internal => ?_
  refine Settles.check fun _ => ?_
  refine Settles.key (settles_setdefault (by decide)) fun wan => ?_
  refine Settles.check fun _ => ?_
  exact Settles.quiet settles_raiseIf fun _ => Settles.done rfl

theorem validateForward_congr {cfg cfg' o o' : Obj} (h : HasSection cfg "wans" o) (h' : HasSection cfg' "wans" o')
    (hkeys : SameKeys o o') (seen : List (String × String × Json)) (i : ℕ) :
    validateForward cfg seen i = validateForward cfg' seen i := by
  unfold HasSection at h h'
  unfold validateForward
  simp only [h, h', pyIn_congr hkeys]

theorem validateNat_again {cfg cfg' o o' : Obj} (h : HasSection cfg "wans" o) (h' : HasSection cfg' "wans" o')
    (hkeys : SameKeys o o') : Again Always Eq (validateNat cfg) (validateNat cfg') := by
  refine Settles.again (W := ["masquerade", "hairpin", "port_forwards"]) ?_
  unfold validateNat
  refine Settles.field (by decide) fun _ => ?_
  refine Settles.field (by decide) fun _ => ?_
  refine Settles.list (N := Always) (fills_setdefault _ _) (by decide) (fun seen i => ?_)
    (fun _ _ _ _ _ _ => trivial) fun _ => Settles.done rfl
  rw [← validateForward_congr h h' hkeys]
  exact validateForward_again cfg seen i

theorem validateRoute_again (i : ℕ) : Again Always Eq (validateRoute () i) (validateRoute () i) := by
  refine Settles.again (W := ["type", "metric"]) ?_
  unfold validateRoute
  refine Settles.get (by decide) fun dest => ?_
  refine Settles.check fun version => ?_
  refine Settles.field (by decide) fun kind => ?_
  refine Settles.get (by decide) fun via => ?_
  refine Settles.get (by decide) fun interface => ?_
  refine Settles.quiet (settles_when fun _ => settles_lift) fun _ => ?_
  refine Settles.quiet settles_raiseIf fun _ => ?_
  exact Settles.field (by decide) fun _ => Settles.done rfl

theorem validateRouting_again : Again Always Eq validateRouting validateRouting := by
  refine Settles.again (W := ["static"]) ?_
  unfold validateRouting
  exact settles_list (fills_setdefault _ _) (by decide) (fun _ i => validateRoute_again i)
    fun _ _ _ _ _ _ => trivial

/-! ### Smart queues, inspection, users -/

theorem validateLimit_again (networks seen : List String) (i : ℕ) :
    Again Always Eq (validateLimit networks seen i) (validateLimit networks seen i) := by
  refine Settles.again (W := ["download_kbps", "upload_kbps"]) ?_
  unfold validateLimit
  refine Settles.get (by decide) fun mac => ?_
  refine Settles.get (by decide) fun network => ?_
  refine Settles.check fun key => ?_
  refine Settles.quiet settles_raiseIf fun _ => ?_
  refine Settles.field (by decide) fun _ => ?_
  exact Settles.field (by decide) fun _ => Settles.done rfl

theorem validateQos_again {cfg cfg' : Obj} (h : Dict.lookup "networks" cfg = Dict.lookup "networks" cfg') :
    Again Always Eq (validateQos cfg) (validateQos cfg') := by
  refine Settles.again (W := ["enabled", "engine", "download_kbps", "upload_kbps", "per_client_limits"]) ?_
  unfold validateQos
  refine Settles.field (by decide) fun enabled => ?_
  refine Settles.field (by decide) fun _ => ?_
  refine Settles.field (by decide) fun down => ?_
  refine Settles.field (by decide) fun up => ?_
  refine Settles.quiet settles_raiseIf fun _ => ?_
  rw [h]
  exact Settles.list (fills_field _ _ _ _) (by decide) (fun seen i => validateLimit_again _ seen i)
    (fun _ _ _ _ _ _ => trivial) fun _ => Settles.done rfl

theorem validateDpi_again (cfg cfg' : Obj) : Again Always Eq (validateDpi cfg) (validateDpi cfg') := by
  refine Settles.again (W := ["enabled", "engine", "retention_hours", "include_ipv6"]) ?_
  unfold validateDpi
  refine Settles.field (by decide) fun enabled => ?_
  refine Settles.field (by decide) fun _ => ?_
  refine Settles.field (by decide) fun _ => ?_
  refine Settles.field (by decide) fun _ => ?_
  exact settles_passes (Quiet.when (Quiet.warn _)) (passes_when fun _ u => ⟨u ++ [_], rfl⟩)

theorem validateUsers_again : Again Always Eq validateUsers validateUsers := by
  intro a w b a' w' h _ u
  refine again_entriesOf (P := Always) (fun _ username => ?_) a w b a' w' h (fun _ _ _ => trivial) u
  refine Settles.again (W := ["role"]) ?_
  unfold validateUser
  refine Settles.field (by decide) fun _ => ?_
  refine Settles.get (by decide) fun hash => ?_
  exact settles_raiseIf

end Sbegw.Schema
