import Sbegw.Schema.Vlans
import Sbegw.Schema.Wireless

/-!
# Subnets of accepted documents

A subnet that counts is the text of an interface, and no two networks have the same one.
-/

namespace Sbegw.Schema

open EditM Text

/-! ### One subnet -/

/-- The subnet that a network names. -/
def namedSubnet (net : Json) : Option Ip.Iface :=
  match net.getD "subnet" .null with
  | .str s => if s = "" then none else Ip.ipInterface s
  | _ => none

theorem overlaps_self (i : Ip.Iface) : i.overlaps i = true := by
  have hsize : 0 < i.size := Nat.two_pow_pos _
  simp [Ip.Iface.overlaps, hsize]

theorem cidrOf_eq_ok {x : Json} {path : String} {version : Option ℕ} {iface : Ip.Iface}
    (h : cidrOf x path version = .ok iface) : ∃ s, x = .str s ∧ Ip.ipInterface s = some iface := by
  unfold cidrOf at h
  obtain ⟨s, hs, h⟩ := except_bind_eq_ok.mp h
  cases hparse : Ip.ipInterface s with
  | none =>
    rw [hparse] at h
    cases h
  | some i =>
    rw [hparse] at h
    refine ⟨s, needStr_eq_ok hs, hparse.trans (congrArg some ?_)⟩
    simp only at h
    split at h
    · cases h
    · split at h
      · cases h
      · exact Except.ok.inj h

/-- A network that names a subnet has found no other that overlaps it, and leaves it used. -/
theorem claimSubnet_eq_ok {seen seen' : SeenNetworks} {nid base : String} {iface : Ip.Iface}
    (h : claimSubnet seen nid base iface = .ok seen') : iface ∉ seen.subnets.map Prod.fst ∧
      seen'.subnets.map Prod.fst = seen.subnets.map Prod.fst ++ [iface] := by
  unfold claimSubnet at h
  split at h
  · cases h
  · next hnone =>
    obtain rfl := Except.ok.inj h
    rw [List.find?_eq_none] at hnone
    refine ⟨fun hmem => ?_, by simp⟩
    obtain ⟨e, he, rfl⟩ := List.mem_map.mp hmem
    exact hnone e he (overlaps_self e.1)

theorem subnets_of_claimVlan {seen seen' : SeenNetworks} {nid base : String} {vlan : Option ℤ}
    (h : claimVlan seen nid base vlan = .ok seen') : seen'.subnets = seen.subnets := by
  unfold claimVlan at h
  cases vlan with
  | none => rw [Except.ok.inj h]
  | some v =>
    simp only at h
    split at h
    · cases h
    · rw [← Except.ok.inj h]

/-- What the check of a network finds in `subnet`. -/
structure SubnetFacts (seen seen' : SeenNetworks) (net : Json) : Prop where
  text : (net.getD "subnet" .null).truthy = true → ∃ s, net.getD "subnet" .null = .str s ∧
    (Ip.ipInterface s).isSome = true
  fresh : ∀ i, namedSubnet net = some i → i ∉ seen.subnets.map Prod.fst
  seen : seen'.subnets.map Prod.fst = seen.subnets.map Prod.fst ++ (namedSubnet net).toList

theorem subnet_of_validateNetwork {cfg : Obj} {seen seen' : SeenNetworks} {nid : String} {a a' : Obj}
    {w w' : List String} (h : validateNetwork cfg seen nid a w = .ok (seen', a', w')) :
    SubnetFacts seen seen' (.obj a') := by
  have hsame : Dict.lookup "subnet" a' = Dict.lookup "subnet" a :=
    (checked_validateNetwork cfg seen nid a w seen' a' w' h).1 "subnet" (by decide)
  unfold validateNetwork at h
  obtain ⟨_, a₁, w₁, hid, h⟩ := bind_eq_ok.mp h
  obtain ⟨_, a₂, w₂, h₁, h⟩ := bind_eq_ok.mp h
  obtain ⟨_, a₃, w₃, h₂, h⟩ := bind_eq_ok.mp h
  obtain ⟨_, a₄, w₄, h₃, h⟩ := bind_eq_ok.mp h
  obtain ⟨_, a₅, w₅, hvlan, h⟩ := bind_eq_ok.mp h
  obtain ⟨seen₁, a₆, w₆, hclaim, h⟩ := bind_eq_ok.mp h
  obtain ⟨subnet, a₇, w₇, hget, h⟩ := bind_eq_ok.mp h
  obtain ⟨seen₂, a₈, w₈, hsubnet, h⟩ := bind_eq_ok.mp h
  have hvalue : (Json.obj a').getD "subnet" .null = subnet := by
    show (Dict.lookup "subnet" a').getD .null = subnet
    rw [(get_eq_ok hget).1, ← (lift_eq_ok.mp hclaim).2.1, (get_eq_ok hvlan).2, (field_eq_ok h₃).2,
      Dict.lookup_setdefault_of_ne (by decide), (field_eq_ok h₂).2, Dict.lookup_setdefault_of_ne (by decide),
      (field_eq_ok h₁).2, Dict.lookup_setdefault_of_ne (by decide), ← (lift_eq_ok.mp hid).2.1, hsame]
  obtain ⟨v, -, hv⟩ := except_bind_eq_ok.mp (lift_eq_ok.mp hclaim).1
  have hseen₁ : seen₁.subnets = seen.subnets := subnets_of_claimVlan hv
  -- the checks after the subnet claim nothing
  have hseen₂ : seen' = seen₂ := by
    obtain ⟨_, a₉, w₉, -, h⟩ := bind_eq_ok.mp h
    obtain ⟨_, a₁₀, w₁₀, -, h⟩ := bind_eq_ok.mp h
    obtain ⟨_, a₁₁, w₁₁, -, h⟩ := bind_eq_ok.mp h
    exact (pure_eq_ok.mp h).1.symm
  subst hseen₂
  rcases ite_eq_ok hsubnet with ⟨htruthy, hcidr⟩ | ⟨hfalsy, hpure⟩
  · obtain ⟨iface, _, _, hlift, hcidr⟩ := bind_eq_ok.mp hcidr
    obtain ⟨seen₃, _, _, hclaimed, hcidr⟩ := bind_eq_ok.mp hcidr
    obtain ⟨_, _, _, -, hcidr⟩ := bind_eq_ok.mp hcidr
    obtain ⟨rfl, -, -⟩ := pure_eq_ok.mp hcidr
    obtain ⟨s, rfl, hparse⟩ := cidrOf_eq_ok (lift_eq_ok.mp hlift).1
    obtain ⟨hfresh, hseen⟩ := claimSubnet_eq_ok (lift_eq_ok.mp hclaimed).1
    have hempty : s ≠ "" := by
      rintro rfl
      exact absurd htruthy (by decide)
    have hnamed : namedSubnet (.obj a') = some iface := by
      unfold namedSubnet
      rw [hvalue]
      exact (if_neg hempty).trans hparse
    rw [hseen₁] at hfresh hseen
    refine ⟨fun _ => ⟨s, hvalue, by rw [hparse]; rfl⟩, fun i hi => ?_, by rw [hseen, hnamed]; rfl⟩
    obtain rfl := Option.some.inj (hnamed.symm.trans hi)
    exact hfresh
  · obtain ⟨rfl, -, -⟩ := pure_eq_ok.mp hpure
    have hnamed : namedSubnet (.obj a') = none := by
      unfold namedSubnet
      rw [hvalue]
      cases subnet with
      | str s =>
        have hs : s = "" := by simpa [Json.truthy] using hfalsy
        exact if_pos hs
      | _ => rfl
    refine ⟨fun ht => absurd (hvalue ▸ ht) hfalsy, fun i hi => ?_, by rw [hseen₁, hnamed]; simp⟩
    rw [hnamed] at hi
    cases hi

/-! ### All subnets -/

/-- **No two networks of an accepted document have the same subnet.** -/
theorem subnets_of_validate {caps : Capabilities} {cfg t : Obj} {w : List String}
    (h : validate caps cfg = .ok (t, w)) : ∃ networks, Dict.lookup "networks" t = some (.obj networks) ∧
      (∀ e ∈ networks, (e.2.getD "subnet" .null).truthy = true → ∃ s, e.2.getD "subnet" .null = .str s ∧
        (Ip.ipInterface s).isSome = true) ∧
      networks.Pairwise fun a b => ∀ i, namedSubnet a.2 = some i → namedSubnet b.2 ≠ some i := by
  obtain ⟨m, _, networks, _, _, _, hl, hloop⟩ := networks_of_validate h
  refine ⟨networks, hl, fun e he ht => ?_, ?_⟩
  · have hone : ∀ (s : SeenNetworks) k a w s' a' w', validateNetwork m s k a w = .ok (s', a', w') →
        ((Json.obj a').getD "subnet" .null).truthy = true → ∃ s, (Json.obj a').getD "subnet" .null = .str s ∧
          (Ip.ipInterface s).isSome = true := fun s k a w s' a' w' hk =>
      (subnet_of_validateNetwork hk).text
    obtain ⟨o, ho, hall⟩ := (eachEntry_post hone _ hloop).2 e he
    rw [ho] at ht ⊢
    exact hall ht
  · exact (named_of_eachEntry (fun hk => ⟨(subnet_of_validateNetwork hk).fresh, (subnet_of_validateNetwork hk).seen⟩)
      hloop).2

end Sbegw.Schema
