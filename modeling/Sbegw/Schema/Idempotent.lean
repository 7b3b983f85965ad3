import Sbegw.Schema.AgainMlds
import Sbegw.Schema.Names

/-!
# Validation settles at once

What `validate` has accepted and rewritten, it accepts again and leaves as it is, unless a DNS name has kept a
line break at its end: the pattern of `_domain` lets it through, and the next run strips it.
-/

namespace Sbegw.Schema

open EditM

/-! ### The keys of a checked section -/

theorem keys_of_validateNetworks {cfg a a' : Obj} {w w' : List String} {x : Unit}
    (h : validateNetworks cfg a w = .ok (x, a', w')) : Dict.keys a' = Dict.keys a := by
  unfold validateNetworks at h
  obtain ⟨networks, a₁, w₁, hself, h⟩ := bind_eq_ok.mp h
  obtain ⟨_, a₂, w₂, hraise, h⟩ := bind_eq_ok.mp h
  obtain ⟨s, a₃, w₃, hloop, h⟩ := bind_eq_ok.mp h
  obtain ⟨-, h₃, -⟩ := pure_eq_ok.mp h
  have h₁ : a₁ = a := Quiet.self _ _ _ _ _ hself
  have h₂ := (raiseIf_eq_ok hraise).2
  rw [← h₃, (eachEntry_post (P := fun _ _ => True) (fun _ _ _ _ _ _ _ _ => trivial) a₂ hloop).1, h₂, h₁]

theorem keys_of_validatePorts {cfg a a' : Obj} {w w' : List String} {x : Unit}
    (h : validatePorts cfg a w = .ok (x, a', w')) : Dict.keys a' = Dict.keys a :=
  (eachEntry_post (P := fun _ _ => True) (fun _ _ _ _ _ _ _ _ => trivial) a h).1

theorem keys_of_validateWans {cfg a a' : Obj} {w w' : List String} {x : Unit}
    (h : validateWans cfg a w = .ok (x, a', w')) : Dict.keys a' = Dict.keys a := by
  unfold validateWans at h
  simp only at h
  split at h
  · next hlist =>
    simp only [Except.ok.injEq, Prod.mk.injEq] at h
    obtain ⟨-, rfl, -⟩ := h
    exact (validateWanList_post hlist (by simp)).1
  · cases h

theorem validateWans_congr {cfg cfg' : Obj} (h : portsOf cfg = portsOf cfg') :
    validateWans cfg = validateWans cfg' := by
  unfold portsOf at h
  unfold validateWans
  simp only [h]
  rfl

/-! ### The sections, one after the other -/

theorem runSections_again {t : Obj} : ∀ {secs : List Section},
    (∀ s ∈ secs, ∃ o, Dict.lookup s.name t = some (.obj o) ∧ ∀ u, ∃ u', s.check t o u = .ok ((), o, u')) →
      ∀ u, ∃ u', runSections secs t u = .ok ((), t, u')
  | [], _, u => ⟨u, rfl⟩
  | s :: rest, h, u => by
    obtain ⟨⟨o, ho, hcheck⟩, hrest⟩ := List.forall_mem_cons.mp h
    obtain ⟨u₁, hu₁⟩ := hcheck u
    obtain ⟨u₂, hu₂⟩ := runSections_again hrest u₁
    refine ⟨u₂, bind_eq_ok.mpr ⟨(), t, u₁, checkSection_eq_ok.mpr ⟨o, o, ?_, hu₁, (Dict.set_eq_self ho).symm⟩, hu₂⟩⟩
    rw [ho]
    rfl

theorem again_unit {P : Obj → Prop} {m₀ m₁ : EditM Unit} (h : Again P Eq m₀ m₁) {a a' : Obj} {w w' : List String}
    (hrun : m₀ a w = .ok ((), a', w')) (hP : P a') (u : List String) : ∃ u', m₁ a' u = .ok ((), a', u') := by
  obtain ⟨_, u', hu', rfl⟩ := h a w () a' w' hrun hP u
  exact ⟨u', hu'⟩

/-- `cfg.get("dns", {})` -/
def dnsOf (cfg : Obj) : Obj := ((Dict.lookup "dns" cfg).getD (.obj [])).entries

theorem hasSection_of_lookup {cfg o : Obj} {name : String} (h : Dict.lookup name cfg = some (.obj o)) :
    HasSection cfg name o := by
  unfold HasSection
  rw [h]
  rfl

/-- **A checked document is accepted again**, and stays, when its DNS names are clean. -/
theorem validate_again {caps : Capabilities} {cfg t : Obj} {w : List String}
    (hports : (Dict.keys (portsOf cfg)).Nodup) (h : validate caps cfg = .ok (t, w)) (hclean : CleanNames (dnsOf t)) :
    ∃ w', validate caps t = .ok (t, w') := by
  obtain ⟨_, _, _, _, _, -, hsystem, hlsystem, -, -⟩ := section_of_validate h [] _ _ rfl
  obtain ⟨mp, op, ports, _, _, hop, hcports, hlports, -, hrestp⟩ := section_of_validate h [_] _ _ rfl
  obtain ⟨mn, on, networks, _, _, hon, hnetworks, hlnetworks, -, hrestn⟩ := section_of_validate h [_, _] _ _ rfl
  obtain ⟨mw, ow, wans, _, _, how, hwans, hlwans, hearlierw, -⟩ := section_of_validate h [_, _, _] _ _ rfl
  obtain ⟨_, _, _, _, _, -, hfirewall, hlfirewall, -, -⟩ := section_of_validate h [_, _, _, _] _ _ rfl
  obtain ⟨mt, _, _, _, _, -, hnat, hlnat, hearliert, -⟩ := section_of_validate h [_, _, _, _, _] _ _ rfl
  obtain ⟨_, _, _, _, _, -, hrouting, hlrouting, -, -⟩ := section_of_validate h [_, _, _, _, _, _] _ _ rfl
  obtain ⟨mq, _, _, _, _, -, hqos, hlqos, hearlierq, -⟩ := section_of_validate h [_, _, _, _, _, _, _] _ _ rfl
  obtain ⟨_, _, dns, _, _, -, hdns, hldns, -, -⟩ := section_of_validate h [_, _, _, _, _, _, _, _] _ _ rfl
  obtain ⟨_, _, _, _, _, -, hdpi, hldpi, -, -⟩ := section_of_validate h [_, _, _, _, _, _, _, _, _] _ _ rfl
  obtain ⟨_, _, _, _, _, -, hcontroller, hlcontroller, -, -⟩ :=
    section_of_validate h [_, _, _, _, _, _, _, _, _, _] _ _ rfl
  obtain ⟨mf, _, _, _, _, -, hwifi, hlwifi, hearlierf, -⟩ :=
    section_of_validate h [_, _, _, _, _, _, _, _, _, _, _] _ _ rfl
  obtain ⟨_, _, _, _, _, -, husers, hlusers, -, -⟩ :=
    section_of_validate h [_, _, _, _, _, _, _, _, _, _, _, _] _ _ rfl
  -- what the checks read of other sections
  have hnetKeys : SameKeys on networks := sameKeys_of_keys (keys_of_validateNetworks hnetworks)
  have hwanKeys : SameKeys ow wans := sameKeys_of_keys (keys_of_validateWans hwans)
  have hnetsAtPorts : HasSection mp "networks" on := by
    unfold HasSection
    rw [hrestp "networks" (by simp)]
    exact hon
  have hwansAtNetworks : HasSection mn "wans" ow := by
    unfold HasSection
    rw [hrestn "wans" (by simp)]
    exact how
  have hwansAtNat : HasSection mt "wans" wans := by
    unfold HasSection
    rw [hearliert "wans" (by simp), hlwans]
    rfl
  have hportsAtWans : portsOf mw = portsOf t := by
    unfold portsOf
    rw [hearlierw "ports" (by simp)]
  have hnodup : (Dict.keys (portsOf mw)).Nodup := by
    rw [hportsAtWans]
    unfold portsOf at hports ⊢
    rw [hop] at hports
    rw [hlports]
    exact (keys_of_validatePorts hcports).symm ▸ hports
  have hdnsOf : dnsOf t = dns := by
    unfold dnsOf
    rw [hldns]
    rfl
  have hnets := hasSection_of_lookup hlnetworks
  have hwanss := hasSection_of_lookup hlwans
  have hsame : SameKeys wans wans := fun _ => rfl
  obtain ⟨u', hu'⟩ : ∃ u', runSections (sections caps) t [] = .ok ((), t, u') := by
    refine runSections_again ?_ []
    refine List.forall_mem_cons.mpr ⟨⟨_, hlsystem, again_unit validateSystem_again hsystem trivial⟩, ?_⟩
    refine List.forall_mem_cons.mpr
      ⟨⟨_, hlports, again_unit (validatePorts_again hnetsAtPorts hnets hnetKeys) hcports trivial⟩, ?_⟩
    refine List.forall_mem_cons.mpr
      ⟨⟨_, hlnetworks, again_unit (validateNetworks_again hwansAtNetworks hwanss hwanKeys) hnetworks trivial⟩, ?_⟩
    refine List.forall_mem_cons.mpr ⟨⟨_, hlwans, ?_⟩, ?_⟩
    · show ∀ u, ∃ u', validateWans t wans u = .ok ((), wans, u')
      rw [← validateWans_congr hportsAtWans]
      exact (wan_ports_safe hnodup hwans).2
    refine List.forall_mem_cons.mpr ⟨⟨_, hlfirewall, again_unit validateFirewall_again hfirewall trivial⟩, ?_⟩
    refine List.forall_mem_cons.mpr
      ⟨⟨_, hlnat, again_unit (validateNat_again hwansAtNat hwanss hsame) hnat trivial⟩, ?_⟩
    refine List.forall_mem_cons.mpr ⟨⟨_, hlrouting, again_unit validateRouting_again hrouting trivial⟩, ?_⟩
    refine List.forall_mem_cons.mpr
      ⟨⟨_, hlqos, again_unit (validateQos_again (hearlierq "networks" (by simp))) hqos trivial⟩, ?_⟩
    refine List.forall_mem_cons.mpr ⟨⟨_, hldns, again_unit validateDns_again hdns (hdnsOf ▸ hclean)⟩, ?_⟩
    refine List.forall_mem_cons.mpr ⟨⟨_, hldpi, again_unit (validateDpi_again _ t) hdpi trivial⟩, ?_⟩
    refine List.forall_mem_cons.mpr
      ⟨⟨_, hlcontroller, again_unit validateController_again hcontroller trivial⟩, ?_⟩
    refine List.forall_mem_cons.mpr
      ⟨⟨_, hlwifi, again_unit (validateWifi_again (hearlierf "networks" (by simp))) hwifi trivial⟩, ?_⟩
    refine List.forall_mem_cons.mpr ⟨⟨_, hlusers, again_unit validateUsers_again husers trivial⟩, ?_⟩
    exact fun s hs => absurd hs List.not_mem_nil
  refine ⟨u', ?_⟩
  unfold validate
  rw [validateSections_eq, hu']

/-- The DNS names of a checked document are those of the document in normal form. -/
theorem names_of_validate {caps : Capabilities} {cfg t : Obj} {w : List String} (h : validate caps cfg = .ok (t, w)) :
    dnsNames (dnsOf t) = (dnsNames (dnsOf cfg)).map dnsName := by
  obtain ⟨_, o, dns, _, _, ho, hdns, hldns, -, -⟩ := section_of_validate h [_, _, _, _, _, _, _, _] _ _ rfl
  have hafter : dnsOf t = dns := by
    unfold dnsOf
    rw [hldns]
    rfl
  have hbefore : dnsOf cfg = o := by
    unfold dnsOf
    rw [ho]
    rfl
  rw [hafter, hbefore, names_of_validateDns hdns]

/-- **A document stays exactly when none of its DNS names ends in a line break** once it is stripped. -/
theorem validate_again_iff {caps : Capabilities} {cfg t : Obj} {w : List String}
    (hports : (Dict.keys (portsOf cfg)).Nodup) (h : validate caps cfg = .ok (t, w)) :
    (∃ w', validate caps t = .ok (t, w')) ↔ ∀ s ∈ dnsNames (dnsOf cfg), ¬ EndsLine (dnsName s) := by
  have hnames := names_of_validate h
  constructor
  · rintro ⟨w', hagain⟩ s hs
    have hfixed := names_of_validate hagain
    have hmem : dnsName s ∈ dnsNames (dnsOf t) := by
      rw [hnames]
      exact List.mem_map_of_mem hs
    refine notEndsLine_of_dnsName ?_
    exact List.map_inj_left.mp (hfixed.symm.trans (List.map_id _).symm) _ hmem
  · intro hclean
    refine validate_again hports h fun s hs => ?_
    rw [hnames] at hs
    obtain ⟨n, hn, rfl⟩ := List.mem_map.mp hs
    exact hclean n hn

end Sbegw.Schema
