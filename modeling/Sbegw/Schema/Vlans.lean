import Sbegw.Schema.Accepted

/-!
# Ports and VLANs of accepted documents

The fields of a port, and that no two networks name the same VLAN.
-/

namespace Sbegw.Schema

open EditM Text

/-! ### Ports -/

/-- A list of VLAN ids, some of which may be missing. -/
def AreVlans (x : Option Json) : Prop :=
  ∃ vs, x = some (.arr vs) ∧ ∀ v ∈ vs, v = .null ∨ ∃ i, v = .int i ∧ 1 ≤ i ∧ i ≤ 4094

/-- The fields of an accepted port. -/
def portFacts : Facts :=
  [("role", OneOf portRoles), ("enabled", IsBool), ("mtu", IsInt), ("tagged_vlans", AreVlans)]

theorem vVlan_eq_ok {x : Json} {path : String} {v : Option ℤ} (h : vVlan x path = .ok v) :
    x = .null ∨ ∃ i, x = .int i ∧ 1 ≤ i ∧ i ≤ 4094 := by
  rcases isVlan_of_vVlan (x := some x) h with hnull | ⟨i, hi, hlow, hhigh⟩
  · exact .inl hnull
  · exact .inr ⟨i, Option.some.inj hi, hlow, hhigh⟩

theorem areVlans_of_check {base : String} {x : Json} {u : Unit} (h : (do
      let _ ← needArr x (base ++ ".tagged_vlans") "a list of VLAN IDs"
      eachChecked x fun i vid => vVlan vid s!"{base}.tagged_vlans[{i}]") = .ok u) :
    AreVlans (some x) := by
  obtain ⟨xs, hxs, h⟩ := except_bind_eq_ok.mp h
  cases x with
  | arr ys =>
    unfold eachChecked at h
    obtain ⟨zs, hzs, h⟩ := except_bind_eq_ok.mp h
    obtain rfl : ys = zs := Except.ok.inj hzs
    refine ⟨ys, rfl, fun v hv => ?_⟩
    obtain ⟨j, hj⟩ := each_eq_ok h v hv
    simp only at hj
    generalize hc : vVlan v _ = r at hj
    cases r with
    | error e => simp [Except.map] at hj
    | ok r => exact vVlan_eq_ok hc
  | _ => simp [needArr] at hxs

theorem checked_validatePort (cfg : Obj) (pid : String) : Checked portFacts (validatePort cfg () pid) := by
  unfold validatePort portFacts
  refine Checked.field (fun role => ?_)
    (fun x b h => ⟨b, (vEnum_eq_ok h).2, congrArg some (vEnum_eq_ok h).1⟩) (by simp)
  refine Checked.field (fun _ => ?_) (fun x b h => ⟨b, congrArg some (vBool_eq_ok h)⟩) (by simp)
  refine Checked.field (fun _ => ?_) (fun x b h => ⟨b, congrArg some (vInt_eq_ok h).1⟩) (by simp)
  refine Checked.quiet (quiet_ifSet _ _) fun _ => ?_
  refine Checked.quiet (Quiet.get _) fun network => ?_
  refine Checked.quiet ?_ fun _ => ?_
  · unfold EditM.when
    split
    · exact Quiet.lift _
    · exact Quiet.pure ()
  · exact Checked.field_last fun x b h => areVlans_of_check h

theorem ports_of_validate {caps : Capabilities} {cfg t : Obj} {w : List String}
    (h : validate caps cfg = .ok (t, w)) : ∃ ports, Dict.lookup "ports" t = some (.obj ports) ∧
      ∀ e ∈ ports, ∃ o, e.2 = .obj o ∧ Holds portFacts o := by
  obtain ⟨m, _, ports, _, _, -, hports, hl, -, -⟩ := section_of_validate h [_] _ _ rfl
  refine ⟨ports, hl, ?_⟩
  have hone : ∀ (s : Unit) k a w s' a' w', validatePort m s k a w = .ok (s', a', w') →
      Holds portFacts a' := fun _ k a w s' a' w' hk => holds_of_checked (checked_validatePort m k) hk
  exact (eachEntry_post hone _ hports).2

/-! ### VLANs of networks -/

/-- The VLAN that a network names. -/
def namedVlan (net : Json) : Option ℤ :=
  match net.getD "vlan" .null with
  | .int i => some i
  | _ => none

/-- Validation leaves the VLAN of a network as it is. -/
theorem leaves_vlan (cfg : Obj) (seen : SeenNetworks) (nid : String) :
    Leaves "vlan" (validateNetwork cfg seen nid) := by
  have hchecked : Checked [("name", Anything), ("purpose", Anything), ("zone", Anything),
      ("dhcp", Anything), ("isolation", Anything), ("internet_access", Anything), ("wan", Anything)]
      (validateNetwork cfg seen nid) := by
    unfold validateNetwork
    refine Checked.quiet (Quiet.lift _) fun _ => ?_
    refine Checked.field (fun _ => ?_) (fun _ _ _ => trivial) (by simp)
    refine Checked.field (fun _ => ?_) (fun _ _ _ => trivial) (by simp)
    refine Checked.field (fun _ => ?_) (fun _ _ _ => trivial) (by simp)
    refine Checked.quiet (Quiet.get _) fun vlan => ?_
    refine Checked.quiet (Quiet.lift _) fun seen => ?_
    refine Checked.quiet (Quiet.get _) fun subnet => ?_
    refine Checked.bind (Checked.ite ?_ (checked_pure "dhcp" seen)) (fun seen => ?_) (by simp)
    · refine Checked.quiet (Quiet.lift _) fun iface => ?_
      refine Checked.quiet (Quiet.lift _) fun seen => ?_
      exact Checked.bind (checked_within "dhcp" _ _ _) (fun _ => Checked.pure seen) (by simp)
    · refine Checked.field (fun _ => ?_) (fun _ _ _ => trivial) (by simp)
      refine Checked.field (fun _ => ?_) (fun _ _ _ => trivial) (by simp)
      refine Checked.field (fun _ => ?_) (fun _ _ _ => trivial) (by simp)
      exact Checked.pure seen
  intro a w b a' w' h
  exact (hchecked a w b a' w' h).1 "vlan" (by decide)

/-- A network that names a VLAN has not found it used, and leaves it used. -/
theorem claimVlan_eq_ok {seen seen' : SeenNetworks} {nid base : String} {vlan : Option ℤ}
    (h : claimVlan seen nid base vlan = .ok seen') :
    (∀ v, vlan = some v → v ∉ seen.vlans.map Prod.fst) ∧
      seen'.vlans.map Prod.fst = seen.vlans.map Prod.fst ++ vlan.toList := by
  unfold claimVlan at h
  cases vlan with
  | none =>
    obtain rfl := Except.ok.inj h
    simp
  | some v =>
    simp only at h
    split at h
    · cases h
    · next hnone =>
      obtain rfl := Except.ok.inj h
      rw [List.find?_eq_none] at hnone
      refine ⟨fun u hu hmem => ?_, by simp⟩
      obtain rfl := Option.some.inj hu
      obtain ⟨e, he, rfl⟩ := List.mem_map.mp hmem
      exact hnone e he (by simp)

theorem vlan_of_validateNetwork {cfg : Obj} {seen seen' : SeenNetworks} {nid : String} {a a' : Obj}
    {w w' : List String} (h : validateNetwork cfg seen nid a w = .ok (seen', a', w')) :
    (∀ v, namedVlan (.obj a') = some v → v ∉ seen.vlans.map Prod.fst) ∧
      seen'.vlans.map Prod.fst = seen.vlans.map Prod.fst ++ (namedVlan (.obj a')).toList := by
  have hsame : Dict.lookup "vlan" a' = Dict.lookup "vlan" a := leaves_vlan cfg seen nid a w seen' a' w' h
  unfold validateNetwork at h
  obtain ⟨_, a₁, w₁, hid, h⟩ := bind_eq_ok.mp h
  obtain ⟨-, rfl, -⟩ := lift_eq_ok.mp hid
  have hfield : ∀ {β : Type} (k : String) (v : Json) (check : Json → Except Exn β), k ≠ "vlan" →
      Leaves "vlan" (field k v check) := by
    intro β k v check hk a w b a' w' hok
    exact ((Checked.field_last (P := Anything) fun _ _ _ => trivial) a w b a' w' hok).1 "vlan"
      (by simpa using fun h => hk h.symm)
  obtain ⟨_, a₂, w₂, h₁, h⟩ := bind_eq_ok.mp h
  obtain ⟨_, a₃, w₃, h₂, h⟩ := bind_eq_ok.mp h
  obtain ⟨_, a₄, w₄, h₃, h⟩ := bind_eq_ok.mp h
  obtain ⟨x, a₅, w₅, hget, h⟩ := bind_eq_ok.mp h
  simp only [EditM.get, Except.ok.injEq, Prod.mk.injEq] at hget
  obtain ⟨rfl, rfl, rfl⟩ := hget
  obtain ⟨seen₁, a₆, w₆, hlift, h⟩ := bind_eq_ok.mp h
  obtain ⟨hok, rfl, rfl⟩ := lift_eq_ok.mp hlift
  obtain ⟨v, hv, hclaim⟩ := except_bind_eq_ok.mp hok
  have hlook : Dict.lookup "vlan" a₄ = Dict.lookup "vlan" a := by
    rw [hfield _ _ _ (by decide) _ _ _ _ _ h₃, hfield _ _ _ (by decide) _ _ _ _ _ h₂,
      hfield _ _ _ (by decide) _ _ _ _ _ h₁]
  have hnamed : v = namedVlan (.obj a') := by
    show v = match (Dict.lookup "vlan" a').getD .null with | .int i => some i | _ => none
    rw [hsame, ← hlook]
    unfold vVlan at hv
    split at hv
    · next hx =>
      rw [hx]
      exact (Except.ok.inj hv).symm
    · cases hint : vInt ((Dict.lookup "vlan" a₄).getD .null) (("networks." ++ nid) ++ ".vlan") 1 4094 with
      | error e => simp [hint, Except.map] at hv
      | ok i =>
        rw [hint] at hv
        obtain rfl : some i = v := Except.ok.inj hv
        rw [(vInt_eq_ok hint).1]
  -- the rest of the checks leaves the VLANs alone
  have hrest : seen'.vlans = seen₁.vlans := by
    obtain ⟨subnet, a₇, w₇, -, h⟩ := bind_eq_ok.mp h
    obtain ⟨seen₂, a₈, w₈, hsub, h⟩ := bind_eq_ok.mp h
    obtain ⟨_, a₉, w₉, -, h⟩ := bind_eq_ok.mp h
    obtain ⟨_, a₁₀, w₁₀, -, h⟩ := bind_eq_ok.mp h
    obtain ⟨_, a₁₁, w₁₁, -, h⟩ := bind_eq_ok.mp h
    obtain ⟨rfl, -, -⟩ := pure_eq_ok.mp h
    split at hsub
    · obtain ⟨iface, a₁₂, w₁₂, -, hsub⟩ := bind_eq_ok.mp hsub
      obtain ⟨seen₃, a₁₃, w₁₃, hclaimed, hsub⟩ := bind_eq_ok.mp hsub
      obtain ⟨_, a₁₄, w₁₄, -, hsub⟩ := bind_eq_ok.mp hsub
      obtain ⟨rfl, -, -⟩ := pure_eq_ok.mp hsub
      obtain ⟨hclaimed, -, -⟩ := lift_eq_ok.mp hclaimed
      unfold claimSubnet at hclaimed
      split at hclaimed
      · cases hclaimed
      · obtain rfl := Except.ok.inj hclaimed
        rfl
    · obtain ⟨rfl, -, -⟩ := pure_eq_ok.mp hsub
      rfl
  rw [hrest, ← hnamed]
  exact claimVlan_eq_ok hclaim

/-- The loop over the networks: where each finds what it names unused and leaves it used, what they name is new
and pairwise different. -/
theorem named_of_eachEntry {β : Type} {cfg : Obj} {bad : String → Exn} {named : Json → Option β}
    {used : SeenNetworks → List β}
    (hone : ∀ {seen seen' : SeenNetworks} {nid : String} {a a' : Obj} {w w' : List String},
      validateNetwork cfg seen nid a w = .ok (seen', a', w') → (∀ v, named (.obj a') = some v → v ∉ used seen) ∧
        used seen' = used seen ++ (named (.obj a')).toList) :
    ∀ {networks networks' : Obj} {seen seen' : SeenNetworks} {w w' : List String},
    eachEntry bad (validateNetwork cfg) seen networks w = .ok (seen', networks', w') →
    (∀ e ∈ networks', ∀ v, named e.2 = some v → v ∉ used seen) ∧
      networks'.Pairwise fun a b => ∀ v, named a.2 = some v → named b.2 ≠ some v
  | [], networks', seen, seen', w, w', h => by
    simp only [eachEntry, Except.ok.injEq, Prod.mk.injEq] at h
    obtain ⟨-, rfl, -⟩ := h
    exact ⟨by simp, List.Pairwise.nil⟩
  | (k, v) :: rest, networks', seen, seen', w, w', h => by
    cases v with
    | obj o =>
      obtain ⟨seen₁, o', w₁, hone', seen₂, rest', w₂, hrest, rfl, rfl, rfl⟩ := eachEntry_cons_eq_ok.mp h
      obtain ⟨hnew, hseen⟩ := hone hone'
      obtain ⟨hfresh, hpair⟩ := named_of_eachEntry hone hrest
      rw [hseen] at hfresh
      refine ⟨List.forall_mem_cons.mpr ⟨hnew, fun e he v hv hmem => ?_⟩,
        List.pairwise_cons.mpr ⟨fun e he v hv hv' => ?_, hpair⟩⟩
      · exact hfresh e he v hv (List.mem_append_left _ hmem)
      · exact hfresh e he v hv' (List.mem_append_right _ (by simp [hv]))
    | _ => simp [eachEntry] at h

/-- The networks of an accepted document come out of their loop. -/
theorem networks_of_validate {caps : Capabilities} {cfg t : Obj} {w : List String}
    (h : validate caps cfg = .ok (t, w)) : ∃ m networks networks' seen ws ws',
      Dict.lookup "networks" t = some (.obj networks') ∧
        eachEntry (badEntry "networks") (validateNetwork m) ⟨[], []⟩ networks ws = .ok (seen, networks', ws') := by
  obtain ⟨m, _, networks, _, _, -, hcheck, hl, -, -⟩ := section_of_validate h [_, _] _ _ rfl
  have hsection : validateNetworks m _ _ = .ok ((), networks, _) := hcheck
  unfold validateNetworks at hsection
  obtain ⟨_, _, _, -, hrest⟩ := bind_eq_ok.mp hsection
  obtain ⟨_, _, _, -, hentries⟩ := bind_eq_ok.mp hrest
  obtain ⟨seen, after, _, hloop, hpure⟩ := bind_eq_ok.mp hentries
  obtain ⟨-, rfl, -⟩ := pure_eq_ok.mp hpure
  exact ⟨m, _, _, seen, _, _, hl, hloop⟩

/-- **No two networks of an accepted document name the same VLAN.** -/
theorem vlans_of_validate {caps : Capabilities} {cfg t : Obj} {w : List String}
    (h : validate caps cfg = .ok (t, w)) : ∃ networks, Dict.lookup "networks" t = some (.obj networks) ∧
      networks.Pairwise fun a b => ∀ v, namedVlan a.2 = some v → namedVlan b.2 ≠ some v := by
  obtain ⟨m, _, networks, _, _, _, hl, hloop⟩ := networks_of_validate h
  exact ⟨networks, hl, (named_of_eachEntry vlan_of_validateNetwork hloop).2⟩

end Sbegw.Schema
