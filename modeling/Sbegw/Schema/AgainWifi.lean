import Sbegw.Schema.Again

/-!
# The Wi-Fi section settles at once

An MLD may raise the PMF of an SSID that has been checked before; the SSID is accepted as it then stands.
-/

namespace Sbegw.Schema

open EditM

/-! ### Radios -/

theorem validateRadio_again (caps : Capabilities) (country rid : String) :
    Again Always Eq (validateRadio caps country () rid) (validateRadio caps country () rid) := by
  refine Settles.again (W := ["enabled", "band", "channel_width", "channel", "tx_power"]) ?_
  unfold validateRadio
  refine Settles.field (by decide) fun _ => ?_
  refine Settles.field (by decide) fun band => ?_
  refine Settles.field (by decide) fun width => ?_
  refine Settles.field (by decide) fun channel => ?_
  refine Settles.field (by decide) fun _ => ?_
  refine Settles.quiet settles_raiseIf fun _ => ?_
  refine Settles.get (by decide) fun bitmap => ?_
  refine Settles.quiet (settles_when fun _ => settles_lift) fun _ => ?_
  cases Dict.lookup rid caps.radios with
  | none => exact Settles.done rfl
  | some cap =>
    refine Settles.quiet (settles_when fun _ => settles_warn _ _) fun _ => ?_
    cases channel with
    | none => exact Settles.done rfl
    | some c => exact settles_lift

/-! ### The security of an SSID -/

/-- Protected management frames are required. -/
def PmfRequired (security : Obj) : Prop := Dict.lookup "pmf" security = some (.str "required")

theorem settles_pmf {U : List String} (base : String) :
    Settles PmfRequired U ["pmf"] (fun _ q => q = "required")
      (field "pmf" (.str "optional") (vEnum · (base ++ ".security.pmf") ["disabled", "optional", "required"]))
      (field "pmf" (.str "optional") (vEnum · (base ++ ".security.pmf") ["disabled", "optional", "required"])) := by
  intro a w b a' w' h
  rw [(field_eq_ok h).2]
  refine ⟨fun j hj => Dict.lookup_setdefault_of_ne (by simpa using hj) _ _, fun z u _ hz => ?_⟩
  have hcheck : vEnum (.str "required") (base ++ ".security.pmf") ["disabled", "optional", "required"] =
      .ok "required" := rfl
  exact ⟨"required", u, field_of_lookup hz hcheck u, rfl⟩

/-- Where PMF is required, nothing is forced. -/
theorem settles_force {U : List String} (pmf text : String) :
    Settles PmfRequired U ["pmf"] Eq
      (when (pmf ≠ "required") do
        put "pmf" (.str "required")
        warn text)
      (when ("required" ≠ "required") do
        put "pmf" (.str "required")
        warn text) := by
  intro a w b a' w' h
  refine ⟨fun j hj => ?_, fun z u _ _ => ⟨(), u, rfl, rfl⟩⟩
  have hj : j ≠ "pmf" := by simpa using hj
  rcases ite_eq_ok h with ⟨-, hforce⟩ | ⟨-, hpure⟩
  · obtain ⟨_, a₁, w₁, hput, hwarn⟩ := bind_eq_ok.mp hforce
    rw [Quiet.warn _ _ _ _ _ _ hwarn, put_eq_ok hput, Dict.lookup_set_of_ne hj]
  · rw [Quiet.pure () _ _ _ _ _ hpure]

theorem validateSecurity_required (radius : Json) (wnid base : String) (bands : List String) :
    Settles PmfRequired ["pmf"] ["mode", "pmf", "pmf", "private_preshared_keys", "sae_anti_clogging_threshold",
      "sae_sync"] Eq (validateSecurity radius wnid base bands) (validateSecurity radius wnid base bands) := by
  unfold validateSecurity
  refine Settles.field (by decide) fun mode => ?_
  refine @Settles.bind String Bool PmfRequired ["pmf"] Eq ["pmf"]
    ["pmf", "private_preshared_keys", "sae_anti_clogging_threshold", "sae_sync"] (fun _ q => q = "required")
    _ _ _ _ (fun _ => ⟨_, rfl⟩) (settles_pmf base) ?_
  rintro pmf _ rfl
  refine Settles.get (by decide) fun passphrase => ?_
  refine Settles.quiet (settles_when fun _ => settles_lift) fun _ => ?_
  refine Settles.get (by decide) fun profile => ?_
  refine Settles.quiet (settles_when fun _ => settles_lift) fun _ => ?_
  refine Settles.key (settles_when fun _ => ?_) fun _ => ?_
  · refine Settles.quiet settles_raiseIf fun _ => ?_
    refine Settles.get (by decide) fun owe => ?_
    refine Settles.quiet settles_raiseIf fun _ => ?_
    exact settles_force pmf _
  refine Settles.quiet (settles_passes (Quiet.raiseIf _ _) fun z u => ⟨u, ?_⟩) fun _ => ?_
  · exact raiseIf_of_false (by simp) _ _ _
  refine Settles.field (by decide) fun _ => ?_
  refine Settles.field (by decide) fun _ => ?_
  exact Settles.field (by decide) fun _ => Settles.done rfl

theorem validateSecurity_lower {bands : List String} (hsix : bands.contains "6g" = false) (radius : Json)
    (wnid base : String) :
    Again Always Eq (validateSecurity radius wnid base bands) (validateSecurity radius wnid base bands) := by
  refine Settles.again (W := ["mode", "pmf", "private_preshared_keys", "sae_anti_clogging_threshold", "sae_sync"]) ?_
  unfold validateSecurity
  refine Settles.field (by decide) fun mode => ?_
  refine Settles.field (by decide) fun pmf => ?_
  refine Settles.get (by decide) fun passphrase => ?_
  refine Settles.quiet (settles_when fun _ => settles_lift) fun _ => ?_
  refine Settles.get (by decide) fun profile => ?_
  refine Settles.quiet (settles_when fun _ => settles_lift) fun _ => ?_
  refine Settles.quiet (settles_when fun h => absurd h (by rw [hsix]; decide)) fun _ => ?_
  refine Settles.quiet settles_raiseIf fun _ => ?_
  refine Settles.field (by decide) fun _ => ?_
  refine Settles.field (by decide) fun _ => ?_
  exact Settles.field (by decide) fun _ => Settles.done rfl

/-- The same security, with PMF raised perhaps. -/
def PmfRaised (s s' : Obj) : Prop := s' = s ∨ s' = Dict.set "pmf" (.str "required") s

theorem lookup_of_pmfRaised {s s' : Obj} (h : PmfRaised s s') {k : String} (hk : k ≠ "pmf") :
    Dict.lookup k s' = Dict.lookup k s := by
  rcases h with rfl | rfl
  · rfl
  · exact Dict.lookup_set_of_ne hk _ _

theorem validateSecurity_again {radius : Json} {wnid base : String} {bands : List String} {a s s' : Obj}
    {w w' : List String} {b : Bool} (h : validateSecurity radius wnid base bands a w = .ok (b, s, w'))
    (hs : PmfRaised s s') (u : List String) :
    ∃ u', validateSecurity radius wnid base bands s' u = .ok (b, s', u') := by
  have hagain : PmfRequired s' → ∃ u', validateSecurity radius wnid base bands s' u = .ok (b, s', u') := by
    intro hreq
    obtain ⟨_, u', hu', rfl⟩ := (validateSecurity_required radius wnid base bands a w b s w' h).2 s' u
      (fun j hj => lookup_of_pmfRaised hs (by simpa using hj)) hreq
    exact ⟨u', hu'⟩
  rcases hs with rfl | rfl
  · cases hsix : bands.contains "6g" with
    | true => exact hagain ((security_of_validateSecurity h).sixPmf hsix)
    | false =>
      obtain ⟨_, u', hu', rfl⟩ := validateSecurity_lower hsix radius wnid base a w b s' w' h trivial u
      exact ⟨u', hu'⟩
  · exact hagain (Dict.lookup_set_self _ _ _)

/-! ### SSIDs -/

/-- The same SSID, with PMF raised perhaps. -/
def Raised (o o' : Obj) : Prop :=
  ∃ s s', Dict.lookup "security" o = some (.obj s) ∧ PmfRaised s s' ∧ o' = Dict.set "security" (.obj s') o

theorem lookup_of_raised {o o' : Obj} (h : Raised o o') : ∀ k, k ∉ ["security"] →
    Dict.lookup k o' = Dict.lookup k o := by
  obtain ⟨s, s', -, -, rfl⟩ := h
  exact fun k hk => Dict.lookup_set_of_ne (by simpa using hk) _ _

theorem security_of_raised {o o' s : Obj} (h : Raised o o') (hs : Dict.lookup "security" o = some (.obj s)) :
    ∃ s', Dict.lookup "security" o' = some (.obj s') ∧ PmfRaised s s' := by
  obtain ⟨s₁, s', hs₁, hraised, rfl⟩ := h
  obtain rfl : s₁ = s := Json.obj.inj (Option.some.inj (hs₁.symm.trans hs))
  exact ⟨s', Dict.lookup_set_self _ _ _, hraised⟩

theorem raised_refl {o s : Obj} (h : Dict.lookup "security" o = some (.obj s)) : Raised o o :=
  ⟨s, s, h, .inl rfl, (Dict.set_eq_self h).symm⟩

theorem raised_trans {o₁ o₂ o₃ : Obj} (h₁ : Raised o₁ o₂) (h₂ : Raised o₂ o₃) : Raised o₁ o₃ := by
  obtain ⟨s₁, s₂, hs₁, hr₁, rfl⟩ := h₁
  obtain ⟨s, s₃, hs, hr₂, rfl⟩ := h₂
  rw [Dict.lookup_set_self] at hs
  obtain rfl : s₂ = s := Json.obj.inj (Option.some.inj hs)
  refine ⟨s₁, s₃, hs₁, ?_, Dict.set_set _ _ _ _⟩
  rcases hr₂ with rfl | rfl
  · exact hr₁
  · refine .inr ?_
    rcases hr₁ with rfl | rfl
    · rfl
    · exact Dict.set_set _ _ _ _

/-- The loop that looks for the MLDs of an SSID goes through. -/
def MldsRead (wifi : Obj) : Prop := ∀ wnid, ∃ b, (do boundByMld wnid (← mldsOf wifi)) = .ok b

theorem boundByMld_of_objects (wnid : String) : ∀ {mlds : Obj}, (∀ e ∈ mlds, ∃ m, e.2 = .obj m) →
    ∃ b, boundByMld wnid mlds = .ok b
  | [], _ => ⟨false, rfl⟩
  | (mid, v) :: rest, h => by
    obtain ⟨m, rfl⟩ : ∃ m, v = .obj m := h _ List.mem_cons_self
    obtain ⟨b, hb⟩ := boundByMld_of_objects wnid fun e he => h e (List.mem_cons_of_mem _ he)
    simp only [boundByMld]
    split
    · exact ⟨true, rfl⟩
    · exact ⟨b, hb⟩

theorem mldsRead_of_objects {wifi mlds : Obj} (h : Dict.lookup "mlds" wifi = some (.obj mlds))
    (hmlds : ∀ e ∈ mlds, ∃ m, e.2 = .obj m) : MldsRead wifi := by
  intro wnid
  obtain ⟨b, hb⟩ := boundByMld_of_objects wnid hmlds
  refine ⟨b, ?_⟩
  have hof : mldsOf wifi = .ok mlds := by
    unfold mldsOf
    rw [h]
    rfl
  rw [hof]
  exact hb

/-- The keys that the check of an SSID fills in after its security. -/
def laterKeys : List String :=
  ["fast_roaming", "bss_transition", "neighbor_report", "application", "broadcasting_aps", "advanced_mode",
    "minimum_data_rate", "multicast_filtering", "multicast_broadcast_blocker", "multicast_to_unicast", "mlo",
    "band_steering", "proxy_arp", "uapsd", "mac_filter", "radius_mac_auth", "speed_limit", "auto_dtim", "dtim_period",
    "group_rekey_interval", "group_rekey_seconds", "show_ap_name_in_beacon", "blackout_schedule", "mac_filter_list",
    "mac_filter_policy", "bandwidth"]

theorem passes_warnOf (text : Option String) (z : Obj) (u : List String) :
    ∃ u', warnOf text z u = .ok ((), z, u') := by
  cases text with
  | none => exact ⟨u, rfl⟩
  | some text => exact ⟨u ++ [text], rfl⟩

theorem settles_flag {P : Obj → Prop} {U : List String} {base k : String} {d : Bool} (hk : k ∉ U) :
    Settles P U [k] Eq (flag base k d) (flag base k d) := settles_field hk

/-- **An SSID**, also one whose PMF an MLD has raised. -/
theorem validateWirelessNetwork_again (caps : Capabilities) (cfg : Obj) {wifi wifi' : Obj}
    (hradius : radiusOf wifi = radiusOf wifi') (hmlds : MldsRead wifi') (wnid : String) :
    SettlesOn Raised (["enabled", "hidden", "uplink", "client_isolation", "network", "bands", "security"] ++ laterKeys)
      Eq (validateWirelessNetwork caps cfg wifi () wnid) (validateWirelessNetwork caps cfg wifi' () wnid) := by
  have hE : ∀ a z, Raised a z → ∀ j, j ∉ ["security"] → Dict.lookup j z = Dict.lookup j a :=
    fun a z h => lookup_of_raised h
  unfold validateWirelessNetwork
  refine SettlesOn.quiet hE settles_lift fun _ => ?_
  refine SettlesOn.quiet hE (settles_get (by decide)) fun ssid => ?_
  refine SettlesOn.quiet hE settles_lift fun _ => ?_
  refine SettlesOn.key hE (settles_flag (by decide)) fun _ => ?_
  refine SettlesOn.key hE (settles_flag (by decide)) fun _ => ?_
  refine SettlesOn.key hE (settles_field (by decide)) fun uplink => ?_
  refine SettlesOn.quiet hE (settles_when fun _ => settles_warn _ _) fun _ => ?_
  refine SettlesOn.key hE (settles_flag (by decide)) fun _ => ?_
  refine SettlesOn.key hE (settles_field (by decide)) fun _ => ?_
  refine SettlesOn.key hE (settles_field (by decide)) fun bands => ?_
  refine SettlesOn.quiet hE (settles_passes (quiet_warnOf _) (passes_warnOf _)) fun _ => ?_
  -- the flag is filled in only later: the warning may come once more, or no longer
  refine @SettlesOn.bind Json Unit Raised ["security"] Eq [] ("security" :: laterKeys) Any _ _ _ _ hE
    (fun _ => ⟨.null, trivial⟩) (settles_get_any "mlo") fun mlo mlo' _ => ?_
  refine SettlesOn.quiet hE (settles_passes ?_ ?_) fun _ => ?_
  · exact Quiet.when (Quiet.bind (Quiet.lift _) fun bound => Quiet.when (Quiet.warn _))
  · refine passes_when fun z u => ?_
    obtain ⟨b, hb⟩ := hmlds wnid
    obtain ⟨u', hu'⟩ := passes_when (c := (!b) = true) (fun z u => ⟨u ++ [_], rfl⟩) z u
    exact ⟨u', bind_eq_ok.mpr ⟨b, z, u, lift_eq_ok.mpr ⟨hb, rfl, rfl⟩, hu'⟩⟩
  rw [hradius]
  refine SettlesOn.within (by decide) (fun a z o h ho => security_of_raised h ho)
    (fun a w b o w' o' h hK u => validateSecurity_again h hK u) fun profile => ?_
  refine SettlesOn.of_settles hE ?_
  refine Settles.key (settles_flag (by decide)) fun _ => ?_
  refine Settles.key (settles_flag (by decide)) fun _ => ?_
  refine Settles.key (settles_flag (by decide)) fun _ => ?_
  refine Settles.field (by decide) fun _ => ?_
  refine Settles.field (by decide) fun _ => ?_
  refine Settles.field (by decide) fun _ => ?_
  refine Settles.key (settles_flag (by decide)) fun _ => ?_
  refine Settles.field (by decide) fun _ => ?_
  refine Settles.key (settles_flag (by decide)) fun _ => ?_
  refine Settles.key (settles_flag (by decide)) fun _ => ?_
  refine Settles.key (settles_flag (by decide)) fun mlo => ?_
  refine Settles.quiet settles_raiseIf fun _ => ?_
  refine Settles.quiet settles_raiseIf fun _ => ?_
  refine Settles.key (settles_flag (by decide)) fun _ => ?_
  refine Settles.key (settles_flag (by decide)) fun _ => ?_
  refine Settles.key (settles_flag (by decide)) fun _ => ?_
  refine Settles.key (settles_flag (by decide)) fun _ => ?_
  refine Settles.key (settles_flag (by decide)) fun macAuth => ?_
  refine Settles.quiet settles_raiseIf fun _ => ?_
  refine Settles.key (settles_flag (by decide)) fun _ => ?_
  refine Settles.key (settles_flag (by decide)) fun _ => ?_
  refine Settles.field (by decide) fun _ => ?_
  refine Settles.key (settles_flag (by decide)) fun _ => ?_
  refine Settles.field (by decide) fun _ => ?_
  refine Settles.key (settles_flag (by decide)) fun _ => ?_
  refine Settles.key (settles_within ["enabled"] (by decide) ?_) fun _ => ?_
  · refine Settles.key (settles_flag (by decide)) fun _ => Settles.done rfl
  refine Settles.field (by decide) fun _ => ?_
  refine Settles.field (by decide) fun _ => ?_
  refine Settles.get (by decide) fun minRssi => ?_
  refine Settles.quiet (settles_when fun _ => settles_lift) fun _ => ?_
  refine settles_within ["download_kbps", "upload_kbps"] (by decide) ?_
  refine Settles.field (by decide) fun _ => ?_
  exact Settles.field (by decide) fun _ => Settles.done rfl

/-! ### Regulatory environment and channel optimisation -/

theorem validateRegulatory_again : Again Always Eq validateRegulatory validateRegulatory := by
  refine Settles.again (W := ["environment", "six_ghz_power"]) ?_
  unfold validateRegulatory
  refine Settles.field (by decide) fun environment => ?_
  refine Settles.field (by decide) fun power => ?_
  refine Settles.quiet (settles_when fun _ => settles_warn _ _) fun _ => ?_
  exact settles_when fun _ => settles_warn _ _

theorem validateOptimisation_again : Again Always Eq validateOptimisation validateOptimisation := by
  refine Settles.again (W := ["enabled", "min_interval_seconds", "min_improvement", "avoid_dfs", "prefer_psc",
    "schedule_hour"]) ?_
  unfold validateOptimisation
  refine Settles.key (settles_flag (by decide)) fun _ => ?_
  refine Settles.field (by decide) fun _ => ?_
  refine Settles.field (by decide) fun _ => ?_
  refine Settles.key (settles_flag (by decide)) fun _ => ?_
  refine Settles.key (settles_flag (by decide)) fun _ => ?_
  exact Settles.field (by decide) fun _ => Settles.done rfl

end Sbegw.Schema
