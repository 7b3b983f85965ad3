import Sbegw.Schema.Accepted

/-!
# The Wi-Fi section of accepted documents

The radios, with the widths their bands allow; the SSIDs, with the security their bands ask for; and the
MLDs, whose SSIDs have been made strong enough.
-/

namespace Sbegw.EditM

/-- A field whose value decides what the steps after it settle. -/
theorem field_then {β γ : Type} (gs : β → Facts) {k : String} {v : Json} {check : Json → Except Exn β}
    {f : β → EditM γ} (hf : ∀ b, Checked (gs b) (f b)) (hk : ∀ b, k ∉ (gs b).map Prod.fst) {a a' : Obj}
    {w w' : List String} {c : γ} (h : (Schema.field k v check >>= f) a w = .ok (c, a', w')) :
    ∃ x b, Dict.lookup k a' = some x ∧ check x = .ok b ∧ ∀ g ∈ gs b, g.2 (Dict.lookup g.1 a') := by
  obtain ⟨b, a₂, w₂, h₁, h₂⟩ := bind_eq_ok.mp h
  obtain ⟨x, a₁, w₁, hx, hcheck⟩ := bind_eq_ok.mp h₁
  obtain ⟨rfl, rfl, rfl⟩ := setdefault_eq_ok.mp hx
  obtain ⟨hok, rfl, rfl⟩ := lift_eq_ok.mp hcheck
  obtain ⟨hframe, hfacts⟩ := hf b _ _ c a' w' h₂
  refine ⟨_, b, ?_, hok, hfacts⟩
  rw [hframe k (hk b), Dict.lookup_setdefault_self]

variable {β : Type} {a a' : Obj} {w w' : List String} {u : Unit}

theorem raiseIf_eq_ok {c : Bool} {e : Exn} (h : raiseIf c e a w = .ok (u, a', w')) : c = false ∧ a' = a := by
  unfold raiseIf at h
  cases c with
  | true => cases h
  | false => exact ⟨rfl, (pure_eq_ok.mp h).2.1.symm⟩

theorem get_eq_ok {k : String} {x : Json} (h : get k a w = .ok (x, a', w')) :
    x = (Dict.lookup k a).getD .null ∧ a' = a := by
  simp only [get, Except.ok.injEq, Prod.mk.injEq] at h
  exact ⟨h.1.symm, h.2.1.symm⟩

theorem put_eq_ok {k : String} {v : Json} (h : put k v a w = .ok (u, a', w')) : a' = Dict.set k v a := by
  simp only [put, Except.ok.injEq, Prod.mk.injEq] at h
  exact h.2.1.symm

theorem field_eq_ok {k : String} {v : Json} {check : Json → Except Exn β} {b : β}
    (h : Schema.field k v check a w = .ok (b, a', w')) :
    check ((Dict.lookup k a).getD v) = .ok b ∧ a' = Dict.setdefault k v a := by
  obtain ⟨x, a₁, w₁, hx, hcheck⟩ := bind_eq_ok.mp h
  obtain ⟨rfl, rfl, rfl⟩ := setdefault_eq_ok.mp hx
  obtain ⟨hok, rfl, rfl⟩ := lift_eq_ok.mp hcheck
  exact ⟨hok, rfl⟩

theorem ite_eq_ok {c : Prop} [hc : Decidable c] {m n : EditM β} {r : β × Obj × List String}
    (h : (if c then m else n) a w = .ok r) : c ∧ m a w = .ok r ∨ ¬c ∧ n a w = .ok r := by
  cases hc with
  | isTrue hc => exact .inl ⟨hc, h⟩
  | isFalse hc => exact .inr ⟨hc, h⟩

end Sbegw.EditM

namespace Sbegw.Schema

open EditM Text

/-! ### Radios -/

/-- The band and the width of an accepted radio. -/
def RadioFields (o : Obj) : Prop :=
  ∃ band ∈ bandNames, Dict.lookup "band" o = some (.str band) ∧
    ∃ path width value, Dict.lookup "channel_width" o = some value ∧ checkWidth path band value = .ok width

/-- What the checks after the band leave of a radio. -/
def widthFacts (band : String) : Facts :=
  [("channel_width", fun x => ∃ path width value, x = some value ∧ checkWidth path band value = .ok width),
    ("channel", Anything), ("tx_power", Anything)]

theorem radio_of_validateRadio {caps : Capabilities} {country rid : String} {a a' : Obj} {w w' : List String}
    {u : Unit} (h : validateRadio caps country () rid a w = .ok (u, a', w')) : RadioFields a' := by
  unfold validateRadio at h
  obtain ⟨_, a₁, w₁, -, h⟩ := bind_eq_ok.mp h
  have hrest := field_then widthFacts (fun band => ?_) (fun band => by simp [widthFacts]) h
  · obtain ⟨x, band, hband, hok, hfacts⟩ := hrest
    obtain ⟨rfl, hin⟩ := vEnum_eq_ok hok
    exact ⟨band, hin, hband, hfacts _ List.mem_cons_self⟩
  · refine Checked.field (fun width => ?_) (fun x width hx => ⟨_, width, x, rfl, hx⟩) (by simp)
    refine Checked.field (fun channel => ?_) (fun _ _ _ => trivial) (by simp)
    refine Checked.field (fun _ => ?_) (fun _ _ _ => trivial) (by simp)
    refine Checked.quiet (Quiet.raiseIf _ _) fun _ => ?_
    refine Checked.quiet (Quiet.get _) fun bitmap => ?_
    refine Checked.quiet (Quiet.when (Quiet.lift _)) fun _ => ?_
    cases Dict.lookup rid caps.radios with
    | none => exact Checked.pure _
    | some cap =>
      refine Checked.quiet (Quiet.when (Quiet.warn _)) fun _ => ?_
      cases channel with
      | none => exact Checked.pure _
      | some c => exact Checked.of_quiet (Quiet.lift _)

/-- What validation leaves of the keys of `wifi` that it writes. -/
def wifiFacts : Facts :=
  [("country", Anything),
    ("radios", fun x => ∃ o, x = some (.obj o) ∧ ∀ e ∈ o, ∃ r, e.2 = .obj r ∧ RadioFields r),
    ("regulatory", Anything), ("channel_optimisation", Anything), ("mlds", Anything), ("networks", Anything)]

theorem checked_put (k : String) (v : Json) : Checked [(k, Anything)] (put k v) := by
  refine checked_anything fun a w b a' w' h j hj => ?_
  simp only [put, Except.ok.injEq, Prod.mk.injEq] at h
  obtain ⟨-, rfl, -⟩ := h
  exact Dict.lookup_set_of_ne hj v a

theorem checked_validateMlds (caps : Capabilities) :
    Checked [("mlds", Anything), ("networks", Anything)] (validateMlds caps) := by
  unfold validateMlds
  refine Checked.quiet (Quiet.get _) fun radios => ?_
  refine Checked.quiet (Quiet.get _) fun networks => ?_
  exact Checked.bind (checked_within "mlds" _ _ _) (fun s => checked_put "networks" _) (by simp)

theorem checked_validateWifi (caps : Capabilities) (cfg : Obj) : Checked wifiFacts (validateWifi caps cfg) := by
  unfold validateWifi wifiFacts
  refine Checked.setdefault (fun country => ?_) (fun _ _ _ _ _ => trivial) (by simp)
  refine Checked.quiet (Quiet.raiseIf _ _) fun _ => ?_
  refine Checked.within (fun a w b a' w' h => ?_) (fun _ => ?_) (by simp)
  · have hone : ∀ (s : Unit) k a w s' a' w', validateRadio caps (pyStr country) s k a w = .ok (s', a', w') →
        RadioFields a' := fun s k a w s' a' w' hk => radio_of_validateRadio hk
    exact (eachEntry_post hone a h).2
  · refine Checked.quiet Quiet.self fun wifi => ?_
    refine Checked.absorb (checked_within "networks" _ _ _) (fun _ => ?_) (by simp)
    refine Checked.bind (checked_within "regulatory" _ _ _) (fun _ => ?_) (by simp)
    refine Checked.quiet (Quiet.get _) fun radios => ?_
    refine Checked.quiet (Quiet.warnings _) fun _ => ?_
    exact Checked.bind (checked_within "channel_optimisation" _ _ _) (fun _ => checked_validateMlds caps) (by simp)

/-- The radios of an accepted document. -/
theorem radios_of_validate {caps : Capabilities} {cfg t : Obj} {w : List String}
    (h : validate caps cfg = .ok (t, w)) : ∃ wifi radios, Dict.lookup "wifi" t = some (.obj wifi) ∧
      Dict.lookup "radios" wifi = some (.obj radios) ∧ ∀ e ∈ radios, ∃ r, e.2 = .obj r ∧ RadioFields r := by
  obtain ⟨m, _, wifi, _, _, -, hwifi, hl, -, -⟩ :=
    section_of_validate h [_, _, _, _, _, _, _, _, _, _, _] _ _ rfl
  obtain ⟨radios, hradios, hall⟩ := (checked_validateWifi caps m).fact hwifi (.tail _ (.head _))
  exact ⟨wifi, radios, hl, hradios, hall⟩

/-! ### The security of an SSID -/

def pmfModes : List String := ["disabled", "optional", "required"]

/-- The security of an accepted SSID; `six`: it is on 6 GHz. -/
structure SecurityFields (six : Prop) (security : Obj) : Prop where
  mode : OneOf securityModes (Dict.lookup "mode" security)
  pmf : OneOf pmfModes (Dict.lookup "pmf" security)
  sixMode : six → OneOf ["wpa3", "wpa3-enterprise", "open"] (Dict.lookup "mode" security)
  sixOwe : six → Dict.lookup "mode" security = some (.str "open") →
    ((Dict.lookup "owe" security).getD .null).truthy = true
  sixPmf : six → Dict.lookup "pmf" security = some (.str "required")

/-- The rules of 6 GHz: they look at the mode, and force PMF. -/
theorem sixGhz_eq_ok {bands : List String} {mode pmf wnid base : String} {a a' : Obj} {w w' : List String}
    {u : Unit} (h : EditM.when (bands.contains "6g") (do
      raiseIf (!(["wpa3", "wpa3-enterprise", "open"].contains mode))
        (.validation (base ++ ".security.mode")
          ("6 GHz requires WPA3 or OWE; '" ++ mode ++ "' is not permitted on 6 GHz"))
      let owe ← EditM.get "owe"
      raiseIf (mode = "open" ∧ !owe.truthy) (.validation (base ++ ".security.owe")
        "6 GHz open networks must use OWE (enhanced open)")
      EditM.when (pmf ≠ "required") do
        put "pmf" (.str "required")
        warn (wnid ++ ": PMF forced to required because 6 GHz is enabled")) a w = .ok (u, a', w')) :
    (bands.contains "6g" = true → mode ∈ ["wpa3", "wpa3-enterprise", "open"] ∧
      (mode = "open" → ((Dict.lookup "owe" a).getD .null).truthy = true)) ∧
      a' = if bands.contains "6g" ∧ pmf ≠ "required" then Dict.set "pmf" (.str "required") a else a := by
  by_cases hsix : bands.contains "6g" = true
  · unfold EditM.when at h
    rw [if_pos hsix] at h
    obtain ⟨_, a₁, w₁, hraise, h⟩ := bind_eq_ok.mp h
    obtain ⟨owe, a₂, w₂, hget, h⟩ := bind_eq_ok.mp h
    obtain ⟨_, a₃, w₃, hopen, h⟩ := bind_eq_ok.mp h
    obtain ⟨hmode, h₁⟩ := raiseIf_eq_ok hraise
    obtain ⟨howe, h₂⟩ := get_eq_ok hget
    obtain ⟨hopen, h₃⟩ := raiseIf_eq_ok hopen
    have hsame : a₃ = a := by rw [h₃, h₂, h₁]
    rw [h₁] at howe
    rw [hsame] at h
    refine ⟨fun _ => ⟨?_, fun hm => ?_⟩, ?_⟩
    · rw [Bool.not_eq_false'] at hmode
      exact List.contains_iff_mem.mp hmode
    · rw [← howe]
      simpa [hm] using hopen
    · by_cases hpmf : pmf ≠ "required"
      · rw [if_pos hpmf] at h
        obtain ⟨_, a₄, w₄, hput, hwarn⟩ := bind_eq_ok.mp h
        rw [if_pos ⟨hsix, hpmf⟩, ← put_eq_ok hput]
        exact Quiet.warn _ _ _ _ _ _ hwarn
      · rw [if_neg hpmf] at h
        rw [if_neg fun hc => hpmf hc.2]
        exact Quiet.pure () _ _ _ _ _ h
  · unfold EditM.when at h
    rw [if_neg hsix] at h
    refine ⟨fun hc => absurd hc hsix, ?_⟩
    rw [if_neg fun hc => hsix hc.1]
    exact Quiet.pure () _ _ _ _ _ h

theorem security_of_validateSecurity {radius : Json} {wnid base : String} {bands : List String} {a a' : Obj}
    {w w' : List String} {r : Bool} (h : validateSecurity radius wnid base bands a w = .ok (r, a', w')) :
    SecurityFields (bands.contains "6g" = true) a' := by
  unfold validateSecurity at h
  obtain ⟨mode, a₁, w₁, hmode, h⟩ := bind_eq_ok.mp h
  obtain ⟨pmf, a₂, w₂, hpmf, h⟩ := bind_eq_ok.mp h
  obtain ⟨passphrase, a₃, w₃, hget, h⟩ := bind_eq_ok.mp h
  obtain ⟨_, a₄, w₄, hpsk, h⟩ := bind_eq_ok.mp h
  obtain ⟨profile, a₅, w₅, hget', h⟩ := bind_eq_ok.mp h
  obtain ⟨_, a₆, w₆, hprofile, h⟩ := bind_eq_ok.mp h
  obtain ⟨_, a₇, w₇, hsix, h⟩ := bind_eq_ok.mp h
  obtain ⟨_, a₈, w₈, hsae, h⟩ := bind_eq_ok.mp h
  obtain ⟨_, a₉, w₉, hppsk, h⟩ := bind_eq_ok.mp h
  obtain ⟨_, a₁₀, w₁₀, hclog, h⟩ := bind_eq_ok.mp h
  obtain ⟨_, a₁₁, w₁₁, hsync, h⟩ := bind_eq_ok.mp h
  -- the fields after the rules of 6 GHz are other ones
  have hframe : ∀ k, k ≠ "sae_sync" → k ≠ "sae_anti_clogging_threshold" → k ≠ "private_preshared_keys" →
      Dict.lookup k a' = Dict.lookup k a₈ := by
    intro k hk₁ hk₂ hk₃
    rw [← (pure_eq_ok.mp h).2.1, (field_eq_ok hsync).2, Dict.lookup_setdefault_of_ne hk₁, (field_eq_ok hclog).2,
      Dict.lookup_setdefault_of_ne hk₂, (field_eq_ok hppsk).2, Dict.lookup_setdefault_of_ne hk₃]
  obtain ⟨hm, h₁⟩ := field_eq_ok hmode
  obtain ⟨hp, h₂⟩ := field_eq_ok hpmf
  obtain ⟨-, h₃⟩ := get_eq_ok hget
  have h₄ : a₄ = a₃ := Quiet.when (Quiet.lift _) _ _ _ _ _ hpsk
  obtain ⟨-, h₅⟩ := get_eq_ok hget'
  have h₆ : a₆ = a₅ := Quiet.when (Quiet.lift _) _ _ _ _ _ hprofile
  obtain ⟨hrules, h₇⟩ := sixGhz_eq_ok hsix
  obtain ⟨-, h₈⟩ := raiseIf_eq_ok hsae
  have hkept : a₆ = a₂ := by rw [h₆, h₅, h₄, h₃]
  obtain ⟨hmode', hmodes⟩ := vEnum_eq_ok hm
  obtain ⟨hpmf', hpmfs⟩ := vEnum_eq_ok hp
  have hmode₂ : Dict.lookup "mode" a₂ = some (.str mode) := by
    rw [h₂, Dict.lookup_setdefault_of_ne (by decide), h₁, Dict.lookup_setdefault_self, hmode']
  have hpmf₂ : Dict.lookup "pmf" a₂ = some (.str pmf) := by
    rw [h₂, Dict.lookup_setdefault_self, hpmf']
  rw [hkept] at hrules h₇
  have hother : ∀ k, k ≠ "pmf" → Dict.lookup k a₈ = Dict.lookup k a₂ := by
    intro k hk
    rw [h₈, h₇]
    split
    · exact Dict.lookup_set_of_ne hk _ _
    · rfl
  have hlook : Dict.lookup "mode" a' = some (.str mode) := by
    rw [hframe "mode" (by decide) (by decide) (by decide), hother "mode" (by decide)]
    exact hmode₂
  have howe : Dict.lookup "owe" a' = Dict.lookup "owe" a₂ := by
    rw [hframe "owe" (by decide) (by decide) (by decide), hother "owe" (by decide)]
  have hpmf₈ : Dict.lookup "pmf" a' = some (.str (if bands.contains "6g" then "required" else pmf)) := by
    rw [hframe "pmf" (by decide) (by decide) (by decide), h₈, h₇]
    by_cases hsix : bands.contains "6g" = true
    · by_cases hreq : pmf ≠ "required"
      · rw [if_pos ⟨hsix, hreq⟩, if_pos hsix, Dict.lookup_set_self]
      · rw [if_neg fun hc => hreq hc.2, if_pos hsix, hpmf₂, not_not.mp hreq]
    · rw [if_neg fun hc => hsix hc.1, if_neg hsix, hpmf₂]
  refine ⟨⟨mode, hmodes, hlook⟩, ?_, fun hsix => ⟨mode, (hrules hsix).1, hlook⟩, fun hsix hopen => ?_,
    fun hsix => ?_⟩
  · refine ⟨_, ?_, hpmf₈⟩
    split
    · decide
    · exact hpmfs
  · rw [hlook] at hopen
    rw [howe]
    exact (hrules hsix).2 (Json.str.inj (Option.some.inj hopen))
  · rw [hpmf₈, if_pos hsix]

/-! ### An SSID -/

/-- The bands and the security of an accepted SSID. -/
def SsidFields (o : Obj) : Prop :=
  ∃ (bands : List String) (security : Obj), Dict.lookup "bands" o = some (.arr (bands.map .str)) ∧
    Dict.lookup "security" o = some (.obj security) ∧ SecurityFields (bands.contains "6g" = true) security

theorem checkBands_eq_ok {base : String} {value : Json} {bands : List String}
    (h : checkBands base value = .ok bands) : value = .arr (bands.map .str) := by
  unfold checkBands at h
  obtain ⟨xs, hxs, h⟩ := except_bind_eq_ok.mp h
  cases value with
  | arr ys =>
    obtain rfl : ys = xs := Except.ok.inj hxs
    split at h
    · cases h
    · obtain ⟨u, hall, h⟩ := except_bind_eq_ok.mp h
      have hstr : ∀ y ∈ ys, ∃ p, y = .str p ∧ True := by
        unfold eachChecked at hall
        obtain ⟨zs, hzs, hall⟩ := except_bind_eq_ok.mp hall
        obtain rfl : ys = zs := Except.ok.inj hzs
        intro y hy
        obtain ⟨j, hj⟩ := each_eq_ok hall y hy
        simp only at hj
        generalize hc : vEnum y _ _ = r at hj
        cases r with
        | error e => simp [Except.map] at hj
        | ok r => exact ⟨r, (vEnum_eq_ok hc).1, trivial⟩
      obtain ⟨ps, rfl, -⟩ := strings_of_forall hstr
      obtain rfl := Except.ok.inj h
      congr 1
      rw [List.filterMap_map]
      congr 1
      exact (List.filterMap_some).symm
  | _ => simp [needArr] at hxs

/-- What the checks after the bands leave of an SSID. -/
def ssidFacts (bands : List String) : Facts :=
  ("security", fun x => ∃ o, x = some (.obj o) ∧ SecurityFields (bands.contains "6g" = true) o) ::
    ["fast_roaming", "bss_transition", "neighbor_report", "application", "broadcasting_aps", "advanced_mode",
      "minimum_data_rate", "multicast_filtering", "multicast_broadcast_blocker", "multicast_to_unicast", "mlo",
      "band_steering", "proxy_arp", "uapsd", "mac_filter", "radius_mac_auth", "speed_limit", "auto_dtim",
      "dtim_period", "group_rekey_interval", "group_rekey_seconds", "show_ap_name_in_beacon",
      "blackout_schedule", "mac_filter_list", "mac_filter_policy", "bandwidth"].map fun k => (k, Anything)

theorem quiet_warnOf (text : Option String) : Quiet (warnOf text) := by
  cases text with
  | none => exact Quiet.pure ()
  | some text => exact Quiet.warn text

theorem network_of_validateWirelessNetwork {caps : Capabilities} {cfg wifi : Obj} {wnid : String} {a a' : Obj}
    {w w' : List String} {u : Unit}
    (h : validateWirelessNetwork caps cfg wifi () wnid a w = .ok (u, a', w')) : SsidFields a' := by
  unfold validateWirelessNetwork at h
  obtain ⟨_, a₁, w₁, -, h⟩ := bind_eq_ok.mp h
  obtain ⟨_, a₂, w₂, -, h⟩ := bind_eq_ok.mp h
  obtain ⟨_, a₃, w₃, -, h⟩ := bind_eq_ok.mp h
  obtain ⟨_, a₄, w₄, -, h⟩ := bind_eq_ok.mp h
  obtain ⟨_, a₅, w₅, -, h⟩ := bind_eq_ok.mp h
  obtain ⟨_, a₆, w₆, -, h⟩ := bind_eq_ok.mp h
  obtain ⟨_, a₇, w₇, -, h⟩ := bind_eq_ok.mp h
  obtain ⟨_, a₈, w₈, -, h⟩ := bind_eq_ok.mp h
  obtain ⟨_, a₉, w₉, -, h⟩ := bind_eq_ok.mp h
  have hrest := field_then ssidFacts (fun bands => ?_) (fun bands => by simp [ssidFacts]) h
  · obtain ⟨x, bands, hbands, hok, hfacts⟩ := hrest
    obtain ⟨security, hsecurity, hfields⟩ := hfacts _ List.mem_cons_self
    rw [checkBands_eq_ok hok] at hbands
    exact ⟨bands, security, hbands, hsecurity, hfields⟩
  · refine Checked.quiet (quiet_warnOf _) fun _ => ?_
    refine Checked.quiet (Quiet.get _) fun mlo => ?_
    refine Checked.quiet ?_ fun _ => ?_
    · refine Quiet.when (Quiet.bind (Quiet.lift _) fun bound => Quiet.when (Quiet.warn _))
    refine Checked.within (fun a w b a' w' hs => security_of_validateSecurity hs) (fun profile => ?_) (by simp)
    refine Checked.field (fun _ => ?_) (fun _ _ _ => trivial) (by simp)
    refine Checked.field (fun _ => ?_) (fun _ _ _ => trivial) (by simp)
    refine Checked.field (fun _ => ?_) (fun _ _ _ => trivial) (by simp)
    refine Checked.field (fun _ => ?_) (fun _ _ _ => trivial) (by simp)
    refine Checked.field (fun _ => ?_) (fun _ _ _ => trivial) (by simp)
    refine Checked.field (fun _ => ?_) (fun _ _ _ => trivial) (by simp)
    refine Checked.field (fun _ => ?_) (fun _ _ _ => trivial) (by simp)
    refine Checked.field (fun _ => ?_) (fun _ _ _ => trivial) (by simp)
    refine Checked.field (fun _ => ?_) (fun _ _ _ => trivial) (by simp)
    refine Checked.field (fun _ => ?_) (fun _ _ _ => trivial) (by simp)
    refine Checked.field (fun mlo => ?_) (fun _ _ _ => trivial) (by simp)
    refine Checked.quiet (Quiet.raiseIf _ _) fun _ => ?_
    refine Checked.quiet (Quiet.raiseIf _ _) fun _ => ?_
    refine Checked.field (fun _ => ?_) (fun _ _ _ => trivial) (by simp)
    refine Checked.field (fun _ => ?_) (fun _ _ _ => trivial) (by simp)
    refine Checked.field (fun _ => ?_) (fun _ _ _ => trivial) (by simp)
    refine Checked.field (fun _ => ?_) (fun _ _ _ => trivial) (by simp)
    refine Checked.field (fun macAuth => ?_) (fun _ _ _ => trivial) (by simp)
    refine Checked.quiet (Quiet.raiseIf _ _) fun _ => ?_
    refine Checked.field (fun _ => ?_) (fun _ _ _ => trivial) (by simp)
    refine Checked.field (fun _ => ?_) (fun _ _ _ => trivial) (by simp)
    refine Checked.field (fun _ => ?_) (fun _ _ _ => trivial) (by simp)
    refine Checked.field (fun _ => ?_) (fun _ _ _ => trivial) (by simp)
    refine Checked.field (fun _ => ?_) (fun _ _ _ => trivial) (by simp)
    refine Checked.field (fun _ => ?_) (fun _ _ _ => trivial) (by simp)
    refine Checked.bind (checked_within "blackout_schedule" _ _ _) (fun _ => ?_) (by simp)
    refine Checked.field (fun _ => ?_) (fun _ _ _ => trivial) (by simp)
    refine Checked.field (fun _ => ?_) (fun _ _ _ => trivial) (by simp)
    refine Checked.quiet (Quiet.get _) fun minRssi => ?_
    refine Checked.quiet (Quiet.when (Quiet.lift _)) fun _ => ?_
    exact checked_within "bandwidth" _ _ _

/-! ### MLDs -/

/-- WPA3 with protected management frames. -/
def StrongSsid (o : Obj) : Prop :=
  ∃ security, Dict.lookup "security" o = some (.obj security) ∧
    OneOf ["wpa3", "wpa3-enterprise"] (Dict.lookup "mode" security) ∧
    Dict.lookup "pmf" security = some (.str "required")

/-- Every SSID has passed its checks. -/
def AllSsids (networks : Obj) : Prop := ∀ e ∈ networks, ∃ o, e.2 = .obj o ∧ SsidFields o

/-- An SSID that an enabled MLD can serve. -/
def Served (networks : Obj) (wnid : String) : Prop :=
  ∃ o, Dict.lookup wnid networks = some (.obj o) ∧ StrongSsid o

/-- An MLD among the networks it was checked with. -/
def MldFields (networks m : Obj) : Prop :=
  ∃ enabled wnid, Dict.lookup "enabled" m = some (.bool enabled) ∧
    Dict.lookup "wireless_network" m = some (.str wnid) ∧ (enabled = true → Served networks wnid)

theorem requirePmf_eq_ok {mid base wnid : String} {wnet wnet' : Obj} {w w' : List String}
    (h : requirePmf mid base wnid wnet w = .ok (wnet', w')) (hf : SsidFields wnet) :
    SsidFields wnet' ∧ StrongSsid wnet' := by
  obtain ⟨bands, security, hbands, hsecurity, hfields⟩ := hf
  have hentries : ((Dict.lookup "security" wnet).getD (.obj [])).entries = security := by
    rw [hsecurity]
    rfl
  unfold requirePmf at h
  dsimp only at h
  rw [hentries] at h
  by_cases hmode : (Dict.lookup "mode" security).getD .null ≠ .str "wpa3" ∧
      (Dict.lookup "mode" security).getD .null ≠ .str "wpa3-enterprise"
  · rw [if_pos hmode] at h
    cases h
  · rw [if_neg hmode] at h
    have hwpa3 : OneOf ["wpa3", "wpa3-enterprise"] (Dict.lookup "mode" security) := by
      obtain ⟨mode, -, hlook⟩ := hfields.mode
      rw [hlook] at hmode ⊢
      simp only [Option.getD_some, ne_eq, Json.str.injEq] at hmode
      refine ⟨mode, ?_, rfl⟩
      simp only [List.mem_cons, List.not_mem_nil, or_false]
      tauto
    by_cases hreq : (Dict.lookup "pmf" security).getD .null ≠ .str "required"
    · -- PMF is forced
      rw [if_pos hreq] at h
      obtain ⟨rfl, -⟩ := Prod.mk.inj (Except.ok.inj h)
      have hother : ∀ k, k ≠ "pmf" → Dict.lookup k (Dict.set "pmf" (.str "required") security) =
          Dict.lookup k security := fun k hk => Dict.lookup_set_of_ne hk _ _
      have hpmf : Dict.lookup "pmf" (Dict.set "pmf" (.str "required") security) = some (.str "required") :=
        Dict.lookup_set_self _ _ _
      have hnew : SecurityFields (bands.contains "6g" = true) (Dict.set "pmf" (.str "required") security) := by
        refine ⟨?_, ⟨"required", by decide, hpmf⟩, ?_, ?_, fun _ => hpmf⟩
        · rw [hother "mode" (by decide)]
          exact hfields.mode
        · rw [hother "mode" (by decide)]
          exact hfields.sixMode
        · rw [hother "mode" (by decide), hother "owe" (by decide)]
          exact hfields.sixOwe
      refine ⟨⟨bands, _, ?_, Dict.lookup_set_self _ _ _, hnew⟩, _, Dict.lookup_set_self _ _ _, ?_, hpmf⟩
      · rw [Dict.lookup_set_of_ne (by decide)]
        exact hbands
      · rw [hother "mode" (by decide)]
        exact hwpa3
    · rw [if_neg hreq] at h
      obtain ⟨rfl, -⟩ := Prod.mk.inj (Except.ok.inj h)
      refine ⟨⟨bands, security, hbands, hsecurity, hfields⟩, security, hsecurity, hwpa3, ?_⟩
      obtain ⟨pmf, -, hlook⟩ := hfields.pmf
      rw [hlook] at hreq ⊢
      exact congrArg some (not_not.mp hreq)

theorem served_set {networks : Obj} {wnid v : String} {o : Obj} (ho : StrongSsid o)
    (h : Served networks v) : Served (Dict.set wnid (.obj o) networks) v := by
  by_cases hv : v = wnid
  · rw [hv]
    exact ⟨o, Dict.lookup_set_self _ _ _, ho⟩
  · obtain ⟨o', hlook, hstrong⟩ := h
    exact ⟨o', (Dict.lookup_set_of_ne hv _ _).trans hlook, hstrong⟩

theorem allSsids_set {networks : Obj} {wnid : String} {o : Obj} (h : AllSsids networks) (ho : SsidFields o) :
    AllSsids (Dict.set wnid (.obj o) networks) := by
  intro e he
  rcases Dict.mem_set he with rfl | he
  · exact ⟨o, rfl, ho⟩
  · exact h e he

theorem mldNetwork_eq_ok {networks : Obj} {base wnid : String} {value : Json} {wnet : Obj}
    (h : mldNetwork networks base value = .ok (wnid, wnet)) :
    value = .str wnid ∧ ∃ v, Dict.lookup wnid networks = some v ∧ wnet = v.entries := by
  unfold mldNetwork at h
  cases value with
  | str s =>
    simp only at h
    cases hl : Dict.lookup s networks with
    | none =>
      rw [hl] at h
      cases h
    | some v =>
      rw [hl] at h
      obtain ⟨rfl, rfl⟩ := Prod.mk.inj (Except.ok.inj h)
      exact ⟨rfl, v, hl, rfl⟩
  | _ => cases h

/-- One MLD: the SSIDs stay good, those that were served stay served, and so is its own. -/
theorem mld_of_validateMld {known : Dict String (Json × Json)} {s s' : Claims × Obj} {mid : String}
    {a a' : Obj} {w w' : List String} (h : validateMld known s mid a w = .ok (s', a', w'))
    (hall : AllSsids s.2) :
    AllSsids s'.2 ∧ (∀ v, Served s.2 v → Served s'.2 v) ∧ MldFields s'.2 a' := by
  unfold validateMld at h
  obtain ⟨_, a₁, w₁, hid, h⟩ := bind_eq_ok.mp h
  obtain ⟨_, a₂, w₂, hname, h⟩ := bind_eq_ok.mp h
  obtain ⟨enabled, a₃, w₃, henabled, h⟩ := bind_eq_ok.mp h
  obtain ⟨named, a₄, w₄, hnamed, h⟩ := bind_eq_ok.mp h
  obtain ⟨⟨wnid, wnet⟩, a₅, w₅, hnet, h⟩ := bind_eq_ok.mp h
  obtain ⟨links, a₆, w₆, hlinks, h⟩ := bind_eq_ok.mp h
  obtain ⟨_, a₇, w₇, hfew, h⟩ := bind_eq_ok.mp h
  obtain ⟨_, a₈, w₈, hdup, h⟩ := bind_eq_ok.mp h
  obtain ⟨_, a₉, w₉, htwice, h⟩ := bind_eq_ok.mp h
  obtain ⟨⟨claimed, ws⟩, a₁₀, w₁₀, hcheck, h⟩ := bind_eq_ok.mp h
  obtain ⟨_, a₁₁, w₁₁, hwarn, h⟩ := bind_eq_ok.mp h
  obtain ⟨wnet', a₁₂, w₁₂, hpmf, h⟩ := bind_eq_ok.mp h
  obtain ⟨_, a₁₃, w₁₃, hmac, h⟩ := bind_eq_ok.mp h
  obtain ⟨_, a₁₄, w₁₄, hsteer, h⟩ := bind_eq_ok.mp h
  obtain ⟨hs', h₁₄, -⟩ := pure_eq_ok.mp h
  -- what the steps leave of the MLD itself
  have h₁ : a₁ = a := Quiet.lift _ _ _ _ _ _ hid
  obtain ⟨-, h₂⟩ := field_eq_ok hname
  obtain ⟨hflag, h₃⟩ := field_eq_ok henabled
  obtain ⟨hget, h₄⟩ := get_eq_ok hnamed
  obtain ⟨hok, h₅, -⟩ := lift_eq_ok.mp hnet
  obtain ⟨-, h₆⟩ := field_eq_ok hlinks
  obtain ⟨-, h₇⟩ := raiseIf_eq_ok hfew
  have h₈ : a₈ = a₇ := Quiet.lift _ _ _ _ _ _ hdup
  obtain ⟨-, h₉⟩ := raiseIf_eq_ok htwice
  have h₁₀ : a₁₀ = a₉ := Quiet.lift _ _ _ _ _ _ hcheck
  have h₁₁ : a₁₁ = a₁₀ := Quiet.warnings (fun _ => ws) _ _ _ _ _ hwarn
  have h₁₃ : a₁₃ = a₁₂ := quiet_ifSet _ _ _ _ _ _ _ hmac
  obtain ⟨-, h₁₄'⟩ := field_eq_ok hsteer
  obtain ⟨hvalue, v, hlook, hwnet⟩ := mldNetwork_eq_ok hok
  obtain ⟨o, rfl, ho⟩ := hall _ (Dict.mem_of_lookup hlook)
  rw [Json.entries_obj] at hwnet
  have hrun : a₁₂ = a₁₁ ∧ (enabled = true → SsidFields wnet' ∧ StrongSsid wnet') := by
    rcases ite_eq_ok hpmf with ⟨-, hr⟩ | ⟨hoff, hr⟩
    · cases hreq : requirePmf mid ("wifi.mlds." ++ mid) wnid wnet w₁₁ with
      | error e => simp [hreq, Except.map] at hr
      | ok r =>
        simp only [hreq, Except.map, Except.ok.injEq, Prod.mk.injEq] at hr
        obtain ⟨rfl, rfl, -⟩ := hr
        exact ⟨rfl, fun _ => requirePmf_eq_ok hreq (hwnet ▸ ho)⟩
    · exact ⟨(pure_eq_ok.mp hr).2.1.symm, fun hc => absurd hc hoff⟩
  have hlast : ∀ k, k ≠ "link_steering" → k ≠ "links" → Dict.lookup k a' = Dict.lookup k a₄ := by
    intro k hk₁ hk₂
    rw [← h₁₄, h₁₄', Dict.lookup_setdefault_of_ne hk₁, h₁₃, hrun.1, h₁₁, h₁₀, h₉, h₈, h₇, h₆,
      Dict.lookup_setdefault_of_ne hk₂, ← h₅]
  have henabled' : Dict.lookup "enabled" a' = some (.bool enabled) := by
    rw [hlast "enabled" (by decide) (by decide), h₄, h₃, Dict.lookup_setdefault_self]
    exact congrArg some (vBool_eq_ok hflag)
  have hwireless : Dict.lookup "wireless_network" a' = some (.str wnid) := by
    rw [hlast "wireless_network" (by decide) (by decide), h₄]
    rw [hvalue] at hget
    cases hl : Dict.lookup "wireless_network" a₃ with
    | none =>
      rw [hl] at hget
      cases hget
    | some x =>
      rw [hl] at hget
      exact congrArg some hget.symm
  rw [← hs']
  by_cases hon : enabled = true
  · obtain ⟨hfields, hstrong⟩ := hrun.2 hon
    rw [if_pos hon]
    exact ⟨allSsids_set hall hfields, fun v hv => served_set hstrong hv,
      enabled, wnid, henabled', hwireless, fun _ => ⟨wnet', Dict.lookup_set_self _ _ _, hstrong⟩⟩
  · rw [if_neg hon]
    exact ⟨hall, fun v hv => hv, enabled, wnid, henabled', hwireless, fun hc => absurd hc hon⟩

/-- The loop over the MLDs. -/
theorem mlds_of_eachEntry {known : Dict String (Json × Json)} {bad : String → Exn} : ∀ {mlds mlds' : Obj}
    {s s' : Claims × Obj} {w w' : List String},
    eachEntry bad (validateMld known) s mlds w = .ok (s', mlds', w') → AllSsids s.2 →
    AllSsids s'.2 ∧ (∀ v, Served s.2 v → Served s'.2 v) ∧
      ∀ e ∈ mlds', ∃ m, e.2 = .obj m ∧ MldFields s'.2 m
  | [], mlds', s, s', w, w', h, hall => by
    simp only [eachEntry, Except.ok.injEq, Prod.mk.injEq] at h
    obtain ⟨rfl, rfl, -⟩ := h
    exact ⟨hall, fun v hv => hv, by simp⟩
  | (k, .obj o) :: rest, mlds', s, s', w, w', h, hall => by
    obtain ⟨s₁, o', w₁, hone, s₂, rest', w₂, hrest, rfl, rfl, rfl⟩ := eachEntry_cons_eq_ok.mp h
    obtain ⟨hall₁, hserved₁, enabled, wnid, henabled, hwireless, hown⟩ := mld_of_validateMld hone hall
    obtain ⟨hall₂, hserved₂, hmlds⟩ := mlds_of_eachEntry hrest hall₁
    refine ⟨hall₂, fun v hv => hserved₂ v (hserved₁ v hv), fun e he => ?_⟩
    rcases List.mem_cons.mp he with rfl | he
    · exact ⟨o', rfl, enabled, wnid, henabled, hwireless, fun hon => hserved₂ _ (hown hon)⟩
    · exact hmlds e he
  | (k, .null) :: rest, _, _, _, _, _, h, _ => by simp [eachEntry] at h
  | (k, .bool _) :: rest, _, _, _, _, _, h, _ => by simp [eachEntry] at h
  | (k, .int _) :: rest, _, _, _, _, _, h, _ => by simp [eachEntry] at h
  | (k, .float _) :: rest, _, _, _, _, _, h, _ => by simp [eachEntry] at h
  | (k, .str _) :: rest, _, _, _, _, _, h, _ => by simp [eachEntry] at h
  | (k, .arr _) :: rest, _, _, _, _, _, h, _ => by simp [eachEntry] at h

theorem mlds_of_validateMlds {caps : Capabilities} {a a' : Obj} {w w' : List String} {u : Unit}
    (h : validateMlds caps a w = .ok (u, a', w'))
    (hnets : ∃ networks, Dict.lookup "networks" a = some (.obj networks) ∧ AllSsids networks) :
    ∃ networks mlds, Dict.lookup "networks" a' = some (.obj networks) ∧ AllSsids networks ∧
      Dict.lookup "mlds" a' = some (.obj mlds) ∧ ∀ e ∈ mlds, ∃ m, e.2 = .obj m ∧ MldFields networks m := by
  obtain ⟨networks, hlook, hall⟩ := hnets
  unfold validateMlds at h
  obtain ⟨radios, a₁, w₁, hradios, h⟩ := bind_eq_ok.mp h
  obtain ⟨nets, a₂, w₂, hget, h⟩ := bind_eq_ok.mp h
  obtain ⟨s, a₃, w₃, hwithin, h⟩ := bind_eq_ok.mp h
  obtain ⟨-, h₁⟩ := get_eq_ok hradios
  obtain ⟨hnets, h₂⟩ := get_eq_ok hget
  have h₃ := put_eq_ok h
  rw [h₁, hlook] at hnets
  obtain ⟨mlds, mlds', -, hloop, h₄⟩ := within_eq_ok.mp hwithin
  have hstart : AllSsids nets.entries := by
    rw [hnets]
    exact hall
  obtain ⟨hall', -, hmlds⟩ := mlds_of_eachEntry hloop hstart
  refine ⟨s.2, mlds', ?_, hall', ?_, hmlds⟩
  · rw [h₃]
    exact Dict.lookup_set_self _ _ _
  · rw [h₃, Dict.lookup_set_of_ne (by decide), h₄]
    exact Dict.lookup_set_self _ _ _

theorem mlds_of_validateWifi {caps : Capabilities} {cfg a a' : Obj} {w w' : List String} {u : Unit}
    (h : validateWifi caps cfg a w = .ok (u, a', w')) :
    ∃ networks mlds, Dict.lookup "networks" a' = some (.obj networks) ∧ AllSsids networks ∧
      Dict.lookup "mlds" a' = some (.obj mlds) ∧ ∀ e ∈ mlds, ∃ m, e.2 = .obj m ∧ MldFields networks m := by
  unfold validateWifi at h
  obtain ⟨country, a₁, w₁, -, h⟩ := bind_eq_ok.mp h
  obtain ⟨_, a₂, w₂, -, h⟩ := bind_eq_ok.mp h
  obtain ⟨_, a₃, w₃, -, h⟩ := bind_eq_ok.mp h
  obtain ⟨wifi, a₄, w₄, -, h⟩ := bind_eq_ok.mp h
  obtain ⟨_, a₅, w₅, hnetworks, h⟩ := bind_eq_ok.mp h
  obtain ⟨_, a₆, w₆, hregulatory, h⟩ := bind_eq_ok.mp h
  obtain ⟨radios, a₇, w₇, hradios, h⟩ := bind_eq_ok.mp h
  obtain ⟨_, a₈, w₈, hwarn, h⟩ := bind_eq_ok.mp h
  obtain ⟨_, a₉, w₉, hopt, h⟩ := bind_eq_ok.mp h
  obtain ⟨_, networks, -, hloop, h₅⟩ := within_eq_ok.mp hnetworks
  obtain ⟨_, _, -, -, h₆⟩ := within_eq_ok.mp hregulatory
  obtain ⟨-, h₇⟩ := get_eq_ok hradios
  have h₈ : a₈ = a₇ := Quiet.warnings (fun _ => widthWarnings radios.entries) _ _ _ _ _ hwarn
  obtain ⟨_, _, -, -, h₉⟩ := within_eq_ok.mp hopt
  have hone : ∀ (s : Unit) k a w s' a' w', validateWirelessNetwork caps cfg wifi s k a w = .ok (s', a', w') →
      SsidFields a' := fun s k a w s' a' w' hk => network_of_validateWirelessNetwork hk
  have hall : AllSsids networks := (eachEntry_post hone _ hloop).2
  refine mlds_of_validateMlds h ⟨networks, ?_, hall⟩
  rw [h₉, Dict.lookup_set_of_ne (by decide), h₈, h₇, h₆, Dict.lookup_set_of_ne (by decide), h₅]
  exact Dict.lookup_set_self _ _ _

/-- The SSIDs and the MLDs of an accepted document. -/
theorem mlds_of_validate {caps : Capabilities} {cfg t : Obj} {w : List String}
    (h : validate caps cfg = .ok (t, w)) : ∃ wifi networks mlds, Dict.lookup "wifi" t = some (.obj wifi) ∧
      Dict.lookup "networks" wifi = some (.obj networks) ∧ AllSsids networks ∧
      Dict.lookup "mlds" wifi = some (.obj mlds) ∧ ∀ e ∈ mlds, ∃ m, e.2 = .obj m ∧ MldFields networks m := by
  obtain ⟨m, _, wifi, _, _, -, hwifi, hl, -, -⟩ :=
    section_of_validate h [_, _, _, _, _, _, _, _, _, _, _] _ _ rfl
  obtain ⟨networks, mlds, hnetworks, hall, hmlds, hfields⟩ := mlds_of_validateWifi hwifi
  exact ⟨wifi, networks, mlds, hl, hnetworks, hall, hmlds, hfields⟩

end Sbegw.Schema
