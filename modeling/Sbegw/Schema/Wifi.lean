import Sbegw.Schema.Network

/-!
# Validation of the Wi-Fi section

Radios against what the hardware probe reports, the wireless networks, and the multi-link devices
that bind radios to them.
-/

namespace Sbegw.Schema

open Text EditM

/-! ### What the probe reports -/

/-- One entry of `capabilities["radios"]`. -/
structure RadioCaps where
  band : String
  widths : List ℕ
  channels : List ℤ
  eht240 : Bool
deriving DecidableEq

/-- `capabilities`; before the first probe it is empty. -/
structure Capabilities where
  radios : Dict String RadioCaps
  mloSupported : Bool
  mloReason : String
deriving DecidableEq

/-- `{}` -/
def Capabilities.empty : Capabilities := ⟨[], false, ""⟩

/-! ### Channels that a width bonds -/

/-- `_5G_BLOCKS` -/
def blocks5g : ℕ → List (List ℤ)
  | 40 => [[36, 40], [44, 48], [52, 56], [60, 64], [100, 104], [108, 112], [116, 120], [124, 128],
      [132, 136], [140, 144], [149, 153], [157, 161], [165, 169]]
  | 80 => [[36, 40, 44, 48], [52, 56, 60, 64], [100, 104, 108, 112], [116, 120, 124, 128],
      [132, 136, 140, 144], [149, 153, 157, 161]]
  | 160 => [[36, 40, 44, 48, 52, 56, 60, 64], [100, 104, 108, 112, 116, 120, 124, 128]]
  | 240 => [[36, 40, 44, 48, 52, 56, 60, 64, 100, 104, 108, 112],
      [100, 104, 108, 112, 116, 120, 124, 128, 132, 136, 140, 144]]
  | 320 => [[36, 40, 44, 48, 52, 56, 60, 64, 100, 104, 108, 112, 116, 120, 124, 128]]
  | _ => []

/-- `WIDTH_SUBCHANNELS.get(width, 1)` -/
def widthSubchannels : ℕ → ℕ
  | 20 => 1
  | 40 => 2
  | 80 => 4
  | 160 => 8
  | 240 => 12
  | 320 => 16
  | _ => 1

/-- `bonded_channels`; the last branch is `occupied_channels` on 6 GHz. -/
def bondedChannels (channel : ℤ) (width : ℕ) (band : String) : List ℤ :=
  if band = "2g" then
    if width ≤ 20 then [channel]
    else if channel + 4 ≤ 14 then [channel, channel + 4] else []
  else if width ≤ 20 then [channel]
  else if band = "5g" then ((blocks5g width).find? (·.contains channel)).getD []
  else
    let count : ℤ := widthSubchannels width
    let start := (channel - 1) / 4 / count * count
    let covered := (List.range (widthSubchannels width)).map fun i => start * 4 + 1 + (i : ℤ) * 4
    if covered.contains channel then covered else []

/-! ### Radios -/

/-- `width in WIDTHS`, as the width it equals. -/
def widthOf (width : Json) : Option ℕ := widths.find? fun (w : ℕ) => width.num? == some (w : ℚ)

/-- `v_int` of a value that may be `"auto"`. -/
def autoOrInt (path : String) (low high : ℤ) (value : Json) : Except Exn (Option ℤ) :=
  if value = .str "auto" then .ok none else (vInt value path low high).map some

/-- The error of a channel whose bonded block is not permitted. -/
def blockError (cap : RadioCaps) (base rid country band : String) (channel : ℤ) (width : ℕ)
    (blocked : List ℤ) : Exn :=
  let usable := cap.channels.filter fun c =>
    let block := bondedChannels c width band
    !block.isEmpty && block.all cap.channels.contains
  let needed := if blocked.isEmpty then "none" else join ", " (blocked.map ofInt)
  .validation (base ++ ".channel")
    ("channel " ++ ofInt channel ++ " cannot run " ++ ofNat width ++ " MHz on " ++ rid ++ " in " ++
      country ++ ": the block would need channel(s) " ++ needed ++
      if usable.isEmpty then ""
      else ". Usable at " ++ ofNat width ++ " MHz: " ++ join ", " (usable.map ofInt))

/-- A fixed channel against the channels the radio may use. -/
def checkChannel (cap : RadioCaps) (base rid country band : String) (channel : ℤ) (width : ℕ) :
    Except Exn Unit :=
  if cap.channels.isEmpty then .ok ()
  else if !cap.channels.contains channel then
    .error (.validation (base ++ ".channel")
      ("channel " ++ ofInt channel ++ " not permitted on " ++ rid ++ " in " ++ country))
  else if width ≤ 20 then .ok ()
  else
    let bonded := bondedChannels channel width band
    let missing := bonded.filter fun c => !cap.channels.contains c
    if bonded.isEmpty || !missing.isEmpty then
      .error (blockError cap base rid country band channel width missing)
    else .ok ()

/-- The width of a radio on its band. -/
def checkWidth (path band : String) (value : Json) : Except Exn ℕ :=
  match widthOf value with
  | none => .error (.validation path ("must be one of " ++ join ", " (widths.map ofNat)))
  | some width =>
    if width = 320 ∧ band ≠ "6g" then .error (.validation path "320 MHz is 6 GHz only")
    else if width = 240 ∧ band ≠ "5g" then .error (.validation path
      "240 MHz is a 5 GHz-only extension (320 MHz EHT with an 80 MHz puncture)")
    else if band = "2g" ∧ 40 < width then
      .error (.validation path "2.4 GHz supports 20 or 40 MHz")
    else .ok width

/-- `max(cap.get("widths") or [width])` -/
def maxWidth (cap : RadioCaps) (width : ℕ) : ℕ :=
  if cap.widths.isEmpty then width else cap.widths.foldl max 0

def validateRadio (caps : Capabilities) (country : String) (_ : Unit) (rid : String) :
    EditM Unit := do
  let base := "wifi.radios." ++ rid
  let _ ← field "enabled" (.bool true) (vBool · (base ++ ".enabled"))
  let band ← field "band" (.str "5g") (vEnum · (base ++ ".band") bandNames)
  let width ← field "channel_width" (.int (if band = "5g" then 80 else 20))
    (checkWidth (base ++ ".channel_width") band)
  let channel ← field "channel" (.str "auto") (autoOrInt (base ++ ".channel") 1 233)
  let _ ← field "tx_power" (.str "auto") (autoOrInt (base ++ ".tx_power") 1 30)
  let cap := Dict.lookup rid caps.radios
  raiseIf (width = 240 ∧ cap.any fun c => !c.eht240) (.validation (base ++ ".channel_width")
    "this radio does not report 240 MHz (EHT240) support")
  let bitmap ← get "punct_bitmap"
  when (bitmap ≠ .null)
    (lift ((autoOrInt (base ++ ".punct_bitmap") 0 0xFFFF bitmap).map fun _ => ()))
  match cap with
  | none => pure ()
  | some cap =>
    when (maxWidth cap width < width) <|
      warn ("radio " ++ rid ++ ": " ++ ofNat width ++ " MHz requested but hardware reports max " ++
        ofNat (maxWidth cap width) ++ " MHz; runtime will be lower")
    match channel with
    | none => pure ()
    | some c => lift (checkChannel cap base rid country band c width)

/-! ### Wireless networks -/

def wanUplinkWarning : String :=
  ": clients are bridged onto the WAN and addressed by the upstream gateway; this router does not " ++
  "NAT, firewall or serve DHCP for them, and they cannot reach its management interface"

/-- The bands of an SSID. -/
def checkBands (base : String) (value : Json) : Except Exn (List String) := do
  let bands ← needArr value (base ++ ".bands") "a list of bands"
  if bands.isEmpty then .error (.validation (base ++ ".bands") "select at least one band")
  eachChecked value fun i band => vEnum band s!"{base}.bands[{i}]" bandNames
  pure (bands.filterMap fun b => match b with | .str s => some s | _ => none)

/-- The sorted names of a list, each once. -/
def sortedNames (xs : List String) : List String := xs.dedup.insertionSort (· ≤ ·)

/-- The warning about bands no detected radio has. -/
def absentBandWarning (caps : Capabilities) (wnid : String) (bands : List String) :
    Option String :=
  let present := caps.radios.map fun e => e.2.band
  let absent := bands.filter fun b => !present.contains b
  if present.isEmpty || absent.isEmpty then none
  else some (wnid ++ ": no radio present for " ++ join ", " (absent.insertionSort (· ≤ ·)) ++
    " — the SSID will not come up on " ++
    (if absent.length = 1 then "that band" else "those bands") ++ " (radios detected: " ++
    join ", " (sortedNames present) ++ ")")

/-- A warning, if there is one. -/
def warnOf : Option String → EditM Unit
  | some text => warn text
  | none => pure ()

/-- `any(m.get("wireless_network") == wnid and m.get("enabled", True) for m in mlds)` -/
def boundByMld (wnid : String) : Obj → Except Exn Bool
  | [] => .ok false
  | (_, m) :: rest =>
    match m with
    | .obj kvs =>
      if (Dict.lookup "wireless_network" kvs).any (Json.pyEq (.str wnid)) ∧
          ((Dict.lookup "enabled" kvs).getD (.bool true)).truthy then .ok true
      else boundByMld wnid rest
    | _ => .error .attribute

/-- `(wifi.get("mlds") or {}).values()` -/
def mldsOf (wifi : Obj) : Except Exn Obj :=
  match (Dict.lookup "mlds" wifi).getD .null with
  | .obj kvs => .ok kvs
  | v => if v.truthy then .error .attribute else .ok []

/-- The security block of an SSID; answers whether it names a RADIUS profile. -/
def validateSecurity (radius : Json) (wnid base : String) (bands : List String) : EditM Bool := do
  let mode ← field "mode" (.str "wpa2-wpa3") (vEnum · (base ++ ".security.mode") securityModes)
  let pmf ← field "pmf" (.str "optional")
    (vEnum · (base ++ ".security.pmf") ["disabled", "optional", "required"])
  let passphrase ← get "passphrase"
  when (["wpa2", "wpa2-wpa3", "wpa3"].contains mode) <|
    lift ((vPsk passphrase (base ++ ".security.passphrase")).map fun _ => ())
  let profile ← get "radius_profile"
  when (["wpa2-enterprise", "wpa3-enterprise"].contains mode) <|
    lift (do
      if ← pyIn profile radius then pure ()
      else .error (.validation (base ++ ".security.radius_profile")
        "enterprise security needs a RADIUS profile"))
  when (bands.contains "6g") do
    raiseIf (!(["wpa3", "wpa3-enterprise", "open"].contains mode))
      (.validation (base ++ ".security.mode")
        ("6 GHz requires WPA3 or OWE; '" ++ mode ++ "' is not permitted on 6 GHz"))
    let owe ← get "owe"
    raiseIf (mode = "open" ∧ !owe.truthy) (.validation (base ++ ".security.owe")
      "6 GHz open networks must use OWE (enhanced open)")
    when (pmf ≠ "required") do
      put "pmf" (.str "required")
      warn (wnid ++ ": PMF forced to required because 6 GHz is enabled")
  raiseIf (mode = "wpa3" ∧ pmf = "disabled")
    (.validation (base ++ ".security.pmf") "WPA3/SAE requires PMF")
  let _ ← field "private_preshared_keys" (.bool false)
    (vBool · (base ++ ".security.private_preshared_keys"))
  let _ ← field "sae_anti_clogging_threshold" (.int 5)
    (vInt · (base ++ ".security.sae_anti_clogging_threshold") 1 100)
  let _ ← field "sae_sync" (.int 5) (vInt · (base ++ ".security.sae_sync") 1 100)
  pure profile.truthy

/-- A flag of an SSID. -/
def flag (base key : String) (d : Bool) : EditM Bool :=
  field key (.bool d) (vBool · (base ++ "." ++ key))

/-- `cfg.get("wifi", {}).get("radius", {})` -/
def radiusOf (wifi : Obj) : Json := (Dict.lookup "radius" wifi).getD (.obj [])

def validateWirelessNetwork (caps : Capabilities) (cfg wifi : Obj) (_ : Unit) (wnid : String) :
    EditM Unit := do
  let base := "wifi.networks." ++ wnid
  let _ ← lift (vId (.str wnid) base)
  let ssid ← get "ssid"
  let _ ← lift (vSsid ssid (base ++ ".ssid"))
  let _ ← flag base "enabled" true
  let _ ← flag base "hidden" false
  let uplink ← field "uplink" (.str "lan") (vEnum · (base ++ ".uplink") ssidUplinks)
  when (uplink = "wan") (warn (base ++ wanUplinkWarning))
  let _ ← flag base "client_isolation" false
  let _ ← field "network" (.str "default") fun network => do
    let ids := ((Dict.lookup "networks" cfg).getD (.obj [])).entries
    if ← pyIn network (.obj ids) then pure ()
    else .error (.validation (base ++ ".network") ("unknown network '" ++ pyStr network ++ "'"))
  let bands ← field "bands" (.arr [.str "2g", .str "5g"]) (checkBands base)
  warnOf (absentBandWarning caps wnid bands)
  let mlo ← get "mlo"
  when (2 ≤ bands.length ∧ !mlo.truthy ∧ caps.mloSupported) do
    let bound ← lift (do boundByMld wnid (← mldsOf wifi))
    when (!bound) <|
      warn (wnid ++ ": spans " ++ ofNat bands.length ++ " bands as separate per-band BSSes, " ++
        "which is not MLO — enable MLO on this network for one multi-link association instead")
  let radiusProfile ← within "security" [] (fun _ => .attribute)
    (validateSecurity (radiusOf wifi) wnid base bands)
  let _ ← flag base "fast_roaming" false
  let _ ← flag base "bss_transition" true
  let _ ← flag base "neighbor_report" true
  let _ ← field "application" (.str "standard") (vEnum · (base ++ ".application") applications)
  let _ ← field "broadcasting_aps" (.str "all")
    (vEnum · (base ++ ".broadcasting_aps") broadcastingAps)
  let _ ← field "advanced_mode" (.str "auto") (vEnum · (base ++ ".advanced_mode") advancedModes)
  let _ ← flag base "minimum_data_rate" false
  let _ ← field "multicast_filtering" (.str "off")
    (vEnum · (base ++ ".multicast_filtering") multicastFilterings)
  let _ ← flag base "multicast_broadcast_blocker" false
  let _ ← flag base "multicast_to_unicast" false
  let mlo ← flag base "mlo" false
  raiseIf (mlo && bands.length < 2) (.validation (base ++ ".mlo")
    "MLO needs at least two bands; select another band or turn it off")
  raiseIf (mlo && !caps.mloSupported) (.validation (base ++ ".mlo")
    (if caps.mloReason = "" then "this hardware does not support MLO" else caps.mloReason))
  let _ ← flag base "band_steering" true
  let _ ← flag base "proxy_arp" false
  let _ ← flag base "uapsd" false
  let _ ← flag base "mac_filter" false
  let macAuth ← flag base "radius_mac_auth" false
  raiseIf (macAuth && !radiusProfile) (.validation (base ++ ".radius_mac_auth")
    "RADIUS MAC authentication needs a RADIUS profile")
  let _ ← flag base "speed_limit" false
  let _ ← flag base "auto_dtim" true
  let _ ← field "dtim_period" (.int 2) (vInt · (base ++ ".dtim_period") 1 255)
  let _ ← flag base "group_rekey_interval" false
  let _ ← field "group_rekey_seconds" (.int 3600)
    (vInt · (base ++ ".group_rekey_seconds") 30 86400)
  let _ ← flag base "show_ap_name_in_beacon" false
  within "blackout_schedule" [("enabled", .bool false), ("start", .null), ("end", .null)]
      (fun _ => notObject (base ++ ".blackout_schedule")) do
    let _ ← flag (base ++ ".blackout_schedule") "enabled" false
  field "mac_filter_list" (.arr []) fun macs => do
    let _ ← needArr macs (base ++ ".mac_filter_list") "a list of MAC addresses"
    eachChecked macs fun i entry => vMac entry s!"{base}.mac_filter_list[{i}]"
  let _ ← field "mac_filter_policy" (.str "deny")
    (vEnum · (base ++ ".mac_filter_policy") ["allow", "deny"])
  let minRssi ← get "min_rssi"
  when (minRssi ≠ .null) <|
    lift ((vInt minRssi (base ++ ".min_rssi") (-95) (-40)).map fun _ => ())
  within "bandwidth" [("download_kbps", .int 0), ("upload_kbps", .int 0)] (fun _ => .attribute) do
    let _ ← field "download_kbps" (.int 0) (vInt · (base ++ ".bandwidth.download_kbps") 0 10000000)
    let _ ← field "upload_kbps" (.int 0) (vInt · (base ++ ".bandwidth.upload_kbps") 0 10000000)

/-! ### Regulatory environment and channel optimisation -/

def lpiOutdoorWarning : String :=
  "wifi.regulatory: 6 GHz Low Power Indoor is indoor-only — outdoor operation needs Standard " ++
  "Power (which requires AFC coordination) or Very Low Power"

def standardPowerWarning : String :=
  "wifi.regulatory: 6 GHz Standard Power raises the limit to 36 dBm on 5925-6425 and 6525-6875 " ++
  "MHz, and in most domains legally requires AFC coordination before transmitting"

def validateRegulatory : EditM Unit := do
  let environment ← field "environment" (.str "indoor")
    (vEnum · "wifi.regulatory.environment" rfEnvironments)
  let power ← field "six_ghz_power" (.str "lpi")
    (vEnum · "wifi.regulatory.six_ghz_power" sixGhzPowerModes)
  when (environment = "outdoor" ∧ power = "lpi") (warn lpiOutdoorWarning)
  when (power = "sp") (warn standardPowerWarning)

/-- The warnings about 40 MHz on 2.4 GHz and 240 MHz on 5 GHz, over the checked radios. -/
def widthWarnings (radios : Obj) : List String :=
  let width (r : Json) : ℕ := (widthOf (attr r "channel_width" .null)).getD 20
  (radios.filterMap fun e =>
    if attr e.2 "band" .null = .str "2g" ∧ 40 ≤ width e.2 then
      some (e.1 ++ ": 40 MHz on 2.4 GHz skips the 20/40 coexistence scan, or it would fall back " ++
        "to 20 MHz whenever a neighbouring network is present — which is most of the time")
    else none) ++
  radios.filterMap fun e =>
    if attr e.2 "band" .null = .str "5g" ∧ width e.2 = 240 then
      some (e.1 ++ ": 240 MHz is only available on channels 100-144, where the regulatory limit " ++
        "is 4 dB below the 80 MHz channels in UNII-1/UNII-3 — more bandwidth, less range")
    else none

/-- A percentage: `int`, `float` or `bool`. -/
def checkImprovement (value : Json) : Except Exn Unit :=
  if value.num?.any fun q => decide (0 ≤ q ∧ q ≤ 100) then .ok ()
  else .error (.validation "wifi.channel_optimisation.min_improvement"
    "must be a number between 0 and 100")

def validateOptimisation : EditM Unit := do
  let base := "wifi.channel_optimisation"
  let _ ← flag base "enabled" false
  let _ ← field "min_interval_seconds" (.int 21600)
    (vInt · (base ++ ".min_interval_seconds") 300 (7 * 86400))
  field "min_improvement" (.float 15) checkImprovement
  let _ ← flag base "avoid_dfs" false
  let _ ← flag base "prefer_psc" true
  let _ ← field "schedule_hour" (.int 4) (vInt · (base ++ ".schedule_hour") 0 23)

/-! ### Multi-link devices -/

/-- Band and enabled flag of every radio, probed or configured; the probe has the say on the band. -/
def knownRadios (caps : Capabilities) (radios : Obj) : Dict String (Json × Json) :=
  radios.foldl (fun known e =>
      let band := match Dict.lookup e.1 caps.radios with
        | some probed => .str probed.band
        | none => attr e.2 "band" .null
      Dict.set e.1 (band, attr e.2 "enabled" (.bool true)) known)
    (caps.radios.map fun e => (e.1, (.str e.2.band, .bool true)))

/-- Do two links name the same radio?  Links that cannot be hashed raise. -/
def duplicateLink : List Json → Except Exn Bool
  | [] => .ok false
  | x :: xs =>
    match x with
    | .arr _ | .obj _ => .error .type
    | _ => (duplicateLink xs).map fun d => d || xs.any (Json.pyEq x)

/-- The MLDs that claimed a radio for a network. -/
abbrev Claims := List ((String × String) × String)

/-- The links of an MLD, one after the other; answers with the claims and the warnings. -/
def checkLinks (known : Dict String (Json × Json)) (enabled : Bool) (mid base wnid : String)
    (wnetBands : Json) : ℕ → List Json → Claims → List Json → Except Exn (Claims × List String)
  | _, [], claimed, _ => .ok (claimed, [])
  | i, link :: links, claimed, inMld => do
    let lpath := s!"{base}.links[{i}]"
    match link with
    | .str rid =>
      match known.lookup rid with
      | none => .error (.validation lpath ("unknown radio '" ++ rid ++ "'"))
      | some (band, on) =>
        if inMld.any (Json.pyEq band) then
          .error (.validation lpath
            ("two links on the same band (" ++ pyStr band ++ ") is not valid MLO"))
        else if !(← pyIn band wnetBands) then
          .error (.validation lpath ("radio " ++ rid ++ " is " ++ pyStr band ++ " but SSID '" ++
            wnid ++ "' does not enable that band"))
        else
          match claimed.find? fun c => c.1 = (rid, wnid) with
          | some c => .error (.validation lpath ("radio " ++ rid ++ " already carries '" ++ wnid ++
              "' via MLD '" ++ c.2 ++ "'"))
          | none =>
            let (claimed', ws) ← checkLinks known enabled mid base wnid wnetBands (i + 1) links
              (claimed ++ [((rid, wnid), mid)]) (inMld ++ [band])
            let off := if enabled && !on.truthy then
              ["MLD " ++ mid ++ ": radio " ++ rid ++ " is disabled, link will not come up"] else []
            pure (claimed', off ++ ws)
    | v => .error (.validation lpath ("unknown radio '" ++ pyStr v ++ "'"))

/-- 802.11be on the network an enabled MLD serves: WPA3, and PMF forced to required. -/
def requirePmf (mid base wnid : String) (wnet : Obj) (w : List String) :
    Except Exn (Obj × List String) :=
  let security := ((Dict.lookup "security" wnet).getD (.obj [])).entries
  let mode := (Dict.lookup "mode" security).getD .null
  if mode ≠ .str "wpa3" ∧ mode ≠ .str "wpa3-enterprise" then
    .error (.validation (base ++ ".wireless_network")
      ("MLO requires WPA3 on '" ++ wnid ++ "' (802.11be forbids WPA2-only MLDs)"))
  else if (Dict.lookup "pmf" security).getD .null ≠ .str "required" then
    .ok (Dict.set "security" (.obj (Dict.set "pmf" (.str "required") security)) wnet,
      w ++ ["MLD " ++ mid ++ ": PMF forced to required for 802.11be"])
  else .ok (wnet, w)

/-- The network an MLD names. -/
def mldNetwork (networks : Obj) (base : String) (value : Json) : Except Exn (String × Obj) :=
  match value with
  | .str wnid =>
    match Dict.lookup wnid networks with
    | some wnet => .ok (wnid, wnet.entries)
    | none => .error (.validation (base ++ ".wireless_network")
        ("unknown wireless network '" ++ wnid ++ "'"))
  | .arr _ | .obj _ => .error .type
  | v => .error (.validation (base ++ ".wireless_network")
      ("unknown wireless network '" ++ pyStr v ++ "'"))

/-- One MLD.  The state of the loop is the claims so far and the wireless networks, whose PMF it may
raise. -/
def validateMld (known : Dict String (Json × Json)) (s : Claims × Obj) (mid : String) :
    EditM (Claims × Obj) := do
  let base := "wifi.mlds." ++ mid
  let _ ← lift (vId (.str mid) base)
  let _ ← field "name" (.str mid) (vName · (base ++ ".name"))
  let enabled ← flag base "enabled" true
  let named ← get "wireless_network"
  let (wnid, wnet) ← lift (mldNetwork s.2 base named)
  let links ← field "links" (.arr []) (needArr · (base ++ ".links") "a list of radio ids")
  raiseIf (enabled && links.length < 2) (.validation (base ++ ".links")
    "MLO needs at least two radio links; disable the MLD or add another link")
  let duplicate ← lift (duplicateLink links)
  raiseIf duplicate (.validation (base ++ ".links") "a radio may only appear once in an MLD")
  let wnetBands := (Dict.lookup "bands" wnet).getD (.arr [])
  let (claimed, ws) ← lift (checkLinks known enabled mid base wnid wnetBands 0 links s.1 [])
  fun a w => .ok ((), a, w ++ ws)
  let wnet' ← (if enabled then
      fun a w => (requirePmf mid base wnid wnet w).map fun r => (r.1, a, r.2)
    else pure wnet)
  let networks := if enabled then Dict.set wnid (.obj wnet') s.2 else s.2
  ifSet "mld_mac" (vMac · (base ++ ".mld_mac"))
  let _ ← field "link_steering" (.str "auto")
    (vEnum · (base ++ ".link_steering") ["auto", "static", "disabled"])
  pure (claimed, networks)

/-- `_validate_mlds` -/
def validateMlds (caps : Capabilities) : EditM Unit := do
  let radios ← get "radios"
  let networks ← get "networks"
  let s ← within "mlds" [] (fun _ => .attribute)
    (entriesOf (badEntry "wifi.mlds") (validateMld (knownRadios caps radios.entries))
      ([], networks.entries))
  put "networks" (.obj s.2)

def validateWifi (caps : Capabilities) (cfg : Obj) : EditM Unit := do
  let country ← setdefault "country" (.str "US")
  let country := pyStr country
  raiseIf (!countryRe country) (.validation "wifi.country" "must be a two-letter ISO country code")
  within "radios" [] (fun _ => .attribute)
    (entriesOf (fun rid => notObject ("wifi.radios." ++ rid)) (validateRadio caps country) ())
  let wifi ← self
  within "networks" [] (fun _ => .attribute)
    (entriesOf (badEntry "wifi.networks") (validateWirelessNetwork caps cfg wifi) ())
  within "regulatory" [] (fun _ => notObject "wifi.regulatory") validateRegulatory
  let radios ← get "radios"
  fun a w => .ok ((), a, w ++ widthWarnings radios.entries)
  within "channel_optimisation" [] (fun _ => notObject "wifi.channel_optimisation")
    validateOptimisation
  validateMlds caps

end Sbegw.Schema
