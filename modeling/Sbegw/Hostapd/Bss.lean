import Sbegw.Hostapd.Security

/-!
# The configuration file of a radio

`_bss_lines` renders a BSS, and `render_link_config` the file of a radio: a header, the lines of the radio, and the
BSSes one after the other, a blank line before each.
-/

namespace Sbegw.Hostapd

open Text Schema

/-! ### `_bss_lines` -/

/-- `CTRL_DIR` -/
def ctrlDir : String := "/run/sbegw/hostapd/ctrl"

/-- `bss[key]` -/
def required (bss : Obj) (key : String) : Except Exn Json :=
  match Dict.lookup key bss with
  | some v => .ok v
  | none => .error (.key key)

/-- `bss.get("netdev") or bss["interface"]` -/
def deviceOf (bss : Obj) : Except Exn Json :=
  let netdev := field bss "netdev" .null
  if netdev.truthy then .ok netdev else required bss "interface"

/-- 1 if the key is set, else 0. -/
def bitOf (bss : Obj) (key : String) : ℤ := if (field bss key .null).truthy then 1 else 0

/-- Lines that stand there where a key is set. -/
def whenSet (bss : Obj) (key : String) (d : Json) (lines : List Line) : List Line :=
  if (field bss key d).truthy then lines else []

/-- The name and the place of a BSS. -/
def placeLines (bss : Obj) (device ssid : Json) (first : Bool) : List Line :=
  [.set (if first then "interface" else "bss") (.text (pyStr device)), .set "ctrl_interface" (.text ctrlDir)] ++
    copied bss "bssid" "bssid" ++
    [.set "ssid" (.text (pyStr ssid)), .set "ignore_broadcast_ssid" (.int (bitOf bss "hidden"))] ++
    copied bss "bridge" "bridge" ++
    whenSet bss "vlan" .null (copied bss "vlan_parent" "vlan_tagged_interface")

/-- Who may associate. -/
def admissionLines (bss : Obj) : List Line :=
  [.set "ap_isolate" (.int (bitOf bss "client_isolation"))] ++ copied bss "max_clients" "max_num_sta" ++
    if field bss "min_rssi" .null ≠ .null then
      [.set "rssi_reject_assoc_rssi" (.text (pyStr (field bss "min_rssi" .null))),
        .set "rssi_reject_assoc_timeout" (.int 5)]
    else []

/-- The RADIUS profile that the BSS names. -/
def profileOf (bss : Obj) : String :=
  let profile := (field bss "security" (.obj [])).getD "radius_profile" .null
  if profile.truthy then pyStr profile else ""

/-- The NAS identifier of a BSS that roams without RADIUS. -/
def nasIdentifier (bss : Obj) : String :=
  let bssid := field bss "bssid" .null
  String.ofList ((if bssid.truthy then pyStr bssid else "sbe1v1k").toList.filter (· != ':'))

/-- 802.11k, v and r. -/
def roamingLines (bss : Obj) : List Line :=
  whenSet bss "neighbor_report" (.bool true) [.set "rrm_neighbor_report" (.int 1), .set "rrm_beacon_report" (.int 1)] ++
    whenSet bss "bss_transition" (.bool true) [.set "bss_transition" (.int 1)] ++
    whenSet bss "fast_roaming" .null
      ([.set "mobility_domain" (.text (pyStr (field bss "mobility_domain" (.str "1234")))),
          .set "ft_over_ds" (.int 0), .set "pmk_r1_push" (.int 1), .set "ft_psk_generate_local" (.int 1),
          .set "r0_key_lifetime" (.int 600)] ++
        if profileOf bss = "" then [.set "nas_identifier" (.text (nasIdentifier bss))] else [])

/-- The filter of MAC addresses. -/
def filterLines (bss : Obj) : List Line :=
  if (field bss "radius_mac_auth" .null).truthy then [.set "macaddr_acl" (.int 2)]
  else if (field bss "mac_filter" .null).truthy ∧ (field bss "mac_filter_file" .null).truthy then
    let file := Value.text (pyStr (field bss "mac_filter_file" .null))
    if field bss "mac_filter_policy" .null = .str "allow" then
      [.set "macaddr_acl" (.int 1), .set "accept_mac_file" file]
    else [.set "macaddr_acl" (.int 0), .set "deny_mac_file" file]
  else []

/-- The options of a BSS. -/
def optionLines (bss : Obj) : List Line :=
  whenSet bss "wmm" (.bool true) [.set "wmm_enabled" (.int 1)] ++
    whenSet bss "multicast_to_unicast" .null [.set "multicast_to_unicast" (.int 1)] ++
    whenSet bss "proxy_arp" .null [.set "proxy_arp" (.int 1)] ++
    whenSet bss "uapsd" .null [.set "uapsd_advertisement_enabled" (.int 1)] ++
    (if (field bss "auto_dtim" (.bool true)).truthy then []
      else [.set "dtim_period" (.text (pyStr (field bss "dtim_period" (.int 2))))]) ++
    whenSet bss "group_rekey_interval" .null
      [.set "wpa_group_rekey" (.text (pyStr (field bss "group_rekey_seconds" (.int 3600))))] ++
    whenSet bss "multicast_broadcast_blocker" .null [.set "disable_dgaf" (.int 1)] ++ filterLines bss

/-- What makes the BSS a link of an MLD. -/
def mldLines (bss : Obj) : Except Exn (List Line) :=
  let mld := field bss "mld" .null
  if mld.truthy then do
    let mac ← required mld.entries "mld_mac"
    .ok [.set "mld_ap" (.int 1), .set "mld_addr" (.text (pyStr mac))]
  else .ok []

/-- `_bss_lines` -/
def bssLines (bss radio radius : Obj) (first : Bool) : Except Exn (List Line) := do
  let device ← deviceOf bss
  let ssid ← required bss "ssid"
  let security ← securityLines (field bss "security" (.obj [])).entries (bandOf radio) radius
    (field bss "mld" .null).truthy
  let mld ← mldLines bss
  .ok (placeLines bss device ssid first ++ admissionLines bss ++ security ++ roamingLines bss ++ optionLines bss ++ mld)

/-! ### `render_link_config` -/

/-- `COUNTRY3.get(environment, 0x49)` -/
def country3 (environment : Json) : ℕ :=
  if environment = .str "any" then 0x20 else if environment = .str "outdoor" then 0x4F else 0x49

/-- What `render_link_config` is called with for one radio. -/
structure LinkConfig where
  radio : Obj
  caps : LinkCaps
  bsses : List Obj
  country : String
  /-- `radius_profiles` -/
  profiles : Obj
  regulatory : Obj

namespace LinkConfig

def headerLines (c : LinkConfig) : List Line :=
  [.comment ("generated by sbegw wifid for radio " ++ pyStr (field c.radio "id" .null) ++ " (" ++
      pyStr (field c.radio "band" .null) ++ ") — do not edit"),
    .set "driver" (.text "nl80211"), .set "country_code" (.text c.country),
    .set "country3" (.hex 2 (country3 (field c.regulatory "environment" (.str "indoor")))),
    .set "ieee80211d" (.int 1), .set "logger_syslog" (.int (-1)), .set "logger_syslog_level" (.int 3),
    .set "logger_stdout" (.int (-1)), .set "logger_stdout_level" (.int 2)]

/-- The lines before the first BSS. -/
def radioLines (c : LinkConfig) : List Line := c.headerLines ++ bandLines c.radio c.caps

/-- The profile that a BSS names, if it is there. -/
def radiusOf (c : LinkConfig) (bss : Obj) : Obj := (field c.profiles (profileOf bss) .null).entries

/-- The lines of the BSSes, the first of which is the interface. -/
def blocksFrom (c : LinkConfig) : Bool → List Obj → Except Exn (List (List Line))
  | _, [] => .ok []
  | first, bss :: bsses => do
    let lines ← bssLines bss c.radio (c.radiusOf bss) first
    let blocks ← c.blocksFrom false bsses
    .ok (lines :: blocks)

def blocks (c : LinkConfig) : Except Exn (List (List Line)) := c.blocksFrom true c.bsses

/-- The file with these BSSes in it. -/
def fileText (c : LinkConfig) (blocks : List (List Line)) : String :=
  join "\n" (c.radioLines.map Line.text ++ blocks.flatMap fun b => "" :: b.map Line.text) ++ "\n"

/-- `render_link_config` -/
def render (c : LinkConfig) : Except Exn String := do
  let blocks ← c.blocks
  .ok (c.fileText blocks)

end LinkConfig

end Sbegw.Hostapd
