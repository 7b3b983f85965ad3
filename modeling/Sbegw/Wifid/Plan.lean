import Sbegw.Wifid.Slots
import Sbegw.Wifid.Addresses
import Sbegw.Schema.Wifi
import Sbegw.Netd

/-!
# The plan

`build_plan` turns a document into BSSes: first the MLDs, those of the document and those an SSID's `mlo`
flag stands for; then every enabled SSID on every radio of a band it selects, in its slot.
-/

namespace Sbegw.Wifid

open Text Schema

/-! ### What the probe reports -/

/-- An entry of `RadioRegistry.capabilities()`. -/
structure Radio extends RadioCaps where
  /-- `mac`, unless it is missing or empty -/
  mac : Option Mac
  apSupported : Bool
  maxApBss : ℕ
deriving DecidableEq

/-- The radios, each id once. -/
abbrev Radios := Dict String Radio

/-- `capabilities()`: what validation sees of the same radios. -/
def capabilities (radios : Radios) (mloSupported : Bool) (mloReason : String) : Capabilities :=
  ⟨radios.map fun e => (e.1, e.2.toRadioCaps), mloSupported, mloReason⟩

/-- `"02:00:00:00:00:00"` -/
def noMac : Mac := ⟨0x02, 0, 0, 0, 0, 0⟩

/-- `caps.get("mac") or "02:00:00:00:00:00"` -/
def Radio.address (r : Radio) : Mac := r.mac.getD noMac

/-- `_BAND_ORDER.get(band, 9)` -/
def bandOrder (band : String) : ℕ :=
  if band = "2g" then 0 else if band = "5g" then 1 else if band = "6g" then 2 else 9

/-- Lower bands first, then by id. -/
def bandLe (a b : String × Radio) : Prop :=
  bandOrder a.2.band < bandOrder b.2.band ∨ bandOrder a.2.band = bandOrder b.2.band ∧ a.1 ≤ b.1

instance : DecidableRel bandLe := fun _ _ => inferInstanceAs (Decidable (_ ∨ _ ∧ _))

/-- Each radio with the number of radios of its address before it; `seen` counts them. -/
def countMacs : List (String × Radio) → Dict Mac ℕ → Dict String ℕ
  | [], _ => []
  | (rid, r) :: rest, seen =>
    let n := (Dict.lookup r.address seen).getD 0
    (rid, n) :: countMacs rest (Dict.set r.address (n + 1) seen)

/-- `radio_ordinals` -/
def radioOrdinals (radios : Radios) : Dict String ℕ := countMacs (radios.insertionSort bandLe) []

/-! ### SSIDs -/

/-- `wifi["networks"]` -/
def wifiNetworks (cfg : Obj) : Obj := ((Json.obj (Netd.sectionOf cfg "wifi")).getD "networks" .null).entries

/-- `wifi["mlds"]` -/
def wifiMlds (cfg : Obj) : Obj := ((Json.obj (Netd.sectionOf cfg "wifi")).getD "mlds" .null).entries

/-- `wifi["radios"][rid]` -/
def radioConfig (cfg : Obj) (rid : String) : Obj :=
  (((Json.obj (Netd.sectionOf cfg "wifi")).getD "radios" .null).getD rid (.obj [])).entries

/-- `band in wnet["bands"]` -/
def selectsBand (wnet : Json) (band : String) : Bool :=
  match wnet.getD "bands" (.arr []) with
  | .arr xs => xs.any fun x => Json.pyEq (.str band) x
  | _ => false

/-- `wnet.get("enabled", True)` -/
def isEnabled (j : Json) : Bool := (j.getD "enabled" (.bool true)).truthy

/-- `security` of a planned BSS. -/
def bssSecurity (wnet : Json) : Obj :=
  Dict.set "fast_transition" (wnet.getD "fast_roaming" (.bool false)) (wnet.getD "security" (.obj [])).entries

/-! ### MLDs -/

/-- An MLD of the plan. -/
structure Mld where
  id : String
  name : Json
  mldMac : String
  wirelessNetwork : String
  radios : List String
  linkSteering : Json
  derived : Bool
deriving DecidableEq

/-- `any(m.get("wireless_network") == wnid for m in declared.values())` -/
def namedBy (declared : Obj) (wnid : String) : Bool :=
  declared.any fun e => Json.pyEq (e.2.getD "wireless_network" .null) (.str wnid)

/-- The MLD that an SSID's `mlo` flag stands for: one link on every radio of its bands. -/
def derivedMld (radios : Radios) (wnid : String) (wnet : Json) : Json :=
  let want := (Dict.sorted radios).filter fun e => selectsBand wnet e.2.band
  .obj [("name", .str (pyStr (wnet.getD "ssid" (.str wnid)) ++ " MLO")), ("wireless_network", .str wnid),
    ("links", .arr (want.map fun e => .str e.1)), ("enabled", .bool true), ("link_steering", .str "auto"),
    ("derived", .bool true)]

/-- `declared`: the MLDs of the document, and one for each SSID that asks for one and is named by none. -/
def declareMlds (radios : Radios) : List (String × Json) → Obj → Obj
  | [], declared => declared
  | (wnid, wnet) :: rest, declared =>
    declareMlds radios rest <|
      if (wnet.getD "mlo" .null).truthy ∧ isEnabled wnet ∧ namedBy declared wnid = false then
        Dict.set ("mlo-" ++ wnid) (derivedMld radios wnid wnet) declared
      else declared

/-- A string, or the empty one. -/
def strOf : Json → String
  | .str s => s
  | _ => ""

/-- The links of an MLD whose radios are there. -/
def linkRadios (radios : Radios) (mld : Json) : List String :=
  match mld.getD "links" (.arr []) with
  | .arr xs => (xs.map strOf).filter fun rid => (Dict.lookup rid radios).isSome
  | _ => []

/-- `radio_caps[sorted(link_radios)[0]].get("mac")` -/
def primaryMac (radios : Radios) (rids : List String) : Option Mac := do
  let rid ← (rids.insertionSort (· ≤ ·)).head?
  let r ← Dict.lookup rid radios
  r.mac

/-- `mld.get("mld_mac") or mld_mac(primary, index)` -/
def mldAddress (mld : Json) (primary : Mac) (index : ℕ) : String :=
  let own := mld.getD "mld_mac" .null
  if own.truthy then strOf own else (mldMac primary index).text

/-- The MLDs that are started, and why the others are not. -/
def startMlds (radios : Radios) : ℕ → List (String × Json) → List Mld × List String
  | _, [] => ([], [])
  | index, (mid, mld) :: rest =>
    let (mlds, ws) := startMlds radios (index + 1) rest
    if !isEnabled mld then (mlds, ws)
    else
      let rids := linkRadios radios mld
      if rids.length < 2 then
        (mlds, ("MLD " ++ mid ++ ": fewer than two of its radios are present; MLO will not be started") :: ws)
      else
        match primaryMac radios rids with
        | none => (mlds, ("MLD " ++ mid ++ ": primary radio has no MAC; skipping") :: ws)
        | some primary =>
          (⟨mid, mld.getD "name" (.str mid), mldAddress mld primary index,
            strOf (mld.getD "wireless_network" .null), rids, mld.getD "link_steering" (.str "auto"),
            (mld.getD "derived" .null).truthy⟩ :: mlds, ws)

/-- `mlds`, and the warnings. -/
def planMlds (radios : Radios) (cfg : Obj) : List Mld × List String :=
  startMlds radios 0 (Dict.sorted (declareMlds radios (Dict.sorted (wifiNetworks cfg)) (wifiMlds cfg)))

/-- `mld_by_network.get(wnid)`: the first one counts. -/
def mldOf (mlds : List Mld) (wnid : String) : Option Mld := mlds.find? fun m => m.wirelessNetwork = wnid

/-- `_mld_anchor_radio` -/
def anchorRadio (radios : Radios) (rids : List String) : String :=
  let order (rid : String) : ℕ := bandOrder (((Dict.lookup rid radios).map fun r => r.band).getD "")
  ((rids.insertionSort fun a b => order a < order b ∨ order a = order b ∧ a ≤ b).head?).getD ""

/-! ### BSSes -/

/-- `bss["mld"]` -/
structure MldLink where
  id : String
  mldMac : String
  linkId : ℕ
deriving DecidableEq

/-- A planned BSS. -/
structure PlannedBss where
  interface : String
  radio : String
  band : String
  wirelessNetwork : String
  bssid : Mac
  security : Obj
  slot : ℕ
  mld : Option MldLink
  /-- the name that every link of an MLD borrows -/
  netdev : Option String
deriving DecidableEq

/-- `links[rid]` -/
structure Link where
  config : Obj
  bsses : List PlannedBss
deriving DecidableEq

/-- What the loop over SSIDs and radios fills. -/
structure Placed where
  slots : Allocator
  bsses : Dict String PlannedBss
  links : Dict String Link
  warnings : List String
deriving DecidableEq

/-- The BSS of an SSID on a radio. -/
def bssOf (radios : Radios) (mld : Option Mld) (wnid : String) (wnet : Json) (rid : String) (r : Radio)
    (slot : ℕ) : PlannedBss :=
  let link := mld.filter fun m => m.radios.contains rid
  { interface := ifaceName rid slot
    radio := rid
    band := r.band
    wirelessNetwork := wnid
    bssid := bssid r.address slot ((Dict.lookup rid (radioOrdinals radios)).getD 0)
    security := bssSecurity wnet
    slot
    mld := link.map fun m => ⟨m.id, m.mldMac, m.radios.idxOf rid⟩
    netdev := link.map fun m => ifaceName (anchorRadio radios m.radios) slot }

/-- The BSS goes into the plan. -/
def Placed.add (s : Placed) (config : Obj) (b : PlannedBss) : Placed :=
  let link := (Dict.lookup b.radio s.links).getD ⟨config, []⟩
  { s with
    bsses := Dict.set b.interface b s.bsses
    links := Dict.set b.radio { link with bsses := link.bsses ++ [b] } s.links }

/-- `range(limit)` is exhausted. -/
def fullWarning (rid wnid : String) (limit : ℕ) : String :=
  "radio " ++ rid ++ " cannot host more than " ++ ofNat limit ++ " BSSes; '" ++ wnid ++ "' was not started"

/-- One SSID on one radio. -/
def placeOn (radios : Radios) (cfg : Obj) (mld : Option Mld) (wnid : String) (wnet : Json) (s : Placed)
    (e : String × Radio) : Placed :=
  let (rid, r) := e
  let config := radioConfig cfg rid
  if !selectsBand wnet r.band then s
  else if !isEnabled (.obj config) then s
  else if !r.apSupported then
    { s with warnings := s.warnings ++ ["radio " ++ rid ++ " does not support AP mode"] }
  else
    let (slot, slots) := s.slots.slot rid wnid r.maxApBss
    match slot with
    | none => { s with slots, warnings := s.warnings ++ [fullWarning rid wnid r.maxApBss] }
    | some n => { s with slots }.add config (bssOf radios mld wnid wnet rid r n)

/-- One SSID. -/
def placeNetwork (radios : Radios) (cfg : Obj) (mlds : List Mld) (s : Placed) (e : String × Json) : Placed :=
  if isEnabled e.2 then (Dict.sorted radios).foldl (placeOn radios cfg (mldOf mlds e.1) e.1 e.2) s else s

/-- The networks that are planned on each radio. -/
def liveNetworks (radios : Radios) (cfg : Obj) : Dict String (List String) :=
  radios.map fun e =>
    (e.1, ((wifiNetworks cfg).filter fun n => isEnabled n.2 && selectsBand n.2 e.2.band).map Prod.fst)

/-- `build_plan`'s result. -/
structure WifiPlan where
  links : Dict String Link
  mlds : List Mld
  bsses : Dict String PlannedBss
  warnings : List String
deriving DecidableEq

/-- `WifiDaemon.build_plan` -/
def buildPlan (radios : Radios) (cfg : Obj) (slots : Allocator) : WifiPlan × Allocator :=
  let (mlds, ws) := planMlds radios cfg
  let s := (Dict.sorted (wifiNetworks cfg)).foldl (placeNetwork radios cfg mlds)
    ⟨slots.prune (liveNetworks radios cfg), [], [], ws⟩
  (⟨s.links, mlds, s.bsses, s.warnings⟩, s.slots)

end Sbegw.Wifid
