import Sbegw.Schema.Wifi

/-!
# The radio part of a hostapd configuration

`_band_lines` renders a radio: its mode, its channel, and for each generation that is on the width it
operates with and the index of the centre channel.
-/

namespace Sbegw.Hostapd

open Text Schema

/-! ### Lines -/

inductive Value where
  | int (i : ℤ)
  | text (s : String)
  /-- printed with this many hexadecimal digits -/
  | hex (digits : ℕ) (n : ℕ)
deriving DecidableEq

inductive Line where
  | set (key : String) (value : Value)
  | comment (text : String)
deriving DecidableEq

/-- `0x…` -/
def hexText (digits n : ℕ) : String :=
  let ds := (Nat.toDigits 16 n).map Char.toUpper
  "0x" ++ String.ofList (List.replicate (digits - ds.length) '0' ++ ds)

def Value.text' : Value → String
  | .int i => ofInt i
  | .text s => s
  | .hex digits n => hexText digits n

def Line.text : Line → String
  | .set key value => key ++ "=" ++ value.text'
  | .comment text => "# " ++ text

/-- The value of a key. -/
def value? (key : String) (lines : List Line) : Option Value :=
  lines.findSome? fun l =>
    match l with
    | .set k v => if k = key then some v else none
    | .comment _ => none

def int? (key : String) (lines : List Line) : Option ℤ :=
  match value? key lines with
  | some (.int i) => some i
  | _ => none

/-! ### What the renderer knows of a radio -/

/-- An entry of `caps["channel_details"]`. -/
structure ChannelDetail where
  channel : ℤ
  disabled : Bool
  noIr : Bool
  dfs : Bool

/-- The capabilities of a link. -/
structure LinkCaps where
  ht : Bool
  vht : Bool
  he : Bool
  eht : Bool
  details : List ChannelDetail

/-! ### Channels -/

/-- `EHT240_5G["primary"]` -/
def eht240Primary : ℤ := 100

/-- `EHT240_5G["eht_centre"]` -/
def eht240Centre : ℤ := 130

/-- `EHT240_5G["he_centre"]` -/
def eht240HeCentre : ℤ := 114

/-- `EHT240_5G["punct_bitmap"]` -/
def eht240Bitmap : ℕ := 0xF000

/-- `CHANNEL_PREFERENCE` -/
def channelPreference : String → List ℤ
  | "2g" => [6, 1, 11]
  | "5g" => [36, 149, 44, 157]
  | "6g" => [37, 1, 5, 53]
  | _ => []

/-- `default_channel` -/
def defaultChannel (band : String) (caps : LinkCaps) (width : ℕ) : ℤ :=
  if band = "5g" ∧ width = 240 then eht240Primary
  else
    let free := (caps.details.filter fun d => !d.disabled && !d.noIr && !d.dfs).map ChannelDetail.channel
    let usable :=
      if free.isEmpty then (caps.details.filter fun d => !d.disabled).map ChannelDetail.channel else free
    match (channelPreference band).find? usable.contains with
    | some channel => channel
    | none =>
      match usable with
      | c :: cs => cs.foldl min c
      | [] => if band = "2g" then 6 else if band = "5g" then 36 else if band = "6g" then 37 else 6

/-- `_SEG0_5G_BLOCKS` -/
def seg0Blocks5g : ℕ → List (ℤ × ℤ)
  | 80 => [(36, 48), (52, 64), (100, 112), (116, 128), (132, 144), (149, 161)]
  | 160 => [(36, 64), (100, 128)]
  | 240 => [(36, 112), (100, 144)]
  | 320 => [(36, 128)]
  | _ => []

/-- `{80: 4, 160: 8, 320: 16}.get(width)` -/
def seg0Count : ℕ → Option ℤ
  | 80 => some 4
  | 160 => some 8
  | 320 => some 16
  | _ => none

/-- `centre_channel` -/
def centreChannel (channel : ℤ) (width : ℕ) (band : String) : Option ℤ :=
  if width < 80 then none
  else if band = "2g" then none
  else if band = "5g" then
    ((seg0Blocks5g width).find? fun b => b.1 ≤ channel ∧ channel ≤ b.2).map fun b => (b.1 + b.2) / 2
  else
    (seg0Count width).map fun count => (channel - 1) / 4 / count * count * 4 + 1 + (count - 1) * 2

/-- `_he_chwidth` -/
def heChwidth : ℕ → ℤ
  | 80 => 1
  | 160 => 2
  | 240 => 2
  | 320 => 2
  | _ => 0

/-- `_eht_chwidth` -/
def ehtChwidth : ℕ → ℤ
  | 80 => 1
  | 160 => 2
  | 240 => 9
  | 320 => 9
  | _ => 0

/-- `SIX_GHZ_OP_CLASS.get(width, 131)` -/
def sixGhzOpClass : ℕ → ℤ
  | 40 => 132
  | 80 => 133
  | 160 => 134
  | 240 => 137
  | 320 => 137
  | _ => 131

/-- `SIX_GHZ_POWER.get(power, 0)` -/
def sixGhzPower (power : Json) : ℤ :=
  if power = .str "sp" then 1 else if power = .str "vlp" then 2 else 0

/-! ### `_band_lines` -/

/-- `radio.get(key, d)` -/
def field (radio : Obj) (key : String) (d : Json) : Json := (Dict.lookup key radio).getD d

/-- `radio.get("band", "5g")` -/
def bandOf (radio : Obj) : String :=
  match field radio "band" (.str "5g") with
  | .str band => band
  | _ => ""

/-- `int(radio.get("channel_width", 20))` -/
def widthOf (radio : Obj) : ℕ := (Schema.widthOf (field radio "channel_width" (.int 20))).getD 0

/-- The channel, unless the gateway has to choose it. -/
def channelOf (radio : Obj) : Option ℤ :=
  match field radio "channel" (.str "auto") with
  | .int i => if i = 0 then none else some i
  | _ => none

/-- `radio.get("punct_bitmap")`, unless that is `None` or `"auto"`. -/
def bitmapOf (radio : Obj) : Option ℕ :=
  match field radio "punct_bitmap" .null with
  | .int i => some i.toNat
  | _ => none

def modeLines (radio : Obj) (band : String) (width : ℕ) : List Line :=
  .set "hw_mode" (.text (if band = "2g" then "g" else "a")) ::
    if band = "6g" then
      [.set "op_class" (.int (sixGhzOpClass width)),
        .set "he_6ghz_reg_pwr_type" (.int (sixGhzPower (field radio "six_ghz_power" (.str "lpi"))))]
    else []

def chosenComment : String :=
  "channel chosen by the gateway (hostapd ACS does not complete on this driver)"

/-- The channel that is rendered. -/
def renderedChannel (radio : Obj) (caps : LinkCaps) : ℤ :=
  (channelOf radio).getD (defaultChannel (bandOf radio) caps (widthOf radio))

def channelLines (radio : Obj) (caps : LinkCaps) : List Line :=
  (if (channelOf radio).isNone then [.comment chosenComment] else []) ++
    [.set "channel" (.int (renderedChannel radio caps))]

/-- `seg0_he` -/
def seg0He (channel : ℤ) (width : ℕ) (band : String) : Option ℤ :=
  if band = "5g" ∧ width = 240 then some eht240HeCentre else centreChannel channel (min width 160) band

/-- `seg0_eht` -/
def seg0Eht (channel : ℤ) (width : ℕ) (band : String) : Option ℤ :=
  if band = "5g" ∧ width = 240 then some eht240Centre
  else centreChannel channel (if width = 240 ∨ width = 320 then 320 else width) band

def ht40Capab : String := "[HT40+][SHORT-GI-20][SHORT-GI-40][TX-STBC][RX-STBC1]"

def htLines (caps : LinkCaps) (width : ℕ) (band : String) : List Line :=
  if band ≠ "6g" ∧ caps.ht then
    [.set "ieee80211n" (.int 1),
      .set "ht_capab" (.text (if 40 ≤ width then ht40Capab else "[SHORT-GI-20]"))] ++
      if 40 ≤ width then [.set "noscan" (.int 1)] else []
  else []

/-- A centre index, where there is one. -/
def centreLine (key : String) (centre : Option ℤ) : List Line :=
  (centre.map fun c => Line.set key (.int c)).toList

def vhtLines (caps : LinkCaps) (channel : ℤ) (width : ℕ) (band : String) : List Line :=
  if band ≠ "6g" ∧ caps.vht ∧ band ≠ "2g" then
    [.set "ieee80211ac" (.int 1), .set "vht_oper_chwidth" (.int (heChwidth width))] ++
      centreLine "vht_oper_centr_freq_seg0_idx" (seg0He channel width band)
  else []

def heLines (radio : Obj) (caps : LinkCaps) (channel : ℤ) (width : ℕ) (band : String) : List Line :=
  if caps.he then
    .set "ieee80211ax" (.int 1) ::
      ((if band ≠ "2g" then
          .set "he_oper_chwidth" (.int (heChwidth width)) ::
            centreLine "he_oper_centr_freq_seg0_idx" (seg0He channel width band)
        else []) ++
      [.set "he_su_beamformer" (.int 1), .set "he_su_beamformee" (.int 1), .set "he_mu_beamformer" (.int 1)] ++
      if field radio "bss_color" .null ≠ .null then
        [.set "he_bss_color" (.text (pyStr (field radio "bss_color" .null)))] else [])
  else []

/-- The bitmap that is rendered. -/
def bitmapLine (radio : Obj) (width : ℕ) : List Line :=
  if width = 240 then [.set "punct_bitmap" (.hex 4 ((bitmapOf radio).getD eht240Bitmap))]
  else ((bitmapOf radio).map fun b => Line.set "punct_bitmap" (.int b)).toList

def ehtLines (radio : Obj) (caps : LinkCaps) (channel : ℤ) (width : ℕ) (band : String) : List Line :=
  if caps.eht then
    .set "ieee80211be" (.int 1) ::
      ((if band ≠ "2g" then
          .set "eht_oper_chwidth" (.int (ehtChwidth width)) ::
            centreLine "eht_oper_centr_freq_seg0_idx" (seg0Eht channel width band)
        else []) ++
      [.set "eht_su_beamformer" (.int 1), .set "eht_su_beamformee" (.int 1)] ++ bitmapLine radio width)
  else []

/-- A key that is copied where it is set. -/
def copied (radio : Obj) (key line : String) : List Line :=
  let value := field radio key .null
  if value.truthy then [.set line (.text (pyStr value))] else []

def powerComment (radio : Obj) : List Line :=
  let power := field radio "tx_power" .null
  if power = .null ∨ power = .str "auto" then []
  else [.comment ("tx_power=" ++ pyStr power ++ " dBm applied via nl80211")]

def tailLines (radio : Obj) (band : String) : List Line :=
  powerComment radio ++
    (if band = "5g" ∧ (field radio "dfs" (.bool true)).truthy then [.set "ieee80211h" (.int 1)] else []) ++
    copied radio "beacon_interval" "beacon_int" ++ copied radio "dtim" "dtim_period" ++
    copied radio "rts_threshold" "rts_threshold"

/-- `_band_lines` -/
def bandLines (radio : Obj) (caps : LinkCaps) : List Line :=
  let band := bandOf radio
  let width := widthOf radio
  let channel := renderedChannel radio caps
  modeLines radio band width ++ channelLines radio caps ++ htLines caps width band ++
    vhtLines caps channel width band ++ heLines radio caps channel width band ++
    ehtLines radio caps channel width band ++ tailLines radio band

end Sbegw.Hostapd
