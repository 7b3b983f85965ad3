import Sbegw.Edit
import Sbegw.Lib.Bytes

/-!
# Frames of the DHCP trace

`_decode` tells what a captured Ethernet frame is.  It looks through VLAN tags, the IPv4 and UDP headers
and the options of a DHCP message, whose lengths are the sender's.
-/

namespace Sbegw.Dhcptrace

open Text Bytes

/-! ### Reading bytes -/

/-- `data[i]` -/
def index (data : List UInt8) (i : ℕ) : Except Exn UInt8 :=
  match data[i]? with
  | some b => .ok b
  | none => .error (.other "index out of range")

/-- `struct.unpack` of one number of `width` bytes. -/
def unpackOne (width : ℕ) (data : List UInt8) : Except Exn ℕ :=
  if data.length = width then .ok (unpack data)
  else .error (.other ("unpack requires a buffer of " ++ ofNat width ++ " bytes"))

/-- `n` in base 16, with zeros before it. -/
def hexPad (width n : ℕ) : String :=
  let digits := Nat.toDigits 16 n
  String.ofList (List.replicate (width - digits.length) '0' ++ digits)

/-- `_mac` -/
def mac (raw : List UInt8) : String := join ":" (raw.map fun b => hexPad 2 b.toNat)

/-- The text of an IPv4 address. -/
def dotted (raw : List UInt8) : String := join "." (raw.map fun b => ofNat b.toNat)

/-- `ETHERTYPE.get(etype, f"0x{etype:04x}")` -/
def etherName (etype : ℕ) : String :=
  (Dict.lookup etype [(0x0800, "IPv4"), (0x0806, "ARP"), (0x86DD, "IPv6"), (0x8100, "802.1Q"),
    (0x88A8, "802.1ad"), (0x8863, "PPPoE-disc"), (0x8864, "PPPoE-ses"), (0x88CC, "LLDP"),
    (0x8809, "LACP")]).getD ("0x" ++ hexPad 4 etype)

/-- `DHCP_MSG.get(msgtype, f'type{msgtype}')` -/
def messageName : Option UInt8 → String
  | none => "typeNone"
  | some t =>
    (Dict.lookup t.toNat [(1, "DISCOVER"), (2, "OFFER"), (3, "REQUEST"), (4, "DECLINE"), (5, "ACK"),
      (6, "NAK"), (7, "RELEASE"), (8, "INFORM")]).getD ("type" ++ ofNat t.toNat)

/-! ### VLAN tags -/

/-- What is behind the tags: the type, where its data begins, and the text of the tags. -/
structure Tagged where
  etype : ℕ
  offset : ℕ
  tag : String
deriving DecidableEq

/-- The loop over the tags; the last argument is `frame[offset:]`. -/
def untag (etype offset : ℕ) (tag : String) : List UInt8 → Tagged
  | a :: b :: c :: d :: rest =>
    if etype = 0x8100 ∨ etype = 0x88A8 then
      untag (unpack [c, d]) (offset + 4) (tag ++ " vlan" ++ ofNat (unpack [a, b] % 0x1000)) rest
    else ⟨etype, offset, tag⟩
  | _ => ⟨etype, offset, tag⟩

/-! ### DHCP options -/

/-- The loop over the options, for the type of the message; `skip` bytes belong to the option before. -/
def messageType : ℕ → List UInt8 → Except Exn (Option UInt8)
  | _, [] => .ok none
  | skip + 1, _ :: rest => messageType skip rest
  | 0, [_] => .ok none
  | 0, opt :: length :: rest =>
    if opt = 255 then .ok none
    else if opt = 0 then messageType 0 (length :: rest)
    else if opt = 53 ∧ 1 ≤ length then (index rest 0).map some
    else messageType (length.toNat + 1) (length :: rest)

/-- `b"\x63\x82\x53\x63"` -/
def cookie : List UInt8 := [0x63, 0x82, 0x53, 0x63]

/-- The payload is a BOOTP message with DHCP options. -/
def HasOptions (payload : List UInt8) : Prop := 240 ≤ payload.length ∧ slice payload 236 240 = cookie

instance (payload : List UInt8) : Decidable (HasOptions payload) := inferInstanceAs (Decidable (_ ∧ _))

/-- `detail` -/
def dhcpDetail (payload : List UInt8) : Except Exn String :=
  if HasOptions payload then do
    let xid ← unpackOne 4 (slice payload 4 8)
    let msgtype ← messageType 0 (payload.drop 240)
    pure (" " ++ messageName msgtype ++ " xid=0x" ++ hexPad 8 xid ++ " client=" ++ mac (slice payload 28 34))
  else .ok ""

/-! ### Frames -/

/-- An ARP packet. -/
def decodeArp (frame : List UInt8) (offset : ℕ) (base : String) : Except Exn (String × String) := do
  let op ← unpackOne 2 (slice frame (offset + 6) (offset + 8))
  let spa := dotted (slice frame (offset + 14) (offset + 18))
  let tpa := dotted (slice frame (offset + 24) (offset + 28))
  let kind := if op = 1 then "request" else if op = 2 then "reply" else "op" ++ ofNat op
  pure ("arp", base ++ " " ++ kind ++ " who-has " ++ tpa ++ " tell " ++ spa)

/-- A UDP datagram that begins at `udp`. -/
def decodeUdp (frame : List UInt8) (udp : ℕ) (base : String) : Except Exn (String × String) :=
  if frame.length < udp + 8 then .ok ("other", base ++ " UDP (truncated)")
  else do
    let sport ← unpackOne 2 (slice frame udp (udp + 2))
    let dport ← unpackOne 2 (slice frame (udp + 2) (udp + 4))
    let base := base ++ " UDP " ++ ofNat sport ++ "->" ++ ofNat dport
    if sport ∈ [67, 68] ∨ dport ∈ [67, 68] then do
      let detail ← dhcpDetail (frame.drop (udp + 8))
      pure ("dhcp", base ++ " DHCP" ++ detail)
    else .ok ("other", base)

/-- An IPv4 packet. -/
def decodeIpv4 (frame : List UInt8) (offset : ℕ) (base : String) : Except Exn (String × String) := do
  let first ← index frame offset
  let proto ← index frame (offset + 9)
  let base := base ++ " " ++ dotted (slice frame (offset + 12) (offset + 16)) ++ " > " ++
    dotted (slice frame (offset + 16) (offset + 20))
  if proto ≠ 17 then .ok ("other", base ++ " proto " ++ ofNat proto.toNat)
  else decodeUdp frame (offset + first.toNat % 16 * 4) base

/-- `_decode` -/
def decode (frame : List UInt8) : Except Exn (String × String) :=
  if frame.length < 14 then .ok ("short", "runt frame, " ++ ofNat frame.length ++ " bytes")
  else do
    let etype ← unpackOne 2 (slice frame 12 14)
    let t := untag etype 14 "" (frame.drop 14)
    let base := mac (slice frame 6 12) ++ " > " ++ mac (slice frame 0 6) ++ t.tag ++ " " ++ etherName t.etype
    if t.etype = 0x0806 ∧ t.offset + 28 ≤ frame.length then decodeArp frame t.offset base
    else if t.etype ≠ 0x0800 ∨ frame.length < t.offset + 20 then .ok ("other", base)
    else decodeIpv4 frame t.offset base

/-! ### The property -/

/-- What is behind the tags of a frame. -/
def payloadOf (frame : List UInt8) : Tagged := untag (unpack (slice frame 12 14)) 14 "" (frame.drop 14)

/-- A port number of the frame. -/
def portAt (frame : List UInt8) (i : ℕ) : ℕ := unpack (slice frame i (i + 2))

/-- Where the UDP header begins, by the header length of the IPv4 packet. -/
def udpOffset (frame : List UInt8) : ℕ :=
  (payloadOf frame).offset + (frame.getD (payloadOf frame).offset 0).toNat % 16 * 4

/-- The type is IPv4, the protocol UDP, and port 67 or 68 stands where the header length says; a datagram
fits in. -/
structure LooksLikeDhcp (frame : List UInt8) : Prop where
  ethernet : 14 ≤ frame.length
  ipv4 : (payloadOf frame).etype = 0x0800
  header : (payloadOf frame).offset + 20 ≤ frame.length
  udp : frame.getD ((payloadOf frame).offset + 9) 0 = 17
  datagram : udpOffset frame + 8 ≤ frame.length
  port : portAt frame (udpOffset frame) ∈ [67, 68] ∨ portAt frame (udpOffset frame + 2) ∈ [67, 68]

/-- The version is 4, and the header is no shorter than an IPv4 header is. -/
def SoundHeader (frame : List UInt8) : Prop :=
  (frame.getD (payloadOf frame).offset 0).toNat / 16 = 4 ∧
    5 ≤ (frame.getD (payloadOf frame).offset 0).toNat % 16

/-- A complete IPv4 header and after it a complete UDP header with port 67 or 68. -/
structure CompleteDhcp (frame : List UInt8) : Prop extends LooksLikeDhcp frame where
  sound : SoundHeader frame

/-- The frame is decoded, and as DHCP only if it is. -/
def Decoded (frame : List UInt8) : Prop :=
  ∃ category text, decode frame = .ok (category, text) ∧ (category = "dhcp" → CompleteDhcp frame)

/-! ### The condition -/

/-- Options that the loop goes through: none is the end, none the type of the message, and all are complete. -/
inductive Options : List UInt8 → Prop
  | nil : Options []
  | pad {rest : List UInt8} (h : Options rest) : Options (0 :: rest)
  | option {opt length : UInt8} {value rest : List UInt8} (hpad : opt ≠ 0) (hend : opt ≠ 255)
      (htype : ¬ (opt = 53 ∧ 1 ≤ length)) (hvalue : value.length = length.toNat) (h : Options rest) :
      Options (opt :: length :: (value ++ rest))

/-- The options end after the length of the message type, where its value should stand. -/
def CutType (options : List UInt8) : Prop :=
  ∃ before length, Options before ∧ 1 ≤ length ∧ options = before ++ [53, length]

/-- Headers of the right kind, and no message type cut off. -/
def Readable (frame : List UInt8) : Prop :=
  SoundHeader frame ∧ ¬ (HasOptions (frame.drop (udpOffset frame + 8)) ∧
    CutType ((frame.drop (udpOffset frame + 8)).drop 240))

/-! ### The loop over the options -/

theorem messageType_append : ∀ (value rest : List UInt8),
    messageType value.length (value ++ rest) = messageType 0 rest
  | [], _ => rfl
  | _ :: value, rest => by
    rw [List.length_cons, List.cons_append, messageType]
    exact messageType_append value rest

/-- Behind complete options the loop reads on. -/
theorem messageType_options {before : List UInt8} (h : Options before) (rest : List UInt8) (hrest : rest ≠ []) :
    messageType 0 (before ++ rest) = messageType 0 rest := by
  induction h with
  | nil => rfl
  | @pad tail h ih =>
    obtain ⟨b, more, hmore⟩ := List.exists_cons_of_ne_nil
      (show tail ++ rest ≠ [] from List.append_ne_nil_of_right_ne_nil tail hrest)
    rw [List.cons_append, hmore, messageType, if_neg (by decide), if_pos rfl, ← hmore]
    exact ih
  | @option opt length value tail hpad hend htype hvalue h ih =>
    rw [List.cons_append, List.cons_append, messageType, if_neg hend, if_neg hpad, if_neg htype,
      messageType, List.append_assoc, ← hvalue, messageType_append]
    exact ih

theorem messageType_cut {length : UInt8} (h : 1 ≤ length) :
    messageType 0 [53, length] = .error (.other "index out of range") := by
  rw [messageType, if_neg (by decide), if_neg (by decide), if_pos ⟨rfl, h⟩]
  rfl

/-- The loop raises at a message type that is cut off, and nowhere else. -/
theorem cut_of_messageType {e : Exn} (skip : ℕ) (options : List UInt8) (h : messageType skip options = .error e) :
    ∃ value rest, value.length = skip ∧ CutType rest ∧ options = value ++ rest := by
  induction skip, options using messageType.induct with
  | case1 skip =>
    rw [messageType] at h
    cases h
  | case2 skip b rest ih =>
    rw [messageType] at h
    obtain ⟨value, rest', hlen, hcut, rfl⟩ := ih h
    exact ⟨b :: value, rest', by rw [List.length_cons, hlen], hcut, rfl⟩
  | case3 b =>
    rw [messageType] at h
    cases h
  | case4 length rest =>
    rw [messageType, if_pos rfl] at h
    cases h
  | case5 length rest hend ih =>
    rw [messageType, if_neg hend, if_pos rfl] at h
    obtain ⟨value, rest', hlen, ⟨before, l, hbefore, hl, rfl⟩, heq⟩ := ih h
    obtain rfl := List.length_eq_zero_iff.mp hlen
    exact ⟨[], _, rfl, ⟨0 :: before, l, .pad hbefore, hl, rfl⟩, by rw [heq]; rfl⟩
  | case6 opt length rest hend hpad htype =>
    rw [messageType, if_neg hend, if_neg hpad, if_pos htype] at h
    cases rest with
    | nil => exact ⟨[], _, rfl, ⟨[], length, .nil, htype.2, by rw [htype.1]; rfl⟩, rfl⟩
    | cons b rest => cases h
  | case7 opt length rest hend hpad htype ih =>
    rw [messageType, if_neg hend, if_neg hpad, if_neg htype] at h
    obtain ⟨value, rest', hlen, ⟨before, l, hbefore, hl, rfl⟩, heq⟩ := ih h
    cases value with
    | nil => cases hlen
    | cons b value =>
      rw [List.cons_append, List.cons.injEq] at heq
      rw [List.length_cons, Nat.add_right_cancel_iff] at hlen
      obtain ⟨rfl, rfl⟩ := heq
      refine ⟨[], _, rfl, ⟨opt :: length :: (value ++ before), l, .option hpad hend htype hlen hbefore, hl, ?_⟩, rfl⟩
      rw [List.cons_append, List.cons_append, List.append_assoc]

/-- The loop raises exactly where the options end in the length of the message type. -/
theorem messageType_error_iff {options : List UInt8} : (∃ e, messageType 0 options = .error e) ↔ CutType options := by
  constructor
  · rintro ⟨e, he⟩
    obtain ⟨value, rest, hlen, hcut, rfl⟩ := cut_of_messageType 0 options he
    rw [List.length_eq_zero_iff.mp hlen]
    exact hcut
  · rintro ⟨before, length, hbefore, hl, rfl⟩
    refine ⟨.other "index out of range", ?_⟩
    rw [messageType_options hbefore _ (by simp)]
    exact messageType_cut hl

/-! ### Headers -/

theorem length_slice {data : List UInt8} {i j : ℕ} (h : j ≤ data.length) : (slice data i j).length = j - i := by
  unfold slice
  rw [List.length_drop, List.length_take, Nat.min_eq_left h]

theorem unpackOne_slice {data : List UInt8} {i width : ℕ} (h : i + width ≤ data.length) :
    unpackOne width (slice data i (i + width)) = .ok (unpack (slice data i (i + width))) := by
  unfold unpackOne
  rw [length_slice h, if_pos (by omega)]

theorem index_of_lt {data : List UInt8} {i : ℕ} (h : i < data.length) : index data i = .ok (data.getD i 0) := by
  unfold index
  rw [List.getD_eq_getElem?_getD, List.getElem?_eq_getElem h]
  rfl

theorem le_offset_untag (etype offset : ℕ) (tag : String) (data : List UInt8) :
    offset ≤ (untag etype offset tag data).offset := by
  induction etype, offset, tag, data using untag.induct with
  | case1 etype offset tag a b c d rest htag ih =>
    rw [untag, if_pos htag]
    omega
  | case2 etype offset tag a b c d rest htag =>
    rw [untag, if_neg htag]
  | case3 etype offset tag data hdata =>
    rw [untag]
    exact hdata

/-- The text of DHCP details is there unless a message type is cut off. -/
theorem dhcpDetail_iff {payload : List UInt8} :
    (∃ text, dhcpDetail payload = .ok text) ↔ ¬ (HasOptions payload ∧ CutType (payload.drop 240)) := by
  unfold dhcpDetail
  by_cases hopts : HasOptions payload
  · have hlong : 4 + 4 ≤ payload.length := by
      have hsize := hopts.1
      omega
    rw [if_pos hopts, unpackOne_slice hlong, ← messageType_error_iff]
    cases hm : messageType 0 (payload.drop 240) with
    | error e =>
      constructor
      · rintro ⟨text, htext⟩
        cases htext
      · intro hnot
        exact absurd ⟨hopts, e, rfl⟩ hnot
    | ok t =>
      constructor
      · rintro - ⟨-, e, he⟩
        cases he
      · intro _
        exact ⟨_, rfl⟩
  · rw [if_neg hopts]
    constructor
    · rintro - ⟨hhas, -⟩
      exact hopts hhas
    · intro _
      exact ⟨"", rfl⟩

/-- A datagram with a DHCP port. -/
theorem decodeUdp_dhcp {frame : List UInt8} {udp : ℕ} (base : String) (hlen : udp + 8 ≤ frame.length)
    (hport : portAt frame udp ∈ [67, 68] ∨ portAt frame (udp + 2) ∈ [67, 68]) :
    ∃ text, decodeUdp frame udp base =
      (dhcpDetail (frame.drop (udp + 8))).map fun detail => ("dhcp", text ++ detail) := by
  have hsport : unpackOne 2 (slice frame udp (udp + 2)) = .ok (portAt frame udp) := unpackOne_slice (by omega)
  have hdport : unpackOne 2 (slice frame (udp + 2) (udp + 4)) = .ok (portAt frame (udp + 2)) :=
    unpackOne_slice (by omega)
  unfold decodeUdp
  rw [if_neg (by omega), hsport, hdport]
  refine ⟨base ++ " UDP " ++ ofNat (portAt frame udp) ++ "->" ++ ofNat (portAt frame (udp + 2)) ++ " DHCP", ?_⟩
  show (if _ then _ else _) = _
  rw [if_pos hport]
  cases dhcpDetail (frame.drop (udp + 8)) <;> rfl

theorem decodeUdp_other {frame : List UInt8} {udp : ℕ} (base : String)
    (h : udp + 8 ≤ frame.length → ¬ (portAt frame udp ∈ [67, 68] ∨ portAt frame (udp + 2) ∈ [67, 68])) :
    ∃ text, decodeUdp frame udp base = .ok ("other", text) := by
  unfold decodeUdp
  split
  · exact ⟨_, rfl⟩
  · next hlen =>
    rw [Nat.not_lt] at hlen
    have hsport : unpackOne 2 (slice frame udp (udp + 2)) = .ok (portAt frame udp) := unpackOne_slice (by omega)
    have hdport : unpackOne 2 (slice frame (udp + 2) (udp + 4)) = .ok (portAt frame (udp + 2)) :=
      unpackOne_slice (by omega)
    rw [hsport, hdport]
    refine ⟨base ++ " UDP " ++ ofNat (portAt frame udp) ++ "->" ++ ofNat (portAt frame (udp + 2)), ?_⟩
    show (if _ then _ else _) = _
    rw [if_neg (h hlen)]

/-- An IPv4 packet of 20 bytes at least is a datagram or it is not. -/
theorem decodeIpv4_eq {frame : List UInt8} {offset : ℕ} (base : String) (h : offset + 20 ≤ frame.length) :
    ∃ text, decodeIpv4 frame offset base =
      if frame.getD (offset + 9) 0 ≠ 17 then .ok ("other", text)
      else decodeUdp frame (offset + (frame.getD offset 0).toNat % 16 * 4) text := by
  unfold decodeIpv4
  rw [index_of_lt (show offset < frame.length by omega), index_of_lt (show offset + 9 < frame.length by omega)]
  dsimp only [bind, Except.bind]
  split
  · exact ⟨_, rfl⟩
  · exact ⟨_, rfl⟩

/-- What stands behind the tags of a frame that is no runt. -/
theorem decode_eq {frame : List UInt8} (h : 14 ≤ frame.length) : ∃ base, decode frame =
    if (payloadOf frame).etype = 0x0806 ∧ (payloadOf frame).offset + 28 ≤ frame.length then
      decodeArp frame (payloadOf frame).offset base
    else if (payloadOf frame).etype ≠ 0x0800 ∨ frame.length < (payloadOf frame).offset + 20 then .ok ("other", base)
    else decodeIpv4 frame (payloadOf frame).offset base := by
  have htype : unpackOne 2 (slice frame 12 14) = .ok (unpack (slice frame 12 14)) := unpackOne_slice h
  unfold decode
  rw [if_neg (by omega), htype]
  exact ⟨_, rfl⟩

/-- **A frame with a DHCP port is DHCP**, and its details decide whether it is decoded. -/
theorem decode_dhcp {frame : List UInt8} (h : LooksLikeDhcp frame) : ∃ text, decode frame =
    (dhcpDetail (frame.drop (udpOffset frame + 8))).map fun detail => ("dhcp", text ++ detail) := by
  obtain ⟨base, hbase⟩ := decode_eq h.ethernet
  obtain ⟨text, htext⟩ := decodeIpv4_eq base h.header
  have hheader := h.header
  rw [hbase, if_neg (by rw [h.ipv4]; omega), if_neg (by rw [h.ipv4]; omega), htext, if_neg (by rw [h.udp]; simp)]
  exact decodeUdp_dhcp text h.datagram h.port

/-- Every other frame is decoded as something else. -/
theorem decode_other {frame : List UInt8} (h : ¬ LooksLikeDhcp frame) :
    ∃ category text, decode frame = .ok (category, text) ∧ category ≠ "dhcp" := by
  by_cases hlen : frame.length < 14
  · unfold decode
    rw [if_pos hlen]
    exact ⟨"short", _, rfl, by decide⟩
  · rw [Nat.not_lt] at hlen
    obtain ⟨base, hbase⟩ := decode_eq hlen
    rw [hbase]
    split
    · next harp =>
      have hop : unpackOne 2 (slice frame ((payloadOf frame).offset + 6) ((payloadOf frame).offset + 8)) =
          .ok (portAt frame ((payloadOf frame).offset + 6)) := unpackOne_slice (by omega)
      unfold decodeArp
      rw [hop]
      exact ⟨"arp", _, rfl, by decide⟩
    · split
      · exact ⟨"other", base, rfl, by decide⟩
      · next hip =>
        rw [not_or, not_not, Nat.not_lt] at hip
        obtain ⟨text, htext⟩ := decodeIpv4_eq base hip.2
        rw [htext]
        split
        · exact ⟨"other", text, rfl, by decide⟩
        · next hproto =>
          rw [not_not] at hproto
          have hother : ∃ text', decodeUdp frame (udpOffset frame) text = .ok ("other", text') := by
            refine decodeUdp_other text fun hdatagram hport => ?_
            exact h ⟨hlen, hip.1, hip.2, hproto, hdatagram, hport⟩
          obtain ⟨text', htext'⟩ := hother
          exact ⟨"other", text', htext', by decide⟩

/-- **Every frame is decoded, and as DHCP only if it is**, exactly when those with a DHCP port are readable. -/
theorem decoded_iff (frame : List UInt8) : Decoded frame ↔ (LooksLikeDhcp frame → Readable frame) := by
  by_cases h : LooksLikeDhcp frame
  · obtain ⟨text, htext⟩ := decode_dhcp h
    unfold Decoded Readable
    rw [htext, ← dhcpDetail_iff]
    cases hd : dhcpDetail (frame.drop (udpOffset frame + 8)) with
    | error e =>
      constructor
      · rintro ⟨category, t, ht, -⟩
        cases ht
      · intro hread
        obtain ⟨-, t, ht⟩ := hread h
        cases ht
    | ok detail =>
      constructor
      · rintro ⟨category, t, ht, hcomplete⟩ -
        have hcategory : category = "dhcp" := (congrArg Prod.fst (Except.ok.inj ht)).symm
        exact ⟨(hcomplete hcategory).sound, detail, rfl⟩
      · intro hread
        exact ⟨"dhcp", text ++ detail, rfl, fun _ => ⟨h, (hread h).1⟩⟩
  · constructor
    · intro _ hlooks
      exact absurd hlooks h
    · intro _
      obtain ⟨category, text, htext, hne⟩ := decode_other h
      exact ⟨category, text, htext, fun hdhcp => absurd hdhcp hne⟩

/-! ### Two frames -/

/-- A broadcast frame with an IPv4 packet from port 68 to port 67; `first` is the first byte of the packet. -/
def broadcast (first : UInt8) (payload : List UInt8) : List UInt8 :=
  List.replicate 6 0xff ++ [0x02, 0, 0, 0, 0, 1, 0x08, 0x00] ++
    (first :: List.replicate 8 0 ++ [17] ++ List.replicate 10 0) ++ [0, 68, 0, 67, 0, 0, 0, 0] ++ payload

/-- A message whose last bytes are the code and the length of the message type. -/
def cutMessage : List UInt8 := List.replicate 236 0 ++ cookie ++ [53, 1]

/-- A packet whose header is no longer than the address it begins with: the ports are read out of it. -/
def shortHeader : List UInt8 :=
  List.replicate 6 0xff ++ [0x02, 0, 0, 0, 0, 1, 0x08, 0x00] ++ [0x40, 0, 0, 67] ++ List.replicate 5 0 ++ [17] ++
    List.replicate 10 0

/-- The first one raises; the second one counts as DHCP. -/
theorem cut_frame_raises : decode (broadcast 0x45 cutMessage) = .error (.other "index out of range") ∧
    ¬ Decoded (broadcast 0x45 cutMessage) ∧ (decode shortHeader).map Prod.fst = .ok "dhcp" ∧
    ¬ Decoded shortHeader := by
  have hcut : decode (broadcast 0x45 cutMessage) = .error (.other "index out of range") := by decide +kernel
  have hshort : (decode shortHeader).map Prod.fst = .ok "dhcp" := by decide
  refine ⟨hcut, ?_, hshort, ?_⟩
  · rintro ⟨category, text, htext, -⟩
    rw [hcut] at htext
    cases htext
  · rintro ⟨category, text, htext, hcomplete⟩
    rw [htext] at hshort
    have hsound := (hcomplete (Except.ok.inj hshort)).sound
    unfold SoundHeader at hsound
    exact absurd hsound (by decide)

/-- The whole message is a DISCOVER. -/
example : (decode (broadcast 0x45 (cutMessage ++ [1]))).map Prod.fst = .ok "dhcp" := by decide +kernel

end Sbegw.Dhcptrace
