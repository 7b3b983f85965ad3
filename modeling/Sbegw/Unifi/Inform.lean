import Sbegw.Unifi.Agent
import Mathlib.Data.Set.Finite.List

/-!
# The frames of an inform

`encode_inform` and `decode_inform` over ciphers, compression and JSON that are parameters.  A frame is
a header of forty bytes and the encrypted payload, whose length stands in the last four bytes of the
header.
-/

namespace Sbegw.Unifi

open Text Bytes

/-! ### The code -/

/-- The packages that the framing uses; `none` where they raise. -/
structure Codec where
  /-- `json.dumps(payload, separators=(",", ":")).encode()` -/
  dumps : Obj → List UInt8
  /-- `json.loads` -/
  loads : List UInt8 → Option Json
  /-- `zlib.compress` -/
  compress : List UInt8 → List UInt8
  /-- `zlib.decompress` -/
  decompress : List UInt8 → Option (List UInt8)
  /-- `PKCS7(128)` -/
  pad : List UInt8 → List UInt8
  unpad : List UInt8 → Option (List UInt8)
  /-- AES-CBC with a key and an iv -/
  cbcEncrypt : List UInt8 → List UInt8 → List UInt8 → Option (List UInt8)
  cbcDecrypt : List UInt8 → List UInt8 → List UInt8 → Option (List UInt8)
  /-- AES-GCM with a key, an iv and additional data: the ciphertext and the tag -/
  gcmEncrypt : List UInt8 → List UInt8 → List UInt8 → List UInt8 → Option (List UInt8 × List UInt8)
  gcmDecrypt : List UInt8 → List UInt8 → List UInt8 → List UInt8 → List UInt8 → Option (List UInt8)

/-- What the framing raises. -/
inductive InformError where
  /-- `ProtocolError` -/
  | protocol (text : String)
  /-- `ValueError` of `int` or `bytes` -/
  | value
  /-- `struct.error` -/
  | struct
  /-- an error of a cipher or of its padding -/
  | cipher
  /-- `zlib.error` -/
  | zlib
deriving DecidableEq

/-- `MAGIC` -/
def magic : List UInt8 := [0x54, 0x4e, 0x42, 0x55]

/-- `bytes(int(part, 16) for part in mac.split(":"))`, `none` where it raises. -/
def macBytes (mac : String) : Option (List UInt8) :=
  (split ':' mac).mapM fun part =>
    (readHex part).bind fun i => if 0 ≤ i ∧ i < 256 then some (UInt8.ofNat i.toNat) else none

/-- The value, or the error that a package raises. -/
def orError {β : Type} (e : InformError) : Option β → Except InformError β
  | some b => .ok b
  | none => .error e

/-- The forty bytes of a header. -/
def headerBytes (macRaw : List UInt8) (flags : ℕ) (iv : List UInt8) (payloadLen : ℕ) : List UInt8 :=
  magic ++ (pack 4 1 ++ (macRaw ++ (pack 2 flags ++ (iv ++ (pack 4 1 ++ pack 4 payloadLen)))))

/-- The header of a frame; `struct.pack` refuses a length that does not fit. -/
def header (macRaw : List UInt8) (flags : ℕ) (iv : List UInt8) (payloadLen : ℕ) :
    Except InformError (List UInt8) :=
  if payloadLen < 2 ^ 32 then .ok (headerBytes macRaw flags iv payloadLen) else .error .struct

/-- A frame with an authenticated payload; the header is authenticated with it. -/
def gcmFrame (c : Codec) (macRaw key iv raw : List UInt8) : Except InformError (List UInt8) := do
  let header ← header macRaw (0x01 ||| 0x02 ||| 0x08) iv (raw.length + 16)
  let (encrypted, tag) ← orError .cipher (c.gcmEncrypt key iv header raw)
  .ok (header ++ (encrypted ++ tag))

def cbcFrame (c : Codec) (macRaw key iv raw : List UInt8) : Except InformError (List UInt8) := do
  let encrypted ← orError .cipher (c.cbcEncrypt key iv (c.pad raw))
  let header ← header macRaw (0x01 ||| 0x02) iv encrypted.length
  .ok (header ++ encrypted)

/-- `encode_inform`; `random` is what `os.urandom` answers. -/
def encodeInform (c : Codec) (payload : Obj) (mac : String) (key : List UInt8) (gcm : Bool)
    (iv : Option (List UInt8)) (random : List UInt8) : Except InformError (List UInt8) := do
  let iv := if (iv.getD []).isEmpty then random else iv.getD []
  let raw := c.compress (c.dumps payload)
  let macRaw ← orError .value (macBytes mac)
  if macRaw.length ≠ 6 then .error (.protocol "inform identity is not a six-byte MAC")
  else if gcm then gcmFrame c macRaw key iv raw
  else cbcFrame c macRaw key iv raw

/-- The length that a packet declares. -/
def declaredLength (packet : List UInt8) : ℕ := unpack (slice packet 36 40)

/-- The compressed payload of a packet. -/
def decrypted (c : Codec) (packet key : List UInt8) : Except InformError (List UInt8) :=
  let flags := unpack (slice packet 14 16)
  let iv := slice packet 16 32
  let body := slice packet 40 (40 + declaredLength packet)
  if flags &&& 0x08 ≠ 0 then
    if body.length < 16 then .error (.protocol "truncated AES-GCM tag")
    else orError .cipher (c.gcmDecrypt key iv (packet.take 40) (body.take (body.length - 16))
      (body.drop (body.length - 16)))
  else do
    let padded ← orError .cipher (c.cbcDecrypt key iv body)
    orError .cipher (c.unpad padded)

/-- The text of the payload. -/
def inflated (c : Codec) (flags : ℕ) (raw : List UInt8) : Except InformError (List UInt8) :=
  if flags &&& 0x02 ≠ 0 then orError .zlib (c.decompress raw)
  else if flags &&& 0x04 ≠ 0 then
    .error (.protocol "Snappy-compressed controller response is unsupported")
  else .ok raw

/-- The object that a text stands for. -/
def parsed (c : Codec) (raw : List UInt8) : Except InformError Obj :=
  match c.loads raw with
  | none => .error (.protocol "controller response is not JSON")
  | some (.obj value) => .ok value
  | some _ => .error (.protocol "controller response must be an object")

/-- `decode_inform` -/
def decodeInform (c : Codec) (packet key : List UInt8) : Except InformError Obj :=
  if packet.length < 40 ∨ packet.take 4 ≠ magic then .error (.protocol "invalid TNBU response")
  else if packet.length - 40 < declaredLength packet then
    .error (.protocol "truncated TNBU response")
  else do
    let raw ← decrypted c packet key
    let raw ← inflated c (unpack (slice packet 14 16)) raw
    parsed c raw

/-! ### The property -/

/-- A key that AES takes. -/
def LegalKey (key : List UInt8) : Prop := key.length = 16 ∨ key.length = 24 ∨ key.length = 32

/-- The encoders are inverted by their decoders: compression, padding and the ciphers on everything,
JSON on the payload. -/
structure Codec.Inverts (c : Codec) (payload : Obj) : Prop where
  json : c.loads (c.dumps payload) = some (.obj payload)
  zlib : ∀ data, c.decompress (c.compress data) = some data
  pad : ∀ data, c.unpad (c.pad data) = some data
  cbc : ∀ key iv data, LegalKey key → iv.length = 16 → ∃ encrypted,
    c.cbcEncrypt key iv (c.pad data) = some encrypted ∧ c.cbcDecrypt key iv encrypted = some (c.pad data)
  /-- the ciphertext is as long as the data, and the tag has sixteen bytes -/
  gcm : ∀ key iv extra data, LegalKey key → iv.length = 16 → ∃ encrypted tag,
    c.gcmEncrypt key iv extra data = some (encrypted, tag) ∧ encrypted.length = data.length ∧
      tag.length = 16 ∧ c.gcmDecrypt key iv extra encrypted tag = some data

/-- A frame of a payload: it is decoded to the payload, it declares the bytes after the header, and no
proper prefix of it is taken for a frame. -/
structure Framed (c : Codec) (payload : Obj) (key frame : List UInt8) : Prop where
  decoded : decodeInform c frame key = .ok payload
  declared : 40 ≤ frame.length ∧ declaredLength frame = frame.length - 40
  truncated : ∀ part, part <+: frame → part ≠ frame →
    ∃ text, decodeInform c part key = .error (.protocol text)

/-- The bytes that follow the header. -/
def payloadLength (c : Codec) (payload : Obj) (key : List UInt8) (gcm : Bool) (iv : List UInt8) : ℕ :=
  let raw := c.compress (c.dumps payload)
  if gcm then raw.length + 16 else ((c.cbcEncrypt key iv (c.pad raw)).getD []).length

/-! ### Reading a header back -/

section Header

variable {macRaw iv body : List UInt8} {flags len : ℕ}

theorem length_headerBytes (hmac : macRaw.length = 6) (hiv : iv.length = 16) :
    (headerBytes macRaw flags iv len).length = 40 := by
  simp only [headerBytes, List.length_append, length_pack, hmac, hiv]
  rfl

theorem take_magic : (headerBytes macRaw flags iv len ++ body).take 4 = magic := by
  show (magic ++ _ ++ body).take 4 = magic
  rw [List.append_assoc]
  exact List.take_left' rfl

theorem take_header (hmac : macRaw.length = 6) (hiv : iv.length = 16) :
    (headerBytes macRaw flags iv len ++ body).take 40 = headerBytes macRaw flags iv len :=
  List.take_left' (length_headerBytes hmac hiv)

theorem flags_header (hmac : macRaw.length = 6) (hflags : flags < 65536) :
    unpack (slice (headerBytes macRaw flags iv len ++ body) 14 16) = flags := by
  have hshape : headerBytes macRaw flags iv len ++ body = (magic ++ (pack 4 1 ++ macRaw)) ++
      (pack 2 flags ++ (iv ++ (pack 4 1 ++ pack 4 len) ++ body)) := by
    simp [headerBytes]
  rw [hshape, slice_middle (by simp [hmac, magic]) (by simp)]
  exact unpack_pack 2 flags (by omega)

theorem iv_header (hmac : macRaw.length = 6) (hiv : iv.length = 16) :
    slice (headerBytes macRaw flags iv len ++ body) 16 32 = iv := by
  have hshape : headerBytes macRaw flags iv len ++ body = (magic ++ (pack 4 1 ++ (macRaw ++ pack 2 flags))) ++
      (iv ++ (pack 4 1 ++ pack 4 len ++ body)) := by
    simp [headerBytes]
  rw [hshape, slice_middle (by simp [hmac, magic]) (by rw [hiv])]

theorem declared_header (hmac : macRaw.length = 6) (hiv : iv.length = 16) (hlen : len < 2 ^ 32) :
    declaredLength (headerBytes macRaw flags iv len ++ body) = len := by
  have hshape : headerBytes macRaw flags iv len ++ body =
      (magic ++ (pack 4 1 ++ (macRaw ++ (pack 2 flags ++ (iv ++ pack 4 1))))) ++ (pack 4 len ++ body) := by
    simp [headerBytes]
  unfold declaredLength
  rw [hshape, slice_middle (by simp [hmac, hiv, magic]) (by simp)]
  exact unpack_pack 4 len (by omega)

theorem body_header (hmac : macRaw.length = 6) (hiv : iv.length = 16) (hbody : body.length = len) :
    slice (headerBytes macRaw flags iv len ++ body) 40 (40 + len) = body := by
  have hheader : (headerBytes macRaw flags iv len).length = 40 := length_headerBytes hmac hiv
  have hend : 40 + body.length = 40 + len := by rw [hbody]
  have hmiddle := slice_middle hheader hend []
  rwa [List.append_nil] at hmiddle

/-! ### Frames -/

/-- A packet with all of its payload is decoded by what it is decrypted to. -/
theorem decoded_of_decrypted {c : Codec} {payload : Obj} {key : List UInt8} (hc : c.Inverts payload)
    (hmac : macRaw.length = 6) (hiv : iv.length = 16) (hlen : len < 2 ^ 32) (hbody : body.length = len)
    (hflags : flags < 65536) (hzip : flags &&& 0x02 ≠ 0)
    (hraw : decrypted c (headerBytes macRaw flags iv len ++ body) key = .ok (c.compress (c.dumps payload))) :
    decodeInform c (headerBytes macRaw flags iv len ++ body) key = .ok payload := by
  have htotal : (headerBytes macRaw flags iv len ++ body).length = 40 + len := by
    rw [List.length_append, length_headerBytes hmac hiv, hbody]
  have hvalid : ¬ ((headerBytes macRaw flags iv len ++ body).length < 40 ∨
      (headerBytes macRaw flags iv len ++ body).take 4 ≠ magic) := by
    rw [htotal, take_magic]
    simp
  have hwhole : ¬ (headerBytes macRaw flags iv len ++ body).length - 40 <
      declaredLength (headerBytes macRaw flags iv len ++ body) := by
    rw [htotal, declared_header hmac hiv hlen]
    omega
  have hinflated : inflated c flags (c.compress (c.dumps payload)) = .ok (c.dumps payload) := by
    unfold inflated
    rw [if_pos hzip, hc.zlib]
    rfl
  have hparsed : parsed c (c.dumps payload) = .ok payload := by
    unfold parsed
    rw [hc.json]
  unfold decodeInform
  rw [if_neg hvalid, if_neg hwhole, hraw, flags_header hmac hflags]
  show (inflated c flags (c.compress (c.dumps payload))).bind (parsed c) = .ok payload
  rw [hinflated]
  exact hparsed

/-- A packet that stops early is refused, before or after the length is known. -/
theorem truncated_of_prefix {c : Codec} {key part : List UInt8} (hmac : macRaw.length = 6)
    (hiv : iv.length = 16) (hlen : len < 2 ^ 32) (hbody : body.length = len)
    (hpart : part <+: headerBytes macRaw flags iv len ++ body)
    (hne : part ≠ headerBytes macRaw flags iv len ++ body) :
    ∃ text, decodeInform c part key = .error (.protocol text) := by
  have htake : part = (headerBytes macRaw flags iv len ++ body).take part.length := List.prefix_iff_eq_take.mp hpart
  have hshort : part.length < 40 + len := by
    have htotal : (headerBytes macRaw flags iv len ++ body).length = 40 + len := by
      rw [List.length_append, length_headerBytes hmac hiv, hbody]
    have hle : part.length ≤ 40 + len := htotal ▸ hpart.length_le
    rcases hle.lt_or_eq with hlt | heq
    · exact hlt
    · exact absurd (hpart.eq_of_length (heq.trans htotal.symm)) hne
  unfold decodeInform
  by_cases hinvalid : part.length < 40 ∨ part.take 4 ≠ magic
  · rw [if_pos hinvalid]
    exact ⟨_, rfl⟩
  · have hlong : 40 ≤ part.length := by
      by_contra hlt
      exact hinvalid (.inl (by omega))
    have hdeclared : declaredLength part = len := by
      unfold declaredLength
      rw [htake, slice_take hlong]
      exact declared_header hmac hiv hlen
    rw [if_neg hinvalid, if_pos (show part.length - 40 < declaredLength part by rw [hdeclared]; omega)]
    exact ⟨_, rfl⟩

theorem framed_of_decrypted {c : Codec} {payload : Obj} {key : List UInt8} (hc : c.Inverts payload)
    (hmac : macRaw.length = 6) (hiv : iv.length = 16) (hlen : len < 2 ^ 32) (hbody : body.length = len)
    (hflags : flags < 65536) (hzip : flags &&& 0x02 ≠ 0)
    (hraw : decrypted c (headerBytes macRaw flags iv len ++ body) key = .ok (c.compress (c.dumps payload))) :
    Framed c payload key (headerBytes macRaw flags iv len ++ body) := by
  refine ⟨decoded_of_decrypted hc hmac hiv hlen hbody hflags hzip hraw, ?_,
    fun part hpart hne => truncated_of_prefix hmac hiv hlen hbody hpart hne⟩
  rw [List.length_append, length_headerBytes hmac hiv, hbody, declared_header hmac hiv hlen]
  omega

end Header

/-! ### Encoding -/

/-- What both modes start from. -/
theorem encodeInform_eq (c : Codec) (payload : Obj) {mac : String} {macRaw iv : List UInt8}
    (key random : List UInt8) (gcm : Bool) (hmac : macBytes mac = some macRaw) (hsix : macRaw.length = 6)
    (hiv : iv.length = 16) : encodeInform c payload mac key gcm (some iv) random =
      if gcm then gcmFrame c macRaw key iv (c.compress (c.dumps payload))
      else cbcFrame c macRaw key iv (c.compress (c.dumps payload)) := by
  have hgiven : ¬ ((some iv).getD []).isEmpty = true := by
    rw [List.isEmpty_iff]
    intro hempty
    have hzero : iv.length = 0 := congrArg List.length hempty
    omega
  unfold encodeInform
  rw [if_neg hgiven, hmac]
  show (if macRaw.length ≠ 6 then _ else _) = _
  rw [if_neg (not_not.mpr hsix)]
  rfl

theorem framed_gcm {c : Codec} {payload : Obj} {macRaw key iv : List UInt8} (hc : c.Inverts payload)
    (hsix : macRaw.length = 6) (hkey : LegalKey key) (hiv : iv.length = 16)
    (hfits : (c.compress (c.dumps payload)).length + 16 < 2 ^ 32) :
    ∃ frame, gcmFrame c macRaw key iv (c.compress (c.dumps payload)) = .ok frame ∧
      Framed c payload key frame := by
  generalize hraw : c.compress (c.dumps payload) = raw at hfits ⊢
  obtain ⟨encrypted, tag, hencrypt, hlen, htag, hdecrypt⟩ :=
    hc.gcm key iv (headerBytes macRaw 11 iv (raw.length + 16)) raw hkey hiv
  have hbody : (encrypted ++ tag).length = raw.length + 16 := by rw [List.length_append, hlen, htag]
  have hheader : header macRaw (0x01 ||| 0x02 ||| 0x08) iv (raw.length + 16) =
      .ok (headerBytes macRaw 11 iv (raw.length + 16)) := if_pos hfits
  refine ⟨headerBytes macRaw 11 iv (raw.length + 16) ++ (encrypted ++ tag), ?_,
    framed_of_decrypted hc hsix hiv hfits hbody (by decide) (by decide) ?_⟩
  · unfold gcmFrame
    rw [hheader]
    show (orError .cipher (c.gcmEncrypt key iv (headerBytes macRaw 11 iv (raw.length + 16)) raw)).bind _ = _
    rw [hencrypt]
    rfl
  · unfold decrypted
    simp only
    rw [flags_header hsix (by decide), iv_header hsix hiv, declared_header hsix hiv hfits,
      body_header hsix hiv hbody, take_header hsix hiv, if_pos (by decide),
      if_neg (show ¬ (encrypted ++ tag).length < 16 by omega),
      show (encrypted ++ tag).length - 16 = encrypted.length by omega, List.take_left' rfl,
      List.drop_left' rfl, hdecrypt, hraw]
    rfl

theorem framed_cbc {c : Codec} {payload : Obj} {macRaw key iv : List UInt8} (hc : c.Inverts payload)
    (hsix : macRaw.length = 6) (hkey : LegalKey key) (hiv : iv.length = 16)
    (hfits : ((c.cbcEncrypt key iv (c.pad (c.compress (c.dumps payload)))).getD []).length < 2 ^ 32) :
    ∃ frame, cbcFrame c macRaw key iv (c.compress (c.dumps payload)) = .ok frame ∧
      Framed c payload key frame := by
  generalize hraw : c.compress (c.dumps payload) = raw at hfits ⊢
  obtain ⟨encrypted, hencrypt, hdecrypt⟩ := hc.cbc key iv raw hkey hiv
  rw [hencrypt] at hfits
  have hlen : encrypted.length < 2 ^ 32 := hfits
  have hheader : header macRaw (0x01 ||| 0x02) iv encrypted.length =
      .ok (headerBytes macRaw 3 iv encrypted.length) := if_pos hlen
  refine ⟨headerBytes macRaw 3 iv encrypted.length ++ encrypted, ?_,
    framed_of_decrypted hc hsix hiv hlen rfl (by decide) (by decide) ?_⟩
  · unfold cbcFrame
    rw [hencrypt]
    show (header macRaw (0x01 ||| 0x02) iv encrypted.length).bind _ = _
    rw [hheader]
    rfl
  · unfold decrypted
    simp only
    rw [flags_header hsix (by decide), iv_header hsix hiv, declared_header hsix hiv hlen,
      body_header hsix hiv rfl, if_neg (by decide), hdecrypt]
    show orError .cipher (c.unpad (c.pad raw)) = .ok (c.compress (c.dumps payload))
    rw [hc.pad, hraw]
    rfl

/-- **The framing round trip**: a payload whose encryption fits the length field is framed. -/
theorem encodeInform_framed (c : Codec) (payload : Obj) (mac : String) (macRaw key iv random : List UInt8)
    (gcm : Bool) (hc : c.Inverts payload) (hmac : macBytes mac = some macRaw) (hsix : macRaw.length = 6)
    (hkey : LegalKey key) (hiv : iv.length = 16) (hfits : payloadLength c payload key gcm iv < 2 ^ 32) :
    ∃ frame, encodeInform c payload mac key gcm (some iv) random = .ok frame ∧
      Framed c payload key frame := by
  rw [encodeInform_eq c payload key random gcm hmac hsix hiv]
  cases gcm with
  | true => exact framed_gcm hc hsix hkey hiv hfits
  | false => exact framed_cbc hc hsix hkey hiv hfits

/-! ### A frame, and the payloads that none can hold -/

def swap (a b x : List UInt8) : List UInt8 := if x = a then b else if x = b then a else x

theorem swap_swap (a b x : List UInt8) : swap a b (swap a b x) = x := by
  unfold swap
  by_cases hb : x = b
  · by_cases ha : b = a
    · rw [hb, if_pos ha, if_pos ha, ha]
    · rw [hb, if_neg ha, if_pos rfl, if_pos rfl]
  · by_cases ha : x = a
    · by_cases hba : b = a
      · rw [if_pos ha, if_pos hba, ha, hba]
      · rw [if_pos ha, if_neg hba, if_pos rfl, ha]
    · rw [if_neg ha, if_neg hb, if_neg ha, if_neg hb]

/-- `PKCS7(128)` -/
def pkcs7 (data : List UInt8) : List UInt8 :=
  data ++ List.replicate (16 - data.length % 16) (UInt8.ofNat (16 - data.length % 16))

def unpkcs7 (padded : List UInt8) : Option (List UInt8) :=
  padded.getLast?.map fun b => padded.take (padded.length - b.toNat)

theorem unpkcs7_pkcs7 (data : List UInt8) : unpkcs7 (pkcs7 data) = some data := by
  obtain ⟨k, hk⟩ : ∃ k, 16 - data.length % 16 = k + 1 := ⟨15 - data.length % 16, by omega⟩
  have hlast : (pkcs7 data).getLast? = some (UInt8.ofNat (k + 1)) := by
    unfold pkcs7
    rw [hk, List.replicate_succ', ← List.append_assoc, List.getLast?_concat]
  have hbyte : (UInt8.ofNat (k + 1)).toNat = k + 1 := by
    rw [UInt8.toNat_ofNat']
    omega
  have hlen : (pkcs7 data).length - (k + 1) = data.length := by
    unfold pkcs7
    rw [hk, List.length_append, List.length_replicate]
    omega
  unfold unpkcs7
  rw [hlast, Option.map_some, hbyte, hlen]
  exact congrArg some (List.take_left' rfl)

/-- `zlib.compress(b"{}")` -/
def compressedEmpty : List UInt8 := [120, 156, 171, 174, 5, 0, 1, 117, 0, 249]

/-- Its encryption in CBC mode with the well-known key and the iv 0, 1, …, 15. -/
def encryptedEmpty : List UInt8 :=
  [19, 39, 181, 127, 204, 94, 23, 131, 85, 149, 134, 151, 55, 246, 77, 4]

def sampleIv : List UInt8 := [0, 1, 2, 3, 4, 5, 6, 7, 8, 9, 10, 11, 12, 13, 14, 15]

/-- A codec that does what the packages do with the empty object in CBC mode. -/
def emptyCodec : Codec where
  dumps _ := [0x7b, 0x7d]
  loads raw := if raw = [0x7b, 0x7d] then some (.obj []) else none
  compress := swap [0x7b, 0x7d] compressedEmpty
  decompress data := some (swap [0x7b, 0x7d] compressedEmpty data)
  pad := pkcs7
  unpad := unpkcs7
  cbcEncrypt _ _ data := some (swap (pkcs7 compressedEmpty) encryptedEmpty data)
  cbcDecrypt _ _ data := some (swap (pkcs7 compressedEmpty) encryptedEmpty data)
  gcmEncrypt _ _ _ data := some (data, List.replicate 16 0)
  gcmDecrypt _ _ _ data _ := some data

theorem inverts_emptyCodec : emptyCodec.Inverts [] where
  json := by decide
  zlib data := congrArg some (swap_swap _ _ data)
  pad := unpkcs7_pkcs7
  cbc key iv data _ _ := ⟨_, rfl, congrArg some (swap_swap _ _ (pkcs7 data))⟩
  gcm key iv extra data _ _ := ⟨data, _, rfl, rfl, rfl, rfl⟩

theorem encodeInform_framed_empty : ∃ frame,
    encodeInform emptyCodec [] "02:00:5e:00:53:10" masterKey false (some sampleIv) [] = .ok frame ∧
      Framed emptyCodec [] masterKey frame :=
  encodeInform_framed emptyCodec [] "02:00:5e:00:53:10" [2, 0, 0x5e, 0, 0x53, 0x10] masterKey sampleIv []
    false inverts_emptyCodec (by decide) rfl (.inl rfl) rfl (by decide)

/-- A payload with a text of `n` characters. -/
def longPayload (n : ℕ) : Obj := [("text", .str (String.ofList (List.replicate n 'a')))]

theorem longPayload_injective : Function.Injective longPayload := by
  intro m n h
  have htext : Json.str (String.ofList (List.replicate m 'a')) = .str (String.ofList (List.replicate n 'a')) :=
    congrArg Prod.snd (List.cons.inj h).1
  have hchars := congrArg String.toList (Json.str.inj htext)
  rw [String.toList_ofList, String.toList_ofList] at hchars
  have hlen := congrArg List.length hchars
  rwa [List.length_replicate, List.length_replicate] at hlen

/-- **No codec frames every payload**: the length field has four bytes, and there are more payloads than
frames that it can declare. -/
theorem no_codec_frames : ¬ ∃ c : Codec, ∃ gcm, ∀ n, ∃ frame,
    encodeInform c (longPayload n) "02:00:5e:00:53:10" masterKey gcm (some sampleIv) [] = .ok frame ∧
      Framed c (longPayload n) masterKey frame := by
  rintro ⟨c, gcm, hall⟩
  choose frame hencode hframed using hall
  have hinj : Function.Injective frame := by
    intro m n h
    have hm := (hframed m).decoded
    rw [h, (hframed n).decoded] at hm
    exact longPayload_injective (Except.ok.inj hm).symm
  have hfinite : Finite UInt8 := Finite.of_injective (fun b : UInt8 => b.toFin) fun _ _ h => UInt8.toFin_inj.mp h
  have hshort : ∀ n, (frame n).length < 40 + 2 ^ 32 := by
    intro n
    obtain ⟨hheader, hdeclared⟩ := (hframed n).declared
    have hlt : declaredLength (frame n) < 256 ^ 4 := by
      refine lt_of_lt_of_le (unpack_lt _) ?_
      exact Nat.pow_le_pow_right (by decide) (length_slice_le _ 36 40)
    omega
  have hrange : (Set.range frame).Finite := by
    refine (List.finite_length_lt UInt8 (40 + 2 ^ 32)).subset ?_
    rintro _ ⟨n, rfl⟩
    exact hshort n
  exact Set.infinite_range_of_injective hinj hrange

end Sbegw.Unifi
