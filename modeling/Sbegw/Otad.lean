import Sbegw.Json
import Sbegw.Schema.Primitives
import Sbegw.Lib.Bytes
import Sbegw.Lib.Effects

/-!
# Firmware updates

`otad`: the inspection of a sysupgrade image, and the update that writes its two payloads.  The image is
what `tarfile` makes of the file; the block devices are a parameter that may do anything.
-/

namespace Sbegw.Otad

open Text Effects Schema

/-! ### Images -/

/-- What reading a member of a tar file gives. -/
inductive Content where
  | bytes (data : List UInt8)
  /-- no file: a directory or a device node -/
  | nothing
  /-- `TarError` or `OSError` -/
  | unreadable
  /-- any other exception, such as the `KeyError` of a link without target -/
  | broken
deriving DecidableEq

/-- A member: its name, the size that its header gives, and its content.  The content of a link is that
of its target. -/
structure Member where
  name : String
  size : ℕ
  content : Content

/-- What `tarfile.open` and `getmembers` give. -/
inductive Tar where
  /-- `TarError` or `OSError` -/
  | refused (text : String)
  /-- any other exception, such as the `EOFError` of a truncated compressed file -/
  | broken
  | members (ms : List Member)

/-- What is at a path. -/
inductive Image where
  | absent
  /-- a file that cannot be read -/
  | unreadable
  | file (data : List UInt8) (tar : Tar)

/-- The partitions of the device: the device node of a label, the size that is read for a node (0 where
none is read), and the real size. -/
structure Board where
  partition : String → Option String
  bytes : String → ℕ
  real : String → ℕ
  truthful : ∀ node, bytes node = 0 ∨ bytes node = real node

/-- What an update raises. -/
inductive Failure where
  /-- `UpdateError` -/
  | update (text : String)
  | os (text : String)
  | key
  | other
deriving DecidableEq

/-! ### Inspection -/

/-- `BOARD` -/
def board : String := "askey_sbe1v1k"

/-- `BLOCK` -/
def block : ℕ := 2 ^ 20

/-- `MIN_ROOTFS_BYTES` and `MIN_KERNEL_BYTES` -/
def floor (payload : String) : ℕ := if payload = "root" then 16 * 2 ^ 20 else 2 ^ 20

/-- `SQUASHFS_MAGIC` and `FIT_MAGIC` -/
def magic (payload : String) : List UInt8 :=
  if payload = "root" then [0x68, 0x73, 0x71, 0x73] else [0xd0, 0x0d, 0xfe, 0xed]

structure Entry where
  size : ℕ
  partition : String
  device : Option String
  capacity : ℕ

structure Report where
  path : String
  ok : Bool
  problems : List String
  payloads : Dict String Entry
  sha256 : Option String
  board : Option String
  size : Option ℕ

/-- `members.get(name)`, and `getmember`: the last member of a name. -/
def memberOf (ms : List Member) (name : String) : Option Member := ms.reverse.find? fun m => m.name = name

/-- `tar.extractfile(name)` and what is read from it. -/
def extractfile (ms : List Member) (name : String) : Except Failure Content :=
  match memberOf ms name with
  | none => .error .key
  | some m => .ok m.content

/-- `_read_member` -/
def readMember (ms : List Member) (name : String) (count : ℕ) : Except Failure (List UInt8) := do
  match ← extractfile ms name with
  | .bytes data => .ok (data.take count)
  | .broken => .error .other
  | _ => .ok []

/-- The first parts of the names with a `/`. -/
def prefixes (ms : List Member) : List String :=
  (ms.filterMap fun m => (cut "/" m.name).map Prod.fst).eraseDups

/-- `s.replace(p, "")`, read for at most `n` characters. -/
def removeChars (p : List Char) : ℕ → List Char → List Char
  | 0, cs => cs
  | _ + 1, [] => []
  | n + 1, c :: cs =>
    match stripPrefix? p (c :: cs) with
    | some rest => removeChars p n rest
    | none => c :: removeChars p n cs

/-- `prefix.replace("sysupgrade-", "")` -/
def boardOf (dir : String) : String :=
  String.ofList (removeChars "sysupgrade-".toList dir.length dir.toList)

/-- `_device_for`, with what has been found before. -/
def deviceFor (b : Board) (devices : Dict String String) (label : String) : Option String :=
  (Dict.lookup label devices).orElse fun _ => b.partition label

/-- The entry of a member. -/
def entryOf (b : Board) (devices : Dict String String) (label : String) (member : Member) : Entry :=
  let device := deviceFor b devices label
  ⟨member.size, label, device, device.elim 0 b.bytes⟩

/-- The problems with the place for a payload. -/
def placeProblems (payload : String) (entry : Entry) : List String :=
  if entry.device.isNone then ["no partition named '" ++ entry.partition ++ "' on this device"]
  else if entry.capacity ≠ 0 ∧ entry.capacity < entry.size then
    [payload ++ " is " ++ ofNat entry.size ++ " bytes but " ++ entry.partition ++ " holds only " ++
      ofNat entry.capacity]
  else []

/-- The problem with the first bytes of a payload. -/
def magicProblems (payload : String) (seen : List UInt8) : List String :=
  if (magic payload).isPrefixOf seen then []
  else [payload ++ " does not start with the expected " ++ (if payload = "root" then "SquashFS" else "FIT") ++
    " magic (saw " ++ Bytes.hex (seen.take 4) ++ ")"]

/-- The inspection of one payload: its entry, and the problems. -/
def inspectPayload (b : Board) (devices : Dict String String) (ms : List Member) (dir payload label : String) :
    Except Failure (Option Entry × List String) :=
  match memberOf ms (dir ++ "/" ++ payload) with
  | none => .ok (none, ["missing " ++ dir ++ "/" ++ payload])
  | some member =>
    let entry := entryOf b devices label member
    if member.size < floor payload then
      .ok (some entry, placeProblems payload entry ++ [payload ++ " is only " ++ ofNat member.size ++
        " bytes; that is a truncated download, not firmware"])
    else do
      let seen ← readMember ms member.name 4
      .ok (some entry, placeProblems payload entry ++ magicProblems payload seen)

/-- `sorted(prefixes)` as a text. -/
def showSorted (names : List String) : String := pyStr (.arr ((names.mergeSort fun a b => a ≤ b).map .str))

/-- The inspection of the members. -/
def inspectMembers (b : Board) (devices : Dict String String) (ms : List Member) (report : Report) :
    Except Failure Report :=
  match prefixes ms with
  | [dir] => do
    let named := if boardOf dir = board then []
      else ["image is for '" ++ boardOf dir ++ "', this device is '" ++ board ++ "'"]
    let root ← inspectPayload b devices ms dir "root" "rootfs"
    let kernel ← inspectPayload b devices ms dir "kernel" "kernel"
    let problems := named ++ (root.2 ++ kernel.2)
    .ok { report with
      ok := problems.isEmpty
      problems := problems
      payloads := (root.1.map fun e => ("root", e)).toList ++ (kernel.1.map fun e => ("kernel", e)).toList
      board := some (boardOf dir) }
  | dirs => .ok { report with
      problems := ["expected exactly one sysupgrade-* directory, found " ++ showSorted dirs] }

/-- `inspect` -/
def inspect (H : List UInt8 → String) (b : Board) (devices : Dict String String) (path : String) :
    Image → Except Failure Report
  | .absent => .ok ⟨path, false, [path ++ " is not a file"], [], none, none, none⟩
  | .unreadable => .error (.os "")
  | .file data tar =>
    let report : Report := ⟨path, false, [], [], some (H data), none, some data.length⟩
    match tar with
    | .refused text => .ok { report with problems := ["not a readable sysupgrade tar: " ++ text ++
        ". A FIT-based raw image cannot be applied this way; use the recovery page."] }
    | .broken => .error .other
    | .members ms => inspectMembers b devices ms report

/-! ### The update -/

/-- The block devices: what opening, writing, flushing and reading them does to their state, an
`OSError` being a text.  A read gives at most the bytes that are asked for. -/
structure Devices (δ : Type) where
  openWrite : String → δ → Except String Unit × δ
  write : String → List UInt8 → δ → Except String Unit × δ
  sync : String → δ → Except String Unit × δ
  openRead : String → δ → Except String Unit × δ
  read : String → ℕ → δ → Except String (List UInt8) × δ
  read_le : ∀ node n s chunk, (read node n s).1 = .ok chunk → chunk.length ≤ n

/-- What an update does. -/
inductive Effect where
  /-- the partition of a payload has been opened for writing -/
  | openWrite (payload node : String)
  /-- a chunk is handed to the partition, whether or not it arrives -/
  | write (payload node : String) (chunk : List UInt8)
  /-- what has been read back -/
  | readBack (payload node : String) (data : List UInt8)
  | reboot
deriving DecidableEq

/-- An update over block devices with states `δ`. -/
abbrev Update (δ α : Type) : Type := Prog δ Effect Failure α

variable {δ : Type}

/-- The copy of a payload in blocks; the number of bytes. -/
def writeLoop (dev : Devices δ) (payload node : String) (copied : ℕ) (data : List UInt8) : Update δ ℕ :=
  if data = [] then pure copied
  else do
    emit (.write payload node (data.take block))
    call (dev.write node (data.take block)) .os
    writeLoop dev payload node (copied + (data.take block).length) (data.drop block)
termination_by data.length
decreasing_by
  rw [List.length_drop]
  have hpos : 0 < data.length := List.length_pos_iff.mpr ‹¬ data = []›
  have hblock : 0 < block := by decide
  omega

/-- The bytes that are read back, at most `remaining`. -/
def readLoop (dev : Devices δ) (node : String) (seen : List UInt8) (remaining : ℕ) : Update δ (List UInt8) :=
  if remaining = 0 then pure seen
  else do
    let chunk ← call (dev.read node (min block remaining)) .os
    if chunk = [] then pure seen
    else readLoop dev node (seen ++ chunk) (remaining - chunk.length)
termination_by remaining
decreasing_by
  have hpos : 0 < chunk.length := List.length_pos_iff.mpr ‹¬ chunk = []›
  omega

/-- The members, when the file is opened again. -/
def reopen : Image → Except Failure (List Member)
  | .file _ (.members ms) => .ok ms
  | .file _ .broken => .error .other
  | .file _ (.refused text) => .error (.os text)
  | _ => .error (.os "")

/-- `_write_member`: the hash of what is read back. -/
def writeMember (H : List UInt8 → String) (dev : Devices δ) (image : Image) (dir payload node : String)
    (size : ℕ) : Update δ String := do
  let ms ← lift (reopen image)
  let source ← lift (extractfile ms ("sysupgrade-" ++ dir ++ "/" ++ payload))
  match source with
  | .nothing => raise (.update (payload ++ " vanished from the image"))
  | .unreadable => raise (.os "")
  | .broken => raise .other
  | .bytes data => do
    call (dev.openWrite node) fun exc => .update ("cannot open " ++ node ++ ": " ++ exc)
    emit (.openWrite payload node)
    let copied ← writeLoop dev payload node 0 data
    call (dev.sync node) .os
    if copied ≠ size then
      raise (.update (payload ++ ": wrote " ++ ofNat copied ++ " of " ++ ofNat size ++ " bytes"))
    else do
      call (dev.openRead node) .os
      let seen ← readLoop dev node [] size
      emit (.readBack payload node seen)
      pure (H seen)

/-- `_member_sha256` -/
def memberSha256 (H : List UInt8 → String) (image : Image) (dir payload : String) : Except Failure String := do
  let ms ← reopen image
  match ← extractfile ms ("sysupgrade-" ++ dir ++ "/" ++ payload) with
  | .nothing => .ok ""
  | .unreadable => .error (.os "")
  | .broken => .error .other
  | .bytes data => .ok (H data)

/-- One payload of the update: write it, read it back and compare. -/
def install (H : List UInt8 → String) (dev : Devices δ) (image : Image) (report : Report) (payload : String) :
    Update δ String := do
  let dir := report.board.getD "None"
  match Dict.lookup payload report.payloads with
  | none => raise .key
  | some entry => do
    let written ← writeMember H dev image dir payload (entry.device.getD "None") entry.size
    let expected ← lift (memberSha256 H image dir payload)
    if written ≠ expected then
      raise (.update (payload ++ " read back differently from what was written (" ++
        String.ofList (written.toList.take 12) ++ " != " ++ String.ofList (expected.toList.take 12) ++
        "). DO NOT REBOOT: the flash is now inconsistent. Re-run the update, or recover through the U-Boot " ++
        "recovery page."))
    else pure (payload ++ " -> " ++ entry.partition ++ " (" ++ ofNat entry.size ++ " bytes, verified)")

/-- The expected digest is given, and not that of the report. -/
def mismatch (expect : Option String) (report : Report) : Bool :=
  expect.any fun digest => digest ≠ "" && report.sha256 ≠ some digest

/-- The writes of an update, once every check has passed. -/
def installAll (H : List UInt8 → String) (dev : Devices δ) (image : Image) (report : Report) (reboot : Bool) :
    Update δ (List String) := do
  let verified := "image verified: " ++ report.board.getD "None" ++ ", sha256 " ++
    String.ofList ((report.sha256.getD "None").toList.take 12)
  -- root first, kernel last
  let root ← install H dev image report "root"
  let kernel ← install H dev image report "kernel"
  if reboot then do
    emit .reboot
    pure [verified, root, kernel, "rebooting into the new firmware"]
  else pure [verified, root, kernel, "reboot when ready to run the new firmware"]

/-- `apply` -/
def apply (H : List UInt8 → String) (b : Board) (devices : Dict String String) (dev : Devices δ)
    (path : String) (image : Image) (reboot : Bool) (expect : Option String) : Update δ (List String) := do
  let report ← lift (inspect H b devices path image)
  if mismatch expect report then
    raise (.update ("sha256 mismatch: expected " ++ expect.getD "" ++ ", got " ++
      report.sha256.getD "None"))
  else if !report.ok then raise (.update (join "; " report.problems))
  else installAll H dev image report reboot

/-! ### What the loops do -/

variable {dev : Devices δ} {payload node : String} {s : δ}

/-- The copy hands over chunks of the payload in order, and all of it if it ends well. -/
theorem runs_writeLoop : ∀ (n : ℕ) {data : List UInt8} {copied : ℕ} {s : δ}, data.length ≤ n →
    Runs s (writeLoop dev payload node copied data) fun r es _ =>
      ∃ chunks : List (List UInt8), es = chunks.map (Effect.write payload node) ∧ chunks.flatten <+: data ∧
        (data ≠ [] → chunks ≠ []) ∧
          ∀ m, r = .ok m → m = copied + data.length ∧ chunks.flatten = data
  | 0, data, copied, s, h => by
    have hnil : data = [] := List.length_eq_zero_iff.mp (Nat.le_zero.mp h)
    rw [writeLoop, if_pos hnil]
    refine runs_pure ⟨[], rfl, List.nil_prefix, fun hne => absurd hnil hne, fun m hm => ?_⟩
    rw [hnil, ← Except.ok.inj hm]
    exact ⟨rfl, rfl⟩
  | n + 1, data, copied, s, h => by
    by_cases hnil : data = []
    · exact runs_writeLoop 0 (by rw [hnil]; exact le_rfl)
    · have hblock : 0 < block := by decide
      have hrest : (data.drop block).length ≤ n := by
        rw [List.length_drop]
        omega
      have hsplit : data.take block ++ data.drop block = data := List.take_append_drop block data
      rw [writeLoop, if_neg hnil]
      refine runs_emit (runs_call (fun _ _ => ?_) fun y _ => ?_)
      · refine Runs.mono (runs_writeLoop n hrest) fun r es t hr => ?_
        obtain ⟨chunks, hes, hprefix, -, hok⟩ := hr
        refine ⟨data.take block :: chunks, by rw [hes]; rfl, ?_, fun _ => by simp, fun m hm => ?_⟩
        · rw [List.flatten_cons]
          conv_rhs => rw [← hsplit]
          exact (List.prefix_append_right_inj _).mpr hprefix
        · obtain ⟨hcount, hall⟩ := hok m hm
          refine ⟨?_, by rw [List.flatten_cons, hall, hsplit]⟩
          have hlen := congrArg List.length hsplit
          rw [List.length_append] at hlen
          omega
      · refine ⟨[data.take block], rfl, ?_, fun _ => by simp, fun m hm => absurd hm (by simp)⟩
        rw [List.flatten_singleton]
        exact List.take_prefix block data

/-- Reading back leaves no effect of its own. -/
theorem runs_readLoop : ∀ (n : ℕ) {remaining : ℕ} {seen : List UInt8} {s : δ}, remaining ≤ n →
    Runs s (readLoop dev node seen remaining) fun r es _ =>
      es = [] ∧ ∀ back, r = .ok back → back.length ≤ seen.length + remaining
  | 0, remaining, seen, s, h => by
    rw [readLoop, if_pos (Nat.le_zero.mp h)]
    exact runs_pure ⟨rfl, fun back hback => by rw [← Except.ok.inj hback]; omega⟩
  | n + 1, remaining, seen, s, h => by
    by_cases hzero : remaining = 0
    · exact runs_readLoop 0 (by rw [hzero])
    · rw [readLoop, if_neg hzero]
      refine runs_call (fun chunk hread => ?_) fun y _ => ⟨rfl, fun back hback => absurd hback (by simp)⟩
      split
      · exact runs_pure ⟨rfl, fun back hback => by rw [← Except.ok.inj hback]; omega⟩
      · next hne =>
        have hpos : 0 < chunk.length := List.length_pos_iff.mpr hne
        have hle : chunk.length ≤ min block remaining := dev.read_le _ _ _ _ hread
        refine Runs.mono (runs_readLoop n (show remaining - chunk.length ≤ n by omega)) fun r es t hr => ?_
        refine ⟨hr.1, fun back hback => ?_⟩
        have hback := hr.2 back hback
        rw [List.length_append] at hback
        omega

/-! ### What writing a payload does -/

/-- The bytes of a content. -/
def Content.data? : Content → Option (List UInt8)
  | .bytes data => some data
  | _ => none

/-- The name under which a payload is written. -/
def memberName (payload : String) : String := "sysupgrade-" ++ board ++ "/" ++ payload

/-- The payload that the image holds for this board. -/
def dataOf (image : Image) (payload : String) : Option (List UInt8) :=
  (reopen image).toOption.bind fun ms => (memberOf ms (memberName payload)).bind fun m => m.content.data?

/-- The effects of a partition that is opened and given these chunks. -/
def opened (payload node : String) (chunks : List (List UInt8)) : List Effect :=
  .openWrite payload node :: chunks.map (.write payload node)

/-- How writing a payload ends: before the partition is opened, before it has been read back, or with
the hash of what has been read back. -/
inductive Wrote (H : List UInt8 → String) (image : Image) (payload node : String) (size : ℕ) :
    Except Failure String → List Effect → Prop
  | untouched (f : Failure) : Wrote H image payload node size (.error f) []
  | brokenOff (f : Failure) (data : List UInt8) (chunks : List (List UInt8))
      (hdata : dataOf image payload = some data) (hchunks : chunks.flatten <+: data)
      (hsome : data ≠ [] → chunks ≠ []) :
      Wrote H image payload node size (.error f) (opened payload node chunks)
  | readBack (data seen : List UInt8) (chunks : List (List UInt8))
      (hdata : dataOf image payload = some data) (hchunks : chunks.flatten = data)
      (hsome : data ≠ [] → chunks ≠ []) (hsize : data.length = size) (hseen : seen.length ≤ size) :
      Wrote H image payload node size (.ok (H seen)) (opened payload node chunks ++ [.readBack payload node seen])

variable {H : List UInt8 → String} {image : Image} {size : ℕ}

theorem dataOf_eq {ms : List Member} {data : List UInt8} (hms : reopen image = .ok ms)
    (hsource : extractfile ms (memberName payload) = .ok (.bytes data)) : dataOf image payload = some data := by
  unfold extractfile at hsource
  unfold dataOf
  rw [hms]
  show (memberOf ms (memberName payload)).bind _ = some data
  cases hm : memberOf ms (memberName payload) with
  | none =>
    rw [hm] at hsource
    exact absurd hsource (by simp)
  | some m =>
    rw [hm] at hsource
    show m.content.data? = some data
    rw [Except.ok.inj hsource]
    rfl

/-- A partition that is opened is given at least one chunk of a payload. -/
theorem runs_writeMember_open {data : List UInt8} (hdata : dataOf image payload = some data) :
    Runs s (do
      emit (Effect.openWrite payload node)
      let copied ← writeLoop dev payload node 0 data
      call (dev.sync node) Failure.os
      if copied ≠ size then
        raise (.update (payload ++ ": wrote " ++ ofNat copied ++ " of " ++ ofNat size ++ " bytes"))
      else do
        call (dev.openRead node) .os
        let seen ← readLoop dev node [] size
        emit (.readBack payload node seen)
        pure (H seen)) fun r es _ => Wrote H image payload node size r es ∧ es ≠ [] := by
  refine runs_emit (runs_bind (runs_writeLoop data.length le_rfl) ?_ ?_)
  · rintro copied es t ⟨chunks, rfl, hprefix, hsome, hok⟩
    obtain ⟨hcopied, hall⟩ := hok copied rfl
    have hbroken : ∀ f, Wrote H image payload node size (.error f)
        (.openWrite payload node :: (chunks.map (Effect.write payload node) ++ [])) ∧
        Effect.openWrite payload node :: (chunks.map (Effect.write payload node) ++ []) ≠ [] := by
      intro f
      rw [List.append_nil]
      exact ⟨.brokenOff f data chunks hdata hprefix hsome, by simp⟩
    refine runs_call (fun _ _ => ?_) fun y _ => hbroken _
    split
    · exact runs_raise (hbroken _)
    · next hsize =>
      rw [not_not] at hsize
      refine runs_call (fun _ _ => ?_) fun y _ => hbroken _
      refine runs_bind (runs_readLoop size le_rfl) ?_ ?_
      · rintro seen es u ⟨rfl, hseen⟩
        refine runs_emit (runs_pure ?_)
        have hshort : seen.length ≤ size := by simpa using hseen seen rfl
        exact ⟨.readBack data seen chunks hdata hall hsome (by omega) hshort, by simp⟩
      · rintro f es u ⟨rfl, -⟩
        exact hbroken f
  · rintro f es t ⟨chunks, rfl, hprefix, hsome, -⟩
    exact ⟨.brokenOff f data chunks hdata hprefix hsome, by simp⟩

theorem runs_writeMember : Runs s (writeMember H dev image board payload node size) fun r es _ =>
    Wrote H image payload node size r es := by
  unfold writeMember
  refine runs_lift (fun ms hms => ?_) fun f _ => .untouched f
  refine runs_lift (fun source hsource => ?_) fun f _ => .untouched f
  cases source with
  | nothing => exact runs_raise (.untouched _)
  | unreadable => exact runs_raise (.untouched _)
  | broken => exact runs_raise (.untouched _)
  | bytes data =>
    refine runs_call (fun _ _ => ?_) fun y _ => .untouched _
    exact Runs.mono (runs_writeMember_open (dataOf_eq hms hsource)) fun r es t hr => hr.1

theorem memberSha256_eq {data : List UInt8} (hdata : dataOf image payload = some data) :
    memberSha256 H image board payload = .ok (H data) := by
  unfold dataOf at hdata
  obtain ⟨ms, hms, hdata⟩ := Option.bind_eq_some_iff.mp hdata
  obtain ⟨m, hm, hdata⟩ := Option.bind_eq_some_iff.mp hdata
  have hreopen : reopen image = .ok ms := by
    cases hr : reopen image with
    | ok a => rw [hr] at hms; exact congrArg Except.ok (Option.some.inj hms)
    | error f => rw [hr] at hms; exact absurd hms (by simp [Except.toOption])
  have hextract : extractfile ms ("sysupgrade-" ++ board ++ "/" ++ payload) = .ok m.content := by
    show extractfile ms (memberName payload) = .ok m.content
    unfold extractfile
    rw [hm]
  unfold memberSha256
  rw [hreopen]
  show (extractfile ms ("sysupgrade-" ++ board ++ "/" ++ payload)).bind _ = _
  rw [hextract]
  cases hc : m.content with
  | bytes d =>
    rw [hc] at hdata
    rw [← Option.some.inj hdata]
    rfl
  | _ => rw [hc] at hdata; exact absurd hdata (by simp [Content.data?])

/-! ### What an inspection without problems has seen -/

theorem bind_eq_ok {α β : Type} {x : Except Failure α} {f : α → Except Failure β} {c : β} :
    (x >>= f) = .ok c ↔ ∃ a, x = .ok a ∧ f a = .ok c := by
  cases x with
  | error e => simp [bind, Except.bind]
  | ok a => simp [bind, Except.bind]

theorem memberOf_name {name : String} {m : Member} (h : memberOf ms name = some m) : m.name = name := by
  have hname := List.find?_some h
  simpa using hname

/-- A payload that is fit to be written. -/
structure Fit (b : Board) (devices : Dict String String) (payload label : String) (member : Member)
    (node : String) (data : List UInt8) : Prop where
  device : deviceFor b devices label = some node
  room : b.bytes node = 0 ∨ member.size ≤ b.bytes node
  floor : floor payload ≤ member.size
  content : member.content = .bytes data
  magic : magic payload <+: data

theorem place_of_no_problems {payload : String} {entry : Entry} (h : placeProblems payload entry = []) :
    (∃ node, entry.device = some node) ∧ (entry.capacity = 0 ∨ entry.size ≤ entry.capacity) := by
  unfold placeProblems at h
  split at h
  · exact absurd h (by simp)
  · next hdevice =>
    split at h
    · exact absurd h (by simp)
    · next hroom =>
      rw [Option.isNone_iff_eq_none] at hdevice
      exact ⟨Option.ne_none_iff_exists'.mp hdevice, by omega⟩

theorem magic_of_no_problems {payload : String} {member : Member} {seen : List UInt8}
    (hread : readMember ms member.name 4 = .ok seen) (hm : memberOf ms member.name = some member)
    (h : magicProblems payload seen = []) : ∃ data, member.content = .bytes data ∧ magic payload <+: data := by
  have hprefix : magic payload <+: seen := by
    unfold magicProblems at h
    by_contra hbad
    rw [if_neg (by rwa [List.isPrefixOf_iff_prefix])] at h
    exact absurd h (by simp)
  have hne : magic payload ≠ [] := by
    unfold magic
    split <;> simp
  have hnonempty : seen ≠ [] := by
    rintro rfl
    exact hne (List.prefix_nil.mp hprefix)
  have hextract : extractfile ms member.name = .ok member.content := by
    unfold extractfile
    rw [hm]
  unfold readMember at hread
  rw [hextract] at hread
  cases hc : member.content with
  | bytes data =>
    rw [hc] at hread
    obtain rfl : data.take 4 = seen := Except.ok.inj hread
    exact ⟨data, rfl, hprefix.trans (List.take_prefix 4 data)⟩
  | nothing =>
    rw [hc] at hread
    exact absurd (Except.ok.inj hread).symm hnonempty
  | unreadable =>
    rw [hc] at hread
    exact absurd (Except.ok.inj hread).symm hnonempty
  | broken =>
    rw [hc] at hread
    exact absurd hread (by intro h; cases h)

theorem inspectPayload_eq_ok {dir payload label : String} {entry : Option Entry}
    (h : inspectPayload b devices ms dir payload label = .ok (entry, [])) :
    ∃ member node data, memberOf ms (dir ++ "/" ++ payload) = some member ∧
      entry = some (entryOf b devices label member) ∧ Fit b devices payload label member node data := by
  unfold inspectPayload at h
  cases hm : memberOf ms (dir ++ "/" ++ payload) with
  | none =>
    rw [hm] at h
    exact absurd (Prod.mk.inj (Except.ok.inj h)).2 (by simp)
  | some member =>
    rw [hm] at h
    simp only at h
    split at h
    · exact absurd (Prod.mk.inj (Except.ok.inj h)).2 (by simp)
    · next hfloor =>
      obtain ⟨seen, hread, hpure⟩ := bind_eq_ok.mp h
      obtain ⟨hentry, hproblems⟩ := Prod.mk.inj (Except.ok.inj hpure)
      obtain ⟨hplace, hmagic⟩ := List.append_eq_nil_iff.mp hproblems
      obtain ⟨⟨node, hdevice⟩, hroom⟩ := place_of_no_problems hplace
      have hnode : deviceFor b devices label = some node := hdevice
      have hcapacity : (entryOf b devices label member).capacity = b.bytes node := by
        show (deviceFor b devices label).elim 0 b.bytes = b.bytes node
        rw [hnode]
        rfl
      rw [hcapacity] at hroom
      obtain ⟨data, hcontent, hstart⟩ := magic_of_no_problems hread (by rw [memberOf_name hm]; exact hm) hmagic
      exact ⟨member, node, data, rfl, hentry.symm, hnode, hroom, not_lt.mp hfloor, hcontent, hstart⟩

/-- The report on an image that passes. -/
theorem inspect_eq_ok {path : String} {report : Report} (h : inspect H b devices path image = .ok report)
    (hok : report.ok = true) :
    ∃ data ms dir root rootNode rootData kernel kernelNode kernelData,
      image = .file data (.members ms) ∧ prefixes ms = [dir] ∧ boardOf dir = board ∧
      memberOf ms (dir ++ "/" ++ "root") = some root ∧ Fit b devices "root" "rootfs" root rootNode rootData ∧
      memberOf ms (dir ++ "/" ++ "kernel") = some kernel ∧
      Fit b devices "kernel" "kernel" kernel kernelNode kernelData ∧
      report.board = some board ∧ report.sha256 = some (H data) ∧
      report.payloads =
        [("root", entryOf b devices "rootfs" root), ("kernel", entryOf b devices "kernel" kernel)] := by
  unfold inspect at h
  cases image with
  | absent =>
    rw [← Except.ok.inj h] at hok
    exact absurd hok (by simp)
  | unreadable => exact absurd h (by simp)
  | file data tar =>
    cases tar with
    | refused text =>
      rw [← Except.ok.inj h] at hok
      exact absurd hok (by simp)
    | broken => exact absurd h (by simp)
    | members ms =>
      simp only at h
      unfold inspectMembers at h
      split at h
      · next dir hdir =>
        obtain ⟨⟨rootEntry, rootProblems⟩, hroot, h⟩ := bind_eq_ok.mp h
        obtain ⟨⟨kernelEntry, kernelProblems⟩, hkernel, h⟩ := bind_eq_ok.mp h
        obtain rfl := Except.ok.inj h
        simp only [List.isEmpty_iff, List.append_eq_nil_iff] at hok
        obtain ⟨hnamed, rfl, rfl⟩ := hok
        have hboard : boardOf dir = board := by
          by_contra hne
          rw [if_neg hne] at hnamed
          exact absurd hnamed (by simp)
        obtain ⟨root, rootNode, rootData, hrootMember, rfl, hrootFit⟩ := inspectPayload_eq_ok hroot
        obtain ⟨kernel, kernelNode, kernelData, hkernelMember, rfl, hkernelFit⟩ := inspectPayload_eq_ok hkernel
        exact ⟨data, ms, dir, root, rootNode, rootData, kernel, kernelNode, kernelData, rfl, hdir, hboard,
          hrootMember, hrootFit, hkernelMember, hkernelFit, congrArg some hboard, rfl, rfl⟩
      · rw [← Except.ok.inj h] at hok
        exact absurd hok (by simp)

end Sbegw.Otad
