import Sbegw.Otad.Verified

/-!
# Refused updates

When an update that does not go through every check has written nothing.  The inspection misses a
directory whose name only resembles that of a sysupgrade image, the size of what a link stands for, and
a partition whose size cannot be read; and some images make it raise.
-/

namespace Sbegw.Otad

open Text Effects

variable {δ : Type}

/-! ### The property -/

/-- The partition of an effect. -/
def Effect.node? : Effect → Option String
  | .openWrite _ node => some node
  | .write _ node _ => some node
  | .readBack _ node _ => some node
  | .reboot => none

def Effect.chunk? : Effect → Option (List UInt8)
  | .write _ _ chunk => some chunk
  | _ => none

/-- The chunks that are handed to partitions. -/
def chunksOf (es : List Effect) : List (List UInt8) := es.filterMap Effect.chunk?

/-- Nothing is written, and the update is refused. -/
def Refused (r : Except Failure (List String)) (es : List Effect) : Prop :=
  chunksOf es = [] ∧ ∃ text, r = .error (.update text)

/-- A payload passes every check: it is there, in full, with its magic, not too small, and not larger than
the partition. -/
structure PayloadChecked (b : Board) (devices : Dict String String) (ms : List Member) (payload label : String)
    (node : String) (data : List UInt8) : Prop where
  inspected : ∃ member, memberOf ms (memberName payload) = some member ∧ member.content = .bytes data ∧
    member.size = data.length
  magic : magic payload <+: data
  floor : floor payload ≤ data.length
  device : deviceFor b devices label = some node
  room : data.length ≤ b.real node

/-- The effects are those of one payload on one partition, and write a beginning of it. -/
structure WritesOnly (payload node : String) (data : List UInt8) (es : List Effect) : Prop where
  own : ∀ e ∈ es, e.payload? = some payload ∧ e.node? = some node
  chunks : (chunksOf es).flatten <+: data

/-- Every check holds, and what is written are the members that have been checked. -/
def Checked (H : List UInt8 → String) (b : Board) (devices : Dict String String) (image : Image)
    (expect : Option String) (es : List Effect) : Prop :=
  ∃ file ms rootNode rootData kernelNode kernelData, image = .file file (.members ms) ∧
    (∀ digest, expect = some digest → digest ≠ "" → H file = digest) ∧
    prefixes ms = ["sysupgrade-" ++ board] ∧
    PayloadChecked b devices ms "root" "rootfs" rootNode rootData ∧
    PayloadChecked b devices ms "kernel" "kernel" kernelNode kernelData ∧
    ∃ es₁ es₂ rest, es = es₁ ++ (es₂ ++ rest) ∧ WritesOnly "root" rootNode rootData es₁ ∧
      WritesOnly "kernel" kernelNode kernelData es₂ ∧ chunksOf rest = []

/-- **A refused update writes nothing**, of the outcome and the effects of an update. -/
def Safe (H : List UInt8 → String) (b : Board) (devices : Dict String String) (image : Image)
    (expect : Option String) (r : Except Failure (List String)) (es : List Effect) : Prop :=
  Refused r es ∨ Checked H b devices image expect es

/-! ### The condition -/

/-- Nothing but a `TarError` or an `OSError` of the archive stops the inspection. -/
def Readable : Image → Prop
  | .absent => True
  | .unreadable => False
  | .file _ (.refused _) => True
  | .file _ .broken => False
  | .file _ (.members ms) => ∀ dir, prefixes ms = [dir] → ∀ payload ∈ ["root", "kernel"], ∀ member,
      memberOf ms (dir ++ "/" ++ payload) = some member → floor payload ≤ member.size →
        member.content ≠ .broken

/-- The checks of the code pass. -/
def Passes (H : List UInt8 → String) (b : Board) (devices : Dict String String) (path : String) (image : Image)
    (expect : Option String) : Prop :=
  ∃ report, inspect H b devices path image = .ok report ∧ report.ok = true ∧ mismatch expect report = false

/-- A payload is as long as its header says, and its partition has a known size, or room for it. -/
def Whole (b : Board) (devices : Dict String String) (ms : List Member) (payload label : String) : Prop :=
  ∀ member node, memberOf ms (memberName payload) = some member → deviceFor b devices label = some node →
    (∀ data, member.content = .bytes data → data.length = member.size) ∧
      (b.bytes node ≠ 0 ∨ member.size ≤ b.real node)

/-- The condition: the image can be inspected, and one that passes lies in the very directory of the board
and, unless the root partition cannot be opened, has whole payloads. -/
structure Sound (H : List UInt8 → String) (b : Board) (devices : Dict String String) (dev : Devices δ)
    (path : String) (image : Image) (expect : Option String) (s : δ) : Prop where
  readable : Readable image
  named : ∀ file ms, image = .file file (.members ms) → Passes H b devices path image expect →
    prefixes ms = ["sysupgrade-" ++ board]
  whole : ∀ file ms, image = .file file (.members ms) → Passes H b devices path image expect →
    (∃ node, deviceFor b devices "rootfs" = some node ∧ (dev.openWrite node s).1 = .ok ()) →
      Whole b devices ms "root" "rootfs" ∧ Whole b devices ms "kernel" "kernel"

/-! ### What stops an inspection -/

variable {H : List UInt8 → String} {b : Board} {devices : Dict String String} {ms : List Member}

/-- A payload of a fitting size whose content raises stops the inspection; nothing else does. -/
theorem inspectPayload_error {dir payload label : String} {member : Member}
    (hm : memberOf ms (dir ++ "/" ++ payload) = some member) (hfloor : floor payload ≤ member.size)
    (hbroken : member.content = .broken) :
    inspectPayload b devices ms dir payload label = .error .other := by
  have hextract : extractfile ms member.name = .ok .broken := by
    unfold extractfile
    rw [memberOf_name hm, hm, ← hbroken]
  have hread : readMember ms member.name 4 = .error .other := by
    unfold readMember
    rw [hextract]
    rfl
  unfold inspectPayload
  rw [hm]
  simp only
  rw [if_neg (not_lt.mpr hfloor), hread]
  rfl

theorem inspectPayload_ok {dir payload label : String}
    (h : ∀ member, memberOf ms (dir ++ "/" ++ payload) = some member → floor payload ≤ member.size →
      member.content ≠ .broken) : ∃ r, inspectPayload b devices ms dir payload label = .ok r := by
  unfold inspectPayload
  cases hm : memberOf ms (dir ++ "/" ++ payload) with
  | none => exact ⟨_, rfl⟩
  | some member =>
    simp only
    split
    · exact ⟨_, rfl⟩
    · next hfloor =>
      have hwhole := h member hm (not_lt.mp hfloor)
      have hextract : extractfile ms member.name = .ok member.content := by
        unfold extractfile
        rw [memberOf_name hm, hm]
      have hread : ∃ seen, readMember ms member.name 4 = .ok seen := by
        unfold readMember
        rw [hextract]
        cases hc : member.content with
        | broken => exact absurd hc hwhole
        | _ => exact ⟨_, rfl⟩
      obtain ⟨seen, hseen⟩ := hread
      rw [hseen]
      exact ⟨_, rfl⟩

/-- An image that can be inspected is readable, and the inspection of another raises no `UpdateError`. -/
theorem inspect_cases (H : List UInt8 → String) (b : Board) (devices : Dict String String) (path : String)
    (image : Image) :
    (Readable image ∧ ∃ report, inspect H b devices path image = .ok report) ∨
      (¬ Readable image ∧ ∃ f, inspect H b devices path image = .error f ∧ ∀ text, f ≠ .update text) := by
  cases image with
  | absent => exact .inl ⟨trivial, _, rfl⟩
  | unreadable => exact .inr ⟨id, _, rfl, by simp⟩
  | file data tar =>
    cases tar with
    | refused text => exact .inl ⟨trivial, _, rfl⟩
    | broken => exact .inr ⟨id, _, rfl, by simp⟩
    | members ms =>
      unfold inspect inspectMembers Readable
      simp only
      split
      · next dir hdir =>
        by_cases hroot : ∃ member, memberOf ms (dir ++ "/" ++ "root") = some member ∧
            floor "root" ≤ member.size ∧ member.content = .broken
        · obtain ⟨member, hm, hfloor, hbroken⟩ := hroot
          refine .inr ⟨fun hall => hall dir hdir "root" (by simp) member hm hfloor hbroken, .other, ?_, by simp⟩
          rw [inspectPayload_error hm hfloor hbroken]
          rfl
        · obtain ⟨root, hrootOk⟩ : ∃ r, inspectPayload b devices ms dir "root" "rootfs" = .ok r :=
            inspectPayload_ok fun member hm hfloor hbroken => hroot ⟨member, hm, hfloor, hbroken⟩
          rw [hrootOk]
          by_cases hkernel : ∃ member, memberOf ms (dir ++ "/" ++ "kernel") = some member ∧
              floor "kernel" ≤ member.size ∧ member.content = .broken
          · obtain ⟨member, hm, hfloor, hbroken⟩ := hkernel
            refine .inr ⟨fun hall => hall dir hdir "kernel" (by simp) member hm hfloor hbroken, .other, ?_,
              by simp⟩
            rw [inspectPayload_error hm hfloor hbroken]
            rfl
          · obtain ⟨kernel, hkernelOk⟩ : ∃ r, inspectPayload b devices ms dir "kernel" "kernel" = .ok r :=
              inspectPayload_ok fun member hm hfloor hbroken => hkernel ⟨member, hm, hfloor, hbroken⟩
            rw [hkernelOk]
            refine .inl ⟨fun dir' hdir' payload hpayload member hm hfloor hbroken => ?_, _, rfl⟩
            obtain rfl : dir = dir' := (List.cons.inj (hdir.symm.trans hdir')).1
            rcases List.mem_cons.mp hpayload with rfl | hpayload
            · exact hroot ⟨member, hm, hfloor, hbroken⟩
            · obtain rfl := List.mem_singleton.mp hpayload
              exact hkernel ⟨member, hm, hfloor, hbroken⟩
      · next hmany => exact .inl ⟨fun dir hdir => absurd hdir (hmany dir), _, rfl⟩

/-! ### What is written of a payload -/

variable {dev : Devices δ} {image : Image} {payload node : String} {s : δ}

theorem chunksOf_append (es es' : List Effect) : chunksOf (es ++ es') = chunksOf es ++ chunksOf es' :=
  List.filterMap_append

theorem chunksOf_opened (payload node : String) (chunks : List (List UInt8)) :
    chunksOf (opened payload node chunks) = chunks := by
  show (chunks.map (Effect.write payload node)).filterMap Effect.chunk? = chunks
  rw [List.filterMap_map]
  exact List.filterMap_some

theorem node_opened {chunks : List (List UInt8)} : ∀ e ∈ opened payload node chunks, e.node? = some node := by
  intro e he
  rcases List.mem_cons.mp he with rfl | he
  · rfl
  · obtain ⟨chunk, -, rfl⟩ := List.mem_map.mp he
    rfl

/-- Writing a payload writes a beginning of it, and at least a chunk if the partition is opened. -/
theorem writesOnly_of_wrote {size : ℕ} {r : Except Failure String} {es : List Effect} {data : List UInt8}
    (h : Wrote H image payload node size r es) (hdata : dataOf image payload = some data) (hne : data ≠ []) :
    WritesOnly payload node data es ∧ (es ≠ [] → chunksOf es ≠ []) := by
  cases h with
  | untouched => exact ⟨⟨by simp, List.nil_prefix⟩, fun hes => absurd rfl hes⟩
  | brokenOff f data' chunks hdata' hchunks hsome =>
    obtain rfl : data = data' := Option.some.inj (hdata.symm.trans hdata')
    refine ⟨⟨fun e he => ⟨(own_opened e he).1, node_opened e he⟩, ?_⟩, fun _ => ?_⟩
    · rw [chunksOf_opened]
      exact hchunks
    · rw [chunksOf_opened]
      exact hsome hne
  | readBack data' seen chunks hdata' hchunks hsome =>
    obtain rfl : data = data' := Option.some.inj (hdata.symm.trans hdata')
    have hall : chunksOf (opened payload node chunks ++ [.readBack payload node seen]) = chunks := by
      rw [chunksOf_append, chunksOf_opened]
      exact List.append_nil chunks
    have hprefix : (chunksOf (opened payload node chunks ++ [.readBack payload node seen])).flatten <+: data := by
      simpa only [hall, hchunks] using List.prefix_rfl
    refine ⟨⟨fun e he => ?_, hprefix⟩, fun _ => by rw [hall]; exact hsome hne⟩
    rcases List.mem_append.mp he with he | he
    · exact ⟨(own_opened e he).1, node_opened e he⟩
    · rw [List.mem_singleton.mp he]
      exact ⟨rfl, rfl⟩

/-- A payload of the image, to be written to a partition. -/
structure Installs (report : Report) (image : Image) (ms : List Member) (payload node : String) (m : Member)
    (data : List UInt8) : Prop where
  reopens : reopen image = .ok ms
  named : report.board = some board
  entry : ∃ entry, Dict.lookup payload report.payloads = some entry ∧ entry.device = some node
  member : memberOf ms (memberName payload) = some m
  content : m.content = .bytes data
  nonempty : data ≠ []

/-- What the installation of a payload does to its partition: nothing, with an `UpdateError`, if it
cannot be opened, else it writes. -/
structure Touches (opens : Prop) (payload node : String) (data : List UInt8) (r : Except Failure String)
    (es : List Effect) : Prop where
  writes : WritesOnly payload node data es
  some : opens → chunksOf es ≠ []
  none : ¬ opens → es = [] ∧ ∃ text, r = .error (.update text)

theorem runs_writeMember_touches {report : Report} {member : Member} {data : List UInt8} {size : ℕ}
    (h : Installs report image ms payload node member data) :
    Runs s (writeMember H dev image board payload node size) fun r es _ =>
      Wrote H image payload node size r es ∧
        Touches ((dev.openWrite node s).1 = .ok ()) payload node data r es := by
  have hextract : extractfile ms ("sysupgrade-" ++ board ++ "/" ++ payload) = .ok (.bytes data) := by
    show extractfile ms (memberName payload) = .ok (.bytes data)
    unfold extractfile
    rw [h.member, ← h.content]
  have hdata : dataOf image payload = some data := dataOf_eq h.reopens hextract
  unfold writeMember
  rw [h.reopens]
  refine runs_lift (fun ms' hms' => ?_) fun f hf => absurd hf (by simp)
  obtain rfl := Except.ok.inj hms'
  rw [hextract]
  refine runs_lift (fun source hsource => ?_) fun f hf => absurd hf (by simp)
  obtain rfl := Except.ok.inj hsource
  refine runs_call (fun u hopen => ?_) fun y hclosed => ?_
  · refine Runs.mono (runs_writeMember_open hdata) fun r es t hr => ⟨hr.1, ?_⟩
    obtain ⟨hwrites, hsome⟩ := writesOnly_of_wrote hr.1 hdata h.nonempty
    exact ⟨hwrites, fun _ => hsome hr.2, fun hne => absurd hopen hne⟩
  · refine ⟨.untouched _, ⟨by simp, List.nil_prefix⟩, fun hopen => ?_, fun _ => ⟨rfl, _, rfl⟩⟩
    rw [hclosed] at hopen
    exact absurd hopen (by simp)

theorem runs_install_touches {report : Report} {member : Member} {data : List UInt8}
    (h : Installs report image ms payload node member data) :
    Runs s (install H dev image report payload) fun r es _ =>
      Touches ((dev.openWrite node s).1 = .ok ()) payload node data r es := by
  obtain ⟨entry, hentry, hdevice⟩ := h.entry
  unfold install
  simp only [h.named, hentry, hdevice, Option.getD_some]
  refine runs_bind (runs_writeMember_touches h) ?_ fun f es t hf => hf.2
  rintro written es t ⟨-, htouches⟩
  have hafter : ∀ r, Touches ((dev.openWrite node s).1 = .ok ()) payload node data r (es ++ []) := by
    intro r
    rw [List.append_nil]
    refine ⟨htouches.writes, htouches.some, fun hclosed => ?_⟩
    obtain ⟨-, text, htext⟩ := htouches.none hclosed
    exact absurd htext (by simp)
  refine runs_lift (fun expected _ => ?_) fun f _ => hafter _
  split
  · exact runs_raise (hafter _)
  · exact runs_pure (hafter _)

/-! ### An image that passes -/

variable {path : String} {expect : Option String} {report : Report} {reboot : Bool} {file : List UInt8}

/-- A member with the name under which a payload is written lies in the directory of the board. -/
theorem memberOf_elsewhere {dir payload : String} (hpayload : payload ∈ ["root", "kernel"])
    (hdir : prefixes ms = [dir]) (hne : dir ≠ "sysupgrade-" ++ board) :
    memberOf ms (memberName payload) = none := by
  have hcut : ∀ p ∈ ["root", "kernel"],
      (cut "/" (memberName p)).map Prod.fst = some ("sysupgrade-" ++ board) := by decide
  cases hm : memberOf ms (memberName payload) with
  | none => rfl
  | some m =>
    have hmem : m ∈ ms := List.mem_reverse.mp (List.mem_of_find?_eq_some hm)
    have hprefix : "sysupgrade-" ++ board ∈ prefixes ms := by
      refine List.mem_eraseDups.mpr (List.mem_filterMap.mpr ⟨m, hmem, ?_⟩)
      rw [memberOf_name hm]
      exact hcut payload hpayload
    rw [hdir] at hprefix
    exact absurd (List.mem_singleton.mp hprefix).symm hne

/-- Outside that directory the payloads pass the inspection and are not found again. -/
theorem runs_installAll_elsewhere {dir : String} {entry : Entry} (himage : image = .file file (.members ms))
    (hboard : report.board = some board) (hentry : Dict.lookup "root" report.payloads = some entry)
    (hdir : prefixes ms = [dir]) (hne : dir ≠ "sysupgrade-" ++ board) :
    Runs s (installAll H dev image report reboot) fun r es _ => r = .error .key ∧ es = [] := by
  have hextract : extractfile ms ("sysupgrade-" ++ board ++ "/" ++ "root") = .error .key := by
    show extractfile ms (memberName "root") = .error .key
    unfold extractfile
    rw [memberOf_elsewhere (by simp) hdir hne]
  have hwrite : ∀ node size, Runs s (writeMember H dev image board "root" node size)
      fun r es _ => r = .error .key ∧ es = [] := by
    intro node size
    rw [himage]
    refine runs_lift (fun ms' hms' => ?_) fun f hf => absurd hf (by simp [reopen])
    obtain rfl := Except.ok.inj hms'
    rw [hextract]
    refine runs_lift (fun _ h => absurd h (by simp)) fun f hf => ⟨?_, rfl⟩
    rw [← Except.error.inj hf]
  have hinstall : Runs s (install H dev image report "root") fun r es _ => r = .error .key ∧ es = [] := by
    unfold install
    simp only [hboard, hentry, Option.getD_some]
    refine runs_bind (hwrite _ _) ?_ ?_
    · exact fun _ _ _ h => absurd h.1 (by simp)
    · rintro f es t ⟨hf, rfl⟩
      exact ⟨by rw [Except.error.inj hf], rfl⟩
  unfold installAll
  refine runs_bind hinstall ?_ ?_
  · exact fun _ _ _ h => absurd h.1 (by simp)
  · rintro f es t ⟨hf, rfl⟩
    exact ⟨by rw [Except.error.inj hf], rfl⟩

theorem installs_of_fit {label : String} {member : Member} {data : List UInt8}
    (himage : image = .file file (.members ms)) (hboard : report.board = some board)
    (hentry : Dict.lookup payload report.payloads = some (entryOf b devices label member))
    (hm : memberOf ms (memberName payload) = some member) (hfit : Fit b devices payload label member node data) :
    Installs report image ms payload node member data := by
  have hmagic : magic payload ≠ [] := by
    unfold magic
    split <;> simp
  refine ⟨by rw [himage]; rfl, hboard, ⟨_, hentry, hfit.device⟩, hm, hfit.content, ?_⟩
  rintro rfl
  exact hmagic (List.prefix_nil.mp hfit.magic)

/-- What the installation of both payloads does: nothing if the root partition cannot be opened, else it
writes of the root file system and perhaps of the kernel. -/
theorem runs_installAll_touches {rootNode kernelNode : String} {root kernel : Member}
    {rootData kernelData : List UInt8} (hroot : Installs report image ms "root" rootNode root rootData)
    (hkernel : Installs report image ms "kernel" kernelNode kernel kernelData) :
    Runs s (installAll H dev image report reboot) fun r es _ =>
      ((dev.openWrite rootNode s).1 = .ok () → chunksOf es ≠ []) ∧
      ((dev.openWrite rootNode s).1 ≠ .ok () → Refused r es) ∧
      ∃ es₁ es₂ rest, es = es₁ ++ (es₂ ++ rest) ∧ WritesOnly "root" rootNode rootData es₁ ∧
        WritesOnly "kernel" kernelNode kernelData es₂ ∧ chunksOf rest = [] := by
  have hkeeps : ∀ es es' : List Effect, chunksOf es ≠ [] → chunksOf (es ++ es') ≠ [] := by
    intro es es' hne
    rw [chunksOf_append]
    exact fun hnil => hne (List.append_eq_nil_iff.mp hnil).1
  have hnone : WritesOnly "kernel" kernelNode kernelData [] := ⟨by simp, List.nil_prefix⟩
  unfold installAll
  refine runs_bind (runs_install_touches hroot) (fun text es t h => ?_) fun f es t h => ?_
  · have hopen : (dev.openWrite rootNode s).1 = .ok () := by
      by_contra hclosed
      obtain ⟨-, message, hmessage⟩ := h.none hclosed
      exact absurd hmessage (by simp)
    refine runs_bind (runs_install_touches hkernel) (fun text' es' u h' => ?_) fun f es' u h' => ?_
    · have hend : ∀ (r : Except Failure (List String)) rest, chunksOf rest = [] →
          ((dev.openWrite rootNode s).1 = .ok () → chunksOf (es ++ (es' ++ rest)) ≠ []) ∧
          ((dev.openWrite rootNode s).1 ≠ .ok () → Refused r (es ++ (es' ++ rest))) ∧
          ∃ es₁ es₂ rest', es ++ (es' ++ rest) = es₁ ++ (es₂ ++ rest') ∧
            WritesOnly "root" rootNode rootData es₁ ∧ WritesOnly "kernel" kernelNode kernelData es₂ ∧
              chunksOf rest' = [] := fun r rest hrest =>
        ⟨fun _ => hkeeps _ _ (h.some hopen), fun hclosed => absurd hopen hclosed, es, es', rest, rfl, h.writes,
          h'.writes, hrest⟩
      split
      · exact runs_emit (runs_pure (hend _ [.reboot] rfl))
      · exact runs_pure (hend _ [] rfl)
    · exact ⟨fun _ => hkeeps _ _ (h.some hopen), fun hclosed => absurd hopen hclosed, es, es', [],
        by rw [List.append_nil], h.writes, h'.writes, rfl⟩
  · refine ⟨h.some, fun hclosed => ?_, es, [], [], by simp, h.writes, hnone, rfl⟩
    obtain ⟨hnil, text, htext⟩ := h.none hclosed
    exact ⟨by rw [hnil]; rfl, text, congrArg _ (Except.error.inj htext)⟩

/-- A fit payload that is whole passes every check. -/
theorem payloadChecked_of_whole {label : String} {member : Member} {data : List UInt8}
    (hm : memberOf ms (memberName payload) = some member) (hfit : Fit b devices payload label member node data)
    (hwhole : Whole b devices ms payload label) : PayloadChecked b devices ms payload label node data := by
  obtain ⟨hlength, hroom⟩ := hwhole member node hm hfit.device
  have hsize : data.length = member.size := hlength data hfit.content
  refine ⟨⟨member, hm, hfit.content, hsize.symm⟩, hfit.magic, hsize ▸ hfit.floor, hfit.device, ?_⟩
  rw [hsize]
  rcases b.truthful node with hunread | hread
  · exact hroom.resolve_left fun hne => hne hunread
  · rcases hfit.room with hzero | hle
    · exact hroom.resolve_left fun hne => hne hzero
    · exact hread ▸ hle

theorem whole_of_payloadChecked {label : String} {data : List UInt8}
    (h : PayloadChecked b devices ms payload label node data) : Whole b devices ms payload label := by
  intro member node' hm hdevice
  obtain ⟨member', hm', hcontent, hsize⟩ := h.inspected
  obtain rfl : member = member' := Option.some.inj (hm.symm.trans hm')
  obtain rfl : node = node' := Option.some.inj (h.device.symm.trans hdevice)
  refine ⟨fun data' hdata' => ?_, .inr (by rw [hsize]; exact h.room)⟩
  rw [← Content.bytes.inj (hcontent.symm.trans hdata'), hsize]

theorem digest_of_not_mismatch {digest sum : String} (h : mismatch (some digest) report = false)
    (hsum : report.sha256 = some sum) (hne : digest ≠ "") : sum = digest := by
  unfold mismatch at h
  simpa [hsum, hne] using h

/-! ### The update -/

/-- Nothing that has not been inspected passes every check. -/
theorem readable_of_checked {es : List Effect} (h : Checked H b devices image expect es) : Readable image := by
  obtain ⟨file, ms, rootNode, rootData, kernelNode, kernelData, rfl, -, hdir, hroot, hkernel, -⟩ := h
  intro dir hdir' payload hpayload member hm _
  obtain rfl : "sysupgrade-" ++ board = dir := (List.cons.inj (hdir.symm.trans hdir')).1
  have hbytes : ∀ {p label node data}, PayloadChecked b devices ms p label node data →
      memberOf ms (memberName p) = some member → member.content ≠ .broken := by
    intro p label node data hp hm
    obtain ⟨member', hm', hcontent, -⟩ := hp.inspected
    rw [Option.some.inj (hm.symm.trans hm'), hcontent]
    simp
  rcases List.mem_cons.mp hpayload with rfl | hpayload
  · exact hbytes hroot hm
  · obtain rfl := List.mem_singleton.mp hpayload
    exact hbytes hkernel hm

/-- An update that is refused by a check is as the claim says, and nothing is asked of its image. -/
theorem safe_of_refused {s : δ} {r : Except Failure (List String)} {es : List Effect}
    (hr : Refused r es) (hreadable : Readable image) (hpasses : ¬ Passes H b devices path image expect) :
    Safe H b devices image expect r es ↔ Sound H b devices dev path image expect s :=
  ⟨fun _ => ⟨hreadable, fun _ _ _ h => absurd h hpasses, fun _ _ _ h => absurd h hpasses⟩, fun _ => .inl hr⟩

/-- An update that goes through the checks of the code. -/
theorem runs_passed (hreport : inspect H b devices path image = .ok report) (hok : report.ok = true)
    (hmatch : mismatch expect report = false) (hreadable : Readable image) :
    Runs s (installAll H dev image report reboot) fun r es _ =>
      Safe H b devices image expect r es ↔ Sound H b devices dev path image expect s := by
  have hpasses : Passes H b devices path image expect := ⟨report, hreport, hok, hmatch⟩
  obtain ⟨file, ms, dir, root, rootNode, rootData, kernel, kernelNode, kernelData, rfl, hdir, -, hroot,
    hrootFit, hkernel, hkernelFit, hboard, hsum, hpayloads⟩ := inspect_eq_ok hreport hok
  have hrootEntry : Dict.lookup "root" report.payloads = some (entryOf b devices "rootfs" root) := by
    rw [hpayloads]
    rfl
  by_cases hname : dir = "sysupgrade-" ++ board
  · have hkernelEntry : Dict.lookup "kernel" report.payloads = some (entryOf b devices "kernel" kernel) := by
      rw [hpayloads]
      rfl
    rw [hname] at hroot hkernel hdir
    have hrootInstalls : Installs report (.file file (.members ms)) ms "root" rootNode root rootData :=
      installs_of_fit rfl hboard hrootEntry hroot hrootFit
    have hkernelInstalls : Installs report (.file file (.members ms)) ms "kernel" kernelNode kernel kernelData :=
      installs_of_fit rfl hboard hkernelEntry hkernel hkernelFit
    refine Runs.mono (runs_installAll_touches hrootInstalls hkernelInstalls) fun r es t h => ?_
    obtain ⟨hwrites, hrefused, hparts⟩ := h
    constructor
    · rintro (⟨hnone, -⟩ | hchecked)
      · refine ⟨hreadable, fun _ _ himage _ => ?_, fun _ _ _ _ hopen => ?_⟩
        · rw [← Tar.members.inj (Image.file.inj himage).2]
          exact hdir
        · obtain ⟨node, hnode, hopen⟩ := hopen
          obtain rfl : rootNode = node := Option.some.inj (hrootFit.device.symm.trans hnode)
          exact absurd hnone (hwrites hopen)
      · obtain ⟨_, ms', _, _, _, _, himage, -, hdir', hrootChecked, hkernelChecked, -⟩ := hchecked
        refine ⟨hreadable, fun _ ms'' himage' _ => ?_, fun _ ms'' himage' _ _ => ?_⟩
        · rw [← Tar.members.inj (Image.file.inj himage').2]
          exact hdir
        · rw [← Tar.members.inj (Image.file.inj himage').2, Tar.members.inj (Image.file.inj himage).2]
          exact ⟨whole_of_payloadChecked hrootChecked, whole_of_payloadChecked hkernelChecked⟩
    · intro hsound
      by_cases hopen : (dev.openWrite rootNode s).1 = .ok ()
      · obtain ⟨hrootWhole, hkernelWhole⟩ := hsound.whole file ms rfl hpasses ⟨rootNode, hrootFit.device, hopen⟩
        refine .inr ⟨file, ms, rootNode, rootData, kernelNode, kernelData, rfl, fun digest hdigest hne => ?_, hdir,
          payloadChecked_of_whole hroot hrootFit hrootWhole,
          payloadChecked_of_whole hkernel hkernelFit hkernelWhole, hparts⟩
        rw [hdigest] at hmatch
        exact digest_of_not_mismatch hmatch hsum hne
      · exact .inl (hrefused hopen)
  · refine Runs.mono (runs_installAll_elsewhere rfl hboard hrootEntry hdir hname) fun r es t h => ?_
    obtain ⟨rfl, rfl⟩ := h
    constructor
    · rintro (⟨-, text, htext⟩ | hchecked)
      · exact absurd (Except.error.inj htext) (by simp)
      · obtain ⟨_, ms', _, _, _, _, himage, -, hdir', -⟩ := hchecked
        rw [← Tar.members.inj (Image.file.inj himage).2, hdir] at hdir'
        exact absurd (List.cons.inj hdir').1 hname
    · intro hsound
      have hnamed := hsound.named file ms rfl hpasses
      rw [hdir] at hnamed
      exact absurd (List.cons.inj hnamed).1 hname

/-- **The condition**: an update that writes has gone through every check, and one that does not write is
refused, exactly if the image is sound. -/
theorem safe_iff_sound (H : List UInt8 → String) (b : Board) (devices : Dict String String) (dev : Devices δ)
    (path : String) (image : Image) (reboot : Bool) (expect : Option String) (s : δ) :
    Safe H b devices image expect (apply H b devices dev path image reboot expect s).1
        (apply H b devices dev path image reboot expect s).2.1 ↔
      Sound H b devices dev path image expect s := by
  suffices h : Runs s (apply H b devices dev path image reboot expect) fun r es _ =>
      Safe H b devices image expect r es ↔ Sound H b devices dev path image expect s from h
  unfold apply
  rcases inspect_cases H b devices path image with ⟨hreadable, report, hreport⟩ | ⟨hbroken, f, hf, hother⟩
  · rw [hreport]
    refine runs_lift (fun report' hreport' => ?_) fun f hf => absurd hf (by simp)
    obtain rfl := Except.ok.inj hreport'
    have hunique : ∀ other, inspect H b devices path image = .ok other → other = report := fun other hother =>
      Except.ok.inj (hother.symm.trans hreport)
    split
    · next hmismatch =>
      refine runs_raise (safe_of_refused ⟨rfl, _, rfl⟩ hreadable ?_)
      rintro ⟨other, hother, -, hmatch⟩
      rw [hunique other hother, hmismatch] at hmatch
      exact absurd hmatch (by simp)
    · next hmatch =>
      rw [Bool.not_eq_true] at hmatch
      split
      · next hbad =>
        refine runs_raise (safe_of_refused ⟨rfl, _, rfl⟩ hreadable ?_)
        rintro ⟨other, hother, hok, -⟩
        rw [hunique other hother] at hok
        exact absurd hok (by simpa using hbad)
      · next hok => exact runs_passed hreport (by simpa using hok) hmatch hreadable
  · rw [hf]
    refine runs_lift (fun _ h => absurd h (by simp)) fun f' hf' => ?_
    obtain rfl := Except.error.inj hf'
    constructor
    · rintro (⟨-, text, htext⟩ | hchecked)
      · exact absurd (Except.error.inj htext) (hother text)
      · exact absurd (readable_of_checked hchecked) hbroken
    · exact fun hsound => absurd hsound.readable hbroken

/-- The sample image in a directory that is named after the board alone. -/
def plainTar : List UInt8 :=
  tarHeader "askey_sbe1v1k/kernel" "00004000000" "011612" ++ sampleKernel ++
    tarHeader "askey_sbe1v1k/root" "00100000000" "011312" ++ sampleRoot ++ List.replicate 1024 0

theorem plainTar_keyError :
    ¬ Safe sampleHash sampleBoard [] (sampleImage "askey_sbe1v1k" plainTar) none
      (apply sampleHash sampleBoard [] memoryDevices "sysupgrade.bin" (sampleImage "askey_sbe1v1k" plainTar) true
        none fun _ => ([], 0)).1
      (apply sampleHash sampleBoard [] memoryDevices "sysupgrade.bin" (sampleImage "askey_sbe1v1k" plainTar) true
        none fun _ => ([], 0)).2.1 := by
  have hrun : apply sampleHash sampleBoard [] memoryDevices "sysupgrade.bin" (sampleImage "askey_sbe1v1k" plainTar)
      true none (fun _ => ([], 0)) = (.error .key, [], fun _ => ([], 0)) := rfl
  rw [hrun]
  rintro (⟨-, text, htext⟩ | hchecked)
  · exact absurd (Except.error.inj htext) (by simp)
  · obtain ⟨_, ms, _, _, _, _, himage, -, hdir, -⟩ := hchecked
    rw [← Tar.members.inj (Image.file.inj himage).2] at hdir
    exact absurd hdir (by decide)

end Sbegw.Otad
