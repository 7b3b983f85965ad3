import Sbegw.Otad
import Mathlib.Logic.Function.Basic

/-!
# Verified writes

What an update has read back, over everything that the block devices may do.  The effects of a run are
those of the root file system, then those of the kernel, then the reboot; each group ends with what was
read back, and the next one starts only if the hashes agree.
-/

namespace Sbegw.Otad

open Text Effects

variable {δ : Type} {H : List UInt8 → String} {image : Image}

/-- The payload that an effect belongs to. -/
def Effect.payload? : Effect → Option String
  | .openWrite payload _ => some payload
  | .write payload _ _ => some payload
  | .readBack payload _ _ => some payload
  | .reboot => none

/-! ### The property -/

/-- No collision of the hash on what has been read back. -/
def NoCollision (H : List UInt8 → String) (image : Image) (es : List Effect) : Prop :=
  ∀ payload node seen data, .readBack payload node seen ∈ es → dataOf image payload = some data →
    H seen = H data → seen = data

/-- **Write verification**, of the outcome and the effects of an update. -/
structure Verified (image : Image) (r : Except Failure (List String)) (es : List Effect) : Prop where
  /-- an update that returns has read back both payloads, and nothing else -/
  returned : ∀ messages, r = .ok messages →
    (∀ payload ∈ ["root", "kernel"], ∃ node data, dataOf image payload = some data ∧
      .readBack payload node data ∈ es) ∧
    ∀ payload node seen, .readBack payload node seen ∈ es → dataOf image payload = some seen
  /-- the kernel partition is opened after the root file system has been read back -/
  ordered : ∀ before after node, es = before ++ .openWrite "kernel" node :: after →
    ∃ node' data, dataOf image "root" = some data ∧ .readBack "root" node' data ∈ before
  /-- after a read-back that differs the update raises, and nothing reboots -/
  differing : ∀ payload node seen, .readBack payload node seen ∈ es → dataOf image payload ≠ some seen →
    (∃ f, r = .error f) ∧ .reboot ∉ es

/-! ### One payload -/

/-- How the installation of a payload ends. -/
structure Installed (H : List UInt8 → String) (image : Image) (payload : String) (r : Except Failure String)
    (es : List Effect) : Prop where
  own : ∀ e ∈ es, e.payload? = some payload
  ok : ∀ text, r = .ok text → ∃ node data seen, dataOf image payload = some data ∧
    .readBack payload node seen ∈ es ∧ H seen = H data
  compared : ∀ p node seen, .readBack p node seen ∈ es → ∃ data, dataOf image payload = some data ∧
    (H seen ≠ H data → ∃ f, r = .error f)

theorem own_opened {payload node : String} {chunks : List (List UInt8)} :
    ∀ e ∈ opened payload node chunks, e.payload? = some payload ∧ ∀ p n seen, e ≠ .readBack p n seen := by
  intro e he
  rcases List.mem_cons.mp he with rfl | he
  · exact ⟨rfl, by simp⟩
  · obtain ⟨chunk, -, rfl⟩ := List.mem_map.mp he
    exact ⟨rfl, by simp⟩

theorem installed_nil (payload : String) (f : Failure) : Installed H image payload (.error f) [] :=
  ⟨by simp, fun _ h => absurd h (by simp), by simp⟩

theorem installed_opened (payload node : String) (chunks : List (List UInt8)) (f : Failure) :
    Installed H image payload (.error f) (opened payload node chunks) :=
  ⟨fun e he => (own_opened e he).1, fun _ h => absurd h (by simp),
    fun p n seen hmem => absurd rfl ((own_opened _ hmem).2 p n seen)⟩

/-- What a read-back leads to: the installation goes on exactly if the hashes agree. -/
theorem installed_readBack {payload node : String} {chunks : List (List UInt8)} {data seen : List UInt8}
    {r : Except Failure String} (hdata : dataOf image payload = some data)
    (hok : ∀ text, r = .ok text → H seen = H data) (herr : H seen ≠ H data → ∃ f, r = .error f) :
    Installed H image payload r (opened payload node chunks ++ [.readBack payload node seen]) := by
  refine ⟨fun e he => ?_, fun text htext => ?_, fun p n back hmem => ?_⟩
  · rcases List.mem_append.mp he with he | he
    · exact (own_opened e he).1
    · rw [List.mem_singleton.mp he]
      rfl
  · exact ⟨node, data, seen, hdata, by simp, hok text htext⟩
  · rcases List.mem_append.mp hmem with hmem | hmem
    · exact absurd rfl ((own_opened _ hmem).2 p n back)
    · obtain ⟨-, -, rfl⟩ := Effect.readBack.inj (List.mem_singleton.mp hmem)
      exact ⟨data, hdata, herr⟩

theorem runs_install {dev : Devices δ} {report : Report} {payload : String} {s : δ}
    (hboard : report.board = some board) :
    Runs s (install H dev image report payload) fun r es _ => Installed H image payload r es := by
  unfold install
  simp only [hboard, Option.getD_some]
  cases Dict.lookup payload report.payloads with
  | none => exact runs_raise (installed_nil payload _)
  | some entry =>
    refine runs_bind runs_writeMember ?_ ?_
    · intro written es t hwrote
      cases hwrote with
      | readBack data seen chunks hdata =>
        rw [memberSha256_eq hdata]
        refine runs_lift (fun expected hexpected => ?_) fun f hf => absurd hf (by simp)
        obtain rfl : H data = expected := Except.ok.inj hexpected
        split
        · next hne =>
          refine runs_raise ?_
          rw [List.append_nil]
          exact installed_readBack hdata (fun _ h => absurd h (by simp)) fun _ => ⟨_, rfl⟩
        · next heq =>
          rw [not_not] at heq
          refine runs_pure ?_
          rw [List.append_nil]
          exact installed_readBack hdata (fun _ _ => heq) fun hne => absurd heq hne
    · intro f es t hwrote
      cases hwrote with
      | untouched => exact installed_nil payload f
      | brokenOff _ data chunks => exact installed_opened payload _ chunks f

/-! ### The update -/

/-- An inspection that finds no problem has found the name of this board. -/
theorem board_of_inspect {b : Board} {devices : Dict String String} {path : String} {report : Report}
    (h : inspect H b devices path image = .ok report) (hok : report.ok = true) :
    report.board = some board := by
  obtain ⟨_, _, _, _, _, _, _, _, _, -, -, -, -, -, -, -, hboard, -⟩ := inspect_eq_ok h hok
  exact hboard

/-- What comes after the effects of one payload starts after all of them. -/
theorem append_of_not_mem {es rest before after : List Effect} {x : Effect} (hx : x ∉ es)
    (h : es ++ rest = before ++ x :: after) : ∃ between, before = es ++ between := by
  rcases List.append_eq_append_iff.mp h with ⟨between, hbefore, -⟩ | ⟨between, hes, hrest⟩
  · exact ⟨between, hbefore⟩
  · cases between with
    | nil => exact ⟨[], by rw [hes]; simp⟩
    | cons y ys =>
      obtain ⟨rfl, -⟩ := List.cons.inj hrest
      exact absurd (by rw [hes]; simp) hx

theorem reboot_not_mem {payload : String} {r : Except Failure String} {es : List Effect}
    (h : Installed H image payload r es) : .reboot ∉ es := fun hmem =>
  absurd (h.own _ hmem) (by simp [Effect.payload?])

/-- An update that stops at the root file system. -/
theorem verified_root {f : Failure} {r : Except Failure String} {es : List Effect}
    (h : Installed H image "root" r es) : Verified image (.error f) es := by
  refine ⟨fun _ hr => absurd hr (by simp), fun before after node hes => ?_, fun _ _ _ _ _ => ?_⟩
  · have hown := h.own (.openWrite "kernel" node) (by rw [hes]; simp)
    exact absurd (Option.some.inj hown) (by decide)
  · exact ⟨⟨f, rfl⟩, reboot_not_mem h⟩

theorem root_readBack {text : String} {es rest : List Effect} (h : Installed H image "root" (.ok text) es)
    (hno : NoCollision H image (es ++ rest)) :
    ∃ node data, dataOf image "root" = some data ∧ .readBack "root" node data ∈ es := by
  obtain ⟨node, data, seen, hdata, hmem, hhash⟩ := h.ok text rfl
  have hsame : seen = data := hno "root" node seen data (List.mem_append_left _ hmem) hdata hhash
  exact ⟨node, data, hdata, hsame ▸ hmem⟩

/-- The kernel comes after the root file system has been read back. -/
theorem ordered_of_root {text : String} {es rest : List Effect} (h : Installed H image "root" (.ok text) es)
    (hno : NoCollision H image (es ++ rest)) (before after : List Effect) (node : String)
    (hes : es ++ rest = before ++ .openWrite "kernel" node :: after) :
    ∃ node' data, dataOf image "root" = some data ∧ .readBack "root" node' data ∈ before := by
  have hkernel : .openWrite "kernel" node ∉ es := fun hmem =>
    absurd (Option.some.inj (h.own _ hmem)) (by decide)
  obtain ⟨between, rfl⟩ := append_of_not_mem hkernel hes
  obtain ⟨node', data, hdata, hmem⟩ := root_readBack h hno
  exact ⟨node', data, hdata, List.mem_append_left _ hmem⟩

/-- An update that stops at the kernel. -/
theorem verified_kernel {text : String} {f : Failure} {r : Except Failure String} {es es' : List Effect}
    (h : Installed H image "root" (.ok text) es) (h' : Installed H image "kernel" r es')
    (hno : NoCollision H image (es ++ es')) : Verified image (.error f) (es ++ es') := by
  refine ⟨fun _ hr => absurd hr (by simp), ordered_of_root h hno, fun _ _ _ _ _ => ⟨⟨f, rfl⟩, fun hmem => ?_⟩⟩
  rcases List.mem_append.mp hmem with hmem | hmem
  · exact reboot_not_mem h hmem
  · exact reboot_not_mem h' hmem

/-- What has been read back of a payload that is installed is the payload. -/
theorem seen_of_installed {payload text : String} {es all : List Effect}
    (h : Installed H image payload (.ok text) es) (hno : NoCollision H image all) (hsub : es ⊆ all)
    {p node : String} {seen : List UInt8} (hmem : .readBack p node seen ∈ es) :
    dataOf image p = some seen := by
  obtain rfl : p = payload := Option.some.inj (h.own _ hmem)
  obtain ⟨data, hdata, herr⟩ := h.compared p node seen hmem
  have hhash : H seen = H data := by
    by_contra hne
    obtain ⟨f, hf⟩ := herr hne
    exact absurd hf (by simp)
  rw [hno p node seen data (hsub hmem) hdata hhash]
  exact hdata

/-- An update that goes through, with whatever follows it. -/
theorem verified_both {root kernel : String} {messages : List String} {es es' rest : List Effect}
    (h : Installed H image "root" (.ok root) es) (h' : Installed H image "kernel" (.ok kernel) es')
    (hrest : ∀ p node seen, .readBack p node seen ∉ rest) (hno : NoCollision H image (es ++ (es' ++ rest))) :
    Verified image (.ok messages) (es ++ (es' ++ rest)) := by
  have hseen : ∀ p node seen, .readBack p node seen ∈ es ++ (es' ++ rest) → dataOf image p = some seen := by
    intro p node seen hmem
    rcases List.mem_append.mp hmem with hmem | hmem
    · exact seen_of_installed h hno (List.subset_append_left _ _) hmem
    · rcases List.mem_append.mp hmem with hmem | hmem
      · exact seen_of_installed h' hno
          (fun _ hx => List.mem_append_right _ (List.mem_append_left _ hx)) hmem
      · exact absurd hmem (hrest p node seen)
  refine ⟨fun _ _ => ⟨fun payload hpayload => ?_, hseen⟩, ordered_of_root h hno,
    fun p node seen hmem hne => absurd (hseen p node seen hmem) hne⟩
  rcases List.mem_cons.mp hpayload with rfl | hpayload
  · obtain ⟨node, data, hdata, hmem⟩ := root_readBack h hno
    exact ⟨node, data, hdata, List.mem_append_left _ hmem⟩
  · obtain rfl := List.mem_singleton.mp hpayload
    obtain ⟨node, data, seen, hdata, hmem, hhash⟩ := h'.ok kernel rfl
    have hall : .readBack "kernel" node seen ∈ es ++ (es' ++ rest) :=
      List.mem_append_right _ (List.mem_append_left _ hmem)
    have hsame : seen = data := hno "kernel" node seen data hall hdata hhash
    exact ⟨node, data, hdata, hsame ▸ hall⟩

theorem runs_apply {b : Board} {devices : Dict String String} {dev : Devices δ} {path : String} {reboot : Bool}
    {expect : Option String} {s : δ} :
    Runs s (apply H b devices dev path image reboot expect) fun r es _ =>
      NoCollision H image es → Verified image r es := by
  have hnil : ∀ f, Verified image (.error f) [] := fun f => verified_root (installed_nil (H := H) "root" f)
  unfold apply
  refine runs_lift (fun report hinspect => ?_) fun f _ _ => hnil f
  split
  · exact runs_raise fun _ => hnil _
  · split
    · exact runs_raise fun _ => hnil _
    · next hok =>
      have hboard := board_of_inspect hinspect (by simpa using hok)
      unfold installAll
      refine runs_bind (runs_install hboard) (fun root es t hroot => ?_) fun f es t hroot _ => verified_root hroot
      refine runs_bind (runs_install hboard) (fun kernel es' u hkernel => ?_)
        fun f es' u hkernel hno => verified_kernel hroot hkernel hno
      split
      · exact runs_emit (runs_pure fun hno => verified_both hroot hkernel (by simp) hno)
      · exact runs_pure fun hno => verified_both hroot hkernel (by simp) hno

/-- **Firmware write verification**, whatever the image and the block devices do. -/
theorem apply_verified (H : List UInt8 → String) (b : Board) (devices : Dict String String) (dev : Devices δ)
    (path : String) (image : Image) (reboot : Bool) (expect : Option String) (s : δ)
    (hno : NoCollision H image (apply H b devices dev path image reboot expect s).2.1) :
    Verified image (apply H b devices dev path image reboot expect s).1
      (apply H b devices dev path image reboot expect s).2.1 :=
  runs_apply hno

/-! ### An image and a device -/

def ascii (text : String) : List UInt8 := text.toList.map fun c => UInt8.ofNat c.toNat

/-- A field of a tar header. -/
def tarField (width : ℕ) (text : String) : List UInt8 :=
  ascii text ++ List.replicate (width - text.length) 0

/-- The header of a regular file. -/
def tarHeader (name size checksum : String) : List UInt8 :=
  tarField 100 name ++ tarField 8 "0000644" ++ tarField 8 "0000000" ++ tarField 8 "0000000" ++
    tarField 12 size ++ tarField 12 "00000000000" ++ ascii checksum ++ [0, 0x20] ++ ascii "0" ++
    List.replicate 100 0 ++ tarField 6 "ustar" ++ ascii "00" ++ List.replicate 247 0

def sampleRoot : List UInt8 := magic "root" ++ List.replicate (2 ^ 24 - 4) 0

def sampleKernel : List UInt8 := magic "kernel" ++ List.replicate (2 ^ 20 - 4) 0

/-- A tar file with the two payloads. -/
def sampleTar : List UInt8 :=
  tarHeader "sysupgrade-askey_sbe1v1k/kernel" "00004000000" "013776" ++ sampleKernel ++
    tarHeader "sysupgrade-askey_sbe1v1k/root" "00100000000" "013476" ++ sampleRoot ++ List.replicate 1024 0

/-- The image whose payloads lie in a directory. -/
def sampleImage (dir : String) (data : List UInt8) : Image :=
  .file data (.members [⟨dir ++ "/kernel", 2 ^ 20, .bytes sampleKernel⟩,
    ⟨dir ++ "/root", 2 ^ 24, .bytes sampleRoot⟩])

/-- The SHA-256 digests of the sample files; any other file is its own digest. -/
def sampleHash (data : List UInt8) : String :=
  if data = sampleRoot then "1934cfc532df9adb8c729b40818ad67255a4ed75b3cd80426a509c97e0f6b243"
  else if data = sampleKernel then "f33e525fe18a12abdc9e81ea664dc3e4540d9a24a831d64195b2540f35bcba1d"
  else if data = sampleTar then "9a20adede72fc621a46350c25fd1eb11fac979f499cec192feba60a65085aa0f"
  else "?" ++ String.ofList (data.map fun b => Char.ofNat b.toNat)

/-- The file that has a digest. -/
def unhash (digest : String) : List UInt8 :=
  if digest = "1934cfc532df9adb8c729b40818ad67255a4ed75b3cd80426a509c97e0f6b243" then sampleRoot
  else if digest = "f33e525fe18a12abdc9e81ea664dc3e4540d9a24a831d64195b2540f35bcba1d" then sampleKernel
  else if digest = "9a20adede72fc621a46350c25fd1eb11fac979f499cec192feba60a65085aa0f" then sampleTar
  else ascii (String.ofList digest.toList.tail)

theorem ascii_bytes (data : List UInt8) :
    ascii (String.ofList (data.map fun b => Char.ofNat b.toNat)) = data := by
  have hbyte : ∀ b : UInt8, UInt8.ofNat (Char.ofNat b.toNat).toNat = b := by
    intro b
    have hlt : b.toNat < 256 := b.toNat_lt
    have hvalid : b.toNat.isValidChar := .inl (by omega)
    have hchar : (Char.ofNat b.toNat).toNat = b.toNat := by
      unfold Char.ofNat
      rw [dif_pos hvalid]
      rfl
    rw [hchar, UInt8.ofNat_toNat]
  unfold ascii
  rw [String.toList_ofList, List.map_map]
  calc data.map _ = data.map id := List.map_congr_left fun b _ => hbyte b
    _ = data := List.map_id data

theorem unhash_sampleHash (data : List UInt8) : unhash (sampleHash data) = data := by
  have hother : ∀ text digest : String, digest.toList.head? ≠ some '?' → "?" ++ text ≠ digest := by
    rintro text digest hhead rfl
    exact hhead (by rw [String.toList_append]; rfl)
  unfold sampleHash
  split
  · next h => rw [h]; exact if_pos rfl
  · split
    · next h => rw [h]; rfl
    · split
      · next h => rw [h]; rfl
      · unfold unhash
        rw [if_neg (hother _ _ (by decide)), if_neg (hother _ _ (by decide)), if_neg (hother _ _ (by decide)),
          String.toList_append]
        show ascii (String.ofList (String.ofList (data.map fun b => Char.ofNat b.toNat)).toList) = data
        rw [String.ofList_toList]
        exact ascii_bytes data

/-- Block devices that keep what they are given: the content of a node and the position in it. -/
def memoryDevices : Devices (String → List UInt8 × ℕ) where
  openWrite node s := (.ok (), Function.update s node ((s node).1, 0))
  write node chunk s := (.ok (), Function.update s node
    ((s node).1.take (s node).2 ++ chunk ++ (s node).1.drop ((s node).2 + chunk.length),
      (s node).2 + chunk.length))
  sync _ s := (.ok (), s)
  openRead node s := (.ok (), Function.update s node ((s node).1, 0))
  read node n s := (.ok (((s node).1.drop (s node).2).take n),
    Function.update s node ((s node).1, (s node).2 + n))
  read_le node n s chunk h := by
    rw [← Except.ok.inj h]
    exact List.length_take_le n _

/-- Two partitions of known size. -/
def sampleBoard : Board where
  partition label := if label = "rootfs" then some "/dev/mmcblk0p2" else some "/dev/mmcblk0p1"
  bytes node := if node = "/dev/mmcblk0p2" then 2 ^ 30 else 2 ^ 25
  real node := if node = "/dev/mmcblk0p2" then 2 ^ 30 else 2 ^ 25
  truthful _ := .inr rfl

theorem apply_verified_sample :
    Verified (sampleImage "sysupgrade-askey_sbe1v1k" sampleTar)
      (apply sampleHash sampleBoard [] memoryDevices "sysupgrade.bin"
        (sampleImage "sysupgrade-askey_sbe1v1k" sampleTar) true none fun _ => ([], 0)).1
      (apply sampleHash sampleBoard [] memoryDevices "sysupgrade.bin"
        (sampleImage "sysupgrade-askey_sbe1v1k" sampleTar) true none fun _ => ([], 0)).2.1 :=
  apply_verified sampleHash sampleBoard [] memoryDevices "sysupgrade.bin" _ true none _
    fun _ _ seen data _ _ h => by
      rw [← unhash_sampleHash seen, h, unhash_sampleHash data]

end Sbegw.Otad
