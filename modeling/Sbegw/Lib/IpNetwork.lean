import Sbegw.Lib.IpText

/-!
# The text of a network

`str(ipaddress.ip_network(s, strict=False))` of an IPv4 text stands for the same addresses as the text it was made of.
-/

namespace Ip

open Text

theorem foldl_octets {os : List ℕ} (h : ∀ o ∈ os, o < 256) :
    ∀ n, os.foldl (fun n o => n * 256 + o) n < (n + 1) * 256 ^ os.length := by
  induction os with
  | nil => simp
  | cons o os ih =>
    intro n
    rw [List.forall_mem_cons] at h
    have hstep := ih h.2 (n * 256 + o)
    have hle : (n * 256 + o + 1) * 256 ^ os.length ≤ (n + 1) * 256 ^ (os.length + 1) := by
      rw [pow_succ, mul_comm (256 ^ os.length) 256, ← mul_assoc]
      exact Nat.mul_le_mul_right _ (by omega)
    exact lt_of_lt_of_le hstep hle

theorem toNat_v4_lt {os : List ℕ} (h : Octets os) : (Addr.v4 os).toNat < 2 ^ 32 := by
  have hlt := foldl_octets h.2 0
  rw [h.1] at hlt
  exact hlt

theorem prefixOfMask_le {n p : ℕ} (h : prefixOfMask n = some p) : p ≤ 32 :=
  Nat.lt_succ_iff.mp (List.mem_range.mp (List.mem_of_find?_eq_some h))

theorem prefixV4_le {cs : List Char} {p : ℕ} (h : prefixV4 cs = some p) : p ≤ 32 := by
  unfold prefixV4 at h
  split at h
  · next hc =>
    obtain rfl := Option.some.inj h
    simp only [Bool.and_eq_true, decide_eq_true_eq] at hc
    exact hc.2
  · obtain ⟨os, -, h⟩ := Option.bind_eq_some_iff.mp h
    dsimp only at h
    cases hmask : prefixOfMask (Addr.v4 os).toNat with
    | some q =>
      rw [hmask] at h
      obtain rfl := Option.some.inj h
      exact prefixOfMask_le hmask
    | none =>
      rw [hmask] at h
      exact prefixOfMask_le h

/-- What an IPv4 text is read as. -/
theorem octets_of_ipInterface {s : String} {i : Iface} (h : ipInterface s = some i) (h4 : i.addr.version = 4) :
    ∃ os, i.addr = .v4 os ∧ Octets os ∧ i.prefixlen ≤ 32 := by
  unfold ipInterface at h
  split at h
  · split at h
    · next os hos =>
      obtain rfl := Option.some.inj h
      exact ⟨os, rfl, octets_of_parseV4 hos, le_refl 32⟩
    · obtain ⟨r, -, rfl⟩ := Option.map_eq_some_iff.mp h
      cases h4
  · split at h
    · next os p hos hp =>
      obtain rfl := Option.some.inj h
      exact ⟨os, rfl, octets_of_parseV4 hos, prefixV4_le hp⟩
    · split at h
      · obtain rfl := Option.some.inj h
        cases h4
      · cases h
  · cases h

theorem prefixV4_toDigits {p : ℕ} (h : p ≤ 32) : prefixV4 (Nat.toDigits 10 p) = some p := by
  have hread := parseOctet_toDigits (show p < 256 by omega)
  unfold parseOctet at hread
  split at hread
  · cases hread
  · next hc =>
    split at hread
    · cases hread
    · have hvalue := Option.some.inj hread
      simp only [Bool.or_eq_true, Bool.not_eq_true', not_or, Bool.not_eq_true, Bool.not_eq_false] at hc
      unfold prefixV4
      rw [hvalue, hc.1.1.1, hc.1.1.2, if_pos (by simpa using h)]

/-- The first address of an IPv4 network, as octets. -/
theorem toNat_networkAddr {i : Iface} {os : List ℕ} (haddr : i.addr = .v4 os) (h : Octets os) :
    i.networkAddr.toNat = i.networkAddress ∧ Valid i.networkAddr := by
  have hle : i.networkAddress < 4294967296 := by
    have hdiv : i.networkAddress ≤ i.addr.toNat := Nat.div_mul_le_self _ _
    have hlt := toNat_v4_lt h
    rw [← haddr] at hlt
    omega
  unfold Iface.networkAddr
  rw [haddr]
  dsimp only
  constructor
  · show (((0 * 256 + i.networkAddress / 16777216 % 256) * 256 + i.networkAddress / 65536 % 256) * 256 +
      i.networkAddress / 256 % 256) * 256 + i.networkAddress % 256 = _
    omega
  · refine .v4 ⟨rfl, fun o ho => ?_⟩
    simp only [List.mem_cons, List.not_mem_nil, or_false] at ho
    omega

/-- **The network of an IPv4 text is read back** as the addresses it stands for. -/
theorem ipInterface_showNetwork {s : String} {i : Iface} (h : ipInterface s = some i) (h4 : i.addr.version = 4) :
    ∃ j, ipInterface i.showNetwork = some j ∧ j.addr.version = 4 ∧ j.networkAddress = i.networkAddress ∧
      j.size = i.size := by
  obtain ⟨os, haddr, hos, hprefix⟩ := octets_of_ipInterface h h4
  obtain ⟨hnat, hvalid⟩ := toNat_networkAddr haddr hos
  have hv4 : ∃ os', i.networkAddr = .v4 os' ∧ Octets os' := by
    cases hvalid' : i.networkAddr with
    | v4 os' =>
      rw [hvalid'] at hvalid
      cases hvalid with
      | v4 ho => exact ⟨os', rfl, ho⟩
    | v6 hs scope =>
      unfold Iface.networkAddr at hvalid'
      rw [haddr] at hvalid'
      cases hvalid'
  obtain ⟨os', hnet, hos'⟩ := hv4
  have hslash : '/' ∉ i.networkAddr.show.toList := by
    intro hc
    have hread := ipAddress_show hvalid
    unfold ipAddress at hread
    rw [if_pos (by simpa using hc)] at hread
    cases hread
  have hdigits : '/' ∉ Nat.toDigits 10 i.prefixlen := fun hc =>
    absurd (isDigit_of_toDigits (show i.prefixlen < 256 by omega) '/' hc) (by decide)
  have hshow : parseV4 i.networkAddr.show.toList = some os' := by
    rw [hnet]
    unfold Addr.show
    rw [String.toList_ofList]
    exact parseV4_show hos'
  have hsize : (Iface.mk i.networkAddr i.prefixlen).size = i.size := by
    unfold Iface.size
    rw [hnet, haddr]
    rfl
  refine ⟨⟨i.networkAddr, i.prefixlen⟩, ?_, by rw [hnet]; rfl, ?_, hsize⟩
  · unfold ipInterface Iface.showNetwork
    rw [String.toList_append, String.toList_append]
    have hsplit : splitChars '/' (i.networkAddr.show.toList ++ "/".toList ++ (Text.ofNat i.prefixlen).toList) =
        [i.networkAddr.show.toList, Nat.toDigits 10 i.prefixlen] := by
      have hone : "/".toList = ['/'] := rfl
      have hnat' : (Text.ofNat i.prefixlen).toList = Nat.toDigits 10 i.prefixlen := by
        unfold Text.ofNat
        rw [String.toList_ofList]
      rw [hone, hnat', List.append_assoc, List.singleton_append, splitChars_append, splitChars_of_notMem hslash,
        splitChars_of_notMem hdigits]
      rfl
    rw [hsplit]
    dsimp only
    rw [hshow, prefixV4_toDigits hprefix]
    dsimp only
    rw [hnet]
  · have hdef : (Iface.mk i.networkAddr i.prefixlen).networkAddress =
        i.networkAddr.toNat / (Iface.mk i.networkAddr i.prefixlen).size * (Iface.mk i.networkAddr i.prefixlen).size :=
      rfl
    rw [hdef, hsize, hnat]
    unfold Iface.networkAddress
    rw [Nat.mul_div_cancel _ (size_pos i)]

end Ip
