import Sbegw.Lib.Text

/-!
# Names and addresses of BSSes

`InterfacePlanner`: what a BSS and an MLD are called, from the radio and the slot alone.
-/

namespace Sbegw.Wifid

open Text

/-- A MAC address, octet by octet. -/
structure Mac where
  o₀ : BitVec 8
  o₁ : BitVec 8
  o₂ : BitVec 8
  o₃ : BitVec 8
  o₄ : BitVec 8
  o₅ : BitVec 8
deriving DecidableEq

def hexDigits : List Char := "0123456789abcdef".toList

/-- `f"{o:02x}"` -/
def hexOctet (o : BitVec 8) : List Char :=
  [hexDigits.getD (o.toNat / 16) '0', hexDigits.getD (o.toNat % 16) '0']

/-- `format_mac` -/
def Mac.text (m : Mac) : String :=
  join ":" ([m.o₀, m.o₁, m.o₂, m.o₃, m.o₄, m.o₅].map fun o => String.ofList (hexOctet o))

/-- `derive_mac(base, local_bit=True, index=index)` -/
def deriveMac (base : Mac) (index : ℕ) : Mac :=
  { base with o₀ := base.o₀ ||| 0x02, o₅ := base.o₅ + BitVec.ofNat 8 index }

/-- `InterfacePlanner.MAX_SLOTS` -/
def maxSlots : ℕ := 16

/-- `InterfacePlanner.bssid` -/
def bssid (radioMac : Mac) (index radioOrdinal : ℕ) : Mac := deriveMac radioMac (radioOrdinal * maxSlots + index)

/-- `InterfacePlanner.mld_mac` -/
def mldMac (primary : Mac) (index : ℕ) : Mac :=
  { primary with
    o₀ := primary.o₀ ||| 0x02
    o₃ := primary.o₃ ^^^ 0x80
    o₅ := primary.o₅ + 0x40 + BitVec.ofNat 8 index }

/-- `s.replace(p, "")`; the number counts the characters of a copy still to skip. -/
def dropCopies (p : List Char) : ℕ → List Char → List Char
  | _, [] => []
  | n + 1, _ :: cs => dropCopies p n cs
  | 0, c :: cs => if p.isPrefixOf (c :: cs) then dropCopies p (p.length - 1) cs else c :: dropCopies p 0 cs

/-- What is left of a radio id in the names of its interfaces. -/
def radioTag (radioId : String) : List Char := dropCopies ['-'] 0 (dropCopies "radio-".toList 0 radioId.toList)

/-- `InterfacePlanner.iface_name` -/
def ifaceName (radioId : String) (index : ℕ) : String :=
  "wl" ++ String.ofList (radioTag radioId) ++ ofNat index

/-- On one radio two slots have two names. -/
theorem ifaceName_inj {radioId : String} {m n : ℕ} (h : ifaceName radioId m = ifaceName radioId n) : m = n := by
  unfold ifaceName at h
  have hlist := congrArg String.toList h
  simp only [String.toList_append, List.append_cancel_left_eq] at hlist
  exact ofNat_inj.mp (String.toList_inj.mp hlist)

example : ifaceName "radio-5g-2" 11 = "wl5g211" := by decide

end Sbegw.Wifid
