import Sbegw.Wifid.Registry
import Sbegw.Wifid.Mlds

/-!
# No two BSSes are mistaken

The names that `discover` gives to radios, and slots below `MAX_SLOTS`, keep the netdevs of a plan apart; the ordinals
of the radios of one address keep its BSSIDs apart.  So no BSS of a plan overwrites another, and no MLD has the
address of a BSS.
-/

namespace Sbegw.Wifid

open Text Schema

/-! ### Names -/

/-- The bands of a probe. -/
def probedBands : List String := ["2g", "5g", "6g"]

/-- The radio has the id that `discover` numbers it with, and is one of the first nine of its band. -/
def Numbered (rid band : String) : Prop := ∃ index < 9, rid = numbered band index

/-- What an index leaves in a name. -/
def indexTag (index : ℕ) : List Char := if index = 0 then [] else [Nat.digitChar (index + 1)]

theorem radioTag_numbered : ∀ band ∈ probedBands, ∀ index < 9,
    radioTag (numbered band index) = band.toList ++ indexTag index := by decide

theorem toList_ifaceName {band : String} (hband : band ∈ probedBands) {index : ℕ} (hindex : index < 9) (slot : ℕ) :
    (ifaceName (numbered band index) slot).toList =
      "wl".toList ++ (band.toList ++ (indexTag index ++ (ofNat slot).toList)) := by
  simp only [ifaceName, String.toList_append, String.toList_ofList, radioTag_numbered band hband index hindex,
    List.append_assoc]

/-- A slot below `MAX_SLOTS` is not read as the number of a radio and a slot. -/
theorem slot_ne_index : ∀ slot < maxSlots, ∀ index < 9, ∀ slot' < maxSlots, index ≠ 0 →
    (ofNat slot).toList ≠ indexTag index ++ (ofNat slot').toList := by decide

theorem indexTag_inj : ∀ i < 9, ∀ j < 9, indexTag i = indexTag j → i = j := by decide

theorem length_indexTag {index : ℕ} (h : index ≠ 0) : (indexTag index).length = 1 := by
  rw [indexTag, if_neg h]
  rfl

theorem index_slot_inj {i j m n : ℕ} (hi : i < 9) (hj : j < 9) (hm : m < maxSlots) (hn : n < maxSlots)
    (h : indexTag i ++ (ofNat m).toList = indexTag j ++ (ofNat n).toList) : i = j ∧ m = n := by
  by_cases hi₀ : i = 0
  · by_cases hj₀ : j = 0
    · rw [hi₀, hj₀, List.append_cancel_left_eq] at h
      exact ⟨hi₀.trans hj₀.symm, ofNat_inj.mp (String.toList_inj.mp h)⟩
    · rw [hi₀] at h
      exact absurd h (slot_ne_index m hm j hj n hn hj₀)
  · by_cases hj₀ : j = 0
    · rw [hj₀] at h
      exact absurd h.symm (slot_ne_index n hn i hi m hm hi₀)
    · obtain ⟨htag, hslot⟩ := List.append_inj h ((length_indexTag hi₀).trans (length_indexTag hj₀).symm)
      exact ⟨indexTag_inj i hi j hj htag, ofNat_inj.mp (String.toList_inj.mp hslot)⟩

theorem length_band : ∀ band ∈ probedBands, band.toList.length = 2 := by decide

/-- **The name of a netdev tells its radio and its slot.** -/
theorem ifaceName_numbered_inj {b b' rid rid' : String} {m n : ℕ} (hb : b ∈ probedBands) (hb' : b' ∈ probedBands)
    (hrid : Numbered rid b) (hrid' : Numbered rid' b') (hm : m < maxSlots) (hn : n < maxSlots)
    (h : ifaceName rid m = ifaceName rid' n) : rid = rid' ∧ m = n := by
  obtain ⟨i, hi, rfl⟩ := hrid
  obtain ⟨j, hj, rfl⟩ := hrid'
  have hlist := congrArg String.toList h
  rw [toList_ifaceName hb hi, toList_ifaceName hb' hj, List.append_cancel_left_eq] at hlist
  obtain ⟨hband, hrest⟩ := List.append_inj hlist ((length_band b hb).trans (length_band b' hb').symm)
  obtain ⟨rfl, rfl⟩ := index_slot_inj hi hj hm hn hrest
  rw [String.toList_inj.mp hband]
  exact ⟨rfl, rfl⟩

/-! ### Ordinals -/

theorem keys_countMacs : ∀ (l : List (String × Radio)) (seen : Dict Mac ℕ),
    Dict.keys (countMacs l seen) = l.map Prod.fst
  | [], _ => rfl
  | (rid, _) :: rest, _ => congrArg (rid :: ·) (keys_countMacs rest _)

/-- The number of a radio: those of its address before it. -/
theorem lookup_countMacs {rid : String} {r : Radio} : ∀ (pre post : List (String × Radio)) (seen : Dict Mac ℕ),
    ((pre ++ (rid, r) :: post).map Prod.fst).Nodup →
      Dict.lookup rid (countMacs (pre ++ (rid, r) :: post) seen) =
        some ((Dict.lookup r.address seen).getD 0 + pre.countP fun e => e.2.address = r.address)
  | [], _, _, _ => by
    rw [List.nil_append, countMacs]
    simp only [Dict.lookup_cons, if_true]
    rfl
  | (q, s) :: pre, post, seen, hnodup => by
    rw [List.cons_append, List.map_cons, List.nodup_cons] at hnodup
    have hne : q ≠ rid := by
      rintro rfl
      exact hnodup.1 (List.mem_map.mpr ⟨(q, r), List.mem_append_right _ List.mem_cons_self, rfl⟩)
    rw [List.cons_append, countMacs]
    simp only [Dict.lookup_cons, if_neg hne]
    rw [lookup_countMacs pre post _ hnodup.2, Dict.lookup_set, List.countP_cons]
    by_cases hsame : r.address = s.address
    · rw [if_pos hsame, hsame]
      simp only [Option.getD_some, decide_true, if_true]
      congr 1
      omega
    · rw [if_neg hsame, decide_eq_false (Ne.symm hsame)]
      rfl

section Ordinals

variable {radios : Radios} (hnodup : radios.keys.Nodup)

include hnodup in
theorem nodup_byBand : ((radios.insertionSort bandLe).map Prod.fst).Nodup :=
  ((List.perm_insertionSort bandLe radios).map Prod.fst).nodup_iff.mpr hnodup

include hnodup in
/-- The number of radios of its address before the radio. -/
theorem ordinal_eq {pre post : List (String × Radio)} {rid : String} {r : Radio}
    (h : radios.insertionSort bandLe = pre ++ (rid, r) :: post) :
    (Dict.lookup rid (radioOrdinals radios)).getD 0 = pre.countP fun e => e.2.address = r.address := by
  have hkeys := nodup_byBand hnodup
  rw [h] at hkeys
  rw [radioOrdinals, h, lookup_countMacs pre post [] hkeys, Option.getD_some]
  exact Nat.zero_add _

include hnodup in
theorem ordinal_lt {rid : String} {r : Radio} (h : (rid, r) ∈ radios) :
    (Dict.lookup rid (radioOrdinals radios)).getD 0 < radios.length := by
  obtain ⟨pre, post, hsplit⟩ := List.append_of_mem ((List.mem_insertionSort bandLe).mpr h)
  have hlen := congrArg List.length hsplit
  rw [List.length_insertionSort, List.length_append, List.length_cons] at hlen
  rw [ordinal_eq hnodup hsplit]
  have hle := List.countP_le_length (p := fun e : String × Radio => decide (e.2.address = r.address)) (l := pre)
  omega

include hnodup in
/-- Two radios of one address have two ordinals. -/
theorem ordinal_inj {e e' : String × Radio} (he : e ∈ radios) (he' : e' ∈ radios)
    (haddr : e.2.address = e'.2.address)
    (hord : (Dict.lookup e.1 (radioOrdinals radios)).getD 0 = (Dict.lookup e'.1 (radioOrdinals radios)).getD 0) :
    e = e' := by
  obtain ⟨pre, post, hsplit⟩ := List.append_of_mem ((List.mem_insertionSort bandLe).mpr he)
  have hin := (List.mem_insertionSort bandLe).mpr he'
  rw [hsplit] at hin
  rcases List.mem_append.mp hin with hin | hin
  · -- the other is before it, and is counted
    obtain ⟨pre₁, pre₂, rfl⟩ := List.append_of_mem hin
    have hsplit' : radios.insertionSort bandLe = pre₁ ++ e' :: (pre₂ ++ e :: post) := by
      rw [hsplit, List.append_assoc, List.cons_append]
    rw [ordinal_eq hnodup hsplit, ordinal_eq hnodup hsplit', List.countP_append, List.countP_cons, haddr,
      decide_eq_true rfl, if_pos rfl] at hord
    omega
  · rcases List.mem_cons.mp hin with rfl | hin
    · rfl
    · obtain ⟨post₁, post₂, rfl⟩ := List.append_of_mem hin
      have hsplit' : radios.insertionSort bandLe = (pre ++ e :: post₁) ++ e' :: post₂ := by
        rw [hsplit, List.append_assoc, List.cons_append]
      rw [ordinal_eq hnodup hsplit, ordinal_eq hnodup hsplit', List.countP_append, List.countP_cons, haddr,
        decide_eq_true rfl, if_pos rfl] at hord
      omega

end Ordinals

/-! ### Addresses -/

/-- What a derived address keeps of its base. -/
def Mac.stem (m : Mac) : BitVec 8 × BitVec 8 × BitVec 8 × BitVec 8 × BitVec 8 :=
  (m.o₀ ||| 0x02, m.o₁, m.o₂, m.o₃ ||| 0x80, m.o₄)

theorem stem_bssid (m : Mac) (index ordinal : ℕ) : (bssid m index ordinal).stem = m.stem := by
  show ((m.o₀ ||| 0x02) ||| 0x02, m.o₁, m.o₂, m.o₃ ||| 0x80, m.o₄) = _
  rw [BitVec.or_assoc, BitVec.or_self]
  rfl

theorem stem_mldMac (m : Mac) (index : ℕ) : (mldMac m index).stem = m.stem := by
  show ((m.o₀ ||| 0x02) ||| 0x02, m.o₁, m.o₂, (m.o₃ ^^^ 0x80) ||| 0x80, m.o₄) = _
  have hflip : (m.o₃ ^^^ 0x80) ||| 0x80 = m.o₃ ||| 0x80#8 := by
    apply BitVec.eq_of_getElem_eq
    intro i hi
    simp only [BitVec.getElem_or, BitVec.getElem_xor]
    cases m.o₃[i] <;> cases (0x80#8)[i] <;> rfl
  rw [BitVec.or_assoc, BitVec.or_self, hflip]
  rfl

theorem ofNat_inj_of_lt {m n : ℕ} (hm : m < 256) (hn : n < 256) {o : BitVec 8}
    (h : o + BitVec.ofNat 8 m = o + BitVec.ofNat 8 n) : m = n := by
  have hsame := (BitVec.add_right_inj o).mp h
  have hnat := congrArg BitVec.toNat hsame
  rw [BitVec.toNat_ofNat, BitVec.toNat_ofNat, Nat.mod_eq_of_lt hm, Nat.mod_eq_of_lt hn] at hnat
  exact hnat

/-- Of one address, another ordinal or slot is another BSSID. -/
theorem bssid_inj {m : Mac} {slot slot' ord ord' : ℕ} (hs : slot < maxSlots) (hs' : slot' < maxSlots) (ho : ord < 16)
    (ho' : ord' < 16) (h : bssid m slot ord = bssid m slot' ord') : ord = ord' ∧ slot = slot' := by
  have hlow : m.o₅ + BitVec.ofNat 8 (ord * maxSlots + slot) = m.o₅ + BitVec.ofNat 8 (ord' * maxSlots + slot') :=
    congrArg Mac.o₅ h
  unfold maxSlots at hs hs' hlow
  have hsum := ofNat_inj_of_lt (by omega) (by omega) hlow
  omega

/-- A derived address is locally administered. -/
theorem local_bssid (m : Mac) (index ordinal : ℕ) : (bssid m index ordinal).o₀ &&& 0x02 = 0x02 := by
  show (m.o₀ ||| 0x02) &&& 0x02 = 0x02#8
  rw [BitVec.and_or_distrib_right, BitVec.and_self]
  apply BitVec.eq_of_getElem_eq
  intro i hi
  simp only [BitVec.getElem_or, BitVec.getElem_and]
  cases m.o₀[i] <;> cases (0x02#8)[i] <;> rfl

theorem hexDigits_inj : ∀ i < 16, ∀ j < 16, hexDigits.getD i '0' = hexDigits.getD j '0' → i = j := by decide

theorem hexOctet_inj {o o' : BitVec 8} (h : hexOctet o = hexOctet o') : o = o' := by
  have hlt := o.isLt
  have hlt' := o'.isLt
  simp only [hexOctet, List.cons.injEq, and_true] at h
  have hhigh := hexDigits_inj _ (by omega) _ (by omega) h.1
  have hlow := hexDigits_inj _ (by omega) _ (by omega) h.2
  exact BitVec.eq_of_toNat_eq (by omega)

theorem toList_text (m : Mac) : m.text.toList = hexOctet m.o₀ ++ (':' :: (hexOctet m.o₁ ++ (':' :: (hexOctet m.o₂ ++
    (':' :: (hexOctet m.o₃ ++ (':' :: (hexOctet m.o₄ ++ (':' :: hexOctet m.o₅))))))))) := by
  simp [Mac.text, join, hexOctet]

/-- The text of an address tells the address. -/
theorem text_inj {m m' : Mac} (h : m.text = m'.text) : m = m' := by
  have hlist := congrArg String.toList h
  rw [toList_text, toList_text] at hlist
  obtain ⟨h₀, hlist⟩ := List.append_inj hlist rfl
  obtain ⟨h₁, hlist⟩ := List.append_inj (List.cons.inj hlist).2 rfl
  obtain ⟨h₂, hlist⟩ := List.append_inj (List.cons.inj hlist).2 rfl
  obtain ⟨h₃, hlist⟩ := List.append_inj (List.cons.inj hlist).2 rfl
  obtain ⟨h₄, hlist⟩ := List.append_inj (List.cons.inj hlist).2 rfl
  have h₅ := (List.cons.inj hlist).2
  cases m
  cases m'
  rw [Mac.mk.injEq]
  exact ⟨hexOctet_inj h₀, hexOctet_inj h₁, hexOctet_inj h₂, hexOctet_inj h₃, hexOctet_inj h₄, hexOctet_inj h₅⟩

/-! ### The BSSes of a plan -/

/-- What the identities of a plan rest on: ids that `discover` has numbered, nine radios of a band and sixteen in all
at most, no more BSSes on a radio than `MAX_SLOTS`, and addresses of the radios, each universal, that are the same or
lie apart. -/
structure Separable (radios : Radios) : Prop where
  bands : ∀ e ∈ radios, e.2.band ∈ probedBands
  ids : ∀ e ∈ radios, Numbered e.1 e.2.band
  slots : ∀ e ∈ radios, e.2.maxApBss ≤ maxSlots
  count : radios.length ≤ 16
  stems : ∀ e ∈ radios, ∀ e' ∈ radios, e.2.address.stem = e'.2.address.stem → e.2.address = e'.2.address
  universal : ∀ e ∈ radios, e.2.address.o₀ &&& 0x02 = 0

section Bsses

variable {c : PlanCall} {limit : String → ℕ} {vs : List Visit} {s : Placed} {rid rid' : String} {b b' : PlannedBss}

/-- A BSS in some slot of a radio of the probe. -/
theorem bss_of_placing (hin : ∀ v ∈ vs, v ∈ visits c.radios c.cfg) (hlimit : Limited limit c.radios)
    (h : Placing c.radios c.cfg limit vs s) (hb : b ∈ bssesOn s.links rid) :
    ∃ r, (rid, r) ∈ c.radios ∧ b.radio = rid ∧ b.slot < r.maxApBss ∧ b.interface = ifaceName rid b.slot ∧
      b.bssid = bssid r.address b.slot ((Dict.lookup rid (radioOrdinals c.radios)).getD 0) := by
  obtain ⟨hheld, v, hv, -, rfl, heq⟩ := h.held rid b hb
  have hr := (mem_visits.mp (hin v hv)).2
  refine ⟨v.2.2, hr, congrArg PlannedBss.radio heq, ?_, congrArg PlannedBss.interface heq,
    congrArg PlannedBss.bssid heq⟩
  rw [hlimit _ hr]
  exact h.allocates.below _ _ _ hheld

/-- One slot of one radio is one BSS. -/
theorem eq_of_slot (h : Placing c.radios c.cfg limit vs s) (hb : b ∈ bssesOn s.links rid)
    (hb' : b' ∈ bssesOn s.links rid) (hslot : b.slot = b'.slot) : b = b' := by
  have hheld := (h.held rid b hb).1
  have hheld' := (h.held rid b' hb').1
  rw [← hslot] at hheld'
  exact List.inj_on_of_nodup_map (h.nodup rid) hb hb' (h.allocates.apart rid _ _ _ hheld hheld')

variable (hsep : Separable c.radios) (hin : ∀ v ∈ vs, v ∈ visits c.radios c.cfg) (hlimit : Limited limit c.radios)
  (h : Placing c.radios c.cfg limit vs s)

include hsep hin hlimit h in
theorem eq_of_interface (hb : b ∈ bssesOn s.links rid) (hb' : b' ∈ bssesOn s.links rid')
    (hname : b.interface = b'.interface) : b = b' := by
  obtain ⟨r, hr, -, hslot, hiface, -⟩ := bss_of_placing hin hlimit h hb
  obtain ⟨r', hr', -, hslot', hiface', -⟩ := bss_of_placing hin hlimit h hb'
  obtain ⟨rfl, hsame⟩ := ifaceName_numbered_inj (hsep.bands _ hr) (hsep.bands _ hr') (hsep.ids _ hr) (hsep.ids _ hr')
    (hslot.trans_le (hsep.slots _ hr)) (hslot'.trans_le (hsep.slots _ hr')) (hiface.symm.trans (hname.trans hiface'))
  exact eq_of_slot h hb hb' hsame

include hsep hin hlimit h in
theorem eq_of_bssid (hb : b ∈ bssesOn s.links rid) (hb' : b' ∈ bssesOn s.links rid') (haddr : b.bssid = b'.bssid) :
    b = b' := by
  obtain ⟨r, hr, -, hslot, -, hbssid⟩ := bss_of_placing hin hlimit h hb
  obtain ⟨r', hr', -, hslot', -, hbssid'⟩ := bss_of_placing hin hlimit h hb'
  have hsame := hbssid.symm.trans (haddr.trans hbssid')
  have hbase : r.address = r'.address := by
    refine hsep.stems _ hr _ hr' ?_
    have hstem := congrArg Mac.stem hsame
    rw [stem_bssid, stem_bssid] at hstem
    exact hstem
  rw [hbase] at hsame
  obtain ⟨hord, hslots⟩ := bssid_inj (hslot.trans_le (hsep.slots _ hr)) (hslot'.trans_le (hsep.slots _ hr'))
    ((ordinal_lt c.radiosNodup hr).trans_le hsep.count) ((ordinal_lt c.radiosNodup hr').trans_le hsep.count) hsame
  obtain rfl : rid = rid' := congrArg Prod.fst (ordinal_inj c.radiosNodup hr hr' hbase hord)
  exact eq_of_slot h hb hb' hslots

include hsep hin hlimit h in
theorem bssid_ne_address (hb : b ∈ bssesOn s.links rid) {e : String × Radio} (he : e ∈ c.radios) :
    b.bssid ≠ e.2.address := by
  obtain ⟨r, hr, -, -, -, hbssid⟩ := bss_of_placing hin hlimit h hb
  intro heq
  have hbit := local_bssid r.address b.slot ((Dict.lookup rid (radioOrdinals c.radios)).getD 0)
  rw [← hbssid, heq, hsep.universal e he] at hbit
  exact absurd hbit (by decide)

end Bsses

/-- The two views of the plan show the same BSSes. -/
def Indexed (s : Placed) : Prop :=
  (∀ rid, ∀ b ∈ bssesOn s.links rid, Dict.lookup b.interface s.bsses = some b) ∧
    ∀ e ∈ s.bsses, e.2 ∈ bssesOn s.links e.2.radio

section Indexed

variable {c : PlanCall} {limit : String → ℕ} {slots : Allocator}

theorem indexed_add {s : Placed} (h : Indexed s) (config : Obj) {b : PlannedBss}
    (hnew : ∀ rid, ∀ b' ∈ bssesOn s.links rid, b'.interface ≠ b.interface) : Indexed (s.add config b) := by
  constructor
  · intro rid b' hb'
    show Dict.lookup b'.interface (Dict.set b.interface b s.bsses) = some b'
    rw [bssesOn_add] at hb'
    have hold : b' ∈ bssesOn s.links rid →
        Dict.lookup b'.interface (Dict.set b.interface b s.bsses) = some b' := fun hin => by
      rw [Dict.lookup_set_of_ne (hnew rid b' hin)]
      exact h.1 rid b' hin
    split at hb'
    · rcases List.mem_append.mp hb' with hb' | hb'
      · exact hold hb'
      · rw [List.mem_singleton.mp hb', Dict.lookup_set_self]
    · exact hold hb'
  · intro e he
    rcases Dict.mem_set he with rfl | he
    · exact mem_bssesOn_add s config b
    · exact subset_bssesOn_add s config b _ (h.2 e he)

theorem indexed_placed (hsep : Separable c.radios) (hlimit : Limited limit c.radios) (h : slots.Allocates limit) :
    Indexed (placed c.radios c.cfg slots) := by
  have hboth := placed_induction c (P := fun vs s => (∀ v ∈ vs, v ∈ visits c.radios c.cfg) ∧ Indexed s) hlimit h
    ⟨fun _ hv => (nomatch hv), fun _ b hb => (nomatch hb), fun e he => (nomatch he)⟩ ?_
  · exact hboth.2
  · intro vs s v hv hnew hp ⟨hin, hi⟩
    have hin' : ∀ v' ∈ vs ++ [v], v' ∈ visits c.radios c.cfg := by
      intro v' hv'
      rcases List.mem_append.mp hv' with hv' | hv'
      · exact hin v' hv'
      · rw [List.mem_singleton.mp hv']
        exact hv
    refine ⟨hin', ?_⟩
    by_cases hhosts : Hosts c.cfg v
    · cases hslot : (askedSlot s v).1 with
      | none =>
        rw [visit_of_refused hhosts hslot]
        exact hi
      | some n =>
        have hnext := placing_visit c hlimit hv hnew hp
        rw [visit_of_given hhosts hslot] at hnext ⊢
        refine indexed_add hi _ fun rid b' hb' hname => ?_
        -- the names of the next state are apart, and the SSID has not been here
        have heq := eq_of_interface hsep hin' hlimit hnext (subset_bssesOn_add _ _ _ _ hb')
          (mem_bssesOn_add _ _ _) hname
        obtain ⟨-, v', hv', -, hradio, hmade⟩ := hp.held rid b' hb'
        have hssid : b'.wirelessNetwork = v'.1.1 := congrArg PlannedBss.wirelessNetwork hmade
        have hrid : b'.radio = v'.2.1 := congrArg PlannedBss.radio hmade
        rw [heq] at hssid hrid
        exact hnew v' hv' hssid.symm hrid.symm
    · obtain ⟨-, hlinks, hbsses, -⟩ :=
        @visit_of_not_hosts c.radios c.cfg (planMlds c.radios c.cfg).1 s v hhosts
      rw [Indexed, hlinks, hbsses]
      exact hi

end Indexed

/-! ### The addresses of MLDs -/

theorem local_mldMac (m : Mac) (index : ℕ) : (mldMac m index).o₀ &&& 0x02 = 0x02 := local_bssid m 0 0

theorem mldMac_ne_bssid {m m' : Mac} {index slot ordinal : ℕ} (h : m.stem = m'.stem → m = m') :
    mldMac m index ≠ bssid m' slot ordinal := by
  intro heq
  have hstem := congrArg Mac.stem heq
  rw [stem_mldMac, stem_bssid] at hstem
  have hflip : m.o₃ ^^^ 0x80#8 = m'.o₃ := congrArg Mac.o₃ heq
  rw [h hstem] at hflip
  have hzero : 0x80#8 = 0 := by
    calc 0x80#8 = m'.o₃ ^^^ (m'.o₃ ^^^ 0x80#8) := by rw [← BitVec.xor_assoc, BitVec.xor_self, BitVec.zero_xor]
      _ = m'.o₃ ^^^ m'.o₃ := by rw [hflip]
      _ = 0 := BitVec.xor_self
  exact absurd hzero (by decide)

theorem mldMac_inj {m m' : Mac} {i j : ℕ} (h : m.stem = m'.stem → m = m') (hi : i < 256) (hj : j < 256)
    (heq : mldMac m i = mldMac m' j) : i = j := by
  have hstem := congrArg Mac.stem heq
  rw [stem_mldMac, stem_mldMac] at hstem
  have hlow : m.o₅ + 0x40 + BitVec.ofNat 8 i = m'.o₅ + 0x40 + BitVec.ofNat 8 j := congrArg Mac.o₅ heq
  rw [h hstem] at hlow
  exact ofNat_inj_of_lt hi hj hlow

/-- No MLD of the document has an address of its own. -/
def Addressless (cfg : Obj) : Prop := ∀ e ∈ wifiMlds cfg, (e.2.getD "mld_mac" .null).truthy = false

theorem own_derivedMld (radios : Radios) (wnid : String) (wnet : Json) :
    ((derivedMld radios wnid wnet).getD "mld_mac" .null).truthy = false := by
  have hnone : (derivedMld radios wnid wnet).getD "mld_mac" .null = .null := by
    simp [derivedMld, Json.getD, Dict.lookup]
  rw [hnone]
  rfl

theorem own_declareMlds {radios : Radios} : ∀ (networks : List (String × Json)) {d : Obj},
    (∀ e ∈ d, (e.2.getD "mld_mac" .null).truthy = false) →
      ∀ e ∈ declareMlds radios networks d, (e.2.getD "mld_mac" .null).truthy = false
  | [], _, h => h
  | (wnid, wnet) :: rest, d, h => by
    rw [declareMlds]
    refine own_declareMlds rest ?_
    split
    · intro e he
      rcases Dict.mem_set he with rfl | he
      · exact own_derivedMld radios wnid wnet
      · exact h e he
    · exact h

theorem address_of_primary {radios : Radios} {rids : List String} {p : Mac} (h : primaryMac radios rids = some p) :
    ∃ e ∈ radios, e.2.address = p := by
  simp only [primaryMac, Option.bind_eq_bind, Option.bind_eq_some_iff] at h
  obtain ⟨rid, -, r, hr, hmac⟩ := h
  refine ⟨(rid, r), Dict.mem_of_lookup hr, ?_⟩
  rw [Radio.address, hmac]
  rfl

/-- The address of an MLD is derived from that of a radio, with the place of the MLD. -/
theorem mldMac_of_mem {radios : Radios} {cfg : Obj} (hown : Addressless cfg) {m : Mld}
    (h : m ∈ (planMlds radios cfg).1) : ∃ k e, (declared radios cfg)[k]? = some e ∧ m.id = e.1 ∧
      ∃ r ∈ radios, m.mldMac = (mldMac r.2.address k).text := by
  rw [planMlds_eq] at h
  obtain ⟨k, e, hk, hid, -, -, -, p, hp, hmac⟩ := mem_startMlds h
  obtain ⟨r, hr, rfl⟩ := address_of_primary hp
  refine ⟨k, e, hk, hid, r, hr, ?_⟩
  have hin : e ∈ declared radios cfg := List.mem_of_getElem? hk
  have hfalse : (e.2.getD "mld_mac" .null).truthy = false := own_declareMlds _ hown e (mem_sorted.mp hin)
  rw [hmac, mldAddress, Nat.zero_add]
  simp only [hfalse, Bool.false_eq_true, if_false]

/-! ### Plans -/

theorem separable_twoRadios : Separable twoRadios where
  bands := by decide
  ids := by
    have hids : ∀ e ∈ twoRadios, e.1 = numbered e.2.band 0 := by decide
    exact fun e he => ⟨0, by decide, hids e he⟩
  slots := by decide
  count := by decide
  stems := by decide
  universal := by decide

/-- Every SSID with an MLD has the slot of the anchor on every radio of it. -/
def Aligned (radios : Radios) (p : WifiPlan) : Prop :=
  ∀ e ∈ p.links, ∀ b ∈ e.2.bsses, b.mld.isSome = true → ∀ m ∈ mldOf p.mlds b.wirelessNetwork,
    ∃ b₀ ∈ bssesOn p.links (anchorRadio radios m.radios), b₀.wirelessNetwork = b.wirelessNetwork ∧ b₀.slot = b.slot

instance (radios : Radios) (p : WifiPlan) : Decidable (Aligned radios p) :=
  inferInstanceAs (Decidable (∀ e ∈ p.links, ∀ b ∈ e.2.bsses, _ → ∀ m ∈ mldOf p.mlds b.wirelessNetwork, _))

theorem mem_of_bssesOn {links : Dict String Link} {rid : String} {b : PlannedBss} (h : b ∈ bssesOn links rid) :
    ∃ e ∈ links, b ∈ e.2.bsses := by
  unfold bssesOn at h
  cases hl : Dict.lookup rid links with
  | none =>
    rw [hl] at h
    cases h
  | some link =>
    rw [hl] at h
    exact ⟨(rid, link), Dict.mem_of_lookup hl, h⟩

theorem head_insertionSort_mem {r : String → String → Prop} [DecidableRel r] {l : List String} (h : l ≠ []) :
    ((l.insertionSort r).head?).getD "" ∈ l := by
  have hne : l.insertionSort r ≠ [] := fun hnil =>
    h (List.eq_nil_of_length_eq_zero (by rw [← List.length_insertionSort r l, hnil, List.length_nil]))
  rw [List.head?_eq_some_head hne, Option.getD_some]
  exact (List.mem_insertionSort r).mp (List.head_mem hne)

theorem anchorRadio_mem {radios : Radios} {rids : List String} (h : rids ≠ []) : anchorRadio radios rids ∈ rids :=
  head_insertionSort_mem h

theorem netdevOf_of_some {b : PlannedBss} {rid : String} {n : ℕ} (h : b.netdev = some (ifaceName rid n)) :
    netdevOf b = ifaceName rid n := by
  have hne : ifaceName rid n ≠ "" := by
    intro hempty
    have hlen := congrArg (fun s => s.toList.length) hempty
    simp [ifaceName] at hlen
  rw [netdevOf, h, Option.filter_some, if_pos (by simp [hne])]
  rfl

section Netdevs

variable {c : PlanCall} {limit : String → ℕ} {slots : Allocator} {rid rid' : String} {b b' : PlannedBss}

/-- A BSS that is no link has a netdev of its own. -/
theorem netdevOf_of_none (h : Made c.radios c.cfg (visits c.radios c.cfg) rid b) (hl : b.mld = none) :
    netdevOf b = b.interface := by
  obtain ⟨v, -, -, -, heq⟩ := h
  have hmld := congrArg PlannedBss.mld heq
  rw [hl] at hmld
  have hnone : (mldOf (planMlds c.radios c.cfg).1 v.1.1).filter (fun m => m.radios.contains v.2.1) = none :=
    Option.map_eq_none_iff.mp hmld.symm
  have hdev : b.netdev = none := by
    rw [congrArg PlannedBss.netdev heq]
    show ((mldOf (planMlds c.radios c.cfg).1 v.1.1).filter (fun m => m.radios.contains v.2.1)).map _ = none
    rw [hnone]
    rfl
  rw [netdevOf, hdev]
  rfl

variable (hlimit : Limited limit c.radios) (h : slots.Allocates limit)
  (haligned : Aligned c.radios (buildPlan c.radios c.cfg slots).1)

include hlimit h haligned in
/-- The link whose own netdev the BSS has: that of the anchor. -/
theorem owner_of_link (hb : b ∈ bssesOn (placed c.radios c.cfg slots).links rid) {l : MldLink} (hl : b.mld = some l) :
    ∃ m, mldOf (planMlds c.radios c.cfg).1 b.wirelessNetwork = some m ∧ l.id = m.id ∧
      ∃ b₀ ∈ bssesOn (placed c.radios c.cfg slots).links (anchorRadio c.radios m.radios),
        b₀.wirelessNetwork = b.wirelessNetwork ∧ b₀.interface = netdevOf b ∧ b₀.mld.isSome = true := by
  obtain ⟨m, hm, hlink, hdev⟩ := link_of_made (made_of_placed hlimit h hb) hl
  rw [buildPlan_eq] at haligned
  obtain ⟨e, he, hin⟩ := mem_of_bssesOn hb
  obtain ⟨b₀, hb₀, hnet, hslot⟩ := haligned e he b hin (by rw [hl]; rfl) m hm
  have hmade := made_of_placed hlimit h hb₀
  have hanchor : anchorRadio c.radios m.radios ∈ m.radios :=
    anchorRadio_mem (List.length_pos_iff.mp (lt_of_lt_of_le Nat.two_pos (mld_of_link hm).2.1))
  obtain ⟨-, -, -, -, hiface, -⟩ := bss_of_placing (fun _ hv => hv) hlimit (placing_placed c hlimit h) hb₀
  refine ⟨m, hm, hlink.id, b₀, hb₀, hnet, ?_, isSome_link hmade (hnet ▸ hm) hanchor⟩
  rw [netdevOf_of_some hdev, hiface, hslot]

include hlimit h haligned in
theorem netdev_iff (hsep : Separable c.radios) (hids : (wifiMlds c.cfg).keys.Nodup)
    (hb : b ∈ bssesOn (placed c.radios c.cfg slots).links rid)
    (hb' : b' ∈ bssesOn (placed c.radios c.cfg slots).links rid') :
    netdevOf b = netdevOf b' ↔ b = b' ∨ ∃ l l', b.mld = some l ∧ b'.mld = some l' ∧ l.id = l'.id := by
  have hp := placing_placed c hlimit h
  have hunique {r r' : String} {a a' : PlannedBss} (ha : a ∈ bssesOn (placed c.radios c.cfg slots).links r)
      (ha' : a' ∈ bssesOn (placed c.radios c.cfg slots).links r') (hname : a.interface = a'.interface) : a = a' :=
    eq_of_interface hsep (fun _ hv => hv) hlimit hp ha ha' hname
  cases hl : b.mld with
  | none =>
    have hown := netdevOf_of_none (made_of_placed hlimit h hb) hl
    cases hl' : b'.mld with
    | none =>
      rw [hown, netdevOf_of_none (made_of_placed hlimit h hb') hl']
      exact ⟨fun hname => .inl (hunique hb hb' hname), by rintro (rfl | ⟨l, -, hno, -⟩); exacts [rfl, nomatch hno]⟩
    | some l' =>
      obtain ⟨m', -, -, b₀, hb₀, -, hiface, hsome⟩ := owner_of_link hlimit h haligned hb' hl'
      refine ⟨fun hname => ?_, ?_⟩
      · rw [hunique hb hb₀ (hown.symm.trans (hname.trans hiface.symm))] at hl
        rw [hl] at hsome
        cases hsome
      · rintro (rfl | ⟨l, -, hno, -⟩)
        · rfl
        · cases hno
  | some l =>
    obtain ⟨m, hm, hid, b₀, hb₀, hnet, hiface, hsome⟩ := owner_of_link hlimit h haligned hb hl
    cases hl' : b'.mld with
    | none =>
      have hown' := netdevOf_of_none (made_of_placed hlimit h hb') hl'
      refine ⟨fun hname => ?_, ?_⟩
      · rw [hunique hb₀ hb' (hiface.trans (hname.trans hown'))] at hsome
        rw [hl'] at hsome
        cases hsome
      · rintro (rfl | ⟨-, l', -, hno, -⟩)
        · rfl
        · cases hno
    | some l' =>
      obtain ⟨m', hm', hid', b₁, hb₁, hnet', hiface', -⟩ := owner_of_link hlimit h haligned hb' hl'
      refine ⟨fun hname => .inr ⟨l, l', rfl, rfl, ?_⟩, ?_⟩
      · have hsame := hunique hb₀ hb₁ (hiface.trans (hname.trans hiface'.symm))
        rw [← hnet, hsame, hnet'] at hm
        rw [hid, hid', Option.some.inj (hm.symm.trans hm')]
      · rintro (rfl | ⟨k, k', hk, hk', hkid⟩)
        · rfl
        · obtain rfl := Option.some.inj hk
          obtain rfl := Option.some.inj hk'
          have hssid := (links_agree hlimit h hids hb hb' hl hl' hkid).1
          rw [hssid] at hm hnet
          obtain rfl := Option.some.inj (hm.symm.trans hm')
          rw [← hiface, ← hiface', eq_of_network hlimit h hb₀ hb₁ (hnet.trans hnet'.symm)]

end Netdevs

/-- **Two BSSes of a plan name one netdev exactly when they are links of one MLD**, where every SSID with an MLD has
the slot of the anchor on all its radios. -/
theorem mld_netdevs {limit : String → ℕ} {events : List PlanEvent} {c : PlanCall}
    (h : LimitedRun limit (events ++ [.plan c])) (hsep : Separable c.radios) (hids : (wifiMlds c.cfg).keys.Nodup)
    (haligned : Aligned c.radios (planAfter [] events c)) {rid rid' : String} {b b' : PlannedBss}
    (hb : b ∈ bssesOn (planAfter [] events c).links rid) (hb' : b' ∈ bssesOn (planAfter [] events c).links rid') :
    netdevOf b = netdevOf b' ↔ b = b' ∨ ∃ l l', b.mld = some l ∧ b'.mld = some l' ∧ l.id = l'.id := by
  rw [planAfter, buildPlan_eq] at hb hb'
  exact netdev_iff (h c (List.mem_append_right _ List.mem_cons_self))
    (@allocates_run _ events fun d hd => h d (List.mem_append_left _ hd)) haligned hsep hids hb hb'

/-- The links of the one MLD. -/
theorem mld_netdevs_mlo : netdevOf mloBss2g = netdevOf mloBss5g := by
  obtain ⟨l, l', hl, hl', hid, hid'⟩ := linked_mlo
  exact (mld_netdevs limited_mloCall separable_twoRadios (by decide) (by decide) planned_mlo.1
    planned_mlo.2).mpr (.inr ⟨l, l', hl, hl', hid.trans hid'.symm⟩)

end Sbegw.Wifid
