import Sbegw.Hostapd.Band

/-!
# The channels that a configuration describes

What the keys of a radio mean under 802.11: each generation that is on describes the channels it
operates on, and the puncturing bitmap takes channels out of the EHT span.  The block that validation
has looked at is compared with all of them.
-/

namespace Sbegw.Hostapd

open Text Schema

/-! ### The meaning of the keys -/

/-- The 20 MHz channels of a span of `n` around a centre. -/
def span (centre : ℤ) (n : ℕ) : List ℤ := (List.range n).map fun (i : ℕ) => centre - 2 * ((n : ℤ) - 1) + 4 * (i : ℤ)

/-- The channels of an operating width with a centre: 1, 2 and 9 stand for 80, 160 and 320 MHz. -/
def operChannels (chwidth centre : Option ℤ) : List ℤ :=
  match centre with
  | none => []
  | some centre =>
    if chwidth = some 1 then span centre 4
    else if chwidth = some 2 then span centre 8
    else if chwidth = some 9 then span centre 16
    else []

/-- The block of `n` channels on 6 GHz that holds a channel: blocks are aligned. -/
def aligned (channel : ℤ) (n : ℕ) : List ℤ :=
  (List.range n).map fun (i : ℕ) => (channel - 1) / 4 / n * n * 4 + 1 + (i : ℤ) * 4

/-- The channels of an operating class of 6 GHz. -/
def classChannels (opClass : Option ℤ) (primary : ℤ) : List ℤ :=
  if opClass = some 132 then aligned primary 2
  else if opClass = some 133 then aligned primary 4
  else if opClass = some 134 then aligned primary 8
  else if opClass = some 137 then aligned primary 16
  else []

/-- The secondary channel of HT. -/
def htChannels (capab : Option Value) (primary : ℤ) : List ℤ :=
  match capab with
  | some (.text t) =>
    if isInfixOf "[HT40+]" t then [primary + 4] else if isInfixOf "[HT40-]" t then [primary - 4] else []
  | _ => []

/-- The number of a bitmap. -/
def bitmapValue : Option Value → ℕ
  | some (.int i) => i.toNat
  | some (.hex _ n) => n
  | _ => 0

/-- The channels of a span that a bitmap takes out. -/
def punctured (spanned : List ℤ) (bitmap : ℕ) : List ℤ :=
  (spanned.zipIdx.filter fun e => bitmap.testBit e.2).map Prod.fst

/-- **The channels of a radio**: the primary channel is never punctured. -/
def described (lines : List Line) : List ℤ :=
  match int? "channel" lines with
  | none => []
  | some primary =>
    let eht := operChannels (int? "eht_oper_chwidth" lines) (int? "eht_oper_centr_freq_seg0_idx" lines)
    let others := htChannels (value? "ht_capab" lines) primary ++
      operChannels (int? "vht_oper_chwidth" lines) (int? "vht_oper_centr_freq_seg0_idx" lines) ++
      operChannels (int? "he_oper_chwidth" lines) (int? "he_oper_centr_freq_seg0_idx" lines) ++ eht ++
      classChannels (int? "op_class" lines) primary
    let out := punctured eht (bitmapValue (value? "punct_bitmap" lines))
    primary :: others.filter fun c => !out.contains c

/-- The same channels. -/
def SameChannels (a b : List ℤ) : Prop := (∀ c ∈ a, c ∈ b) ∧ ∀ c ∈ b, c ∈ a

instance (a b : List ℤ) : Decidable (SameChannels a b) := inferInstanceAs (Decidable (_ ∧ _))

/-! ### Reading the lines -/

/-- The keys that lines set. -/
def Sets (keys : List String) (lines : List Line) : Prop := ∀ key value, Line.set key value ∈ lines → key ∈ keys

theorem value?_append (key : String) (a b : List Line) :
    value? key (a ++ b) = (value? key a).or (value? key b) := by
  unfold value?
  exact List.findSome?_append

theorem value?_of_sets {keys : List String} {lines : List Line} (h : Sets keys lines) {key : String}
    (hkey : key ∉ keys) : value? key lines = none := by
  unfold value?
  rw [List.findSome?_eq_none_iff]
  intro l hl
  cases l with
  | comment text => rfl
  | set k v =>
    have hne : k ≠ key := fun heq => hkey (heq ▸ h k v hl)
    exact if_neg hne

theorem Sets.append {as bs : List String} {a b : List Line} (ha : Sets as a) (hb : Sets bs b) :
    Sets (as ++ bs) (a ++ b) := by
  intro key value h
  rcases List.mem_append.mp h with h | h
  · exact List.mem_append_left _ (ha key value h)
  · exact List.mem_append_right _ (hb key value h)

def modeKeys : List String := ["hw_mode", "op_class", "he_6ghz_reg_pwr_type"]

def htKeys : List String := ["ieee80211n", "ht_capab", "noscan"]

def vhtKeys : List String := ["ieee80211ac", "vht_oper_chwidth", "vht_oper_centr_freq_seg0_idx"]

def heKeys : List String :=
  ["ieee80211ax", "he_oper_chwidth", "he_oper_centr_freq_seg0_idx", "he_su_beamformer", "he_su_beamformee",
    "he_mu_beamformer", "he_bss_color"]

def ehtKeys : List String :=
  ["ieee80211be", "eht_oper_chwidth", "eht_oper_centr_freq_seg0_idx", "eht_su_beamformer",
    "eht_su_beamformee", "punct_bitmap"]

def tailKeys : List String := ["ieee80211h", "beacon_int", "dtim_period", "rts_threshold"]

theorem sets_modeLines (radio : Obj) (band : String) (width : ℕ) : Sets modeKeys (modeLines radio band width) := by
  intro key value h
  unfold modeLines at h
  rcases List.mem_cons.mp h with h | h
  · rw [(Line.set.inj h).1]
    simp [modeKeys]
  · split at h
    · simp only [List.mem_cons, List.not_mem_nil, or_false, Line.set.injEq] at h
      simp only [modeKeys, List.mem_cons, List.not_mem_nil, or_false]
      tauto
    · exact absurd h List.not_mem_nil

theorem sets_channelLines (radio : Obj) (caps : LinkCaps) : Sets ["channel"] (channelLines radio caps) := by
  intro key value h
  unfold channelLines at h
  split at h
  all_goals
    simp only [List.mem_append, List.mem_cons, List.not_mem_nil, or_false, false_or, Line.set.injEq,
      reduceCtorEq] at h
    simp [h.1]

theorem sets_htLines (caps : LinkCaps) (width : ℕ) (band : String) : Sets htKeys (htLines caps width band) := by
  intro key value h
  unfold htLines at h
  split at h
  · split at h
    all_goals
      simp only [List.mem_append, List.mem_cons, List.not_mem_nil, or_false, Line.set.injEq] at h
      simp only [htKeys, List.mem_cons, List.not_mem_nil, or_false]
      tauto
  · exact absurd h List.not_mem_nil

theorem mem_centreLine {key k : String} {centre : Option ℤ} {value : Value}
    (h : Line.set key value ∈ centreLine k centre) : key = k := by
  unfold centreLine at h
  rw [Option.mem_toList] at h
  obtain ⟨c, -, hc⟩ := Option.map_eq_some_iff.mp h
  exact (Line.set.inj hc).1.symm

theorem sets_vhtLines (caps : LinkCaps) (channel : ℤ) (width : ℕ) (band : String) :
    Sets vhtKeys (vhtLines caps channel width band) := by
  intro key value h
  unfold vhtLines at h
  split at h
  · rcases List.mem_append.mp h with h | h
    · simp only [List.mem_cons, List.not_mem_nil, or_false, Line.set.injEq] at h
      simp only [vhtKeys, List.mem_cons, List.not_mem_nil, or_false]
      tauto
    · rw [mem_centreLine h]
      simp [vhtKeys]
  · exact absurd h List.not_mem_nil

theorem sets_heLines (radio : Obj) (caps : LinkCaps) (channel : ℤ) (width : ℕ) (band : String) :
    Sets heKeys (heLines radio caps channel width band) := by
  intro key value h
  unfold heLines at h
  split at h
  · rcases List.mem_cons.mp h with h | h
    · rw [(Line.set.inj h).1]
      simp [heKeys]
    · rcases List.mem_append.mp h with h | h
      · rcases List.mem_append.mp h with h | h
        · split at h
          · rcases List.mem_cons.mp h with h | h
            · rw [(Line.set.inj h).1]
              simp [heKeys]
            · rw [mem_centreLine h]
              simp [heKeys]
          · exact absurd h List.not_mem_nil
        · simp only [List.mem_cons, List.not_mem_nil, or_false, Line.set.injEq] at h
          simp only [heKeys, List.mem_cons, List.not_mem_nil, or_false]
          tauto
      · split at h
        · rw [(Line.set.inj (List.mem_singleton.mp h)).1]
          simp [heKeys]
        · exact absurd h List.not_mem_nil
  · exact absurd h List.not_mem_nil

theorem mem_bitmapLine {radio : Obj} {width : ℕ} {key : String} {value : Value}
    (h : Line.set key value ∈ bitmapLine radio width) : key = "punct_bitmap" := by
  unfold bitmapLine at h
  split at h
  · exact (Line.set.inj (List.mem_singleton.mp h)).1
  · rw [Option.mem_toList] at h
    obtain ⟨b, -, hb⟩ := Option.map_eq_some_iff.mp h
    exact (Line.set.inj hb).1.symm

theorem sets_ehtLines (radio : Obj) (caps : LinkCaps) (channel : ℤ) (width : ℕ) (band : String) :
    Sets ehtKeys (ehtLines radio caps channel width band) := by
  intro key value h
  unfold ehtLines at h
  split at h
  · rcases List.mem_cons.mp h with h | h
    · rw [(Line.set.inj h).1]
      simp [ehtKeys]
    · rcases List.mem_append.mp h with h | h
      · rcases List.mem_append.mp h with h | h
        · split at h
          · rcases List.mem_cons.mp h with h | h
            · rw [(Line.set.inj h).1]
              simp [ehtKeys]
            · rw [mem_centreLine h]
              simp [ehtKeys]
          · exact absurd h List.not_mem_nil
        · simp only [List.mem_cons, List.not_mem_nil, or_false, Line.set.injEq] at h
          simp only [ehtKeys, List.mem_cons, List.not_mem_nil, or_false]
          tauto
      · rw [mem_bitmapLine h]
        simp [ehtKeys]
  · exact absurd h List.not_mem_nil

theorem mem_copied {radio : Obj} {key line k : String} {value : Value}
    (h : Line.set k value ∈ copied radio key line) : k = line := by
  unfold copied at h
  simp only at h
  split at h
  · exact (Line.set.inj (List.mem_singleton.mp h)).1
  · exact absurd h List.not_mem_nil

theorem sets_tailLines (radio : Obj) (band : String) : Sets tailKeys (tailLines radio band) := by
  intro key value h
  unfold tailLines at h
  rcases List.mem_append.mp h with h | h
  · rcases List.mem_append.mp h with h | h
    · rcases List.mem_append.mp h with h | h
      · rcases List.mem_append.mp h with h | h
        · unfold powerComment at h
          simp only at h
          split at h
          · exact absurd h List.not_mem_nil
          · exact absurd (List.mem_singleton.mp h) (by simp)
        · split at h
          · rw [(Line.set.inj (List.mem_singleton.mp h)).1]
            simp [tailKeys]
          · exact absurd h List.not_mem_nil
      · rw [mem_copied h]
        simp [tailKeys]
    · rw [mem_copied h]
      simp [tailKeys]
  · rw [mem_copied h]
    simp [tailKeys]

end Sbegw.Hostapd
