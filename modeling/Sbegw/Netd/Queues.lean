import Sbegw.Netd.Traffic

/-!
# Smart Queues reconcile

An apply only visits the WAN interfaces of its own configuration, and it owns an IFB device by its
position.  From what one configuration asks for it gets to what the next one asks for when the next one
visits all the interfaces of the last, the shaped ones in the places that have an IFB device.
-/

namespace Sbegw.Netd

open Text Schema

/-! ### What a configuration asks for -/

/-- The WAN interfaces, and the rates to shape them to; zero asks for nothing. -/
structure Demand where
  ifaces : List String
  up : ℤ
  down : ℤ
deriving DecidableEq

/-- Nothing at all. -/
def Demand.nothing : Demand := ⟨[], 0, 0⟩

def demandOf (cfg : Obj) : Demand :=
  if qosRequested cfg && !apMode cfg then
    ⟨wanIfaces cfg, kbps cfg "upload_kbps", kbps cfg "download_kbps"⟩
  else ⟨wanIfaces cfg, 0, 0⟩

/-- The CAKE a device should have. -/
def Demand.cake (d : Demand) (dev : String) : Option Qdisc :=
  if d.up ≠ 0 ∧ dev ∈ d.ifaces then some (.cake rootHandle (uploadOptions d.up))
  else if d.down ≠ 0 ∧ ∃ i < d.ifaces.length, dev = ifbName i then
    some (.cake rootHandle (downloadOptions d.down))
  else none

/-- The ingress redirect a device should have: to the IFB device of its place. -/
def Demand.redirect (d : Demand) (dev : String) : Option Filter :=
  if d.down ≠ 0 then (d.ifaces.idxOf? dev).map fun i => .redirect (ifbName i) else none

/-! ### What there is -/

/-- The CAKE of the gateway on a device. -/
def ownCake (tc : Tc) (dev : String) : Option Qdisc := (tc.root dev).filter Qdisc.owned

/-- A redirect to a device that is, or was, one of the gateway's. -/
def Filter.own : Filter → Bool
  | .redirect dev => startsWith ifbPrefix dev
  | .lost dev => startsWith ifbPrefix dev
  | .other _ => false

/-- The redirects of the gateway on a device. -/
def ownRedirects (tc : Tc) (dev : String) : List Filter := ((tc.ingress dev).getD []).filter Filter.own

/-- There is exactly what is asked for. -/
structure Exact (d : Demand) (tc : Tc) : Prop where
  cakes : ∀ dev, ownCake tc dev = d.cake dev
  redirects : ∀ dev, ownRedirects tc dev = (d.redirect dev).toList
  ifbs : ∀ i, tc.ifb i = true ↔ d.down ≠ 0 ∧ i < d.ifaces.length

/-! ### The conditions -/

/-- No WAN interface has the name of an IFB device, and to shape downloads they are distinct. -/
structure Shapeable (d : Demand) : Prop where
  apart : ∀ dev ∈ d.ifaces, ∀ i, dev ≠ ifbName i
  distinct : d.down ≠ 0 → d.ifaces.Nodup

/-- The next configuration has all interfaces whose uploads the last one shaped, and those whose
downloads it shaped in the places it used. -/
structure Covers (d d' : Demand) : Prop where
  uploads : d.up ≠ 0 → ∀ dev ∈ d.ifaces, dev ∈ d'.ifaces
  downloads : d.down ≠ 0 → d.ifaces.length ≤ d'.ifaces.length ∧
    ∀ dev ∈ d.ifaces, dev ∈ d'.ifaces.take d.ifaces.length

/-! ### Names -/

theorem ifbName_inj {i j : ℕ} (h : ifbName i = ifbName j) : i = j := by
  have hl := congrArg String.toList h
  simp only [ifbName, String.toList_append, List.append_cancel_left_eq] at hl
  exact ofNat_inj.mp (String.toList_injective hl)

theorem own_ifbName (i : ℕ) : startsWith ifbPrefix (ifbName i) = true := by
  unfold ifbName
  exact startsWith_append _ _

/-! ### Cleaning -/

theorem ownCake_delRoot (tc : Tc) (dev d : String) :
    ownCake (tc.delRoot dev) d = if d = dev then none else ownCake tc d := by
  unfold ownCake Tc.delRoot
  by_cases h : d = dev
  · simp [h]
  · simp [h]

theorem ownCake_eq_none {tc : Tc} {dev : String} (h : ¬ hasOwnedCake tc dev = true) :
    ownCake tc dev = none := by
  unfold ownCake
  unfold hasOwnedCake at h
  cases hr : tc.root dev with
  | none => rfl
  | some q =>
    rw [hr] at h
    simpa [Option.filter] using h

/-- Deleting the CAKE of the gateway where there is one leaves none there. -/
theorem ownCake_drop (tc : Tc) (dev d : String) :
    ownCake (if hasOwnedCake tc dev then tc.delRoot dev else tc) d =
      if d = dev then none else ownCake tc d := by
  by_cases h : hasOwnedCake tc dev = true
  · rw [if_pos h, ownCake_delRoot]
  · rw [if_neg h]
    by_cases hd : d = dev
    · rw [if_pos hd, hd, ownCake_eq_none h]
    · rw [if_neg hd]

/-- **What a cleanup leaves of the CAKEs.** -/
theorem ownCake_cleanup (iface : String) (i : ℕ) (tc : Tc) (dev : String) :
    ownCake (cleanup iface i tc) dev =
      if dev = iface ∨ tc.ifb i = true ∧ dev = ifbName i then none else ownCake tc dev := by
  have hing : ∀ (tc : Tc) (b : Bool), ownCake (if b then tc.delIngress iface else tc) dev = ownCake tc dev := by
    intro tc b
    cases b <;> rfl
  have hifb : ∀ tc : Tc, ownCake (tc.delIfb i) dev = if dev = ifbName i then none else ownCake tc dev := by
    intro tc
    unfold ownCake Tc.delIfb
    by_cases h : dev = ifbName i
    · simp [h]
    · simp [h]
  unfold cleanup
  by_cases ho : tc.ifb i = true
  · simp only [ho, if_true, Bool.true_and, true_and]
    rw [hifb, ownCake_drop, hing, ownCake_drop]
    by_cases h1 : dev = ifbName i
    · simp [h1]
    · simp [h1]
  · simp only [ho, Bool.false_and, Bool.false_eq_true, if_false, false_and, or_false]
    rw [ownCake_drop]

/-- What a cleanup leaves of the IFB devices. -/
theorem ifb_cleanup (iface : String) (i : ℕ) (tc : Tc) (j : ℕ) :
    (cleanup iface i tc).ifb j = (tc.ifb j && j != i) := by
  have hroot : ∀ (tc : Tc) (dev : String), (if hasOwnedCake tc dev then tc.delRoot dev else tc).ifb = tc.ifb := by
    intro tc dev
    split <;> rfl
  have hing : ∀ (tc : Tc) (b : Bool), (if b then tc.delIngress iface else tc).ifb = tc.ifb := by
    intro tc b
    cases b <;> rfl
  unfold cleanup
  by_cases ho : tc.ifb i = true
  · simp only [ho, if_true, Bool.true_and]
    show Function.update (Tc.ifb _) i false j = _
    rw [hroot, hing, hroot]
    by_cases hj : j = i
    · simp [hj]
    · simp [hj]
  · simp only [ho, Bool.false_and, Bool.false_eq_true, if_false]
    rw [hroot]
    by_cases hj : j = i
    · simp [hj, ho]
    · simp [hj]

theorem own_loseDev (dev : String) (f : Filter) : (Tc.loseDev dev f).own = f.own := by
  cases f with
  | redirect d =>
    by_cases h : d = dev
    · simp [Tc.loseDev, Filter.own, h]
    · simp [Tc.loseDev, h]
  | lost d => rfl
  | other text => rfl

/-- **What a cleanup leaves of the redirects**: on an interface whose IFB device was there, nothing. -/
theorem ownRedirects_cleanup (iface : String) (i : ℕ) (tc : Tc) (dev : String) :
    (ownRedirects (cleanup iface i tc) dev = [] ↔
      ownRedirects tc dev = [] ∨ tc.ifb i = true ∧ (dev = iface ∨ dev = ifbName i)) := by
  have hroot : ∀ (tc : Tc) (d : String), ownRedirects (if hasOwnedCake tc d then tc.delRoot d else tc) dev =
      ownRedirects tc dev := by
    intro tc d
    split <;> rfl
  have hing : ∀ tc : Tc, ownRedirects (if (tc.ingress iface).isSome then tc.delIngress iface else tc) dev =
      if dev = iface then [] else ownRedirects tc dev := by
    intro tc
    unfold ownRedirects Tc.delIngress
    by_cases hs : (tc.ingress iface).isSome = true
    · by_cases hd : dev = iface
      · simp [hs, hd]
      · simp [hs, hd]
    · by_cases hd : dev = iface
      · have hnone : tc.ingress iface = none := by simpa using hs
        simp [hd, hnone]
      · simp [hs, hd]
  have hifb : ∀ tc : Tc, (ownRedirects (tc.delIfb i) dev = [] ↔ dev = ifbName i ∨ ownRedirects tc dev = []) := by
    intro tc
    unfold ownRedirects Tc.delIfb
    by_cases hd : dev = ifbName i
    · simp [hd]
    · cases hi : tc.ingress dev with
      | none => simp [hd, hi]
      | some fs => simp [hd, hi, own_loseDev, List.filter_eq_nil_iff]
  unfold cleanup
  by_cases ho : tc.ifb i = true
  · simp only [ho, if_true, Bool.true_and, true_and]
    rw [hifb, hroot, hing, hroot]
    by_cases hd : dev = iface
    · simp [hd]
    · simp only [hd, if_false, false_or]
      exact or_comm
  · simp only [ho, Bool.false_and, Bool.false_eq_true, if_false, false_and, or_false]
    rw [hroot]

/-- After the first loop: no CAKE on a visited interface, no IFB device in a visited place, and no
redirect on an interface in a place that had one. -/
theorem cleanupAll_spec : ∀ (ifaces : List String) (k : ℕ) (tc : Tc),
    (∀ dev, ownCake (cleanupAll k ifaces tc) dev ≠ none → ownCake tc dev ≠ none ∧ dev ∉ ifaces) ∧
    (∀ i, (cleanupAll k ifaces tc).ifb i = true ↔ tc.ifb i = true ∧ (i < k ∨ k + ifaces.length ≤ i)) ∧
    (∀ dev, ownRedirects (cleanupAll k ifaces tc) dev ≠ [] →
      ownRedirects tc dev ≠ [] ∧ ∀ n, ifaces[n]? = some dev → tc.ifb (k + n) = false)
  | [], k, tc => by
    refine ⟨fun dev h => ⟨h, List.not_mem_nil⟩, fun i => ?_, fun dev h => ⟨h, fun n hn => by simp at hn⟩⟩
    have hall : i < k ∨ k + ([] : List String).length ≤ i := by
      rw [List.length_nil]
      omega
    exact ⟨fun h => ⟨h, hall⟩, fun h => h.1⟩
  | iface :: rest, k, tc => by
    obtain ⟨ihc, ihi, ihr⟩ := cleanupAll_spec rest (k + 1) (cleanup iface k tc)
    refine ⟨fun dev h => ?_, fun i => ?_, fun dev h => ?_⟩
    · obtain ⟨hcake, hrest⟩ := ihc dev h
      rw [ownCake_cleanup] at hcake
      by_cases hv : dev = iface ∨ tc.ifb k = true ∧ dev = ifbName k
      · rw [if_pos hv] at hcake
        exact absurd rfl hcake
      · rw [if_neg hv] at hcake
        rw [not_or] at hv
        exact ⟨hcake, by simp [hv.1, hrest]⟩
    · have hi := ihi i
      rw [ifb_cleanup] at hi
      show (cleanupAll (k + 1) rest (cleanup iface k tc)).ifb i = true ↔ _
      rw [hi, List.length_cons]
      simp only [Bool.and_eq_true, bne_iff_ne]
      constructor
      · rintro ⟨⟨h1, h2⟩, h3⟩
        exact ⟨h1, by omega⟩
      · rintro ⟨h1, h2⟩
        exact ⟨⟨h1, by omega⟩, by omega⟩
    · obtain ⟨hred, hrest⟩ := ihr dev h
      have hboth : ¬ (ownRedirects tc dev = [] ∨ tc.ifb k = true ∧ (dev = iface ∨ dev = ifbName k)) :=
        fun hc => hred ((ownRedirects_cleanup iface k tc dev).mpr hc)
      rw [not_or] at hboth
      refine ⟨hboth.1, fun n hn => ?_⟩
      cases n with
      | zero =>
        rw [List.getElem?_cons_zero, Option.some.injEq] at hn
        by_contra hifb
        exact hboth.2 ⟨by simpa using hifb, Or.inl hn.symm⟩
      | succ n =>
        rw [List.getElem?_cons_succ] at hn
        have hnext := hrest n hn
        rw [ifb_cleanup] at hnext
        have hne : (k + 1 + n != k) = true := by simp; omega
        rw [hne, Bool.and_true] at hnext
        have hk : k + (n + 1) = k + 1 + n := by omega
        rw [hk]
        exact hnext

/-- The CAKE of an IFB device in a visited place goes with the device. -/
theorem ownCake_ifb_gone : ∀ (ifaces : List String) (k : ℕ) (tc : Tc) {i : ℕ}, k ≤ i →
    i < k + ifaces.length → tc.ifb i = true → ownCake (cleanupAll k ifaces tc) (ifbName i) = none
  | [], k, tc, i, hk, hi, _ => by
    rw [List.length_nil] at hi
    omega
  | iface :: rest, k, tc, i, hk, hi, h => by
    rw [List.length_cons] at hi
    by_cases hik : i = k
    · subst hik
      by_contra hne
      have hcake := ((cleanupAll_spec rest (i + 1) (cleanup iface i tc)).1 _ hne).1
      rw [ownCake_cleanup, if_pos (Or.inr ⟨h, rfl⟩)] at hcake
      exact hcake rfl
    · refine ownCake_ifb_gone rest (k + 1) (cleanup iface k tc) (by omega) (by omega) ?_
      rw [ifb_cleanup, h]
      simpa using hik

/-- From what the last configuration asked for, a covering first loop leaves nothing. -/
theorem exact_nothing_of_covers {d d' : Demand} {tc : Tc} (h : Exact d tc) (hc : Covers d d') :
    Exact Demand.nothing (cleanupAll 0 d'.ifaces tc) := by
  obtain ⟨hcake, hifb, hred⟩ := cleanupAll_spec d'.ifaces 0 tc
  have hifbs : ∀ i, (cleanupAll 0 d'.ifaces tc).ifb i = false := by
    intro i
    by_contra hi
    obtain ⟨hthere, hplace⟩ := (hifb i).mp (by simpa using hi)
    obtain ⟨hdown, hlt⟩ := (h.ifbs i).mp hthere
    have hlen := (hc.downloads hdown).1
    omega
  refine ⟨fun dev => ?_, fun dev => ?_, fun i => ?_⟩
  · show ownCake (cleanupAll 0 d'.ifaces tc) dev = none
    by_contra hne
    obtain ⟨hbefore, hnot⟩ := hcake dev hne
    rw [h.cakes dev, Demand.cake] at hbefore
    by_cases hup : d.up ≠ 0 ∧ dev ∈ d.ifaces
    · exact hnot (hc.uploads hup.1 dev hup.2)
    · rw [if_neg hup] at hbefore
      by_cases hdown : d.down ≠ 0 ∧ ∃ i < d.ifaces.length, dev = ifbName i
      · -- the CAKE of an IFB device goes with its device
        obtain ⟨hd, i, hi, rfl⟩ := hdown
        exact hne (ownCake_ifb_gone d'.ifaces 0 tc (by omega) (by have := (hc.downloads hd).1; omega)
          ((h.ifbs i).mpr ⟨hd, hi⟩))
      · rw [if_neg hdown] at hbefore
        exact hbefore rfl
  · show ownRedirects (cleanupAll 0 d'.ifaces tc) dev = []
    by_contra hne
    obtain ⟨hbefore, hplaces⟩ := hred dev hne
    rw [h.redirects dev, Demand.redirect] at hbefore
    by_cases hd : d.down ≠ 0
    · rw [if_pos hd] at hbefore
      have hmem : dev ∈ d.ifaces := by
        by_contra hnot
        rw [List.idxOf?_eq_none_iff.mpr hnot] at hbefore
        exact hbefore rfl
      obtain ⟨n, hn⟩ := List.mem_iff_getElem?.mp ((hc.downloads hd).2 dev hmem)
      have hlt : n < d.ifaces.length := by
        by_contra hge
        rw [List.getElem?_take_eq_none (by omega)] at hn
        exact absurd hn (by simp)
      rw [List.getElem?_take_of_lt hlt] at hn
      have hgone := hplaces n hn
      rw [Nat.zero_add, (h.ifbs n).mpr ⟨hd, hlt⟩] at hgone
      exact Bool.noConfusion hgone
    · rw [if_neg hd] at hbefore
      exact hbefore rfl
  · rw [hifbs i]
    simp [Demand.nothing]

/-! ### Shaping -/

section Shaping

variable (up down : ℤ)

theorem ownCake_shape {iface : String} {k : ℕ} (hne : iface ≠ ifbName k) (tc : Tc) (dev : String) :
    ownCake (shape up down iface k tc) dev =
      if up ≠ 0 ∧ dev = iface then some (.cake rootHandle (uploadOptions up))
      else if down ≠ 0 ∧ dev = ifbName k then some (.cake rootHandle (downloadOptions down))
      else ownCake tc dev := by
  have hup : ownCake (if up ≠ 0 then tc.replaceRoot iface (uploadOptions up) else tc) dev =
      if up ≠ 0 ∧ dev = iface then some (.cake rootHandle (uploadOptions up)) else ownCake tc dev := by
    unfold ownCake Tc.replaceRoot
    by_cases hu : up = 0
    · simp [hu]
    · by_cases hd : dev = iface
      · simp [hu, hd, Qdisc.owned]
      · simp [hu, hd]
  have hdown : ∀ tc : Tc, ownCake ((((tc.ensureIfb k).replaceIngress iface).redirectTo iface k).replaceRoot
      (ifbName k) (downloadOptions down)) dev =
        if dev = ifbName k then some (.cake rootHandle (downloadOptions down)) else ownCake tc dev := by
    intro tc
    unfold ownCake Tc.replaceRoot
    by_cases hd : dev = ifbName k
    · simp [hd, Qdisc.owned]
    · simp [hd, Tc.redirectTo, Tc.replaceIngress, Tc.ensureIfb]
  unfold shape
  by_cases hd : down = 0
  · simp only [hd, ne_eq, not_true_eq_false, if_false, false_and]
    exact hup
  · simp only [hd, ne_eq, not_false_eq_true, if_true, true_and]
    rw [hdown, hup]
    by_cases h1 : dev = ifbName k
    · have h2 : dev ≠ iface := fun heq => hne (heq ▸ h1)
      rw [if_pos h1, if_neg (fun h => h2 h.2), if_pos h1]
    · rw [if_neg h1, if_neg h1]

theorem ifb_shape (iface : String) (k : ℕ) (tc : Tc) (j : ℕ) :
    (shape up down iface k tc).ifb j = true ↔ tc.ifb j = true ∨ down ≠ 0 ∧ j = k := by
  have hup : (if up ≠ 0 then tc.replaceRoot iface (uploadOptions up) else tc).ifb = tc.ifb := by
    split <;> rfl
  unfold shape
  by_cases hd : down = 0
  · simp only [hd, ne_eq, not_true_eq_false, if_false, false_and, or_false]
    rw [← hup]
  · simp only [hd, ne_eq, not_false_eq_true, if_true, true_and]
    show Function.update (Tc.ifb _) k true j = true ↔ _
    have heq : (if ¬up = 0 then tc.replaceRoot iface (uploadOptions up) else tc).ifb = tc.ifb := hup
    rw [heq]
    by_cases hj : j = k
    · simp [hj]
    · simp [hj]

theorem ownRedirects_shape (iface : String) (k : ℕ) (tc : Tc) (dev : String) :
    ownRedirects (shape up down iface k tc) dev =
      if down ≠ 0 ∧ dev = iface then .redirect (ifbName k) :: ownRedirects tc dev
      else ownRedirects tc dev := by
  have hup : (if up ≠ 0 then tc.replaceRoot iface (uploadOptions up) else tc).ingress = tc.ingress := by
    split <;> rfl
  have hdown : ∀ tc : Tc, ownRedirects ((((tc.ensureIfb k).replaceIngress iface).redirectTo iface k).replaceRoot
      (ifbName k) (downloadOptions down)) dev =
        if dev = iface then .redirect (ifbName k) :: ownRedirects tc dev else ownRedirects tc dev := by
    intro tc
    unfold ownRedirects Tc.replaceRoot Tc.redirectTo Tc.replaceIngress Tc.ensureIfb
    by_cases hd : dev = iface
    · simp [hd, Filter.own, own_ifbName]
    · simp [hd]
  have hsame : ∀ tc' : Tc, tc'.ingress = tc.ingress → ownRedirects tc' dev = ownRedirects tc dev := by
    intro tc' h
    unfold ownRedirects
    rw [h]
  unfold shape
  by_cases hd : down = 0
  · simp only [hd, ne_eq, not_true_eq_false, if_false, false_and]
    exact hsame _ hup
  · simp only [hd, ne_eq, not_false_eq_true, if_true, true_and]
    rw [hdown]
    have hone := hsame _ hup
    simp only [ne_eq] at hone
    rw [hone]

/-- **The second loop** builds the CAKEs, the IFB devices and the redirects of its interfaces. -/
theorem shapeAll_spec : ∀ (ifaces : List String) (k : ℕ) (tc : Tc),
    (∀ dev ∈ ifaces, ∀ i, dev ≠ ifbName i) →
    (∀ dev, ownCake (shapeAll up down k ifaces tc) dev =
      if up ≠ 0 ∧ dev ∈ ifaces then some (.cake rootHandle (uploadOptions up))
      else if down ≠ 0 ∧ ∃ i < ifaces.length, dev = ifbName (k + i) then
        some (.cake rootHandle (downloadOptions down))
      else ownCake tc dev) ∧
    (∀ i, (shapeAll up down k ifaces tc).ifb i = true ↔
      tc.ifb i = true ∨ down ≠ 0 ∧ k ≤ i ∧ i < k + ifaces.length) ∧
    (down = 0 → ∀ dev, ownRedirects (shapeAll up down k ifaces tc) dev = ownRedirects tc dev) ∧
    (down ≠ 0 → ifaces.Nodup → ∀ dev, ownRedirects (shapeAll up down k ifaces tc) dev =
      ((ifaces.idxOf? dev).map fun i => Filter.redirect (ifbName (k + i))).toList ++ ownRedirects tc dev)
  | [], k, tc, _ => by
    refine ⟨fun dev => by simp [shapeAll], fun i => ?_, fun _ dev => rfl, fun _ _ dev => rfl⟩
    constructor
    · exact Or.inl
    · rintro (h | ⟨-, h1, h2⟩)
      · exact h
      · rw [List.length_nil] at h2
        omega
  | iface :: rest, k, tc, ha => by
    have hiface : ∀ i, iface ≠ ifbName i := ha iface List.mem_cons_self
    obtain ⟨ihc, ihi, ih0, ihr⟩ := shapeAll_spec rest (k + 1) (shape up down iface k tc)
      fun dev hdev => ha dev (List.mem_cons_of_mem _ hdev)
    refine ⟨fun dev => ?_, fun i => ?_, fun h0 dev => ?_, fun h1 hd dev => ?_⟩
    · show ownCake (shapeAll up down (k + 1) rest (shape up down iface k tc)) dev = _
      rw [ihc, ownCake_shape up down (hiface k)]
      have hplaces : (∃ i < (iface :: rest).length, dev = ifbName (k + i)) ↔
          dev = ifbName k ∨ ∃ i < rest.length, dev = ifbName (k + 1 + i) := by
        rw [List.length_cons]
        constructor
        · rintro ⟨i, hi, heq⟩
          cases i with
          | zero => exact Or.inl heq
          | succ i => exact Or.inr ⟨i, by omega, by rw [heq, Nat.add_right_comm, Nat.add_assoc]⟩
        · rintro (heq | ⟨i, hi, heq⟩)
          · exact ⟨0, by omega, heq⟩
          · exact ⟨i + 1, by omega, by rw [heq, Nat.add_right_comm, Nat.add_assoc]⟩
      by_cases hd : dev ∈ iface :: rest
      · have hnone : ¬ ∃ i < rest.length, dev = ifbName (k + 1 + i) := by
          rintro ⟨i, -, heq⟩
          exact ha dev hd _ heq
        have hk : dev ≠ ifbName k := ha dev hd k
        have hnone' : ¬ ∃ i < (iface :: rest).length, dev = ifbName (k + i) := by
          rintro ⟨i, -, heq⟩
          exact ha dev hd _ heq
        simp only [hnone, hk, hnone', and_false, if_false]
        by_cases hu : up = 0
        · simp [hu]
        · rcases List.mem_cons.mp hd with heq | hrest
          · simp [hu, heq]
          · simp [hu, hrest]
      · have hrest : dev ∉ rest := fun h => hd (List.mem_cons_of_mem _ h)
        have hne : dev ≠ iface := fun h => hd (h ▸ List.mem_cons_self)
        simp only [hrest, hne, hd, and_false, if_false, hplaces]
        by_cases hd0 : down = 0
        · simp [hd0]
        · by_cases hk : dev = ifbName k
          · simp [hd0, hk]
          · simp [hd0, hk]
    · show (shapeAll up down (k + 1) rest (shape up down iface k tc)).ifb i = true ↔ _
      rw [ihi, ifb_shape, List.length_cons]
      constructor
      · rintro ((h | ⟨h1, h2⟩) | ⟨h1, h2, h3⟩)
        · exact Or.inl h
        · exact Or.inr ⟨h1, by omega, by omega⟩
        · exact Or.inr ⟨h1, by omega, by omega⟩
      · rintro (h | ⟨h1, h2, h3⟩)
        · exact Or.inl (Or.inl h)
        · by_cases hik : i = k
          · exact Or.inl (Or.inr ⟨h1, hik⟩)
          · exact Or.inr ⟨h1, by omega, by omega⟩
    · show ownRedirects (shapeAll up down (k + 1) rest (shape up down iface k tc)) dev = _
      rw [ih0 h0, ownRedirects_shape, if_neg fun h => h.1 h0]
    · obtain ⟨hnot, hnodup⟩ := List.nodup_cons.mp hd
      show ownRedirects (shapeAll up down (k + 1) rest (shape up down iface k tc)) dev = _
      rw [ihr h1 hnodup, ownRedirects_shape, List.idxOf?_cons]
      by_cases hdev : dev = iface
      · have hgone : rest.idxOf? dev = none := List.idxOf?_eq_none_iff.mpr (hdev ▸ hnot)
        rw [if_pos ⟨h1, hdev⟩, hgone]
        simp [hdev]
      · rw [if_neg fun h => hdev h.2]
        have hne : (iface == dev) = false := by simpa using Ne.symm hdev
        rw [hne]
        cases rest.idxOf? dev with
        | none => rfl
        | some i =>
          have hk : k + 1 + i = k + (i + 1) := by omega
          simp [hk]

end Shaping

/-- From nothing, the second loop builds what is asked for. -/
theorem exact_shapeAll {d : Demand} {tc : Tc} (h : Exact Demand.nothing tc) (ha : Shapeable d) :
    Exact d (shapeAll d.up d.down 0 d.ifaces tc) := by
  obtain ⟨hcake, hifb, hred0, hred⟩ := shapeAll_spec d.up d.down d.ifaces 0 tc ha.apart
  have hnocake : ∀ dev, ownCake tc dev = none := h.cakes
  have hnored : ∀ dev, ownRedirects tc dev = [] := h.redirects
  refine ⟨fun dev => ?_, fun dev => ?_, fun i => ?_⟩
  · rw [hcake dev, hnocake dev]
    simp only [Nat.zero_add]
    rfl
  · by_cases hd : d.down = 0
    · rw [hred0 hd dev, hnored dev, Demand.redirect, if_neg fun hne => hne hd]
      rfl
    · rw [hred hd (ha.distinct hd) dev, hnored dev, Demand.redirect, if_pos hd, List.append_nil]
      simp only [Nat.zero_add]
  · have hno : ¬ tc.ifb i = true := by
      intro hi
      exact ((h.ifbs i).mp hi).1 rfl
    rw [hifb i]
    constructor
    · rintro (h | ⟨h1, -, h2⟩)
      · exact absurd h hno
      · exact ⟨h1, by omega⟩
    · rintro ⟨h1, h2⟩
      exact Or.inr ⟨h1, by omega, by omega⟩

/-! ### Runs -/

/-- **One apply** takes what the last configuration asked for to what the next one asks for. -/
theorem exact_applyTraffic {d : Demand} {tc : Tc} {cfg : Obj} (h : Exact d tc)
    (hc : Covers d (demandOf cfg)) (ha : Shapeable (demandOf cfg)) :
    Exact (demandOf cfg) (applyTraffic cfg tc).2 := by
  have hifaces : (demandOf cfg).ifaces = wanIfaces cfg := by
    unfold demandOf
    split <;> rfl
  have hclean : Exact Demand.nothing (cleanupAll 0 (wanIfaces cfg) tc) := by
    have hall := exact_nothing_of_covers h hc
    rwa [hifaces] at hall
  have hidle : ∀ d : Demand, d.up = 0 → d.down = 0 → ∀ tc, Exact Demand.nothing tc → Exact d tc := by
    intro d hup hdown tc h
    refine ⟨fun dev => ?_, fun dev => ?_, fun i => ?_⟩
    · rw [h.cakes dev]
      simp [Demand.cake, Demand.nothing, hup, hdown]
    · rw [h.redirects dev]
      simp [Demand.redirect, Demand.nothing, hdown]
    · rw [h.ifbs i]
      simp [Demand.nothing, hdown]
  unfold applyTraffic
  by_cases hon : (qosRequested cfg && !apMode cfg) = true
  · have hd : demandOf cfg = ⟨wanIfaces cfg, kbps cfg "upload_kbps", kbps cfg "download_kbps"⟩ := if_pos hon
    simp only [hon, Bool.not_true, Bool.false_eq_true, if_false]
    by_cases hno : (wanItems cfg).isEmpty = true
    · have hempty : wanIfaces cfg = [] := by
        unfold wanIfaces
        rw [List.isEmpty_iff.mp hno]
        rfl
      rw [if_pos hno]
      have hsame := exact_shapeAll hclean ha
      rw [hd] at hsame ⊢
      simp only [hempty, shapeAll] at hsame ⊢
      exact hsame
    · rw [if_neg hno]
      have hshape := exact_shapeAll hclean ha
      rw [hd] at hshape ⊢
      exact hshape
  · have hd : demandOf cfg = ⟨wanIfaces cfg, 0, 0⟩ := if_neg hon
    have hoff : (!(qosRequested cfg && !apMode cfg)) = true := by
      rw [Bool.eq_false_iff.mpr hon]
      rfl
    rw [if_pos hoff, hd]
    exact hidle _ rfl rfl _ hclean

/-- The configurations, applied one after the other. -/
def applyQueues (tc : Tc) (cfgs : List Obj) : Tc := cfgs.foldl (fun tc cfg => (applyTraffic cfg tc).2) tc

/-- The demands that a run meets: nothing at first, then those of its configurations. -/
def demands (cfgs : List Obj) : List Demand := Demand.nothing :: cfgs.map demandOf

/-- **Smart Queues reconcile**: after every run in which every configuration is shapeable and covers the
one before it, there is exactly what the last one asks for. -/
theorem queues_reconcile {tc : Tc} (hnone : Exact Demand.nothing tc) (cfgs : List Obj)
    (hself : ∀ cfg ∈ cfgs, Shapeable (demandOf cfg)) (hchain : (demands cfgs).IsChain Covers) :
    Exact ((demands cfgs).getLast (List.cons_ne_nil _ _)) (applyQueues tc cfgs) := by
  have hrun : ∀ (cfgs : List Obj) (d : Demand) (tc : Tc), Exact d tc →
      (∀ cfg ∈ cfgs, Shapeable (demandOf cfg)) → (d :: cfgs.map demandOf).IsChain Covers →
      Exact ((d :: cfgs.map demandOf).getLast (List.cons_ne_nil _ _)) (applyQueues tc cfgs) := by
    intro cfgs
    induction cfgs with
    | nil => exact fun d tc h _ _ => h
    | cons cfg cfgs ih =>
      intro d tc h hself hchain
      rw [List.map_cons, List.isChain_cons_cons] at hchain
      have hstep := exact_applyTraffic h hchain.1 (hself cfg List.mem_cons_self)
      have hrest := ih _ _ hstep (fun c hc => hself c (List.mem_cons_of_mem _ hc)) hchain.2
      simp only [List.map_cons, List.getLast_cons_cons]
      exact hrest
  exact hrun cfgs Demand.nothing tc hnone hself hchain

/-! ### One run that reconciles, and one that does not -/

/-- No queueing disciplines at all. -/
def bareTc : Tc := ⟨fun _ => none, fun _ => none, fun _ => false⟩

theorem exact_bareTc : Exact Demand.nothing bareTc :=
  ⟨fun _ => rfl, fun _ => rfl, fun i => by simp [bareTc, Demand.nothing]⟩

/-- The default configuration with Smart Queues on. -/
def shapedConfig (up down : ℤ) : Obj :=
  Dict.set "qos" (.obj [("enabled", .bool true), ("engine", .str "cake"), ("download_kbps", .int down),
    ("upload_kbps", .int up), ("per_client_limits", .arr [])]) defaultEntries

/-- The same, with the WAN disabled. -/
def disabledConfig (up down : ℤ) : Obj :=
  Dict.set "wans" (.obj [("wan1", .obj (Dict.set "enabled" (.bool false) defaultWan))])
    (shapedConfig up down)

theorem queues_reconcile_rates :
    Exact ⟨["eth3"], 30000, 0⟩ (applyQueues bareTc [shapedConfig 20000 90000, shapedConfig 30000 0]) := by
  have h1 : demandOf (shapedConfig 20000 90000) = ⟨["eth3"], 20000, 90000⟩ := by decide
  have h2 : demandOf (shapedConfig 30000 0) = ⟨["eth3"], 30000, 0⟩ := by decide
  have hapart : ∀ dev ∈ ["eth3"], ∀ i, dev ≠ ifbName i := by
    intro dev hdev i heq
    have hown := own_ifbName i
    rw [← heq, List.mem_singleton.mp hdev] at hown
    exact absurd hown (by decide)
  have hrun := queues_reconcile exact_bareTc [shapedConfig 20000 90000, shapedConfig 30000 0] (by
      intro cfg hcfg
      simp only [List.mem_cons, List.not_mem_nil, or_false] at hcfg
      rcases hcfg with rfl | rfl
      · rw [h1]
        exact ⟨hapart, fun _ => List.nodup_singleton _⟩
      · rw [h2]
        exact ⟨hapart, fun h => absurd rfl h⟩) (by
      simp only [demands, List.map_cons, List.map_nil, h1, h2, List.isChain_cons_cons]
      refine ⟨⟨fun h => absurd rfl h, fun h => absurd rfl h⟩, ⟨fun _ _ h => h, fun _ => ⟨le_refl _, ?_⟩⟩,
        List.IsChain.singleton _⟩
      exact fun dev hdev => hdev)
  simpa [demands, h2] using hrun

/-- A WAN that is disabled keeps its shaper. -/
theorem disabled_keeps_shaper : ∃ (tc : Tc) (cfgs : List Obj), Exact Demand.nothing tc ∧
    (∀ cfg ∈ cfgs, (validate Capabilities.empty cfg).toOption.map Prod.fst = some cfg) ∧
      ¬ Exact ((demands cfgs).getLast (List.cons_ne_nil _ _)) (applyQueues tc cfgs) := by
  refine ⟨bareTc, [shapedConfig 20000 0, disabledConfig 20000 0], exact_bareTc, by decide +kernel, fun h => ?_⟩
  have hcake := h.cakes "eth3"
  exact absurd hcake (by decide +kernel)

end Sbegw.Netd
