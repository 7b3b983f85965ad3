import Sbegw.Wifid.Slots
import Mathlib.Data.Finset.Card

/-!
# Runs of the slot allocator

Whatever the order of its calls, prunes and restarts: the slots of a radio are different and below its limit, an
SSID loses its slot to a prune alone, and a slot is refused where the limit is reached.
-/

namespace Sbegw.Wifid

/-- What the daemon does with the allocator.  The limit of a radio is what its probe says. -/
inductive SlotCall
  | slot (rid wnid : String)
  | prune (live : Dict String (List String))
  | restart

def Allocator.call (limit : String → ℕ) (a : Allocator) : SlotCall → Allocator
  | .slot rid wnid => (a.slot rid wnid (limit rid)).2
  | .prune live => a.prune live
  | .restart => a.restart

def Allocator.calls (limit : String → ℕ) (a : Allocator) (cs : List SlotCall) : Allocator :=
  cs.foldl (Allocator.call limit) a

/-- The slot that the SSID has on the radio. -/
def Allocator.slotOf (a : Allocator) (rid wnid : String) : Option ℕ := Dict.lookup wnid (a.of rid)

/-- The SSIDs that have a slot on the radio. -/
def Allocator.holders (a : Allocator) (rid : String) : Finset String := (Dict.keys (a.of rid)).toFinset

/-- The prune drops the slot of the SSID on the radio. -/
def Omits (live : Dict String (List String)) (rid wnid : String) : Prop := wnid ∉ (Dict.lookup rid live).getD []

instance (live : Dict String (List String)) (rid wnid : String) : Decidable (Omits live rid wnid) :=
  inferInstanceAs (Decidable (wnid ∉ (Dict.lookup rid live).getD []))

/-- What every call keeps. -/
structure Allocator.Allocates (a : Allocator) (limit : String → ℕ) : Prop where
  nodup : ∀ rid, (Dict.keys (a.of rid)).Nodup
  apart : a.Apart
  below : ∀ rid wnid n, a.slotOf rid wnid = some n → n < limit rid
  agrees : a.Agrees

/-! ### One call -/

section Call

variable {a : Allocator} {limit : String → ℕ}

theorem allocates_empty (limit : String → ℕ) : Allocator.empty.Allocates limit where
  nodup := fun _ => List.nodup_nil
  apart := apart_empty
  below := fun _ _ _ h => nomatch h
  agrees := fun _ => rfl

theorem allocates_slot (h : a.Allocates limit) (rid wnid : String) :
    (a.slot rid wnid (limit rid)).2.Allocates limit := by
  refine ⟨fun r => ?_, apart_slot h.apart rid wnid _, fun r w n hn => ?_, agrees_slot h.agrees rid wnid _⟩
  · rcases of_slot a rid wnid (limit rid) r with hsame | ⟨rfl, k, -, -, hset⟩
    · rw [hsame]
      exact h.nodup r
    · rw [hset]
      exact Dict.nodup_keys_set wnid k (h.nodup r)
  · rw [Allocator.slotOf] at hn
    rcases of_slot a rid wnid (limit rid) r with hsame | ⟨rfl, k, -, hfree, hset⟩
    · rw [hsame] at hn
      exact h.below r w n hn
    · rw [hset, Dict.lookup_set] at hn
      by_cases hw : w = wnid
      · rw [if_pos hw, Option.some.injEq] at hn
        rw [← hn]
        exact (freeSlot_eq_some hfree).1
      · rw [if_neg hw] at hn
        exact h.below r w n hn

/-- A slot that a prune has left was there before. -/
theorem slotOf_of_prune (hnodup : ∀ rid, (Dict.keys (a.of rid)).Nodup) {live : Dict String (List String)}
    {rid wnid : String} {n : ℕ} (h : (a.prune live).slotOf rid wnid = some n) : a.slotOf rid wnid = some n := by
  rw [Allocator.slotOf, of_prune] at h
  exact (Dict.lookup_of_filter (hnodup rid) h).1

theorem allocates_prune (h : a.Allocates limit) (live : Dict String (List String)) :
    (a.prune live).Allocates limit := by
  refine ⟨fun rid => ?_, fun rid w₁ w₂ n h₁ h₂ => ?_, fun rid w n hn => ?_, agrees_prune h.agrees live⟩
  · rw [of_prune]
    exact Dict.nodup_keys_filter _ (h.nodup rid)
  · exact h.apart rid w₁ w₂ n (slotOf_of_prune h.nodup h₁) (slotOf_of_prune h.nodup h₂)
  · exact h.below rid w n (slotOf_of_prune h.nodup hn)

theorem allocates_restart (h : a.Allocates limit) : a.restart.Allocates limit := by
  have hof : ∀ rid, a.restart.of rid = a.of rid := of_restart h.agrees
  refine ⟨fun rid => ?_, fun rid w₁ w₂ n h₁ h₂ => ?_, fun rid w n hn => ?_, fun _ => rfl⟩
  · rw [hof]
    exact h.nodup rid
  · rw [hof] at h₁ h₂
    exact h.apart rid w₁ w₂ n h₁ h₂
  · rw [Allocator.slotOf, hof] at hn
    exact h.below rid w n hn

theorem allocates_call (h : a.Allocates limit) (c : SlotCall) : (a.call limit c).Allocates limit := by
  cases c with
  | slot rid wnid => exact allocates_slot h rid wnid
  | prune live => exact allocates_prune h live
  | restart => exact allocates_restart h

/-- A call keeps a slot, unless it is a prune that omits the SSID. -/
theorem slotOf_call (h : a.Allocates limit) {c : SlotCall} {rid wnid : String} {n : ℕ}
    (hkeep : ∀ live, c = .prune live → ¬ Omits live rid wnid) (hn : a.slotOf rid wnid = some n) :
    (a.call limit c).slotOf rid wnid = some n := by
  cases c with
  | slot r w => exact (grows_slot a r w (limit r)).slots rid wnid n hn
  | prune live =>
    have hlive : wnid ∈ (Dict.lookup rid live).getD [] := not_not.mp (hkeep live rfl)
    cases hnames : Dict.lookup rid live with
    | none =>
      rw [hnames] at hlive
      cases hlive
    | some names =>
      rw [hnames] at hlive
      exact lookup_prune hn hnames hlive
  | restart =>
    show Dict.lookup wnid (a.restart.of rid) = some n
    rw [of_restart h.agrees]
    exact hn

end Call

/-! ### Runs -/

theorem allocates_calls {a : Allocator} {limit : String → ℕ} (h : a.Allocates limit) (cs : List SlotCall) :
    (a.calls limit cs).Allocates limit := by
  induction cs generalizing a with
  | nil => exact h
  | cons c cs ih => exact ih (allocates_call h c)

theorem slotOf_calls {limit : String → ℕ} {rid wnid : String} {n : ℕ} (cs : List SlotCall) {a : Allocator}
    (h : a.Allocates limit) (hkeep : ∀ live, .prune live ∈ cs → ¬ Omits live rid wnid)
    (hn : a.slotOf rid wnid = some n) : (a.calls limit cs).slotOf rid wnid = some n := by
  induction cs generalizing a with
  | nil => exact hn
  | cons c cs ih =>
    refine ih (allocates_call h c) (fun live hlive => hkeep live (List.mem_cons_of_mem c hlive)) ?_
    exact slotOf_call h (fun live heq => hkeep live (heq ▸ List.mem_cons_self)) hn

/-! ### The limit -/

/-- No slot is free: every number below the limit is taken. -/
theorem freeSlot_eq_none_iff {slots : Dict String ℕ} {limit : ℕ} :
    freeSlot slots limit = none ↔ Finset.range limit ⊆ (slots.map Prod.snd).toFinset := by
  rw [freeSlot, List.find?_eq_none]
  constructor
  · intro h n hn
    have htaken := h n (List.mem_range.mpr (Finset.mem_range.mp hn))
    simpa using htaken
  · intro h n hn
    have htaken := h (Finset.mem_range.mpr (List.mem_range.mp hn))
    simpa using htaken

section Limit

variable {a : Allocator} {limit : String → ℕ}

/-- There are as many slots taken as SSIDs that have one. -/
theorem card_taken (h : a.Allocates limit) (rid : String) :
    ((a.of rid).map Prod.snd).toFinset.card = (a.holders rid).card := by
  have hvalues : ((a.of rid).map Prod.snd).Nodup := by
    refine List.Nodup.map_on (fun x hx y hy hxy => ?_) (List.Nodup.of_map _ (h.nodup rid))
    have hslot : Dict.lookup x.1 (a.of rid) = some x.2 := Dict.lookup_of_mem (h.nodup rid) hx
    have hslot' : Dict.lookup y.1 (a.of rid) = some x.2 := hxy ▸ Dict.lookup_of_mem (h.nodup rid) hy
    exact Prod.ext (h.apart rid x.1 y.1 x.2 hslot hslot') hxy
  rw [Allocator.holders, List.toFinset_card_of_nodup hvalues, List.toFinset_card_of_nodup (h.nodup rid), Dict.keys,
    List.length_map, List.length_map]

theorem taken_subset_range (h : a.Allocates limit) (rid : String) :
    ((a.of rid).map Prod.snd).toFinset ⊆ Finset.range (limit rid) := by
  intro n hn
  obtain ⟨e, he, rfl⟩ := List.mem_map.mp (List.mem_toFinset.mp hn)
  exact Finset.mem_range.mpr (h.below rid e.1 e.2 (Dict.lookup_of_mem (h.nodup rid) he))

theorem card_holders_le (h : a.Allocates limit) (rid : String) : (a.holders rid).card ≤ limit rid := by
  have hle := Finset.card_le_card (taken_subset_range h rid)
  rw [card_taken h, Finset.card_range] at hle
  exact hle

/-- The slots of a radio are all taken when as many SSIDs as its limit have one. -/
theorem freeSlot_eq_none_iff_card (h : a.Allocates limit) (rid : String) :
    freeSlot (a.of rid) (limit rid) = none ↔ (a.holders rid).card = limit rid := by
  rw [freeSlot_eq_none_iff]
  constructor
  · intro hall
    rw [← card_taken h, (taken_subset_range h rid).antisymm hall, Finset.card_range]
  · intro hcard
    refine (Finset.eq_of_subset_of_card_le (taken_subset_range h rid) ?_).ge
    rw [Finset.card_range, card_taken h, hcard]

/-- A slot is refused where the others have as many as the limit. -/
theorem slot_eq_none_iff (h : a.Allocates limit) (rid wnid : String) :
    (a.slot rid wnid (limit rid)).1 = none ↔ ((a.holders rid).erase wnid).card = limit rid := by
  cases hown : Dict.lookup wnid (a.of rid) with
  | some n =>
    have hbelow : n < limit rid := h.below rid wnid n hown
    have hin : wnid ∈ a.holders rid := by
      rw [Allocator.holders, List.mem_toFinset]
      by_contra hnot
      rw [Dict.lookup_eq_none_iff.mpr hnot] at hown
      cases hown
    have hcard := Finset.card_erase_of_mem hin
    have hle := card_holders_le h rid
    rw [slot_known hown, if_pos hbelow]
    constructor
    · intro hnone
      cases hnone
    · intro heq
      omega
  | none =>
    have hnot : wnid ∉ a.holders rid := by
      rw [Allocator.holders, List.mem_toFinset]
      exact Dict.lookup_eq_none_iff.mp hown
    rw [Finset.erase_eq_of_notMem hnot, ← freeSlot_eq_none_iff_card h]
    cases hfree : freeSlot (a.of rid) (limit rid) with
    | none => rw [slot_full hown hfree]
    | some n => rw [slot_new hown hfree]

/-- A slot that is kept is what the next call answers with. -/
theorem slot_of_slotOf (h : a.Allocates limit) {rid wnid : String} {n : ℕ} (hn : a.slotOf rid wnid = some n) :
    (a.slot rid wnid (limit rid)).1 = some n := by
  rw [slot_known hn, if_pos (h.below rid wnid n hn)]

end Limit

/-! ### From an empty map -/

/-- The allocator after the calls. -/
def allocatorAfter (limit : String → ℕ) (cs : List SlotCall) : Allocator := Allocator.empty.calls limit cs

theorem allocates_after (limit : String → ℕ) (cs : List SlotCall) : (allocatorAfter limit cs).Allocates limit :=
  allocates_calls (allocates_empty limit) cs

/-- **Slots are different and below the limit, are kept, and are refused only when all are taken**: over every run
of the allocator from an empty map. -/
theorem slots_allocated (limit : String → ℕ) (cs : List SlotCall) :
    (∀ rid w₁ w₂ n, (allocatorAfter limit cs).slotOf rid w₁ = some n →
      (allocatorAfter limit cs).slotOf rid w₂ = some n → w₁ = w₂) ∧
    (∀ rid wnid n, (allocatorAfter limit cs).slotOf rid wnid = some n → n < limit rid) ∧
    (∀ rid wnid n, (allocatorAfter limit cs).slotOf rid wnid = some n → ∀ more,
      (∀ live, .prune live ∈ more → ¬ Omits live rid wnid) →
        (allocatorAfter limit (cs ++ more)).slotOf rid wnid = some n ∧
        ((allocatorAfter limit (cs ++ more)).slot rid wnid (limit rid)).1 = some n) ∧
    (∀ rid wnid, ((allocatorAfter limit cs).slot rid wnid (limit rid)).1 = none ↔
      (((allocatorAfter limit cs).holders rid).erase wnid).card = limit rid) := by
  have h := allocates_after limit cs
  refine ⟨h.apart, h.below, fun rid wnid n hn more hkeep => ?_, slot_eq_none_iff h⟩
  have hkept : (allocatorAfter limit (cs ++ more)).slotOf rid wnid = some n := by
    rw [allocatorAfter, Allocator.calls, List.foldl_append]
    exact slotOf_calls more h hkeep hn
  exact ⟨hkept, slot_of_slotOf (allocates_after limit (cs ++ more)) hkept⟩

/-- Three SSIDs on a radio for two. -/
def guestCalls : List SlotCall :=
  [.slot "radio-2g" "guest", .slot "radio-2g" "home", .slot "radio-2g" "iot"]

theorem slots_allocated_guest :
    ((allocatorAfter (fun _ => 2) guestCalls).slot "radio-2g" "iot" 2).1 = none ∧
      ((allocatorAfter (fun _ => 2) (guestCalls ++ [.prune [("radio-2g", ["home"])], .restart])).slot
        "radio-2g" "home" 2).1 = some 1 := by
  obtain ⟨-, -, hkept, hfull⟩ := slots_allocated (fun _ => 2) guestCalls
  refine ⟨(hfull "radio-2g" "iot").mpr (by decide), ?_⟩
  refine (hkept "radio-2g" "home" 1 (by decide) _ fun live hlive => ?_).2
  simp only [List.mem_cons, SlotCall.prune.injEq, reduceCtorEq, List.not_mem_nil, or_false] at hlive
  rw [hlive]
  decide

end Sbegw.Wifid
