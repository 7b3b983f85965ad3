import Sbegw.Lib.Dict
import Mathlib.Data.List.Nodup

/-!
# BSS slots

`SlotAllocator` gives every wireless network a slot on every radio it is planned on, keeps it in a file,
and drops it when the network is no longer planned there.
-/

namespace Sbegw.Wifid

/-- Radio → wireless network → slot. -/
abbrev SlotMap := Dict String (Dict String ℕ)

/-- The allocator and its file. -/
structure Allocator where
  map : SlotMap
  saved : SlotMap
deriving DecidableEq

/-- Before the first network. -/
def Allocator.empty : Allocator := ⟨[], []⟩

/-- The slots of a radio. -/
def Allocator.of (a : Allocator) (rid : String) : Dict String ℕ := (Dict.lookup rid a.map).getD []

/-- The smallest slot below the limit that no network has. -/
def freeSlot (slots : Dict String ℕ) (limit : ℕ) : Option ℕ :=
  (List.range limit).find? fun candidate => !(slots.map Prod.snd).contains candidate

/-- `SlotAllocator.slot` -/
def Allocator.slot (a : Allocator) (rid wnid : String) (limit : ℕ) : Option ℕ × Allocator :=
  let slots := a.of rid
  let map := Dict.setdefault rid [] a.map
  match Dict.lookup wnid slots with
  | some n => (if n < limit then some n else none, { a with map })
  | none =>
    match freeSlot slots limit with
    | some n =>
      let map := Dict.set rid (Dict.set wnid n slots) map
      (some n, ⟨map, map⟩)
    | none => (none, { a with map })

/-- `SlotAllocator.prune`: `live` are the networks of each radio. -/
def Allocator.prune (a : Allocator) (live : Dict String (List String)) : Allocator :=
  let map := a.map.filterMap fun e =>
    (Dict.lookup e.1 live).map fun names => (e.1, e.2.filter fun s => names.contains s.1)
  ⟨map, if map = a.map then a.saved else map⟩

/-- A new process reads the file. -/
def Allocator.restart (a : Allocator) : Allocator := ⟨a.saved, a.saved⟩

/-! ### One radio -/

theorem freeSlot_eq_some {slots : Dict String ℕ} {limit n : ℕ} (h : freeSlot slots limit = some n) :
    n < limit ∧ n ∉ slots.map Prod.snd := by
  unfold freeSlot at h
  have hmem := List.mem_range.mp (List.mem_of_find?_eq_some h)
  have hfree := List.find?_some h
  simp only [Bool.not_eq_true', List.contains_eq_mem, decide_eq_false_iff_not] at hfree
  exact ⟨hmem, hfree⟩

theorem of_setdefault (a : Allocator) (rid r : String) :
    (Dict.lookup r (Dict.setdefault rid [] a.map)).getD [] = a.of r := by
  unfold Allocator.of
  by_cases hr : r = rid
  · rw [hr, Dict.lookup_setdefault_self]
    rfl
  · rw [Dict.lookup_setdefault_of_ne hr]

section Slot

variable {a : Allocator} {rid wnid : String} {limit n : ℕ}

/-- The network has a slot. -/
theorem slot_known (h : Dict.lookup wnid (a.of rid) = some n) : a.slot rid wnid limit =
    (if n < limit then some n else none, { a with map := Dict.setdefault rid [] a.map }) := by
  unfold Allocator.slot
  simp only [h]

/-- It has none, and none is free. -/
theorem slot_full (h : Dict.lookup wnid (a.of rid) = none) (hfree : freeSlot (a.of rid) limit = none) :
    a.slot rid wnid limit = (none, { a with map := Dict.setdefault rid [] a.map }) := by
  unfold Allocator.slot
  simp only [h, hfree]

/-- It gets one. -/
theorem slot_new (h : Dict.lookup wnid (a.of rid) = none) (hfree : freeSlot (a.of rid) limit = some n) :
    a.slot rid wnid limit =
      (some n, ⟨Dict.set rid (Dict.set wnid n (a.of rid)) (Dict.setdefault rid [] a.map),
        Dict.set rid (Dict.set wnid n (a.of rid)) (Dict.setdefault rid [] a.map)⟩) := by
  unfold Allocator.slot
  simp only [h, hfree]

theorem of_slot_new {slots : Dict String ℕ} {map : SlotMap} {r : String} (saved : SlotMap) :
    Allocator.of ⟨Dict.set rid slots (Dict.setdefault rid [] map), saved⟩ r =
      if r = rid then slots else Allocator.of ⟨map, saved⟩ r := by
  show (Dict.lookup r (Dict.set rid slots (Dict.setdefault rid [] map))).getD [] = _
  by_cases hr : r = rid
  · rw [if_pos hr, hr, Dict.lookup_set_self]
    rfl
  · rw [if_neg hr, Dict.lookup_set_of_ne hr, Dict.lookup_setdefault_of_ne hr]
    rfl

/-- What a call leaves: at most the network's own slot is new, where it had none and one was free. -/
theorem of_slot (a : Allocator) (rid wnid : String) (limit : ℕ) (r : String) :
    (a.slot rid wnid limit).2.of r = a.of r ∨
      r = rid ∧ ∃ n, Dict.lookup wnid (a.of rid) = none ∧ freeSlot (a.of rid) limit = some n ∧
        (a.slot rid wnid limit).2.of r = Dict.set wnid n (a.of rid) := by
  cases hown : Dict.lookup wnid (a.of rid) with
  | some n =>
    left
    rw [slot_known hown]
    exact of_setdefault a rid r
  | none =>
    cases hfree : freeSlot (a.of rid) limit with
    | none =>
      left
      rw [slot_full hown hfree]
      exact of_setdefault a rid r
    | some n =>
      rw [slot_new hown hfree, of_slot_new]
      by_cases hr : r = rid
      · rw [if_pos hr]
        exact .inr ⟨hr, n, rfl, rfl, rfl⟩
      · rw [if_neg hr]
        exact .inl rfl

/-- The slot that a call answers with is below the limit, and the network's afterwards. -/
theorem slot_eq_some (h : (a.slot rid wnid limit).1 = some n) :
    n < limit ∧ Dict.lookup wnid ((a.slot rid wnid limit).2.of rid) = some n := by
  cases hown : Dict.lookup wnid (a.of rid) with
  | some m =>
    rw [slot_known hown] at h ⊢
    by_cases hm : m < limit
    · simp only [if_pos hm, Option.some.injEq] at h
      subst h
      refine ⟨hm, ?_⟩
      show Dict.lookup wnid ((Dict.lookup rid (Dict.setdefault rid [] a.map)).getD []) = _
      rw [of_setdefault, hown]
    · simp only [if_neg hm] at h
      cases h
  | none =>
    cases hfree : freeSlot (a.of rid) limit with
    | none =>
      rw [slot_full hown hfree] at h
      cases h
    | some m =>
      rw [slot_new hown hfree] at h ⊢
      obtain rfl : m = n := Option.some.inj h
      refine ⟨(freeSlot_eq_some hfree).1, ?_⟩
      rw [of_slot_new, if_pos rfl, Dict.lookup_set_self]

end Slot

/-! ### The slots of a radio are different -/

/-- Two networks on one radio have two slots. -/
def Allocator.Apart (a : Allocator) : Prop :=
  ∀ rid w₁ w₂ n, Dict.lookup w₁ (a.of rid) = some n → Dict.lookup w₂ (a.of rid) = some n → w₁ = w₂

theorem apart_empty : Allocator.empty.Apart := by
  intro rid w₁ w₂ n h
  cases h

theorem apart_slot {a : Allocator} (h : a.Apart) (rid wnid : String) (limit : ℕ) :
    (a.slot rid wnid limit).2.Apart := by
  intro r w₁ w₂ n h₁ h₂
  rcases of_slot a rid wnid limit r with hsame | ⟨rfl, k, hnone, hfree, hset⟩
  · rw [hsame] at h₁ h₂
    exact h r w₁ w₂ n h₁ h₂
  · have hfresh : ∀ w, Dict.lookup w (a.of r) ≠ some k := by
      intro w hw
      exact (freeSlot_eq_some hfree).2 (List.mem_map_of_mem (Dict.mem_of_lookup hw))
    rw [hset] at h₁ h₂
    by_cases hw₁ : w₁ = wnid
    · rw [hw₁, Dict.lookup_set_self] at h₁
      obtain rfl := Option.some.inj h₁
      by_cases hw₂ : w₂ = wnid
      · rw [hw₁, hw₂]
      · rw [Dict.lookup_set_of_ne hw₂] at h₂
        exact absurd h₂ (hfresh w₂)
    · rw [Dict.lookup_set_of_ne hw₁] at h₁
      by_cases hw₂ : w₂ = wnid
      · rw [hw₂, Dict.lookup_set_self] at h₂
        obtain rfl := Option.some.inj h₂
        exact absurd h₁ (hfresh w₁)
      · rw [Dict.lookup_set_of_ne hw₂] at h₂
        exact h r w₁ w₂ n h₁ h₂

/-! ### Slots that are kept -/

/-- The file says what the map says. -/
def Allocator.Agrees (a : Allocator) : Prop := ∀ rid, (Dict.lookup rid a.saved).getD [] = a.of rid

/-- No slot is lost. -/
structure Grows (a a' : Allocator) : Prop where
  slots : ∀ rid wnid n, Dict.lookup wnid (a.of rid) = some n → Dict.lookup wnid (a'.of rid) = some n
  agrees : a.Agrees → a'.Agrees

theorem Grows.refl (a : Allocator) : Grows a a := ⟨fun _ _ _ h => h, id⟩

theorem Grows.trans {a b c : Allocator} (h : Grows a b) (h' : Grows b c) : Grows a c :=
  ⟨fun rid wnid n hn => h'.slots rid wnid n (h.slots rid wnid n hn), fun ha => h'.agrees (h.agrees ha)⟩

theorem agrees_slot {a : Allocator} (h : a.Agrees) (rid wnid : String) (limit : ℕ) :
    (a.slot rid wnid limit).2.Agrees := by
  have hdefault : Allocator.Agrees { a with map := Dict.setdefault rid [] a.map } := fun r =>
    (h r).trans (of_setdefault a rid r).symm
  cases hown : Dict.lookup wnid (a.of rid) with
  | some n =>
    rw [slot_known hown]
    exact hdefault
  | none =>
    cases hfree : freeSlot (a.of rid) limit with
    | none =>
      rw [slot_full hown hfree]
      exact hdefault
    | some n =>
      rw [slot_new hown hfree]
      exact fun _ => rfl

theorem grows_slot (a : Allocator) (rid wnid : String) (limit : ℕ) : Grows a (a.slot rid wnid limit).2 := by
  refine ⟨fun r w n hn => ?_, fun h => agrees_slot h rid wnid limit⟩
  rcases of_slot a rid wnid limit r with hsame | ⟨rfl, k, hnone, -, hset⟩
  · rw [hsame]
    exact hn
  · have hne : w ≠ wnid := by
      rintro rfl
      rw [hnone] at hn
      cases hn
    rw [hset, Dict.lookup_set_of_ne hne]
    exact hn

theorem lookup_filterMap {α β γ : Type} (g : String → Option β) (f : β → α → γ) (k : String) (d : Dict String α) :
    Dict.lookup k (d.filterMap fun e => (g e.1).map fun x => (e.1, f x e.2)) =
      (Dict.lookup k d).bind fun v => (g k).map fun x => f x v := by
  induction d with
  | nil => rfl
  | cons e d ih =>
    obtain ⟨j, v⟩ := e
    rw [Dict.lookup_cons, List.filterMap_cons]
    dsimp only
    cases hg : g j with
    | none =>
      rw [Option.map_none, ih]
      split
      · rename_i hj
        rw [← hj, hg]
        cases Dict.lookup j d <;> rfl
      · rfl
    | some x =>
      rw [Option.map_some]
      dsimp only
      rw [Dict.lookup_cons]
      split
      · rename_i hj
        rw [← hj, hg]
        rfl
      · exact ih

/-- The slots of a radio after the pruning: those of the SSIDs that are live on it. -/
theorem of_prune (a : Allocator) (live : Dict String (List String)) (rid : String) :
    (a.prune live).of rid = (a.of rid).filter fun s => ((Dict.lookup rid live).getD []).contains s.1 := by
  show (Dict.lookup rid (a.map.filterMap fun e =>
    (Dict.lookup e.1 live).map fun names => (e.1, e.2.filter fun s => names.contains s.1))).getD [] = _
  rw [lookup_filterMap (fun r => Dict.lookup r live)
    (fun names (slots : Dict String ℕ) => slots.filter fun s => names.contains s.1), Allocator.of]
  cases Dict.lookup rid a.map with
  | none => rfl
  | some slots =>
    cases Dict.lookup rid live with
    | none => simp
    | some names => rfl

/-- A slot of an SSID that is live on the radio survives the pruning. -/
theorem lookup_prune {a : Allocator} {live : Dict String (List String)} {rid wnid : String} {n : ℕ}
    {names : List String} (h : Dict.lookup wnid (a.of rid) = some n) (hlive : Dict.lookup rid live = some names)
    (hin : wnid ∈ names) : Dict.lookup wnid ((a.prune live).of rid) = some n := by
  rw [of_prune, hlive, Option.getD_some, Dict.lookup_filter_key (List.contains_iff_mem.mpr hin)]
  exact h

theorem agrees_prune {a : Allocator} (h : a.Agrees) (live : Dict String (List String)) : (a.prune live).Agrees := by
  rw [Allocator.prune]
  intro rid
  dsimp only
  split
  · rename_i hsame
    rw [h, Allocator.of, Allocator.of, hsame]
  · rfl

/-- A process that starts has the slots that the last one had. -/
theorem of_restart {a : Allocator} (h : a.Agrees) (rid : String) : a.restart.of rid = a.of rid := h rid

end Sbegw.Wifid
