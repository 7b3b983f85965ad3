import Sbegw.Clientd.Poll
import Sbegw.Lib.Pieces

/-!
# What the merge of the sources leaves

Every address that a source names has one item, under its normal form.  The item is online unless a
neighbour entry of the address has failed.
-/

namespace Sbegw.Clientd

open Text

/-! ### What the sources say of an address -/

/-- A neighbour entry of the address has failed. -/
def Failed (s : Sources) (m : String) : Prop :=
  ∃ n ∈ s.neighbours4 ++ s.neighbours6, n.failed = true ∧ ∃ mac ∈ n.mac?, normaliseMac mac = m

/-- A source names the address. -/
def Seen (s : Sources) (m : String) : Prop := m ∈ Dict.keys (mergeSources s)

/-! ### Changes that keep who an item is -/

/-- The item is still about the same client, and as much online as before. -/
structure SameClient (item item' : Obj) : Prop where
  mac : Dict.lookup "mac" item' = Dict.lookup "mac" item
  online : Dict.lookup "online" item' = Dict.lookup "online" item

theorem SameClient.refl (item : Obj) : SameClient item item := ⟨rfl, rfl⟩

theorem SameClient.trans {a b c : Obj} (h : SameClient a b) (h' : SameClient b c) : SameClient a c :=
  ⟨h'.mac.trans h.mac, h'.online.trans h.online⟩

/-- Other keys may be written. -/
theorem SameClient.set {a b : Obj} (h : SameClient a b) (k : String) (v : Json) (hmac : "mac" ≠ k)
    (honline : "online" ≠ k) : SameClient a (Dict.set k v b) :=
  h.trans ⟨Dict.lookup_set_of_ne hmac v b, Dict.lookup_set_of_ne honline v b⟩

theorem sameClient_set (item : Obj) (k : String) (v : Json) (hmac : "mac" ≠ k) (honline : "online" ≠ k) :
    SameClient item (Dict.set k v item) :=
  (SameClient.refl item).set k v hmac honline

theorem sameClient_update (item updates : Obj) (hmac : "mac" ∉ Dict.keys updates)
    (honline : "online" ∉ Dict.keys updates) : SameClient item (Dict.update item updates) :=
  ⟨Dict.lookup_update_of_notMem hmac item, Dict.lookup_update_of_notMem honline item⟩

theorem sameClient_orElse (item : Obj) (k : String) (v : Json) (hmac : "mac" ≠ k) (honline : "online" ≠ k) :
    SameClient item (orElse k v item) :=
  sameClient_set item k _ hmac honline

theorem sameClient_appendIpv6 (item : Obj) (addr : String) : SameClient item (appendIpv6 addr item) :=
  sameClient_set item "ipv6" _ (by decide) (by decide)

theorem sameClient_withNeighbour (item : Obj) (family : ℕ) (n : Neighbour) :
    SameClient item (withNeighbour family n item) := by
  rw [withNeighbour]
  split
  · exact sameClient_orElse item "ipv4" _ (by decide) (by decide)
  · split
    · exact sameClient_appendIpv6 item n.dst
    · exact .refl item

theorem sameClient_resolveNetwork (index : List (Ip.Iface × String)) (item : Obj) :
    SameClient item (resolveNetwork index item) := by
  rw [resolveNetwork]
  split
  · exact .refl item
  · split
    · split
      · exact .refl item
      · split
        · exact .refl item
        · exact sameClient_set item "network" _ (by decide) (by decide)
    · exact .refl item

/-! ### The items -/

/-- Every item carries its address, and is online unless the address is one of `F`. -/
structure Merged (F : String → Prop) (d : Dict String Obj) : Prop where
  nodup : (Dict.keys d).Nodup
  normal : ∀ m ∈ Dict.keys d, ∃ raw, m = normaliseMac raw
  named : ∀ m item, Dict.lookup m d = some item → Dict.lookup "mac" item = some (.str m)
  online : ∀ m item, Dict.lookup m d = some item →
    ∃ b, Dict.lookup "online" item = some (.bool b) ∧ (b = true ↔ ¬ F m)
  failed : ∀ m, F m → m ∈ Dict.keys d

theorem mem_keys_amend {mac m : String} {f : Obj → Obj} {d : Dict String Obj} :
    m ∈ Dict.keys (amend mac f d) ↔ m = normaliseMac mac ∨ m ∈ Dict.keys d := by
  rw [← not_iff_not, not_or, ← Dict.lookup_eq_none_iff, ← Dict.lookup_eq_none_iff, amend, Dict.lookup_set]
  split
  · exact iff_of_false nofun fun h => h.1 ‹_›
  · exact (and_iff_right ‹_›).symm

theorem lookup_blank_mac (m : String) : Dict.lookup "mac" (blank m) = some (.str m) := rfl

theorem lookup_blank_online (m : String) : Dict.lookup "online" (blank m) = some (.bool true) := rfl

/-- The item that is amended, present or new. -/
theorem Merged.item {F : String → Prop} {d : Dict String Obj} (h : Merged F d) (m : String) :
    Dict.lookup "mac" ((Dict.lookup m d).getD (blank m)) = some (.str m) ∧
      ∃ b, Dict.lookup "online" ((Dict.lookup m d).getD (blank m)) = some (.bool b) ∧ (b = true ↔ ¬ F m) := by
  cases hm : Dict.lookup m d with
  | some item => exact ⟨h.named m item hm, h.online m item hm⟩
  | none =>
    have hnew : ¬ F m := fun hF => Dict.lookup_eq_none_iff.mp hm (h.failed m hF)
    exact ⟨lookup_blank_mac m, true, lookup_blank_online m, iff_of_true rfl hnew⟩

theorem Merged.keys_amend {F : String → Prop} {d : Dict String Obj} (h : Merged F d) (mac : String) (f : Obj → Obj) :
    (Dict.keys (amend mac f d)).Nodup ∧ ∀ m ∈ Dict.keys (amend mac f d), ∃ raw, m = normaliseMac raw := by
  refine ⟨Dict.nodup_keys_set _ _ h.nodup, fun m hm => ?_⟩
  rcases mem_keys_amend.mp hm with rfl | hm
  · exact ⟨mac, rfl⟩
  · exact h.normal m hm

theorem Merged.amend {F : String → Prop} {d : Dict String Obj} (h : Merged F d) {f : Obj → Obj}
    (hf : ∀ item, SameClient item (f item)) (mac : String) : Merged F (Clientd.amend mac f d) := by
  obtain ⟨hmac, honline⟩ := h.item (normaliseMac mac)
  obtain ⟨hnodup, hnormal⟩ := h.keys_amend mac f
  refine ⟨hnodup, hnormal, fun m item hm => ?_, fun m item hm => ?_, fun m hF => ?_⟩
  · rw [Clientd.amend, Dict.lookup_set] at hm
    split at hm
    · rename_i heq
      obtain rfl := Option.some.inj hm
      rw [(hf _).mac, heq]
      exact hmac
    · exact h.named m item hm
  · rw [Clientd.amend, Dict.lookup_set] at hm
    split at hm
    · rename_i heq
      obtain rfl := Option.some.inj hm
      rw [(hf _).online, heq]
      exact honline
    · exact h.online m item hm
  · exact mem_keys_amend.mpr (.inr (h.failed m hF))

/-- A failed neighbour takes its address offline. -/
theorem Merged.amend_failed {F : String → Prop} {d : Dict String Obj} (h : Merged F d) {f : Obj → Obj}
    (hf : ∀ item, SameClient item (f item)) (mac : String) : Merged (fun m => F m ∨ m = normaliseMac mac)
      (Clientd.amend mac (fun item => Dict.set "online" (.bool false) (f item)) d) := by
  obtain ⟨hmac, -⟩ := h.item (normaliseMac mac)
  obtain ⟨hnodup, hnormal⟩ := h.keys_amend mac fun item => Dict.set "online" (.bool false) (f item)
  refine ⟨hnodup, hnormal, fun m item hm => ?_, fun m item hm => ?_, fun m hF => ?_⟩
  · rw [Clientd.amend, Dict.lookup_set] at hm
    split at hm
    · rename_i heq
      obtain rfl := Option.some.inj hm
      rw [Dict.lookup_set_of_ne (by decide), (hf _).mac, heq]
      exact hmac
    · exact h.named m item hm
  · rw [Clientd.amend, Dict.lookup_set] at hm
    split at hm
    · rename_i heq
      obtain rfl := Option.some.inj hm
      exact ⟨false, Dict.lookup_set_self _ _ _, iff_of_false nofun fun hnot => hnot (.inr heq)⟩
    · rename_i hne
      obtain ⟨b, hb, hiff⟩ := h.online m item hm
      refine ⟨b, hb, hiff.trans ?_⟩
      rw [not_or]
      exact (and_iff_left hne).symm
  · exact mem_keys_amend.mpr (hF.symm.imp_right (h.failed m))

/-! ### The merge -/

/-- A source whose records only amend items adds its addresses and nothing else. -/
theorem Merged.foldl {α : Type} {F : String → Prop} {add : Dict String Obj → α → Dict String Obj}
    (hadd : ∀ d a, Merged F d → Merged F (add d a)) (as : List α) {d : Dict String Obj} (h : Merged F d) :
    Merged F (as.foldl add d) := by
  induction as generalizing d with
  | nil => exact h
  | cons a as ih => exact ih (hadd d a h)

theorem Merged.congr {F G : String → Prop} {d : Dict String Obj} (h : Merged F d) (hFG : ∀ m, G m ↔ F m) : Merged G d := by
  obtain rfl : G = F := funext fun m => propext (hFG m)
  exact h

theorem merged_addLease {F : String → Prop} {d : Dict String Obj} (lease : Lease) (h : Merged F d) :
    Merged F (addLease d lease) := by
  refine h.amend (fun item => ?_) lease.mac
  refine SameClient.trans ?_ (sameClient_orElse _ "hostname" _ (by decide) (by decide))
  split
  · exact sameClient_appendIpv6 item lease.address
  · exact sameClient_set item "ipv4" _ (by decide) (by decide)

theorem merged_addRecord {F : String → Prop} {d : Dict String Obj} (record : FdbRecord) (h : Merged F d) :
    Merged F (addRecord d record) := by
  rw [addRecord]
  split
  · split
    · exact h
    · refine h.amend (fun item => ?_) _
      refine SameClient.set ?_ "connection" _ (by decide) (by decide)
      refine SameClient.set ?_ "vlan" _ (by decide) (by decide)
      exact sameClient_set item "port" _ (by decide) (by decide)
  · exact h

theorem merged_addWireless {F : String → Prop} {d : Dict String Obj} (client : Obj) (h : Merged F d) :
    Merged F (addWireless d client) := by
  refine h.amend (fun item => ?_) _
  refine SameClient.set ?_ "port" _ (by decide) (by decide)
  refine SameClient.set ?_ "vlan" _ (by decide) (by decide)
  refine SameClient.set ?_ "network" _ (by decide) (by decide)
  refine SameClient.set ?_ "wireless" _ (by decide) (by decide)
  exact sameClient_set item "connection" _ (by decide) (by decide)

/-- The neighbour entry takes the address offline. -/
def Neighbour.Fails (n : Neighbour) (m : String) : Prop :=
  n.failed = true ∧ ∃ mac ∈ n.mac?, normaliseMac mac = m

theorem merged_addNeighbour {F : String → Prop} {d : Dict String Obj} (family : ℕ) (n : Neighbour)
    (h : Merged F d) : Merged (fun m => F m ∨ n.Fails m) (addNeighbour family d n) := by
  rw [addNeighbour]
  cases hmac : n.mac? with
  | none =>
    refine h.congr fun m => or_iff_left ?_
    rintro ⟨-, mac, hin, -⟩
    rw [hmac] at hin
    cases hin
  | some mac =>
    have hmem : ∀ m, (∃ raw ∈ n.mac?, normaliseMac raw = m) ↔ m = normaliseMac mac := by
      intro m
      rw [hmac]
      simp [eq_comm]
    cases hfailed : n.failed with
    | true =>
      have hitems := h.amend_failed (fun item => sameClient_withNeighbour item family n) mac
      refine Merged.congr hitems fun m => or_congr Iff.rfl ?_
      rw [Neighbour.Fails, hmem, hfailed]
      exact and_iff_right rfl
    | false =>
      have hitems := h.amend (fun item => sameClient_withNeighbour item family n) mac
      refine Merged.congr hitems fun m => or_iff_left ?_
      rintro ⟨htrue, -⟩
      rw [hfailed] at htrue
      cases htrue

theorem merged_neighbours (family : ℕ) (ns : List Neighbour) {F : String → Prop} {d : Dict String Obj}
    (h : Merged F d) : Merged (fun m => F m ∨ ∃ n ∈ ns, n.Fails m) (ns.foldl (addNeighbour family) d) := by
  induction ns generalizing F d with
  | nil => exact h.congr fun m => by simp
  | cons n ns ih =>
    refine (ih (merged_addNeighbour family n h)).congr fun m => ?_
    rw [List.exists_mem_cons_iff, or_assoc]

theorem merged_mergeSources (s : Sources) : Merged (Failed s) (mergeSources s) := by
  have hempty : Merged (fun _ => False) ([] : Dict String Obj) :=
    ⟨List.nodup_nil, by simp [Dict.keys], by simp, by simp, by simp⟩
  have hleases : Merged (fun _ => False) (s.leases.foldl addLease []) :=
    Merged.foldl (fun _ lease => merged_addLease lease) s.leases hempty
  have hneighbours := merged_neighbours 6 s.neighbours6 (merged_neighbours 4 s.neighbours4 hleases)
  have hfdb := Merged.foldl (fun _ record => merged_addRecord record) s.fdb hneighbours
  have hwireless := Merged.foldl (fun _ client => merged_addWireless client) s.wireless hfdb
  refine Merged.congr hwireless fun m => ?_
  rw [Failed, false_or]
  simp only [List.mem_append, or_and_right, exists_or]
  exact Iff.rfl

/-! ### Who is seen -/

theorem mem_keys_foldl_addWireless (clients : List Obj) (d : Dict String Obj) (m : String) :
    m ∈ Dict.keys (clients.foldl addWireless d) ↔
      m ∈ Dict.keys d ∨ ∃ client ∈ clients, normaliseMac (macOf client) = m := by
  induction clients generalizing d with
  | nil => simp
  | cons client clients ih =>
    rw [List.foldl_cons, ih, addWireless, mem_keys_amend, List.exists_mem_cons_iff, eq_comm (a := m), or_assoc, or_left_comm]

/-- A station is seen under the normal form of its address. -/
theorem seen_wireless {s : Sources} {client : Obj} (h : client ∈ s.wireless) : Seen s (normaliseMac (macOf client)) := by
  rw [Seen, mergeSources, mem_keys_foldl_addWireless]
  exact .inr ⟨client, h, rfl⟩

theorem Failed.seen {s : Sources} {m : String} (h : Failed s m) : Seen s m := (merged_mergeSources s).failed m h

end Sbegw.Clientd
