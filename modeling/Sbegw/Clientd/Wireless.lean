import Sbegw.Clientd.Presence

/-!
# The record of a station

However often the Wi-Fi daemon lists a station, the poll has one record of it, which carries what the last
entry of the station says.
-/

namespace Sbegw.Clientd

/-- The item carries the entry of a station with the address. -/
def Carries (stations : List Obj) (m : String) (item : Obj) : Prop :=
  ∃ client ∈ stations, normaliseMac (macOf client) = m ∧ Dict.lookup "wireless" item = some (.obj client)

/-! ### The merge -/

theorem lookup_addWireless_self (merged : Dict String Obj) (client : Obj) :
    ∃ item, Dict.lookup (normaliseMac (macOf client)) (addWireless merged client) = some item ∧
      Dict.lookup "wireless" item = some (.obj client) := by
  refine ⟨_, Dict.lookup_set_self _ _ _, ?_⟩
  rw [Dict.lookup_set_of_ne (by decide), Dict.lookup_set_of_ne (by decide), Dict.lookup_set_of_ne (by decide),
    Dict.lookup_set_self]

theorem lookup_addWireless_of_ne {m : String} {client : Obj} (h : m ≠ normaliseMac (macOf client))
    (merged : Dict String Obj) : Dict.lookup m (addWireless merged client) = Dict.lookup m merged :=
  Dict.lookup_set_of_ne h _ _

/-- Every station has its item, which carries the last entry of the station. -/
theorem carries_foldl (stations : List Obj) (merged : Dict String Obj) {m : String}
    (h : ∃ client ∈ stations, normaliseMac (macOf client) = m) :
    ∃ item, Dict.lookup m (stations.foldl addWireless merged) = some item ∧ Carries stations m item := by
  induction stations using List.reverseRecOn with
  | nil =>
    obtain ⟨_, hin, -⟩ := h
    cases hin
  | append_singleton stations last ih =>
    rw [List.foldl_append, List.foldl_cons, List.foldl_nil]
    by_cases hlast : m = normaliseMac (macOf last)
    · obtain ⟨item, hitem, hwireless⟩ := lookup_addWireless_self (stations.foldl addWireless merged) last
      exact ⟨item, hlast ▸ hitem, last, by simp, hlast.symm, hwireless⟩
    · have hbefore : ∃ client ∈ stations, normaliseMac (macOf client) = m := by
        obtain ⟨client, hin, hm⟩ := h
        rcases List.mem_append.mp hin with hin | hin
        · exact ⟨client, hin, hm⟩
        · rw [List.mem_singleton.mp hin] at hm
          exact absurd hm.symm hlast
      obtain ⟨item, hitem, client, hin, hm, hwireless⟩ := ih hbefore
      rw [lookup_addWireless_of_ne hlast]
      exact ⟨item, hitem, client, List.mem_append_left _ hin, hm, hwireless⟩

/-! ### The records -/

/-- The record of an item is about the same client, and carries the same entry. -/
structure RecordOf (item record : Obj) : Prop extends SameClient item record where
  wireless : Dict.lookup "wireless" record = Dict.lookup "wireless" item

variable {vendor : String → Option String} {s : Sources} {st : PollState}

theorem wireless_visit (mac : String) (item : Obj) :
    Dict.lookup "wireless" (visit vendor s mac item st).1 = Dict.lookup "wireless" item := by
  unfold visit
  dsimp only
  rw [withRates, Dict.lookup_update_of_notMem (by simp [Dict.keys]), withRow,
    Dict.lookup_update_of_notMem (by simp [Dict.keys])]

theorem wireless_resolveNetwork (index : List (Ip.Iface × String)) (item : Obj) :
    Dict.lookup "wireless" (resolveNetwork index item) = Dict.lookup "wireless" item := by
  rw [resolveNetwork]
  split
  · rfl
  · split
    · split
      · rfl
      · split
        · rfl
        · exact Dict.lookup_set_of_ne (by decide) _ _
    · rfl

/-- Every item of the merge has its record. -/
theorem record_of_mem (vendor : String → Option String) (s : Sources) :
    ∀ (merged : Dict String Obj) (st : PollState) (e : String × Obj), e ∈ merged →
      ∃ record ∈ (visitAll vendor s merged st).1, RecordOf e.2 record
  | (mac, item) :: rest, st, e, he => by
    rcases List.mem_cons.mp he with rfl | he
    · exact ⟨_, List.mem_cons_self, sameClient_visit mac item, wireless_visit mac item⟩
    · obtain ⟨record, hrecord, hof⟩ := record_of_mem vendor s rest _ e he
      exact ⟨record, List.mem_cons_of_mem _ hrecord, hof⟩

/-- What a poll answers is what it made of the merged items, and the clients that are gone. -/
theorem records_of_poll {r : Report} {st' : PollState} (h : poll vendor s st = (.ok r, st')) :
    ∃ index left, r.records.Perm
      ((visitAll vendor s ((mergeSources s).map fun e => (e.1, resolveNetwork index e.2)) st).1 ++ left) := by
  rw [poll] at h
  cases hindex : subnetIndex s.cfg with
  | error e =>
    rw [hindex] at h
    cases h
  | ok index =>
    rw [hindex] at h
    obtain ⟨hr, -⟩ := Prod.mk.inj h
    obtain rfl := Except.ok.inj hr
    exact ⟨index, _, List.perm_insertionSort _ _⟩

theorem record_of_station {r : Report} {st' : PollState} (h : poll vendor s st = (.ok r, st')) {m : String}
    (hm : ∃ client ∈ s.wireless, normaliseMac (macOf client) = m) :
    ∃ record ∈ r.records, macOf record = m ∧ Carries s.wireless m record := by
  obtain ⟨index, left, hperm⟩ := records_of_poll h
  obtain ⟨item, hitem, client, hin, hclient, hwireless⟩ := carries_foldl s.wireless _ hm
  have hmem : (m, item) ∈ mergeSources s := Dict.mem_of_lookup hitem
  obtain ⟨record, hrecord, hof⟩ := record_of_mem vendor s
    ((mergeSources s).map fun e => (e.1, resolveNetwork index e.2)) st _ (List.mem_map_of_mem hmem)
  have hmac : Dict.lookup "mac" record = some (.str m) := by
    rw [hof.mac, (sameClient_resolveNetwork index item).mac]
    exact (merged_mergeSources s).named m item hitem
  refine ⟨record, hperm.mem_iff.mpr (List.mem_append_left left hrecord), macOf_of_lookup hmac, client, hin, hclient, ?_⟩
  rw [hof.wireless, wireless_resolveNetwork]
  exact hwireless

/-- **One record for each station**: in every poll that answers, exactly one record has the address of a station,
and it carries an entry of the station. -/
theorem one_record_of_station (vendor : String → Option String) (rows : Dict String Obj) (history : List HistoryRow)
    (lastHistory : ℕ) (before : List Sources) {r : Report} {st' : PollState}
    (h : poll vendor s ((Session.start rows history lastHistory).after vendor before).st = (.ok r, st'))
    {client : Obj} (hclient : client ∈ s.wireless) :
    ∃ record, (r.records.filter fun c => macOf c = normaliseMac (macOf client)) = [record] ∧
      Carries s.wireless (normaliseMac (macOf client)) record := by
  have hlive := (remembers_after vendor (remembers_start rows history lastHistory) before).live
  have honce := (answer_of_poll hlive h).once.1
  obtain ⟨record, hin, hmac, hcarries⟩ := record_of_station h ⟨client, hclient, rfl⟩
  have hcount : (r.records.filter fun c => macOf c = normaliseMac (macOf client)).length = 1 := by
    have hmem : normaliseMac (macOf client) ∈ r.records.map macOf := hmac ▸ List.mem_map_of_mem hin
    rw [← List.countP_eq_length_filter, ← List.count_eq_one_of_mem honce hmem, List.count, List.countP_map]
    exact List.countP_congr fun c _ => by simp
  obtain ⟨only, honly⟩ := List.length_eq_one_iff.mp hcount
  have hrecord : record ∈ [only] := by
    rw [← honly]
    exact List.mem_filter.mpr ⟨hin, by simpa using hmac⟩
  obtain rfl := List.mem_singleton.mp hrecord
  exact ⟨record, honly, hcarries⟩

end Sbegw.Clientd
