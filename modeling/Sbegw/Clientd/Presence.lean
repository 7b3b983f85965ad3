import Sbegw.Clientd.Merged

/-!
# Who is online

The items of a poll against those of the poll before.  A client that no source names any more gets its
`offline` row; one that is named by a failed neighbour entry goes offline without one, even when it is
associated.
-/

namespace Sbegw.Clientd

/-! ### Transitions -/

/-- The client is among the records, and online. -/
def OnlineIn (records : List Obj) (m : String) : Prop := ∃ c ∈ records, macOf c = m ∧ isOnline c = true

instance (records : List Obj) (m : String) : Decidable (OnlineIn records m) :=
  inferInstanceAs (Decidable (∃ c ∈ records, _))

/-- The rows that say that the client went offline. -/
def offlineRows (m : String) (writes : List Write) : ℕ :=
  writes.countP fun w => decide (w.mac = m) && decide (w.event = "offline")

instance (s : Sources) (m : String) : Decidable (Seen s m) := inferInstanceAs (Decidable (_ ∈ _))

/-- What a poll says of its clients after one that reported `prev`. -/
structure Transition (prev : List Obj) (s : Sources) (r : Report) : Prop where
  /-- one record for each address, in its normal form -/
  once : (r.records.map macOf).Nodup ∧ ∀ c ∈ r.records, ∃ raw, macOf c = Clientd.normaliseMac raw
  wireless : ∀ client ∈ s.wireless, OnlineIn r.records (normaliseMac (macOf client))
  offline : ∀ m, offlineRows m r.writes = if OnlineIn prev m ∧ ¬ OnlineIn r.records m then 1 else 0

/-- No address with a failed neighbour entry was online in the last poll, or is that of a station. -/
def Answering (prev : List Obj) (s : Sources) : Prop :=
  ∀ m, Failed s m → ¬ OnlineIn prev m ∧ ∀ client ∈ s.wireless, normaliseMac (macOf client) ≠ m

/-! ### The records -/

variable {vendor : String → Option String} {s : Sources} {st : PollState}

theorem sameClient_withRow (mac : String) (row item : Obj) : SameClient item (withRow mac row item) := by
  rw [withRow]
  refine sameClient_update item _ ?_ ?_
  · simp [Dict.keys]
  · simp [Dict.keys]

theorem sameClient_withRates (sample : Sample) (prev : Option Sample) (item : Obj) :
    SameClient item (withRates sample prev item) := by
  rw [withRates]
  refine sameClient_update item _ ?_ ?_
  · simp [Dict.keys]
  · simp [Dict.keys]

theorem sameClient_visit (mac : String) (item : Obj) : SameClient item (visit vendor s mac item st).1 := by
  unfold visit
  dsimp only
  have hrow := sameClient_withRow mac (upsert vendor s.now mac item st.db.rows).1 item
  exact hrow.trans (sameClient_withRates _ _ _)

theorem visitAll_records (vendor : String → Option String) (s : Sources) : ∀ (merged : Dict String Obj) (st : PollState),
    List.Forall₂ (fun e c => SameClient e.2 c) merged (visitAll vendor s merged st).1
  | [], _ => .nil
  | (mac, item) :: rest, _ => .cons (sameClient_visit mac item) (visitAll_records vendor s rest _)

theorem upsert_writes (now : ℚ) (mac : String) (item : Obj) (rows : Dict String Obj) :
    ∀ w ∈ (upsert vendor now mac item rows).2.2, w.event = "first-seen" := by
  intro w hw
  rw [upsert] at hw
  split at hw
  · rw [List.mem_singleton.mp hw]
  · cases hw

theorem visitAll_writes (vendor : String → Option String) (s : Sources) : ∀ (merged : Dict String Obj) (st : PollState),
    ∀ w ∈ (visitAll vendor s merged st).2.1, w.event = "first-seen"
  | [], _, w, hw => by cases hw
  | (mac, item) :: rest, st, w, hw => by
    rcases List.mem_append.mp hw with hw | hw
    · exact upsert_writes _ _ _ _ w hw
    · exact visitAll_writes vendor s rest _ w hw

/-- What is remembered of the last poll: each client once, under its address. -/
structure Live (live : Dict String Obj) : Prop where
  nodup : (Dict.keys live).Nodup
  normal : ∀ m ∈ Dict.keys live, ∃ raw, m = normaliseMac raw
  named : ∀ m c, Dict.lookup m live = some c → macOf c = m

theorem macOf_of_lookup {item : Obj} {m : String} (h : Dict.lookup "mac" item = some (.str m)) : macOf item = m := by
  rw [macOf, h]

theorem isOnline_of_lookup {item : Obj} {b : Bool} (h : Dict.lookup "online" item = some (.bool b)) :
    isOnline item = b := by
  rw [isOnline, h]
  rfl

theorem macOf_set_online (item : Obj) (v : Json) : macOf (Dict.set "online" v item) = macOf item := by
  rw [macOf, Dict.lookup_set_of_ne (by decide), macOf]

theorem lookup_gone {live merged : Dict String Obj} (hlive : (Dict.keys live).Nodup) {e : String × Obj} :
    e ∈ gone live merged ↔ Dict.lookup e.1 live = some e.2 ∧ e.1 ∉ Dict.keys merged := by
  rw [gone, List.mem_filter, Option.isNone_iff_eq_none, Dict.lookup_eq_none_iff]
  exact and_congr_left fun _ => ⟨Dict.lookup_of_mem hlive, Dict.mem_of_lookup⟩

/-- The clients that are remembered after a poll are those it reports online. -/
theorem live_foldl (out : List Obj) {live : Dict String Obj} (h : Live live)
    (hnormal : ∀ c ∈ out, ∃ raw, macOf c = normaliseMac raw) :
    Live (out.foldl (fun live c => Dict.set (macOf c) c live) live) ∧
      ∀ m, m ∈ Dict.keys (out.foldl (fun live c => Dict.set (macOf c) c live) live) ↔
        m ∈ Dict.keys live ∨ ∃ c ∈ out, macOf c = m := by
  induction out generalizing live with
  | nil => exact ⟨h, fun m => by simp⟩
  | cons c out ih =>
    have hkeys : ∀ m, m ∈ Dict.keys (Dict.set (macOf c) c live) ↔ m = macOf c ∨ m ∈ Dict.keys live := by
      intro m
      rw [← not_iff_not, not_or, ← Dict.lookup_eq_none_iff, ← Dict.lookup_eq_none_iff, Dict.lookup_set]
      split
      · exact iff_of_false nofun fun h => h.1 ‹_›
      · exact (and_iff_right ‹_›).symm
    have hset : Live (Dict.set (macOf c) c live) := by
      refine ⟨Dict.nodup_keys_set _ _ h.nodup, fun m hm => ?_, fun m d hd => ?_⟩
      · rcases (hkeys m).mp hm with rfl | hm
        · exact hnormal c List.mem_cons_self
        · exact h.normal m hm
      · rw [Dict.lookup_set] at hd
        split at hd
        · obtain rfl := Option.some.inj hd
          exact (‹m = _›).symm
        · exact h.named m d hd
    obtain ⟨hlive, hmem⟩ := ih hset fun d hd => hnormal d (List.mem_cons_of_mem c hd)
    refine ⟨hlive, fun m => ?_⟩
    rw [List.foldl_cons, hmem, hkeys, List.exists_mem_cons_iff, eq_comm (a := m), or_assoc, or_left_comm]

/-! ### One poll -/

/-- What a poll answers. -/
structure Answer (s : Sources) (st : PollState) (r : Report) (st' : PollState) : Prop where
  once : (r.records.map macOf).Nodup ∧ ∀ c ∈ r.records, ∃ raw, macOf c = normaliseMac raw
  online : ∀ m, OnlineIn r.records m ↔ Seen s m ∧ ¬ Failed s m
  offline : ∀ m, offlineRows m r.writes = if m ∈ Dict.keys st.db.live ∧ ¬ Seen s m then 1 else 0
  live : Live st'.db.live ∧ ∀ m, m ∈ Dict.keys st'.db.live ↔ OnlineIn r.records m

/-- Items stay merged when something else about them is filled in. -/
theorem Merged.map {F : String → Prop} {d : Dict String Obj} (h : Merged F d) {f : Obj → Obj}
    (hf : ∀ item, SameClient item (f item)) : Merged F (d.map fun e => (e.1, f e.2)) := by
  have hkeys : Dict.keys (d.map fun e => (e.1, f e.2)) = Dict.keys d := by
    rw [Dict.keys, List.map_map]
    rfl
  refine ⟨hkeys ▸ h.nodup, hkeys ▸ h.normal, fun m item hm => ?_, fun m item hm => ?_, fun m hF => hkeys ▸ h.failed m hF⟩
  · rw [Dict.lookup_map_val, Option.map_eq_some_iff] at hm
    obtain ⟨item', hitem, rfl⟩ := hm
    rw [(hf item').mac]
    exact h.named m item' hitem
  · rw [Dict.lookup_map_val, Option.map_eq_some_iff] at hm
    obtain ⟨item', hitem, rfl⟩ := hm
    rw [(hf item').online]
    exact h.online m item' hitem

/-- The records of the merged items, in their order. -/
theorem macs_of_records {d : Dict String Obj} {F : String → Prop} (h : Merged F d) {records : List Obj}
    (hrecords : List.Forall₂ (fun e c => SameClient e.2 c) d records) :
    records.map macOf = Dict.keys d ∧
      ∀ m, OnlineIn records m ↔ m ∈ Dict.keys d ∧ ¬ F m := by
  have hitem : ∀ e ∈ d, Dict.lookup e.1 d = some e.2 := fun e he => Dict.lookup_of_mem h.nodup he
  have hmac : ∀ e ∈ d, ∀ c, SameClient e.2 c → macOf c = e.1 := by
    intro e he c hc
    exact macOf_of_lookup (hc.mac.trans (h.named e.1 e.2 (hitem e he)))
  have honline : ∀ e ∈ d, ∀ c, SameClient e.2 c → (isOnline c = true ↔ ¬ F e.1) := by
    intro e he c hc
    obtain ⟨b, hb, hiff⟩ := h.online e.1 e.2 (hitem e he)
    rw [isOnline_of_lookup (hc.online.trans hb), hiff]
  clear hitem
  have hrows : List.Forall₂ (fun (e : String × Obj) c => macOf c = e.1 ∧ (isOnline c = true ↔ ¬ F e.1)) d records := by
    clear h
    induction hrecords with
    | nil => exact .nil
    | @cons e c d records hec _ ih =>
      refine .cons ⟨hmac e List.mem_cons_self c hec, honline e List.mem_cons_self c hec⟩ (ih ?_ ?_)
      · exact fun e he => hmac e (List.mem_cons_of_mem _ he)
      · exact fun e he => honline e (List.mem_cons_of_mem _ he)
  clear hrecords hmac honline h
  induction hrows with
  | nil => exact ⟨rfl, fun m => iff_of_false (by simp [OnlineIn]) fun h => nomatch h.1⟩
  | @cons e c d records hec _ ih =>
    refine ⟨?_, fun m => ?_⟩
    · rw [List.map_cons, ih.1, hec.1]
      rfl
    · have htail := ih.2 m
      rw [OnlineIn] at htail ⊢
      have hcons : m ∈ Dict.keys (e :: d) ↔ m = e.1 ∨ m ∈ Dict.keys d := List.mem_cons
      rw [List.exists_mem_cons_iff, htail, hcons, hec.1, hec.2]
      constructor
      · rintro (⟨rfl, hF⟩ | ⟨hmem, hF⟩)
        · exact ⟨.inl rfl, hF⟩
        · exact ⟨.inr hmem, hF⟩
      · rintro ⟨rfl | hmem, hF⟩
        · exact .inl ⟨rfl, hF⟩
        · exact .inr ⟨hmem, hF⟩

theorem nodup_gone {live merged : Dict String Obj} (h : (Dict.keys live).Nodup) :
    (Dict.keys (gone live merged)).Nodup :=
  Dict.nodup_keys_filter _ h

/-- The `offline` rows of a poll are those of the clients that are gone. -/
theorem offlineRows_eq {live merged : Dict String Obj} (hlive : (Dict.keys live).Nodup) {writes : List Write}
    (hwrites : ∀ w ∈ writes, w.event = "first-seen") (m : String) :
    offlineRows m (writes ++ (gone live merged).map fun e => ⟨e.1, "offline", .str ""⟩) =
      if m ∈ Dict.keys live ∧ m ∉ Dict.keys merged then 1 else 0 := by
  have hfirst : offlineRows m writes = 0 := by
    rw [offlineRows, List.countP_eq_zero]
    intro w hw
    rw [hwrites w hw]
    simp
  have hgone : m ∈ Dict.keys (gone live merged) ↔ m ∈ Dict.keys live ∧ m ∉ Dict.keys merged := by
    rw [Dict.keys, List.mem_map]
    constructor
    · rintro ⟨e, he, rfl⟩
      obtain ⟨hlookup, hnot⟩ := (lookup_gone hlive).mp he
      exact ⟨List.mem_map_of_mem (Dict.mem_of_lookup hlookup), hnot⟩
    · rintro ⟨hmem, hnot⟩
      obtain ⟨e, he, rfl⟩ := List.mem_map.mp hmem
      exact ⟨e, (lookup_gone hlive).mpr ⟨Dict.lookup_of_mem hlive he, hnot⟩, rfl⟩
  have hcount : (gone live merged).countP (fun e => decide (e.1 = m)) = (Dict.keys (gone live merged)).count m := by
    rw [Dict.keys, List.count, List.countP_map]
    exact List.countP_congr fun e _ => by simp
  have hlater : offlineRows m ((gone live merged).map fun e => ⟨e.1, "offline", .str ""⟩) =
      (gone live merged).countP fun e => decide (e.1 = m) := by
    rw [offlineRows, List.countP_map]
    exact List.countP_congr fun e _ => by simp
  rw [offlineRows, List.countP_append, ← offlineRows, ← offlineRows, hfirst, hlater, hcount,
    List.Nodup.count (nodup_gone hlive), zero_add]
  simp only [hgone]

/-- The records of the clients that are gone: their addresses, and none of them online. -/
theorem records_gone {live : Dict String Obj} (h : Live live) (merged : Dict String Obj) :
    ((gone live merged).map fun e => Dict.set "online" (.bool false) e.2).map macOf = Dict.keys (gone live merged) ∧
      ∀ c ∈ (gone live merged).map fun e => Dict.set "online" (.bool false) e.2, isOnline c = false := by
  constructor
  · rw [List.map_map, Dict.keys]
    refine List.map_congr_left fun e he => ?_
    show macOf (Dict.set "online" (.bool false) e.2) = e.1
    rw [macOf_set_online]
    exact h.named e.1 e.2 ((lookup_gone h.nodup).mp he).1
  · intro c hc
    obtain ⟨e, -, rfl⟩ := List.mem_map.mp hc
    exact isOnline_of_lookup (Dict.lookup_set_self _ _ _)

theorem answer_of_poll (hlive : Live st.db.live) {r : Report} {st' : PollState}
    (h : poll vendor s st = (.ok r, st')) : Answer s st r st' := by
  rw [poll] at h
  cases hindex : subnetIndex s.cfg with
  | error e =>
    rw [hindex] at h
    cases h
  | ok index =>
    rw [hindex] at h
    obtain ⟨hr, rfl⟩ := Prod.mk.inj h
    obtain rfl := Except.ok.inj hr
    have hmerged := (merged_mergeSources s).map (sameClient_resolveNetwork index)
    have hkeys : Dict.keys ((mergeSources s).map fun e => (e.1, resolveNetwork index e.2)) = Dict.keys (mergeSources s) := by
      rw [Dict.keys, List.map_map]
      rfl
    have hseen : ∀ m, Seen s m ↔ m ∈ Dict.keys ((mergeSources s).map fun e => (e.1, resolveNetwork index e.2)) := by
      intro m
      rw [hkeys]
      exact Iff.rfl
    clear hkeys
    generalize ((mergeSources s).map fun e => (e.1, resolveNetwork index e.2)) = merged at hmerged hseen ⊢
    have hwrites := visitAll_writes vendor s merged st
    obtain ⟨hmacs, honline⟩ := macs_of_records hmerged (visitAll_records vendor s merged st)
    obtain ⟨hgone, hoff⟩ := records_gone hlive merged
    generalize visitAll vendor s merged st = r at hwrites hmacs honline ⊢
    generalize hleft : ((gone st.db.live merged).map fun e => Dict.set "online" (.bool false) e.2) = left at hgone hoff ⊢
    have hout : ∀ m, OnlineIn (r.1 ++ left) m ↔ Seen s m ∧ ¬ Failed s m := by
      intro m
      rw [hseen, ← honline]
      constructor
      · rintro ⟨c, hc, hcm, hcon⟩
        rcases List.mem_append.mp hc with hc | hc
        · exact ⟨c, hc, hcm, hcon⟩
        · rw [hoff c hc] at hcon
          cases hcon
      · rintro ⟨c, hc, hcm⟩
        exact ⟨c, List.mem_append_left _ hc, hcm⟩
    have hnames : (r.1 ++ left).map macOf = Dict.keys merged ++ Dict.keys (gone st.db.live merged) := by
      rw [List.map_append, hmacs, hgone]
    have hleftkeys : ∀ m ∈ Dict.keys (gone st.db.live merged), m ∈ Dict.keys st.db.live ∧ m ∉ Dict.keys merged := by
      intro m hm
      obtain ⟨e, he, rfl⟩ := List.mem_map.mp hm
      obtain ⟨hlookup, hnot⟩ := (lookup_gone hlive.nodup).mp he
      exact ⟨List.mem_map_of_mem (Dict.mem_of_lookup hlookup), hnot⟩
    have hnodup : ((r.1 ++ left).map macOf).Nodup := by
      rw [hnames, List.nodup_append']
      exact ⟨hmerged.nodup, nodup_gone hlive.nodup, fun m hm hm' => (hleftkeys m hm').2 hm⟩
    have hnormal : ∀ c ∈ r.1 ++ left, ∃ raw, macOf c = normaliseMac raw := by
      intro c hc
      have hmem : macOf c ∈ Dict.keys merged ++ Dict.keys (gone st.db.live merged) := by
        rw [← hnames]
        exact List.mem_map_of_mem hc
      rcases List.mem_append.mp hmem with hm | hm
      · exact hmerged.normal _ hm
      · exact hlive.normal _ (hleftkeys _ hm).1
    have hsort : ((r.1 ++ left).insertionSort fun a b => reportOrder a b = true).Perm (r.1 ++ left) :=
      List.perm_insertionSort _ _
    have hsorted : ∀ m, OnlineIn ((r.1 ++ left).insertionSort fun a b => reportOrder a b = true) m ↔
        OnlineIn (r.1 ++ left) m := fun m => exists_congr fun c => and_congr_left fun _ => hsort.mem_iff
    refine ⟨⟨(hsort.map macOf).nodup_iff.mpr hnodup, fun c hc => hnormal c (hsort.mem_iff.mp hc)⟩,
      fun m => (hsorted m).trans (hout m), fun m => ?_, ?_⟩
    · rw [offlineRows_eq hlive.nodup hwrites]
      simp only [hseen]
    · have hempty : Live ([] : Dict String Obj) := ⟨List.nodup_nil, by simp [Dict.keys], by simp⟩
      obtain ⟨hnext, hmem⟩ := live_foldl ((r.1 ++ left).filter isOnline) hempty
        fun c hc => hnormal c (List.mem_of_mem_filter hc)
      refine ⟨hnext, fun m => (hmem m).trans ?_⟩
      rw [hsorted, OnlineIn]
      simp only [Dict.keys, List.map_nil, List.not_mem_nil, false_or, List.mem_filter]
      exact exists_congr fun c => ⟨fun h => ⟨h.1.1, h.2, h.1.2⟩, fun h => ⟨⟨h.1, h.2.2⟩, h.2.1⟩⟩

/-- **A poll reports the transitions just when the failed neighbours were not online, and are no stations.** -/
theorem transition_iff {prev : List Obj} {r : Report} {st' : PollState} (h : Answer s st r st')
    (hprev : ∀ m, m ∈ Dict.keys st.db.live ↔ OnlineIn prev m) : Transition prev s r ↔ Answering prev s := by
  constructor
  · intro htransition m hfailed
    have hoffline : ¬ OnlineIn r.records m := fun hon => ((h.online m).mp hon).2 hfailed
    constructor
    · intro hon
      have hrows := htransition.offline m
      rw [h.offline, if_neg fun hnot => hnot.2 hfailed.seen, if_pos ⟨hon, hoffline⟩] at hrows
      cases hrows
    · rintro client hclient rfl
      exact hoffline (htransition.wireless client hclient)
  · intro hanswering
    refine ⟨h.once, fun client hclient => ?_, fun m => ?_⟩
    · refine (h.online _).mpr ⟨seen_wireless hclient, fun hfailed => ?_⟩
      exact (hanswering _ hfailed).2 client hclient rfl
    · rw [h.offline]
      by_cases hon : OnlineIn prev m
      · have hanswers : ¬ Failed s m := fun hfailed => (hanswering m hfailed).1 hon
        have hiff : ¬ Seen s m ↔ ¬ OnlineIn r.records m := by
          rw [h.online]
          exact not_congr (and_iff_left hanswers).symm
        simp only [hprev, hiff]
      · rw [if_neg fun h => hon ((hprev m).mp h.1), if_neg fun h => hon h.1]

/-! ### Sequences of polls -/

/-- The database, and what the last poll that answered has reported. -/
structure Session where
  st : PollState
  last : List Obj

def Session.poll (vendor : String → Option String) (q : Session) (s : Sources) : Session :=
  match Clientd.poll vendor s q.st with
  | (.ok r, st) => ⟨st, r.records⟩
  | (.error _, st) => ⟨st, q.last⟩

/-- `ClientDatabase(db_path)` over the tables of the database. -/
def Session.start (rows : Dict String Obj) (history : List HistoryRow) (lastHistory : ℕ) : Session :=
  ⟨⟨⟨rows, history, lastHistory, []⟩, []⟩, []⟩

/-- The polls one after the other. -/
def Session.after (vendor : String → Option String) (q : Session) (polls : List Sources) : Session :=
  polls.foldl (Session.poll vendor) q

/-- What is remembered is what was reported online. -/
structure Remembers (q : Session) : Prop where
  live : Live q.st.db.live
  online : ∀ m, m ∈ Dict.keys q.st.db.live ↔ OnlineIn q.last m

theorem Remembers.poll {q : Session} (h : Remembers q) (s : Sources) : Remembers (q.poll vendor s) := by
  rw [Session.poll]
  split
  · rename_i r st heq
    have hanswer := answer_of_poll h.live heq
    exact ⟨hanswer.live.1, hanswer.live.2⟩
  · rename_i e st heq
    have hst : q.st = st := by
      rw [Clientd.poll] at heq
      split at heq
      · exact (Prod.mk.inj heq).2
      · cases (Prod.mk.inj heq).1
    exact hst ▸ ⟨h.live, h.online⟩

theorem remembers_after (vendor : String → Option String) {q : Session} (h : Remembers q) (polls : List Sources) :
    Remembers (q.after vendor polls) := by
  induction polls generalizing q with
  | nil => exact h
  | cons s polls ih => exact ih (h.poll s)

theorem remembers_start (rows : Dict String Obj) (history : List HistoryRow) (lastHistory : ℕ) :
    Remembers (Session.start rows history lastHistory) :=
  ⟨⟨List.nodup_nil, by simp [Session.start, Dict.keys], by simp [Session.start]⟩, by simp [Session.start, OnlineIn, Dict.keys]⟩

theorem presence_at (before : List Sources) {rows : Dict String Obj} {history : List HistoryRow} {lastHistory : ℕ}
    {r : Report} {st : PollState}
    (h : poll vendor s ((Session.start rows history lastHistory).after vendor before).st = (.ok r, st)) :
    Transition ((Session.start rows history lastHistory).after vendor before).last s r ↔
      Answering ((Session.start rows history lastHistory).after vendor before).last s := by
  have hremembers := remembers_after vendor (remembers_start rows history lastHistory) before
  exact transition_iff (answer_of_poll hremembers.live h) hremembers.online

/-- **Presence over polls**: all of them report their transitions just when the neighbour tables of all of them
meet the condition. -/
theorem presence_iff (vendor : String → Option String) (rows : Dict String Obj) (history : List HistoryRow)
    (lastHistory : ℕ) (polls : List Sources) :
    (∀ before s later r st, polls = before ++ s :: later →
        poll vendor s ((Session.start rows history lastHistory).after vendor before).st = (.ok r, st) →
        Transition ((Session.start rows history lastHistory).after vendor before).last s r) ↔
      ∀ before s later r st, polls = before ++ s :: later →
        poll vendor s ((Session.start rows history lastHistory).after vendor before).st = (.ok r, st) →
        Answering ((Session.start rows history lastHistory).after vendor before).last s := by
  constructor
  · exact fun h before s later r st hpolls hpoll => (presence_at before hpoll).mp (h before s later r st hpolls hpoll)
  · exact fun h before s later r st hpolls hpoll => (presence_at before hpoll).mpr (h before s later r st hpolls hpoll)

/-- A poll that finds one station, and its address in the neighbour table with the states. -/
def oneStation (state : List String) : Sources where
  cfg := []
  leases := []
  neighbours4 := [⟨some "AA-BB-CC-00-11-22", "10.0.0.7", state⟩]
  neighbours6 := []
  fdb := []
  wireless := [[("mac", .str "aa:bb:cc:00:11:22")]]
  now := 0
  monotonic := 0

theorem failed_oneStation : Failed (oneStation ["FAILED"]) "aa:bb:cc:00:11:22" :=
  ⟨⟨some "AA-BB-CC-00-11-22", "10.0.0.7", ["FAILED"]⟩, List.mem_cons_self, by decide, "AA-BB-CC-00-11-22", rfl, by decide⟩

/-- An associated station whose neighbour entry fails is reported offline, and no row says so. -/
theorem station_offline : ¬ ∀ before s later r st, [oneStation ["REACHABLE"], oneStation ["FAILED"]] = before ++ s :: later →
    poll (fun _ => none) s ((Session.start [] [] 0).after (fun _ => none) before).st = (.ok r, st) →
    Transition ((Session.start [] [] 0).after (fun _ => none) before).last s r := by
  intro h
  have htransition := h [oneStation ["REACHABLE"]] (oneStation ["FAILED"]) [] _ _ rfl rfl
  have hanswering := (presence_at [oneStation ["REACHABLE"]] rfl).mp htransition
  exact (hanswering _ failed_oneStation).2 _ List.mem_cons_self rfl

end Sbegw.Clientd
