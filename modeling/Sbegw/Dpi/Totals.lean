import Sbegw.Dpi.Flows
import Mathlib.Data.List.Dedup

/-!
# Totals

What `summary` adds up over applications, categories and clients, against the flows that `ingest` has
accepted.  The three always agree, since they add up the same rows; the rows are the 500 pairs of a client
and a protocol with the most bytes.
-/

namespace Sbegw.Dpi

open Text

/-! ### The database -/

/-- `PRIMARY KEY(bucket, client, protocol)` -/
abbrev BucketKey := ℤ × String × String

/-- A row of `dpi_buckets`. -/
structure Bucket where
  clientIp : String
  category : ℕ
  application : ℕ
  display : String
  rxBytes : ℕ
  txBytes : ℕ
  rxPackets : ℕ
  txPackets : ℕ
  firstSeen : ℚ
  lastSeen : ℚ

/-- What `ingest` keeps. -/
structure Store where
  /-- `_flow_apps`, oldest first -/
  flowApps : Dict String Service
  table : Dict BucketKey Bucket
  flowsAccepted : ℕ

def Store.init : Store := ⟨[], [], 0⟩

def Flow.key (f : Flow) : BucketKey := (⌊f.timestamp / 3600⌋ * 3600, f.client, f.service.protocol)

/-- `ON CONFLICT … DO UPDATE`: the classification stays that of the bucket's first flow. -/
def Flow.upsert (f : Flow) : Option Bucket → Bucket
  | none => ⟨f.clientIp, f.service.category, f.service.application, f.service.display, f.rxBytes, f.txBytes,
      f.rxPackets, f.txPackets, f.timestamp, f.timestamp⟩
  | some b => { b with
      clientIp := f.clientIp
      rxBytes := b.rxBytes + f.rxBytes
      txBytes := b.txBytes + f.txBytes
      rxPackets := b.rxPackets + f.rxPackets
      txPackets := b.txPackets + f.txPackets
      lastSeen := f.timestamp }

/-- A flow's service is remembered as the newest; the oldest ones go. -/
def remember (flow : String) (s : Service) (apps : Dict String Service) : Dict String Service :=
  let apps := Dict.erase flow apps ++ [(flow, s)]
  apps.drop (apps.length - 32768)

/-- A TLS, HTTP or DNS event. -/
def Store.classify (event : Obj) (kind : String) (s : Store) : Store × Except Exn (Option Flow) :=
  match hostnameOf event kind >>= service with
  | .error e => (s, .error e)
  | .ok none => (s, .ok none)
  | .ok (some found) =>
    (if flowId event = "" then s else { s with flowApps := remember (flowId event) found s.flowApps }, .ok none)

/-- `self._flow_apps.pop(flow_id, None) if flow_id else None` -/
def Store.known (event : Obj) (s : Store) : Option Service :=
  if flowId event = "" then none else Dict.lookup (flowId event) s.flowApps

/-- A finished flow with a local end. -/
def Store.account (event : Obj) (identity : String → String) (now : ℚ) (ends : Ip.Addr × Bool) (s : Store) :
    Store × Except Exn (Option Flow) :=
  match carriedOf event with
  | .error e => (s, .error e)
  | .ok carried =>
    let f := flowOf event (s.known event) identity now ends carried
    let s := { s with flowApps := if flowId event = "" then s.flowApps else Dict.erase (flowId event) s.flowApps }
    if f.binds then
      ({ s with table := Dict.bump f.key f.upsert s.table, flowsAccepted := s.flowsAccepted + 1 }, .ok (some f))
    else (s, .error (.other "Python int too large to convert to SQLite INTEGER"))

/-- `ingest`: a flow that is accepted is returned for `True`, and nothing for `False`. -/
def Store.ingest (cfg : Obj) (identity : String → String) (event : Obj) (now : ℚ) (s : Store) :
    Store × Except Exn (Option Flow) :=
  let kind := Nft.ruleGet event "event_type" .null
  if kind = .str "tls" then s.classify event "tls"
  else if kind = .str "http" then s.classify event "http"
  else if kind = .str "dns" then s.classify event "dns"
  else if kind = .str "flow" then
    match endsOf cfg event with
    | none => (s, .ok none)
    | some ends => s.account event identity now ends
  else (s, .ok none)

/-- `prune` -/
def Store.prune (retentionHours : ℤ) (now : ℚ) (s : Store) : Store :=
  let cutoff := now - retentionHours * 3600
  { s with table := s.table.filter fun e => !decide (e.2.lastSeen < cutoff) }

/-! ### Rows -/

/-- A row of the grouped query. -/
structure Row where
  client : String
  clientIp : String
  protocol : String
  category : ℕ
  application : ℕ
  display : String
  rxBytes : ℕ
  txBytes : ℕ
  rxPackets : ℕ
  txPackets : ℕ
  firstSeen : ℚ
  lastSeen : ℚ

/-- `MAX` of two texts. -/
def maxText (a b : String) : String := if a < b then b else a

/-- `MAX`, `SUM` and `MIN` over the buckets of a group. -/
def aggregate (e : BucketKey × Bucket) : Option Row → Row
  | none => ⟨e.1.2.1, e.2.clientIp, e.1.2.2, e.2.category, e.2.application, e.2.display, e.2.rxBytes, e.2.txBytes,
      e.2.rxPackets, e.2.txPackets, e.2.firstSeen, e.2.lastSeen⟩
  | some r => { r with
      clientIp := maxText r.clientIp e.2.clientIp
      category := max r.category e.2.category
      application := max r.application e.2.application
      display := maxText r.display e.2.display
      rxBytes := r.rxBytes + e.2.rxBytes
      txBytes := r.txBytes + e.2.txBytes
      rxPackets := r.rxPackets + e.2.rxPackets
      txPackets := r.txPackets + e.2.txPackets
      firstSeen := min r.firstSeen e.2.firstSeen
      lastSeen := max r.lastSeen e.2.lastSeen }

/-- `GROUP BY client,protocol` -/
def groups (table : Dict BucketKey Bucket) : Dict (String × String) Row :=
  Dict.tally (fun e => e.1.2) aggregate table

/-- `ORDER BY SUM(rx_bytes)+SUM(tx_bytes) DESC` -/
def Row.before (a b : Row) : Prop := b.rxBytes + b.txBytes ≤ a.rxBytes + a.txBytes

instance : DecidableRel Row.before := fun _ _ => inferInstanceAs (Decidable (_ ≤ _))

/-- `rows(limit)` -/
def Store.rows (limit : ℕ) (s : Store) : List Row :=
  (((groups s.table).map Prod.snd).insertionSort Row.before).take (max 1 (min limit 5000))

/-! ### The summary -/

/-- `CATEGORY_NAMES` -/
def categoryNames : Dict ℕ String :=
  [(1, "Peer to peer"), (3, "File transfer"), (4, "Messaging"), (5, "Email"), (6, "Streaming"), (7, "Conferencing"),
    (8, "Gaming"), (9, "Network services"), (10, "Remote access"), (12, "Cloud"), (13, "Web"), (14, "IoT"),
    (18, "Social"), (20, "Encrypted"), (255, "Other")]

/-- `CATEGORY_NAMES.get(category, "Other")` -/
def categoryName (category : ℕ) : String := (Dict.lookup category categoryNames).getD "Other"

/-- An entry of a list of the summary: what it is about, and what it has added up. -/
structure Sum (α : Type) where
  about : α
  rxBytes : ℕ
  txBytes : ℕ

structure Application where
  protocol : String
  name : String
  category : ℕ
  categoryName : String

structure Category where
  category : ℕ
  name : String

structure Client where
  client : String
  clientIp : String

/-- `setdefault`, and `+=` on both sums. -/
def addRow {α : Type} (about : Row → α) (r : Row) : Option (Sum α) → Sum α
  | none => ⟨about r, r.rxBytes, r.txBytes⟩
  | some s => { s with rxBytes := s.rxBytes + r.rxBytes, txBytes := s.txBytes + r.txBytes }

/-- `ordered` -/
def ordered {α : Type} (sums : List (Sum α)) : List (Sum α) :=
  sums.insertionSort fun a b => b.rxBytes + b.txBytes ≤ a.rxBytes + a.txBytes

/-- The rows added up by a key. -/
def sumBy {κ α : Type} [DecidableEq κ] (key : Row → κ) (about : Row → α) (rows : List Row) : List (Sum α) :=
  ordered ((Dict.tally key (addRow about) rows).map Prod.snd)

structure Summary where
  applications : List (Sum Application)
  categories : List (Sum Category)
  clients : List (Sum Client)
  /-- `flow_count` -/
  flowCount : ℕ
  flowsAccepted : ℕ

/-- `summary`, what it adds up. -/
def Store.summary (s : Store) : Summary :=
  let rows := s.rows 500
  { applications := sumBy Row.protocol (fun r => ⟨r.protocol, r.display, r.category, categoryName r.category⟩) rows
    categories := sumBy Row.category (fun r => ⟨r.category, categoryName r.category⟩) rows
    clients := sumBy Row.client (fun r => ⟨r.client, r.clientIp⟩) rows
    flowCount := rows.length
    flowsAccepted := s.flowsAccepted }

/-! ### Runs -/

/-- A step of the engine: an event with the configuration, the clients and the time it meets, or a pruning. -/
inductive DpiStep where
  | event (cfg : Obj) (identity : String → String) (event : Obj) (now : ℚ)
  | prune (retentionHours : ℤ) (now : ℚ)

/-- The store, and the flows accepted so far. -/
structure Ledger where
  store : Store
  accepted : List Flow

def Ledger.init : Ledger := ⟨.init, []⟩

def Ledger.step (l : Ledger) : DpiStep → Ledger
  | .event cfg identity event now =>
    match l.store.ingest cfg identity event now with
    | (s, .ok (some f)) => ⟨s, l.accepted ++ [f]⟩
    | (s, _) => ⟨s, l.accepted⟩
  | .prune retentionHours now => ⟨l.store.prune retentionHours now, l.accepted⟩

def Ledger.run (steps : List DpiStep) : Ledger := steps.foldl Ledger.step .init

/-- Every flow accepted so far is within the retention window of a pruning. -/
def Ledger.Keeps (l : Ledger) : DpiStep → Prop
  | .event .. => True
  | .prune retentionHours now => ∀ f ∈ l.accepted, now - retentionHours * 3600 ≤ f.timestamp

/-- The whole run is within the retention window. -/
def InWindow (steps : List DpiStep) : Prop :=
  ∀ before step after, steps = before ++ step :: after → (Ledger.run before).Keeps step

/-- **Totals are conserved**: the sums over applications, categories and clients are equal to each other and
to those of the accepted flows. -/
structure Conserved (l : Ledger) : Prop where
  categoriesRx : (l.store.summary.categories.map Sum.rxBytes).sum = (l.store.summary.applications.map Sum.rxBytes).sum
  categoriesTx : (l.store.summary.categories.map Sum.txBytes).sum = (l.store.summary.applications.map Sum.txBytes).sum
  clientsRx : (l.store.summary.clients.map Sum.rxBytes).sum = (l.store.summary.applications.map Sum.rxBytes).sum
  clientsTx : (l.store.summary.clients.map Sum.txBytes).sum = (l.store.summary.applications.map Sum.txBytes).sum
  acceptedRx : (l.store.summary.applications.map Sum.rxBytes).sum = (l.accepted.map Flow.rxBytes).sum
  acceptedTx : (l.store.summary.applications.map Sum.txBytes).sum = (l.accepted.map Flow.txBytes).sum

/-- `(client, protocol)` -/
def Flow.pair (f : Flow) : String × String := (f.client, f.service.protocol)

/-- The pairs of a client and a protocol that have moved bytes. -/
def movedPairs (accepted : List Flow) : List (String × String) :=
  ((accepted.filter fun f => f.rxBytes + f.txBytes ≠ 0).map Flow.pair).dedup

/-! ### What is measured -/

/-- An amount of a flow that is added up in the table and in the rows. -/
structure Gauge where
  flow : Flow → ℕ
  bucket : Bucket → ℕ
  row : Row → ℕ
  upsertNew : ∀ f, bucket (f.upsert none) = flow f
  upsertOld : ∀ f b, bucket (f.upsert (some b)) = bucket b + flow f
  aggregateNew : ∀ e, row (aggregate e none) = bucket e.2
  aggregateOld : ∀ e r, row (aggregate e (some r)) = row r + bucket e.2

def rxGauge : Gauge :=
  ⟨Flow.rxBytes, Bucket.rxBytes, Row.rxBytes, fun _ => rfl, fun _ _ => rfl, fun _ => rfl, fun _ _ => rfl⟩

def txGauge : Gauge :=
  ⟨Flow.txBytes, Bucket.txBytes, Row.txBytes, fun _ => rfl, fun _ _ => rfl, fun _ => rfl, fun _ _ => rfl⟩

/-- Both directions. -/
def bytesGauge : Gauge where
  flow f := f.rxBytes + f.txBytes
  bucket b := b.rxBytes + b.txBytes
  row r := r.rxBytes + r.txBytes
  upsertNew _ := rfl
  upsertOld _ _ := Nat.add_add_add_comm _ _ _ _
  aggregateNew _ := rfl
  aggregateOld _ _ := Nat.add_add_add_comm _ _ _ _

/-! ### The books -/

/-- The table holds what the accepted flows carried, pair by pair, and nothing that was seen at another time. -/
structure Booked (l : Ledger) : Prop where
  sums : ∀ (g : Gauge) (p : String × String → Bool),
    Dict.total (fun e => if p e.1.2 then g.bucket e.2 else 0) l.store.table =
      (l.accepted.map fun f => if p f.pair then g.flow f else 0).sum
  seen : ∀ e ∈ l.store.table, ∃ f ∈ l.accepted, f.timestamp = e.2.lastSeen

/-- What an event does to the table. -/
theorem ingest_table (cfg : Obj) (identity : String → String) (event : Obj) (now : ℚ) (s : Store) :
    (∃ f, (s.ingest cfg identity event now).2 = .ok (some f) ∧
      (s.ingest cfg identity event now).1.table = Dict.bump f.key f.upsert s.table) ∨
    (∀ f, (s.ingest cfg identity event now).2 ≠ .ok (some f)) ∧
      (s.ingest cfg identity event now).1.table = s.table := by
  have hclassify : ∀ kind, (∀ f, (s.classify event kind).2 ≠ .ok (some f)) ∧
      (s.classify event kind).1.table = s.table := by
    intro kind
    unfold Store.classify
    split
    · exact ⟨fun f h => absurd h (by simp), rfl⟩
    · exact ⟨fun f h => absurd h (by simp), rfl⟩
    · refine ⟨fun f h => absurd h (by simp), ?_⟩
      dsimp only
      split
      · rfl
      · rfl
  unfold Store.ingest
  dsimp only
  split
  · exact .inr (hclassify _)
  · split
    · exact .inr (hclassify _)
    · split
      · exact .inr (hclassify _)
      · split
        · split
          · exact .inr ⟨fun f h => absurd h (by simp), rfl⟩
          · unfold Store.account
            split
            · exact .inr ⟨fun f h => absurd h (by simp), rfl⟩
            · dsimp only
              split
              · exact .inl ⟨_, rfl, rfl⟩
              · exact .inr ⟨fun f h => absurd h (by simp), rfl⟩
        · exact .inr ⟨fun f h => absurd h (by simp), rfl⟩

theorem booked_init : Booked .init := ⟨fun _ _ => rfl, fun _ he => absurd he List.not_mem_nil⟩

/-- An accepted flow is booked under its pair. -/
theorem Booked.accept {l : Ledger} (h : Booked l) {s : Store} {f : Flow}
    (htable : s.table = Dict.bump f.key f.upsert l.store.table) : Booked ⟨s, l.accepted ++ [f]⟩ := by
  refine ⟨?_, ?_⟩
  · intro g p
    have hkey : f.key.2 = f.pair := rfl
    show Dict.total _ s.table = _
    rw [htable, Dict.total_bump (x := if p f.pair then g.flow f else 0), h.sums g p, List.map_append, List.sum_append]
    · simp
    · simp only [hkey, g.upsertNew]
    · intro b
      simp only [hkey, g.upsertOld]
      split_ifs <;> rfl
  · intro e he
    have he : e ∈ Dict.bump f.key f.upsert l.store.table := htable ▸ he
    rcases Dict.mem_set he with rfl | he
    · refine ⟨f, by simp, ?_⟩
      cases Dict.lookup f.key l.store.table with
      | none => rfl
      | some b => rfl
    · obtain ⟨f', hf', hseen⟩ := h.seen e he
      exact ⟨f', List.mem_append_left _ hf', hseen⟩

/-- **A step within the window** keeps the books. -/
theorem booked_step {l : Ledger} (h : Booked l) {step : DpiStep} (hkeeps : l.Keeps step) : Booked (l.step step) := by
  cases step with
  | event cfg identity event now =>
    unfold Ledger.step
    dsimp only
    rcases ingest_table cfg identity event now l.store with ⟨f, hf, htable⟩ | ⟨hnone, htable⟩
    · generalize l.store.ingest cfg identity event now = answer at hf htable ⊢
      obtain ⟨s, out⟩ := answer
      dsimp only at hf htable
      rw [hf]
      exact h.accept htable
    · generalize l.store.ingest cfg identity event now = answer at hnone htable ⊢
      obtain ⟨s, out⟩ := answer
      have hsame : Booked ⟨s, l.accepted⟩ := by
        refine ⟨fun g p => ?_, fun e he => ?_⟩
        · rw [← h.sums g p]
          exact congrArg _ htable
        · exact h.seen e (htable ▸ he)
      rcases out with _ | _ | f
      · exact hsame
      · exact hsame
      · exact absurd rfl (hnone f)
  | prune retentionHours now =>
    have hall : (l.store.prune retentionHours now).table = l.store.table := by
      unfold Store.prune
      rw [List.filter_eq_self]
      intro e he
      obtain ⟨f, hf, hseen⟩ := h.seen e he
      have hkept := hkeeps f hf
      rw [hseen] at hkept
      simpa using hkept
    show Booked ⟨l.store.prune retentionHours now, l.accepted⟩
    refine ⟨fun g p => ?_, fun e he => ?_⟩
    · rw [← h.sums g p]
      exact congrArg _ hall
    · exact h.seen e (hall ▸ he)

/-- A run within the window keeps the books. -/
theorem booked_run {steps : List DpiStep} (h : InWindow steps) : Booked (Ledger.run steps) := by
  induction steps using List.reverseRecOn with
  | nil => exact booked_init
  | append_singleton steps step ih =>
    have hrun : Ledger.run (steps ++ [step]) = (Ledger.run steps).step step := by
      unfold Ledger.run
      rw [List.foldl_append]
      rfl
    rw [hrun]
    refine booked_step (ih ?_) (h steps step [] rfl)
    intro before step' after heq
    exact h before step' (after ++ [step]) (by rw [heq]; simp)

/-! ### Groups, rows and sums -/

/-- Grouping keeps what the buckets of each pair hold. -/
theorem total_groups (g : Gauge) (p : String × String → Bool) (table : Dict BucketKey Bucket) :
    Dict.total (fun e => if p e.1 then g.row e.2 else 0) (groups table) =
      Dict.total (fun e => if p e.1.2 then g.bucket e.2 else 0) table := by
  refine Dict.total_tally (fun e => ?_) (fun e r => ?_) table
  · simp only [g.aggregateNew]
  · simp only [g.aggregateOld]
    split_ifs <;> rfl

/-- Adding rows up by a key keeps their sum. -/
theorem sum_sumBy {κ α : Type} [DecidableEq κ] {key : Row → κ} {about : Row → α} {m : Sum α → ℕ} {w : Row → ℕ}
    (hnew : ∀ r, m (addRow about r none) = w r) (hold : ∀ r s, m (addRow about r (some s)) = m s + w r)
    (rows : List Row) : ((sumBy key about rows).map m).sum = (rows.map w).sum := by
  have htally : Dict.total (fun e : κ × Sum α => m e.2) (Dict.tally key (addRow about) rows) = (rows.map w).sum :=
    Dict.total_tally hnew hold rows
  unfold sumBy ordered
  rw [((List.perm_insertionSort _ _).map m).sum_eq, List.map_map]
  exact htally

/-- The groups that have moved bytes are the pairs that have. -/
theorem moved_groups {l : Ledger} (h : Booked l) :
    (((groups l.store.table).map Prod.snd).filter fun r => r.rxBytes + r.txBytes ≠ 0).length =
      (movedPairs l.accepted).length := by
  have hnodup : (Dict.keys (groups l.store.table)).Nodup := Dict.nodup_keys_tally _ _ _
  have hpair : ∀ k, Dict.total (fun e => if e.1 = k then e.2.rxBytes + e.2.txBytes else 0) (groups l.store.table) =
      (l.accepted.map fun f => if f.pair = k then f.rxBytes + f.txBytes else 0).sum := by
    intro k
    have hgroups := total_groups bytesGauge (fun q => q = k) l.store.table
    have hbooks := h.sums bytesGauge (fun q => q = k)
    simp only [decide_eq_true_eq] at hgroups hbooks
    exact hgroups.trans hbooks
  have hmoved : ∀ k, k ∈ movedPairs l.accepted ↔
      (l.accepted.map fun f => if f.pair = k then f.rxBytes + f.txBytes else 0).sum ≠ 0 := by
    intro k
    rw [ne_eq, List.sum_eq_zero_iff_forall_eq_nat]
    unfold movedPairs
    simp only [List.mem_dedup, List.mem_map, List.mem_filter, decide_eq_true_eq, forall_exists_index, and_imp,
      forall_apply_eq_imp_iff₂, not_forall]
    constructor
    · rintro ⟨f, ⟨hf, hbytes⟩, hk⟩
      exact ⟨f, hf, by rw [if_pos hk]; exact hbytes⟩
    · rintro ⟨f, hf, hne⟩
      by_cases hk : f.pair = k
      · rw [if_pos hk] at hne
        exact ⟨f, ⟨hf, hne⟩, hk⟩
      · exact absurd (if_neg hk) hne
  have hpairs : (movedPairs l.accepted).Nodup := List.nodup_dedup _
  rw [List.filter_map, List.length_map, ← List.length_map (f := Prod.fst)]
  refine List.Perm.length_eq ((List.perm_ext_iff_of_nodup ?_ hpairs).mpr ?_)
  · exact hnodup.sublist (List.filter_sublist.map Prod.fst)
  · intro k
    rw [hmoved, ← hpair]
    simp only [List.mem_map, List.mem_filter, Function.comp_apply, decide_eq_true_eq, Prod.exists, exists_and_right,
      exists_eq_right]
    constructor
    · rintro ⟨r, hr, hbytes⟩
      rw [Dict.total_key (m := fun r : Row => r.rxBytes + r.txBytes) hnodup hr]
      exact hbytes
    · intro hne
      by_contra hnone
      push Not at hnone
      refine hne ?_
      unfold Dict.total
      rw [List.sum_eq_zero_iff_forall_eq_nat]
      intro n hn
      obtain ⟨⟨k', r⟩, hr, rfl⟩ := List.mem_map.mp hn
      by_cases hk : k' = k
      · rw [if_pos hk]
        exact hnone r (hk ▸ hr)
      · exact if_neg hk

instance : Std.Total Row.before := ⟨fun _ _ => Nat.le_total _ _⟩

instance : IsTrans Row Row.before := ⟨fun _ _ _ hab hbc => Nat.le_trans hbc hab⟩

/-- The rows hold all that was accepted when at most 500 pairs have moved bytes. -/
theorem rows_sums_iff {l : Ledger} (h : Booked l) :
    ((l.store.rows 500).map Row.rxBytes).sum = (l.accepted.map Flow.rxBytes).sum ∧
      ((l.store.rows 500).map Row.txBytes).sum = (l.accepted.map Flow.txBytes).sum ↔
    (movedPairs l.accepted).length ≤ 500 := by
  have hperm := List.perm_insertionSort Row.before ((groups l.store.table).map Prod.snd)
  have hall : ∀ g : Gauge, (l.accepted.map g.flow).sum =
      ((((groups l.store.table).map Prod.snd).insertionSort Row.before).map g.row).sum := by
    intro g
    have hgroups := total_groups g (fun _ => true) l.store.table
    have hbooks := h.sums g (fun _ => true)
    simp only [if_true] at hgroups hbooks
    rw [(hperm.map g.row).sum_eq, List.map_map]
    exact (hgroups.trans hbooks).symm
  have hrx : (l.accepted.map Flow.rxBytes).sum =
      ((((groups l.store.table).map Prod.snd).insertionSort Row.before).map Row.rxBytes).sum := hall rxGauge
  have htx : (l.accepted.map Flow.txBytes).sum =
      ((((groups l.store.table).map Prod.snd).insertionSort Row.before).map Row.txBytes).sum := hall txGauge
  have hfirst := take_sums_iff (u := Row.rxBytes) (v := Row.txBytes)
    (List.pairwise_insertionSort Row.before ((groups l.store.table).map Prod.snd)) 500
  rw [(hperm.filter _).length_eq, moved_groups h] at hfirst
  rw [hrx, htx]
  exact hfirst

/-! ### The result -/

theorem conserved_iff {l : Ledger} (h : Booked l) : Conserved l ↔ (movedPairs l.accepted).length ≤ 500 := by
  rw [← rows_sums_iff h]
  have happsRx : (l.store.summary.applications.map Sum.rxBytes).sum = ((l.store.rows 500).map Row.rxBytes).sum :=
    sum_sumBy (fun _ => rfl) (fun _ _ => rfl) _
  have happsTx : (l.store.summary.applications.map Sum.txBytes).sum = ((l.store.rows 500).map Row.txBytes).sum :=
    sum_sumBy (fun _ => rfl) (fun _ _ => rfl) _
  have hcatsRx : (l.store.summary.categories.map Sum.rxBytes).sum = ((l.store.rows 500).map Row.rxBytes).sum :=
    sum_sumBy (fun _ => rfl) (fun _ _ => rfl) _
  have hcatsTx : (l.store.summary.categories.map Sum.txBytes).sum = ((l.store.rows 500).map Row.txBytes).sum :=
    sum_sumBy (fun _ => rfl) (fun _ _ => rfl) _
  have hclientsRx : (l.store.summary.clients.map Sum.rxBytes).sum = ((l.store.rows 500).map Row.rxBytes).sum :=
    sum_sumBy (fun _ => rfl) (fun _ _ => rfl) _
  have hclientsTx : (l.store.summary.clients.map Sum.txBytes).sum = ((l.store.rows 500).map Row.txBytes).sum :=
    sum_sumBy (fun _ => rfl) (fun _ _ => rfl) _
  constructor
  · intro hc
    exact ⟨happsRx.symm.trans hc.acceptedRx, happsTx.symm.trans hc.acceptedTx⟩
  · rintro ⟨hrx, htx⟩
    exact ⟨hcatsRx.trans happsRx.symm, hcatsTx.trans happsTx.symm, hclientsRx.trans happsRx.symm,
      hclientsTx.trans happsTx.symm, happsRx.trans hrx, happsTx.trans htx⟩

/-- A flow of one client to the internet. -/
def flowEvent (proto : String) : Obj :=
  [("event_type", .str "flow"), ("src_ip", .str "192.168.2.44"), ("dest_ip", .str "203.0.113.8"),
    ("app_proto", .str proto), ("flow", .obj [("bytes_toserver", .int 1200), ("bytes_toclient", .int 8400),
      ("pkts_toserver", .int 8), ("pkts_toclient", .int 12)])]

/-- One such flow for every protocol, in the default configuration. -/
def flowSteps (protos : List String) : List DpiStep :=
  protos.map fun p => .event Schema.defaultEntries id (flowEvent p) 0

/-- What is accepted of it. -/
def sampleFlow (proto : String) : Flow :=
  flowOf (flowEvent proto) none id 0 (.v4 [192, 168, 2, 44], true) ⟨1200, 8400, 8, 12⟩

theorem ingest_sample (proto : String) (s : Store) :
    (s.ingest Schema.defaultEntries id (flowEvent proto) 0).2 = .ok (some (sampleFlow proto)) := by
  have hsrc : addressOf (flowEvent proto) "src_ip" = some (.v4 [192, 168, 2, 44]) := by
    show Ip.ipAddress "192.168.2.44" = _
    decide
  have hdst : addressOf (flowEvent proto) "dest_ip" = some (.v4 [203, 0, 113, 8]) := by
    show Ip.ipAddress "203.0.113.8" = _
    decide
  have hlocal : ((subnets Schema.defaultEntries).any fun n => n.contains (.v4 [192, 168, 2, 44])) = true := by
    decide
  have hremote : ((subnets Schema.defaultEntries).any fun n => n.contains (.v4 [203, 0, 113, 8])) = false := by
    decide
  have hends : endsOf Schema.defaultEntries (flowEvent proto) = some (.v4 [192, 168, 2, 44], true) := by
    unfold endsOf
    simp only [hsrc, hdst, hlocal, hremote, Ip.Addr.version]
    simp
  have hkind : Nft.ruleGet (flowEvent proto) "event_type" .null = .str "flow" := rfl
  have hid : flowId (flowEvent proto) = "" := rfl
  have hcarried : carriedOf (flowEvent proto) = .ok ⟨1200, 8400, 8, 12⟩ := rfl
  have hknown : s.known (flowEvent proto) = none := if_pos hid
  have hbinds : (sampleFlow proto).binds = true := rfl
  unfold Store.ingest Store.account
  simp only [hkind, hends, hcarried, hknown]
  unfold sampleFlow at hbinds ⊢
  simp [hbinds]

theorem accepted_flowSteps (protos : List String) :
    (Ledger.run (flowSteps protos)).accepted = protos.map sampleFlow := by
  induction protos using List.reverseRecOn with
  | nil => rfl
  | append_singleton protos p ih =>
    have hanswer := ingest_sample p (Ledger.run (flowSteps protos)).store
    unfold flowSteps Ledger.run at ih hanswer ⊢
    rw [List.map_append, List.foldl_append, List.map_append, ← ih]
    generalize (protos.map fun p => DpiStep.event Schema.defaultEntries id (flowEvent p) 0).foldl Ledger.step .init = l
      at hanswer ⊢
    simp only [List.map_cons, List.map_nil, List.foldl_cons, List.foldl_nil]
    unfold Ledger.step
    dsimp only
    generalize l.store.ingest Schema.defaultEntries id (flowEvent p) 0 = answer at hanswer ⊢
    obtain ⟨s, out⟩ := answer
    obtain rfl : out = .ok (some (sampleFlow p)) := hanswer
    rfl

theorem inWindow_flowSteps (protos : List String) : InWindow (flowSteps protos) := by
  intro before step after heq
  have hmem : step ∈ flowSteps protos := by
    rw [heq]
    simp
  obtain ⟨p, -, rfl⟩ := List.mem_map.mp hmem
  exact trivial

theorem pair_sampleFlow {proto : String} (h : proto ≠ "") :
    (sampleFlow proto).pair = ("192.168.2.44", lower proto) := by
  have happ : ∀ p, (appOf p).protocol = p := by
    intro p
    unfold appOf
    dsimp only
    split
    · rfl
    · rfl
  have hproto : protocolOf (flowEvent proto) = lower proto := by
    have hvalue : Nft.ruleGet (flowEvent proto) "app_proto" .null = .str proto := rfl
    unfold protocolOf
    simp [hvalue, Json.truthy, h, Schema.pyStr]
  have hclient : (sampleFlow proto).client = "192.168.2.44" := by
    show Ip.Addr.show (.v4 [192, 168, 2, 44]) = _
    decide
  have hservice : (sampleFlow proto).service = appOf (protocolOf (flowEvent proto)) := by
    unfold sampleFlow flowOf
    dsimp only
    rw [Option.getD_none]
  unfold Flow.pair
  rw [hclient, hservice, happ, hproto]

theorem accepted_prune (steps : List DpiStep) (retentionHours : ℤ) (now : ℚ) :
    (Ledger.run (steps ++ [.prune retentionHours now])).accepted = (Ledger.run steps).accepted := by
  unfold Ledger.run
  rw [List.foldl_append]
  rfl

/-- 501 applications. -/
def manyProtos : List String := (List.range 501).map fun i => "app-" ++ ofNat i

theorem app_ne_empty (i : ℕ) : "app-" ++ ofNat i ≠ "" := by
  intro h
  have hlist := congrArg String.toList h
  rw [String.toList_append] at hlist
  exact absurd (List.append_eq_nil_iff.mp hlist).1 (by decide)

/-- Such a name is already in lower case. -/
theorem lower_app (i : ℕ) : lower ("app-" ++ ofNat i) = "app-" ++ ofNat i := by
  have hdigit : ∀ c ∈ (ofNat i).toList, lowerChar c = c := by
    intro c hc
    have h := isDigit_of_mem_ofNat hc
    simp only [Char.isDigit, Bool.and_eq_true, decide_eq_true_eq, ge_iff_le, UInt32.le_iff_toNat_le] at h
    have h9 : '9'.val.toNat = 57 := rfl
    have hA : 'A'.val.toNat = 65 := rfl
    unfold lowerChar
    rw [if_neg, if_neg]
    · rintro rfl
      revert h
      decide
    · rintro ⟨hupper, -⟩
      simp only [Char.le_def, UInt32.le_iff_toNat_le] at hupper
      omega
  have hprefix : "app-".toList.map lowerChar = "app-".toList := by decide
  unfold lower
  rw [String.toList_append, List.map_append, List.map_congr_left hdigit, List.map_id', hprefix,
    ← String.toList_append, String.ofList_toList]

end Sbegw.Dpi
