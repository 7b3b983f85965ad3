import Sbegw.Edit
import Sbegw.Lib.Lines
import Sbegw.Lib.Run
import Mathlib.Logic.Function.Iterate

/-!
# The traffic log

`DpiEngine.poll` reads what Suricata appends to its log and passes each JSON line to `ingest`.  The
offset moves only when the loop over the lines runs to its end, and it moves behind the last line,
whether that line is complete or not.
-/

namespace Sbegw.Dpi

open Text

variable {σ : Type}

/-! ### The engine -/

/-- What a line may raise; `poll` catches an `OSError`. -/
inductive Raised where
  | osError (text : String)
  | other
deriving DecidableEq

/-- What `json.loads` makes of a line. -/
inductive Parsed where
  /-- `JSONDecodeError` -/
  | malformed
  | value (v : Json)
  | raises (e : Raised)

/-- What `poll` calls: `json.loads`, `ingest` on an object, and `prune`; `σ` is what they keep. -/
structure Parts (σ : Type) where
  parse : List UInt8 → Parsed
  ingest : Obj → σ → Obj → σ × Except Raised Bool
  prune : Obj → σ → σ

structure Engine (σ : Type) where
  inode : Option ℕ
  offset : ℕ
  parseErrors : ℕ
  eventsSeen : ℕ
  lastError : Option String
  store : σ

/-- The state of the loop over the lines. -/
structure Reading (σ : Type) where
  engine : Engine σ
  /-- the events that `ingest` has been given, ever -/
  ingested : List Obj
  count : ℕ

/-- How the loop ends. -/
inductive Ending where
  | exhausted
  /-- the batch limit -/
  | early
  | raised (e : Raised)

/-- The loop after `ingest` has answered for an event. -/
def answered (r : Reading σ) (event : Obj) : σ × Except Raised Bool → Reading σ × Option Raised
  | (store, .ok accepted) =>
    (⟨{ r.engine with eventsSeen := r.engine.eventsSeen + 1, store := store }, r.ingested ++ [event],
      r.count + accepted.toNat⟩, none)
  | (store, .error e) =>
    (⟨{ r.engine with eventsSeen := r.engine.eventsSeen + 1, store := store }, r.ingested ++ [event],
      r.count⟩, some e)

/-- `ingest(json.loads(line), cfg)`; a value that is no object has no `get`. -/
def ingestLine (p : Parts σ) (cfg : Obj) (r : Reading σ) (line : List UInt8) : Reading σ × Option Raised :=
  match p.parse line with
  | .malformed => ({ r with engine := { r.engine with parseErrors := r.engine.parseErrors + 1 } }, none)
  | .raises e => (r, some e)
  | .value (.obj event) => answered r event (p.ingest cfg r.engine.store event)
  | .value _ =>
    ({ r with engine := { r.engine with eventsSeen := r.engine.eventsSeen + 1 } }, some .other)

/-- `for line in fh` -/
def readLines (p : Parts σ) (cfg : Obj) (limit : ℕ) : Reading σ → List (List UInt8) → Reading σ × Ending
  | r, [] => (r, .exhausted)
  | r, line :: rest =>
    if limit ≤ r.count then (r, .early)
    else match ingestLine p cfg r line with
      | (r', none) => readLines p cfg limit r' rest
      | (r', some e) => (r', .raised e)

/-- Another file, or one that has become shorter, is read from its start. -/
def seek (inode : ℕ) (content : List UInt8) (e : Engine σ) : Engine σ :=
  if e.inode ≠ some inode ∨ content.length < e.offset then { e with inode := some inode, offset := 0 } else e

/-- The log file, its inode and content, and the engine. -/
structure World (σ : Type) where
  file : Option (ℕ × List UInt8)
  engine : Engine σ
  ingested : List Obj

/-- What `poll` leaves after its loop. -/
def finish (p : Parts σ) (cfg : Obj) (w : World σ) (length : ℕ) (r : Reading σ) : Ending → Except Raised ℕ × World σ
  | .exhausted => (.ok r.count, ⟨w.file, { r.engine with offset := length, store := p.prune cfg r.engine.store },
      r.ingested⟩)
  -- `tell` is disabled while the file is iterated
  | .early => (.ok r.count, ⟨w.file, { r.engine with
      lastError := some "telling position disabled by next() call", store := p.prune cfg r.engine.store },
      r.ingested⟩)
  | .raised (.osError text) => (.ok r.count, ⟨w.file, { r.engine with
      lastError := some text, store := p.prune cfg r.engine.store }, r.ingested⟩)
  | .raised .other => (.error .other, ⟨w.file, r.engine, r.ingested⟩)

/-- `poll` -/
def poll (p : Parts σ) (cfg : Obj) (limit : ℕ) (w : World σ) : Except Raised ℕ × World σ :=
  match w.file with
  | none => (.ok 0, w)
  | some (inode, content) =>
    let engine := seek inode content w.engine
    let (r, ending) := readLines p cfg limit ⟨engine, w.ingested, 0⟩ (textLines (content.drop engine.offset))
    finish p cfg w content.length r ending

/-- Suricata writes, or the engine polls. -/
inductive Act where
  | create (inode : ℕ)
  | append (bytes : List UInt8)
  | poll (cfg : Obj) (limit : ℕ)

def step (p : Parts σ) (w : World σ) : Act → Option (Except Raised ℕ × World σ)
  | .create inode => if w.file.isNone then some (.ok 0, { w with file := some (inode, []) }) else none
  | .append bytes => w.file.map fun f => (.ok 0, { w with file := some (f.1, f.2 ++ bytes) })
  | .poll cfg limit => some (poll p cfg limit w)

/-- Before anything is written or read. -/
def World.start (store : σ) : World σ := ⟨none, ⟨none, 0, 0, 0, none, store⟩, []⟩

/-! ### The property -/

/-- The object in a line. -/
def object? (p : Parts σ) (line : List UInt8) : Option Obj :=
  match p.parse line with
  | .value (.obj event) => some event
  | _ => none

/-- The JSON objects in the lines of a text, in order. -/
def events (p : Parts σ) (content : List UInt8) : List Obj := (textLines content).filterMap (object? p)

def World.content (w : World σ) : List UInt8 := (w.file.map Prod.snd).getD []

/-- The state after a poll. -/
def pollWorld (p : Parts σ) (cfg : Obj) (limit : ℕ) (w : World σ) : World σ := (poll p cfg limit w).2

/-- **Every event is counted exactly once**: after enough polls `ingest` has been given each object of
the log once, in order. -/
def Settles (p : Parts σ) (cfg : Obj) (limit : ℕ) (w : World σ) : Prop :=
  ∃ N, ∀ n, N ≤ n → ((pollWorld p cfg limit)^[n] w).ingested = events p w.content

/-! ### The condition -/

/-- What the next poll reads. -/
def unread (w : World σ) : List UInt8 :=
  (w.file.map fun f => f.2.drop (seek f.1 f.2 w.engine).offset).getD []

/-- A line that is malformed, or an object that `ingest` takes: whether it is accepted as a flow, and the
new store. -/
def takeLine (p : Parts σ) (cfg : Obj) (store : σ) (line : List UInt8) : Option (ℕ × σ) :=
  match p.parse line with
  | .malformed => some (0, store)
  | .value (.obj event) =>
    match p.ingest cfg store event with
    | (store, .ok accepted) => some (accepted.toNat, store)
    | _ => none
  | _ => none

/-- The flows that are accepted in lines all of which are taken. -/
def takes (p : Parts σ) (cfg : Obj) : σ → List (List UInt8) → Option (ℕ × σ)
  | store, [] => some (0, store)
  | store, line :: rest => (takeLine p cfg store line).bind fun r =>
      (takes p cfg r.2 rest).map fun q => (r.1 + q.1, q.2)

/-- The condition on a poll: what it reads ends with a complete line, no line of it makes `ingest` raise,
and fewer flows than the limit are accepted before the last line. -/
structure Clean (p : Parts σ) (cfg : Obj) (limit : ℕ) (w : World σ) : Prop where
  whole : EndsLine (unread w)
  taken : ∃ r, takes p cfg w.engine.store (textLines (unread w)) = some r
  room : ∀ before last, textLines (unread w) = before ++ [last] → ∀ r,
    takes p cfg w.engine.store before = some r → r.1 < limit

/-! ### One poll -/

variable {p : Parts σ} {cfg : Obj} {limit : ℕ}

/-- What reading a line that is taken does. -/
theorem ingestLine_of_takeLine {r : Reading σ} {line : List UInt8} {k : ℕ} {store : σ}
    (h : takeLine p cfg r.engine.store line = some (k, store)) :
    ∃ r', ingestLine p cfg r line = (r', none) ∧ r'.count = r.count + k ∧ r'.engine.store = store ∧
      r'.ingested = r.ingested ++ (object? p line).toList ∧ r'.engine.inode = r.engine.inode := by
  unfold takeLine at h
  unfold ingestLine object?
  cases hp : p.parse line with
  | malformed =>
    rw [hp] at h
    obtain ⟨rfl, rfl⟩ := Prod.mk.inj (Option.some.inj h)
    exact ⟨_, rfl, rfl, rfl, (List.append_nil _).symm, rfl⟩
  | raises e =>
    rw [hp] at h
    exact absurd h (by simp)
  | value v =>
    cases v with
    | obj event =>
      rw [hp] at h
      simp only at h ⊢
      cases hi : p.ingest cfg r.engine.store event with
      | mk s answer =>
        cases answer with
        | ok accepted =>
          rw [hi] at h
          obtain ⟨rfl, rfl⟩ := Prod.mk.inj (Option.some.inj h)
          exact ⟨_, rfl, rfl, rfl, rfl, rfl⟩
        | error e =>
          rw [hi] at h
          exact absurd h (by simp)
    | _ =>
      rw [hp] at h
      exact absurd h (by simp)

theorem takes_of_append : ∀ {before after : List (List UInt8)} {store : σ} {q : ℕ × σ},
    takes p cfg store (before ++ after) = some q → ∃ q', takes p cfg store before = some q'
  | [], after, store, q, _ => ⟨(0, store), rfl⟩
  | line :: before, after, store, q, h => by
    obtain ⟨r, hline, hrest⟩ := Option.bind_eq_some_iff.mp h
    obtain ⟨q₁, hq₁, -⟩ := Option.map_eq_some_iff.mp hrest
    obtain ⟨q', hq'⟩ := takes_of_append hq₁
    refine ⟨(r.1 + q'.1, q'.2), ?_⟩
    show (takeLine p cfg store line).bind _ = _
    rw [hline, Option.bind_some, hq', Option.map_some]

/-- The loop goes through lines that are taken, as long as there is room. -/
theorem readLines_of_takes : ∀ {lines : List (List UInt8)} {r : Reading σ} {q : ℕ × σ},
    takes p cfg r.engine.store lines = some q →
    (∀ before last, lines = before ++ [last] → ∀ q', takes p cfg r.engine.store before = some q' →
      r.count + q'.1 < limit) →
    ∃ r', readLines p cfg limit r lines = (r', .exhausted) ∧
      r'.ingested = r.ingested ++ lines.filterMap (object? p) ∧ r'.engine.inode = r.engine.inode
  | [], r, q, _, _ => ⟨r, rfl, (List.append_nil _).symm, rfl⟩
  | line :: rest, r, q, h, hroom => by
    obtain ⟨⟨k, store⟩, hline, hrest⟩ := Option.bind_eq_some_iff.mp h
    obtain ⟨q₁, hq₁, -⟩ := Option.map_eq_some_iff.mp hrest
    obtain ⟨r₁, hread, hcount, hstore, hingested, hinode⟩ := ingestLine_of_takeLine hline
    have hbefore : ∀ before q', takes p cfg r₁.engine.store before = some q' →
        takes p cfg r.engine.store (line :: before) = some (k + q'.1, q'.2) := by
      intro before q' hq'
      rw [hstore] at hq'
      show (takeLine p cfg r.engine.store line).bind _ = _
      rw [hline, Option.bind_some]
      show (takes p cfg store before).map _ = _
      rw [hq', Option.map_some]
    -- the lines before the last one are themselves taken, so the limit is not reached here
    have hlimit : r.count < limit := by
      rcases List.eq_nil_or_concat rest with hnil | ⟨before, last, hlast⟩
      · have hhere := hroom [] line (by rw [hnil]; rfl) (0, r.engine.store) rfl
        simpa using hhere
      · rw [hlast, List.concat_eq_append] at hq₁
        obtain ⟨q', hq'⟩ : ∃ q', takes p cfg store before = some q' := takes_of_append hq₁
        have hhere := hroom (line :: before) last (by rw [hlast]; simp) _ (hbefore before q' (hstore ▸ hq'))
        simp only at hhere
        omega
    have htaken : takes p cfg r₁.engine.store rest = some q₁ := by
      rw [hstore]
      exact hq₁
    obtain ⟨r', hloop, hall, hinode'⟩ := readLines_of_takes htaken fun before last hsplit q' hq' => by
      have hhere := hroom (line :: before) last (by rw [hsplit]; rfl) _ (hbefore before q' hq')
      simp only at hhere
      omega
    refine ⟨r', ?_, ?_, hinode'.trans hinode⟩
    · rw [readLines, if_neg (not_le.mpr hlimit), hread]
      exact hloop
    · rw [hall, hingested, List.append_assoc]
      congr 1
      cases ho : object? p line with
      | none => rw [List.filterMap_cons_none ho]; rfl
      | some event => rw [List.filterMap_cons_some ho]; rfl

/-- What has been read and what has been passed on agree. -/
structure Tracks (p : Parts σ) (w : World σ) : Prop where
  known : ∀ f, w.file = some f → w.engine.inode = none ∨ w.engine.inode = some f.1
  absent : w.file = none → w.engine.inode = none
  fresh : w.engine.inode = none → w.engine.offset = 0
  within : w.engine.offset ≤ w.content.length
  line : EndsLine (w.content.take w.engine.offset)
  exact : w.ingested = events p (w.content.take w.engine.offset)

theorem Tracks.seek_offset {w : World σ} (h : Tracks p w) {f : ℕ × List UInt8} (hf : w.file = some f) :
    (seek f.1 f.2 w.engine).offset = w.engine.offset := by
  have hwithin : w.engine.offset ≤ f.2.length := by
    have := h.within
    unfold World.content at this
    rwa [hf] at this
  unfold seek
  split
  · next hreset =>
    rcases hreset with hinode | hshort
    · rcases h.known f hf with hnone | hsome
      · exact (h.fresh hnone).symm
      · exact absurd hsome hinode
    · omega
  · rfl

theorem Tracks.unread_eq {w : World σ} (h : Tracks p w) : unread w = w.content.drop w.engine.offset := by
  unfold unread World.content
  cases hf : w.file with
  | none => exact List.drop_nil.symm
  | some f =>
    show f.2.drop (seek f.1 f.2 w.engine).offset = f.2.drop w.engine.offset
    rw [h.seek_offset hf]

theorem seek_inode (inode : ℕ) (content : List UInt8) (e : Engine σ) :
    (seek inode content e).inode = some inode ∧ (seek inode content e).store = e.store := by
  unfold seek
  split
  · exact ⟨rfl, rfl⟩
  · next hkeep =>
    rw [not_or, not_not] at hkeep
    exact ⟨hkeep.1, rfl⟩

/-- The objects of a text are those of what has been read and of the rest. -/
theorem Tracks.events_content {w : World σ} (h : Tracks p w) :
    events p w.content = w.ingested ++ events p (w.content.drop w.engine.offset) := by
  rw [h.exact]
  unfold events
  rw [← List.filterMap_append, ← textLines_append h.line, List.take_append_drop]

/-- **A clean poll** reads the log to its end. -/
theorem tracks_poll {w : World σ} (h : Tracks p w) (hclean : Clean p cfg limit w) :
    Tracks p (pollWorld p cfg limit w) ∧ (pollWorld p cfg limit w).content = w.content ∧
      (pollWorld p cfg limit w).ingested = events p w.content ∧
      (w.file.isSome = true → (pollWorld p cfg limit w).engine.offset = w.content.length) := by
  unfold pollWorld poll
  cases hf : w.file with
  | none =>
    have hempty : w.content = [] := by
      unfold World.content
      rw [hf]
      rfl
    refine ⟨h, rfl, ?_, fun hsome => absurd hsome (by simp)⟩
    rw [h.exact, hempty, List.take_nil]
  | some f =>
    obtain ⟨inode, content⟩ := f
    have hcontent : w.content = content := by
      unfold World.content
      rw [hf]
      rfl
    have hoffset : (seek inode content w.engine).offset = w.engine.offset := h.seek_offset hf
    have hunread : unread w = content.drop w.engine.offset := by rw [h.unread_eq, hcontent]
    obtain ⟨hinode, hstore⟩ := seek_inode inode content w.engine
    obtain ⟨q, hq⟩ := hclean.taken
    rw [hunread] at hq
    have htaken : takes p cfg (⟨seek inode content w.engine, w.ingested, 0⟩ : Reading σ).engine.store
        (textLines (content.drop w.engine.offset)) = some q := by
      rw [hstore]
      exact hq
    obtain ⟨r', hloop, hingested, hinode'⟩ := readLines_of_takes htaken fun before last hsplit q' hq' => by
      rw [hstore] at hq'
      have hroom := hclean.room before last (by rw [hunread]; exact hsplit) q' hq'
      simpa using hroom
    have hall : r'.ingested = events p content := by
      rw [hingested, ← hcontent, h.events_content, hcontent]
      rfl
    simp only [hoffset, hloop]
    show Tracks p ⟨w.file, { r'.engine with offset := content.length, store := _ }, r'.ingested⟩ ∧ _
    have hsame : (⟨w.file, { r'.engine with offset := content.length, store := p.prune cfg r'.engine.store },
        r'.ingested⟩ : World σ).content = content := hcontent
    refine ⟨⟨fun g hg => ?_, fun hnone => absurd (hf.symm.trans hnone) (by simp), fun hnone => ?_, ?_, ?_, ?_⟩, hsame.trans hcontent.symm, hall.trans (by rw [hcontent]),
      fun _ => congrArg List.length hcontent.symm⟩
    · rw [hf] at hg
      obtain rfl := Option.some.inj hg
      exact .inr (hinode'.trans hinode)
    · exact absurd (hnone.symm.trans (hinode'.trans hinode)) (by simp)
    · rw [hsame]
    · rw [hsame, List.take_length]
      have hwhole := hclean.whole
      rw [hunread] at hwhole
      rcases hwhole with hnil | ⟨a, ha⟩
      · have htake : content.take w.engine.offset = content := by
          conv_rhs => rw [← List.take_append_drop w.engine.offset content, hnil, List.append_nil]
        have hline := h.line
        rwa [hcontent, htake] at hline
      · refine .inr ⟨content.take w.engine.offset ++ a, ?_⟩
        conv_lhs => rw [← List.take_append_drop w.engine.offset content, ha]
        rw [List.append_assoc]
    · rw [hsame, List.take_length]
      exact hall

/-! ### Runs -/

theorem tracks_start (p : Parts σ) (store : σ) : Tracks p (World.start store) := by
  refine ⟨fun f hf => absurd hf (by simp [World.start]), fun _ => rfl, fun _ => rfl, Nat.zero_le _, .inl rfl, rfl⟩

theorem tracks_create {w : World σ} (h : Tracks p w) (hfile : w.file = none) (inode : ℕ) :
    Tracks p { w with file := some (inode, []) } := by
  have hnone : w.engine.inode = none := h.absent hfile
  have hzero : w.engine.offset = 0 := h.fresh hnone
  have hcontent : w.content = [] := by
    unfold World.content
    rw [hfile]
    rfl
  have hexact := h.exact
  rw [hcontent, List.take_nil] at hexact
  refine ⟨fun _ _ => .inl hnone, fun habsent => absurd habsent (by simp), h.fresh, ?_, ?_, ?_⟩
  · show w.engine.offset ≤ ([] : List UInt8).length
    rw [hzero]
    exact Nat.zero_le _
  · show EndsLine (([] : List UInt8).take w.engine.offset)
    rw [List.take_nil]
    exact .inl rfl
  · show w.ingested = events p (([] : List UInt8).take w.engine.offset)
    rw [List.take_nil]
    exact hexact

theorem tracks_append {w : World σ} (h : Tracks p w) {f : ℕ × List UInt8} (hfile : w.file = some f)
    (bytes : List UInt8) : Tracks p { w with file := some (f.1, f.2 ++ bytes) } := by
  have hcontent : w.content = f.2 := by
    unfold World.content
    rw [hfile]
    rfl
  have hwithin := h.within
  rw [hcontent] at hwithin
  have htake : (f.2 ++ bytes).take w.engine.offset = w.content.take w.engine.offset := by
    rw [hcontent, List.take_append_of_le_length hwithin]
  refine ⟨fun g hg => ?_, fun habsent => absurd habsent (by simp), h.fresh, ?_, ?_, ?_⟩
  · obtain rfl := Option.some.inj hg
    exact h.known f hfile
  · show w.engine.offset ≤ (f.2 ++ bytes).length
    rw [List.length_append]
    omega
  · show EndsLine ((f.2 ++ bytes).take w.engine.offset)
    rw [htake]
    exact h.line
  · show w.ingested = events p ((f.2 ++ bytes).take w.engine.offset)
    rw [htake]
    exact h.exact

theorem tracks_step {w w' : World σ} {act : Act} {out : Except Raised ℕ} (h : Tracks p w)
    (hstep : step p w act = some (out, w'))
    (hclean : ∀ cfg limit, act = .poll cfg limit → Clean p cfg limit w) : Tracks p w' := by
  cases act with
  | create inode =>
    simp only [step] at hstep
    split at hstep
    · next hnone =>
      rw [← (Prod.mk.inj (Option.some.inj hstep)).2]
      exact tracks_create h (Option.isNone_iff_eq_none.mp hnone) inode
    · exact absurd hstep (by simp)
  | append bytes =>
    simp only [step] at hstep
    obtain ⟨f, hf, hpair⟩ := Option.map_eq_some_iff.mp hstep
    rw [← (Prod.mk.inj hpair).2]
    exact tracks_append h hf bytes
  | poll cfg limit =>
    simp only [step, Option.some.injEq] at hstep
    have hworld : pollWorld p cfg limit w = w' := congrArg Prod.snd hstep
    rw [← hworld]
    exact (tracks_poll h (hclean cfg limit rfl)).1

theorem tracks_run {store : σ} {l : List (Machine.Step (World σ) Act (Except Raised ℕ))} {w : World σ}
    (h : Machine.Run (step p) (.start store) l w)
    (hclean : ∀ x ∈ l, ∀ cfg limit, x.act = .poll cfg limit → Clean p cfg limit x.pre) : Tracks p w := by
  have hrun := h.history (fun _ u => Tracks p u)
    (fun _ x => ∀ cfg limit, x.act = .poll cfg limit → Clean p cfg limit x.pre)
    (fun _ _ _ _ _ hu hs hx => tracks_step hu hs hx) [] (tracks_start p store)
    fun l₁ x l₂ hl => hclean x (by simp [hl])
  exact hrun

/-- Nothing is left to read. -/
theorem clean_of_read {w : World σ} (hread : unread w = []) : Clean p cfg limit w := by
  have hlines : textLines (unread w) = [] := by rw [hread]; rfl
  refine ⟨.inl hread, ⟨_, by rw [hlines]; rfl⟩, fun before last hsplit => ?_⟩
  rw [hlines] at hsplit
  exact absurd hsplit (by simp)

theorem read_poll {w : World σ} (h : Tracks p w) (hclean : Clean p cfg limit w) :
    unread (pollWorld p cfg limit w) = [] := by
  obtain ⟨htracks, hcontent, -, hoffset⟩ := tracks_poll h hclean
  rw [htracks.unread_eq, hcontent]
  cases hf : w.file with
  | none =>
    have hempty : w.content = [] := by
      unfold World.content
      rw [hf]
      rfl
    rw [hempty, List.drop_nil]
  | some f => rw [hoffset (by rw [hf]; rfl), List.drop_length]

/-- Once everything is read, further polls change nothing that is counted. -/
theorem ingested_iterate : ∀ (n : ℕ) {w : World σ}, Tracks p w → unread w = [] →
    ((pollWorld p cfg limit)^[n] w).ingested = events p w.content
  | 0, w, h, hread => by
    show w.ingested = events p w.content
    rw [h.unread_eq] at hread
    rw [h.events_content, hread]
    exact (List.append_nil _).symm
  | n + 1, w, h, hread => by
    have hclean : Clean p cfg limit w := clean_of_read hread
    obtain ⟨htracks, hcontent, -, -⟩ := tracks_poll h hclean
    rw [Function.iterate_succ_apply, ingested_iterate n htracks (read_poll h hclean), hcontent]

/-- **Every traffic event is counted exactly once** in a run whose polls are clean: what has been passed
on is at any time a beginning of the objects of the log, and all of them after one more clean poll. -/
theorem counted_once (p : Parts σ) (store : σ) {l : List (Machine.Step (World σ) Act (Except Raised ℕ))}
    {w : World σ} (h : Machine.Run (step p) (.start store) l w)
    (hclean : ∀ x ∈ l, ∀ cfg limit, x.act = .poll cfg limit → Clean p cfg limit x.pre) :
    w.ingested <+: events p w.content ∧ ∀ cfg limit, Clean p cfg limit w → Settles p cfg limit w := by
  have htracks := tracks_run h hclean
  refine ⟨?_, fun cfg limit hnext => ⟨1, fun n hn => ?_⟩⟩
  · rw [htracks.events_content]
    exact List.prefix_append _ _
  · obtain ⟨m, rfl⟩ : ∃ m, n = m + 1 := ⟨n - 1, by omega⟩
    obtain ⟨hafter, hcontent, -, -⟩ := tracks_poll htracks hnext
    rw [Function.iterate_succ_apply, ingested_iterate m hafter (read_poll htracks hnext), hcontent]

/-! ### A clean run, and one that reads half a line -/

/-- A batch no longer than the limit is never left early. -/
theorem takes_le_length : ∀ {lines : List (List UInt8)} {store : σ} {q : ℕ × σ},
    takes p cfg store lines = some q → q.1 ≤ lines.length
  | [], store, q, h => by
    rw [← Option.some.inj h]
    exact Nat.zero_le _
  | line :: rest, store, q, h => by
    obtain ⟨⟨k, s⟩, hline, hrest⟩ := Option.bind_eq_some_iff.mp h
    obtain ⟨q₁, hq₁, rfl⟩ := Option.map_eq_some_iff.mp hrest
    have ih := takes_le_length hq₁
    have hone : k ≤ 1 := by
      unfold takeLine at hline
      split at hline
      · rw [← (Prod.mk.inj (Option.some.inj hline)).1]
        exact Nat.zero_le 1
      · split at hline
        · next s' accepted hs =>
          rw [← (Prod.mk.inj (Option.some.inj hline)).1]
          exact Bool.toNat_le accepted
        · exact absurd hline (by simp)
      · exact absurd hline (by simp)
    simp only [List.length_cons]
    omega

/-- `json.loads` on `{}` and on pieces of it, and an `ingest` that sees no flow. -/
def emptyObjects : Parts Unit where
  parse line := if line = [0x7b, 0x7d] then .value (.obj []) else .malformed
  ingest _ store _ := (store, .ok false)
  prune _ store := store

theorem clean_of_short {w : World σ} (hwhole : EndsLine (unread w)) {r : ℕ × σ}
    (htaken : takes p cfg w.engine.store (textLines (unread w)) = some r)
    (hshort : (textLines (unread w)).length ≤ limit) : Clean p cfg limit w := by
  refine ⟨hwhole, ⟨r, htaken⟩, fun before last hsplit q hq => ?_⟩
  have hle := takes_le_length hq
  rw [hsplit, List.length_append, List.length_singleton] at hshort
  omega

/-- A log, and how far it has been read: `malformed` lines without an object, and these objects. -/
def emptyWorld (content : List UInt8) (offset malformed : ℕ) (objects : List Obj) : World Unit :=
  ⟨some (1, content), ⟨some 1, offset, malformed, objects.length, none, ()⟩, objects⟩

/-- An object and a malformed line, a poll, and another object. -/
theorem counted_once_objects : ∃ l, Machine.Run (step emptyObjects) (.start ()) l
      (emptyWorld [0x7b, 0x7d, 10, 0x7b, 10, 0x7b, 0x7d, 10] 5 1 [[]]) ∧
    Settles emptyObjects [] 5000 (emptyWorld [0x7b, 0x7d, 10, 0x7b, 10, 0x7b, 0x7d, 10] 5 1 [[]]) := by
  have hread : Clean emptyObjects [] 5000 ⟨some (1, [0x7b, 0x7d, 10, 0x7b, 10]), ⟨none, 0, 0, 0, none, ()⟩, []⟩ :=
    clean_of_short (r := (0, ())) (.inr ⟨[0x7b, 0x7d, 10, 0x7b], rfl⟩) rfl (by decide)
  have hnext : Clean emptyObjects [] 5000 (emptyWorld [0x7b, 0x7d, 10, 0x7b, 10, 0x7b, 0x7d, 10] 5 1 [[]]) :=
    clean_of_short (r := (0, ())) (.inr ⟨[0x7b, 0x7d], rfl⟩) rfl (by decide)
  have hrun : Machine.Run (step emptyObjects) (.start ())
      [⟨.start (), .create 1, .ok 0, ⟨some (1, []), ⟨none, 0, 0, 0, none, ()⟩, []⟩⟩,
        ⟨⟨some (1, []), ⟨none, 0, 0, 0, none, ()⟩, []⟩, .append [0x7b, 0x7d, 10, 0x7b, 10], .ok 0,
          ⟨some (1, [0x7b, 0x7d, 10, 0x7b, 10]), ⟨none, 0, 0, 0, none, ()⟩, []⟩⟩,
        ⟨⟨some (1, [0x7b, 0x7d, 10, 0x7b, 10]), ⟨none, 0, 0, 0, none, ()⟩, []⟩, .poll [] 5000, .ok 0,
          emptyWorld [0x7b, 0x7d, 10, 0x7b, 10] 5 1 [[]]⟩,
        ⟨emptyWorld [0x7b, 0x7d, 10, 0x7b, 10] 5 1 [[]], .append [0x7b, 0x7d, 10], .ok 0,
          emptyWorld [0x7b, 0x7d, 10, 0x7b, 10, 0x7b, 0x7d, 10] 5 1 [[]]⟩]
      (emptyWorld [0x7b, 0x7d, 10, 0x7b, 10, 0x7b, 0x7d, 10] 5 1 [[]]) :=
    .cons rfl (.cons rfl (.cons rfl (.cons rfl (.nil _))))
  refine ⟨_, hrun, (counted_once emptyObjects () hrun fun x hx cfg limit hact => ?_).2 [] 5000 hnext⟩
  simp only [List.mem_cons, List.not_mem_nil, or_false] at hx
  rcases hx with rfl | rfl | rfl | rfl
  · exact absurd hact (by simp)
  · exact absurd hact (by simp)
  · obtain ⟨rfl, rfl⟩ := Act.poll.inj hact
    exact hread
  · exact absurd hact (by simp)

/-- An object of which a poll sees the first half is never counted. -/
theorem half_line_lost : ∃ l w, Machine.Run (step emptyObjects) (.start ()) l w ∧
    w.content = [0x7b, 0x7d, 10] ∧ events emptyObjects w.content = [[]] ∧
      ¬ Settles emptyObjects [] 5000 w := by
  have hrun : Machine.Run (step emptyObjects) (.start ()) _ (emptyWorld [0x7b, 0x7d, 10] 3 2 []) :=
    .cons (a := .create 1) rfl (.cons (a := .append [0x7b]) rfl (.cons (a := .poll [] 5000) rfl
      (.cons (a := .append [0x7d, 10]) rfl (.cons (a := .poll [] 5000) rfl (.nil _)))))
  refine ⟨_, _, hrun, rfl, rfl, ?_⟩
  rintro ⟨N, hN⟩
  have hfixed : pollWorld emptyObjects [] 5000 (emptyWorld [0x7b, 0x7d, 10] 3 2 []) =
      emptyWorld [0x7b, 0x7d, 10] 3 2 [] := rfl
  have hlast := hN N le_rfl
  rw [Function.iterate_fixed hfixed] at hlast
  exact absurd hlast (by decide)

end Sbegw.Dpi
