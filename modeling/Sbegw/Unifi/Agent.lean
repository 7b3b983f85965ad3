import Sbegw.Schema.Primitives
import Sbegw.Lib.Bytes
import Sbegw.Lib.Lines
import Sbegw.Lib.Run

/-!
# The key of an adopted gateway

The state of the controller agent, in memory and on disk, over the responses of a controller, failures
and restarts.  An `authkey` of 32 to 64 digits is taken over, whatever the length of the key that it
stands for; `_key` falls back to the well-known key.
-/

namespace Sbegw.Unifi

open Text Schema

/-! ### The agent -/

/-- `MASTER_KEY` -/
def masterKey : List UInt8 :=
  [0xba, 0x86, 0xf2, 0xbb, 0xe1, 0x07, 0xc7, 0xc5, 0x7e, 0xb5, 0xf2, 0x69, 0x07, 0x75, 0xc7, 0x12]

/-- `self._state` -/
structure AgentState where
  adopted : Bool
  authkey : String
  aesGcm : Bool
  cfgversion : String
  lastResponse : Json
  error : Option String
  unsupported : List String
deriving DecidableEq

/-- The state without a readable file. -/
def AgentState.initial : AgentState := ⟨false, "", false, "", .null, none, []⟩

/-- `_key` -/
def AgentState.key (s : AgentState) : List UInt8 :=
  let key := (Bytes.fromhex s.authkey.toList).getD []
  if key.length ∈ [16, 24, 32] then key else masterKey

/-- `_unsupported` -/
def AgentState.report (category name : String) (s : AgentState) : AgentState :=
  let entry := category ++ ":" ++ name
  if entry ∈ s.unsupported then s
  else
    let items := s.unsupported ++ [entry]
    { s with unsupported := items.drop (items.length - 50) }

/-- The keys of `mgmt_cfg` that are not reported. -/
def knownKeys : List String :=
  ["authkey", "cfgversion", "use_aes_gcm", "inform_url", "mgmt_url", "stun_url", "report_crash",
    "capability", "selfrun_guest_mode", "led_enabled"]

/-- `[0-9a-fA-F]{32,64}` -/
def authkeyRe (value : String) : Bool :=
  decide (32 ≤ value.length ∧ value.length ≤ 64) && value.toList.all isHex

/-- One line of `mgmt_cfg`. -/
def mgmtLine (s : AgentState) (line : String) : AgentState :=
  match cut "=" line with
  | none => s
  | some (key, value) =>
    if key = "authkey" && authkeyRe value then { s with authkey := lower value }
    else if key = "cfgversion" then { s with cfgversion := value }
    else if key = "use_aes_gcm" then { s with aesGcm := decide (lower value ∈ ["1", "true", "yes"]) }
    else if key ∉ knownKeys then s.report "mgmt_cfg" key
    else s

/-- `response.get("_type")` -/
def kindOf (response : Obj) : Json := (Dict.lookup "_type" response).getD .null

/-- The lines of `str(response.get("mgmt_cfg") or "")`. -/
def mgmtLines (response : Obj) : List String :=
  let mgmt := (Dict.lookup "mgmt_cfg" response).getD .null
  splitlines (if mgmt.truthy then pyStr mgmt else "")

/-- What `reset` updates. -/
def AgentState.reset (s : AgentState) : AgentState :=
  { s with adopted := false, authkey := "", aesGcm := false, cfgversion := "", lastResponse := .null,
           error := none, unsupported := [] }

/-- `_handle_response` on the state in memory. -/
def AgentState.handle (response : Obj) (s : AgentState) : AgentState :=
  if kindOf response = .str "setparam" then
    let s := (mgmtLines response).foldl mgmtLine s
    if s.authkey ≠ "" then { s with adopted := true } else s
  else if kindOf response = .str "setdefault" then s.reset
  else if kindOf response = .str "cmd" then
    s.report "command" (pyStr ((Dict.lookup "cmd" response).getD .null))
  else if kindOf response = .str "noop" ∨ kindOf response = .str "pending-adoption" ∨
    kindOf response = .null then s
  else s.report "response" (pyStr (kindOf response))

/-- The agent and its state file; a file that is missing or unreadable is `none`. -/
structure Agent where
  memory : AgentState
  disk : Option AgentState
deriving DecidableEq

/-- What happens to the agent.  `written` says whether `_save_state` can replace the file; else it raises. -/
inductive Act where
  /-- `_handle_response`; only `setdefault` saves -/
  | handle (response : Obj) (written : Bool)
  /-- `inform_once` with this response -/
  | inform (response : Obj) (written : Bool)
  /-- the state that `sync_once` reports -/
  | synced (unsupported : List String) (written : Bool)
  /-- a cycle that raised -/
  | failed (error : String) (written : Bool)
  /-- `reset`, as the API calls it -/
  | reset (written : Bool)
  | restart

namespace Agent

/-- `_save_state` -/
def save (written : Bool) (a : Agent) : Agent := if written then { a with disk := some a.memory } else a

/-- `_handle_response` -/
def handle (response : Obj) (written : Bool) (a : Agent) : Agent :=
  let a' := { a with memory := a.memory.handle response }
  if kindOf response = .str "setdefault" then a'.save written else a'

/-- `inform_once` once the controller has answered. -/
def inform (response : Obj) (written : Bool) (a : Agent) : Agent :=
  let kind := (Dict.lookup "_type" response).getD (.str "unknown")
  save written (handle response written
    { a with memory := { a.memory with lastResponse := kind, error := none } })

/-- `sync_once` after its commit. -/
def synced (unsupported : List String) (written : Bool) (a : Agent) : Agent :=
  let combined := unsupported.foldl (fun l e => if e ∈ l then l else l ++ [e]) a.memory.unsupported
  save written { a with memory :=
    { a.memory with unsupported := combined.drop (combined.length - 50), error := none } }

def step (a : Agent) : Act → Option (Unit × Agent)
  | .handle response written => some ((), a.handle response written)
  | .inform response written => some ((), a.inform response written)
  | .synced unsupported written => some ((), a.synced unsupported written)
  | .failed error written =>
    some ((), save written { a with memory := { a.memory with error := some error } })
  | .reset written => some ((), save written { a with memory := a.memory.reset })
  | .restart => some ((), { a with memory := a.disk.getD .initial })

/-- An agent that is started for the first time. -/
def fresh : Agent := ⟨.initial, none⟩

end Agent

/-! ### The property -/

/-- The `authkey` in a line of `mgmt_cfg` that the agent accepts. -/
def acceptedKey (line : String) : Option String :=
  (cut "=" line).bind fun kv => if kv.1 = "authkey" && authkeyRe kv.2 then some kv.2 else none

/-- The `authkey` that a response issues: the last one that is accepted. -/
def issuedKey (response : Obj) : Option String :=
  if kindOf response = .str "setparam" then ((mgmtLines response).filterMap acceptedKey).getLast? else none

/-- The response that a step handles. -/
def Act.response? : Act → Option Obj
  | .handle response _ => some response
  | .inform response _ => some response
  | _ => none

/-- The steps of a run of the agent. -/
abbrev AgentLog : Type := List (Machine.Step Agent Act Unit)

/-- The key was issued in one of the steps. -/
def Issued (l : AgentLog) (value : String) : Prop :=
  ∃ x ∈ l, ∃ response, x.act.response? = some response ∧ issuedKey response = some value

/-- An adopted gateway informs with the key that the controller has issued. -/
def Keyed (l : AgentLog) (s : AgentState) : Prop :=
  s.adopted = true → ∃ value, Issued l value ∧ s.authkey = lower value ∧
    Bytes.fromhex value.toList = some s.key ∧ s.key ≠ masterKey

/-- **An adopted gateway never falls back to the well-known key**, at any point of a run. -/
def NeverFallsBack (l : AgentLog) : Prop :=
  ∀ l₁ l₂ a, l = l₁ ++ l₂ → Machine.Run Agent.step .fresh l₁ a → Keyed l₁ a.memory

/-- A key of 16, 24 or 32 bytes that is not the well-known one. -/
def GoodKey (value : String) : Prop :=
  (value.length = 32 ∨ value.length = 48 ∨ value.length = 64) ∧
    Bytes.fromhex value.toList ≠ some masterKey

/-- The condition on a step: where its response issues a key, the key is good. -/
def Sound (act : Act) : Prop :=
  ∀ response, act.response? = some response → ∀ value, issuedKey response = some value → GoodKey value

/-! ### What a key of the right form stands for -/

theorem isHex_of_authkeyRe {value : String} (h : authkeyRe value = true) :
    ∀ c ∈ value.toList, isHex c = true := by
  unfold authkeyRe at h
  rw [Bool.and_eq_true, List.all_eq_true] at h
  exact h.2

theorem length_of_authkeyRe {value : String} (h : authkeyRe value = true) : 32 ≤ value.length := by
  unfold authkeyRe at h
  rw [Bool.and_eq_true, decide_eq_true_eq] at h
  exact h.1.1

theorem lower_ne_empty {value : String} (h : authkeyRe value = true) : lower value ≠ "" := by
  intro hempty
  have hlen : (lower value).toList.length = value.length := by
    unfold lower
    rw [String.toList_ofList, List.length_map, String.length_toList]
  rw [hempty] at hlen
  have hpos : 32 ≤ value.length := length_of_authkeyRe h
  have hzero : ("" : String).toList.length = 0 := rfl
  omega

/-- `_key` uses a stored key exactly if it is good. -/
theorem key_eq {s : AgentState} {value : String} (hre : authkeyRe value = true)
    (hs : s.authkey = lower value) :
    (GoodKey value → Bytes.fromhex value.toList = some s.key ∧ s.key ≠ masterKey) ∧
      (¬ GoodKey value → s.key = masterKey) := by
  have hhex := isHex_of_authkeyRe hre
  have hread : Bytes.fromhex s.authkey.toList = Bytes.fromhex value.toList := by
    rw [hs]
    unfold lower
    rw [String.toList_ofList]
    exact Bytes.fromhex_lower hhex
  have hlen := Bytes.length_fromhex hhex
  rw [String.length_toList] at hlen
  unfold AgentState.key GoodKey
  rw [hread]
  cases hf : Bytes.fromhex value.toList with
  | none =>
    rw [hf] at hlen
    have hodd : ¬ value.length % 2 = 0 := fun heven => by simp [heven] at hlen
    refine ⟨fun hgood => ?_, fun _ => rfl⟩
    have := hgood.1
    omega
  | some bs =>
    rw [hf] at hlen
    have heven : value.length % 2 = 0 := by
      by_contra hodd
      simp [hodd] at hlen
    have hbytes : bs.length = value.length / 2 := by
      rw [if_pos heven] at hlen
      exact Option.some.inj hlen
    show ((_ ∧ some bs ≠ some masterKey) → some bs = some (if bs.length ∈ [16, 24, 32] then bs else masterKey) ∧
      (if bs.length ∈ [16, 24, 32] then bs else masterKey) ≠ masterKey) ∧
      (¬ (_ ∧ some bs ≠ some masterKey) → (if bs.length ∈ [16, 24, 32] then bs else masterKey) = masterKey)
    have hsizes : bs.length ∈ [16, 24, 32] ↔ value.length = 32 ∨ value.length = 48 ∨ value.length = 64 := by
      simp only [List.mem_cons, List.not_mem_nil, or_false]
      omega
    constructor
    · rintro ⟨hsize, hne⟩
      rw [if_pos (hsizes.mpr hsize)]
      exact ⟨rfl, fun heq => hne (congrArg some heq)⟩
    · intro hbad
      by_cases hsize : bs.length ∈ [16, 24, 32]
      · rw [if_pos hsize]
        by_contra hne
        exact hbad ⟨hsizes.mp hsize, fun heq => hne (Option.some.inj heq)⟩
      · rw [if_neg hsize]

/-! ### What a step does to the key -/

theorem report_authkey (s : AgentState) (category name : String) :
    (s.report category name).authkey = s.authkey ∧ (s.report category name).adopted = s.adopted := by
  unfold AgentState.report
  simp only
  split <;> exact ⟨rfl, rfl⟩

theorem mgmtLine_authkey (s : AgentState) (line : String) :
    (mgmtLine s line).authkey = ((acceptedKey line).map lower).getD s.authkey ∧
      (mgmtLine s line).adopted = s.adopted := by
  unfold mgmtLine acceptedKey
  cases cut "=" line with
  | none => exact ⟨rfl, rfl⟩
  | some kv =>
    obtain ⟨key, value⟩ := kv
    by_cases haccept : (key = "authkey" && authkeyRe value) = true
    · simp only [Option.bind_some, haccept, if_true]
      exact ⟨rfl, trivial⟩
    · simp only [Option.bind_some, haccept, Bool.false_eq_true, if_false]
      split
      · exact ⟨rfl, rfl⟩
      · split
        · exact ⟨rfl, rfl⟩
        · split
          · exact report_authkey s "mgmt_cfg" key
          · exact ⟨rfl, rfl⟩

/-- The last accepted key of a text is the one that stays. -/
theorem foldl_mgmtLine : ∀ (lines : List String) (s : AgentState),
    (lines.foldl mgmtLine s).authkey = ((lines.filterMap acceptedKey).getLast?.map lower).getD s.authkey ∧
      (lines.foldl mgmtLine s).adopted = s.adopted
  | [], s => ⟨rfl, rfl⟩
  | line :: lines, s => by
    obtain ⟨hkey, hadopted⟩ := foldl_mgmtLine lines (mgmtLine s line)
    obtain ⟨hline, hsame⟩ := mgmtLine_authkey s line
    rw [List.foldl_cons, hkey, hadopted, hline]
    refine ⟨?_, hsame⟩
    cases ha : acceptedKey line with
    | none => rw [List.filterMap_cons_none ha]; rfl
    | some v =>
      rw [List.filterMap_cons_some ha, List.getLast?_cons]
      cases (lines.filterMap acceptedKey).getLast? <;> rfl

theorem authkeyRe_of_issued {response : Obj} {value : String} (h : issuedKey response = some value) :
    authkeyRe value = true := by
  unfold issuedKey at h
  split at h
  · have hmem := List.mem_of_getLast? h
    obtain ⟨line, -, hline⟩ := List.mem_filterMap.mp hmem
    unfold acceptedKey at hline
    obtain ⟨kv, -, hkv⟩ := Option.bind_eq_some_iff.mp hline
    split at hkv
    · next haccept =>
      rw [Bool.and_eq_true] at haccept
      rw [← Option.some.inj hkv]
      exact haccept.2
    · exact absurd hkv (by simp)
  · exact absurd h (by simp)

/-- A response that issues a key adopts the gateway with it. -/
theorem handle_issued {response : Obj} {value : String} (h : issuedKey response = some value)
    (s : AgentState) : (s.handle response).authkey = lower value ∧ (s.handle response).adopted = true := by
  have hre := authkeyRe_of_issued h
  unfold issuedKey at h
  split at h
  · next hkind =>
    have hkey := (foldl_mgmtLine (mgmtLines response) s).1
    rw [h] at hkey
    have hne : ((mgmtLines response).foldl mgmtLine s).authkey ≠ "" := by
      rw [hkey]
      exact lower_ne_empty hre
    unfold AgentState.handle
    rw [if_pos hkind]
    simp only [if_pos hne]
    exact ⟨hkey, trivial⟩
  · exact absurd h (by simp)

/-- Any other response keeps the key, or forgets it with the adoption. -/
theorem handle_silent {response : Obj} (h : issuedKey response = none) (s : AgentState) :
    (s.handle response).authkey = s.authkey ∧ ((s.handle response).adopted = s.adopted ∨ s.authkey ≠ "") ∨
      (s.handle response).authkey = "" ∧ (s.handle response).adopted = false := by
  unfold issuedKey at h
  unfold AgentState.handle
  split at h
  · next hkind =>
    obtain ⟨hkey, hadopted⟩ := foldl_mgmtLine (mgmtLines response) s
    rw [h] at hkey
    have hkey' : ((mgmtLines response).foldl mgmtLine s).authkey = s.authkey := hkey
    rw [if_pos hkind]
    simp only
    split
    · next hne => exact .inl ⟨hkey', .inr (by rwa [hkey'] at hne)⟩
    · exact .inl ⟨hkey', .inl hadopted⟩
  · next hkind =>
    rw [if_neg hkind]
    split
    · exact .inr ⟨rfl, rfl⟩
    · refine .inl ?_
      split
      · exact ⟨(report_authkey ..).1, .inl (report_authkey ..).2⟩
      · split
        · exact ⟨rfl, .inl rfl⟩
        · exact ⟨(report_authkey ..).1, .inl (report_authkey ..).2⟩

/-! ### Runs -/

/-- A state with a key, or that counts as adopted, holds a good key that was issued. -/
def Held (l : AgentLog) (s : AgentState) : Prop :=
  s.adopted = true ∨ s.authkey ≠ "" → ∃ value, Issued l value ∧ authkeyRe value = true ∧
    s.authkey = lower value ∧ GoodKey value

theorem Issued.mono {l : AgentLog} {value : String} (h : Issued l value) (x : Machine.Step Agent Act Unit) :
    Issued (l ++ [x]) value := by
  obtain ⟨y, hy, hissued⟩ := h
  exact ⟨y, List.mem_append_left _ hy, hissued⟩

theorem Held.mono {l : AgentLog} {s : AgentState} (h : Held l s) (x : Machine.Step Agent Act Unit) :
    Held (l ++ [x]) s := by
  intro hs
  obtain ⟨value, hissued, hrest⟩ := h hs
  exact ⟨value, hissued.mono x, hrest⟩

/-- States that agree on the adoption and the key. -/
theorem Held.congr {l : AgentLog} {s s' : AgentState} (h : Held l s) (hkey : s'.authkey = s.authkey)
    (hadopted : s'.adopted = s.adopted) : Held l s' := by
  unfold Held
  rw [hkey, hadopted]
  exact h

theorem held_initial (l : AgentLog) : Held l .initial := by
  rintro (h | h)
  · exact absurd h (by decide)
  · exact absurd rfl h

theorem held_reset (l : AgentLog) (s : AgentState) : Held l s.reset := by
  rintro (h | h)
  · exact absurd h (by simp [AgentState.reset])
  · exact absurd rfl h

theorem held_handle {l : AgentLog} {s : AgentState} (h : Held l s) {x : Machine.Step Agent Act Unit}
    {response : Obj} (hx : x.act.response? = some response) (hsound : Sound x.act) :
    Held (l ++ [x]) (s.handle response) := by
  cases hissue : issuedKey response with
  | some value =>
    intro _
    obtain ⟨hkey, -⟩ := handle_issued hissue s
    exact ⟨value, ⟨x, by simp, response, hx, hissue⟩, authkeyRe_of_issued hissue, hkey,
      hsound response hx value hissue⟩
  | none =>
    rcases handle_silent hissue s with ⟨hkey, hadopted⟩ | ⟨hkey, hadopted⟩
    · intro hs
      rw [hkey] at hs ⊢
      refine h.mono x ?_
      rcases hs with hs | hs
      · rcases hadopted with hsame | hne
        · exact .inl (hsame ▸ hs)
        · exact .inr hne
      · exact .inr hs
    · rintro (hs | hs)
      · rw [hadopted] at hs
        exact absurd hs (by decide)
      · exact absurd hkey hs

/-- What holds of the state in memory and of the saved one. -/
structure HeldBoth (l : AgentLog) (a : Agent) : Prop where
  memory : Held l a.memory
  disk : ∀ s, a.disk = some s → Held l s

theorem HeldBoth.save {l : AgentLog} {a : Agent} (h : HeldBoth l a) (written : Bool) :
    HeldBoth l (a.save written) := by
  unfold Agent.save
  cases written with
  | true => exact ⟨h.memory, fun s hs => Option.some.inj hs ▸ h.memory⟩
  | false => exact h

theorem HeldBoth.handle {l : AgentLog} {a : Agent} (h : HeldBoth l a) {x : Machine.Step Agent Act Unit}
    {response : Obj} (hx : x.act.response? = some response) (hsound : Sound x.act) (written : Bool) :
    HeldBoth (l ++ [x]) (a.handle response written) := by
  have hboth : HeldBoth (l ++ [x]) { a with memory := a.memory.handle response } :=
    ⟨held_handle h.memory hx hsound, fun s hs => (h.disk s hs).mono x⟩
  unfold Agent.handle
  simp only
  split
  · exact hboth.save written
  · exact hboth

theorem heldBoth_step {l : AgentLog} {a a' : Agent} {act : Act} {out : Unit} (h : HeldBoth l a)
    (hstep : Agent.step a act = some (out, a')) (hsound : Sound act) :
    HeldBoth (l ++ [⟨a, act, out, a'⟩]) a' := by
  have hkeep : ∀ x (s : AgentState), s.authkey = a.memory.authkey → s.adopted = a.memory.adopted →
      HeldBoth (l ++ [x]) { a with memory := s } := fun x s hkey hadopted =>
    ⟨(h.memory.congr hkey hadopted).mono x, fun d hd => (h.disk d hd).mono x⟩
  cases act with
  | handle response written =>
    simp only [Agent.step, Option.some.injEq, Prod.mk.injEq, true_and] at hstep
    rw [← hstep]
    exact h.handle rfl hsound written
  | inform response written =>
    simp only [Agent.step, Option.some.injEq, Prod.mk.injEq, true_and] at hstep
    rw [← hstep]
    have hnoted : HeldBoth l { a with memory :=
        { a.memory with lastResponse := (Dict.lookup "_type" response).getD (.str "unknown"), error := none } } :=
      ⟨h.memory.congr rfl rfl, h.disk⟩
    exact (hnoted.handle rfl hsound written).save written
  | synced unsupported written =>
    simp only [Agent.step, Option.some.injEq, Prod.mk.injEq, true_and] at hstep
    rw [← hstep]
    unfold Agent.synced
    apply HeldBoth.save
    apply hkeep <;> rfl
  | failed error written =>
    simp only [Agent.step, Option.some.injEq, Prod.mk.injEq, true_and] at hstep
    rw [← hstep]
    apply HeldBoth.save
    apply hkeep <;> rfl
  | reset written =>
    simp only [Agent.step, Option.some.injEq, Prod.mk.injEq, true_and] at hstep
    rw [← hstep]
    apply HeldBoth.save
    exact ⟨held_reset _ a.memory, fun d hd => (h.disk d hd).mono _⟩
  | restart =>
    simp only [Agent.step, Option.some.injEq, Prod.mk.injEq, true_and] at hstep
    rw [← hstep]
    refine ⟨?_, fun d hd => (h.disk d hd).mono _⟩
    show Held _ (a.disk.getD .initial)
    cases hd : a.disk with
    | none => exact held_initial _
    | some d => exact (h.disk d hd).mono _

theorem heldBoth_run {l : AgentLog} {a : Agent} (h : Machine.Run Agent.step .fresh l a)
    (hsound : ∀ x ∈ l, Sound x.act) : HeldBoth l a := by
  have hstart : HeldBoth [] Agent.fresh := ⟨held_initial _, fun s hs => absurd hs (by simp [Agent.fresh])⟩
  have hrun := h.history HeldBoth (fun _ x => Sound x.act)
    (fun k u act o v hk hs hx => heldBoth_step hk hs hx) [] hstart
    fun l₁ x l₂ hl => hsound x (by simp [hl])
  simpa using hrun

/-- After a response that issues a bad key, the well-known key is used. -/
theorem fallsBack_of_not_sound {a a' : Agent} {act : Act} {out : Unit}
    (hstep : Agent.step a act = some (out, a')) (hbad : ¬ Sound act) :
    a'.memory.adopted = true ∧ a'.memory.key = masterKey := by
  unfold Sound at hbad
  push Not at hbad
  obtain ⟨response, hresponse, value, hissue, hbad⟩ := hbad
  have hre := authkeyRe_of_issued hissue
  have hused : ∀ s : AgentState, (s.handle response).adopted = true ∧ (s.handle response).key = masterKey :=
    fun s => ⟨(handle_issued hissue s).2, (key_eq hre (handle_issued hissue s).1).2 hbad⟩
  have hmem : ∀ (w : Bool) (b : Agent), (b.save w).memory = b.memory := by
    intro w b
    unfold Agent.save
    split <;> rfl
  have hhandle : ∀ (w : Bool) (b : Agent), (b.handle response w).memory = b.memory.handle response := by
    intro w b
    unfold Agent.handle
    simp only
    split
    · rw [hmem]
    · rfl
  cases act with
  | handle r written =>
    simp only [Agent.step, Option.some.injEq, Prod.mk.injEq, true_and] at hstep
    obtain rfl : r = response := Option.some.inj hresponse
    rw [← hstep, hhandle]
    exact hused _
  | inform r written =>
    simp only [Agent.step, Option.some.injEq, Prod.mk.injEq, true_and] at hstep
    obtain rfl : r = response := Option.some.inj hresponse
    rw [← hstep]
    unfold Agent.inform
    rw [hmem, hhandle]
    exact hused _
  | _ => exact absurd hresponse (by simp [Act.response?])

/-- **The key of an adopted gateway**: in a run from a first start it is at every point the issued one,
and not the well-known one, exactly if every key issued in the run is good. -/
theorem neverFallsBack_iff {l : AgentLog} {a : Agent} (h : Machine.Run Agent.step .fresh l a) :
    NeverFallsBack l ↔ ∀ x ∈ l, Sound x.act := by
  constructor
  · intro hnever x hx
    by_contra hbad
    obtain ⟨l₁, l₂, rfl, hbefore, hstep, -⟩ := h.of_mem hx
    obtain ⟨hadopted, hkey⟩ := fallsBack_of_not_sound hstep hbad
    have hrun : Machine.Run Agent.step .fresh (l₁ ++ [x]) x.post :=
      hbefore.append (.cons hstep (.nil _))
    obtain ⟨value, -, -, -, hne⟩ := hnever (l₁ ++ [x]) l₂ x.post (by simp) hrun hadopted
    exact hne hkey
  · intro hsound l₁ l₂ b hl hrun hadopted
    have hboth := heldBoth_run hrun fun x hx => hsound x (by rw [hl]; exact List.mem_append_left _ hx)
    obtain ⟨value, hissued, hre, hkey, hgood⟩ := hboth.memory (.inl hadopted)
    obtain ⟨hread, hne⟩ := (key_eq hre hkey).1 hgood
    exact ⟨value, hissued, hkey, hread, hne⟩

/-! ### A key of 16 bytes, and one of 20 -/

/-- A response that issues a key. -/
def setparam (authkey : String) : Obj :=
  [("_type", .str "setparam"), ("mgmt_cfg", .str ("cfgversion=1\nauthkey=" ++ authkey ++ "\n"))]

/-- Adopted, restarted, and asked to do what the gateway does not support. -/
def adoption : List Act :=
  [.inform (setparam "00112233445566778899AABBCCDDEEFF") true, .restart,
    .inform [("_type", .str "cmd"), ("cmd", .str "reboot")] true]

theorem sound_adoption : ∀ act ∈ adoption, Sound act := by
  have hissue : issuedKey (setparam "00112233445566778899AABBCCDDEEFF") =
      some "00112233445566778899AABBCCDDEEFF" := by decide
  intro act hact response hresponse value hvalue
  simp only [adoption, List.mem_cons, List.not_mem_nil, or_false] at hact
  rcases hact with rfl | rfl | rfl
  · obtain rfl := Option.some.inj hresponse
    obtain rfl := Option.some.inj (hissue.symm.trans hvalue)
    exact ⟨.inl (by decide), by decide⟩
  · exact absurd hresponse (by simp [Act.response?])
  · obtain rfl := Option.some.inj hresponse
    have hsilent : issuedKey [("_type", .str "cmd"), ("cmd", .str "reboot")] = none := by decide
    rw [hsilent] at hvalue
    exact absurd hvalue (by simp)

theorem neverFallsBack_adoption : ∃ l a, Machine.play Agent.step .fresh adoption = some (l, a) ∧
    NeverFallsBack l ∧ a.memory.adopted = true := by
  have hadopted : ((Machine.play Agent.step .fresh adoption).any fun r => r.2.memory.adopted) = true := by
    decide
  obtain ⟨⟨l, a⟩, hplay, ha⟩ := (Option.any_eq_true _ _).mp hadopted
  refine ⟨l, a, hplay, (neverFallsBack_iff (Machine.Run.of_play _ hplay)).mpr fun x hx => ?_, ha⟩
  refine sound_adoption x.act ?_
  rw [← Machine.acts_of_play _ hplay]
  exact List.mem_map_of_mem hx

/-- A key of forty digits is taken over, and the next inform uses the well-known key. -/
theorem fallsBack_long_key : ∃ l a, Machine.Run Agent.step .fresh l a ∧ a.memory.adopted = true ∧
    a.memory.key = masterKey ∧ ¬ NeverFallsBack l := by
  have hplay : ((Agent.step .fresh (.inform (setparam "0123456789012345678901234567890123456789") true)).any
      fun r => r.2.memory.adopted && r.2.memory.key == masterKey) = true := by decide
  obtain ⟨⟨out, a⟩, hstep, ha⟩ := (Option.any_eq_true _ _).mp hplay
  rw [Bool.and_eq_true, beq_iff_eq] at ha
  refine ⟨_, a, .cons hstep (.nil _), ha.1, ha.2, fun hnever => ?_⟩
  obtain ⟨value, -, -, -, hne⟩ := hnever _ [] a rfl (.cons hstep (.nil _)) ha.1
  exact hne ha.2

end Sbegw.Unifi
