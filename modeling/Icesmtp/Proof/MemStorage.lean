/-
  icesmtp formalization — what a `mem.Storage` holds after any sequence of calls.

  The abstract storage is a function from envelope ids to messages, which `Call.apply`
  updates: a store puts the envelope and its data under its id, a `StoreStream` whose
  reader fails changes nothing, `Delete` empties one id and `Clear` all of them.

  * `get_step`, `get_run`: `Get` on the map is the abstract storage, after one call and
    after every run from `NewStorage`;
  * `metrics_step`, `metrics_run`: the metrics count the stores, their bytes and the failed
    `StoreStream`s of the whole run, modulo `2^64`; `Delete` and `Clear` leave them;
  * `run_stores`: stores of envelopes with distinct ids leave one message per envelope,
    each under its id.
-/
import Icesmtp.Mem
import Mathlib.Data.UInt

namespace Icesmtp

theorem toUInt64_add (a b : Nat) : (a + b).toUInt64 = a.toUInt64 + b.toUInt64 := by
  apply UInt64.toNat.inj
  show (a + b) % _ = ((a % _) + (b % _)) % _
  omega

@[simp] theorem toUInt64_zero : (0 : Nat).toUInt64 = 0 := rfl
@[simp] theorem toUInt64_one : (1 : Nat).toUInt64 = 1 := rfl

namespace Mem

namespace Storage

/-! ## The abstract storage -/

/-- What a call does to the messages, by id. -/
def Call.apply (f : Bytes → Option StoredMessage) : Call → Bytes → Option StoredMessage
  | .store env => Function.update f env.id (some { envelope := env, data := env.data })
  | .storeStream env (.ok buf) => Function.update f env.id (some { envelope := env, data := buf })
  | .storeStream _ (.error _) => f
  | .delete id => Function.update f id none
  | .clear => fun _ => none

/-- The data a call stores, if it stores. -/
def Call.stored : Call → Option Bytes
  | .store env => some env.data
  | .storeStream _ (.ok buf) => some buf
  | _ => none

/-- A `StoreStream` whose reader failed. -/
def Call.failed : Call → Bool
  | .storeStream _ (.error _) => true
  | _ => false

section
variable (s : Storage)

@[simp] theorem storeData_messages (env : Envelope) (data : Bytes) :
    (s.storeData env data).2.messages = s.messages.insert env.id { envelope := env, data } := rfl

theorem get_storeData (env : Envelope) (data : Bytes) :
    (s.storeData env data).2.get =
      Function.update s.get env.id (some { envelope := env, data }) := by
  funext id
  by_cases h : id = env.id
  · subst h; simp [get, AList.lookup_insert]
  · simp [get, AList.lookup_insert_ne h, Function.update_noteq h]

/-- One call on the map is the call on the abstract storage. -/
theorem get_step (c : Call) : (s.step c).get = Call.apply s.get c := by
  cases c with
  | store env => exact get_storeData s env env.data
  | storeStream env data =>
    cases data with
    | error => rfl
    | ok buf => exact get_storeData s env buf
  | delete id =>
    funext id'
    simp only [step, delete, Call.apply]
    split_ifs with h
    · by_cases hid : id' = id
      · subst hid; simp [get, AList.lookup_erase]
      · simp [get, AList.lookup_erase_ne hid, Function.update_noteq hid]
    · by_cases hid : id' = id
      · subst hid; simpa [get] using h
      · simp [Function.update_noteq hid]
  | clear => funext id; simp [step, clear, get, Call.apply, AList.lookup_empty]

/-- The metrics after one call: a store counts one message and its bytes, a failed
    `StoreStream` one error. -/
theorem metrics_step (c : Call) :
    (s.step c).metrics =
      { messagesStored := s.metrics.messagesStored + ([c].filterMap Call.stored).length.toUInt64,
        bytesStored :=
          s.metrics.bytesStored + (([c].filterMap Call.stored).map List.length).sum.toUInt64,
        storeErrors := s.metrics.storeErrors + ([c].filter Call.failed).length.toUInt64 } := by
  cases c with
  | store => simp [step, store, storeData, Call.stored, Call.failed]
  | storeStream env data =>
    cases data <;> simp [step, storeStream, storeData, Call.stored, Call.failed]
  | delete id =>
    simp only [step, delete]
    split_ifs <;> simp [Call.stored, Call.failed]
  | clear => simp [step, clear, Call.stored, Call.failed]

end

/-! ## Whole runs -/

theorem get_foldl (calls : List Call) (s : Storage) :
    (calls.foldl step s).get = calls.foldl Call.apply s.get := by
  induction calls generalizing s with
  | nil => rfl
  | cons c calls ih => rw [List.foldl_cons, List.foldl_cons, ih, get_step]

/-- After any calls from `NewStorage`, `Get` returns, for each id, the message of the last
    store of it after its last `Delete` and the last `Clear`. -/
theorem get_run (calls : List Call) : (run calls).get = calls.foldl Call.apply fun _ => none := by
  rw [run, get_foldl]
  rfl

theorem metrics_foldl (calls : List Call) (s : Storage) :
    (calls.foldl step s).metrics =
      { messagesStored :=
          s.metrics.messagesStored + (calls.filterMap Call.stored).length.toUInt64,
        bytesStored :=
          s.metrics.bytesStored + ((calls.filterMap Call.stored).map List.length).sum.toUInt64,
        storeErrors := s.metrics.storeErrors + (calls.filter Call.failed).length.toUInt64 } := by
  induction calls generalizing s with
  | nil => simp
  | cons c calls ih =>
    have hs : (c :: calls).filterMap Call.stored =
        [c].filterMap Call.stored ++ calls.filterMap Call.stored := List.filterMap_append [c] calls _
    have hf : (c :: calls).filter Call.failed = [c].filter Call.failed ++ calls.filter Call.failed :=
      List.filter_append [c] calls
    rw [List.foldl_cons, ih, metrics_step, hs, hf]
    simp only [List.map_append, List.sum_append, List.length_append, toUInt64_add, add_assoc]

/-- After any calls from `NewStorage`, `MessagesStored` and `BytesStored` count every store
    of the run and its bytes, and `StoreErrors` every failed `StoreStream`, all modulo
    `2^64`: `Delete` and `Clear` never take anything back. -/
theorem metrics_run (calls : List Call) :
    (run calls).metrics =
      { messagesStored := (calls.filterMap Call.stored).length.toUInt64,
        bytesStored := ((calls.filterMap Call.stored).map List.length).sum.toUInt64,
        storeErrors := (calls.filter Call.failed).length.toUInt64 } := by
  rw [run, metrics_foldl]
  simp [newStorage]

/-! ## Runs of stores with distinct ids -/

section
variable {envs : List Envelope}

theorem get_foldl_stores_of_not_mem {id : Bytes} (h : id ∉ envs.map Envelope.id) (s : Storage) :
    ((envs.map Call.store).foldl step s).get id = s.get id := by
  induction envs generalizing s with
  | nil => rfl
  | cons env envs ih =>
    simp only [List.map_cons, List.mem_cons, not_or] at h
    rw [List.map_cons, List.foldl_cons, ih h.2, get_step, Call.apply, Function.update_noteq h.1]

theorem get_foldl_stores (h : (envs.map Envelope.id).Nodup) (s : Storage) :
    ∀ env ∈ envs, ((envs.map Call.store).foldl step s).get env.id =
      some { envelope := env, data := env.data } := by
  induction envs generalizing s with
  | nil => simp
  | cons env envs ih =>
    rw [List.map_cons, List.nodup_cons] at h
    intro env' hm
    rw [List.map_cons, List.foldl_cons]
    rcases List.mem_cons.1 hm with rfl | hm
    · rw [get_foldl_stores_of_not_mem h.1, get_step, Call.apply, Function.update_same]
    · exact ih h.2 _ env' hm

theorem count_foldl_stores (h : (envs.map Envelope.id).Nodup) (s : Storage)
    (hs : ∀ env ∈ envs, s.get env.id = none) :
    ((envs.map Call.store).foldl step s).count = s.count + envs.length := by
  induction envs generalizing s with
  | nil => rfl
  | cons env envs ih =>
    rw [List.map_cons, List.nodup_cons] at h
    have hnew : env.id ∉ s.messages := AList.lookup_eq_none.1 (hs env (List.mem_cons_self _ _))
    have hs' : ∀ env' ∈ envs, (s.step (.store env)).get env'.id = none := fun env' hm => by
      have hne : env'.id ≠ env.id := fun he => h.1 (he ▸ List.mem_map_of_mem _ hm)
      rw [get_step, Call.apply, Function.update_noteq hne]
      exact hs env' (List.mem_cons_of_mem _ hm)
    rw [List.map_cons, List.foldl_cons, ih h.2 _ hs', List.length_cons]
    simp only [step, store, storeData, count, AList.insert_entries_of_neg hnew, List.length_cons]
    omega

/-- From `NewStorage`, stores of envelopes with distinct ids leave one message per
    envelope, and `Get` of each id returns its envelope and data. -/
theorem run_stores (h : (envs.map Envelope.id).Nodup) :
    (run (envs.map Call.store)).count = envs.length ∧
      ∀ env ∈ envs, (run (envs.map Call.store)).get env.id =
        some { envelope := env, data := env.data } :=
  ⟨(count_foldl_stores h newStorage fun _ _ => AList.lookup_empty _).trans (Nat.zero_add _),
    get_foldl_stores h newStorage⟩

end

end Storage

end Mem

end Icesmtp
