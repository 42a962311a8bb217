/-
  icesmtp formalization — the envelopes a session hands over
  (`Storage.Store`, `Hooks.OnDataEnd`).

  `Engine.handovers` lists the envelopes of the `Store` and `OnDataEnd` calls
  so far.  Every step but DATA leaves them and the statistics alone (`Quiet`);
  DATA on an open transaction hands over only the transaction's builder sealed
  with the body that `readData` took after the `354` (`Handover`).

  * `Engine.handleCommand_quiet`: every handler but DATA is quiet;
  * `Engine.handleDATA_handover`: what DATA hands over and commits;
  * `Engine.loopStep_handover`: one loop iteration is quiet, or a DATA on the
    open transaction of a reachable shape.
-/
import Icesmtp.Proof.DataFraming
import Icesmtp.Proof.Shape

namespace Icesmtp

/-- The envelope an event hands over. -/
def Event.envelope? : Event → Option Envelope
  | .store env _ => some env
  | .onDataEnd env => some env
  | _ => none

theorem Event.envelope?_of_isExchange {ev : Event} (h : ev.isExchange) : ev.envelope? = none := by
  cases ev <;> simp_all [Event.isExchange, Event.envelope?]

/-- The statistics after a commit of `env`. -/
def SessionStats.commit (s : SessionStats) (env : Envelope) : SessionStats :=
  { transactionCount := s.transactionCount + 1, messageCount := s.messageCount + 1,
    recipientCount := s.recipientCount + env.recipientCount }

namespace Engine

/-- The envelopes passed to `Storage.Store` and `OnDataEnd` so far. -/
def handovers (e : Engine) : List Envelope := e.log.filterMap Event.envelope?

section
variable (e : Engine)

@[simp] theorem handovers_emit (ev : Event) :
    (e.emit ev).handovers = e.handovers ++ ev.envelope?.toList := by
  cases h : ev.envelope? <;> simp [handovers, h]
@[simp] theorem handovers_tick : e.tick.handovers = e.handovers := rfl
@[simp] theorem handovers_setState (s : State) : (e.setState s).handovers = e.handovers := rfl
@[simp] theorem handovers_resetTransaction : e.resetTransaction.handovers = e.handovers := rfl
@[simp] theorem handovers_hook (ev : Event) :
    (e.hook ev).handovers = if e.config.hooks then e.handovers ++ ev.envelope?.toList
      else e.handovers := by
  unfold hook; split <;> simp

end

/-! ## Quiet steps -/

/-- `e'` extends the log of `e`, and of the events it adds, those that hand over an
    envelope are `evs`: every view of the log that sees only such events grows by `evs`. -/
def HandsOver (e e' : Engine) (evs : List Event) : Prop :=
  ∀ (α : Type) (f : Event → Option α), (∀ ev, ev.envelope? = none → f ev = none) →
    e'.log.filterMap f = e.log.filterMap f ++ evs.filterMap f

theorem HandsOver.of_log_eq {e e' : Engine} (h : e'.log = e.log) : HandsOver e e' [] :=
  fun _ _ _ => by simp [h]

theorem HandsOver.trans {e₁ e₂ e₃ : Engine} {evs₁ evs₂ : List Event} (h₁ : HandsOver e₁ e₂ evs₁)
    (h₂ : HandsOver e₂ e₃ evs₂) : HandsOver e₁ e₃ (evs₁ ++ evs₂) := fun α f hf => by
  rw [h₂ α f hf, h₁ α f hf, List.filterMap_append, List.append_assoc]

theorem HandsOver.handovers {e e' : Engine} {evs : List Event} (h : HandsOver e e' evs) :
    e'.handovers = e.handovers ++ evs.filterMap Event.envelope? :=
  h _ _ fun _ h => h

/-- `e'` is `e` after a step that hands over no envelope and commits nothing. -/
structure Quiet (e e' : Engine) : Prop where
  config : e'.config = e.config
  stats : e'.stats = e.stats
  log : HandsOver e e' []

theorem Quiet.handovers {e e' : Engine} (h : Quiet e e') : e'.handovers = e.handovers := by
  simpa using h.log.handovers

theorem Quiet.refl (e : Engine) : Quiet e e := ⟨rfl, rfl, .of_log_eq rfl⟩

theorem Quiet.trans {e₁ e₂ e₃ : Engine} (h₁ : Quiet e₁ e₂) (h₂ : Quiet e₂ e₃) : Quiet e₁ e₃ :=
  ⟨h₂.config.trans h₁.config, h₂.stats.trans h₁.stats, h₁.log.trans h₂.log⟩

theorem Frame.quiet {e e' : Engine} (h : Frame e e') : Quiet e e' := by
  obtain ⟨evs, hl, hx⟩ := h.log
  refine ⟨h.config, h.stats, fun _ f hf => ?_⟩
  have hnil : evs.filterMap f = [] :=
    List.filterMap_eq_nil_iff.2 fun ev hev => hf ev (Event.envelope?_of_isExchange (hx ev hev))
  rw [hl, List.filterMap_append, hnil]
  rfl

theorem quiet_with_sm {e : Engine} (sm : State) : Quiet e { e with sm } := ⟨rfl, rfl, .of_log_eq rfl⟩

theorem quiet_hook (e : Engine) (ev : Event) (h : ev.envelope? = none) : Quiet e (e.hook ev) :=
  ⟨by simp, by simp, fun _ f hf => by simp [hf ev h]⟩

theorem quiet_setState (e : Engine) (s : State) : Quiet e (e.setState s) :=
  ⟨rfl, rfl, .of_log_eq rfl⟩

theorem handleDisconnect_quiet (e : Engine) (reason : DisconnectReason) (err : Option Error) :
    Quiet e (e.handleDisconnect reason err).1 := by
  unfold handleDisconnect
  split
  · exact .refl e
  · have h₁ : Quiet e { e with closed := true } := ⟨rfl, rfl, .of_log_eq rfl⟩
    exact h₁.trans (quiet_hook _ (.onDisconnect reason) rfl)

section
variable (w : World) {e : Engine}

theorem readData_eq_with {res : Except Error Bytes} {e₂ : Engine} (h : e.readData w = (res, e₂)) :
    ∃ conn clock, e₂ = { e with conn, clock } := by
  obtain ⟨conn, clock, h'⟩ := readDataLoop_snd w (e.conn.size + 1) [] e
  exact ⟨conn, clock, by rw [← h', ← readData, h]⟩

@[simp] theorem startData_conn : (e.startData w).1.conn = e.conn := by simp [startData]
theorem startData_quiet : Quiet e (e.startData w).1 :=
  ⟨by simp, by simp, fun _ f hf => by simp [startData, hf, Event.envelope?]⟩

theorem handleRCPT_quiet (cmd : Command) {e' : Engine} {r : Response}
    (h : e.handleRCPT w cmd = some (e', r)) : Quiet e e' := by
  unfold handleRCPT at h
  split at h
  · cases h; exact .refl e
  split at h
  · cases h
  · cases h; exact .refl e
  dsimp only at h
  split at h
  · cases h; exact (frame_tick e).quiet
  unfold acceptRecipient at h
  cases hb : e.envelope with
  | none => simp [hb, Option.bind_eq_bind] at h
  | some b =>
    simp only [tick_envelope, hb, Option.bind_eq_bind, Option.some_bind] at h
    split at h <;> cases h
    · exact (frame_tick e).quiet
    · exact ⟨by simp, by simp, fun _ f hf => by simp [hf, Event.envelope?]⟩

/-- Every handler but DATA hands over nothing and commits nothing. -/
theorem handleCommand_quiet (cmd : Command) (hv : cmd.verb ≠ .data) {e' : Engine} {r : Response}
    (h : e.handleCommand w cmd = some (e', r)) : Quiet e e' := by
  unfold handleCommand at h
  split at h
  case h_4 => exact handleRCPT_quiet w cmd h
  case h_5 => exact absurd ‹_› hv
  all_goals obtain rfl := fst_of_some h
  case h_1 => unfold handleHELO; split <;> exact ⟨by simp, by simp, .of_log_eq rfl⟩
  case h_2 => unfold handleEHLO; split <;> exact ⟨by simp, by simp, .of_log_eq rfl⟩
  case h_3 =>
    rcases handleMAIL_cases w e cmd with ⟨_, hm⟩ | ⟨_, hm⟩ | ⟨_, e₁, -, -, -, rfl | rfl, hm⟩ <;>
      rw [hm]
    · exact .refl e
    · exact (frame_tick e).quiet
    all_goals rw [acceptSender_eq]; exact ⟨by simp, by simp, fun _ f hf => by simp [hf, Event.envelope?]⟩
  case h_6 => exact ⟨by simp [handleRSET], by simp [handleRSET], .of_log_eq rfl⟩
  case h_8 => exact quiet_with_sm _
  case h_11 => unfold handleSTARTTLS; split_ifs <;> exact ⟨by simp, by simp, .of_log_eq rfl⟩
  all_goals exact .refl e

/-- `Run` before the loop hands over nothing. -/
theorem startup_quiet {e' : Engine} {o : Option Outcome} (h : e.startup w = (e', o)) :
    Quiet e e' := by
  unfold startup at h
  split at h
  · cases h; exact quiet_with_sm _
  rename_i sm _
  dsimp only at h
  have h₁ : Quiet e ({ e with sm }.hook .onConnect) :=
    (quiet_with_sm sm).trans (quiet_hook _ .onConnect rfl)
  split at h
  · rename_i e₂ _ hw
    obtain rfl := congrArg Prod.fst h
    have h₂ := h₁.trans ((frame_writeResponse w _ _).quiet.trans (by rw [hw]; exact .refl e₂))
    exact h₂.trans (handleDisconnect_quiet _ _ _)
  · rename_i e₂ hw
    have h₂ := h₁.trans ((frame_writeResponse w _ _).quiet.trans (by rw [hw]; exact .refl e₂))
    split at h <;> cases h
    · exact h₂.trans (quiet_with_sm _)
    · exact h₂.trans ((quiet_with_sm _).trans (quiet_setState _ _))

/-- The TLS upgrade hands over nothing. -/
theorem performTLSUpgrade_quiet {e' : Engine} {err : Option Error}
    (h : e.performTLSUpgrade w = (e', err)) : Quiet e e' := by
  unfold performTLSUpgrade at h
  split at h
  · cases h; exact (frame_tick e).quiet
  dsimp only at h
  split at h <;> cases h
  · exact ⟨by simp, by simp, fun _ f hf => by simp [hf, Event.envelope?]⟩
  · exact ⟨by simp, by simp, fun _ f hf => by simp [hf, Event.envelope?]⟩

/-- The configuration of a session never changes. -/
theorem loopStep_config {e' : Engine} {st : Step} (hs : e.loopStep w = (e', st)) :
    e'.config = e.config :=
  loopStep_preserves w (P := fun x => x.config = e.config) (fun h hf => hf.config.trans h)
    (fun h => h) (fun h _ hr => (handleCommand_keepsSession w _ hr).config.trans h)
    (fun h _ _ hu => (performTLSUpgrade_quiet w hu).config.trans h) rfl hs

/-! ## DATA -/

/-- What DATA hands over from the open transaction `b` of `e`: `b` sealed with the
    unstuffed body lines that `readData` took from the stream after the `354`, within
    `MaxMessageSize`. -/
structure Handover (e : Engine) (b : StandardEnvelopeBuilder) (env : Envelope) : Prop where
  body : ∃ (ls : List Bytes) (t rest : Bytes), (∀ l ∈ ls, BodyLine e.config.limits.maxLineLength l) ∧ IsLine t ∧
    isTerminator t = true ∧ e.conn.stream = ls.flatten ++ t ++ rest ∧
    env = b.sealWith (ls.map unstuffLine).flatten
  size_le : 0 < e.config.limits.maxMessageSize →
    (env.dataSize : Int) ≤ e.config.limits.maxMessageSize

/-- What DATA does on an open transaction with the builder `b`: its reply, the envelopes it
    hands to `Storage.Store` and `OnDataEnd`, and the statistics. -/
inductive DataOutcome (e : Engine) (b : StandardEnvelopeBuilder) : Engine → Response → Prop
  /-- the `354` cannot be written: `Abort`, and no `250` -/
  | aborted {e' r} : e'.sm = .aborted → e'.envelope = e.envelope → Quiet e e' →
      r.code ≠ reply250OK → DataOutcome e b e' r
  /-- the body cannot be read, or it exceeds `MaxMessageSize`: `451` or `552` -/
  | unread {e' r} : (r.code = reply451LocalError ∨ r.code = reply552ExceededStorage) →
      Quiet e e' → e'.envelope = none → DataOutcome e b e' r
  /-- `Storage.Store` fails: `451`, and nothing is committed -/
  | storeFailed {e' env err} : Handover e b env → e.config.storage = true →
      e'.config = e.config → e'.stats = e.stats → HandsOver e e' [.store env (some err)] →
      e'.envelope = none →
      DataOutcome e b e' (newResponse reply451LocalError (ascii "Unable to store message"))
  /-- the envelope is committed, after a `Storage.Store` that succeeds when one is
      configured: `250`, the statistics count it, and `OnDataEnd` gets it -/
  | committed {e' env} : Handover e b env → e'.config = e.config →
      e'.stats = e.stats.commit env →
      HandsOver e e' ((if e.config.storage then [.store env none] else []) ++
        if e.config.hooks then [.onDataEnd env] else []) →
      e'.envelope = none →
      DataOutcome e b e' (newResponse reply250OK (ascii "OK, message " ++ env.id ++ ascii " accepted"))

/-- DATA on an open transaction ends in one of the cases of `DataOutcome`. -/
theorem handleDATA_outcome (hs : e.Shape) (ha : e.sm = .rcptTo) {e' : Engine} {r : Response}
    (h : e.handleDATA w = some (e', r)) :
    ∃ b, e.envelope = some b ∧ e.Txn b ∧ b.recipients ≠ [] ∧ DataOutcome e b e' r := by
  obtain ⟨b, hb, htx, hne⟩ : ∃ b, e.envelope = some b ∧ e.Txn b ∧ b.recipients ≠ [] := by
    cases hs <;> simp_all
  refine ⟨b, hb, htx, hne, ?_⟩
  have hsd := startData_quiet w (e := e)
  rcases handleDATA_cases w e h with ⟨_, -, rfl, rfl⟩ | ⟨-, ⟨_, e₂, hd, he⟩ | ⟨_, e₂, hd, -, -, he⟩ |
      ⟨data, e₂, hd, hsz, he⟩⟩
  · exact .aborted (by simp only [startData_sm, ha]; decide) (by simp) (hsd.trans (quiet_with_sm _))
      (by decide)
  all_goals obtain ⟨conn, clock, rfl⟩ := readData_eq_with w hd
  · obtain ⟨rfl, rfl⟩ := Prod.ext_iff.1 he
    exact .unread (.inl rfl) (hsd.trans ⟨by simp, by simp, .of_log_eq rfl⟩) (by simp)
  · obtain ⟨rfl, rfl⟩ := Prod.ext_iff.1 he
    exact .unread (.inr rfl) (hsd.trans ⟨by simp, by simp, .of_log_eq rfl⟩) (by simp)
  obtain ⟨ls, t, hls, ht, htt, hst, -, hdata⟩ := readData_ok w (Prod.ext_iff.1 hd).1
  have hov : Handover e b (b.sealWith data) := by
    refine ⟨⟨ls, t, _, by simpa using hls, ht, htt, by simpa using hst, by rw [hdata]⟩, fun hpos => ?_⟩
    simp only [Envelope.dataSize, StandardEnvelopeBuilder.sealWith]
    omega
  rw [acceptBody_of_open w _ (by simpa using hb) htx.isOpen hne, Option.some.injEq] at he
  rcases commit_cases w { (e.startData w).1 with conn, clock, envelope := some (b.sealedWith data) }
      (b.sealWith data) with ⟨err, hsto, -, hc⟩ | ⟨e₁, he₁, hc⟩ <;> rw [hc] at he <;>
    obtain ⟨rfl, rfl⟩ := Prod.ext_iff.1 he
  · exact @DataOutcome.storeFailed e b _ _ err hov (by simpa using hsto) (by simp) (by simp)
      (hsd.log.trans fun _ f hf => by simp [dataFailure, hf, Event.envelope?]) (by simp)
  · rcases he₁ with ⟨hsto, rfl⟩ | ⟨hsto, -, rfl⟩ <;> simp only [startData_config] at hsto <;>
      refine .committed hov (by simp) (by simp [SessionStats.commit])
        (hsd.log.trans fun _ f hf => ?_) (by simp) <;>
      cases hh : e.config.hooks <;> simp [hsto, hh, hf, Event.envelope?]

/-- DATA on an open transaction: it hands over only `Handover` envelopes, and either keeps
    the statistics or commits one of them. -/
theorem handleDATA_handover (hs : e.Shape) (ha : e.sm = .rcptTo) {e' : Engine} {r : Response}
    (h : e.handleDATA w = some (e', r)) :
    ∃ b, e.envelope = some b ∧ e.Txn b ∧ b.recipients ≠ [] ∧ e'.config = e.config ∧
      (∀ env ∈ e'.handovers, env ∈ e.handovers ∨ Handover e b env) ∧
      (e'.stats = e.stats ∨ ∃ env, Handover e b env ∧ e'.stats = e.stats.commit env) := by
  obtain ⟨b, hb, htx, hne, hout⟩ := handleDATA_outcome w hs ha h
  refine ⟨b, hb, htx, hne, ?_⟩
  cases hout with
  | aborted _ _ hq _ => exact ⟨hq.config, fun env hm => .inl (hq.handovers ▸ hm), .inl hq.stats⟩
  | unread _ hq _ => exact ⟨hq.config, fun env hm => .inl (hq.handovers ▸ hm), .inl hq.stats⟩
  | storeFailed hov _ hc hst hl _ =>
    refine ⟨hc, fun env hm => ?_, .inl hst⟩
    rw [hl.handovers] at hm
    simp only [List.filterMap_cons, Event.envelope?, List.filterMap_nil, List.mem_append,
      List.mem_singleton] at hm
    rcases hm with hm | rfl
    exacts [.inl hm, .inr hov]
  | committed hov hc hst hl _ =>
    refine ⟨hc, fun env hm => ?_, .inr ⟨_, hov, hst⟩⟩
    rw [hl.handovers] at hm
    rcases List.mem_append.1 hm with hm | hm
    · exact .inl hm
    · refine .inr ?_
      split_ifs at hm <;> simp [Event.envelope?] at hm <;> rcases hm with rfl | rfl <;> exact hov

end

end Engine

end Icesmtp
