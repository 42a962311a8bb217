/-
  icesmtp formalization — the commit contract of a transaction (`handleMAIL`,
  `handleRCPT`, `handleDATA`) over whole runs, with a `Storage`.

  `Engine.committed` lists the envelopes `Storage.Store` accepted so far.  The
  statistics count exactly these, and `OnDataEnd` gets exactly these
  (`CommitInv`).  Within one loop iteration, MAIL opens a builder with its
  path and no recipient, RCPT appends its path exactly when the `Mailbox`
  accepts it, no other iteration changes the builder but to drop it, and DATA
  ends in one of the cases of `DataOutcome`.

  * `Engine.DataOutcome.stores`: DATA calls `Store` at most once, with the
    sealed builder, and answers `250` exactly when it succeeds;
  * `Engine.loopStep_commitInv`: every loop iteration keeps `CommitInv`;
  * `Engine.commit_contract`: `CommitInv` holds of every run, and every
    iteration from a reachable loop top keeps the contract (`CommitContract`).
-/
import Icesmtp.Proof.Handover

namespace Icesmtp

/-- A call of `Storage.Store`, with its envelope and its result. -/
def Event.store? : Event → Option (Envelope × Option Error)
  | .store env err => some (env, err)
  | _ => none

/-- A call of `Storage.Store` that succeeded. -/
def Event.committed? : Event → Option Envelope
  | .store env none => some env
  | _ => none

/-- A call of `OnDataEnd`. -/
def Event.dataEnd? : Event → Option Envelope
  | .onDataEnd env => some env
  | _ => none

namespace Engine

/-- The calls of `Storage.Store` so far. -/
def stores (e : Engine) : List (Envelope × Option Error) := e.log.filterMap Event.store?

/-- The envelopes `Storage.Store` accepted so far. -/
def committed (e : Engine) : List Envelope := e.log.filterMap Event.committed?

/-- The envelopes passed to `OnDataEnd` so far. -/
def dataEnds (e : Engine) : List Envelope := e.log.filterMap Event.dataEnd?

section
variable {e e' : Engine} {evs : List Event}

theorem HandsOver.stores (h : HandsOver e e' evs) :
    e'.stores = e.stores ++ evs.filterMap Event.store? :=
  h _ _ fun ev hev => by cases ev <;> simp_all [Event.envelope?, Event.store?]

theorem HandsOver.committed (h : HandsOver e e' evs) :
    e'.committed = e.committed ++ evs.filterMap Event.committed? :=
  h _ _ fun ev hev => by cases ev <;> simp_all [Event.envelope?, Event.committed?]

theorem HandsOver.dataEnds (h : HandsOver e e' evs) :
    e'.dataEnds = e.dataEnds ++ evs.filterMap Event.dataEnd? :=
  h _ _ fun ev hev => by cases ev <;> simp_all [Event.envelope?, Event.dataEnd?]

theorem Quiet.stores (h : Quiet e e') : e'.stores = e.stores := by simpa using h.log.stores

theorem Quiet.committed (h : Quiet e e') : e'.committed = e.committed := by
  simpa using h.log.committed

theorem Quiet.dataEnds (h : Quiet e e') : e'.dataEnds = e.dataEnds := by
  simpa using h.log.dataEnds

end

/-! ## What DATA commits -/

section
variable {e e' : Engine} {b : StandardEnvelopeBuilder} {r : Response}

/-- The reply of DATA is written in a frame of the handler's result. -/
theorem DataOutcome.frame {e₂ : Engine} (h : DataOutcome e b e₂ r) (hf : Frame e₂ e') :
    DataOutcome e b e' r := by
  have hq := hf.quiet
  cases h with
  | aborted hsm henv hq₂ hr => exact .aborted (hf.sm.trans hsm) (hf.envelope.trans henv) (hq₂.trans hq) hr
  | unread hc hq₂ henv => exact .unread hc (hq₂.trans hq) (hf.envelope.trans henv)
  | storeFailed hov hs hc hst hl henv =>
    exact .storeFailed hov hs (hf.config.trans hc) (hf.stats.trans hst)
      (by simpa using hl.trans hq.log) (hf.envelope.trans henv)
  | committed hov hc hst hl henv =>
    exact .committed hov (hf.config.trans hc) (hf.stats.trans hst)
      (by simpa using hl.trans hq.log) (hf.envelope.trans henv)

/-- DATA keeps the builder only when the `354` cannot be written; otherwise it drops it. -/
theorem DataOutcome.envelope (h : DataOutcome e b e' r) :
    e'.envelope = e.envelope ∨ e'.envelope = none := by
  cases h
  · exact .inl ‹_›
  all_goals exact .inr ‹_›

/-- With a `Storage`, DATA calls `Store` at most once, with the sealed builder, and its
    reply is `250` exactly when `Store` succeeded. -/
theorem DataOutcome.stores (h : DataOutcome e b e' r) (hs : e.config.storage = true) :
    (e'.stores = e.stores ∧ r.code ≠ reply250OK) ∨
    ∃ env res, Handover e b env ∧ e'.stores = e.stores ++ [(env, res)] ∧
      (r.code = reply250OK ↔ res = none) := by
  cases h with
  | aborted _ _ hq hr => exact .inl ⟨hq.stores, hr⟩
  | unread hc hq _ => exact .inl ⟨hq.stores, by rcases hc with hc | hc <;> rw [hc] <;> decide⟩
  | storeFailed hov _ _ _ hl _ =>
    exact .inr ⟨_, _, hov, by simpa [Event.store?] using hl.stores, by simp [newResponse]; decide⟩
  | committed hov _ _ hl _ =>
    refine .inr ⟨_, none, hov, ?_, by simp [newResponse]⟩
    cases hh : e.config.hooks <;> simpa [hs, hh, Event.store?] using hl.stores

/-- A DATA that does not end in `250` commits nothing and calls no `OnDataEnd`. -/
theorem DataOutcome.failed (h : DataOutcome e b e' r) (hr : r.code ≠ reply250OK) :
    e'.stats = e.stats ∧ e'.dataEnds = e.dataEnds := by
  cases h with
  | aborted _ _ hq _ => exact ⟨hq.stats, hq.dataEnds⟩
  | unread _ hq _ => exact ⟨hq.stats, hq.dataEnds⟩
  | storeFailed _ _ _ hst hl _ => exact ⟨hst, by simpa [Event.dataEnd?] using hl.dataEnds⟩
  | committed => simp [newResponse] at hr

end

/-! ## The commit invariant -/

/-- The statistics of a session with a `Storage` count the envelopes `Store` accepted, and
    `OnDataEnd` got exactly these when hooks are set. -/
structure CommitInv (e : Engine) : Prop where
  stats : e.stats = e.committed.foldl SessionStats.commit {}
  dataEnds : e.dataEnds = if e.config.hooks then e.committed else []

theorem CommitInv.quiet {e e' : Engine} (h : e.CommitInv) (hq : Quiet e e') : e'.CommitInv :=
  ⟨by rw [hq.stats, hq.committed, h.stats], by rw [hq.dataEnds, hq.config, hq.committed, h.dataEnds]⟩

/-- DATA keeps the commit invariant: it commits the envelope it stored, and calls
    `OnDataEnd` with it. -/
theorem DataOutcome.commitInv {e e' : Engine} {b : StandardEnvelopeBuilder} {r : Response}
    (h : DataOutcome e b e' r) (hi : e.CommitInv) (hs : e.config.storage = true) :
    e'.CommitInv := by
  cases h with
  | aborted _ _ hq _ => exact hi.quiet hq
  | unread _ hq _ => exact hi.quiet hq
  | storeFailed _ _ hc hst hl _ =>
    have hcm : e'.committed = e.committed := by simpa [Event.committed?] using hl.committed
    have hde : e'.dataEnds = e.dataEnds := by simpa [Event.dataEnd?] using hl.dataEnds
    exact ⟨by rw [hst, hcm, hi.stats], by rw [hde, hc, hcm, hi.dataEnds]⟩
  | @committed env hov hc hst hl _ =>
    have hcm : e'.committed = e.committed ++ [env] := by
      cases hh : e.config.hooks <;> simpa [hs, hh, Event.committed?] using hl.committed
    have hde : e'.dataEnds = e.dataEnds ++ if e.config.hooks then [env] else [] := by
      cases hh : e.config.hooks <;> simpa [hs, hh, Event.dataEnd?] using hl.dataEnds
    refine ⟨by rw [hst, hcm, List.foldl_append, hi.stats]; rfl, ?_⟩
    rw [hde, hc, hcm, hi.dataEnds]
    split <;> simp

section
variable (w : World) {e : Engine}

theorem handleCommand_commitInv (hs : e.ShapeInv) (hsto : e.config.storage = true)
    (h : e.CommitInv) {cmd : Command} (ha : isCommandAllowed e.sm cmd.verb = true) {e' : Engine}
    {r : Response} (hc : e.handleCommand w cmd = some (e', r)) : e'.CommitInv := by
  by_cases hv : cmd.verb = .data
  · have hsm := isCommandAllowed_data (hv ▸ ha)
    rw [handleCommand, hv] at hc
    obtain ⟨b, -, -, -, hout⟩ :=
      handleDATA_outcome w (hs.resolve_left (by simp [hsm, State.isTerminal])) hsm hc
    exact hout.commitInv h hsto
  · exact h.quiet (handleCommand_quiet w cmd hv hc)

/-- Every loop iteration keeps the shape and, with a `Storage`, the commit invariant. -/
theorem loopStep_commitInv {e' : Engine} {st : Step}
    (h : e.ShapeInv ∧ (e.config.storage = true → e.CommitInv)) (hs : e.loopStep w = (e', st)) :
    e'.ShapeInv ∧ (e'.config.storage = true → e'.CommitInv) := by
  refine loopStep_preserves w (P := fun x => x.ShapeInv ∧ (x.config.storage = true → x.CommitInv))
    (fun h hf => ⟨h.1.frame hf, fun hsto => (h.2 (hf.config ▸ hsto)).quiet hf.quiet⟩)
    (fun h => ⟨h.1.abort, fun hsto => (h.2 hsto).quiet (quiet_with_sm _)⟩)
    (fun h ha hr => ?_) (fun h hterm hst hu => ?_) h hs
  · have hc := (handleCommand_keepsSession w _ hr).config
    exact ⟨handleCommand_shapeInv w _ h.1 ha hr, fun hsto =>
      handleCommand_commitInv w h.1 (hc ▸ hsto) (h.2 (hc ▸ hsto)) ha hr⟩
  · have hq := performTLSUpgrade_quiet w hu
    exact ⟨.inr (performTLSUpgrade_shape w (h.1.resolve_left (by simp [hterm])) hst hu),
      fun hsto => (h.2 (hq.config ▸ hsto)).quiet hq⟩

theorem new_commitInv (config : SessionConfig) (conn : Reader) (sid ip : Bytes) :
    (Engine.new config conn sid ip).CommitInv :=
  ⟨rfl, by simp [dataEnds, committed, Engine.new]⟩

theorem Reachable.commitInv (h : Reachable w e) :
    e.ShapeInv ∧ (e.config.storage = true → e.CommitInv) := by
  induction h with
  | start hs =>
    exact ⟨.inr (startup_shape w hs), fun _ => (new_commitInv ..).quiet (startup_quiet w hs)⟩
  | step _ hs ih => exact loopStep_commitInv w ih hs

end

/-! ## One iteration of a transaction -/

/-- The loop iteration from `e` to `e'` reads a line that parses as `cmd` and runs its
    handler: from the frame `e₁` of `e`, the handler returns `e₂` and `resp`, and `resp` is
    written. -/
structure RunsHandler (w : World) (e e' : Engine) (cmd : Command) (e₁ e₂ : Engine)
    (resp : Response) : Prop where
  step : ∃ st, e.loopStep w = (e', st)
  parsed : ∃ line, e.tick.readLine.1 = .ok line ∧ e.parser.parseCommand line = .ok cmd
  frame : Frame e e₁
  allowed : isCommandAllowed e₁.sm cmd.verb = true
  handler : e₁.handleCommand w cmd = some (e₂, resp)
  reply : ∃ err, e₂.writeReply w resp = (e', err)

section
variable (w : World) {e : Engine}

theorem RunsHandler.envelope {e' e₁ e₂ : Engine} {cmd : Command} {resp : Response}
    (h : RunsHandler w e e' cmd e₁ e₂ resp) : e'.envelope = e₂.envelope := by
  obtain ⟨err, hw⟩ := h.reply
  exact (congrArg Prod.fst hw ▸ frame_writeReply w e₂ resp).envelope

/-- The TLS upgrade keeps the builder when it fails and drops it when it succeeds. -/
theorem performTLSUpgrade_envelope {e' : Engine} {err : Option Error}
    (h : e.performTLSUpgrade w = (e', err)) : e'.envelope = e.envelope ∨ e'.envelope = none := by
  unfold performTLSUpgrade at h
  split at h
  · cases h; exact .inl rfl
  dsimp only at h
  split at h <;> cases h
  · exact .inl rfl
  · exact .inr (by simp)

/-- An iteration of the loop keeps or drops the builder, or runs the handler of a command. -/
theorem loopStep_runsHandler {e' : Engine} {st : Step} (hs : e.loopStep w = (e', st)) :
    (e'.envelope = e.envelope ∨ e'.envelope = none) ∨
    ∃ cmd e₁ e₂ resp, RunsHandler w e e' cmd e₁ e₂ resp := by
  rcases loopStep_cases w hs with ⟨hf, -, -⟩ | ⟨-, -, _, hu, -⟩ | ⟨-, -, line, err, hl, hp⟩
  · exact .inl (.inl hf.envelope)
  · exact .inl (performTLSUpgrade_envelope w (e := e.tick) hu)
  have h₀ := (frame_tick e).trans (frame_readLine e.tick)
  rcases processLine_cases w hp with ⟨e₁, hf, rfl | rfl⟩ | ⟨cmd, e₁, e₂, resp, hpc, hf, ha, hc, hw⟩
  · exact .inl (.inl (h₀.trans hf).envelope)
  · exact .inl (.inl (h₀.trans hf).envelope)
  · exact .inr ⟨cmd, e₁, e₂, resp, ⟨st, hs⟩, ⟨line, hl, hpc⟩, h₀.trans hf, ha, hc, err, hw⟩

/-- Every handler but MAIL, RCPT and DATA keeps the builder or drops it. -/
theorem handleCommand_envelope (cmd : Command) (hm : cmd.verb ≠ .mail) (hr : cmd.verb ≠ .rcpt)
    (hd : cmd.verb ≠ .data) {e' : Engine} {r : Response} (h : e.handleCommand w cmd = some (e', r)) :
    e'.envelope = e.envelope ∨ e'.envelope = none := by
  unfold handleCommand at h
  split at h <;> rename_i hc
  case h_3 => exact absurd hc hm
  case h_4 => exact absurd hc hr
  case h_5 => exact absurd hc hd
  all_goals obtain rfl := fst_of_some h
  case h_1 => unfold handleHELO; split; exacts [.inl rfl, .inr rfl]
  case h_2 => unfold handleEHLO; split; exacts [.inl rfl, .inr rfl]
  case h_6 => exact .inr (by simp [handleRSET])
  case h_11 => unfold handleSTARTTLS; split_ifs <;> exact .inl rfl
  all_goals exact .inl rfl

/-- MAIL runs with no builder, and opens one with its path and no recipient exactly when it
    answers `250 OK`. -/
theorem handleMAIL_opens (hs : e.Shape) (ha : e.sm = .identified) (cmd : Command) :
    e.envelope = none ∧ ((e.handleMAIL w cmd).1.envelope = none ∨
      ∃ path b, parseMailPath cmd.argument (ascii "FROM") = .ok path ∧
        (e.handleMAIL w cmd).2 = responseOK ∧ (e.handleMAIL w cmd).1.envelope = some b ∧
        b.mailFrom = some path ∧ b.recipients = []) := by
  have henv : e.envelope = none := by cases hs <;> simp_all
  refine ⟨henv, ?_⟩
  rcases handleMAIL_cases w e cmd with ⟨_, hm⟩ | ⟨_, hm⟩ | ⟨path, e₁, -, -, hp, he₁, hm⟩ <;>
    rw [hm]
  · exact .inl henv
  · exact .inl henv
  · exact .inr ⟨path, StandardEnvelopeBuilder.withSender (w.envelopeID e₁.clock) e₁.envelopeMetadata path cmd.params, hp,
      rfl, by simp [acceptSender_eq], rfl, rfl⟩

/-- RCPT on the open builder `b`: it appends its path when the `Mailbox` accepts it, and
    otherwise keeps `b`, because the path does not parse, `MaxRecipients` is reached, or the
    `Mailbox` refused it with its own response. -/
theorem handleRCPT_appends {b : StandardEnvelopeBuilder} (henv : e.envelope = some b)
    (hb : OpenBuilder b) {cmd : Command} {e' : Engine} {r : Response}
    (h : e.handleRCPT w cmd = some (e', r)) :
    (∃ path, parseMailPath cmd.argument (ascii "TO") = .ok path ∧
      (w.mailbox e.clock).status = .accepted ∧ r = responseOK ∧
      e'.envelope = some { b with recipients := b.recipients ++ [path] }) ∨
    (e'.envelope = some b ∧
      ((∃ err, parseMailPath cmd.argument (ascii "TO") = .error err) ∧
          r = responseSyntaxErrorParams ∨
        (0 < e.config.limits.maxRecipients ∧
          e.config.limits.maxRecipients ≤ b.recipients.length) ∧
          r = newResponse reply452InsufficientStorage (ascii "Too many recipients") ∨
        (w.mailbox e.clock).status ≠ .accepted ∧ r = (w.mailbox e.clock).response)) := by
  rcases handleRCPT_cases w e cmd henv hb h with ⟨rfl, hr⟩ | ⟨rfl, hst, rfl⟩ |
    ⟨path, hp, -, hst, rfl, rfl⟩
  · exact .inr ⟨henv, hr.imp id .inl⟩
  · exact .inr ⟨henv, .inr (.inr ⟨hst, rfl⟩)⟩
  · exact .inl ⟨path, hp, hst, rfl, by simp⟩

end

/-- The commit contract at a loop top `e` of a session with a `Storage`: the statistics and
    the `OnDataEnd` calls so far follow the envelopes `Store` accepted, and the next
    iteration handles MAIL, RCPT and DATA as follows, and changes the builder otherwise
    only to drop it. -/
structure CommitContract (w : World) (e : Engine) : Prop where
  inv : e.CommitInv
  mail : ∀ {e' cmd e₁ e₂ resp}, RunsHandler w e e' cmd e₁ e₂ resp → cmd.verb = .mail →
    e.envelope = none ∧ (e'.envelope = none ∨
      ∃ path b, parseMailPath cmd.argument (ascii "FROM") = .ok path ∧ resp = responseOK ∧
        e'.envelope = some b ∧ b.mailFrom = some path ∧ b.recipients = [])
  rcpt : ∀ {e' cmd e₁ e₂ resp}, RunsHandler w e e' cmd e₁ e₂ resp → cmd.verb = .rcpt →
    ∃ b, e.envelope = some b ∧
      ((∃ path, parseMailPath cmd.argument (ascii "TO") = .ok path ∧
        (w.mailbox e₁.clock).status = .accepted ∧ resp = responseOK ∧
        e'.envelope = some { b with recipients := b.recipients ++ [path] }) ∨
      (e'.envelope = some b ∧
        ((∃ err, parseMailPath cmd.argument (ascii "TO") = .error err) ∧
            resp = responseSyntaxErrorParams ∨
          (0 < e.config.limits.maxRecipients ∧
            e.config.limits.maxRecipients ≤ b.recipients.length) ∧
            resp = newResponse reply452InsufficientStorage (ascii "Too many recipients") ∨
          (w.mailbox e₁.clock).status ≠ .accepted ∧ resp = (w.mailbox e₁.clock).response)))
  data : ∀ {e' cmd e₁ e₂ resp}, RunsHandler w e e' cmd e₁ e₂ resp → cmd.verb = .data →
    ∃ b, e.envelope = some b ∧ b.recipients ≠ [] ∧ DataOutcome e₁ b e' resp
  builder : ∀ {e' st}, e.loopStep w = (e', st) →
    e'.envelope = e.envelope ∨ e'.envelope = none ∨
      ∃ cmd e₁ e₂ resp, RunsHandler w e e' cmd e₁ e₂ resp ∧ (cmd.verb = .mail ∨ cmd.verb = .rcpt)

section
variable (w : World) {e : Engine}

/-- The handler an iteration from a loop top of shape `e` runs starts from a shape. -/
theorem RunsHandler.shape {e' e₁ e₂ : Engine} {cmd : Command} {resp : Response}
    (hs : e.ShapeInv) (h : RunsHandler w e e' cmd e₁ e₂ resp) : e₁.Shape :=
  (hs.frame h.frame).resolve_left fun ht => by
    rcases isCommandAllowed_states h.allowed with h' | h' | h' | h' <;> simp [h', State.isTerminal] at ht

theorem RunsHandler.data_outcome {e' e₁ e₂ : Engine} {cmd : Command} {resp : Response}
    (hs : e.ShapeInv) (h : RunsHandler w e e' cmd e₁ e₂ resp) (hv : cmd.verb = .data) :
    ∃ b, e.envelope = some b ∧ b.recipients ≠ [] ∧ DataOutcome e₁ b e' resp := by
  have hsm := isCommandAllowed_data (hv ▸ h.allowed)
  have hc := h.handler
  rw [handleCommand, hv] at hc
  obtain ⟨b, hb, -, hne, hout⟩ := handleDATA_outcome w (h.shape w hs) hsm hc
  obtain ⟨err, hw⟩ := h.reply
  have hf := frame_writeReply w e₂ resp
  rw [hw] at hf
  exact ⟨b, h.frame.envelope ▸ hb, hne, hout.frame hf⟩

theorem reachable_commitContract (hr : Reachable w e) (hsto : e.config.storage = true) :
    CommitContract w e := by
  obtain ⟨hs, hi⟩ := hr.commitInv
  refine ⟨hi hsto, fun h hv => ?_, fun h hv => ?_, fun h hv => h.data_outcome w hs hv,
    fun hl => ?_⟩
  · have hsm := isCommandAllowed_mail (hv ▸ h.allowed)
    have hc := h.handler
    rw [handleCommand, hv] at hc
    obtain ⟨rfl, rfl⟩ := Prod.ext_iff.1 (Option.some.inj hc.symm)
    rw [h.envelope, ← h.frame.envelope]
    exact handleMAIL_opens w (h.shape w hs) hsm _
  · obtain ⟨b, hb, htx, -⟩ := (h.shape w hs).txn (isCommandAllowed_rcpt (hv ▸ h.allowed))
    have hc := h.handler
    rw [handleCommand, hv] at hc
    refine ⟨b, h.frame.envelope ▸ hb, ?_⟩
    rw [h.envelope, ← h.frame.config]
    exact handleRCPT_appends w hb htx.isOpen hc
  · rcases loopStep_runsHandler w hl with h | ⟨cmd, e₁, e₂, resp, h⟩
    · exact h.imp_right .inl
    by_cases hm : cmd.verb = .mail ∨ cmd.verb = .rcpt
    · exact .inr (.inr ⟨cmd, e₁, e₂, resp, h, hm⟩)
    by_cases hd : cmd.verb = .data
    · obtain ⟨b, -, -, hout⟩ := h.data_outcome w hs hd
      rw [← h.frame.envelope]
      exact hout.envelope.imp_right .inl
    push_neg at hm
    rw [h.envelope, ← h.frame.envelope]
    exact (handleCommand_envelope w cmd hm.1 hm.2 hd h.handler).imp_right .inl

end

/-- Collaborators that accept every sender and store every message, with a `Mailbox` that
    accepts the recipients it checks before clock 9 and refuses later ones with `250 OK`. -/
def okRefusalWorld : World :=
  { quietWorld with
    mailbox := fun n => if n < 9 then { status := .accepted, response := responseOK }
      else { status := .rejected, response := responseOK } }

/-- A client that sends one message to two recipients, to a server with a `Storage`. -/
def twoRecipientSession : Engine :=
  Engine.new { serverHostname := ascii "mx", storage := true }
    { buf := [], final := .eof,
      src := [.data (ascii "HELO c\r\nMAIL FROM:<a@b>\r\nRCPT TO:<u@x>\r\n" ++
        ascii "RCPT TO:<v@x>\r\nDATA\r\nhi\r\n.\r\nQUIT\r\n")] }
    [] []

/-- `okRefusalWorld` on a connection where the write at clock 13, the `354` of
    `twoRecipientSession`, fails. -/
def unwritable354RefusalWorld : World :=
  { okRefusalWorld with writeErr := fun n => if n = 13 then some .closedPipe else none }

end Engine

end Icesmtp
