/-
  icesmtp formalization — a session in which everything is accepted delivers what the
  client sends.

  `Accepting w`: no context error, no failed write, no `OnCommand` veto, every sender and
  recipient accepted and every `Store` call taken.  `At config p s b n e` is a loop top of
  such a session: the state `s` in both the state machine and the session state, the
  builder `b`, `n` transactions done.  A `Transaction` is what the client writes between
  HELO and QUIT for one message, `Transaction.Fits` what the limits allow of it.

  * one step lemma per command, from one loop top to the next: `loopStep_helo`,
    `loopStep_mail`, `loopStep_rcpt`, `loopStep_data`, `loopStep_quit`, each with the
    lines and replies it adds to the talk and the envelopes it hands to `Store`;
  * `loop_rcpts`, `loop_transaction`, `loop_transactions`: the steps chained over the
    recipients of a transaction and over the transactions of a session (`loop_of_next`);
  * `run_delivers`: `Run` greets, answers every command, stores every transaction as an
    envelope with the transaction's paths and body (`Transaction.Delivered`), and returns
    without an error after QUIT; `run_delivers_ids` adds that the envelope ids are the
    world's ids at increasing clocks, one clock per MAIL.
-/
import Icesmtp.Proof.ClientLines

namespace Icesmtp

/-- Dot-stuffing never shortens a body. -/
theorem flatten_length_le_stuffed (body : List Bytes) :
    body.flatten.length ≤ (body.map stuffLine).flatten.length := by
  induction body with
  | nil => simp
  | cons l body ih =>
    have := length_le_stuffLine l
    simp only [List.flatten_cons, List.map_cons, List.length_append]
    omega

/-- A path the client can send in a delivering session: on one line, without a `>`, in a
    command line the parser takes, and of the `PathOk` grammar. -/
structure Sendable (p : Parser) (line : Bytes → Bytes) (s : Bytes) : Prop where
  lf : (10 : UInt8) ∉ s
  gt : (62 : UInt8) ∉ s
  fits : p.Fits (line s)
  path : ∃ path, PathOk s path

theorem sendable_of_valid {p : Parser} {line : Bytes → Bytes} {s : Bytes} (hlf : (10 : UInt8) ∉ s)
    (hgt : (62 : UInt8) ∉ s) (hfit : p.Fits (line s)) (hs : ¬(s.head? = some 64 ∧ (58 : UInt8) ∈ s))
    (hv : isValidAddress s = true) : Sendable p line s :=
  ⟨hlf, hgt, hfit, _, .path (.plain hs) ((isValidAddress_iff s).1 hv)⟩

/-- An accepted RCPT: the line and the `250`. -/
def rcptTalk (r : Bytes) : List Talk := [.line (rcptLine r) (.ok (rcptCommand r)), .reply responseOK]

/-- A mail transaction as a client sends it: the text between the brackets of MAIL FROM and
    of each RCPT TO, and the lines of the body. -/
structure Transaction where
  sender : Bytes
  recipients : List Bytes
  body : List Bytes
  deriving DecidableEq, Repr

namespace Transaction

/-- MAIL, one RCPT per recipient, DATA, the dot-stuffed body and its terminator. -/
def wire (t : Transaction) : Bytes :=
  mailLine t.sender ++ (t.recipients.map rcptLine).flatten ++ dataLine ++
    ((t.body.map stuffLine).flatten ++ ascii ".\r\n")

/-- The iterations of the command loop the transaction takes. -/
def steps (t : Transaction) : Nat := t.recipients.length + 2

/-- The lines and replies of the transaction once its envelope, of id `id`, is stored. -/
def talk (t : Transaction) (id : Bytes) : List Talk :=
  [.line (mailLine t.sender) (.ok (mailCommand t.sender)), .reply responseOK] ++
    (t.recipients.map rcptTalk).flatten ++
    [.line dataLine (.ok dataCommand), .reply responseStartMailInput,
      .reply (newResponse reply250OK (ascii "OK, message " ++ id ++ ascii " accepted"))]

/-- A transaction the session takes whole: its paths can be sent, it has a recipient and
    no more than `MaxRecipients`, and its body is made of lines within the line and size
    limits. -/
structure Fits (config : SessionConfig) (p : Parser) (t : Transaction) : Prop where
  sender : Sendable p mailLine t.sender
  recipients : ∀ r ∈ t.recipients, Sendable p rcptLine r
  recipients_ne_nil : t.recipients ≠ []
  maxRecipients : config.limits.maxRecipients ≤ 0 ∨
    (t.recipients.length : Int) ≤ config.limits.maxRecipients
  lines : ∀ l ∈ t.body, IsLine l
  maxLineLength : config.limits.maxLineLength ≤ 0 ∨
    ∀ l ∈ t.body, ((stuffLine l).length : Int) ≤ config.limits.maxLineLength
  maxMessageSize : config.limits.maxMessageSize ≤ 0 ∨
    ((t.body.map stuffLine).flatten.length : Int) ≤ config.limits.maxMessageSize

/-- The envelope handed to `Store` for the transaction: the paths the grammar gives its
    brackets, the body without the stuffing, finalized. -/
structure Delivered (t : Transaction) (env : Envelope) : Prop where
  mailFrom : PathOk t.sender env.mailFrom
  recipients : List.Forall₂ PathOk t.recipients env.recipients
  data : env.data = t.body.flatten
  finalized : env.finalized = true

end Transaction

/-- What a client writes for a whole session: HELO, the transactions and QUIT. -/
def sessionWire (host : Bytes) (txs : List Transaction) : Bytes :=
  heloLine host ++ (txs.map Transaction.wire).flatten ++ quitLine

/-- The dialogue of a session that delivers `txs` as the envelopes `envs`: the greeting,
    HELO and its `250`, each transaction, and QUIT with its `221`. -/
def sessionTalk (config : SessionConfig) (host : Bytes) (txs : List Transaction)
    (envs : List Envelope) : List Talk :=
  [.reply (newResponse reply220ServiceReady (config.serverHostname ++ ascii " ESMTP icesmtp")),
    .line (heloLine host) (.ok (heloCommand host)),
    .reply (newResponse reply250OK (config.serverHostname ++ ascii " Hello " ++ host))] ++
  (List.zipWith (fun t env => t.talk env.id) txs envs).flatten ++
  [.line quitLine (.ok quitCommand), .reply responseBye]

/-- One message from `a@b` to `c@d` with the body `hi`. -/
def oneMessage : Transaction := { sender := ascii "a@b", recipients := [ascii "c@d"], body := [ascii "hi\n"] }

/-- A storing server `mx`. -/
def storingConfig : SessionConfig := { serverHostname := ascii "mx", storage := true }

/-- A client that says HELO, sends `oneMessage` and quits. -/
def oneMessageConn : Reader := { buf := sessionWire (ascii "h") [oneMessage], src := [], final := .eof }

/-! ## A session in which everything is accepted -/

/-- A world in which nothing fails and every collaborator accepts: the context is never
    cancelled, every write succeeds, `OnCommand` never vetoes, the SenderPolicy and the
    Mailbox accept, and `Storage.Store` succeeds. -/
structure Accepting (w : World) : Prop where
  ctx : ∀ n, w.ctxErr n = none
  write : ∀ n, w.writeErr n = none
  onCommand : ∀ n, w.onCommand n = none
  sender : ∀ n, (w.sender n).accepted = true
  mailbox : ∀ n, (w.mailbox n).status = .accepted
  store : ∀ n, w.store n = none

theorem quietWorld_accepting : Accepting quietWorld :=
  ⟨fun _ => rfl, fun _ => rfl, fun _ => rfl, fun _ => rfl, fun _ => rfl, fun _ => rfl⟩

namespace Engine

/-- `e'` is `e` once the talk `ts` was exchanged: no handler ran, nothing was stored, and
    the clock did not go back. -/
structure Said (e e' : Engine) (ts : List Talk) : Prop where
  frame : Frame e e'
  parser : e'.parser = e.parser
  conn : e'.conn = e.conn
  talk : e'.talk = e.talk ++ ts
  stores : e'.stores = e.stores
  clock : e.clock ≤ e'.clock

@[simp] theorem parser_hook (e : Engine) (ev : Event) : (e.hook ev).parser = e.parser := by
  unfold hook; split <;> rfl
@[simp] theorem parser_setState (e : Engine) (s : State) : (e.setState s).parser = e.parser := rfl
@[simp] theorem parser_tick (e : Engine) : e.tick.parser = e.parser := rfl
@[simp] theorem parser_emit (e : Engine) (ev : Event) : (e.emit ev).parser = e.parser := rfl
@[simp] theorem parser_resetTransaction (e : Engine) : e.resetTransaction.parser = e.parser := rfl

theorem talk_hook_of_silent (e : Engine) (ev : Event) (h : ev.talk? = none) :
    (e.hook ev).talk = e.talk := by
  simp [h]

theorem talk_with_sm (e : Engine) (s : State) : ({ e with sm := s } : Engine).talk = e.talk := rfl

theorem stores_hook_of_silent (e : Engine) (ev : Event) (h : ev.store? = none) :
    (e.hook ev).stores = e.stores := by
  unfold hook; split <;> simp [stores, h]

/-- A loop top of a delivering session: its configuration and parser, TLS off, not closed,
    the state machine and the session both in `s`, the builder `b`, and `n` transactions
    counted. -/
structure At (config : SessionConfig) (p : Parser) (s : State) (b : Option StandardEnvelopeBuilder)
    (n : Nat) (e : Engine) : Prop where
  config : e.config = config
  parser : e.parser = p
  sm : e.sm = s
  state : e.state.state = s
  tls : e.state.tlsActive = false
  envelope : e.envelope = b
  count : e.stats.transactionCount = n
  closed : e.closed = false

theorem At.said {config p s b n} {e e' : Engine} {ts : List Talk} (h : At config p s b n e)
    (hs : Said e e' ts) : At config p s b n e' :=
  ⟨hs.frame.config.trans h.config, hs.parser.trans h.parser, hs.frame.sm.trans h.sm,
    hs.frame.state_state.trans h.state, hs.frame.tlsActive.trans h.tls,
    hs.frame.envelope.trans h.envelope, by rw [hs.frame.stats, h.count],
    hs.frame.closed.trans h.closed⟩

theorem At.read {config p s b n} {e : Engine} (h : At config p s b n e) (conn : Reader) :
    At config p s b n { e.tick with conn } :=
  ⟨h.config, h.parser, h.sm, h.state, h.tls, h.envelope, h.count, h.closed⟩

theorem At.with {config p s b n} {e : Engine} (h : At config p s b n e) (conn : Reader)
    (clock : Nat) : At config p s b n { e with conn, clock } :=
  ⟨h.config, h.parser, h.sm, h.state, h.tls, h.envelope, h.count, h.closed⟩

section
variable (w : World)

@[simp] theorem parser_startData (e : Engine) : (e.startData w).1.parser = e.parser := by
  simp [startData]
@[simp] theorem startData_closed (e : Engine) : (e.startData w).1.closed = e.closed := by
  simp [startData]
theorem stores_startData (e : Engine) : (e.startData w).1.stores = e.stores := by
  simp [startData, stores_hook_of_silent _ .onDataStart rfl, stores, Event.store?]

/-- The `354` of DATA moves an open transaction to `data`. -/
theorem At.startData {config p b n} {e : Engine} (h : At config p .rcptTo b n e) :
    At config p .data b n (e.startData w).1 := by
  refine ⟨?_, ?_, ?_, ?_, ?_, ?_, ?_, ?_⟩ <;>
    simp [h.config, h.parser, h.sm, h.tls, h.envelope, h.count, h.closed]
  rfl

/-- `commit` when `Store` takes the envelope. -/
theorem commit_stored {e : Engine} (hsto : e.config.storage = true) (hst : w.store e.clock = none)
    (env : Envelope) :
    e.commit w env =
      (({ (e.emit (.store env none)).tick with
          stats := { transactionCount := e.stats.transactionCount + 1,
                     messageCount := e.stats.messageCount + 1,
                     recipientCount := e.stats.recipientCount + env.recipientCount },
          sm := StateMachine.reset (StateMachine.dataComplete e.sm).1,
          envelope := none }.setState .identified).hook (.onDataEnd env),
        newResponse reply250OK (ascii "OK, message " ++ env.id ++ ascii " accepted")) := by
  rcases commit_cases w e env with ⟨_, -, h, -⟩ | ⟨e₁, ⟨h, -⟩ | ⟨-, -, rfl⟩, hc⟩
  · simp [hst] at h
  · simp [hsto] at h
  · exact hc

/-- A committed transaction is counted and the session is back in `identified`. -/
theorem At.commit {config p b n} {e : Engine} (h : At config p .data b n e)
    (hsto : config.storage = true) (hst : w.store e.clock = none) (env : Envelope) :
    At config p .identified none (n + 1) (e.commit w env).1 := by
  rw [commit_stored w (h.config ▸ hsto) hst]
  refine ⟨?_, ?_, ?_, ?_, ?_, ?_, ?_, ?_⟩ <;>
    simp [h.config, h.parser, h.sm, h.tls, h.count, h.closed]

theorem talk_commit {e : Engine} (hsto : e.config.storage = true) (hst : w.store e.clock = none)
    (env : Envelope) : (e.commit w env).1.talk = e.talk := by
  rw [commit_stored w hsto hst, talk_hook_of_silent _ (.onDataEnd env) rfl]
  simp [talk, Event.talk?]

theorem stores_commit {e : Engine} (hsto : e.config.storage = true) (hst : w.store e.clock = none)
    (env : Envelope) : (e.commit w env).1.stores = e.stores ++ [(env, none)] := by
  rw [commit_stored w hsto hst, stores_hook_of_silent _ (.onDataEnd env) rfl]
  simp [stores, Event.store?]

/-- Reading the body never sets the clock back. -/
theorem readDataLoop_clock (fuel : Nat) (buf : Bytes) (e : Engine) :
    e.clock ≤ (readDataLoop w fuel buf e).2.clock := by
  induction fuel generalizing buf e with
  | zero => exact le_rfl
  | succ fuel ih =>
    unfold readDataLoop
    split
    · exact Nat.le_succ _
    · rw [readLine_eq, tick_conn]
      obtain ⟨res, conn⟩ := e.conn.readBytes
      cases res with
      | error err => exact Nat.le_succ _
      | ok line =>
        dsimp only
        split
        · exact Nat.le_succ _
        split
        · exact Nat.le_succ _
        split
        · exact Nat.le_succ _
        · exact (Nat.le_succ _).trans (ih (buf ++ unstuffLine line) { e.tick with conn })

end

/-- A line and its CRLF at the front of the stream is the next line read. -/
theorem readBytes_crlf {r : Reader} {b R : Bytes} (hb : (10 : UInt8) ∉ b)
    (hs : r.stream = b ++ crlf ++ R) :
    r.readBytes.1 = .ok (b ++ crlf) ∧ r.readBytes.2.stream = R := by
  have h := readBytes_line (b := b ++ [13]) (by simpa using hb) (by simpa [crlf] using hs)
  exact ⟨by simpa [crlf] using h.1, h.2.1⟩

theorem sizeExceeded_mailCommand (e : Engine) (s : Bytes) : e.sizeExceeded (mailCommand s) = false := by
  simp [sizeExceeded, mailCommand, ESMTPParams.get?]

theorem recipientLimitReached_of_open {e : Engine} {b : StandardEnvelopeBuilder}
    (henv : e.envelope = some b)
    (hlim : ¬(0 < e.config.limits.maxRecipients ∧
      e.config.limits.maxRecipients ≤ b.recipients.length)) :
    e.recipientLimitReached = some false := by
  unfold recipientLimitReached
  split <;> simp_all [StandardEnvelopeBuilder.build, Envelope.recipientCount]

theorem loop_of_next {w : World} {e e' : Engine} (h : e.loopStep w = (e', .next)) (fuel : Nat) :
    e.loop w (fuel + 1) = e'.loop w fuel := by
  rw [loop, h]

section
variable {w : World} (hw : Accepting w)
include hw

theorem writeReply_accepting (e : Engine) (r : Response) :
    ∃ e', e.writeReply w r = (e', none) ∧ Said e e' [.reply r] := by
  refine ⟨_, ?_, frame_writeReply w e r, ?_, ?_, talk_writeReply w e r, ?_, ?_⟩ <;>
    simp only [writeReply, writeResponse, hw.write] <;> split <;>
      first | rfl | simp [stores, Event.store?, emit, tick]

theorem processLine_of_parse {e : Engine} {line : Bytes} {cmd : Command}
    (hp : e.parser.parseCommand line = .ok cmd) (ha : isCommandAllowed e.sm cmd.verb = true) :
    ∃ e₁, Said e e₁ [.line line (.ok cmd)] ∧
      e.processLine w line = (e₁.handleCommand w cmd).map fun x => x.1.writeReply w x.2 := by
  have hh : ((e.emit (.command line (.ok cmd))).onCommandHook w cmd).2 = none := by
    unfold onCommandHook; split <;> simp [hw.onCommand]
  have hf := (frame_emit e (.command line (.ok cmd)) rfl).trans (frame_onCommandHook w (e.emit (.command line (.ok cmd))) cmd)
  refine ⟨_, ⟨hf, ?_, ?_, ?_, ?_, ?_⟩, ?_⟩
  · unfold onCommandHook; split <;> rfl
  · unfold onCommandHook; split <;> rfl
  · unfold onCommandHook; split <;> simp [talk, Event.talk?]
  · unfold onCommandHook; split <;> simp [stores, Event.store?]
  · unfold onCommandHook; split <;> simp [emit, tick]
  · unfold processLine
    rw [hp]
    dsimp only
    rw [← Prod.mk.eta (p := (e.emit _).onCommandHook w cmd), hh]
    dsimp only
    rw [dispatch, hf.sm, ha]
    rfl

/-- An iteration of the loop that reads a line answers it. -/
theorem loopStep_read {e e' : Engine} (line : Bytes) (ht : e.sm.isTerminal = false)
    (hst : e.state.state ≠ .startTLS) (hr : e.conn.readBytes.1 = .ok line)
    (hp : { e.tick with conn := e.conn.readBytes.2 }.processLine w line = some (e', none)) :
    e.loopStep w = (e', .next) := by
  unfold loopStep processOneCommand
  rw [hw.ctx]
  dsimp only
  rw [tick_sm, ht, if_neg Bool.false_ne_true, tick_state, if_neg hst, readLine_eq, tick_conn, hr]
  dsimp only
  rw [hp]

/-- `handleMAIL` past its checks: the transaction opens, after the SenderPolicy if one is
    configured. -/
theorem handleMAIL_accepts {e : Engine} (cmd : Command) (path : MailPath)
    (htls : ¬(e.config.tlsPolicy = .required ∧ !e.state.tlsActive))
    (hn : ¬(0 < e.config.limits.maxTransactions ∧
      e.config.limits.maxTransactions ≤ e.stats.transactionCount))
    (hp : parseMailPath cmd.argument (ascii "FROM") = .ok path) (hsz : e.sizeExceeded cmd = false) :
    ∃ e₁, (e₁ = e ∨ e₁ = e.tick) ∧ e.handleMAIL w cmd = e₁.acceptSender w path cmd.params := by
  unfold handleMAIL
  rw [if_neg htls, if_neg hn, hp]
  dsimp only
  rw [hsz, if_neg Bool.false_ne_true]
  unfold validateSender
  by_cases hsp : e.config.senderPolicy
  · exact ⟨e.tick, .inr rfl, by simp [hsp, hw.sender]⟩
  · exact ⟨e, .inl rfl, by simp [hsp]⟩

/-- MAIL at the top of an identified session opens a transaction with the path of `s`. -/
theorem loopStep_mail {config : SessionConfig} {p : Parser} {n : Nat} {e : Engine}
    (h : At config p .identified none n e) {s R : Bytes} {path : MailPath}
    (hs : e.conn.stream = mailLine s ++ R) (hl : p.Fits (mailLine s)) (h10 : (10 : UInt8) ∉ s)
    (h62 : (62 : UInt8) ∉ s) (hp : PathOk s path) (htls : config.tlsPolicy ≠ .required)
    (hn : ¬(0 < config.limits.maxTransactions ∧ config.limits.maxTransactions ≤ n)) :
    ∃ e' c md, e.loopStep w = (e', .next) ∧
      At config p .mailFrom (some (StandardEnvelopeBuilder.withSender (w.envelopeID c) md path [])) n e' ∧
      e.clock < c ∧ c < e'.clock ∧ e'.conn.stream = R ∧
      e'.talk = e.talk ++ [.line (mailLine s) (.ok (mailCommand s)), .reply responseOK] ∧
      e'.stores = e.stores := by
  obtain ⟨hr, hR⟩ := readBytes_crlf (b := ascii "MAIL FROM:<" ++ s ++ ascii ">")
    (by simp only [List.mem_append, not_or]; exact ⟨⟨by decide, h10⟩, by decide⟩) hs
  have h₀ := h.read e.conn.readBytes.2
  obtain ⟨e₁, hs₁, hpl⟩ := processLine_of_parse hw (parseCommand_mailLine (h₀.parser ▸ hl) h10 h62)
    (by rw [h₀.sm]; rfl)
  have h₁ := h₀.said hs₁
  obtain ⟨e₂, he₂, hm⟩ := handleMAIL_accepts hw (e := e₁) (mailCommand s) path
    (by rw [h₁.config]; simp [htls]) (by rw [h₁.config, h₁.count]; exact hn)
    (parseMailPath_canonical (.inl rfl) h62 hp) (sizeExceeded_mailCommand _ _)
  have h₂ : At config p .identified none n e₂ := by
    rcases he₂ with rfl | rfl; exacts [h₁, h₁.read e₁.conn]
  have hc₂ : e₂.conn = e.conn.readBytes.2 := by
    rcases he₂ with rfl | rfl <;> exact hs₁.conn
  have hk₂ : e.clock < e₂.clock := by
    have hk₁ : e.clock + 1 ≤ e₁.clock := hs₁.clock
    rcases he₂ with rfl | rfl
    · exact hk₁
    · exact Nat.lt_succ_of_lt hk₁
  set e₄ := (({ e₂.tick with
      envelope := some (StandardEnvelopeBuilder.withSender (w.envelopeID e₂.clock) e₂.envelopeMetadata path []),
      sm := (StateMachine.transitionForCommand e₂.sm .mail true).1 } : Engine).setState
        .mailFrom).hook (.onMailFrom path) with he₄
  have h₄ : At config p .mailFrom
      (some (StandardEnvelopeBuilder.withSender (w.envelopeID e₂.clock) e₂.envelopeMetadata path []))
      n e₄ := by
    refine ⟨?_, ?_, ?_, ?_, ?_, ?_, ?_, ?_⟩ <;> simp [he₄, h₂.config, h₂.parser, h₂.tls, h₂.count, h₂.closed]
    rw [h₂.sm]; rfl
  obtain ⟨e', hwr, hs'⟩ := writeReply_accepting hw e₄ responseOK
  have hk₄ : e₂.clock < e'.clock := by
    have : e₄.clock = e₂.clock + 1 := by simp [he₄]
    have := hs'.clock
    omega
  refine ⟨e', _, _, loopStep_read hw (mailLine s) (by rw [h.sm]; rfl)
    (by rw [h.state]; decide) hr ?_, h₄.said hs', hk₂, hk₄, ?_, ?_, ?_⟩
  · rw [hpl]
    show Option.map _ (some (e₁.handleMAIL w (mailCommand s))) = _
    rw [hm, acceptSender_eq]
    exact congrArg some hwr
  · rw [hs'.conn, he₄]; simpa [hc₂] using hR
  · rw [hs'.talk, he₄, talk_hook_of_silent _ (.onMailFrom path) rfl]
    show e₂.talk ++ _ = _
    rcases he₂ with rfl | rfl <;> simp [hs₁.talk] <;> rfl
  · rw [hs'.stores, he₄, stores_hook_of_silent _ (.onMailFrom path) rfl]
    show e₂.stores = _
    rcases he₂ with rfl | rfl <;> exact hs₁.stores

/-- `handleRCPT` on an open transaction below `MaxRecipients`: the Mailbox accepts and the
    recipient is added. -/
theorem handleRCPT_accepts {e : Engine} {cmd : Command} {b : StandardEnvelopeBuilder}
    {path : MailPath} (henv : e.envelope = some b) (hb : OpenBuilder b)
    (hlim : ¬(0 < e.config.limits.maxRecipients ∧
      e.config.limits.maxRecipients ≤ b.recipients.length))
    (hp : parseMailPath cmd.argument (ascii "TO") = .ok path) :
    e.handleRCPT w cmd = some ((({ e.tick with
        envelope := some ({ b with recipients := b.recipients ++ [path] } : StandardEnvelopeBuilder),
        sm := (StateMachine.transitionForCommand e.sm .rcpt true).1 } : Engine).setState
          .rcptTo).hook (.onRcptTo path), responseOK) := by
  unfold handleRCPT
  rw [hp]
  dsimp only
  rw [recipientLimitReached_of_open henv hlim]
  dsimp only
  rw [if_neg (by simp [hw.mailbox])]
  simp [acceptRecipient, henv, StandardEnvelopeBuilder.addRecipient_of_open hb]

/-- RCPT in an open transaction below `MaxRecipients` adds the path of `s`. -/
theorem loopStep_rcpt {config : SessionConfig} {p : Parser} {st : State} {n : Nat} {e : Engine}
    {b : StandardEnvelopeBuilder} (hst : st = .mailFrom ∨ st = .rcptTo)
    (h : At config p st (some b) n e) (hb : OpenBuilder b) {s R : Bytes} {path : MailPath}
    (hs : e.conn.stream = rcptLine s ++ R) (hl : p.Fits (rcptLine s)) (h10 : (10 : UInt8) ∉ s)
    (h62 : (62 : UInt8) ∉ s) (hp : PathOk s path)
    (hlim : ¬(0 < config.limits.maxRecipients ∧ config.limits.maxRecipients ≤ b.recipients.length)) :
    ∃ e', e.loopStep w = (e', .next) ∧
      At config p .rcptTo (some { b with recipients := b.recipients ++ [path] }) n e' ∧
      e.clock < e'.clock ∧ e'.conn.stream = R ∧
      e'.talk = e.talk ++ [.line (rcptLine s) (.ok (rcptCommand s)), .reply responseOK] ∧
      e'.stores = e.stores := by
  obtain ⟨hr, hR⟩ := readBytes_crlf (b := ascii "RCPT TO:<" ++ s ++ ascii ">")
    (by simp only [List.mem_append, not_or]; exact ⟨⟨by decide, h10⟩, by decide⟩) hs
  have h₀ := h.read e.conn.readBytes.2
  obtain ⟨e₁, hs₁, hpl⟩ := processLine_of_parse hw (parseCommand_rcptLine (h₀.parser ▸ hl) h10 h62)
    (by rw [h₀.sm]; rcases hst with rfl | rfl <;> rfl)
  have h₁ := h₀.said hs₁
  set e₄ := (({ e₁.tick with
      envelope := some ({ b with recipients := b.recipients ++ [path] } : StandardEnvelopeBuilder),
      sm := (StateMachine.transitionForCommand e₁.sm .rcpt true).1 } : Engine).setState
        .rcptTo).hook (.onRcptTo path) with he₄
  have hm : e₁.handleRCPT w (rcptCommand s) = some (e₄, responseOK) :=
    handleRCPT_accepts hw h₁.envelope hb (by rw [h₁.config]; exact hlim)
      (parseMailPath_canonical (.inr rfl) h62 hp)
  have h₄ : At config p .rcptTo (some { b with recipients := b.recipients ++ [path] }) n e₄ := by
    refine ⟨?_, ?_, ?_, ?_, ?_, ?_, ?_, ?_⟩ <;> simp [he₄, h₁.config, h₁.parser, h₁.tls, h₁.count, h₁.closed]
    rw [h₁.sm]; rcases hst with rfl | rfl <;> rfl
  obtain ⟨e', hwr, hs'⟩ := writeReply_accepting hw e₄ responseOK
  have hk : e.clock < e'.clock := by
    have : e₄.clock = e₁.clock + 1 := by simp [he₄]
    have : e.clock + 1 ≤ e₁.clock := hs₁.clock
    have := hs'.clock
    omega
  refine ⟨e', loopStep_read hw (rcptLine s) (by rw [h.sm]; rcases hst with rfl | rfl <;> rfl)
    (by rw [h.state]; rcases hst with rfl | rfl <;> decide) hr ?_, h₄.said hs', hk, ?_, ?_, ?_⟩
  · rw [hpl]
    show Option.map _ (e₁.handleRCPT w (rcptCommand s)) = _
    rw [hm]
    exact congrArg some hwr
  · rw [hs'.conn, he₄]; simpa [hs₁.conn] using hR
  · rw [hs'.talk, he₄, talk_hook_of_silent _ (.onRcptTo path) rfl]
    show e₁.talk ++ _ = _
    simp [hs₁.talk]; rfl
  · rw [hs'.stores, he₄, stores_hook_of_silent _ (.onRcptTo path) rfl]
    exact hs₁.stores

/-- DATA in an open transaction whose body fits the limits: the body is sealed into the
    envelope, `Store` takes it, and the session is back in `identified` with one more
    transaction. -/
theorem handleDATA_delivers {config : SessionConfig} {p : Parser} {n : Nat} {e : Engine}
    {b : StandardEnvelopeBuilder} (hsto : config.storage = true)
    (h : At config p .rcptTo (some b) n e) (hb : OpenBuilder b) (hr : b.recipients ≠ [])
    {body : List Bytes} {R : Bytes} (hL : ∀ l ∈ body, IsLine l)
    (hs : e.conn.stream = (body.map stuffLine).flatten ++ ascii ".\r\n" ++ R)
    (hline : config.limits.maxLineLength ≤ 0 ∨
      ∀ l ∈ body, ((stuffLine l).length : Int) ≤ config.limits.maxLineLength)
    (hsize : config.limits.maxMessageSize ≤ 0 ∨
      ((body.map stuffLine).flatten.length : Int) ≤ config.limits.maxMessageSize) :
    ∃ e', e.handleDATA w =
        some (e', newResponse reply250OK (ascii "OK, message " ++ b.id ++ ascii " accepted")) ∧
      At config p .identified none (n + 1) e' ∧ e.clock ≤ e'.clock ∧ e'.conn.stream = R ∧
      e'.talk = e.talk ++ [.reply responseStartMailInput] ∧
      e'.stores = e.stores ++ [(b.sealWith body.flatten, none)] := by
  have hsd : (e.startData w).2 = none := by simp [hw.write]
  have h₂ := h.startData w
  obtain ⟨hlines, hrest⟩ := readData_lines w hw.ctx body R (e := (e.startData w).1) hL
    (by simpa using hs)
  have hok : ((e.startData w).1.readData w).1 = .ok body.flatten := hlines.trans
    (by simpa [h.config] using readBody_of_le [] body hline (by simpa using hsize))
  obtain ⟨hR, -⟩ := hrest hok
  rcases hd : (e.startData w).1.readData w with ⟨res, e₃⟩
  rw [hd] at hok hR
  cases hok
  obtain ⟨conn, clock, rfl⟩ := readData_eq_with w hd
  have hlen : ¬(0 < config.limits.maxMessageSize ∧
      config.limits.maxMessageSize < (body.flatten.length : Nat)) := by
    have := flatten_length_le_stuffed body
    omega
  set e₃ : Engine :=
    { (e.startData w).1 with conn, clock, envelope := some (b.sealedWith body.flatten) } with he₃
  have h₃ : At config p .data (some (b.sealedWith body.flatten)) n e₃ :=
    { (h₂.with conn clock) with envelope := rfl }
  have hsto₃ : e₃.config.storage = true := h₃.config ▸ hsto
  have hk : e.clock ≤ (e₃.commit w (b.sealWith body.flatten)).1.clock := by
    have hk₁ : (e.startData w).1.clock = e.clock + 1 := by simp [startData, emit]
    have hk₂ := readDataLoop_clock w ((e.startData w).1.conn.size + 1) [] (e.startData w).1
    rw [← readData, hd] at hk₂
    have hk₃ : (e₃.commit w (b.sealWith body.flatten)).1.clock = clock + 1 := by
      rw [commit_stored w hsto₃ (hw.store _)]; simp [he₃, emit]
    have : (e.startData w).1.clock ≤ clock := hk₂
    omega
  refine ⟨(e₃.commit w (b.sealWith body.flatten)).1, ?_, h₃.commit w hsto (hw.store _) _, hk, ?_, ?_, ?_⟩
  · rw [handleDATA, show e.startData w = ((e.startData w).1, none) from Prod.ext rfl hsd]
    dsimp only
    rw [hd]
    dsimp only
    rw [if_neg (by simpa [h.config] using hlen),
      acceptBody_of_open w _ (b := b) (by simp [h.envelope]) hb hr, commit_stored w hsto₃ (hw.store _)]
    rfl
  · rw [commit_stored w hsto₃ (hw.store _)]
    simpa [he₃] using hR
  · rw [talk_commit w hsto₃ (hw.store _)]
    exact talk_startData w e
  · rw [stores_commit w hsto₃ (hw.store _)]
    exact congrArg (· ++ _) (stores_startData w e)

/-- The DATA line and a body that fits the limits: the session answers `354` and the
    `250` of a stored message, and starts over in `identified`. -/
theorem loopStep_data {config : SessionConfig} {p : Parser} {n : Nat} {e : Engine}
    {b : StandardEnvelopeBuilder} (hsto : config.storage = true)
    (h : At config p .rcptTo (some b) n e) (hb : OpenBuilder b) (hr : b.recipients ≠ [])
    {body : List Bytes} {R : Bytes} (hL : ∀ l ∈ body, IsLine l)
    (hs : e.conn.stream = dataLine ++ ((body.map stuffLine).flatten ++ ascii ".\r\n" ++ R))
    (hl : p.Fits dataLine)
    (hline : config.limits.maxLineLength ≤ 0 ∨
      ∀ l ∈ body, ((stuffLine l).length : Int) ≤ config.limits.maxLineLength)
    (hsize : config.limits.maxMessageSize ≤ 0 ∨
      ((body.map stuffLine).flatten.length : Int) ≤ config.limits.maxMessageSize) :
    ∃ e', e.loopStep w = (e', .next) ∧ At config p .identified none (n + 1) e' ∧
      e.clock < e'.clock ∧ e'.conn.stream = R ∧
      e'.talk = e.talk ++ [.line dataLine (.ok dataCommand), .reply responseStartMailInput,
        .reply (newResponse reply250OK (ascii "OK, message " ++ b.id ++ ascii " accepted"))] ∧
      e'.stores = e.stores ++ [(b.sealWith body.flatten, none)] := by
  obtain ⟨hrd, hR⟩ := readBytes_crlf (b := ascii "DATA") (by decide) hs
  have h₀ := h.read e.conn.readBytes.2
  obtain ⟨e₁, hs₁, hpl⟩ := processLine_of_parse hw (parseCommand_dataLine (h₀.parser ▸ hl))
    (by rw [h₀.sm]; rfl)
  obtain ⟨e₄, hm, h₄, hk₄, hc₄, ht₄, hst₄⟩ :=
    handleDATA_delivers hw hsto (h₀.said hs₁) hb hr hL (by rw [hs₁.conn]; exact hR) hline hsize
  obtain ⟨e', hwr, hs'⟩ := writeReply_accepting hw e₄ _
  have hk : e.clock < e'.clock := by
    have : e.clock + 1 ≤ e₁.clock := hs₁.clock
    have := hs'.clock
    omega
  refine ⟨e', loopStep_read hw dataLine (by rw [h.sm]; rfl) (by rw [h.state]; decide)
    hrd ?_, h₄.said hs', hk, ?_, ?_, ?_⟩
  · rw [hpl]
    show Option.map _ (e₁.handleDATA w) = _
    rw [hm]
    exact congrArg some hwr
  · rw [hs'.conn, hc₄]
  · rw [hs'.talk, ht₄, hs₁.talk]
    simp
    rfl
  · rw [hs'.stores, hst₄, hs₁.stores]
    rfl

/-- HELO with a host name `ParseHeloHostname` keeps as it is: `250` and `identified`. -/
theorem loopStep_helo {config : SessionConfig} {p : Parser} {e : Engine} {host R : Bytes}
    (h : At config p .greeted none 0 e) (hs : e.conn.stream = heloLine host ++ R)
    (hl : p.Fits (heloLine host)) (h10 : (10 : UInt8) ∉ host)
    (hh : parseHeloHostname host = .ok host) :
    ∃ e', e.loopStep w = (e', .next) ∧ At config p .identified none 0 e' ∧ e'.conn.stream = R ∧
      e'.talk = e.talk ++ [.line (heloLine host) (.ok (heloCommand host)),
        .reply (newResponse reply250OK (config.serverHostname ++ ascii " Hello " ++ host))] ∧
      e'.stores = e.stores := by
  obtain ⟨hr, hR⟩ := readBytes_crlf (b := ascii "HELO " ++ host)
    (by simp only [List.mem_append, not_or]; exact ⟨by decide, h10⟩) hs
  have h₀ := h.read e.conn.readBytes.2
  obtain ⟨e₁, hs₁, hpl⟩ := processLine_of_parse hw (parseCommand_heloLine (h₀.parser ▸ hl) h10 hh)
    (by rw [h₀.sm]; rfl)
  have h₁ := h₀.said hs₁
  set e₄ := (({ e₁ with
      state := { e₁.state with clientHostname := host },
      sm := (StateMachine.transitionForCommand e₁.sm .helo true).1 } : Engine).setState
        .identified).resetTransaction with he₄
  have hm : e₁.handleHELO (heloCommand host) =
      (e₄, newResponse reply250OK (config.serverHostname ++ ascii " Hello " ++ host)) := by
    rw [handleHELO, show (heloCommand host).argument = host from rfl, hh, ← h₁.config]
  have h₄ : At config p .identified none 0 e₄ := by
    refine ⟨?_, ?_, ?_, ?_, ?_, ?_, ?_, ?_⟩ <;>
      simp [he₄, h₁.config, h₁.parser, h₁.tls, h₁.count, h₁.closed]
    rw [h₁.sm]; rfl
  obtain ⟨e', hwr, hs'⟩ := writeReply_accepting hw e₄ _
  refine ⟨e', loopStep_read hw (heloLine host) (by rw [h.sm]; rfl)
    (by rw [h.state]; decide) hr ?_, h₄.said hs', ?_, ?_, ?_⟩
  · rw [hpl]
    show Option.map _ (some (e₁.handleHELO (heloCommand host))) = _
    rw [hm]
    exact congrArg some hwr
  · rw [hs'.conn, he₄]; simpa [hs₁.conn] using hR
  · rw [hs'.talk, he₄]
    show e₁.talk ++ _ = _
    simp [hs₁.talk]; rfl
  · rw [hs'.stores, he₄]
    exact hs₁.stores

/-- QUIT: `221` and the state machine in `terminated`; the session is not yet closed. -/
theorem loopStep_quit {config : SessionConfig} {p : Parser} {n : Nat} {e : Engine} {R : Bytes}
    (h : At config p .identified none n e) (hs : e.conn.stream = quitLine ++ R)
    (hl : p.Fits quitLine) :
    ∃ e', e.loopStep w = (e', .next) ∧ e'.sm = .terminated ∧ e'.closed = false ∧
      e'.talk = e.talk ++ [.line quitLine (.ok quitCommand), .reply responseBye] ∧
      e'.stores = e.stores := by
  obtain ⟨hr, -⟩ := readBytes_crlf (b := ascii "QUIT") (by decide) hs
  have h₀ := h.read e.conn.readBytes.2
  obtain ⟨e₁, hs₁, hpl⟩ := processLine_of_parse hw (parseCommand_quitLine (h₀.parser ▸ hl))
    (by rw [h₀.sm]; rfl)
  have h₁ := h₀.said hs₁
  obtain ⟨e', hwr, hs'⟩ := writeReply_accepting hw e₁.handleQUIT.1 responseBye
  refine ⟨e', loopStep_read hw quitLine (by rw [h.sm]; rfl)
    (by rw [h.state]; decide) hr ?_, ?_, ?_, ?_, ?_⟩
  · rw [hpl]
    exact congrArg some hwr
  · rw [hs'.frame.sm]
    simp only [handleQUIT, h₁.sm]
    rfl
  · rw [hs'.frame.closed, ← h₁.closed]; rfl
  · rw [hs'.talk]
    show e₁.talk ++ _ = _
    simp [hs₁.talk]
    rfl
  · exact hs'.stores.trans hs₁.stores

/-- Once QUIT has terminated the state machine, the next iteration ends the loop and
    `Run` returns without an error. -/
theorem loop_terminated {e : Engine} (h : e.sm = .terminated) (hc : e.closed = false)
    (fuel : Nat) :
    ∃ e', e.loop w (fuel + 1) = (e', .returned none) ∧ e'.talk = e.talk ∧ e'.stores = e.stores := by
  have hst : e.loopStep w = (e.tick, .exit .normal none) := by
    simp [loopStep, hw.ctx, h, State.isTerminal]
  refine ⟨{ e.tick with closed := true }.hook (.onDisconnect .normal),
    by simp [loop, hst, handleDisconnect, hc], ?_, ?_⟩
  · exact (talk_hook_of_silent _ (.onDisconnect .normal) rfl).trans rfl
  · exact (stores_hook_of_silent _ (.onDisconnect .normal) rfl).trans rfl

/-- With every call accepted, `Run` greets and enters its loop in `greeted`. -/
theorem startup_accepting (config : SessionConfig) (conn : Reader) (sid ip : Bytes) :
    ∃ e, (Engine.new config conn sid ip).startup w = (e, none) ∧
      At config (Engine.new config conn sid ip).parser .greeted none 0 e ∧ e.conn = conn ∧
      e.talk = [.reply (newResponse reply220ServiceReady
        (config.serverHostname ++ ascii " ESMTP icesmtp"))] ∧ e.stores = [] := by
  set e₀ := ({ Engine.new config conn sid ip with sm := .connected } : Engine).hook .onConnect
    with he₀
  have hwr : e₀.writeResponse w e₀.buildGreeting =
      ((e₀.emit (.reply e₀.buildGreeting)).tick, none) := Prod.ext rfl (hw.write _)
  refine ⟨({ (e₀.emit (.reply e₀.buildGreeting)).tick with sm := .greeted } : Engine).setState
    .greeted, ?_, ?_, ?_, ?_, ?_⟩
  · rw [startup, show StateMachine.connect (Engine.new config conn sid ip).sm = (.connected, none)
      from rfl]
    dsimp only
    rw [hwr]
    simp [he₀]
    rfl
  · refine ⟨?_, ?_, ?_, ?_, ?_, ?_, ?_, ?_⟩ <;> simp [he₀, Engine.new]
  · simp [he₀, Engine.new]
  · rw [talk_setState, talk_with_sm, talk_tick, talk_emit, he₀, talk_hook_of_silent _ .onConnect rfl]
    simp [talk, Engine.new, Event.talk?, buildGreeting]
  · rw [he₀]
    simp [stores, hook_log, Engine.new, Event.store?]

/-- The RCPT lines of an open transaction below `MaxRecipients` add their paths in order. -/
theorem loop_rcpts {config : SessionConfig} {p : Parser} {n : Nat} {R : Bytes} (rs : List Bytes) :
    ∀ {e : Engine} {b : StandardEnvelopeBuilder}, At config p .rcptTo (some b) n e →
      OpenBuilder b → e.conn.stream = (rs.map rcptLine).flatten ++ R →
      (∀ r ∈ rs, Sendable p rcptLine r) →
      (config.limits.maxRecipients ≤ 0 ∨
        ((b.recipients.length + rs.length : Nat) : Int) ≤ config.limits.maxRecipients) →
      ∃ e' ps, (∀ fuel, e.loop w (fuel + rs.length) = e'.loop w fuel) ∧ List.Forall₂ PathOk rs ps ∧
        At config p .rcptTo (some { b with recipients := b.recipients ++ ps }) n e' ∧
        e.clock ≤ e'.clock ∧ e'.conn.stream = R ∧ e'.talk = e.talk ++ (rs.map rcptTalk).flatten ∧
        e'.stores = e.stores := by
  induction rs with
  | nil =>
    intro e b h _ hs _ _
    exact ⟨e, [], fun _ => rfl, .nil, by simpa using h, le_rfl, by simpa using hs, by simp, rfl⟩
  | cons r rs ih =>
    intro e b h hb hs hr hlim
    obtain ⟨hlf, hgt, hfit, path, hp⟩ := hr r (List.mem_cons_self r rs)
    obtain ⟨e₁, hst, h₁, hk₁, hs₁, ht₁, hst₁⟩ := loopStep_rcpt hw (.inr rfl) h hb
      (R := (rs.map rcptLine).flatten ++ R) (by rw [hs]; simp) hfit hlf hgt hp
      (by simp only [List.length_cons] at hlim; omega)
    obtain ⟨e', ps, hl', hps, h', hk', hs', ht', hst'⟩ := ih h₁ (hb.addRecipient path) hs₁
      (fun r' hr' => hr r' (List.mem_cons_of_mem r hr'))
      (by simp only [List.length_cons, List.length_append, List.length_nil] at hlim ⊢; omega)
    refine ⟨e', path :: ps, fun fuel => ?_, .cons hp hps, by simpa using h', hk₁.le.trans hk', hs',
      ?_, ?_⟩
    · rw [List.length_cons, ← Nat.add_assoc, loop_of_next hst, hl']
    · rw [ht', ht₁]; simp [rcptTalk]
    · rw [hst', hst₁]

/-- A transaction the session takes whole, from `identified`: it is stored, answered, and
    the session is back in `identified` with one more transaction. -/
theorem loop_transaction {config : SessionConfig} {p : Parser} {n : Nat} {e : Engine} {R : Bytes}
    {t : Transaction} (hsto : config.storage = true) (htls : config.tlsPolicy ≠ .required)
    (h : At config p .identified none n e) (hs : e.conn.stream = t.wire ++ R)
    (ht : t.Fits config p) (hd : p.Fits dataLine)
    (hn : ¬(0 < config.limits.maxTransactions ∧ config.limits.maxTransactions ≤ n)) :
    ∃ e' env, (∀ fuel, e.loop w (fuel + t.steps) = e'.loop w fuel) ∧
      At config p .identified none (n + 1) e' ∧ e'.conn.stream = R ∧ t.Delivered env ∧
      (∃ c, env.id = w.envelopeID c ∧ e.clock < c ∧ c < e'.clock) ∧
      e'.talk = e.talk ++ t.talk env.id ∧ e'.stores = e.stores ++ [(env, none)] := by
  obtain ⟨⟨hlf, hgt, hfit, path, hp⟩, hrs, hne, hmax, hL, hline, hsize⟩ := ht
  obtain ⟨r, rs, hrrs⟩ := List.exists_cons_of_ne_nil hne
  obtain ⟨hrlf, hrgt, hrfit, rpath, hrp⟩ := hrs r (hrrs ▸ List.mem_cons_self r rs)
  obtain ⟨e₁, c, md, hst₁, h₁, hc, hc₁, hs₁, ht₁, hsto₁⟩ := loopStep_mail hw h
    (R := rcptLine r ++ (rs.map rcptLine).flatten ++ dataLine ++
      ((t.body.map stuffLine).flatten ++ ascii ".\r\n" ++ R))
    (by rw [hs, Transaction.wire, hrrs]; simp) hfit hlf hgt hp htls hn
  obtain ⟨e₂, hst₂, h₂, hk₂, hs₂, ht₂, hsto₂⟩ := loopStep_rcpt hw (.inl rfl) h₁ (OpenBuilder.withSender ..)
    (R := (rs.map rcptLine).flatten ++ (dataLine ++
      ((t.body.map stuffLine).flatten ++ ascii ".\r\n" ++ R)))
    (by rw [hs₁]; simp) hrfit hrlf hrgt hrp (by simp [StandardEnvelopeBuilder.withSender])
  obtain ⟨e₃, ps, hl₃, hps, h₃, hk₃, hs₃, ht₃, hsto₃⟩ := loop_rcpts hw rs h₂
    ((OpenBuilder.withSender ..).addRecipient rpath) hs₂
    (fun r' h' => hrs r' (hrrs ▸ List.mem_cons_of_mem r h'))
    (by rw [hrrs] at hmax; simp [StandardEnvelopeBuilder.withSender] at hmax ⊢; omega)
  obtain ⟨e₄, hst₄, h₄, hk₄, hs₄, ht₄, hsto₄⟩ := loopStep_data hw hsto h₃ ⟨rfl, rfl, rfl, rfl, rfl⟩
    (by simp) hL hs₃ hd hline hsize
  refine ⟨e₄, _, fun fuel => ?_, h₄, hs₄, ?_, ⟨c, rfl, hc, by omega⟩, ?_,
    hsto₄.trans (congrArg (· ++ [_]) ?_)⟩
  · have : fuel + t.steps = fuel + 1 + rs.length + 1 + 1 := by
      simp only [Transaction.steps, hrrs, List.length_cons]; omega
    rw [this, loop_of_next hst₁, loop_of_next hst₂, hl₃, loop_of_next hst₄]
  · refine ⟨hp, ?_, rfl, rfl⟩
    rw [hrrs]
    exact .cons hrp hps
  · rw [ht₄, ht₃, ht₂, ht₁, Transaction.talk, hrrs]
    simp [rcptTalk]
    rfl
  · rw [hsto₃, hsto₂, hsto₁]

/-- Transactions the session takes whole, one after the other, below `MaxTransactions`. -/
theorem loop_transactions {config : SessionConfig} {p : Parser} {R : Bytes}
    (hsto : config.storage = true) (htls : config.tlsPolicy ≠ .required) (hd : p.Fits dataLine)
    (txs : List Transaction) :
    ∀ {n : Nat} {e : Engine}, At config p .identified none n e →
      e.conn.stream = (txs.map Transaction.wire).flatten ++ R → (∀ t ∈ txs, t.Fits config p) →
      (config.limits.maxTransactions ≤ 0 ∨
        ((n + txs.length : Nat) : Int) ≤ config.limits.maxTransactions) →
      ∃ e' envs, (∀ fuel, e.loop w (fuel + (txs.map Transaction.steps).sum) = e'.loop w fuel) ∧
        At config p .identified none (n + txs.length) e' ∧ e'.conn.stream = R ∧
        List.Forall₂ Transaction.Delivered txs envs ∧
        (∃ cs : List Nat, envs.map Envelope.id = cs.map w.envelopeID ∧ cs.Sorted (· < ·) ∧
          ∀ c ∈ cs, e.clock < c) ∧
        e'.talk = e.talk ++ (List.zipWith (fun t env => t.talk env.id) txs envs).flatten ∧
        e'.stores = e.stores ++ envs.map (·, none) := by
  induction txs with
  | nil =>
    intro n e h hs _ _
    exact ⟨e, [], fun _ => rfl, h, by simpa using hs, .nil, ⟨[], rfl, List.sorted_nil, by simp⟩,
      by simp, by simp⟩
  | cons t txs ih =>
    intro n e h hs ht hn
    obtain ⟨e₁, env, hl₁, h₁, hs₁, hd₁, ⟨c, hid, hc, hc₁⟩, ht₁, hst₁⟩ := loop_transaction hw hsto htls h
      (R := (txs.map Transaction.wire).flatten ++ R) (by rw [hs]; simp)
      (ht t (List.mem_cons_self t txs)) hd (by simp only [List.length_cons] at hn; omega)
    obtain ⟨e', envs, hl', h', hs', hd', ⟨cs, hids, hsort, hlt⟩, ht', hst'⟩ := ih h₁ hs₁
      (fun t' h' => ht t' (List.mem_cons_of_mem t h'))
      (by simp only [List.length_cons] at hn ⊢; omega)
    refine ⟨e', env :: envs, fun fuel => ?_, by simpa [Nat.add_assoc, Nat.add_comm 1] using h',
      hs', .cons hd₁ hd', ⟨c :: cs, by rw [List.map_cons, List.map_cons, hid, hids],
        List.sorted_cons.2 ⟨fun c' h => hc₁.trans (hlt c' h), hsort⟩,
        List.forall_mem_cons.2 ⟨hc, fun c' h => (hc.trans hc₁).trans (hlt c' h)⟩⟩, ?_, ?_⟩
    · rw [List.map_cons, List.sum_cons, Nat.add_comm t.steps, ← Nat.add_assoc, hl₁, hl']
    · rw [ht', ht₁]; simp
    · rw [hst', hst₁]; simp

/-- `run_delivers`, with where the envelope ids come from: the world's ids at clocks that
    increase from one transaction to the next. -/
theorem run_delivers_ids {config : SessionConfig} (hsto : config.storage = true)
    (htls : config.tlsPolicy ≠ .required) {conn : Reader} {sid ip host R : Bytes}
    {txs : List Transaction} (hs : conn.stream = sessionWire host txs ++ R)
    (hhost : (10 : UInt8) ∉ host) (hh : parseHeloHostname host = .ok host)
    (hhelo : (Engine.new config conn sid ip).parser.Fits (heloLine host))
    (hdata : (Engine.new config conn sid ip).parser.Fits dataLine)
    (hquit : (Engine.new config conn sid ip).parser.Fits quitLine)
    (ht : ∀ t ∈ txs, t.Fits config (Engine.new config conn sid ip).parser)
    (hn : config.limits.maxTransactions ≤ 0 ∨ (txs.length : Int) ≤ config.limits.maxTransactions)
    {fuel : Nat} (hfuel : (txs.map Transaction.steps).sum + 3 ≤ fuel) :
    ∃ e envs, (Engine.new config conn sid ip).run w fuel = (e, .returned none) ∧
      List.Forall₂ Transaction.Delivered txs envs ∧ e.stores = envs.map (·, none) ∧
      e.talk = sessionTalk config host txs envs ∧
      ∃ cs : List Nat, envs.map Envelope.id = cs.map w.envelopeID ∧ cs.Sorted (· < ·) := by
  obtain ⟨e₀, hst₀, h₀, hc₀, ht₀, hsto₀⟩ := startup_accepting hw config conn sid ip
  obtain ⟨e₁, hst₁, h₁, hs₁, ht₁, hsto₁⟩ := loopStep_helo hw h₀
    (R := (txs.map Transaction.wire).flatten ++ (quitLine ++ R))
    (by rw [hc₀, hs, sessionWire]; simp) hhelo hhost hh
  obtain ⟨e₂, envs, hl₂, h₂, hs₂, hd₂, ⟨cs, hids, hsort, -⟩, ht₂, hsto₂⟩ :=
    loop_transactions hw hsto htls hdata txs h₁ hs₁ ht (by simpa using hn)
  obtain ⟨e₃, hst₃, hsm₃, hc₃, ht₃, hsto₃⟩ := loopStep_quit hw h₂ hs₂ hquit
  obtain ⟨k, rfl⟩ : ∃ k, fuel = k + 1 + 1 + (txs.map Transaction.steps).sum + 1 :=
    ⟨fuel - ((txs.map Transaction.steps).sum + 3), by omega⟩
  obtain ⟨e₄, hl₄, ht₄, hsto₄⟩ := loop_terminated hw hsm₃ hc₃ k
  refine ⟨e₄, envs, ?_, hd₂, ?_, ?_, cs, hids, hsort⟩
  · rw [run, hst₀]
    dsimp only
    rw [loop_of_next hst₁, hl₂, loop_of_next hst₃, hl₄]
  · rw [hsto₄, hsto₃, hsto₂, hsto₁, hsto₀, List.nil_append]
  · rw [ht₄, ht₃, ht₂, ht₁, ht₀, sessionTalk]
    simp

/-- A session in a world that accepts every call delivers every transaction the client
    sends whole: `Run` returns without an error, `Store` took one envelope per transaction,
    each the transaction's own, and the client read the greeting, the `250` of HELO, the
    replies of each transaction with the `250` that names its envelope, and the `221`. -/
theorem run_delivers {config : SessionConfig} (hsto : config.storage = true)
    (htls : config.tlsPolicy ≠ .required) {conn : Reader} {sid ip host R : Bytes}
    {txs : List Transaction} (hs : conn.stream = sessionWire host txs ++ R)
    (hhost : (10 : UInt8) ∉ host) (hh : parseHeloHostname host = .ok host)
    (hhelo : (Engine.new config conn sid ip).parser.Fits (heloLine host))
    (hdata : (Engine.new config conn sid ip).parser.Fits dataLine)
    (hquit : (Engine.new config conn sid ip).parser.Fits quitLine)
    (ht : ∀ t ∈ txs, t.Fits config (Engine.new config conn sid ip).parser)
    (hn : config.limits.maxTransactions ≤ 0 ∨ (txs.length : Int) ≤ config.limits.maxTransactions)
    {fuel : Nat} (hfuel : (txs.map Transaction.steps).sum + 3 ≤ fuel) :
    ∃ e envs, (Engine.new config conn sid ip).run w fuel = (e, .returned none) ∧
      List.Forall₂ Transaction.Delivered txs envs ∧ e.stores = envs.map (·, none) ∧
      e.talk = sessionTalk config host txs envs := by
  obtain ⟨e, envs, hrun, hd, hsto', htalk, -⟩ :=
    run_delivers_ids hw hsto htls hs hhost hh hhelo hdata hquit ht hn hfuel
  exact ⟨e, envs, hrun, hd, hsto', htalk⟩

end

theorem oneMessageConn_stream : oneMessageConn.stream = sessionWire (ascii "h") [oneMessage] ++ [] := by
  simp [oneMessageConn, Reader.stream, streamSplit]

theorem oneMessage_fits :
    ∀ t ∈ [oneMessage], t.Fits storingConfig (Engine.new storingConfig oneMessageConn [] []).parser := by
  simp only [List.mem_singleton, forall_eq]
  refine ⟨sendable_of_valid (by decide) (by decide) (by decide) (by decide) (by decide),
    ?_, by decide, .inl (by decide), ?_, .inl (by decide), .inl (by decide)⟩
  · simp only [oneMessage, List.mem_singleton, forall_eq]
    exact sendable_of_valid (by decide) (by decide) (by decide) (by decide) (by decide)
  · simp only [oneMessage, List.mem_singleton, forall_eq]
    exact ⟨ascii "hi", rfl, by decide⟩

theorem run_delivers_one_message :
    ∃ e envs, (Engine.new storingConfig oneMessageConn [] []).run quietWorld 6 = (e, .returned none) ∧
      List.Forall₂ Transaction.Delivered [oneMessage] envs ∧ e.stores = envs.map (·, none) ∧
      e.talk = sessionTalk storingConfig (ascii "h") [oneMessage] envs :=
  run_delivers quietWorld_accepting rfl (by decide) oneMessageConn_stream (by decide) (by decide)
    (by decide) (by decide) (by decide) oneMessage_fits (.inl (by decide)) (by decide)

end Engine

end Icesmtp
