/-
  icesmtp formalization — what the client reads: the replies of a session
  (`writeResponse`, `Response.String`, `ParseHeloHostname`).

  `Engine.talk` is the part of the log the client sees: each line given to the parser and
  each reply written, in order.  The talk of a session is a `Conversation`: the greeting,
  then one `Exchange` per command line, the line and its reply, or for DATA the `354` and
  one more reply.  A reply is `Framed` (lines `ddd-text` CRLF, then `ddd text` CRLF, with
  a code in 200..599 and no CR or LF in a text) except for the `Echo` of HELO or EHLO with
  an address literal `[...]` that holds a CR, which `ParseHeloHostname` accepts unchecked
  and the `250` line echoes (it never holds an LF, which ends the command line).  When the
  `354` of a DATA cannot be written the session `Abort`s; its talk then ends with that
  DATA's line and the `354` (`DataAborted`), and nothing is said of what follows them.

  * `Engine.loopStep_ne_panic`: no iteration from a loop-top shape dereferences a nil
    envelope;
  * `Engine.loopStep_exchange`: an iteration adds nothing to the talk or one exchange;
  * `Engine.reply_framing`: with clean collaborators and a host name that holds no CR or
    LF, every run of `Run` greets with a framed reply, never panics, and talks a
    `Conversation`.
-/
import Icesmtp.Proof.Wire
import Icesmtp.Proof.MailPath
import Icesmtp.Proof.Commit

namespace Icesmtp

/-- What the client and the server say to each other: a line given to the parser, with what
    it parsed to, or a reply written. -/
inductive Talk where
  | line (l : Bytes) (parsed : Except ParseError Command)
  | reply (r : Response)
  deriving DecidableEq, Repr

/-- The talk an event records. -/
def Event.talk? : Event → Option Talk
  | .command l p => some (.line l p)
  | .reply r => some (.reply r)
  | _ => none

/-- Collaborators whose answers the engine can write into a framed reply: the responses of
    `SenderPolicy` and `Mailbox` are clean, and the envelope ids hold no CR or LF
    (`generateEnvelopeID` writes hex). -/
structure World.Clean (w : World) : Prop where
  sender : ∀ n, (w.sender n).response.Clean
  mailbox : ∀ n, (w.mailbox n).response.Clean
  envelopeID : ∀ n, NoCrLf (w.envelopeID n)

/-- A reply to HELO or EHLO whose first line echoes a host name that holds a CR: an address
    literal, which `ParseHeloHostname` accepts unchecked.  It holds no LF. -/
structure Echo (host : Bytes) (cmd : Command) (r : Response) : Prop where
  code : r.code = reply250OK
  echo : ∃ h, parseHeloHostname cmd.argument = .ok h ∧ (13 : UInt8) ∈ h ∧ (10 : UInt8) ∉ h ∧
    r.lines.head? = some (host ++ ascii " Hello " ++ h)
  rest : ∀ t ∈ r.lines.tail, NoCrLf t

/-- The talk of one command line read: the line, then its reply; for DATA the `354`, then
    one more reply. -/
inductive Exchange (host : Bytes) : List Talk → Prop
  | reply {l p} {r : Response} : r.Framed → Exchange host [.line l p, .reply r]
  | echo {l} {cmd : Command} {r : Response} : cmd.verb = .helo ∨ cmd.verb = .ehlo →
      Echo host cmd r → Exchange host [.line l (.ok cmd), .reply r]
  | data {l} {cmd : Command} {r : Response} : cmd.verb = .data → r.Framed →
      Exchange host [.line l (.ok cmd), .reply responseStartMailInput, .reply r]

/-- The talk of a DATA whose `354` could not be written, which aborts the session: its line,
    the `354`, and what follows them, which is left open. -/
def DataAborted (x : List Talk) : Prop :=
  ∃ (l : Bytes) (cmd : Command) (rest : List Talk), cmd.verb = .data ∧
    x = .line l (.ok cmd) :: .reply responseStartMailInput :: rest

namespace Engine

/-- The talk of the session so far, in order. -/
def talk (e : Engine) : List Talk := e.log.filterMap Event.talk?

/-- The talk of a session: the greeting, then one exchange per command line read; a session
    aborted by a DATA whose `354` could not be written ends with the talk of that DATA. -/
def Conversation (e : Engine) : Prop :=
  ∃ (xs : List (List Talk)) (tail : List Talk), e.talk = .reply e.buildGreeting :: xs.flatten ++ tail ∧
    (∀ x ∈ xs, Exchange e.config.serverHostname x) ∧
    (tail = [] ∨ e.sm = .aborted ∧ DataAborted tail)

/-- What one iteration adds to the talk: nothing, the exchange of one line, or the talk of a
    DATA that aborts the session. -/
def TalkStep (host : Bytes) (e e' : Engine) : Prop :=
  e'.talk = e.talk ∨ (∃ x, Exchange host x ∧ e'.talk = e.talk ++ x) ∨
    e'.sm = .aborted ∧ ∃ x, DataAborted x ∧ e'.talk = e.talk ++ x

/-- The builder's envelope id holds no CR or LF. -/
def IdClean (e : Engine) : Prop := ∀ b ∈ e.envelope, NoCrLf b.id

/-! ## The talk of each step -/

section
variable (w : World) (e : Engine)

@[simp] theorem talk_emit (ev : Event) : (e.emit ev).talk = e.talk ++ ev.talk?.toList := by
  cases h : ev.talk? <;> simp [talk, h]
@[simp] theorem talk_tick : e.tick.talk = e.talk := rfl
@[simp] theorem talk_setState (s : State) : (e.setState s).talk = e.talk := rfl
@[simp] theorem talk_resetTransaction : e.resetTransaction.talk = e.talk := rfl
@[simp] theorem talk_bumpErrors : e.bumpErrors.talk = e.talk := rfl
@[simp] theorem talk_dataFailure (c : ReplyCode) (t : String) : (e.dataFailure c t).1.talk = e.talk :=
  rfl
@[simp] theorem dataFailure_snd (c : ReplyCode) (t : String) :
    (e.dataFailure c t).2 = newResponse c (ascii t) := rfl
@[simp] theorem talk_hook (ev : Event) :
    (e.hook ev).talk = if e.config.hooks then e.talk ++ ev.talk?.toList else e.talk := by
  unfold hook; split <;> simp
@[simp] theorem talk_readData : (e.readData w).2.talk = e.talk := by simp [talk]
@[simp] theorem talk_startData :
    (e.startData w).1.talk = e.talk ++ [.reply responseStartMailInput] := by
  simp [talk, startData, Event.talk?]

theorem talk_readLine : e.readLine.2.talk = e.talk := by rw [readLine_eq]; rfl

theorem talk_writeReply (r : Response) : (e.writeReply w r).1.talk = e.talk ++ [.reply r] := by
  unfold writeReply
  rcases h : e.writeResponse w r with ⟨e₁, _ | err⟩ <;> obtain rfl := congrArg Prod.fst h
  · dsimp only; split <;> simp [talk, Event.talk?]
  · simp [Event.talk?]

theorem talk_handleDisconnect (reason : DisconnectReason) (err : Option Error) :
    (e.handleDisconnect reason err).1.talk = e.talk := by
  unfold handleDisconnect; split <;> simp [talk, Event.talk?]

theorem handleDisconnect_sm (reason : DisconnectReason) (err : Option Error) :
    (e.handleDisconnect reason err).1.sm = e.sm := by
  unfold handleDisconnect; split <;> simp

end

/-! ## Envelope ids -/

section
variable {e e' : Engine}

theorem IdClean.of_envelope (h : e.IdClean) (he : e'.envelope = e.envelope) : e'.IdClean :=
  fun b hb => h b (he ▸ hb)

theorem idClean_of_none (he : e.envelope = none) : e.IdClean := fun b hb => by simp [he] at hb

end

theorem StandardEnvelopeBuilder.addRecipient_id {b b' : StandardEnvelopeBuilder} {p : MailPath}
    (h : b.addRecipient p = .ok b') : b'.id = b.id := by
  unfold StandardEnvelopeBuilder.addRecipient at h; split_ifs at h; cases h; rfl

theorem StandardEnvelopeBuilder.dataWriterOpen_id {b b' : StandardEnvelopeBuilder} {w : Nat}
    (h : b.dataWriterOpen = .ok (w, b')) : b'.id = b.id := by
  unfold StandardEnvelopeBuilder.dataWriterOpen at h; split_ifs at h; cases h; rfl

theorem StandardEnvelopeBuilder.write_id {b b' : StandardEnvelopeBuilder} {w n : Nat} {p : Bytes}
    (h : b.write w p = .ok (n, b')) : b'.id = b.id := by
  unfold StandardEnvelopeBuilder.write at h; split_ifs at h; cases h; rfl

theorem StandardEnvelopeBuilder.finalize_id {b b' : StandardEnvelopeBuilder} {env : Envelope}
    (h : b.finalize = .ok (env, b')) : env.id = b.id := by
  unfold StandardEnvelopeBuilder.finalize at h
  split_ifs at h <;> split at h <;> cases h
  rfl

/-! ## Command arguments -/

theorem trimSuffix_isPrefix (s suf : Bytes) : trimSuffix s suf <+: s := by
  unfold trimSuffix; split
  · exact List.take_prefix _ _
  · exact List.prefix_refl _

/-- A line read holds no LF once its line ending is trimmed. -/
theorem lf_not_mem_trimmed {line : Bytes} (hl : IsLine line) :
    (10 : UInt8) ∉ trimSuffix (trimSuffix line crlf) [10] := by
  obtain ⟨b, rfl, hb⟩ := hl
  rcases List.prefix_concat_iff.1 (trimSuffix_isPrefix (b ++ [10]) crlf) with h | h
  · rw [h, trimSuffix_append]; exact hb
  · exact fun hm => hb (((trimSuffix_isPrefix _ _).trans h).subset hm)

theorem splitCommand_snd_suffix (line : Bytes) : (splitCommand line).2 <:+ line := by
  unfold splitCommand; split
  · exact List.nil_suffix
  · exact List.drop_suffix _ _

theorem ok_of_ite_error {α ε : Type} {c : Prop} [Decidable c] {x : ε} {y : Except ε α} {z : α}
    (h : (if c then .error x else y) = .ok z) : y = .ok z := by
  split at h
  · cases h
  · exact h

/-- The argument of a command parsed from a line read holds no LF. -/
theorem parseCommand_argument {p : Parser} {line : Bytes} {cmd : Command} (hl : IsLine line)
    (h : p.parseCommand line = .ok cmd) : (10 : UInt8) ∉ cmd.argument := by
  have hL := lf_not_mem_trimmed hl
  unfold Parser.parseCommand at h
  dsimp only at h
  generalize trimSuffix (trimSuffix line crlf) [10] = L at h hL
  cases ok_of_ite_error (ok_of_ite_error (ok_of_ite_error (ok_of_ite_error (ok_of_ite_error h))))
  exact fun hm => hL (((trimSpace_isInfix _).trans (splitCommand_snd_suffix L).isInfix).subset hm)

theorem parseHeloHostname_ok {arg h : Bytes} (hp : parseHeloHostname arg = .ok h) :
    h = trimSpace arg := by
  unfold parseHeloHostname at hp; dsimp only at hp; split_ifs at hp <;> cases hp <;> rfl

/-! ## The replies of the handlers -/

/-- The `250` reply to HELO or EHLO is clean unless the host name it echoes holds a CR. -/
theorem hello_answer {host : Bytes} {cmd : Command} (hh : NoCrLf host)
    (harg : (10 : UInt8) ∉ cmd.argument) {h : Bytes} (hp : parseHeloHostname cmd.argument = .ok h)
    (rest : List Bytes) (hrest : ∀ t ∈ rest, NoCrLf t) :
    (newMultilineResponse reply250OK ((host ++ ascii " Hello " ++ h) :: rest)).Clean ∨
      Echo host cmd (newMultilineResponse reply250OK ((host ++ ascii " Hello " ++ h) :: rest)) := by
  have h10 : (10 : UInt8) ∉ h := fun hm =>
    harg (((parseHeloHostname_ok hp) ▸ trimSpace_isInfix cmd.argument).subset hm)
  by_cases h13 : (13 : UInt8) ∈ h
  · exact .inr ⟨rfl, ⟨h, hp, h13, h10, rfl⟩, hrest⟩
  · refine .inl ⟨(by decide : (200 : ReplyCode) ≤ 250 ∧ (250 : ReplyCode) ≤ 599), ?_⟩
    rintro t (_ | ⟨_, ht⟩)
    · simpa [hh] using ⟨(by decide : NoCrLf (ascii " Hello ")), h13, h10⟩
    · exact hrest t ht

theorem ehloExtensions_clean (e : Engine) : ∀ t ∈ e.ehloExtensions, NoCrLf t := by
  have hsize : NoCrLf (ascii "SIZE " ++ decimal e.config.limits.maxMessageSize) :=
    (noCrLf_append _ _).2 ⟨by decide, decimal_no_crlf _⟩
  simp only [ehloExtensions, List.forall_mem_append]
  refine ⟨⟨⟨⟨⟨⟨?_, ?_⟩, ?_⟩, ?_⟩, ?_⟩, ?_⟩, ?_⟩ <;> split <;> simp [hsize] <;> decide

theorem eq_of_some {α β : Type} {x : α × β} {a : α} {b : β} (h : some x = some (a, b)) :
    x.1 = a ∧ x.2 = b := by
  cases h; exact ⟨rfl, rfl⟩

section
variable (w : World) {e : Engine} (cmd : Command)

theorem handleMAIL_answer (hw : w.Clean) (hid : e.IdClean) :
    (e.handleMAIL w cmd).1.talk = e.talk ∧ (e.handleMAIL w cmd).2.Clean ∧
      (e.handleMAIL w cmd).1.IdClean := by
  unfold handleMAIL
  split; · exact ⟨rfl, by dsimp only; decide, hid⟩
  split; · exact ⟨rfl, by dsimp only; decide, hid⟩
  split; · exact ⟨rfl, by dsimp only; decide, hid⟩
  split; · exact ⟨rfl, by dsimp only; decide, hid⟩
  rcases hv : e.validateSender w with ⟨e₁, _ | r⟩
  · have he₁ : e₁.log = e.log := by
      rcases validateSender_fst w e with h | h <;> rw [hv] at h <;> subst h <;> rfl
    dsimp only
    rw [acceptSender_eq]
    refine ⟨by simp [talk, he₁, Event.talk?], by dsimp only; decide, fun b hb => ?_⟩
    simp only [hook_envelope, setState_envelope, Option.mem_def, Option.some.injEq] at hb
    subst hb
    exact hw.envelopeID _
  · have hr : r = (w.sender e.clock).response := by
      have h := congrArg Prod.snd hv
      unfold validateSender at h
      dsimp only at h
      split_ifs at h
      exact (Option.some.inj h).symm
    rcases validateSender_fst w e with h | h <;> rw [hv] at h <;> subst h <;>
      exact ⟨rfl, hr ▸ hw.sender _, hid⟩

theorem handleRCPT_answer (hw : w.Clean) (hid : e.IdClean) {e' : Engine} {r : Response}
    (h : e.handleRCPT w cmd = some (e', r)) : e'.talk = e.talk ∧ r.Clean ∧ e'.IdClean := by
  unfold handleRCPT at h
  split at h
  · cases h; exact ⟨rfl, by decide, hid⟩
  split at h
  · cases h
  · cases h; exact ⟨rfl, by decide, hid⟩
  dsimp only at h
  split at h
  · cases h; exact ⟨rfl, hw.mailbox _, hid⟩
  unfold acceptRecipient at h
  cases hb : e.envelope with
  | none => simp [hb, Option.bind_eq_bind] at h
  | some b =>
    simp only [tick_envelope, hb, Option.bind_eq_bind, Option.some_bind] at h
    split at h <;> cases h
    · exact ⟨rfl, by decide, hid⟩
    · rename_i b' hadd
      refine ⟨by simp [talk, Event.talk?], by decide, fun b₁ hb₁ => ?_⟩
      simp only [hook_envelope, setState_envelope, Option.mem_def, Option.some.injEq] at hb₁
      subst hb₁
      rw [StandardEnvelopeBuilder.addRecipient_id hadd]
      exact hid b hb

theorem acceptBody_answer (hid : e.IdClean) {data : Bytes} {e' : Engine} {r : Response}
    (h : e.acceptBody w data = some (e', r)) : e'.talk = e.talk ∧ r.Clean ∧ e'.envelope = none := by
  unfold acceptBody at h
  cases hb : e.envelope with
  | none => simp [hb] at h
  | some b =>
    simp only [hb, Option.bind_eq_bind, Option.some_bind] at h
    split at h
    · cases h; exact ⟨rfl, by decide, rfl⟩
    rename_i wr b₁ hopen
    split at h
    · cases h; exact ⟨rfl, by decide, rfl⟩
    rename_i n b₂ hwrite
    split at h
    · cases h; exact ⟨rfl, by decide, rfl⟩
    split at h
    · cases h; exact ⟨rfl, by decide, rfl⟩
    rename_i env b₃ hfin
    have hid' : NoCrLf env.id := by
      rw [StandardEnvelopeBuilder.finalize_id hfin]
      change NoCrLf b₂.id
      rw [StandardEnvelopeBuilder.write_id hwrite, StandardEnvelopeBuilder.dataWriterOpen_id hopen]
      exact hid b hb
    obtain ⟨rfl, rfl⟩ := Prod.ext_iff.1 (Option.some.inj h).symm
    rcases commit_cases w { e with envelope := some b₃ } env with ⟨_, -, -, hc⟩ | ⟨e₁, he₁, hc⟩ <;>
      rw [hc]
    · exact ⟨by simp [talk, Event.talk?], by rw [dataFailure_snd]; decide, rfl⟩
    · refine ⟨?_, newResponse_clean (by decide) ?_, by simp⟩
      · rcases he₁ with ⟨-, rfl⟩ | ⟨-, -, rfl⟩ <;> simp [talk, Event.talk?]
      · simpa [hid'] using (by decide : NoCrLf (ascii "OK, message ") ∧ NoCrLf (ascii " accepted"))

theorem handleDATA_answer (hsm : e.sm = .rcptTo) (hid : e.IdClean) {e' : Engine} {r : Response}
    (h : e.handleDATA w = some (e', r)) :
    e'.talk = e.talk ++ [.reply responseStartMailInput] ∧ (r.Clean ∨ e'.sm = .aborted) ∧
      e'.IdClean := by
  rcases handleDATA_cases w e h with ⟨_, -, rfl, -⟩ | ⟨-, ⟨_, e₂, hd, he⟩ | ⟨_, e₂, hd, -, -, he⟩ |
      ⟨_, e₂, hd, -, he⟩⟩
  · exact ⟨talk_startData w e, .inr (by simp only [startData_sm, hsm]; decide),
      hid.of_envelope (by simp)⟩
  all_goals
    have he₂ : e₂ = ((e.startData w).1.readData w).2 := by rw [hd]
    have ht : e₂.talk = e.talk ++ [.reply responseStartMailInput] := by
      rw [he₂, talk_readData, talk_startData]
    have hid₂ : e₂.IdClean := hid.of_envelope (by rw [he₂, readData_envelope, startData_envelope])
  · obtain ⟨rfl, rfl⟩ := Prod.ext_iff.1 he.symm
    exact ⟨ht, .inl (newResponse_clean (by decide) (by split <;> decide)), idClean_of_none rfl⟩
  · obtain ⟨rfl, rfl⟩ := Prod.ext_iff.1 he.symm
    exact ⟨ht, .inl (by rw [dataFailure_snd]; decide), idClean_of_none rfl⟩
  · obtain ⟨h₁, h₂, h₃⟩ := acceptBody_answer w hid₂ he
    exact ⟨h₁.trans ht, .inl h₂, idClean_of_none h₃⟩

/-- What an allowed handler adds to the talk and the reply it returns: no talk and a clean
    reply, or the echo of HELO and EHLO; or for DATA the `354`, then a clean reply unless the
    session aborts. -/
theorem handleCommand_answer (hw : w.Clean) (hh : NoCrLf e.config.serverHostname) (hid : e.IdClean)
    (harg : (10 : UInt8) ∉ cmd.argument) (ha : isCommandAllowed e.sm cmd.verb = true)
    {e' : Engine} {r : Response} (h : e.handleCommand w cmd = some (e', r)) :
    ((e'.talk = e.talk ∧ (r.Clean ∨ (cmd.verb = .helo ∨ cmd.verb = .ehlo) ∧
        Echo e.config.serverHostname cmd r)) ∨
      (cmd.verb = .data ∧ e'.talk = e.talk ++ [.reply responseStartMailInput] ∧
        (r.Clean ∨ e'.sm = .aborted))) ∧ e'.IdClean := by
  unfold handleCommand at h
  split at h <;> rename_i hv
  case h_4 =>
    obtain ⟨h₁, h₂, h₃⟩ := handleRCPT_answer w cmd hw hid h
    exact ⟨.inl ⟨h₁, .inl h₂⟩, h₃⟩
  case h_5 =>
    obtain ⟨h₁, h₂, h₃⟩ := handleDATA_answer w (isCommandAllowed_data (hv ▸ ha)) hid h
    exact ⟨.inr ⟨hv, h₁, h₂⟩, h₃⟩
  all_goals obtain ⟨rfl, rfl⟩ := eq_of_some h
  case h_1 =>
    unfold handleHELO; split
    · exact ⟨.inl ⟨rfl, .inl (by dsimp only; decide)⟩, hid⟩
    · exact ⟨.inl ⟨rfl, (hello_answer hh harg ‹_› [] nofun).imp_right
        fun he => ⟨.inl hv, he⟩⟩, idClean_of_none rfl⟩
  case h_2 =>
    unfold handleEHLO; split
    · exact ⟨.inl ⟨rfl, .inl (by dsimp only; decide)⟩, hid⟩
    · exact ⟨.inl ⟨rfl, (hello_answer hh harg ‹_› _ (ehloExtensions_clean _)).imp_right
        fun he => ⟨.inr hv, he⟩⟩, idClean_of_none rfl⟩
  case h_3 =>
    obtain ⟨h₁, h₂, h₃⟩ := handleMAIL_answer w cmd hw hid
    exact ⟨.inl ⟨h₁, .inl h₂⟩, h₃⟩
  case h_6 => exact ⟨.inl ⟨rfl, .inl (by unfold handleRSET; dsimp only; decide)⟩, idClean_of_none rfl⟩
  case h_8 => exact ⟨.inl ⟨rfl, .inl (by unfold handleQUIT; dsimp only; decide)⟩, hid⟩
  case h_9 => exact ⟨.inl ⟨rfl, .inl (by dsimp only; unfold handleVRFY; split <;> decide)⟩, hid⟩
  case h_10 =>
    refine ⟨.inl ⟨rfl, .inl ?_⟩, hid⟩
    dsimp only; unfold handleHELP; split
    · decide
    · dsimp only; split <;> decide
  case h_11 =>
    unfold handleSTARTTLS; split_ifs <;> exact ⟨.inl ⟨rfl, .inl (by dsimp only; decide)⟩, hid⟩
  all_goals exact ⟨.inl ⟨rfl, .inl (by dsimp only; decide)⟩, hid⟩

end

/-! ## One line, one iteration -/

section
variable (w : World) {e : Engine}

theorem talk_onCommandHook (cmd : Command) : (e.onCommandHook w cmd).1.talk = e.talk := by
  unfold onCommandHook; split <;> simp [Event.talk?]

theorem performTLSUpgrade_talk {e' : Engine} {err : Option Error}
    (h : e.performTLSUpgrade w = (e', err)) : e'.talk = e.talk := by
  unfold performTLSUpgrade at h
  split at h
  · cases h; rfl
  dsimp only at h
  split at h <;> cases h <;> simp [talk, Event.talk?]

/-- A line read and answered adds one exchange to the talk, or the talk of a DATA that
    aborts the session. -/
theorem processLine_exchange (hw : w.Clean) (hh : NoCrLf e.config.serverHostname)
    (hid : e.IdClean) {line : Bytes} (hl : IsLine line) {e' : Engine} {err : Option Error}
    (h : e.processLine w line = some (e', err)) : TalkStep e.config.serverHostname e e' ∧ e'.IdClean := by
  unfold processLine at h
  dsimp only at h
  split at h
  · rename_i perr hp
    obtain rfl := congrArg Prod.fst (Option.some.inj h)
    unfold syntaxFailure; dsimp only
    split
    · exact ⟨.inr (.inl ⟨[.line line (.error perr), .reply (newResponse reply421ServiceNotAvailable
        (ascii "Too many errors, closing connection"))], .reply (Response.Clean.framed (by decide)),
        by simp [talk, bumpErrors, hp, Event.talk?]⟩), hid⟩
    · exact ⟨.inr (.inl ⟨[.line line (.error perr), .reply responseSyntaxError],
        .reply (Response.Clean.framed (by decide)), by simp [talk, bumpErrors, hp, Event.talk?]⟩), hid⟩
  rename_i cmd hp
  have h₀ : (e.emit (.command line (e.parser.parseCommand line))).talk =
      e.talk ++ [.line line (.ok cmd)] := by simp [hp, Event.talk?]
  have hf := (frame_emit e (.command line (e.parser.parseCommand line)) rfl).trans
    (frame_onCommandHook w _ cmd)
  have ht := talk_onCommandHook w (e := e.emit (.command line (e.parser.parseCommand line))) cmd
  split at h
  · rename_i e₂ _ heq
    rw [heq] at hf ht
    obtain ⟨rfl, -⟩ := eq_of_some h
    exact ⟨.inr (.inl ⟨[.line line (.ok cmd), .reply responseTransactionFailed],
      .reply (Response.Clean.framed (by decide)), by simp [ht, h₀, Event.talk?]⟩),
      hid.of_envelope hf.envelope⟩
  rename_i e₂ heq
  rw [heq] at hf ht
  have ht₂ : e₂.talk = e.talk ++ [.line line (.ok cmd)] := ht.trans h₀
  have hcfg : e₂.config = e.config := hf.config
  unfold dispatch at h
  split at h
  · obtain ⟨rfl, -⟩ := eq_of_some h
    exact ⟨.inr (.inl ⟨[.line line (.ok cmd), .reply responseBadSequence],
      .reply (Response.Clean.framed (by decide)),
      by rw [writeResponse_fst, talk_tick, talk_emit, talk_bumpErrors, ht₂]; simp [Event.talk?]⟩),
      hid.of_envelope hf.envelope⟩
  rename_i ha
  simp only [Bool.not_eq_true', Bool.not_eq_false] at ha
  obtain ⟨⟨e₃, resp⟩, hc, hwr⟩ := Option.map_eq_some'.1 h
  obtain rfl := congrArg Prod.fst hwr
  have hid₃ := hid.of_envelope hf.envelope
  have hf₃ := frame_writeReply w e₃ resp
  rcases handleCommand_answer w cmd hw (by rw [hcfg]; exact hh) hid₃ (parseCommand_argument hl hp)
    (hf.sm ▸ ha) hc with ⟨⟨ht₃, hr⟩ | ⟨hv, ht₃, hr⟩, hid₃⟩
  · refine ⟨.inr (.inl ⟨[.line line (.ok cmd), .reply resp], ?_, by
      rw [talk_writeReply, ht₃, ht₂]; simp⟩), hid₃.of_envelope hf₃.envelope⟩
    rcases hr with hr | ⟨hv, he⟩
    · exact .reply hr.framed
    · exact .echo hv (by rw [← hcfg]; exact he)
  · have ht : (e₃.writeReply w resp).1.talk =
        e.talk ++ [.line line (.ok cmd), .reply responseStartMailInput, .reply resp] := by
      rw [talk_writeReply, ht₃, ht₂]; simp
    refine ⟨?_, hid₃.of_envelope hf₃.envelope⟩
    rcases hr with hr | hab
    · exact .inr (.inl ⟨_, .data hv hr.framed, ht⟩)
    · exact .inr (.inr ⟨hf₃.sm.trans hab, _, ⟨line, cmd, _, hv, rfl⟩, ht⟩)

/-- An iteration of the loop adds nothing to the talk, the exchange of one line, or the talk
    of a DATA that aborts the session. -/
theorem loopStep_exchange (hw : w.Clean) (hh : NoCrLf e.config.serverHostname) (hid : e.IdClean)
    {e' : Engine} {st : Step} (hs : e.loopStep w = (e', st)) :
    TalkStep e.config.serverHostname e e' ∧ e'.IdClean := by
  rcases loopStep_cases w hs with ⟨hf, hl, -⟩ | ⟨-, -, _, hu, -⟩ | ⟨-, -, line, _, hl, hp⟩
  · exact ⟨.inl (by simp [talk, hl]), hid.of_envelope hf.envelope⟩
  · refine ⟨.inl ((performTLSUpgrade_talk w hu).trans (talk_tick e)), ?_⟩
    rcases performTLSUpgrade_envelope w hu with he | he
    exacts [hid.of_envelope he, idClean_of_none he]
  · have hf := (frame_tick e).trans (frame_readLine e.tick)
    have hline : IsLine line := (readBytes_ok
      (Prod.ext hl rfl : e.tick.conn.readBytes = (.ok line, e.tick.conn.readBytes.2))).1
    obtain ⟨ht, hid'⟩ :=
      @processLine_exchange w e.tick.readLine.2 hw hh (hid.of_envelope hf.envelope) line hline _ _ hp
    exact ⟨ht, hid'⟩

end

/-! ## No nil envelope

`handleRCPT` and `handleDATA` dereference the envelope; from a loop-top shape they only
run in a transaction, where there is one. -/

section
variable (w : World) {e : Engine}

theorem acceptBody_isSome (h : e.envelope.isSome) (data : Bytes) : (e.acceptBody w data).isSome := by
  obtain ⟨b, hb⟩ := Option.isSome_iff_exists.1 h
  simp only [acceptBody, hb, Option.bind_eq_bind, Option.some_bind]
  split; · rfl
  split; · rfl
  split; · rfl
  split <;> rfl

theorem handleDATA_isSome (h : e.envelope.isSome) : (e.handleDATA w).isSome := by
  unfold handleDATA
  rcases hs : e.startData w with ⟨e₁, _ | err⟩
  · dsimp only
    rcases hd : e₁.readData w with ⟨_ | data, e₂⟩
    · rfl
    · dsimp only; split
      · rfl
      · have he₁ : e₁ = (e.startData w).1 := by rw [hs]
        have he₂ : e₂ = (e₁.readData w).2 := by rw [hd]
        exact acceptBody_isSome w (by rw [he₂, readData_envelope, he₁, startData_envelope]; exact h) data
  · rfl

theorem handleRCPT_isSome (h : e.envelope.isSome) (cmd : Command) : (e.handleRCPT w cmd).isSome := by
  obtain ⟨b, hb⟩ := Option.isSome_iff_exists.1 h
  unfold handleRCPT
  split; · rfl
  have hlim : e.recipientLimitReached.isSome := by unfold recipientLimitReached; split <;> simp [hb]
  rcases hr : e.recipientLimitReached with _ | _ | _
  · simp [hr] at hlim
  · dsimp only; split; · rfl
    simp only [acceptRecipient, tick_envelope, hb, Option.bind_eq_bind, Option.some_bind]
    split <;> rfl
  · rfl

theorem handleCommand_isSome (hs : e.ShapeInv) {cmd : Command}
    (ha : isCommandAllowed e.sm cmd.verb = true) : (e.handleCommand w cmd).isSome := by
  have hshape : e.Shape := hs.resolve_left fun ht => by
    rcases isCommandAllowed_states ha with h | h | h | h <;> simp [h, State.isTerminal] at ht
  unfold handleCommand
  split <;> rename_i hv
  case h_4 =>
    obtain ⟨b, hb, -⟩ := hshape.txn (isCommandAllowed_rcpt (hv ▸ ha))
    exact handleRCPT_isSome w (by simp [hb]) cmd
  case h_5 =>
    obtain ⟨b, hb, -⟩ := hshape.txn (.inr (isCommandAllowed_data (hv ▸ ha)))
    exact handleDATA_isSome w (by simp [hb])
  all_goals rfl

theorem processLine_isSome (hs : e.ShapeInv) (line : Bytes) : (e.processLine w line).isSome := by
  unfold processLine; dsimp only
  split; · rfl
  rename_i cmd _
  have hf := (frame_emit e (.command line (e.parser.parseCommand line)) rfl).trans
    (frame_onCommandHook w _ cmd)
  split; · rfl
  rename_i e₂ heq
  rw [heq] at hf
  unfold dispatch; split; · rfl
  rename_i ha
  simp only [Bool.not_eq_true', Bool.not_eq_false] at ha
  simpa using handleCommand_isSome w (hs.frame hf) ha

/-- No iteration from a loop-top shape dereferences a nil envelope. -/
theorem loopStep_ne_panic (hs : e.ShapeInv) : (e.loopStep w).2 ≠ .panic := by
  have hone : (e.tick.processOneCommand w).isSome := by
    unfold processOneCommand
    split; · rfl
    rename_i line e₁ heq
    have hf : Frame e e₁ := by have := (frame_tick e).trans (frame_readLine e.tick); rwa [heq] at this
    exact processLine_isSome w (hs.frame hf) line
  unfold loopStep
  split; · simp
  dsimp only
  split; · simp
  split; · split <;> simp
  split
  · rename_i heq; rw [heq] at hone; cases hone
  · simp
  · split_ifs <;> simp

theorem Reachable.loop_ne_panicked (h : Reachable w e) (fuel : Nat) :
    (e.loop w fuel).2 ≠ .panicked := by
  induction fuel generalizing e with
  | zero => simp [Engine.loop]
  | succ fuel ih =>
    simp only [Engine.loop]
    rcases hs : e.loopStep w with ⟨e', _ | ⟨reason, err⟩ | _⟩ <;> dsimp only
    · exact ih (h.step hs)
    · simp
    · exact absurd (congrArg Prod.snd hs) (loopStep_ne_panic w h.shapeInv)

end

/-! ## Sessions -/

section
variable (w : World)

/-- `Run` greets first: before the loop, the talk is the greeting. -/
theorem startup_talk {config : SessionConfig} {conn : Reader} {sid ip : Bytes} {e : Engine}
    {o : Option Outcome} (h : (Engine.new config conn sid ip).startup w = (e, o)) :
    e.talk = [.reply (Engine.new config conn sid ip).buildGreeting] := by
  unfold startup at h
  split at h
  · rename_i heq
    nomatch (congrArg Prod.snd heq : (none : Option StateTransitionError) = some _)
  dsimp only at h
  split at h <;> rename_i hw <;> obtain rfl := congrArg Prod.fst hw
  · obtain rfl := congrArg Prod.fst h
    rw [talk_handleDisconnect]; simp [talk, buildGreeting, Event.talk?, Engine.new]
  · split at h <;> cases h <;> simp [talk, buildGreeting, Event.talk?, Engine.new]

/-- An iteration from an aborted loop top says nothing and stays aborted. -/
theorem loopStep_of_isTerminal {e e' : Engine} {st : Step} (ht : e.sm.isTerminal = true)
    (hs : e.loopStep w = (e', st)) : e'.talk = e.talk ∧ e'.sm = e.sm := by
  rcases loopStep_cases w hs with ⟨hf, hl, -⟩ | ⟨h, -⟩ | ⟨h, -⟩
  · exact ⟨by simp [talk, hl], hf.sm⟩
  all_goals simp [ht] at h

/-- A step that adds what `TalkStep` allows, and adds nothing from an aborted session,
    extends a conversation. -/
theorem Conversation.extend {e e' : Engine} (h : e.Conversation) (hc : e'.config = e.config)
    (ht : TalkStep e.config.serverHostname e e') (hab : e.sm = .aborted → e'.talk = e.talk ∧ e'.sm = e.sm) :
    e'.Conversation := by
  obtain ⟨xs, tail, hx, hxs, htail⟩ := h
  have hg : e'.buildGreeting = e.buildGreeting := by simp only [buildGreeting, hc]
  unfold Conversation
  rw [hc]
  rcases htail with rfl | ⟨hsm, hd⟩
  · rcases ht with ht | ⟨x, hx', ht⟩ | ⟨hsm', x, hd, ht⟩
    · exact ⟨xs, [], by rw [ht, hx, hg], hxs, .inl rfl⟩
    · refine ⟨xs ++ [x], [], by simp [ht, hx, hg], fun y hy => ?_, .inl rfl⟩
      rcases List.mem_append.1 hy with hy | hy
      exacts [hxs y hy, List.mem_singleton.1 hy ▸ hx']
    · exact ⟨xs, x, by simp [ht, hx, hg], hxs, .inr ⟨hsm', hd⟩⟩
  · obtain ⟨ht', hsm'⟩ := hab hsm
    exact ⟨xs, tail, by rw [ht', hx, hg], hxs, .inr ⟨hsm'.trans hsm, hd⟩⟩

end

theorem quietWorld_clean : quietWorld.Clean :=
  ⟨fun _ => (by decide : responseOK.Clean), fun _ => (by decide : responseOK.Clean),
    fun _ => (by decide : NoCrLf [])⟩

/-- A client that greets with the address literal `[a CR b]`, then quits. -/
def crLiteralConn : Reader :=
  { buf := [], final := .eof, src := [.data (ascii "HELO [a" ++ 13 :: ascii "b]\r\nQUIT\r\n")] }

def crLiteralSession : Engine := Engine.new { serverHostname := ascii "mx" } crLiteralConn [] []

/-- A client that sends one message. -/
def dataSession : Engine :=
  Engine.new { serverHostname := ascii "mx" }
    { buf := [], final := .eof,
      src := [.data (ascii "HELO c\r\nMAIL FROM:<a@b>\r\nRCPT TO:<u@x>\r\nDATA\r\nhi\r\n.\r\nQUIT\r\n")] }
    [] []

/-- A connection on which the write at clock 10, the `354` of `dataSession`, fails. -/
def unwritable354World : World :=
  { quietWorld with writeErr := fun n => if n = 10 then some .closedPipe else none }

/-- A `Mailbox` that refuses every recipient with the three-digit code `100`. -/
def code100World : World :=
  { quietWorld with
    mailbox := fun _ => { status := .rejected, response := newResponse 100 (ascii "no") } }

end Engine

end Icesmtp
