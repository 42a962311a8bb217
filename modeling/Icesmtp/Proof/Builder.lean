/-
  icesmtp formalization — the standard envelope builder under any sequence of
  calls (`envelope_builder.go`), with writers kept across `Reset`.

  `StandardEnvelopeBuilder.calls` runs a sequence of calls on the builder and
  on the writers it returned.  From a fresh builder (new, or just `Reset`) the
  builder holds the last sender, the recipients and the bytes that the
  successful calls since then gave it (`Tracks`), whichever writer wrote them.

  * `StandardEnvelopeBuilder.calls_tracks`: the run lemma for `Tracks`, from
    the step lemma `Tracks.step`;
  * `StandardEnvelopeBuilder.calls_finalized`, `call_refuses`: once
    finalized, the builder stays so until `Reset` and refuses the calls that
    check it, while `Write` on a writer that was never closed still appends
    (`call_write_open`);
  * `StandardEnvelopeBuilder.transaction_isolation`: what a successful
    `Finalize` returns, and what the builder does after it.
-/
import Icesmtp.Envelope

namespace Icesmtp

/-- A call on a builder, or on a writer it returned (named by its position among the
    writers the builder handed out). -/
inductive BuilderCall where
  | setMailFrom (path : MailPath) (params : ESMTPParams)
  | addRecipient (path : MailPath)
  | dataWriter
  | write (w : Nat) (p : Bytes)
  | close (w : Nat)
  | build
  | finalize
  | reset (id : Bytes)
  deriving DecidableEq, Repr

/-- What a call returns: no error, an error, a writer, a count of bytes written, or an
    envelope. -/
inductive BuilderResult where
  | done
  | failed (err : EnvelopeError)
  | writer (w : Nat)
  | written (n : Nat)
  | envelope (env : Envelope)
  deriving DecidableEq, Repr

namespace BuilderCall

/-- `Reset`. -/
def isReset : BuilderCall → Bool
  | .reset _ => true
  | _ => false

/-- The path of a `SetMailFrom`. -/
def mailFromArg : BuilderCall → Option MailPath
  | .setMailFrom path _ => some path
  | _ => none

/-- The path of an `AddRecipient`. -/
def recipientArg : BuilderCall → Option MailPath
  | .addRecipient path => some path
  | _ => none

/-- The calls that check `finalized`: `SetMailFrom`, `AddRecipient`, `DataWriter` and
    `Finalize`. -/
def guarded : BuilderCall → Bool
  | .setMailFrom .. | .addRecipient _ | .dataWriter | .finalize => true
  | _ => false

/-- The bytes a `Write` call gave, when it succeeded. -/
def accepted? : BuilderCall × BuilderResult → Option Bytes
  | (.write _ p, .written _) => some p
  | _ => none

/-- The sender a `SetMailFrom` call gave, when it succeeded. -/
def sender? : BuilderCall × BuilderResult → Option MailPath
  | (.setMailFrom path _, .done) => some path
  | _ => none

/-- The recipient an `AddRecipient` call gave, when it succeeded. -/
def recipient? : BuilderCall × BuilderResult → Option MailPath
  | (.addRecipient path, .done) => some path
  | _ => none

end BuilderCall

namespace StandardEnvelopeBuilder

/-- One call; a call that fails leaves the builder as it was. -/
def call (b : StandardEnvelopeBuilder) : BuilderCall → StandardEnvelopeBuilder × BuilderResult
  | .setMailFrom path params =>
    match b.setMailFrom path params with
    | .error err => (b, .failed err)
    | .ok b => (b, .done)
  | .addRecipient path =>
    match b.addRecipient path with
    | .error err => (b, .failed err)
    | .ok b => (b, .done)
  | .dataWriter =>
    match b.dataWriterOpen with
    | .error err => (b, .failed err)
    | .ok (w, b) => (b, .writer w)
  | .write w p =>
    match b.write w p with
    | .error err => (b, .failed err)
    | .ok (n, b) => (b, .written n)
  | .close w => (b.close w, .done)
  | .build => (b, .envelope b.build)
  | .finalize =>
    match b.finalize with
    | .error err => (b, .failed err)
    | .ok (env, b) => (b, .envelope env)
  | .reset id => (b.reset id, .done)

/-- A sequence of calls, and what each returned. -/
def calls (b : StandardEnvelopeBuilder) : List BuilderCall → StandardEnvelopeBuilder × List BuilderResult
  | [] => (b, [])
  | c :: cs => ((b.call c).1.calls cs).1 |> fun b' => (b', (b.call c).2 :: ((b.call c).1.calls cs).2)

theorem calls_append (b : StandardEnvelopeBuilder) (cs₁ cs₂ : List BuilderCall) :
    b.calls (cs₁ ++ cs₂) =
      (((b.calls cs₁).1.calls cs₂).1, (b.calls cs₁).2 ++ ((b.calls cs₁).1.calls cs₂).2) := by
  induction cs₁ generalizing b with
  | nil => rfl
  | cons c cs ih => simp [calls, ih]

theorem length_calls (b : StandardEnvelopeBuilder) (cs : List BuilderCall) :
    (b.calls cs).2.length = cs.length := by
  induction cs generalizing b with
  | nil => rfl
  | cons c cs ih => simp [calls, ih]

/-! ## Since the last `Reset` -/

/-- A builder as `NewStandardEnvelopeBuilder` or `Reset` leaves it. -/
structure Fresh (b : StandardEnvelopeBuilder) : Prop where
  mailFrom : b.mailFrom = none
  recipients : b.recipients = []
  data : b.data = []
  finalized : b.finalized = false

theorem fresh_new (id : Bytes) (md : EnvelopeMetadata) : (new id md).Fresh := ⟨rfl, rfl, rfl, rfl⟩

theorem fresh_reset (b : StandardEnvelopeBuilder) (id : Bytes) : (b.reset id).Fresh :=
  ⟨rfl, rfl, rfl, rfl⟩

/-- After a sequence of calls that is empty or ends with `Reset`, a new builder is fresh. -/
theorem fresh_calls (id : Bytes) (md : EnvelopeMetadata) {pre : List BuilderCall}
    (h : pre.getLast?.all BuilderCall.isReset) : ((new id md).calls pre).1.Fresh := by
  rcases List.eq_nil_or_concat pre with rfl | ⟨pre, c, rfl⟩
  · exact fresh_new id md
  rw [List.concat_eq_append] at h ⊢
  cases c <;> simp [BuilderCall.isReset] at h
  simp only [calls_append, calls, call]
  exact fresh_reset _ _

/-- The builder holds what the successful calls of the trace `t` gave it. -/
structure Tracks (b : StandardEnvelopeBuilder) (t : List (BuilderCall × BuilderResult)) :
    Prop where
  mailFrom : b.mailFrom = (t.filterMap BuilderCall.sender?).getLast?
  recipients : b.recipients = t.filterMap BuilderCall.recipient?
  data : b.data = (t.filterMap BuilderCall.accepted?).flatten

theorem Fresh.tracks {b : StandardEnvelopeBuilder} (h : b.Fresh) : b.Tracks [] :=
  ⟨h.mailFrom, h.recipients, h.data⟩

theorem filterMap_concat {α β : Type} (f : α → Option β) (t : List α) (x : α) :
    (t ++ [x]).filterMap f = t.filterMap f ++ (f x).toList := by
  cases h : f x <;> simp [h]

/-- What one call but `Reset` does to the sender, the recipients and the data: it sets what
    it gave when it succeeded, and leaves them otherwise. -/
theorem call_fields (b : StandardEnvelopeBuilder) {c : BuilderCall} (hc : c.isReset = false) :
    (b.call c).1.mailFrom = (BuilderCall.sender? (c, (b.call c).2)).or b.mailFrom ∧
      (b.call c).1.recipients = b.recipients ++ (BuilderCall.recipient? (c, (b.call c).2)).toList ∧
      (b.call c).1.data = b.data ++ (BuilderCall.accepted? (c, (b.call c).2)).getD [] := by
  simp only [BuilderCall.sender?, BuilderCall.recipient?, BuilderCall.accepted?]
  cases c with
  | setMailFrom path params => by_cases hf : b.finalized <;> simp [call, setMailFrom, hf]
  | addRecipient path => by_cases hf : b.finalized <;> simp [call, addRecipient, hf]
  | write w p => by_cases hw : b.writerIsClosed w <;> simp [call, write, hw]
  | dataWriter => simp only [call, dataWriterOpen]; split_ifs <;> simp
  | finalize =>
    simp only [call, finalize]
    cases hmf : b.mailFrom <;> split_ifs <;> simp [hmf]
  | close w => simp [call, close]
  | build => simp [call]
  | reset => cases hc

/-- One call but `Reset` keeps `Tracks`. -/
theorem Tracks.step {b : StandardEnvelopeBuilder} {t : List (BuilderCall × BuilderResult)}
    (h : b.Tracks t) (c : BuilderCall) (hc : c.isReset = false) :
    (b.call c).1.Tracks (t ++ [(c, (b.call c).2)]) := by
  obtain ⟨h1, h2, h3⟩ := call_fields b hc
  refine ⟨?_, ?_, ?_⟩
  · rw [h1, h.mailFrom, filterMap_concat, List.getLast?_append]
    cases BuilderCall.sender? _ <;> rfl
  · rw [h2, h.recipients, filterMap_concat]
  · rw [h3, h.data, filterMap_concat, List.flatten_append]
    cases BuilderCall.accepted? _ <;> simp

/-- A sequence of calls without `Reset` keeps `Tracks`. -/
theorem calls_tracks {b : StandardEnvelopeBuilder} {t : List (BuilderCall × BuilderResult)}
    (h : b.Tracks t) (cs : List BuilderCall) (hcs : ∀ c ∈ cs, c.isReset = false) :
    (b.calls cs).1.Tracks (t ++ cs.zip (b.calls cs).2) := by
  induction cs generalizing b t with
  | nil => simpa [calls] using h
  | cons c cs ih =>
    have := ih (h.step c (hcs c (List.mem_cons_self c cs))) fun c' hc' =>
      hcs c' (List.mem_cons_of_mem c hc')
    simpa [calls] using this

/-! ## After `Finalize` -/

/-- No call but `Reset` clears `finalized`. -/
theorem call_finalized {b : StandardEnvelopeBuilder} (h : b.finalized = true) {c : BuilderCall}
    (hc : c.isReset = false) : (b.call c).1.finalized = true := by
  cases c
  case write w p => simp only [call, write]; split_ifs <;> exact h
  all_goals simp_all [BuilderCall.isReset, call, setMailFrom, addRecipient, dataWriterOpen,
    finalize, close]

theorem calls_finalized {b : StandardEnvelopeBuilder} (h : b.finalized = true)
    (cs : List BuilderCall) (hcs : ∀ c ∈ cs, c.isReset = false) : (b.calls cs).1.finalized = true := by
  induction cs generalizing b with
  | nil => exact h
  | cons c cs ih =>
    exact ih (call_finalized h (hcs c (List.mem_cons_self c cs))) fun c' hc' =>
      hcs c' (List.mem_cons_of_mem c hc')

/-- A finalized builder refuses the calls that check `finalized`, and stays as it is. -/
theorem call_refuses {b : StandardEnvelopeBuilder} (h : b.finalized = true) {c : BuilderCall}
    (hc : c.guarded = true) : ∃ err, b.call c = (b, .failed err) := by
  cases c <;> simp_all [BuilderCall.guarded, call, setMailFrom, addRecipient, dataWriterOpen,
    finalize]

/-- `Write` on a writer that was never closed appends, whatever the builder's state. -/
theorem call_write_open {b : StandardEnvelopeBuilder} {w : Nat} (hw : b.writerIsClosed w = false)
    (p : Bytes) : b.call (.write w p) = ({ b with data := b.data ++ p }, .written p.length) := by
  simp [call, write, hw]

/-- A successful `Finalize` seals the sender, the recipients and the data the builder holds. -/
theorem call_finalize_envelope {b : StandardEnvelopeBuilder} {env : Envelope}
    (h : (b.call .finalize).2 = .envelope env) :
    b.finalized = false ∧ b.mailFrom = some env.mailFrom ∧ env.recipients = b.recipients ∧
      env.data = b.data ∧ (b.call .finalize).1 = { b with finalized := true } := by
  simp only [call, finalize] at h ⊢
  cases hmf : b.mailFrom <;> simp only [hmf] at h ⊢ <;> split_ifs at h ⊢
  cases h
  simp_all

/-- A builder that is not finalized accepts every `SetMailFrom` and `AddRecipient`. -/
theorem call_unfinalized {b : StandardEnvelopeBuilder} (hb : b.finalized = false) (c : BuilderCall) :
    BuilderCall.sender? (c, (b.call c).2) = c.mailFromArg ∧
      BuilderCall.recipient? (c, (b.call c).2) = c.recipientArg := by
  simp only [BuilderCall.sender?, BuilderCall.recipient?, BuilderCall.mailFromArg,
    BuilderCall.recipientArg]
  cases c <;> simp [call, setMailFrom, addRecipient, hb]

/-- While the builder is not finalized, every `SetMailFrom` and `AddRecipient` succeeds. -/
theorem calls_unfinalized {b : StandardEnvelopeBuilder} (cs : List BuilderCall)
    (hcs : ∀ c ∈ cs, c.isReset = false) (h : (b.calls cs).1.finalized = false) :
    (cs.zip (b.calls cs).2).filterMap BuilderCall.sender? = cs.filterMap BuilderCall.mailFromArg ∧
      (cs.zip (b.calls cs).2).filterMap BuilderCall.recipient? =
        cs.filterMap BuilderCall.recipientArg := by
  induction cs generalizing b with
  | nil => simp [calls]
  | cons c cs ih =>
    have hc := hcs c (List.mem_cons_self c cs)
    have hcs' : ∀ c' ∈ cs, c'.isReset = false := fun c' hc' => hcs c' (List.mem_cons_of_mem c hc')
    have hb : b.finalized = false := by
      by_contra hb
      have := calls_finalized (call_finalized (by simpa using hb) hc) cs hcs'
      simp_all [calls]
    obtain ⟨ih₁, ih₂⟩ := ih hcs' (by simpa [calls] using h)
    obtain ⟨h₁, h₂⟩ := call_unfinalized hb c
    simp only [calls, List.zip_cons_cons, List.filterMap_cons, ih₁, ih₂, h₁, h₂, and_self]

/-- Transaction isolation for the calls `seg` made on `b`: a `Finalize` that succeeds after
    them returns the last sender and the recipients they set and the bytes that every
    successful `Write` among them appended, whichever writer made it; after it, until a
    `Reset`, the calls that check `finalized` fail and leave the builder as it is, while a
    `Write` on a writer that was never closed still appends. -/
structure Isolated (b : StandardEnvelopeBuilder) (seg : List BuilderCall) : Prop where
  finalize : ∀ env, ((b.calls seg).1.call .finalize).2 = .envelope env →
    some env.mailFrom = (seg.filterMap BuilderCall.mailFromArg).getLast? ∧
    env.recipients = seg.filterMap BuilderCall.recipientArg ∧
    env.data = ((seg.zip (b.calls seg).2).filterMap BuilderCall.accepted?).flatten ∧
    ((b.calls seg).1.call .finalize).1.finalized = true
  refuses : ∀ env post c, ((b.calls seg).1.call .finalize).2 = .envelope env →
    (∀ c ∈ post, c.isReset = false) → c.guarded = true →
    ∃ err, (((b.calls seg).1.call .finalize).1.calls post).1.call c =
      ((((b.calls seg).1.call .finalize).1.calls post).1, .failed err)
  writes : ∀ env post w p, ((b.calls seg).1.call .finalize).2 = .envelope env →
    (((b.calls seg).1.call .finalize).1.calls post).1.writerIsClosed w = false →
    (((b.calls seg).1.call .finalize).1.calls post).1.call (.write w p) =
      ({ (((b.calls seg).1.call .finalize).1.calls post).1 with
          data := (((b.calls seg).1.call .finalize).1.calls post).1.data ++ p }, .written p.length)

/-- The builder `NewStandardEnvelopeBuilder` returns, after any calls ending with `Reset`
    (or none), keeps transaction isolation for every later sequence of calls without
    `Reset`. -/
theorem transaction_isolation (id : Bytes) (md : EnvelopeMetadata) (pre seg : List BuilderCall)
    (hpre : pre.getLast?.all BuilderCall.isReset) (hseg : ∀ c ∈ seg, c.isReset = false) :
    Isolated ((new id md).calls pre).1 seg := by
  have ht := calls_tracks (fresh_calls id md hpre).tracks seg hseg
  refine ⟨fun env henv => ?_, fun env post c henv hpost hc => ?_, fun env post w p _ hw =>
    call_write_open hw p⟩
  · obtain ⟨hnf, hm, hr, hd, hb⟩ := call_finalize_envelope henv
    obtain ⟨hs, hrs⟩ := calls_unfinalized seg hseg hnf
    refine ⟨?_, ?_, ?_, by rw [hb]⟩
    · rw [← hm, ht.mailFrom, List.nil_append, hs]
    · rw [hr, ht.recipients, List.nil_append, hrs]
    · rw [hd, ht.data, List.nil_append]
  · obtain ⟨-, -, -, -, hb⟩ := call_finalize_envelope henv
    exact call_refuses (calls_finalized (by rw [hb]) post hpost) hc

/-- The metadata of a session that sent nothing yet. -/
def sessionMetadata : EnvelopeMetadata :=
  { sessionID := [], clientHostname := [], clientIP := [], serverHostname := [], tlsActive := false }

/-- A transaction whose only `DataWriter` was taken before its `Reset`; the writer writes
    once before and once after `Finalize`. -/
def staleWriterCalls : List BuilderCall :=
  [.dataWriter, .reset (ascii "2"), .setMailFrom { address := ascii "a@b" } [],
   .addRecipient { address := ascii "u@x" }, .write 0 (ascii "x"), .finalize, .write 0 (ascii "y")]

theorem transaction_isolation_stale_writer :
    Isolated ((new (ascii "1") sessionMetadata).calls (staleWriterCalls.take 2)).1
      ((staleWriterCalls.drop 2).take 3) :=
  transaction_isolation _ _ _ _ (by decide) (by decide)

/-- The writer taken before the `Reset` fills the next transaction's data, and still appends
    after its `Finalize`. -/
theorem stale_writer_fills_envelope :
    ((new (ascii "1") sessionMetadata).calls staleWriterCalls).2.drop 4 =
      [.written 1,
       .envelope { id := ascii "2", mailFrom := { address := ascii "a@b" },
                   recipients := [{ address := ascii "u@x" }], esmtpParams := [],
                   data := ascii "x", finalized := true, metadata := sessionMetadata },
       .written 1] := by
  decide

end StandardEnvelopeBuilder

end Icesmtp
