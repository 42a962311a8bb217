/-
  icesmtp formalization — session states, command verbs and the commands
  allowed in each state (`State` in `doc.go`, `command.go`).

  `allowedCommands` is the table the engine gates commands with; the
  transition table of the state machine is in `StateMachine`.
-/
import Icesmtp.Reply

namespace Icesmtp

/-- `State`: the protocol state of a session. -/
inductive State where
  | disconnected | connected | greeted | identified | mailFrom | rcptTo | data | dataDone
  | startTLS | terminating | terminated | aborted
  deriving DecidableEq, Repr

/-- `State.IsTerminal`. -/
def State.isTerminal (s : State) : Bool := s == .terminated || s == .aborted

theorem State.isTerminal_iff {s : State} : s.isTerminal = true ↔ s = .terminated ∨ s = .aborted := by
  cases s <;> decide

/-- `State.InTransaction`. -/
def State.inTransaction (s : State) : Bool := s == .mailFrom || s == .rcptTo || s == .data

/-- `CommandVerb`; `unknown` is `CmdUnknown`, the empty verb. -/
inductive CommandVerb where
  | helo | ehlo | mail | rcpt | data | rset | noop | quit | vrfy | expn | help | starttls | auth
  | unknown
  deriving DecidableEq, Repr

/-- The verb's text (`CommandVerb.String()`). -/
def CommandVerb.name : CommandVerb → Bytes
  | .helo => ascii "HELO" | .ehlo => ascii "EHLO" | .mail => ascii "MAIL"
  | .rcpt => ascii "RCPT" | .data => ascii "DATA" | .rset => ascii "RSET"
  | .noop => ascii "NOOP" | .quit => ascii "QUIT" | .vrfy => ascii "VRFY"
  | .expn => ascii "EXPN" | .help => ascii "HELP" | .starttls => ascii "STARTTLS"
  | .auth => ascii "AUTH" | .unknown => []

/-- The verbs `ParseCommandVerb` recognises. -/
def CommandVerb.known : List CommandVerb :=
  [.helo, .ehlo, .mail, .rcpt, .data, .rset, .noop, .quit, .vrfy, .expn, .help, .starttls, .auth]

/-- `ParseCommandVerb`: upper-case the trimmed text and look it up. -/
def parseCommandVerb (s : Bytes) : CommandVerb :=
  let v := toUpper (trimSpace s)
  (CommandVerb.known.find? fun c => c.name == v).getD .unknown

/-- `ESMTPParams`: the parameters in the order they were set; a lookup finds the last. -/
abbrev ESMTPParams := List (Bytes × Bytes)

/-- A map lookup `params[key]`. -/
def ESMTPParams.get? (ps : ESMTPParams) (k : Bytes) : Option Bytes :=
  (ps.reverse.find? fun p => p.1 == k).map Prod.snd

/-- `Command`: a parsed command line. -/
structure Command where
  verb : CommandVerb
  raw : Bytes
  argument : Bytes
  params : ESMTPParams := []
  deriving DecidableEq, Repr

/-- `MailPath`: a reverse- or forward-path. -/
structure MailPath where
  address : Bytes := []
  sourceRoute : Bytes := []
  isNull : Bool := false
  deriving DecidableEq, Repr

/-- `AllowedCommands`: the commands accepted in each state. -/
def allowedCommands : State → List CommandVerb
  | .greeted => [.helo, .ehlo, .quit, .noop, .help, .rset]
  | .identified => [.helo, .ehlo, .mail, .quit, .noop, .help, .rset, .vrfy, .expn, .starttls, .auth]
  | .mailFrom => [.rcpt, .rset, .quit, .noop, .help]
  | .rcptTo => [.rcpt, .data, .rset, .quit, .noop, .help]
  | _ => []

/-- `IsCommandAllowed`. -/
def isCommandAllowed (s : State) (c : CommandVerb) : Bool := (allowedCommands s).contains c

/-- `CommandRequiresArgument`. -/
def commandRequiresArgument : CommandVerb → Bool
  | .helo | .ehlo | .mail | .rcpt => true
  | _ => false

/-- `CommandForbidsArgument`. -/
def commandForbidsArgument : CommandVerb → Bool
  | .data | .rset | .quit | .starttls => true
  | _ => false

/-! ## The states that allow a command -/

section
variable {s : State}

/-- A command is only ever allowed in `greeted`, `identified`, `mailFrom` and `rcptTo`. -/
theorem isCommandAllowed_states {c : CommandVerb} (h : isCommandAllowed s c = true) :
    s = .greeted ∨ s = .identified ∨ s = .mailFrom ∨ s = .rcptTo := by
  cases s <;> simp_all [isCommandAllowed, allowedCommands]

theorem isCommandAllowed_helo (h : isCommandAllowed s .helo = true) :
    s = .greeted ∨ s = .identified := by
  cases s <;> simp_all [isCommandAllowed, allowedCommands]

theorem isCommandAllowed_ehlo (h : isCommandAllowed s .ehlo = true) :
    s = .greeted ∨ s = .identified := by
  cases s <;> simp_all [isCommandAllowed, allowedCommands]

theorem isCommandAllowed_mail (h : isCommandAllowed s .mail = true) : s = .identified := by
  cases s <;> simp_all [isCommandAllowed, allowedCommands]

theorem isCommandAllowed_rcpt (h : isCommandAllowed s .rcpt = true) :
    s = .mailFrom ∨ s = .rcptTo := by
  cases s <;> simp_all [isCommandAllowed, allowedCommands]

theorem isCommandAllowed_data (h : isCommandAllowed s .data = true) : s = .rcptTo := by
  cases s <;> simp_all [isCommandAllowed, allowedCommands]

theorem isCommandAllowed_starttls (h : isCommandAllowed s .starttls = true) :
    s = .identified := by
  cases s <;> simp_all [isCommandAllowed, allowedCommands]

end

end Icesmtp
