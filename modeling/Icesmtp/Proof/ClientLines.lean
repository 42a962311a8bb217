/-
  icesmtp formalization — the command lines a client sends and what
  `Parser.ParseCommand` reads from them.

  `heloLine`, `mailLine`, `rcptLine`, `dataLine` and `quitLine` are the lines of a plain
  session, and `heloCommand` ... `quitCommand` the commands the parser returns for them:

  * `Parser.parseCommand_crlf`: a line of a known verb, its argument split off at the
    first space and already trimmed, parses to that verb and argument;
  * `parseCommand_mailLine`, `parseCommand_rcptLine`, ...: the commands of the five lines,
    under the command length limit (`Parser.Fits`);
  * `parseMailPath_canonical`: `FROM:<s>` and `TO:<s>` give the path the `PathOk` grammar
    gives `s`.
-/
import Icesmtp.Proof.Replies

namespace Icesmtp

/-! ## The command lines a client sends -/

theorem decodeLastRune_concat_ascii {p : Bytes} {z : UInt8} (hz : z < 0x80) :
    decodeLastRune (p ++ [z]) = (z.toNat, 1) := by
  simp [decodeLastRune, hz]

/-- Text that starts and ends with an ASCII byte that is not a space is its own
    `strings.TrimSpace`. -/
theorem trimSpace_of_ends {a z : UInt8} (m : Bytes) (ha : a < 0x80) (hz : z < 0x80)
    (ha' : isSpaceRune a.toNat = false) (hz' : isSpaceRune z.toNat = false) :
    trimSpace (a :: (m ++ [z])) = a :: (m ++ [z]) := by
  unfold trimSpace
  rw [trimLeftFunc_of_stop (by rw [decodeRune_ascii ha]; exact ha'),
    trimRightFunc_of_stop (by rw [← List.cons_append, decodeLastRune_concat_ascii hz]; exact hz')]

theorem splitCommand_space {v : Bytes} (hv : (32 : UInt8) ∉ v) (x : Bytes) :
    splitCommand (v ++ 32 :: x) = (v, x) := by
  rw [splitCommand, indexByte_eq_some_iff.2 ⟨v, x, rfl, hv, rfl⟩]
  simp

theorem splitCommand_word {v : Bytes} (hv : (32 : UInt8) ∉ v) : splitCommand v = (v, []) := by
  rw [splitCommand, indexByte_eq_none_iff.2 hv]

/-- `ParseESMTPParams` finds no parameter when the first `>` ends the argument. -/
theorem parseESMTPParams_closed {x : Bytes} (h : (62 : UInt8) ∉ x) :
    parseESMTPParams (x ++ [62]) = [] := by
  rw [parseESMTPParams, indexByte_eq_some_iff.2 ⟨x, [], rfl, h, rfl⟩]
  dsimp only
  rw [List.drop_eq_nil_of_le (by simp)]
  rfl

/-- `ParseCommand` on a line of a known verb, the argument split from it at its first
    space and already trimmed, and CRLF. -/
theorem Parser.parseCommand_crlf {p : Parser} {b a : Bytes} {v : CommandVerb}
    (hlen : ¬(0 < p.maxCommandLength ∧ p.maxCommandLength < (b ++ crlf).length))
    (h10 : (10 : UInt8) ∉ b) (hne : b ≠ []) (hsplit : splitCommand b = (v.name, a))
    (hv : parseCommandVerb v.name = v) (hu : v ≠ .unknown) (harg : trimSpace a = a)
    (hreq : commandRequiresArgument v → a ≠ []) (hforb : commandForbidsArgument v → a = []) :
    p.parseCommand (b ++ crlf) =
      .ok { verb := v, raw := b, argument := a,
            params := if v = .mail ∨ v = .rcpt then parseESMTPParams a else [] } := by
  unfold Parser.parseCommand
  rw [if_neg hlen, trimSuffix_append, trimSuffix_newline h10]
  dsimp only
  rw [if_neg hne, hsplit]
  dsimp only
  rw [hv, if_neg hu, harg, if_neg (fun h => hreq h.1 h.2), if_neg (fun h => h.2 (hforb h.1))]


/-- A line that `ParseCommand` does not refuse as too long. -/
def Parser.Fits (p : Parser) (line : Bytes) : Prop :=
  ¬(0 < p.maxCommandLength ∧ p.maxCommandLength < line.length)

instance Parser.decidableFits (p : Parser) (line : Bytes) : Decidable (p.Fits line) :=
  inferInstanceAs (Decidable ¬_)

/-- `HELO h`. -/
def heloLine (h : Bytes) : Bytes := ascii "HELO " ++ h ++ crlf
/-- `MAIL FROM:<s>`. -/
def mailLine (s : Bytes) : Bytes := ascii "MAIL FROM:<" ++ s ++ ascii ">" ++ crlf
/-- `RCPT TO:<s>`. -/
def rcptLine (s : Bytes) : Bytes := ascii "RCPT TO:<" ++ s ++ ascii ">" ++ crlf

/-- The command `ParseCommand` reads from `mailLine s`. -/
def mailCommand (s : Bytes) : Command :=
  { verb := .mail, raw := ascii "MAIL FROM:<" ++ s ++ ascii ">", argument := ascii "FROM:<" ++ s ++ ascii ">" }
/-- The command `ParseCommand` reads from `rcptLine s`. -/
def rcptCommand (s : Bytes) : Command :=
  { verb := .rcpt, raw := ascii "RCPT TO:<" ++ s ++ ascii ">", argument := ascii "TO:<" ++ s ++ ascii ">" }

theorem parseCommand_mailLine {p : Parser} {s : Bytes} (hl : p.Fits (mailLine s)) (h10 : (10 : UInt8) ∉ s)
    (h62 : (62 : UInt8) ∉ s) : p.parseCommand (mailLine s) = .ok (mailCommand s) := by
  have harg : ascii "FROM:<" ++ s ++ ascii ">" = 70 :: (ascii "ROM:<" ++ s ++ [62]) := rfl
  rw [mailLine, Parser.parseCommand_crlf (v := .mail) (a := ascii "FROM:<" ++ s ++ ascii ">") hl
    (by simp only [List.mem_append, not_or]; exact ⟨⟨by decide, h10⟩, by decide⟩) (by simp [ascii])
    (splitCommand_space (v := ascii "MAIL") (by decide) _) rfl (by decide)
    (by rw [harg]; exact trimSpace_of_ends _ (by decide) (by decide) rfl rfl)
    (fun _ => List.append_ne_nil_of_right_ne_nil _ (by decide)) (fun h => nomatch h), mailCommand,
    if_pos (.inl rfl), show ascii ">" = [62] from rfl,
    parseESMTPParams_closed (by simp only [List.mem_append, not_or]; exact ⟨by decide, h62⟩)]

theorem parseCommand_rcptLine {p : Parser} {s : Bytes} (hl : p.Fits (rcptLine s)) (h10 : (10 : UInt8) ∉ s)
    (h62 : (62 : UInt8) ∉ s) : p.parseCommand (rcptLine s) = .ok (rcptCommand s) := by
  have harg : ascii "TO:<" ++ s ++ ascii ">" = 84 :: (ascii "O:<" ++ s ++ [62]) := rfl
  rw [rcptLine, Parser.parseCommand_crlf (v := .rcpt) (a := ascii "TO:<" ++ s ++ ascii ">") hl
    (by simp only [List.mem_append, not_or]; exact ⟨⟨by decide, h10⟩, by decide⟩) (by simp [ascii])
    (splitCommand_space (v := ascii "RCPT") (by decide) _) rfl (by decide)
    (by rw [harg]; exact trimSpace_of_ends _ (by decide) (by decide) rfl rfl)
    (fun _ => List.append_ne_nil_of_right_ne_nil _ (by decide)) (fun h => nomatch h), rcptCommand,
    if_pos (.inr rfl), show ascii ">" = [62] from rfl,
    parseESMTPParams_closed (by simp only [List.mem_append, not_or]; exact ⟨by decide, h62⟩)]

theorem parseHeloHostname_ne_nil {a h : Bytes} (hp : parseHeloHostname a = .ok h) : h ≠ [] := by
  unfold parseHeloHostname at hp; dsimp only at hp
  split_ifs at hp with h1 <;> cases hp <;> exact h1

/-- The command `ParseCommand` reads from `heloLine h`. -/
def heloCommand (h : Bytes) : Command := { verb := .helo, raw := ascii "HELO " ++ h, argument := h }

theorem parseCommand_heloLine {p : Parser} {h : Bytes} (hl : p.Fits (heloLine h)) (h10 : (10 : UInt8) ∉ h)
    (hh : parseHeloHostname h = .ok h) : p.parseCommand (heloLine h) = .ok (heloCommand h) :=
  Parser.parseCommand_crlf (v := .helo) (a := h) hl
    (by simp only [List.mem_append, not_or]; exact ⟨by decide, h10⟩) (by simp [ascii])
    (splitCommand_space (v := ascii "HELO") (by decide) _) rfl (by decide)
    (Engine.parseHeloHostname_ok hh).symm (fun _ => parseHeloHostname_ne_nil hh) (fun h => nomatch h)

/-- `DATA`. -/
def dataLine : Bytes := ascii "DATA\r\n"
/-- `QUIT`. -/
def quitLine : Bytes := ascii "QUIT\r\n"

/-- The command `ParseCommand` reads from `dataLine`. -/
def dataCommand : Command := { verb := .data, raw := ascii "DATA", argument := [] }
/-- The command `ParseCommand` reads from `quitLine`. -/
def quitCommand : Command := { verb := .quit, raw := ascii "QUIT", argument := [] }

theorem parseCommand_dataLine {p : Parser} (hl : p.Fits dataLine) :
    p.parseCommand dataLine = .ok dataCommand :=
  Parser.parseCommand_crlf (b := ascii "DATA") (v := .data) hl (by decide) (by decide)
    (splitCommand_word (by decide)) rfl (by decide) rfl nofun (fun _ => rfl)

theorem parseCommand_quitLine {p : Parser} (hl : p.Fits quitLine) :
    p.parseCommand quitLine = .ok quitCommand :=
  Parser.parseCommand_crlf (b := ascii "QUIT") (v := .quit) hl (by decide) (by decide)
    (splitCommand_word (by decide)) rfl (by decide) rfl nofun (fun _ => rfl)

/-- `ParseMailPath` on `FROM:<s>` or `TO:<s>` returns the path the grammar gives `s`. -/
theorem parseMailPath_canonical {pre : Bytes} (hpre : pre = ascii "FROM" ∨ pre = ascii "TO")
    {s : Bytes} {mp : MailPath} (h62 : (62 : UInt8) ∉ s) (hp : PathOk s mp) :
    parseMailPath (pre ++ 58 :: 60 :: (s ++ [62])) pre = .ok mp := by
  have hw : IsUpperWord pre := by rcases hpre with rfl | rfl <;> decide
  have hIS : ∀ c ∈ pre, c ≠ 73 ∧ c ≠ 83 := by rcases hpre with rfl | rfl <;> decide
  have hends : ∀ t, trimSpace (pre ++ t ++ [62]) = pre ++ t ++ [62] := by
    intro t
    rcases hpre with rfl | rfl
    exacts [trimSpace_of_ends (ascii "ROM" ++ t) (by decide) (by decide) rfl rfl,
      trimSpace_of_ends (ascii "O" ++ t) (by decide) (by decide) rfl rfl]
  have hs : (pre ++ 58 :: 60 :: (s ++ [62])).drop (pre.length + 1) = 60 :: (s ++ [62]) := by
    simp [List.drop_append_eq_append_drop]
  have he : pre ++ 58 :: 60 :: (s ++ [62]) = pre ++ 58 :: 60 :: s ++ [62] := by simp
  unfold parseMailPath
  dsimp only
  rw [he, hends, ← he, (hasPrefix_toUpper_iff hw _).2 ⟨pre, _, rfl, (spells_iff_forall₂ hIS).2
      (List.forall₂_same.2 fun _ _ => .inl rfl)⟩, Bool.not_true, if_neg Bool.false_ne_true, hs]
  have ht := trimSpace_of_ends s (a := 60) (z := 62) (by decide) (by decide) rfl rfl
  rw [ht]
  exact (extractPath_ok_iff _ mp).2 ⟨s, [], ht, h62, hp⟩

end Icesmtp
