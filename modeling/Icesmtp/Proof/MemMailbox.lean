/-
  icesmtp formalization — the registry of a `mem.Mailbox` after any sequence of calls.

  No call of the registry's API can disable an entry or file a domain as `false`:
  `AddAddress` files the lower-cased address, enabled, under itself, and every domain is
  filed as `true`.  That is `Mailbox.WF`, which holds after every run (`wf_run`).  Two
  branches of the code are then dead, and the others read simpler:

  * `validateRecipient_run`: `ValidateRecipient` accepts a registered address, or any
    address at an accepted domain under catch-all; it never answers "Mailbox disabled",
    and the value `m.domains[domain]` it reads is whether the domain is a key, which is
    what `IsLocalDomain` reads;
  * `canReceive_run`: `CanReceive` never returns `MailboxStatusDisabled`.
-/
import Icesmtp.Mem

namespace Icesmtp

namespace Mem

namespace Mailbox

/-! ## Lookups after an insert or an erase -/

section
variable {β : Type} {s : AList fun _ : Bytes => β} {k a : Bytes} {v x : β}

theorem lookup_insert_eq_some (h : (s.insert k v).lookup a = some x) :
    (a = k ∧ x = v) ∨ s.lookup a = some x := by
  by_cases hak : a = k
  · subst hak
    rw [AList.lookup_insert, Option.some.injEq] at h
    exact .inl ⟨rfl, h.symm⟩
  · rw [AList.lookup_insert_ne hak] at h
    exact .inr h

theorem lookup_erase_eq_some (h : (s.erase k).lookup a = some x) : s.lookup a = some x := by
  by_cases hak : a = k
  · subst hak; rw [AList.lookup_erase] at h; cases h
  · rwa [AList.lookup_erase_ne hak] at h

end

/-! ## The invariant -/

/-- What every call keeps of a registry: each entry is the enabled entry of its own
    address, and each domain is filed as `true`. -/
structure WF (m : Mailbox) : Prop where
  entry : ∀ {a e}, m.addresses.lookup a = some e → e = { address := a, enabled := true }
  domain : ∀ {d v}, m.domains.lookup d = some v → v = true

theorem wf_newMailbox : newMailbox.WF :=
  ⟨fun h => by simp [newMailbox, AList.lookup_empty] at h,
    fun h => by simp [newMailbox, AList.lookup_empty] at h⟩

theorem WF.insertDomain {m : Mailbox} (h : m.WF) (d : Bytes) :
    ({ m with domains := m.domains.insert d true } : Mailbox).WF :=
  ⟨h.entry, fun hl => (lookup_insert_eq_some hl).elim (fun h => h.2) h.domain⟩

theorem WF.step {m : Mailbox} (h : m.WF) (c : Call) : (m.step c).WF := by
  cases c with
  | addAddress a =>
    have h₁ : ({ m with
        addresses := m.addresses.insert (toLower a) { address := toLower a, enabled := true } } :
        Mailbox).WF :=
      ⟨fun hl => (lookup_insert_eq_some hl).elim (fun ⟨ha, he⟩ => ha ▸ he) h.entry, h.domain⟩
    simp only [Mailbox.step, addAddress]
    split
    · exact h₁.insertDomain _
    · exact h₁
  | removeAddress a => exact ⟨fun hl => h.entry (lookup_erase_eq_some hl), h.domain⟩
  | addDomain d => exact h.insertDomain _
  | removeDomain d => exact ⟨h.entry, fun hl => h.domain (lookup_erase_eq_some hl)⟩
  | setCatchAll b => exact ⟨h.entry, h.domain⟩

theorem wf_foldl {m : Mailbox} (h : m.WF) (calls : List Call) : (calls.foldl step m).WF := by
  induction calls generalizing m with
  | nil => exact h
  | cons c calls ih => exact ih (h.step c)

/-- Every registry the API builds satisfies `WF`. -/
theorem wf_run (calls : List Call) : (run calls).WF := wf_foldl wf_newMailbox calls

/-- `NewMailboxWithDomains` is a run of `AddDomain` calls. -/
theorem newMailboxWithDomains_eq_run (domains : List Bytes) :
    newMailboxWithDomains domains = run (domains.map .addDomain) := by
  rw [newMailboxWithDomains, run, List.foldl_map]
  rfl

/-- `AddAddresses` continues a run with `AddAddress` calls. -/
theorem addAddresses_run (calls : List Call) (addresses : List Bytes) :
    (run calls).addAddresses addresses = run (calls ++ addresses.map .addAddress) := by
  rw [addAddresses, run, run, List.foldl_append, List.foldl_map]
  rfl

/-! ## What the invariant gives -/

section
variable {m : Mailbox} (h : m.WF)
include h

/-- `m.domains[domain]` is whether the domain is a key. -/
theorem WF.domainValue (d : Bytes) : m.domainValue d = decide (d ∈ m.domains) := by
  unfold Mailbox.domainValue
  cases hl : m.domains.lookup d with
  | none => simp [AList.lookup_eq_none.1 hl]
  | some v => simp [h.domain hl, ← AList.lookup_isSome, hl]

theorem WF.validateRecipient (rcpt : MailPath) :
    m.validateRecipient rcpt =
      if m.«exists» rcpt.address ||
          m.catchAll && (domainOf (toLower rcpt.address)).any (fun d => d ∈ m.domains) then
        accepted
      else if (domainOf (toLower rcpt.address)).any (fun d => d ∉ m.domains) then
        rejected "Domain not handled by this server"
      else rejected "No such user" := by
  have hv : m.domainValue = fun d => decide (d ∈ m.domains) := funext h.domainValue
  unfold Mailbox.validateRecipient Mailbox.«exists»
  dsimp only
  cases hl : m.addresses.lookup (toLower rcpt.address) with
  | some e => simp [h.entry hl]
  | none =>
    simp only [hv, Option.isSome_none, Bool.false_or]
    cases domainOf (toLower rcpt.address) <;> simp

end

/-- In every registry the API builds, `ValidateRecipient` accepts exactly the registered
    addresses and, under catch-all, the addresses at an accepted domain; it rejects the
    others with `550` "Domain not handled by this server" when the address has an `@` and
    its domain is not accepted, else "No such user".  It never answers "Mailbox
    disabled". -/
theorem validateRecipient_run (calls : List Call) (rcpt : MailPath) :
    (run calls).validateRecipient rcpt =
      if (run calls).«exists» rcpt.address ||
          (run calls).catchAll &&
            (domainOf (toLower rcpt.address)).any (fun d => d ∈ (run calls).domains) then
        accepted
      else if (domainOf (toLower rcpt.address)).any (fun d => d ∉ (run calls).domains) then
        rejected "Domain not handled by this server"
      else rejected "No such user" :=
  (wf_run calls).validateRecipient rcpt

/-- In every registry the API builds, `CanReceive` answers `OK` for a registered address
    and `NotFound` for any other: never `Disabled`. -/
theorem canReceive_run (calls : List Call) (address : Bytes) :
    (run calls).canReceive address =
      if (run calls).«exists» address then (true, .ok) else (false, .notFound) := by
  unfold canReceive Mailbox.«exists»
  cases hl : (run calls).addresses.lookup (toLower address) with
  | none => rfl
  | some e => simp [(wf_run calls).entry hl]

end Mailbox

end Mem

end Icesmtp
