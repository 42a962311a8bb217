/-
  icesmtp formalization — the in-memory collaborators of package `mem`
  (`mem.Storage`, `mem.Mailbox`, `mem.DomainPolicy`) and the storage types of
  `storage.go` they return.

  A Go map is an `AList`: its keys are distinct, an assignment is `insert` and `delete`
  is `erase`, and a read of a missing key gives the zero value.  The mutex only
  serialises the calls, so each method is a function of the registry.  The times
  (`StoredAt`, `StoreLatencyNs`) are not modelled.  `List`, `ListAddresses` and
  `ListDomains` range over a map, in an order Go leaves unspecified: the model lists the
  entries in the `AList`'s order, and nothing is stated about that order.

  * `Storage.Call`, `Storage.run`: the calls that change a `mem.Storage`, and the storage
    a sequence of them leaves, from `NewStorage`;
  * `Mailbox.Call`, `Mailbox.run`: the same for the registry of a `mem.Mailbox`, from
    `NewMailbox`.
-/
import Icesmtp.Session
import Mathlib.Data.List.AList

namespace Icesmtp

/-! ## The storage types of `storage.go` -/

/-- `StorageMetrics` (without `StoreLatencyNs`). -/
structure StorageMetrics where
  messagesStored : UInt64 := 0
  bytesStored : UInt64 := 0
  storeErrors : UInt64 := 0
  deriving DecidableEq, Repr

/-- `StorageReceipt` (without `StoredAt` and `Backend`). -/
structure StorageReceipt where
  messageID : Bytes
  envelopeID : Bytes
  bytesWritten : Nat
  deriving DecidableEq, Repr

/-- `StorageError` (its `Retryable` is false wherever package `mem` builds one). -/
structure StorageError where
  operation : Bytes
  envelopeID : Bytes
  cause : Error
  message : Bytes
  deriving DecidableEq, Repr

/-- `StorageOpStoreStream`. -/
def storageOpStoreStream : Bytes := ascii "StoreStream"

/-- `MailboxStatus`. -/
inductive MailboxStatus where
  | ok | notFound | disabled | overQuota | temporarilyUnavailable
  deriving DecidableEq, Repr

namespace Mem

/-! ## `mem.Storage` -/

/-- `mem.StoredMessage` (without `StoredAt`). -/
structure StoredMessage where
  envelope : Envelope
  data : Bytes
  deriving DecidableEq, Repr

/-- `mem.Storage`: the messages by envelope id, and the metrics. -/
structure Storage where
  messages : AList fun _ : Bytes => StoredMessage
  metrics : StorageMetrics

namespace Storage

/-- `NewStorage`. -/
def newStorage : Storage := { messages := ∅, metrics := {} }

/-- The common body of `Store` and `StoreStream` once the data is read: the message goes
    under `envelope.ID()`, and `MessagesStored` and `BytesStored` count it. -/
def storeData (s : Storage) (env : Envelope) (data : Bytes) : StorageReceipt × Storage :=
  ({ messageID := env.id, envelopeID := env.id, bytesWritten := data.length },
    { messages := s.messages.insert env.id { envelope := env, data },
      metrics := { s.metrics with
        messagesStored := s.metrics.messagesStored + 1,
        bytesStored := s.metrics.bytesStored + data.length.toUInt64 } })

/-- `Store`: the data is `envelope.Data()`. -/
def store (s : Storage) (env : Envelope) : StorageReceipt × Storage := s.storeData env env.data

/-- `StoreStream`; `data` is what `io.ReadAll` returns. -/
def storeStream (s : Storage) (env : Envelope) (data : Except Error Bytes) :
    Except StorageError StorageReceipt × Storage :=
  match data with
  | .error err =>
    (.error { operation := storageOpStoreStream, envelopeID := env.id, cause := err,
              message := ascii "failed to read message data" },
      { s with metrics := { s.metrics with storeErrors := s.metrics.storeErrors + 1 } })
  | .ok buf => let (r, s) := s.storeData env buf; (.ok r, s)

/-- `Get`. -/
def get (s : Storage) (id : Bytes) : Option StoredMessage := s.messages.lookup id

/-- `List`, in the map's order. -/
def list (s : Storage) : List StoredMessage := s.messages.entries.map Sigma.snd

/-- `Count`. -/
def count (s : Storage) : Nat := s.messages.entries.length

/-- `Delete`. -/
def delete (s : Storage) (id : Bytes) : Bool × Storage :=
  if (s.messages.lookup id).isSome then (true, { s with messages := s.messages.erase id })
  else (false, s)

/-- `Clear`: a new map; the metrics stay. -/
def clear (s : Storage) : Storage := { s with messages := ∅ }

/-- The calls that change a `mem.Storage` (`Get`, `List`, `Count`, `Metrics` and
    `Healthy` only read it). -/
inductive Call where
  | store (env : Envelope)
  | storeStream (env : Envelope) (data : Except Error Bytes)
  | delete (id : Bytes)
  | clear
  deriving DecidableEq, Repr

/-- The storage after one call. -/
def step (s : Storage) : Call → Storage
  | .store env => (s.store env).2
  | .storeStream env data => (s.storeStream env data).2
  | .delete id => (s.delete id).2
  | .clear => s.clear

/-- The storage after `calls`, from `NewStorage`. -/
def run (calls : List Call) : Storage := calls.foldl step newStorage

end Storage

/-! ## `mem.Mailbox` -/

/-- `mem.MailboxEntry`. -/
structure MailboxEntry where
  address : Bytes
  enabled : Bool
  aliases : List Bytes := []
  deriving DecidableEq, Repr

/-- `mem.Mailbox`: the registered addresses, the accepted domains and the catch-all flag. -/
structure Mailbox where
  addresses : AList fun _ : Bytes => MailboxEntry
  domains : AList fun _ : Bytes => Bool
  catchAll : Bool

namespace Mailbox

/-- `NewMailbox`. -/
def newMailbox : Mailbox := { addresses := ∅, domains := ∅, catchAll := false }

/-- `AddDomain`. -/
def addDomain (m : Mailbox) (domain : Bytes) : Mailbox :=
  { m with domains := m.domains.insert (toLower domain) true }

/-- `NewMailboxWithDomains`. -/
def newMailboxWithDomains (domains : List Bytes) : Mailbox := domains.foldl addDomain newMailbox

/-- The domain of an address: what follows its last `@`. -/
def domainOf (addr : Bytes) : Option Bytes :=
  (lastIndexByte addr 64).map fun idx => addr.drop (idx + 1)

/-- `AddAddress`: the lower-cased address, enabled, and its domain. -/
def addAddress (m : Mailbox) (address : Bytes) : Mailbox :=
  let addr := toLower address
  let m := { m with addresses := m.addresses.insert addr { address := addr, enabled := true } }
  match domainOf addr with
  | some domain => { m with domains := m.domains.insert domain true }
  | none => m

/-- `AddAddresses`. -/
def addAddresses (m : Mailbox) (addresses : List Bytes) : Mailbox := addresses.foldl addAddress m

/-- `RemoveAddress`. -/
def removeAddress (m : Mailbox) (address : Bytes) : Mailbox :=
  { m with addresses := m.addresses.erase (toLower address) }

/-- `RemoveDomain`. -/
def removeDomain (m : Mailbox) (domain : Bytes) : Mailbox :=
  { m with domains := m.domains.erase (toLower domain) }

/-- `SetCatchAll`. -/
def setCatchAll (m : Mailbox) (enabled : Bool) : Mailbox := { m with catchAll := enabled }

/-- `m.domains[domain]`: the value, or `false` for a domain that is not a key. -/
def domainValue (m : Mailbox) (domain : Bytes) : Bool := (m.domains.lookup domain).getD false

/-- A `550` rejection of `ValidateRecipient`. -/
def rejected (text : String) : RecipientResult :=
  { status := .rejected, response := newResponse reply550MailboxUnavailable (ascii text) }

/-- The acceptance of `ValidateRecipient`. -/
def accepted : RecipientResult := { status := .accepted, response := responseOK }

/-- `ValidateRecipient`: a registered address, then the catch-all at an accepted domain,
    then the reason for the rejection. -/
def validateRecipient (m : Mailbox) (recipient : MailPath) : RecipientResult :=
  let addr := toLower recipient.address
  match m.addresses.lookup addr with
  | some entry => if !entry.enabled then rejected "Mailbox disabled" else accepted
  | none =>
    if m.catchAll && (domainOf addr).any m.domainValue then accepted
    else
      match domainOf addr with
      | some domain =>
        if !m.domainValue domain then rejected "Domain not handled by this server"
        else rejected "No such user"
      | none => rejected "No such user"

/-- `Exists`. -/
def «exists» (m : Mailbox) (address : Bytes) : Bool := (m.addresses.lookup (toLower address)).isSome

/-- `CanReceive`. -/
def canReceive (m : Mailbox) (address : Bytes) : Bool × MailboxStatus :=
  match m.addresses.lookup (toLower address) with
  | none => (false, .notFound)
  | some entry => if !entry.enabled then (false, .disabled) else (true, .ok)

/-- `ListAddresses`, in the map's order. -/
def listAddresses (m : Mailbox) : List Bytes := m.addresses.keys

/-- `ListDomains`, in the map's order. -/
def listDomains (m : Mailbox) : List Bytes := m.domains.keys

/-- `DomainPolicy.IsLocalDomain`: whether the lower-cased domain is a key. -/
def isLocalDomain (m : Mailbox) (domain : Bytes) : Bool := toLower domain ∈ m.domains

/-- `DomainPolicy.RelayAllowed`: `authenticated` is `session.Authenticated()`. -/
def relayAllowed (m : Mailbox) (domain : Bytes) (authenticated : Bool) : Bool :=
  if authenticated then true else m.isLocalDomain domain

/-- The calls that change a `mem.Mailbox` (`AddAddresses` and `NewMailboxWithDomains` are
    sequences of them). -/
inductive Call where
  | addAddress (address : Bytes)
  | removeAddress (address : Bytes)
  | addDomain (domain : Bytes)
  | removeDomain (domain : Bytes)
  | setCatchAll (enabled : Bool)
  deriving DecidableEq, Repr

/-- The registry after one call. -/
def step (m : Mailbox) : Call → Mailbox
  | .addAddress a => m.addAddress a
  | .removeAddress a => m.removeAddress a
  | .addDomain d => m.addDomain d
  | .removeDomain d => m.removeDomain d
  | .setCatchAll b => m.setCatchAll b

/-- The registry after `calls`, from `NewMailbox`. -/
def run (calls : List Call) : Mailbox := calls.foldl step newMailbox

end Mailbox

end Mem

end Icesmtp
