/-
  icesmtp formalization — a delivering session whose `Storage` is a `mem.Storage`.

  `mem.Storage.Store` never fails, as `Accepting` has `Store` answer, and the storage after
  the session is the run of the session's `Store` calls from `NewStorage`
  (`Engine.memStorage`).  When the ids `generateEnvelopeID` hands out never repeat (an
  injective `World.envelopeID`), the envelopes of the session have distinct ids, since
  each is drawn at a later clock than the one before (`Engine.run_delivers_ids`).

  * `Engine.run_delivers_stored`: after a session that delivers its transactions, the
    storage holds one message per transaction, and `Get` of each envelope's id returns
    the envelope with the body the client sent.
-/
import Icesmtp.Proof.Delivery
import Icesmtp.Proof.MemStorage

namespace Icesmtp

namespace Engine

/-- The `mem.Storage` that received the `Store` calls of the session so far. -/
def memStorage (e : Engine) : Mem.Storage := Mem.Storage.run (e.stores.map fun s => .store s.1)

/-- A delivering session into a `mem.Storage`, with envelope ids that never repeat, leaves
    one message per transaction, each under its envelope's id with the client's body. -/
theorem run_delivers_stored {w : World} (hw : Accepting w) (hid : Function.Injective w.envelopeID)
    {config : SessionConfig} (hsto : config.storage = true)
    (htls : config.tlsPolicy ≠ .required) {conn : Reader} {sid ip host R : Bytes}
    {txs : List Transaction} (hs : conn.stream = sessionWire host txs ++ R)
    (hhost : (10 : UInt8) ∉ host) (hh : parseHeloHostname host = .ok host)
    (hhelo : (Engine.new config conn sid ip).parser.Fits (heloLine host))
    (hdata : (Engine.new config conn sid ip).parser.Fits dataLine)
    (hquit : (Engine.new config conn sid ip).parser.Fits quitLine)
    (ht : ∀ t ∈ txs, t.Fits config (Engine.new config conn sid ip).parser)
    (hn : config.limits.maxTransactions ≤ 0 ∨ (txs.length : Int) ≤ config.limits.maxTransactions)
    {fuel : Nat} (hfuel : (txs.map Transaction.steps).sum + 3 ≤ fuel) :
    ∃ e envs, (Engine.new config conn sid ip).run w fuel = (e, .returned none) ∧
      List.Forall₂ Transaction.Delivered txs envs ∧ e.memStorage.count = txs.length ∧
      List.Forall₂ (fun t env => e.memStorage.get env.id =
        some { envelope := env, data := t.body.flatten }) txs envs := by
  obtain ⟨e, envs, hrun, hd, hsto', -, cs, hids, hsort⟩ :=
    run_delivers_ids hw hsto htls hs hhost hh hhelo hdata hquit ht hn hfuel
  have hnd : (envs.map Envelope.id).Nodup := by
    rw [hids]
    exact hsort.nodup.map hid
  have hm : e.memStorage = Mem.Storage.run (envs.map .store) := by
    rw [memStorage, hsto', List.map_map]
    rfl
  obtain ⟨hcount, hget⟩ := Mem.Storage.run_stores hnd
  refine ⟨e, envs, hrun, hd, by rw [hm, hcount, hd.length_eq], ?_⟩
  rw [List.forall₂_iff_zip] at hd ⊢
  refine ⟨hd.1, fun {t env} hz => ?_⟩
  rw [hm, hget env (List.of_mem_zip hz).2, (hd.2 hz).data]

/-- A world that accepts every call and draws the envelope ids `0`, `00`, `000`, .... -/
def countingWorld : World := { quietWorld with envelopeID := fun n => List.replicate (n + 1) 48 }

theorem countingWorld_accepting : Accepting countingWorld :=
  ⟨fun _ => rfl, fun _ => rfl, fun _ => rfl, fun _ => rfl, fun _ => rfl, fun _ => rfl⟩

theorem countingWorld_injective : Function.Injective countingWorld.envelopeID := fun a b h => by
  simpa [countingWorld] using congrArg List.length h

theorem run_delivers_stored_one_message :
    ∃ e envs, (Engine.new storingConfig oneMessageConn [] []).run countingWorld 6 =
        (e, .returned none) ∧
      List.Forall₂ Transaction.Delivered [oneMessage] envs ∧ e.memStorage.count = [oneMessage].length ∧
      List.Forall₂ (fun t env => e.memStorage.get env.id =
        some { envelope := env, data := t.body.flatten }) [oneMessage] envs :=
  run_delivers_stored countingWorld_accepting countingWorld_injective rfl (by decide)
    oneMessageConn_stream (by decide) (by decide) (by decide) (by decide) (by decide)
    oneMessage_fits (.inl (by decide)) (by decide)

end Engine

end Icesmtp
