/-
  icesmtp formalization — termination of the command loop on a dead
  connection.

  `Run` ends the loop on a read error only when the error is a timeout or is
  `==` one of `io.EOF`, `io.ErrUnexpectedEOF`, `io.ErrClosedPipe`; every
  other error is taken for a protocol error and the loop reads again.  On a
  connection whose every read fails with such an error (a reset seen as a
  `*net.OpError`, a TLS alert, a wrapped `io.EOF`) the loop never returns:
  `loop_deadConn_running`.
-/
import Icesmtp.Proof.Steps

namespace Icesmtp

/-- A connection whose every read fails with `err`. -/
def deadConn (err : Error) : Reader := { buf := [], src := [], final := err }

@[simp] theorem readBytes_deadConn (err : Error) :
    (deadConn err).readBytes = (.error err, deadConn err) := rfl

namespace Engine

variable (w : World)

/-- On a dead connection, an iteration that reads a command only fails to read it. -/
theorem loopStep_deadConn {e : Engine} {err : Error} (hctx : w.ctxErr e.clock = none)
    (hsm : e.sm.isTerminal = false) (hst : e.state.state ≠ .startTLS)
    (hconn : e.conn = deadConn err) (ht : err.isTimeout = false) (hio : err.isIOError = false) :
    e.loopStep w = (e.tick, .next) := by
  simp [loopStep, hctx, hsm, hst, processOneCommand, readLine, hconn, ht, hio]
  rw [← hconn]; rfl

/-- When the context is never cancelled, a dead connection whose error is neither a timeout
    nor one of the three I/O errors keeps the loop running for any fuel. -/
theorem loop_deadConn_running {err : Error} (hctx : ∀ n, w.ctxErr n = none)
    (ht : err.isTimeout = false) (hio : err.isIOError = false) :
    ∀ fuel (e : Engine), e.sm.isTerminal = false → e.state.state ≠ .startTLS →
      e.conn = deadConn err → (e.loop w fuel).2 = .running
  | 0, _, _, _, _ => rfl
  | fuel + 1, e, hsm, hst, hconn => by
    rw [loop, loopStep_deadConn w (hctx _) hsm hst hconn ht hio]
    exact loop_deadConn_running hctx ht hio fuel e.tick hsm hst hconn

end Engine

/-- A session whose connection is reset by the peer after the greeting (every read fails
    with a `*net.OpError` that is not a timeout) never returns from `Run`. -/
theorem run_connection_reset_never_returns (fuel : Nat) :
    ((Engine.new { serverHostname := ascii "mx" } (deadConn (.net false)) [] []).run
      quietWorld fuel).2 = .running :=
  Engine.loop_deadConn_running quietWorld (fun _ => rfl)
    (rfl : (Error.net false).isTimeout = false) rfl fuel _ rfl (by decide) rfl

end Icesmtp
