import SiteServer.Http.Writer

/-!
# Dispatches

A writer that is called in any order.  Responses are put on their way, what is left of one is
sent over streams that do as they like, and everything is dropped.  Nobody keeps from calling
the writer again after a call has failed.

A dispatch remembers which response is on its way, what has been accepted of it, and whether a
call has failed meanwhile.  It comes to its end where a cursor points beyond its segment.
-/

namespace SiteServer
namespace Http

/-- Whether a call has failed for good. -/
def FlushOutcome.isFailure : FlushOutcome → Bool
  | .closedWhileWriting | .failed _ => true
  | _ => false

/-- A writer, and what has become of the response that it has. -/
structure Dispatch where
  writer : Writer
  /-- The response that was put on its way last, unless it did not fit or was dropped. -/
  response : Option Response := none
  /-- What has been accepted since then. -/
  accepted : Bytes := []
  /-- Whether a call has failed since then. -/
  failed : Bool := false
  deriving DecidableEq, Repr

namespace Dispatch

/-- What is done to the writer. -/
inductive Use where
  | compose (r : Response)
  /-- As much is sent as a stream accepts that follows this script. -/
  | flush (script : List Acceptance)
  | clear
  deriving DecidableEq, Repr

/-- A writer with nothing to send. -/
def ofCapacity (capacity : Nat) : Dispatch := { writer := .ofCapacity capacity }

/-- Sends as much as a stream accepts that follows a script. -/
def flush (d : Dispatch) (script : List Acceptance) : FlushOutcome × Dispatch :=
  match d.writer.flush { accepting := script } with
  | (answer, writer, s) =>
    (answer, { d with
      writer
      accepted := d.accepted ++ s.written
      failed := d.failed || answer.isFailure })

/-- One use, unless a cursor points beyond its segment. -/
def step (d : Dispatch) : Use → Option Dispatch
  | .compose r =>
    match d.writer.compose r with
    | (.ok (), writer) => some { writer, response := some r }
    | (.error _, writer) => some { writer }
  | .flush script =>
    match d.flush script with
    | (.outOfRange, _) => none
    | (_, d) => some d
  | .clear => some { writer := d.writer.clear }

/-- Some uses, one after another. -/
def run (d : Dispatch) (uses : List Use) : Option Dispatch := uses.foldlM step d

end Dispatch
end Http
end SiteServer
