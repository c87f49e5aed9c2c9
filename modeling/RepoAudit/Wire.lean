import RepoAudit.Value.Basic

/-! # Talking to services

Requests to a service and what comes back.  The services are outside, so a run is given the replies
in advance: a queue, of which the last reply repeats.  The wire remembers every request.

* `Request`, `Reply` – one exchange;
* `Wire.post` – sends a request.
-/

namespace RepoAudit

/-- A request: an address, headers, a document, and how many seconds to wait. -/
structure Request where
  url : String
  headers : List (String × String)
  payload : Value
  timeout : Nat
  deriving Inhabited

inductive Reply where
  /-- A document. -/
  | body (v : Value)
  /-- The request did not get through, or the service refused it. -/
  | failed (message : String)
  /-- An answer that holds no document. -/
  | unreadable (message : String)
  /-- An answer that holds a document nested more deeply than documents are read. -/
  | tooDeep
  deriving Inhabited

/-- The replies still to come, and the requests sent so far, in order. -/
structure Wire where
  replies : List Reply := []
  sent : List Request := []
  deriving Inhabited

namespace Wire

def noReply : Reply := .failed "no response"

/-- The next reply of a queue, and the queue after it; the last reply repeats. -/
def next : List Reply → Reply × List Reply
  | [] => (noReply, [])
  | [r] => (r, [r])
  | r :: rest => (r, rest)

def post (w : Wire) (r : Request) : Reply × Wire :=
  let (reply, replies) := next w.replies
  (reply, { replies := replies, sent := w.sent ++ [r] })

@[simp] theorem sent_post (w : Wire) (r : Request) : (w.post r).2.sent = w.sent ++ [r] := rfl

end Wire

end RepoAudit
