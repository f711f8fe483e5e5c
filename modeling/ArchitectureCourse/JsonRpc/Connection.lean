import ArchitectureCourse.JsonRpc.Dispatch

/-!
# The connection session

A `Session` runs on callbacks.  `Run` issues `async_accept`; the completion handlers
`onAccept`, `onRead` and `onWrite` each issue at most one further operation on the
WebSocket stream, and `onRead` answers the message it was given through `safeWrite`.
The model keeps the operations issued and not yet completed, the read and write
buffers, the handler-owned state, and two histories: the messages read, each with the
handler state it was dispatched in, and every operation issued, in order.

The asynchronous runtime may complete any outstanding operation with any result, and
other sessions may change the handler-owned state between two completions.  Over every
such run the session keeps at most one operation outstanding, answers the messages it
reads one by one in order, and stops only on a transport error or a close.

`json::parse` and `json::dump` are parameters.  `parse` gives the value or the exception
it throws, which selects the `catch` clause of `onRead`: `json::parse_error` on text that
is not JSON, and another `std::exception` on text it cannot represent (`out_of_range.406`
on a number beyond the range of a `double`, such as `1e500`).  `dump` is total: the
strings of a `Json` are Unicode, so the `type_error` that `dump` raises on ill-formed
UTF-8 does not arise.
-/

namespace ArchitectureCourse.JsonRpc

/-- An asynchronous operation a session issues on its stream. -/
inductive AsyncOp where
  | accept
  | read
  | write (payload : String)
  deriving DecidableEq, Repr

/-- The text an operation sends, for a write. -/
def AsyncOp.payload? : AsyncOp → Option String
  | write payload => some payload
  | _ => none

/-- How `json::parse` fails: `json::parse_error`, or another `std::exception` with its
`what()` text. -/
inductive ParseException where
  | parseError
  | other (what : String)

/-- How an `async_read` completes: with a whole message, with the peer's close
(`websocket::error::closed`), or with another error. -/
inductive ReadResult where
  | message (text : String)
  | closed
  | error (what : String)

/-- What can happen to a session: the completion of one of its operations, with its
error code, or a change of the handler-owned state by another session. -/
inductive Event (σ : Type) where
  | acceptDone (ec : Option String)
  | readDone (result : ReadResult)
  | writeDone (ec : Option String)
  | shared (st : σ)

/-- The completions after which a session issues nothing more. -/
def Event.isFailure {σ : Type} : Event σ → Bool
  | acceptDone ec => ec.isSome
  | readDone (.message _) => false
  | readDone _ => true
  | writeDone ec => ec.isSome
  | shared _ => false

/-- `Session`: outstanding operations, `buffer_`, `write_buffer_`, the handler-owned
state, and the histories of messages read and operations issued. -/
structure Session (σ : Type) where
  pending : List AsyncOp
  buffer : String
  writeBuffer : String
  handlerState : σ
  received : List (σ × String)
  issued : List AsyncOp

namespace Session

variable {σ : Type} (registry : MethodRegistry σ) (parse : String → Except ParseException Json)
  (dump : Json → String)

/-- Issue an operation: it is outstanding until its completion. -/
def issue (s : Session σ) (op : AsyncOp) : Session σ :=
  { s with pending := s.pending ++ [op], issued := s.issued ++ [op] }

/-- `Session::Run`, on a fresh session. -/
def run (st : σ) : Session σ :=
  issue ⟨[], "", "", st, [], []⟩ .accept

/-- `Session::doRead`. -/
def doRead (s : Session σ) : Session σ :=
  s.issue .read

/-- `Session::safeWrite`: the serialised response replaces the write buffer, whose
content is then written. -/
def safeWrite (s : Session σ) (response : Json) : Session σ :=
  issue { s with writeBuffer := dump response } (.write (dump response))

/-- The response `onRead` writes for the text `request`: from the `try` block the batch
response for an array and the single response otherwise; from its two `catch` clauses,
the `ParseError` response for a `json::parse_error` and the `InternalError` response for
any other exception, both with a null `id`. -/
def respond (st : σ) (request : String) : Json × σ :=
  match parse request with
  | .error .parseError => (createErrorResponseWithCode registry .null (-32700) "Parse error" .null, st)
  | .error (.other what) => (createErrorResponseWithCode registry .null (-32603) what .null, st)
  | .ok (.arr requests) => processBatchRequest registry requests st
  | .ok request => processRequest registry request st

/-- The text `onRead` writes, by the way `json::parse` ends. -/
theorem respond_fst (st : σ) (request : String) :
    (respond registry parse st request).1 = match parse request with
      | .error .parseError => createErrorResponseWithCode registry .null (-32700) "Parse error" .null
      | .error (.other what) => createErrorResponseWithCode registry .null (-32603) what .null
      | .ok (.arr requests) => (processBatchRequest registry requests st).1
      | .ok request => (processRequest registry request st).1 := by
  unfold respond
  rcases parse request with (_ | what) | (_ | _ | _ | _ | _ | requests | _) <;> rfl

/-- `Session::onAccept`. -/
def onAccept (s : Session σ) : Option String → Session σ
  | some _ => s
  | none => s.doRead

/-- `Session::onRead`.  The message completes the read buffer, which is taken whole
and cleared; the response goes out through `safeWrite`. -/
def onRead (s : Session σ) : ReadResult → Session σ
  | .closed | .error _ => s
  | .message text =>
    let result := respond registry parse s.handlerState (s.buffer ++ text)
    let consumed : Session σ :=
      { s with
        buffer := ""
        handlerState := result.2
        received := s.received ++ [(s.handlerState, text)] }
    safeWrite dump consumed result.1

/-- `Session::onWrite`. -/
def onWrite (s : Session σ) : Option String → Session σ
  | some _ => s
  | none => doRead { s with buffer := "" }

/-- The runtime delivers an event: a completion only for an outstanding operation,
which stops being outstanding before its handler runs. -/
def step (s : Session σ) : Event σ → Option (Session σ)
  | .acceptDone ec =>
    if .accept ∈ s.pending then some (onAccept { s with pending := s.pending.erase .accept } ec)
    else none
  | .readDone result =>
    if .read ∈ s.pending then
      some (onRead registry parse dump { s with pending := s.pending.erase .read } result)
    else none
  | .writeDone ec =>
    match s.pending.find? (·.payload?.isSome) with
    | some op => some (onWrite { s with pending := s.pending.erase op } ec)
    | none => none
  | .shared st => some { s with handlerState := st }

/-- A run of events, stopped by the first one the session cannot take. -/
def runEvents : Session σ → List (Event σ) → Option (Session σ)
  | s, [] => some s
  | s, e :: events =>
    match step registry parse dump s e with
    | some s' => runEvents s' events
    | none => none

/-- What a session should have issued after reading `received`: accept, read, then for
each message the write of its response and the next read. -/
def protocolTrace (received : List (σ × String)) : List AsyncOp :=
  .accept :: .read :: received.flatMap fun r => [.write (dump (respond registry parse r.1 r.2).1), .read]

/-- The session invariant, by the operation outstanding: none or exactly one, with the
history matching `protocolTrace` and the buffer that operation relies on. -/
def Inv (s : Session σ) : Prop :=
  match s.pending with
  | [] =>
    s.issued = protocolTrace registry parse dump s.received ∨
      s.issued ++ [.read] = protocolTrace registry parse dump s.received
  | [.accept] => s.issued = [.accept] ∧ s.received = [] ∧ s.buffer = ""
  | [.read] => s.issued = protocolTrace registry parse dump s.received ∧ s.buffer = ""
  | [.write w] =>
    s.issued ++ [.read] = protocolTrace registry parse dump s.received ∧ s.writeBuffer = w
  | _ => False

@[simp] theorem protocolTrace_nil : protocolTrace registry parse dump ([] : List (σ × String)) = [.accept, .read] :=
  rfl

theorem protocolTrace_append (received : List (σ × String)) (r : σ × String) :
    protocolTrace registry parse dump (received ++ [r]) =
      protocolTrace registry parse dump received ++ [.write (dump (respond registry parse r.1 r.2).1), .read] := by
  simp [protocolTrace]

/-- At most one operation is ever outstanding. -/
theorem Inv.pending_cases {s : Session σ} (hi : Inv registry parse dump s) :
    s.pending = [] ∨ s.pending = [.accept] ∨ s.pending = [.read] ∨ ∃ w, s.pending = [.write w] := by
  unfold Inv at hi
  split at hi <;> simp_all

theorem inv_run (st : σ) : Inv registry parse dump (run st) :=
  ⟨rfl, rfl, rfl⟩

/-- Each event keeps the invariant. -/
theorem inv_step {s s' : Session σ} {e : Event σ} (hi : Inv registry parse dump s)
    (hs : step registry parse dump s e = some s') : Inv registry parse dump s' := by
  cases e with
  | shared st =>
    cases hs
    exact hi
  | acceptDone ec =>
    obtain hp | hp | hp | ⟨w, hp⟩ := hi.pending_cases <;> simp [step, hp] at hs
    simp only [Inv, hp] at hi
    subst hs
    cases ec <;> simp [Inv, onAccept, doRead, issue, hi.1, hi.2.1, hi.2.2]
  | readDone result =>
    obtain hp | hp | hp | ⟨w, hp⟩ := hi.pending_cases <;> simp [step, hp] at hs
    simp only [Inv, hp] at hi
    subst hs
    cases result <;> simp [Inv, onRead, safeWrite, issue, hi.1, hi.2, protocolTrace_append]
  | writeDone ec =>
    obtain hp | hp | hp | ⟨w, hp⟩ := hi.pending_cases <;> simp [step, hp, AsyncOp.payload?] at hs
    simp only [Inv, hp] at hi
    subst hs
    cases ec <;> simp [Inv, onWrite, doRead, issue, hi.1]

theorem inv_runEvents {s s' : Session σ} (events : List (Event σ)) (hi : Inv registry parse dump s)
    (h : runEvents registry parse dump s events = some s') : Inv registry parse dump s' := by
  induction events generalizing s with
  | nil => cases h; exact hi
  | cons e events ih =>
    simp only [runEvents] at h
    split at h
    · next s₁ hs => exact ih (inv_step registry parse dump hi hs) h
    · cases h

theorem Inv.trace {s : Session σ} (hi : Inv registry parse dump s) :
    s.issued = protocolTrace registry parse dump s.received ∨
      s.issued ++ [.read] = protocolTrace registry parse dump s.received := by
  obtain hp | hp | hp | ⟨w, hp⟩ := hi.pending_cases <;> simp only [Inv, hp] at hi
  · exact hi
  · simp [hi.1, hi.2.1]
  · exact .inl hi.1
  · exact .inr hi.1

theorem filterMap_protocolTrace (received : List (σ × String)) :
    (protocolTrace registry parse dump received).filterMap AsyncOp.payload? =
      received.map fun r => dump (respond registry parse r.1 r.2).1 := by
  induction received using List.reverseRecOn with
  | nil => rfl
  | append_singleton received r ih =>
    simp [protocolTrace_append, ih, AsyncOp.payload?]

/-- Only a failed completion leaves a session with nothing outstanding. -/
theorem step_pending_eq_nil {s s' : Session σ} {e : Event σ} (hi : Inv registry parse dump s)
    (hs : step registry parse dump s e = some s') (hnil : s'.pending = []) :
    s.pending = [] ∨ e.isFailure = true := by
  cases e with
  | shared st =>
    cases hs
    exact .inl hnil
  | acceptDone ec =>
    obtain hp | hp | hp | ⟨w, hp⟩ := hi.pending_cases <;> simp [step, hp] at hs
    subst hs
    cases ec <;> simp_all [onAccept, doRead, issue, Event.isFailure]
  | readDone result =>
    obtain hp | hp | hp | ⟨w, hp⟩ := hi.pending_cases <;> simp [step, hp] at hs
    subst hs
    cases result <;> simp_all [onRead, safeWrite, issue, Event.isFailure]
  | writeDone ec =>
    obtain hp | hp | hp | ⟨w, hp⟩ := hi.pending_cases <;> simp [step, hp, AsyncOp.payload?] at hs
    subst hs
    cases ec <;> simp_all [onWrite, doRead, issue, Event.isFailure]

end Session

end ArchitectureCourse.JsonRpc
