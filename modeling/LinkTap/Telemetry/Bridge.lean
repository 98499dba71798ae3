import LinkTap.Telemetry.Event

/-!
# The web-socket bridge

Publishers, a writer task, the server and a closing caller as one state machine over their
atomic steps (`Bridge.step`, `Bridge.run`).
-/

set_option autoImplicit false

namespace LinkTap.Telemetry

/-- How many messages the writer may have left to take before publishing fails. -/
def queueLen : Nat := 256

/-- A message on the web socket: an event's JSON text, or the client's close frame. -/
inductive WsMessage where
  | text (json : String)
  | close
deriving DecidableEq, Repr

def WsMessage.text? : WsMessage → Option String
  | .text json => some json
  | .close => none

/-- Why the bridge refused an event: the connected flag is cleared, the writer is gone with its
end of the queue, or the writer has `queueLen` messages left to take. -/
inductive PublishError where
  | notConnected
  | closed
  | full
deriving DecidableEq, Repr

/-- Where the writer task is: in its loop waiting for a queued message or for the server to
hang up, writing a message it took, out of its loop about to clear the flag, past that about to
return, aborted but not yet dropped, or gone with its end of the queue. -/
inductive Writer where
  | waiting
  | sending (message : WsMessage)
  | leaving
  | returning
  | aborted
  | gone
deriving DecidableEq, Repr

/-- Where the writer goes once a write of `m` completes: on to the next message after a text
written successfully, out of its loop otherwise. -/
def Writer.afterWrite (m : WsMessage) (delivered : Bool) : Writer :=
  match m, delivered with
  | .text _, true => .waiting
  | _, _ => .leaving

/-- How far the close that took the writer has got: not called, about to offer its close frame,
waiting for the writer, about to clear the flag once the writer ended or was aborted, or
returned. -/
inductive Closing where
  | notCalled
  | taken
  | waiting
  | clearing
  | done
deriving DecidableEq, Repr

/-- What a caller of the bridge saw: a publish call of a text and what it returned, or a close
offering its close frame and what the queue said, which the close does not look at. -/
inductive Call where
  | publish (json : String) (result : Except PublishError Unit)
  | close (result : Except PublishError Unit)

namespace Call

def message? : Call → Option WsMessage
  | .publish json (.ok ()) => some (.text json)
  | .close (.ok ()) => some .close
  | _ => none

def acceptedText? : Call → Option String
  | .publish json (.ok ()) => some json
  | _ => none

end Call

/-- One atomic step of a publisher, the writer, the server or a caller closing the bridge. -/
inductive Action where
  | publish (event : Event)
  | offer (publisher : Nat)
  | take
  | write (delivered : Bool)
  | hangUp
  | notice
  | clear
  | exit
  | release
  | closeTake
  | closeOffer
  | closeJoin
  | closeAbort
  | closeClear
deriving Repr

/-- A bridge, its writer, the server and the callers at one moment; `{}` is a bridge just
connected. -/
structure Bridge where
  connected : Bool := true
  sent : List WsMessage := []
  taken : Nat := 0
  writer : Writer := .waiting
  closing : Closing := .notCalled
  released : Bool := false
  offering : List String := []
  calls : List Call := []
  received : List WsMessage := []
  hungUp : Bool := false

namespace Bridge

def pending (s : Bridge) : Nat := s.sent.length - s.taken

def takenMessages (s : Bridge) : List WsMessage := s.sent.take s.taken

/-- Offering a message to the queue: refused as closed once the writer is gone, as full while
the writer has `queueLen` messages to take, and otherwise accepted. -/
def offerResult (s : Bridge) : Except PublishError Unit :=
  if s.writer = .gone then .error .closed
  else if queueLen ≤ s.pending then .error .full
  else .ok ()

/-- The queue after offering `m`, accepted or not. -/
def offered (s : Bridge) (m : WsMessage) : List WsMessage :=
  match s.offerResult with
  | .ok () => s.sent ++ [m]
  | .error _ => s.sent

/-- One step, or `none` where the action cannot be taken now. -/
def step (s : Bridge) : Action → Option Bridge
  | .publish event =>
    if s.released then none
    else if s.connected then some { s with offering := event.jsonText :: s.offering }
    else some { s with calls := s.calls ++ [.publish event.jsonText (.error .notConnected)] }
  | .offer publisher =>
    match s.offering[publisher]? with
    | some json =>
      some { s with
        offering := s.offering.eraseIdx publisher
        sent := s.offered (.text json)
        calls := s.calls ++ [.publish json s.offerResult] }
    | none => none
  | .take =>
    if s.writer = .waiting then
      match s.sent[s.taken]? with
      | some m => some { s with writer := .sending m, taken := s.taken + 1 }
      | none => if s.released then some { s with writer := .leaving } else none
    else none
  | .write delivered =>
    match s.writer with
    | .sending m =>
      some { s with
        received := if delivered then s.received ++ [m] else s.received
        writer := Writer.afterWrite m delivered }
    | _ => none
  | .hangUp => some { s with hungUp := true }
  | .notice => if s.writer = .waiting ∧ s.hungUp then some { s with writer := .leaving } else none
  | .clear => if s.writer = .leaving then some { s with connected := false, writer := .returning } else none
  | .exit =>
    if s.writer = .returning ∨ s.writer = .aborted then some { s with writer := .gone } else none
  | .release =>
    if s.released = false ∧ s.offering = [] ∧ (s.closing = .notCalled ∨ s.closing = .done) then
      some { s with released := true }
    else none
  | .closeTake =>
    if s.released = false ∧ s.closing = .notCalled then some { s with closing := .taken } else none
  | .closeOffer =>
    if s.closing = .taken then
      some { s with
        sent := s.offered .close
        closing := .waiting
        calls := s.calls ++ [.close s.offerResult] }
    else none
  | .closeJoin =>
    if s.closing = .waiting ∧ s.writer = .gone then some { s with closing := .clearing } else none
  | .closeAbort =>
    if s.closing = .waiting ∧ s.writer ≠ .gone then
      some { s with writer := .aborted, closing := .clearing }
    else none
  | .closeClear =>
    if s.closing = .clearing then some { s with connected := false, closing := .done } else none

/-- Steps one after another; `none` where one cannot be taken. -/
def run (s : Bridge) : List Action → Option Bridge
  | [] => some s
  | a :: rest => (s.step a).bind fun next => next.run rest

end Bridge

end LinkTap.Telemetry
