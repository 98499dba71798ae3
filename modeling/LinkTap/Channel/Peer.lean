import LinkTap.Frame.Error

/-!
# Writing in blocks to a byte sink

`writeChunkedTo` writes a buffer to any byte sink in blocks of at most 4096 bytes, each offered
from where the bytes taken so far end, then flushes; every call gets the whole timeout.
`ByteSink` is a sink that behaves by a script.
-/

set_option autoImplicit false

namespace LinkTap.Channel

open LinkTap.Frame

def blockLength : Nat := 4096

/-- How a sink answers one call, if it is waited for: after some milliseconds, or never. -/
inductive Reply (α : Type) where
  | after (wait : Nat) (result : Except ErrorKind α)
  | never
deriving Repr

/-- A byte sink whose state is `σ`: a write call at a time, offered some bytes, and a flush at a
time. Each gives the answer and the state once the call has completed. -/
structure Peer (σ : Type) where
  write : σ → Nat → List UInt8 → Reply Nat × σ
  flush : σ → Nat → Reply Unit × σ

inductive Call where
  | write (offered : List UInt8) (reply : Reply Nat)
  | flush (reply : Reply Unit)
deriving Repr

/-- What a chunked write leaves: the calls it made in order, the sink after them, the time it
ended, and the error that stopped it. -/
structure Chunked (σ : Type) where
  calls : List Call
  sink : σ
  time : Nat
  error : Option LinkError

namespace Chunked

variable {σ : Type}

def after (call : Call) (r : Chunked σ) : Chunked σ := { r with calls := call :: r.calls }

@[simp] theorem calls_after (call : Call) (r : Chunked σ) : (r.after call).calls = call :: r.calls := rfl

@[simp] theorem error_after (call : Call) (r : Chunked σ) : (r.after call).error = r.error := rfl

@[simp] theorem time_after (call : Call) (r : Chunked σ) : (r.after call).time = r.time := rfl

@[simp] theorem sink_after (call : Call) (r : Chunked σ) : (r.after call).sink = r.sink := rfl

end Chunked

variable {σ : Type}

/-- Writes `bytes` to `peer` in blocks from `now`, each call limited to `timeout` milliseconds,
then flushes. A call that would complete exactly at the timeout completes; one cut off by it
leaves the sink as it was. -/
def writeChunkedTo (peer : Peer σ) (timeout : Nat) (sink : σ) (now : Nat) (bytes : List UInt8) :
    Chunked σ :=
  let late := some (LinkError.timeout (Duration.ofMillis timeout))
  match bytes with
  | [] =>
    match peer.flush sink now with
    | (.after wait result, next) =>
      if wait ≤ timeout then
        match result with
        | .ok () => ⟨[.flush (.after wait result)], next, now + wait, none⟩
        | .error kind => ⟨[.flush (.after wait result)], next, now + wait, some (.io kind)⟩
      else ⟨[.flush (.after wait result)], sink, now + timeout, late⟩
    | (.never, _) => ⟨[.flush .never], sink, now + timeout, late⟩
  | b :: rest =>
    let block := (b :: rest).take blockLength
    match peer.write sink now block with
    | (.after wait result, next) =>
      if wait ≤ timeout then
        match result with
        | .ok 0 => ⟨[.write block (.after wait result)], next, now + wait, some .closed⟩
        | .ok (count + 1) =>
          (writeChunkedTo peer timeout next (now + wait) ((b :: rest).drop (count + 1))).after
            (.write block (.after wait result))
        | .error kind => ⟨[.write block (.after wait result)], next, now + wait, some (.io kind)⟩
      else ⟨[.write block (.after wait result)], sink, now + timeout, late⟩
    | (.never, _) => ⟨[.write block .never], sink, now + timeout, late⟩
termination_by bytes.length
decreasing_by simp only [List.length_drop, List.length_cons]; omega

/-- What a scripted sink does once it has taken its writes: keep taking them, take no more bytes,
fail with a broken pipe, or never complete a write or a flush. -/
inductive SinkMode where
  | accept
  | close
  | fail
  | stall
deriving DecidableEq, Repr, Inhabited

/-- The behaviour of a scripted sink: its mode applies after `after` writes; until then a write
takes at most `maxWrite` bytes after waiting `delay` milliseconds. -/
structure SinkScript where
  mode : SinkMode := .accept
  after : Nat := 0
  maxWrite : Option Nat := none
  delay : Nat := 0
deriving DecidableEq, Repr, Inhabited

/-- A scripted sink and what it has received: each write with the time it completed, and the
number of completed flushes. -/
structure ByteSink where
  script : SinkScript := {}
  writes : Array (Nat × List UInt8) := #[]
  flushes : Nat := 0
deriving Repr, Inhabited

namespace ByteSink

def exhausted (s : ByteSink) : Bool :=
  s.script.mode != .accept && s.writes.size ≥ s.script.after

def peer : Peer ByteSink where
  write s now chunk :=
    if s.exhausted then
      match s.script.mode with
      | .close => (.after 0 (.ok 0), s)
      | .fail => (.after 0 (.error .brokenPipe), s)
      | _ => (.never, s)
    else
      let taken := chunk.take (s.script.maxWrite.getD chunk.length)
      (.after s.script.delay (.ok taken.length),
        if taken.isEmpty then s else { s with writes := s.writes.push (now + s.script.delay, taken) })
  flush s _ :=
    if s.exhausted && s.script.mode == .stall then (.never, s)
    else (.after 0 (.ok ()), { s with flushes := s.flushes + 1 })

end ByteSink

end LinkTap.Channel
