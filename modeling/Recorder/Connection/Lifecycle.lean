/-
# The life of a connection

`SPEC_FULL.md` §3, `EventConnection`: `start`, the reconnection loop and
`disconnect`.

A capture task connects, greets the hub, takes in frames until the socket is
left, and starts again after a delay, until the connection is closing.  What the
network does is a script: one `Attempt` for every connection that is tried, and
one `Delay` for every delay between attempts.  In a turn of its own a task runs
until it has to wait; where it waits is a `Waiting`.  The script says for every
wait whether it ends by the task's next turn or only by cancelling the task, so
that anything can be asked of a capture in between.

| the attempt | afterwards |
| --- | --- |
| cannot connect, handshake refused, socket fails | reconnecting, with a notice |
| left by the hub | reconnecting, with a notice |
| nothing for now | waits for its next turn |
| nothing any more, also in the script | waits until it is cancelled |

`Capture.start`, `Capture.run` and `Capture.disconnect` are the three things
that can happen; each gives the capture after it and a journal of what it did.
The journal is that of a `Story`, which also tells what the connection was like
at every moment.
-/

import Recorder.Connection.Basic

namespace Recorder

/-- A failure of the network, or an unexpected one. -/
structure Failure where
  expected : Bool
  reason : String
deriving DecidableEq, Repr

/-- The kinds of frame that are not text. -/
inductive FrameKind where
  | continuation
  | binary
  | ping
  | pong
  | close
  | closing
  | closed
  | error
deriving DecidableEq, Repr

/-- How a kind of frame is shown in messages. -/
def FrameKind.description : FrameKind → String
  | .continuation => "<WSMsgType.CONTINUATION: 0>"
  | .binary => "<WSMsgType.BINARY: 2>"
  | .ping => "<WSMsgType.PING: 9>"
  | .pong => "<WSMsgType.PONG: 10>"
  | .close => "<WSMsgType.CLOSE: 8>"
  | .closing => "<WSMsgType.CLOSING: 256>"
  | .closed => "<WSMsgType.CLOSED: 257>"
  | .error => "<WSMsgType.ERROR: 258>"

/-- A frame. -/
inductive Frame where
  | text (data : String)
  | other (kind : FrameKind)
deriving DecidableEq, Repr

/-- What a wait for the next frame does when it is cancelled. -/
inductive OnCancel where
  | cancelled
  | ends
  | fails (f : Failure)
deriving DecidableEq, Repr

/-- What the socket gives when it is asked for the next frame. -/
inductive Delivery where
  | frame (f : Frame)
  | fails (f : Failure)
  /-- Nothing until the task is cancelled. -/
  | waits (k : OnCancel)
  /-- Nothing until the task's next turn. -/
  | pauses (k : OnCancel)
deriving DecidableEq, Repr

/-- One attempt to connect. -/
inductive Attempt where
  | refused (f : Failure)
  /-- The socket opens: the reply to the handshake, the deliveries after it (then
  the stream ends), and the exception behind an error frame. -/
  | opened (reply : Except Failure Frame) (deliveries : List Delivery) (exception : Option Failure)
  /-- Connecting lasts until it is cancelled. -/
  | hangs
  /-- Connecting lasts into the task's next turn. -/
  | later (a : Attempt)
  /-- The socket opens, and the wait for the reply lasts until it is cancelled. -/
  | unanswered (k : OnCancel)
  /-- The socket opens, and the wait for the reply lasts into the task's next turn. -/
  | answered (k : OnCancel) (reply : Except Failure Frame) (deliveries : List Delivery)
      (exception : Option Failure)

/-- How a delay between attempts behaves. -/
inductive Delay where
  /-- It passes. -/
  | passes
  /-- It lasts into the task's next turn. -/
  | lasts
  /-- It lasts until it is cancelled. -/
  | holds
  /-- It fails when it is cancelled. -/
  | fails
  /-- It ends normally when it is cancelled. -/
  | swallows
deriving DecidableEq, Repr

/-- What a capture task waits for. -/
inductive Awaited where
  /-- Its first turn. -/
  | turn
  | connecting
  /-- The reply to the handshake, or the next frame. -/
  | receiving (k : OnCancel)
  | sleeping (d : Delay)

/-- What the next turn of a task goes on with. -/
inductive Next where
  /-- The head of its loop. -/
  | loop
  | connecting (a : Attempt)
  | reply (reply : Except Failure Frame) (deliveries : List Delivery) (exception : Option Failure)
  | receiving (deliveries : List Delivery) (exception : Option Failure)

/-- Where a capture task waits. -/
structure Waiting where
  awaited : Awaited
  /-- What comes with its next turn, unless only cancelling ends the wait. -/
  next : Option Next := none

/-- What a capture does, in order. -/
inductive JournalEntry where
  | connecting (url : String) (state : ConnectionState)
  | sent (text : String)
  | receiving
  /-- The reply to the handshake was accepted. -/
  | accepted
  /-- The connection changed its state. -/
  | entered (state : ConnectionState)
  | asked (state : ConnectionState) (buffered : Nat)
  | closed
  | sleeping (delay : Double) (state : ConnectionState)
  | noticed (n : Notice)
deriving Repr

abbrev Journal := List JournalEntry

/-- A moment in the life of a connection: what was done, and the connection then. -/
structure Moment where
  entry : JournalEntry
  connection : Connection
deriving Repr

/-- What happened to a connection, in order. -/
abbrev Story := List Moment

namespace Connection

/-- What is done without changing the connection. -/
def tells (c : Connection) (entries : Journal) : Story := entries.map (⟨·, c⟩)

def enter (c : Connection) (state : ConnectionState) : Connection := { c with state }

/-- The beginning of an attempt. -/
def connecting (c : Connection) : JournalEntry := .connecting c.hubUrl c.state

/-- Asking for the next frame. -/
def asked (c : Connection) : JournalEntry := .asked c.state c.buffer.length

end Connection

/-- How an attempt ends, or where it waits. -/
inductive AttemptEnd where
  | left
  | failed (f : Failure)
  | waiting (w : Waiting)

/-- What an attempt did. -/
structure Attempted where
  connection : Connection
  story : Story
  outcome : AttemptEnd

namespace Attempted

/-- What was done before as well. -/
def after (told : Story) (r : Attempted) : Attempted := { r with story := told ++ r.story }

/-- Leaves the socket, unless the attempt still waits. -/
def close (r : Attempted) : Attempted :=
  match r.outcome with
  | .waiting _ => r
  | _ => { r with story := r.story ++ r.connection.tells [.closed] }

end Attempted

namespace Attempt

/-- The failure behind an error frame. -/
def socketFailure (exception : Option Failure) : Failure :=
  exception.getD ⟨true, "websocket error"⟩

/-- **The receive loop** of a connection that is connected, once it has asked for the next
frame. -/
def receive (exception : Option Failure) (c : Connection) : List Delivery → Attempted
  | [] => ⟨c, [], .left⟩
  | d :: ds =>
    match d with
    | .fails f => ⟨c, [], .failed f⟩
    | .waits k => ⟨c, [], .waiting { awaited := .receiving k }⟩
    | .pauses k => ⟨c, [], .waiting ⟨.receiving k, some (.receiving ds exception)⟩⟩
    | .frame (.other .error) => ⟨c, [], .failed (socketFailure exception)⟩
    | .frame (.other _) => (receive exception c ds).after (c.tells [c.asked])
    | .frame (.text data) =>
      let h := c.handleFrame data
      let taking := h.connection.tells (h.notices.map .noticed)
      match h.result with
      | .error limit => ⟨h.connection, taking, .failed ⟨false, limit.message⟩⟩
      | .ok false => ⟨h.connection, taking, .left⟩
      | .ok true =>
        (receive exception h.connection ds).after
          (taking ++ h.connection.tells [h.connection.asked])

/-- Whether a failed handshake is an expected failure. -/
def handshakeFailure (e : HandshakeError) : Failure :=
  match e with
  | .beyond _ => ⟨false, e.message⟩
  | _ => ⟨true, e.message⟩

/-- **The greeting:** the connection is connected just when the reply is accepted. -/
def greet (c : Connection) (reply : Except Failure Frame) : Connection × Story × Option Failure :=
  match reply with
  | .error f => (c, [], some f)
  | .ok (.other kind) => (c, [], some (handshakeFailure (.unexpectedFrame kind.description)))
  | .ok (.text data) =>
    let g := c.completeHandshake data
    let noticing := g.connection.tells (g.notices.map .noticed)
    match g.result with
    | .error e => (g.connection, noticing, some (handshakeFailure e))
    | .ok () =>
      let c' := g.connection.enter .connected
      (c', noticing ++ g.connection.tells [.accepted] ++
        c'.tells [.entered .connected, .noticed (.connected c.url)], none)

/-- **What follows the reply.** -/
def answer (c : Connection) (reply : Except Failure Frame) (deliveries : List Delivery)
    (exception : Option Failure) : Attempted :=
  match greet c reply with
  | (c', greeting, some f) => ⟨c', greeting ++ c'.tells [.closed], .failed f⟩
  | (c', greeting, none) =>
    (receive exception c' deliveries).close.after (greeting ++ c'.tells [c'.asked])

/-- **What connecting leads to.** -/
def connect (c : Connection) : Attempt → Attempted
  | .refused f => ⟨c, [], .failed f⟩
  | .hangs => ⟨c, [], .waiting { awaited := .connecting }⟩
  | .later a => ⟨c, [], .waiting ⟨.connecting, some (.connecting a)⟩⟩
  | .unanswered k =>
    ⟨c, c.tells [.sent handshakeText, .receiving], .waiting { awaited := .receiving k }⟩
  | .answered k reply deliveries exception =>
    ⟨c, c.tells [.sent handshakeText, .receiving],
      .waiting ⟨.receiving k, some (.reply reply deliveries exception)⟩⟩
  | .opened reply deliveries exception =>
    (answer c reply deliveries exception).after (c.tells [.sent handshakeText, .receiving])

/-- **One attempt,** up to where it ends or waits. -/
def perform (c : Connection) (a : Attempt) : Attempted :=
  (a.connect c).after (c.tells [c.connecting])

end Attempt

/-- A connection with its capture task and the script of its network. -/
structure Capture where
  connection : Connection
  /-- Where the capture task waits, while there is one. -/
  task : Option Waiting := none
  /-- Whether the task is to end its loop. -/
  closing : Bool := false
  attempts : List Attempt := []
  delays : List Delay := []

/-- What can be asked of a capture. -/
inductive Call where
  | start
  /-- The task gets its turn. -/
  | run
  | disconnect
deriving DecidableEq, Repr

namespace Capture

/-- The notice of an attempt that ended. -/
def retryNotice (c : Connection) (failure : Option Failure) : Notice :=
  let delay := c.endpoint.reconnectDelay.text
  match failure with
  | none => .dropped c.url delay
  | some f => if f.expected then .connectFailed c.url f.reason delay else .captureFailed c.url delay

/-- Where a task stands when it has to wait, or has ended. -/
structure Stopped where
  connection : Connection
  /-- Where it waits, unless it has ended. -/
  waiting : Option Waiting
  attempts : List Attempt
  delays : List Delay
  story : Story

/-- What was done before as well. -/
def Stopped.after (told : Story) (s : Stopped) : Stopped := { s with story := told ++ s.story }

/-- The end of the loop. -/
def finish (c : Connection) (attempts : List Attempt) (delays : List Delay) : Stopped :=
  ⟨c.enter .disconnected, none, attempts, delays,
    (c.enter .disconnected).tells [.entered .disconnected]⟩

/-- The next delay; it passes where the script says nothing. -/
def nextDelay : List Delay → Delay × List Delay
  | [] => (.passes, [])
  | d :: ds => (d, ds)

/-- Where a task waits during a delay. -/
def during (d : Delay) : Waiting :=
  ⟨.sleeping d, if d = .lasts then some .loop else none⟩

/-- **After an attempt,** a task that is not closing reconnects: it waits for the delay and
goes on with `next`. -/
def retry (closing : Bool) (next : Connection → List Delay → Stopped) (c : Connection)
    (failure : Option Failure) (attempts : List Attempt) (delays : List Delay) : Stopped :=
  if closing then finish c attempts delays
  else
    let c' := c.enter .reconnecting
    let reconnecting := c.tells [.noticed (retryNotice c failure)] ++
      c'.tells [.entered .reconnecting, .sleeping c.endpoint.reconnectDelay .reconnecting]
    match nextDelay delays with
    | (.passes, ds) => (next c' ds).after reconnecting
    | (d, ds) => ⟨c', some (during d), attempts, ds, reconnecting⟩

/-- **Where a turn takes an attempt:** it waits, or reconnects. -/
def settle (closing : Bool) (next : Connection → List Delay → Stopped) (done : Attempted)
    (attempts : List Attempt) (delays : List Delay) : Stopped :=
  let rest : Stopped := match done.outcome with
    | .waiting w => ⟨done.connection, some w, attempts, delays, []⟩
    | .left => retry closing next done.connection none attempts delays
    | .failed f => retry closing next done.connection (some f) attempts delays
  rest.after done.story

/-- **The capture loop,** until it has to wait or the connection is closing. -/
def cycle (closing : Bool) (c : Connection) : List Attempt → List Delay → Stopped
  | [], delays =>
    if closing then finish c [] delays
    else ⟨c, some { awaited := .connecting }, [], delays, c.tells [c.connecting]⟩
  | a :: attempts, delays =>
    if closing then finish c (a :: attempts) delays
    else settle closing (fun c ds => cycle closing c attempts ds) (a.perform c) attempts delays

/-- **A turn** goes on with what comes next. -/
def turn (closing : Bool) (c : Connection) (attempts : List Attempt) (delays : List Delay)
    (next : Next) : Stopped :=
  let loop (c : Connection) (ds : List Delay) : Stopped := cycle closing c attempts ds
  match next with
  | .loop => loop c delays
  | .connecting a => settle closing loop (a.connect c) attempts delays
  | .reply reply ds exception =>
    settle closing loop (Attempt.answer c reply ds exception) attempts delays
  | .receiving ds exception =>
    settle closing loop (Attempt.receive exception c ds).close attempts delays

/-- **What cancelling a task does:** where its loop takes it from there, and the error that it
ends with if it is one. -/
def cancel (c : Capture) (w : Waiting) : Stopped × Option String :=
  let gone : Stopped := ⟨c.connection, none, c.attempts, c.delays, []⟩
  let loop (k : Connection) (ds : List Delay) : Stopped := cycle c.closing k c.attempts ds
  let left (failure : Option Failure) : Stopped :=
    retry c.closing loop c.connection failure c.attempts c.delays
  let closed := c.connection.tells [.closed]
  match w.awaited with
  | .turn | .connecting => (gone, none)
  | .receiving .cancelled => (gone.after closed, none)
  | .receiving .ends => ((left none).after closed, none)
  | .receiving (.fails f) => ((left (some f)).after closed, none)
  | .sleeping .fails => (gone, some "sleep failed")
  | .sleeping .swallows => (loop c.connection c.delays, none)
  | .sleeping _ => (gone, none)

/-- The end of a connection; no notice is given of one that is disconnected already. -/
def part (c : Connection) : Story :=
  (if c.state = .disconnected then [] else c.tells [.noticed (.disconnected c.url)]) ++
    (c.enter .disconnected).tells [.entered .disconnected]

/-- **One call.**

* Starting leaves a task that is alive alone.
* Running gives the task its turn, unless only cancelling ends its wait.
* Disconnecting cancels the task, which is closing from then on, and waits for its end. -/
def step (c : Capture) : Call → Capture × Story
  | .start =>
    match c.task with
    | some _ => (c, c.connection.tells [.noticed (.alreadyRunning c.connection.url)])
    | none =>
      let connection := c.connection.enter .connecting
      ({ c with connection, task := some ⟨.turn, some .loop⟩, closing := false },
        connection.tells [.entered .connecting])
  | .run =>
    match c.task with
    | some ⟨_, some next⟩ =>
      let s := turn c.closing c.connection c.attempts c.delays next
      ({ c with connection := s.connection, task := s.waiting, attempts := s.attempts,
                delays := s.delays }, s.story)
    | _ => (c, [])
  | .disconnect =>
    let c := { c with closing := true }
    match c.task with
    | some w =>
      let (s, error) := c.cancel w
      let failing := s.connection.tells
        (error.toList.map (.noticed <| .disconnectFailed s.connection.url ·))
      ({ c with connection := s.connection.enter .disconnected, task := none,
                attempts := s.attempts, delays := s.delays },
        s.story ++ failing ++ part s.connection)
    | none => ({ c with connection := c.connection.enter .disconnected }, part c.connection)

/-- A call, told without the connection. -/
def written (c : Capture) (call : Call) : Capture × Journal :=
  let (c', story) := c.step call
  (c', story.map Moment.entry)

def start (c : Capture) : Capture × Journal := c.written .start

def run (c : Capture) : Capture × Journal := c.written .run

def disconnect (c : Capture) : Capture × Journal := c.written .disconnect

end Capture
end Recorder
