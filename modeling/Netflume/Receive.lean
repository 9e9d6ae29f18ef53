import Netflume.Collector
import Netflume.Flow

/-! # Receiving

The socket of a collector and the wakeup beside it: `_receive`, `poll`, `stop`,
`close`, and the generators `messages`, `__iter__` and `flows`.  The operating
system and the other threads are inputs.  Datagrams arrive and `stop` is called
while `select` waits and at any moment after it; what `select` reports ready need
not be true, and a read may fail.  One list of happenings plays once through, so
a call that outlasts it is still waiting. -/

namespace Netflume

open Library

/-- The errors the package tells apart, by their names in `errno`. -/
inductive Errno where
  | EAGAIN | EWOULDBLOCK | EADDRNOTAVAIL | EAFNOSUPPORT
  | other (number : Int)
  deriving DecidableEq, Repr

structure OsError where
  errno : Errno
  winerror : Option Nat
  deriving DecidableEq, Repr

/-- What a read of the socket finds. -/
inductive Reading where
  | datagram (datagram : Decoder.Datagram)
  | failed (error : OsError)
  deriving DecidableEq

/-- What the network, another thread or a signal handler does. -/
inductive Happening where
  | arrives (reading : Reading)
  | stops
  deriving DecidableEq

/-- The two sockets `select` watches. -/
inductive Handle where
  | socket | waker
  deriving DecidableEq, Repr

/-- One entry of what `select` returned, and what happens before the loop comes to it. -/
structure Visit where
  before : List Happening
  handle : Handle
  deriving DecidableEq

/-- One round of the loop of `_receive`: what happens while `select` waits, what `select` returns, what
happens before the flags are looked at, and what the clock says then. -/
structure Round where
  meanwhile : List Happening
  ready : List Visit
  later : List Happening
  looked : Rat
  deriving DecidableEq

/-- What one call of `_receive` sees, and what happens before it. -/
structure Wait where
  before : List Happening
  started : Rat
  rounds : List Round
  deriving DecidableEq

/-! ## The sockets -/

/-- What has arrived on the socket and how much of it is read, the bytes in the wakeup, and `_stopping`. -/
structure Line where
  arrived : List Reading
  read : Nat
  waker : Bytes
  stopping : Bool
  within : read ≤ arrived.length
  deriving DecidableEq

namespace Line

/-- A socket just bound. -/
def new : Line := ⟨[], 0, [], false, Nat.le_refl 0⟩

/-- `stop`: the pair that carries the wakeup is taken to have room. -/
def stop (line : Line) : Line := { line with waker := line.waker ++ [0], stopping := true }

def arrive (line : Line) (reading : Reading) : Line where
  arrived := line.arrived ++ [reading]
  read := line.read
  waker := line.waker
  stopping := line.stopping
  within := by
    have held := line.within
    rw [List.length_append]
    omega

def happen (line : Line) : Happening → Line
  | .arrives reading => line.arrive reading
  | .stops => line.stop

def happenAll (line : Line) (happenings : List Happening) : Line := happenings.foldl happen line

/-- `self._waker_r.recv(4096)`; the error of an empty pair is swallowed. -/
def drain (line : Line) : Line := { line with waker := line.waker.drop 4096 }

/-- `self.socket.recvfrom(MAX_DATAGRAM)`: the oldest reading not yet taken, or the error of a socket that would
block. -/
def recvfrom (line : Line) : Reading × Line :=
  if unread : line.read < line.arrived.length then
    (line.arrived[line.read], { line with read := line.read + 1, within := unread })
  else (.failed ⟨.EAGAIN, none⟩, line)

end Line

/-! ## The receive loop -/

/-- What `_receive` returns or raises; `waiting` while it does neither. -/
inductive Received where
  | nothing
  | datagram (datagram : Decoder.Datagram)
  | raised (error : OsError)
  | waiting
  deriving DecidableEq

/-- What `_receive` makes of a read: 10054 is a stale ICMP error, which Windows reports on the next one. -/
def Reading.received : Reading → Received
  | .datagram sent => .datagram sent
  | .failed error =>
    if error.errno = .EAGAIN ∨ error.errno = .EWOULDBLOCK then .nothing
    else if error.winerror = some 10054 then .nothing
    else .raised error

namespace Line

/-- The loop over what `select` returned: what a read of the socket gave, and whether the wakeup fired. -/
def scan : List Visit → Bool → Line → Option Received × Bool × Line
  | [], woken, line => (none, woken, line)
  | visit :: ready, woken, line =>
    let line := line.happenAll visit.before
    match visit.handle with
    | .waker => scan ready true line.drain
    | .socket => (some line.recvfrom.1.received, woken, line.recvfrom.2)

/-- The loop of `_receive`, which goes round again when only the wakeup fired. -/
def receive (deadline : Option Rat) (honourStop : Bool) : List Round → Line → Received × Line
  | [], line => (.waiting, line)
  | round :: rounds, line =>
    let line := line.happenAll round.meanwhile
    if round.ready = [] then (.nothing, line)
    else
      let (answer, woken, line) := scan round.ready false line
      match answer with
      | some answer => (answer, line)
      | none =>
        let line := line.happenAll round.later
        if ¬ woken ∨ (honourStop ∧ line.stopping) then (.nothing, line)
        else if deadline.any (· ≤ round.looked) then (.nothing, line)
        else receive deadline honourStop rounds line

end Line

/-- `deadline`. -/
def Wait.deadline (wait : Wait) (timeout : Option Rat) : Option Rat := timeout.map (wait.started + ·)

/-! ## The collector -/

/-- A collector and its sockets, and how long its iterators wait at a time. -/
structure BoundCollector where
  filter : Collector
  timeout : Option Rat
  closed : Bool
  line : Line

/-- What a call of the collector raises. -/
inductive Failure where
  | os (error : OsError)
  | stop (stop : Stop)
  deriving DecidableEq

namespace BoundCollector

def happenAll (collector : BoundCollector) (happenings : List Happening) : BoundCollector :=
  { collector with line := collector.line.happenAll happenings }

/-- `_receive` on the collector's sockets. -/
def receive (collector : BoundCollector) (timeout : Option Rat) (honourStop : Bool) (wait : Wait) :
    Received × BoundCollector :=
  let (received, line) := collector.line.receive (wait.deadline timeout) honourStop wait.rounds
  (received, { collector with line := line })

/-- `_decode` of what was received. -/
def decode (collector : BoundCollector) (datagram : Decoder.Datagram) :
    Except Stop (Option Message) × BoundCollector :=
  let (result, filter) := collector.filter.decodeDatagram datagram
  (result, { collector with filter := filter })

/-- What `poll` returns or raises; `none` while it waits. -/
abbrev Polled := Option (Except Failure (Option Message))

/-- `poll`. -/
def poll (collector : BoundCollector) (timeout : Option Rat) (wait : Wait) : Polled × BoundCollector :=
  if collector.closed then (some (.error (.stop (.raised ⟨"ValueError", "collector is closed"⟩))), collector)
  else
    let (received, collector) := (collector.happenAll wait.before).receive timeout false wait
    match received with
    | .waiting => (none, collector)
    | .raised error => (some (.error (.os error)), collector)
    | .nothing => (some (.ok none), collector)
    | .datagram datagram =>
      let (result, collector) := collector.decode datagram
      (some (result.mapError .stop), collector)

/-- `stop`, which sends nothing once the wakeup is closed. -/
def stop (collector : BoundCollector) : BoundCollector :=
  { collector with line :=
      if collector.closed then { collector.line with stopping := true } else collector.line.stop }

/-- `close`. -/
def close (collector : BoundCollector) : BoundCollector :=
  if collector.closed then collector
  else { collector with closed := true, line := { collector.line with stopping := true } }

/-! ## The generators -/

/-- What `next` of a generator gives; a generator that ends or raises does nothing more. -/
inductive Next (α : Type) where
  | item (item : α)
  | ended
  | raised (failure : Failure)
  | waiting
  deriving DecidableEq

/-- A generator over the messages: what it has yet to yield of the last one, and whether it has ended. -/
structure Generator (α : Type) where
  pending : List α
  finished : Bool
  deriving DecidableEq

/-- A generator not yet asked for anything. -/
def Generator.new (α : Type) : Generator α := ⟨[], false⟩

variable {α : Type}

/-- The loop of `messages`, up to the next message that `each` makes something of. -/
def messageLoop (each : Message → Except PyError (List α)) (timeout : Option Rat) :
    List Wait → BoundCollector → Next α × Generator α × BoundCollector
  | [], collector =>
    if collector.line.stopping ∨ collector.closed then (.ended, ⟨[], true⟩, collector)
    else (.waiting, ⟨[], false⟩, collector)
  | wait :: waits, collector =>
    let collector := collector.happenAll wait.before
    if collector.line.stopping ∨ collector.closed then (.ended, ⟨[], true⟩, collector)
    else
      let (received, collector) := collector.receive timeout true wait
      match received with
      | .waiting => (.waiting, ⟨[], false⟩, collector)
      | .raised error => (.raised (.os error), ⟨[], true⟩, collector)
      | .nothing => messageLoop each timeout waits collector
      | .datagram datagram =>
        let (result, collector) := collector.decode datagram
        match result with
        | .error error => (.raised (.stop error), ⟨[], true⟩, collector)
        | .ok none => messageLoop each timeout waits collector
        | .ok (some message) =>
          match each message with
          | .error error => (.raised (.stop (.raised error)), ⟨[], true⟩, collector)
          | .ok [] => messageLoop each timeout waits collector
          | .ok (item :: items) => (.item item, ⟨items, false⟩, collector)

/-- The timeout of `messages`: the one it is given, or else the collector's own. -/
def iterationTimeout (collector : BoundCollector) (timeout : Option Rat) : Option Rat := timeout.or collector.timeout

/-- `next` of a generator: what is pending goes first, and without a look at the flags. -/
def advance (each : Message → Except PyError (List α)) (timeout : Option Rat) (generator : Generator α)
    (waits : List Wait) (collector : BoundCollector) : Next α × Generator α × BoundCollector :=
  if generator.finished then (.ended, generator, collector)
  else
    match generator.pending with
    | item :: items => (.item item, ⟨items, false⟩, collector)
    | [] => messageLoop each (collector.iterationTimeout timeout) waits collector

/-- What `messages` yields of a message: the message. -/
def eachMessage (message : Message) : Except PyError (List Message) := .ok [message]

/-- What `__iter__` yields of a message: its flows, each with the header. -/
def eachRecord (message : Message) : Except PyError (List (Rec × Header)) :=
  .ok (message.flows.map fun rec => (rec, message.header))

/-- What `flows` yields of a message. -/
def eachFlow (round : Rat → Rat) (now : Option Number) (clock : Rat) (message : Message) :
    Except PyError (List Flow) :=
  message.typedFlows round now clock

/-! ## Sessions -/

/-- What a consumer does with a collector and a generator over it, or what happens in between. -/
inductive Call where
  | next (waits : List Wait)
  | poll (timeout : Option Rat) (wait : Wait)
  | stop
  | close
  | idle (happenings : List Happening)
  deriving DecidableEq

structure Session (α : Type) where
  collector : BoundCollector
  generator : Generator α

/-- What a call gives its caller. -/
inductive Answer (α : Type) where
  | next (next : Next α)
  | polled (polled : Polled)
  | done
  deriving DecidableEq

/-- One call of a session whose generator takes `each` message apart, and was given a `timeout` or none. -/
def Session.call (each : Message → Except PyError (List α)) (timeout : Option Rat) (session : Session α) :
    Call → Answer α × Session α
  | .next waits =>
    let (next, generator, collector) := advance each timeout session.generator waits session.collector
    (.next next, ⟨collector, generator⟩)
  | .poll timeout wait =>
    let (polled, collector) := session.collector.poll timeout wait
    (.polled polled, { session with collector := collector })
  | .stop => (.done, { session with collector := session.collector.stop })
  | .close => (.done, { session with collector := session.collector.close })
  | .idle happenings => (.done, { session with collector := session.collector.happenAll happenings })

end BoundCollector

end Netflume
