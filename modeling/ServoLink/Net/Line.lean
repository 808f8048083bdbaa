/-!
# Line — a datagram socket on its own clock

A line is a socket connected to one far end.  Time is a number of nanoseconds and moves only when
something waits.  The far end is a function: for its state and a datagram sent to it, it says how
long the send takes, whether it fails, and what arrives back, each after a delay.

* `Line.send` — sends one datagram; replies are queued by their time of arrival;
* `Line.sleep` — lets time pass.

Receiving is part of the protocols: they look through the arrivals up to a deadline.
-/

namespace ServoLink
namespace Net

/-- What a receive can yield. -/
inductive Delivery where
  | datagram (bytes : List UInt8)
  /-- The receive fails with a socket error. -/
  | failure (detail : String)
  deriving DecidableEq, Repr, Inhabited

structure Arrival where
  time : Nat
  delivery : Delivery
  deriving DecidableEq, Repr, Inhabited

/-- What happens when a datagram is sent. -/
structure Reaction where
  /-- How long the send takes. -/
  stall : Nat := 0
  /-- The socket error the send fails with. -/
  failure : Option String := none
  /-- What arrives, each after its delay. -/
  replies : List (Nat × Delivery) := []
  deriving DecidableEq, Repr, Inhabited

/-- The other end of a line. -/
abbrev FarEnd (σ : Type) := σ → List UInt8 → Reaction × σ

/-- The near end of a line. -/
structure Socket where
  now : Nat := 0
  /-- What has not been received yet, in order of arrival. -/
  queue : List Arrival := []
  /-- Every datagram sent, the latest first. -/
  sent : List (List UInt8) := []
  /-- How long before its deadline a receive gives up. -/
  earliness : Nat := 0
  deriving DecidableEq, Repr, Inhabited

/-- A socket and the state of its far end. -/
structure Line (σ : Type) extends Socket where
  far : σ
  deriving Repr, Inhabited

/-- Queues an arrival behind all that arrive no later. -/
def enqueue (a : Arrival) : List Arrival → List Arrival
  | [] => [a]
  | b :: rest => if b.time ≤ a.time then b :: enqueue a rest else a :: b :: rest

namespace Line

variable {σ : Type}

/-- Sends one datagram. -/
def send (react : FarEnd σ) (datagram : List UInt8) (line : Line σ) :
    Except String Unit × Line σ :=
  let (reaction, far) := react line.far datagram
  let now := line.now + reaction.stall
  let line := { line with far, now, sent := datagram :: line.sent }
  match reaction.failure with
  | some detail => (.error detail, line)
  | none =>
      let arrivals := reaction.replies.map fun (delay, delivery) => ⟨now + delay, delivery⟩
      (.ok (), { line with queue := arrivals.foldl (fun queue a => enqueue a queue) line.queue })

def sleep (duration : Nat) (line : Line σ) : Line σ := { line with now := line.now + duration }

/-- When a receive that gets nothing until `deadline` gives up. -/
def givesUpAt (line : Line σ) (deadline : Nat) : Nat :=
  max line.now (deadline - line.earliness)

end Line

end Net
end ServoLink
