import ServoLink.Event

/-!
# Event bus — events to every subscriber, in order

`publish` delivers at once.  `send` puts an event into a bounded queue from which `dispatch`
delivers one at a time; a full queue refuses the event.  A subscriber holds a bounded number of
undelivered events and misses those that come while it is full.  A subscriber whose receiver was
dropped is removed by the next delivery.  Every event lost is counted.

The dispatcher runs: a system that cannot start its thread, so that what is sent is lost, is left out,
and so are the records of the log.
-/

namespace ServoLink

structure Subscriber where
  id : Nat
  /-- The receiver still exists. -/
  held : Bool := true
  /-- Delivered but not received, oldest first. -/
  pending : List Event := []
  deriving DecidableEq, Repr, Inhabited

/-- How many events a subscriber holds. -/
def subscriberCapacity : Nat := 1024

/-- How many events wait for the dispatcher. -/
def queueCapacity : Nat := 256

def Subscriber.isFull (s : Subscriber) : Bool := subscriberCapacity ≤ s.pending.length

/-- Offers an event; a full subscriber misses it. -/
def Subscriber.offer (event : Event) (s : Subscriber) : Subscriber :=
  if s.isFull then s else { s with pending := s.pending ++ [event] }

structure EventBus where
  subscribers : List Subscriber := []
  nextId : Nat := 0
  /-- Events for the dispatcher, oldest first. -/
  queue : List Event := []
  dropped : Nat := 0
  deriving DecidableEq, Repr, Inhabited

namespace EventBus

/-- A new subscriber, with its number. -/
def subscribe (bus : EventBus) : Nat × EventBus :=
  (bus.nextId,
   { bus with subscribers := bus.subscribers ++ [{ id := bus.nextId }], nextId := bus.nextId + 1 })

/-- Delivers an event to every subscriber whose receiver exists and forgets the others. -/
def publish (event : Event) (bus : EventBus) : EventBus :=
  let held := bus.subscribers.filter (·.held)
  { bus with
    subscribers := held.map (Subscriber.offer event)
    dropped := bus.dropped + (held.filter (·.isFull)).length }

def send (event : Event) (bus : EventBus) : EventBus :=
  if bus.queue.length < queueCapacity then { bus with queue := bus.queue ++ [event] }
  else { bus with dropped := bus.dropped + 1 }

/-- Delivers the oldest event of the queue. -/
def dispatch (bus : EventBus) : EventBus :=
  match bus.queue with
  | [] => bus
  | event :: rest => { bus with queue := rest }.publish event

/-- Drops the receiver of a subscriber. -/
def unsubscribe (id : Nat) (bus : EventBus) : EventBus :=
  { bus with
    subscribers := bus.subscribers.map fun s => if s.id = id then { s with held := false } else s }

/-- Receives the oldest events that a subscriber holds, so many of them; nothing if its receiver is
gone. -/
def receive (id count : Nat) (bus : EventBus) : Option (List Event) × EventBus :=
  ((bus.subscribers.find? fun s => s.id == id && s.held).map (·.pending.take count),
   { bus with
     subscribers := bus.subscribers.map fun s =>
       if s.id = id && s.held then { s with pending := s.pending.drop count } else s })

/-- Receives all that a subscriber holds. -/
def drain (id : Nat) (bus : EventBus) : Option (List Event) × EventBus :=
  bus.receive id subscriberCapacity

end EventBus
end ServoLink
