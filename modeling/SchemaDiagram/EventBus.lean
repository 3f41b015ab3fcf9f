import SchemaDiagram.Event

/-!
# The event bus

Events are published to any number of receivers, each of which reads at its own pace.  The bus holds
a limited number of events; a receiver that fell behind learns how many it missed and goes on with
the oldest event still held.
-/

namespace SchemaDiagram

/-- Everything published so far, and how many of the latest events can still be received. -/
structure EventBus where
  held : Nat
  published : List Event

/-- How far a receiver has read. -/
structure Receiver where
  position : Nat
  deriving DecidableEq, Repr

/-- What a receiver gets: the number of events it missed, and the ones that follow. -/
structure Delivery where
  missed : Nat
  events : List Event

namespace EventBus

/-- The capacity of a bus unless another one is asked for. -/
def standardCapacity : Nat := 256

/-- The least power of two that is at least `n`. -/
def roundUp (n : Nat) : Nat :=
  n.nextPowerOfTwo

/-- A bus that holds at least the given number of events, and at least one. -/
def new (capacity : Nat) : EventBus := ⟨roundUp (max capacity 1), []⟩

def emit (bus : EventBus) (events : List Event) : EventBus :=
  { bus with published := bus.published ++ events }

/-- A receiver of everything published from now on. -/
def subscribe (bus : EventBus) : Receiver := ⟨bus.published.length⟩

/-- Whether events wait for a receiver, missed ones included. -/
def hasPending (bus : EventBus) (receiver : Receiver) : Bool :=
  receiver.position < bus.published.length

/-- Everything that waits for a receiver. -/
def drain (bus : EventBus) (receiver : Receiver) : Delivery :=
  let oldest := bus.published.length - bus.held
  ⟨oldest - receiver.position, bus.published.drop (max oldest receiver.position)⟩

end EventBus

end SchemaDiagram
