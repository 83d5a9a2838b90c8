import RouteLease.Message
import RouteLease.Order.Sorted

/-!
# The message broker

Components talk through a synchronous broker. Publishing a message hands it, on the publisher's
own thread, to every subscriber that is ready for the message's kind, in registration order, and
returns how many took it. The subscribers are those registered when the publish started: one
registered while the message is being handed out gets only later messages.

A handler may publish again, and may register subscribers. To stop two components from bouncing
messages between each other forever, the broker remembers which senders are being dispatched; a
nested publish from a sender already in flight is dropped and delivers to nobody. Since every
dispatching publish on the stack has a different sender, the nesting is at most as deep as there
are senders, and `Broker.publish` gives the recursion exactly that much room.

Subscribers are values of any type `σ`; what they do lives in a world `ω` that the broker threads
through the handlers, and a `Dispatch` says how each subscriber reacts.
-/

namespace RouteLease

/-- The identity under which a component publishes. -/
abbrev SenderId := Nat

/-- A call that a handler makes back into the broker while it handles a message. -/
inductive Reaction (σ ω : Type) where
  /-- Publishes `message` as `sender`; `after` then records in the world how many subscribers took
  it. -/
  | publish (sender : SenderId) (message : Message) (after : Nat → ω → ω)
  /-- Registers a subscriber. -/
  | subscribe (subscriber : σ)

/-- How the broker drives subscribers of type `σ` in a world `ω`. -/
structure Dispatch (σ ω : Type) where
  /-- Whether the subscriber takes messages of a kind, in the current world. -/
  ready : σ → MessageKind → ω → Bool
  /-- What the subscriber at a position does with a message: the new world, and its calls back
  into the broker in order. -/
  handle : Nat → σ → Message → ω → ω × List (Reaction σ ω)
  /-- Every sender that the handlers publish as. -/
  senders : List SenderId

/-- The broker: its subscribers in registration order, and the senders being dispatched. -/
structure Broker (σ : Type) where
  subscribers : List σ := []
  inFlight : List SenderId := []

namespace Broker

variable {σ ω : Type}

/-- Registers a subscriber after all others. -/
def subscribe (b : Broker σ) (s : σ) : Broker σ :=
  { b with subscribers := b.subscribers ++ [s] }

/-- The number of registered subscribers. -/
def subscriberCount (b : Broker σ) : Nat :=
  b.subscribers.length

/-- Carries out one call that a handler makes back into the broker, with `pub` carrying out a
nested publish. -/
def react (pub : SenderId → Message → Broker σ × ω → (Broker σ × ω) × Nat) (s : Broker σ × ω) :
    Reaction σ ω → Broker σ × ω
  | .publish sender m after =>
    let (s', k) := pub sender m s
    (s'.1, after k s'.2)
  | .subscribe x => (s.1.subscribe x, s.2)

/-- Hands `m` to one subscriber of a snapshot, given with its position, if it is ready for the
message's kind, and carries out the subscriber's calls in order; the count goes up by one for
each subscriber that takes the message. -/
def deliver (d : Dispatch σ ω) (pub : SenderId → Message → Broker σ × ω → (Broker σ × ω) × Nat)
    (m : Message) : (Broker σ × ω) × Nat → σ × Nat → (Broker σ × ω) × Nat
  | ((b, w), n), (x, i) =>
    if d.ready x m.kind w then
      let (w', calls) := d.handle i x m w
      (calls.foldl (react pub) (b, w'), n + 1)
    else ((b, w), n)

/-- A publish that is not dropped: the sender is marked in flight, the message goes to each ready
subscriber of those registered now, in order, and the mark is removed. The result is the broker,
the world and the number of deliveries. -/
def broadcast (d : Dispatch σ ω) (pub : SenderId → Message → Broker σ × ω → (Broker σ × ω) × Nat)
    (sender : SenderId) (m : Message) : Broker σ × ω → (Broker σ × ω) × Nat
  | (b, w) =>
    let entered := { b with inFlight := SortedSet.insert sender b.inFlight }
    let ((b', w'), n) := b.subscribers.zipIdx.foldl (deliver d pub m) ((entered, w), 0)
    (({ b' with inFlight := SortedSet.erase sender b'.inFlight }, w'), n)

/-- Publishes with room for `depth` nested dispatching publishes: a publish from a sender in
flight delivers nothing; otherwise it is broadcast, with the nested publishes given one level
less. -/
def publishWithin (d : Dispatch σ ω) : (depth : Nat) → SenderId → Message → Broker σ × ω →
    (Broker σ × ω) × Nat
  | 0, _, _, s => (s, 0)
  | depth + 1, sender, m, (b, w) =>
    if SortedSet.contains sender b.inFlight then ((b, w), 0)
    else broadcast d (publishWithin d depth) sender m (b, w)

/-- The room that publishing as `sender` needs: one level for each sender that can be in flight,
and one for the publishes that are dropped. -/
def depthBound (d : Dispatch σ ω) (sender : SenderId) : Nat :=
  (SortedSet.insert sender d.senders).length + 1

/-- Publishes `m` as `sender`: the broker and world afterwards, and how many subscribers took
the message. -/
def publish (d : Dispatch σ ω) (sender : SenderId) (m : Message) (b : Broker σ) (w : ω) :
    (Broker σ × ω) × Nat :=
  publishWithin d (depthBound d sender) sender m (b, w)

end Broker

end RouteLease
