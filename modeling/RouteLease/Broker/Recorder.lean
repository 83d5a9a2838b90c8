import RouteLease.Broker

/-!
# Recording subscribers

Subscribers that write down what reaches them, for watching a broker at work. A recorder takes the
kinds it lists, or every kind; on each message it logs the message, then, if it forwards, publishes
the message again under its forwarding identity and logs how many subscribers took it, and then,
if it attaches, registers a new recorder for the kinds it attaches. A shutdown latch among them
keeps the first exit code it is sent.

Each subscriber is known by its registration position, so a recorder registered during a publish
is numbered after all those registered before it.
-/

namespace RouteLease

/-- A subscriber that watches a broker. -/
inductive Recorder where
  /-- Latches the first shutdown request. -/
  | latch
  /-- Logs what it takes: the kinds it takes (`none` for all), the identity it forwards each
  message under, and the kinds of a recorder it attaches on each message. -/
  | log (kinds : Option (List MessageKind)) (forwardAs : Option SenderId)
      (attach : Option (List MessageKind))

/-- One line of the recorders' log. -/
inductive RecorderEntry where
  /-- The subscriber at `position` took a message with this text. -/
  | received (position : Nat) (text : String)
  /-- The subscriber at `position` forwarded a message that `delivered` subscribers took. -/
  | forwarded (position : Nat) (delivered : Nat)

/-- What the recorders have seen: their log in order, and each latch's state by position. -/
structure RecorderLog where
  entries : List RecorderEntry := []
  latches : List (Nat × ShutdownLatch) := []

namespace Recorder

/-- The kinds a subscriber takes. -/
def takes : Recorder → MessageKind → Bool
  | latch, k => ShutdownLatch.accepts k
  | log none _ _, _ => true
  | log (some ks) _ _, k => ks.contains k

/-- The state of the latch at a position, unset if none is recorded. -/
def latchAt (w : RecorderLog) (position : Nat) : ShutdownLatch :=
  (SortedMap.get? position w.latches).getD {}

/-- What a subscriber at `position` does with a message. -/
def handle (position : Nat) : Recorder → Message → RecorderLog → RecorderLog × List (Reaction Recorder RecorderLog)
  | latch, m, w =>
    ({ w with latches := SortedMap.insert position ((latchAt w position).receive m) w.latches }, [])
  | log _ forwardAs attach, m, w =>
    let w := { w with entries := w.entries ++ [.received position m.display] }
    let forward := forwardAs.toList.map fun s =>
      Reaction.publish s m fun n w => { w with entries := w.entries ++ [.forwarded position n] }
    let register := attach.toList.map fun ks => Reaction.subscribe (log (some ks) none none)
    (w, forward ++ register)

/-- The identities a subscriber forwards under. -/
def forwardIds : Recorder → List SenderId
  | latch => []
  | log _ forwardAs _ => forwardAs.toList

/-- How a broker drives recorders, given the recorders that may be registered; only the initial
ones forward, since attached recorders never do. -/
def dispatch (initial : List Recorder) : Dispatch Recorder RecorderLog where
  ready r k _ := r.takes k
  handle := handle
  senders := initial.flatMap forwardIds

end Recorder

end RouteLease
