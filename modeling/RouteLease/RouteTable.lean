import RouteLease.Address.Text
import RouteLease.Order.Sorted

/-!
# The route table

The bookkeeping of route lifetimes, with no I/O. A destination is either pending (requested,
waiting for the kernel to confirm its route, with a retry count) or active (confirmed, with an
expiration). The expiry index holds one mark per active destination, ordered by expiration and
then destination, so that a sweep takes the earliest expirations first.

Expirations are seconds on the manager's clock. The operations keep two facts: no destination is
both pending and active, and the expiry index holds exactly one mark per active destination, with
its expiration.
-/

namespace RouteLease

/-- A key of the expiry index: an active destination and its expiration. -/
structure ExpiryMark where
  expiration : Nat
  dest : IpAddress
  deriving DecidableEq

namespace ExpiryMark

/-- Marks are ordered by expiration, then by destination. -/
protected def compare (a b : ExpiryMark) : Ordering :=
  match compare a.expiration b.expiration with
  | .eq => compare a.dest b.dest
  | o => o

/-- Marks are ordered by expiration, then by destination. -/
instance : Ord ExpiryMark := ⟨ExpiryMark.compare⟩

/-- The text of a mark, `dest=<ip>,exp=<n>`. -/
def display (m : ExpiryMark) : String :=
  "dest=" ++ m.dest.display ++ ",exp=" ++ toString m.expiration

end ExpiryMark

/-- A request waiting for the kernel to confirm its route. -/
structure PendingRoute where
  expiration : Nat
  retries : Nat
  deriving DecidableEq

/-- What a request did. -/
inductive RequestOutcome where
  /-- The destination is pending until the given expiration; its routes should be pushed. -/
  | pending (expiration : Nat)
  /-- An active route now lives longer. -/
  | extended (previous next : Nat)
  /-- An active route already lives at least as long. -/
  | duplicate (existing : Nat)
  deriving DecidableEq

/-- What a confirmation of an installed route did. -/
inductive ConfirmAddOutcome where
  /-- A pending destination became active. -/
  | activated (expiration : Nat)
  /-- A destination that was not pending became active with the fallback expiration. -/
  | unexpected (expiration : Nat)
  | alreadyActive
  deriving DecidableEq

/-- What a report of a removed route did. -/
inductive ConfirmDelOutcome where
  /-- An active route was removed from outside; the destination is pending again. -/
  | rearmed (expiration : Nat)
  | notActive
  deriving DecidableEq

/-- What one retry pass did: destinations to push again, and destinations whose retries ran out
and that are now taken as active, each in destination order. -/
structure RetryPass where
  retry : List IpAddress
  finalized : List ExpiryMark

/-- Entry counts. -/
structure RouteStats where
  pending : Nat
  active : Nat
  expiryMarks : Nat
  deriving DecidableEq

/-- The text of the counts, `pending=P active=A expiry=E`. -/
def RouteStats.display (s : RouteStats) : String :=
  s!"pending={s.pending} active={s.active} expiry={s.expiryMarks}"

/-- The largest value of a 64-bit word. The power is `Nat.pow` itself, so the term is the same
whichever power instances are in scope. -/
def wordMax : Nat := Nat.pow 2 64 - 1

/-- The most routes one sweep may remove: `percent` of the active routes, rounded up, and at
least one. The product saturates at the largest 64-bit value. -/
def sweepCap (active percent : Nat) : Nat :=
  max 1 ((min (active * percent) wordMax + 99) / 100)

/-- Pending and active destinations with the expiry index. -/
structure RouteTable where
  /-- Pending requests, sorted by destination. -/
  pending : List (IpAddress × PendingRoute) := []
  /-- Active destinations and their expirations, sorted by destination. -/
  active : List (IpAddress × Nat) := []
  /-- One mark per active destination, sorted by expiration and destination. -/
  expiry : List ExpiryMark := []

namespace RouteTable

/-- The empty table. -/
def empty : RouteTable := {}

/-- Makes `dest` active until `expiration`, moving its mark if it was active already. -/
def setActive (t : RouteTable) (dest : IpAddress) (expiration : Nat) : RouteTable :=
  let expiry := match SortedMap.get? dest t.active with
    | some previous => SortedSet.erase ⟨previous, dest⟩ t.expiry
    | none => t.expiry
  { t with active := SortedMap.insert dest expiration t.active,
           expiry := SortedSet.insert ⟨expiration, dest⟩ expiry }

/-- Records a request for `dest` to live until `expiration`. An active route is extended when
the request outlives it. Otherwise the destination is pending: a repeated request keeps the later
expiration and resets the retry count. -/
def request (t : RouteTable) (dest : IpAddress) (expiration : Nat) :
    RouteTable × RequestOutcome :=
  match SortedMap.get? dest t.active with
  | some current =>
    if expiration > current then (t.setActive dest expiration, .extended current expiration)
    else (t, .duplicate current)
  | none =>
    let e := match SortedMap.get? dest t.pending with
      | some p => max p.expiration expiration
      | none => expiration
    ({ t with pending := SortedMap.insert dest ⟨e, 0⟩ t.pending }, .pending e)

/-- The kernel confirmed the route of `dest`: a pending destination becomes active with its
expiration, an unknown one with the fallback expiration. -/
def confirmAdd (t : RouteTable) (dest : IpAddress) (fallback : Nat) :
    RouteTable × ConfirmAddOutcome :=
  if SortedMap.contains dest t.active then (t, .alreadyActive)
  else
    match SortedMap.get? dest t.pending with
    | some p =>
      ({ t with pending := SortedMap.erase dest t.pending }.setActive dest p.expiration,
        .activated p.expiration)
    | none => (t.setActive dest fallback, .unexpected fallback)

/-- The kernel reported the route of `dest` removed: an active destination becomes pending again
with its expiration and no retries. -/
def confirmDel (t : RouteTable) (dest : IpAddress) : RouteTable × ConfirmDelOutcome :=
  match SortedMap.get? dest t.active with
  | some e =>
    ({ pending := SortedMap.insert dest ⟨e, 0⟩ t.pending,
       active := SortedMap.erase dest t.active,
       expiry := SortedSet.erase ⟨e, dest⟩ t.expiry }, .rearmed e)
  | none => (t, .notActive)

/-- One retry pass: a pending destination below `maxRetries` counts one more retry and is pushed
again; one that reached it is taken as active with its expiration. -/
def retryPass (t : RouteTable) (maxRetries : Nat) : RouteTable × RetryPass :=
  let exhausted := t.pending.filter fun (_, p) => p.retries ≥ maxRetries
  let kept := t.pending.filter fun (_, p) => p.retries < maxRetries
  let finalized := exhausted.map fun (d, p) => (⟨p.expiration, d⟩ : ExpiryMark)
  let t' : RouteTable :=
    { t with pending := kept.map fun (d, p) => (d, { p with retries := p.retries + 1 }) }
  (finalized.foldl (fun acc m => acc.setActive m.dest m.expiration) t',
    { retry := kept.map Prod.fst, finalized })

/-- Removes expired routes in expiry order: the marks due by `now`, at most `sweepCap` of them
for the current number of active routes. Returns the removed marks. -/
def sweep (t : RouteTable) (now percent : Nat) : RouteTable × List ExpiryMark :=
  let cap := sweepCap t.active.length percent
  let removed := (t.expiry.takeWhile fun m => m.expiration ≤ now).take cap
  ({ t with active := removed.foldl (fun acc m => SortedMap.erase m.dest acc) t.active,
            expiry := t.expiry.drop removed.length }, removed)

/-- The pending destinations, in order. -/
def pendingDestinations (t : RouteTable) : List IpAddress :=
  t.pending.map Prod.fst

/-- The pending entry of a destination. -/
def pendingOf (t : RouteTable) (dest : IpAddress) : Option PendingRoute :=
  SortedMap.get? dest t.pending

/-- The expiration of an active destination. -/
def activeOf (t : RouteTable) (dest : IpAddress) : Option Nat :=
  SortedMap.get? dest t.active

/-- The entry counts. -/
def stats (t : RouteTable) : RouteStats :=
  ⟨t.pending.length, t.active.length, t.expiry.length⟩

end RouteTable

end RouteLease
