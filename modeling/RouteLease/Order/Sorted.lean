/-!
# Sorted lists as sets and maps

The daemon's sets and maps are ordered by their keys, and every listing it prints follows that
order. They are kept here as lists sorted by a comparison of keys, with the operations written once
for a list of entries and a key function (`Keyed`). A map is a list of pairs keyed by their first
component; a set, as a map whose values carry nothing, is a list of elements that are their own
keys. Inserting replaces the entry of an equal key. For a set this changes nothing whenever the
order holds only between equal values, as the orders of the daemon's element types do.
-/

namespace RouteLease

namespace Keyed

variable {α κ : Type} [Ord κ] (key : α → κ)

/-- Inserts an entry at the place of its key, replacing the entry of an equal key. -/
def insert (a : α) : List α → List α
  | [] => [a]
  | b :: bs =>
    match compare (key a) (key b) with
    | .lt => a :: b :: bs
    | .eq => a :: bs
    | .gt => b :: insert a bs

/-- Removes the entry of key `k`, if any. -/
def erase (k : κ) : List α → List α
  | [] => []
  | b :: bs =>
    match compare k (key b) with
    | .lt => b :: bs
    | .eq => bs
    | .gt => b :: erase k bs

/-- The entry of key `k`. -/
def find? (k : κ) : List α → Option α
  | [] => none
  | b :: bs =>
    match compare k (key b) with
    | .lt => none
    | .eq => some b
    | .gt => find? k bs

end Keyed

namespace SortedSet

variable {α : Type} [Ord α]

/-- Inserts an element at its place. -/
def insert (a : α) (s : List α) : List α :=
  Keyed.insert id a s

/-- Removes the element equal to `a`, if any. -/
def erase (a : α) (s : List α) : List α :=
  Keyed.erase id a s

/-- Whether an element equal to `a` is present. -/
def contains (a : α) (s : List α) : Bool :=
  (Keyed.find? id a s).isSome

end SortedSet

namespace SortedMap

variable {κ ν : Type} [Ord κ]

/-- Sets the value of a key, replacing the value of an equal key. -/
def insert (k : κ) (v : ν) (m : List (κ × ν)) : List (κ × ν) :=
  Keyed.insert Prod.fst (k, v) m

/-- Removes the entry of a key, if any. -/
def erase (k : κ) (m : List (κ × ν)) : List (κ × ν) :=
  Keyed.erase Prod.fst k m

/-- The value of a key. -/
def get? (k : κ) (m : List (κ × ν)) : Option ν :=
  (Keyed.find? Prod.fst k m).map Prod.snd

/-- Whether a key has a value. -/
def contains (k : κ) (m : List (κ × ν)) : Bool :=
  (get? k m).isSome

end SortedMap

end RouteLease
