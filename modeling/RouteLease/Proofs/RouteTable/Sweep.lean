import Mathlib.Data.Rat.Floor
import RouteLease.Config.Schema
import RouteLease.Proofs.RouteTable.Lifetime

/-!
# What a sweep removes

The expiry index of a valid table is sorted by expiration and then destination, so the marks due
by a time form a front part of it (`dueMarks_prefix`). A sweep removes the earliest of them, as
many as the cap computed from the active routes before the sweep allows (`sweepCount`): it returns
exactly the first `sweepCount` marks of the index, in order, drops them from the index and their
destinations from the active map, and changes nothing else (`sweep_removes_earliest_due`).

So a sweep never removes a mark that is not due, nor a pending entry, never more than the cap,
and at least one mark whenever one is due, since the cap is at least one.

The cap itself is a percentage of the active routes, rounded up, of a product that saturates at
the largest 64-bit value. Rounding up in the naturals is the exact ceiling (`ceil_div_hundred`),
so nothing overflows, and up to a hundred percent the cap lies between one and the number of
active routes, right up to the saturation boundary (`sweepCap_ceiling_bounds`). A configuration
passes its checks only with a percentage from 1 to 100, so the daemon's caps always lie there
(`sweepCap_bounds_of_validate`).
-/

namespace RouteLease

/-- In a list where every element comes before the later ones in an order that a predicate is
closed downward along, the elements that satisfy the predicate are a front part. -/
theorem filter_eq_takeWhile_of_pairwise {α : Type} {r : α → α → Prop} {p : α → Bool}
    (hp : ∀ a b, r a b → p b = true → p a = true) :
    ∀ {l : List α}, l.Pairwise r → l.filter p = l.takeWhile p
  | [], _ => rfl
  | a :: as, h => by
    rw [List.pairwise_cons] at h
    by_cases ha : p a = true
    · rw [List.filter_cons_of_pos ha, List.takeWhile_cons_of_pos ha,
        filter_eq_takeWhile_of_pairwise hp h.2]
    · -- `a` fails, so every later element fails too
      rw [List.filter_cons_of_neg ha, List.takeWhile_cons_of_neg ha, List.filter_eq_nil_iff]
      exact fun b hb hpb => ha (hp a b (h.1 b hb) hpb)

namespace ExpiryMark

/-- A mark that comes before another expires no later. -/
theorem expiration_le_of_compare_lt {a b : ExpiryMark} (h : compare a b = .lt) :
    a.expiration ≤ b.expiration := by
  rw [compare_eq_compareLex, compareLex, compareOn, Ordering.then_eq_lt] at h
  rcases h with h | ⟨h, -⟩
  · exact Nat.le_of_lt (Nat.compare_eq_lt.1 h)
  · exact Nat.le_of_eq (Nat.compare_eq_eq.1 h)

end ExpiryMark

/-! ### The cap -/

/-- Rounding a hundredth up in the naturals gives the ceiling of the exact quotient. -/
theorem ceil_div_hundred (m : Nat) : ⌈(m : ℚ) / 100⌉₊ = (m + 99) / 100 := by
  apply le_antisymm
  · -- the rounded-up quotient is at least the exact one
    rw [Nat.ceil_le, div_le_iff₀ (by norm_num)]
    exact_mod_cast (show m ≤ (m + 99) / 100 * 100 by omega)
  · -- and one less than it lies below the exact one
    rcases h : (m + 99) / 100 with _ | k
    · exact Nat.zero_le _
    · rw [Nat.add_one_le_ceil_iff, lt_div_iff₀ (by norm_num)]
      exact_mod_cast (show k * 100 < m by omega)

section Cap

variable {active percent : Nat}

/-- The saturation bound is the largest 64-bit value. -/
theorem wordMax_eq : wordMax = 2 ^ 64 - 1 := rfl

/-- A sweep may always remove at least one route. -/
theorem one_le_sweepCap (active percent : Nat) : 1 ≤ sweepCap active percent :=
  Nat.le_max_left _ _

/-- Up to a hundred percent the cap is at most the number of active routes, or one when there are
none: the saturated product is still at most a hundred times the routes. -/
theorem sweepCap_le_max (h : percent ≤ 100) : sweepCap active percent ≤ max 1 active := by
  have hm : min (active * percent) wordMax ≤ active * 100 :=
    (Nat.min_le_left _ _).trans (Nat.mul_le_mul_left active h)
  unfold sweepCap
  omega

/-- Below the saturation bound the cap is the plain percentage of the routes, rounded up. -/
theorem sweepCap_of_lt (h : active * percent < 2 ^ 64) :
    sweepCap active percent = max 1 ((active * percent + 99) / 100) := by
  rw [sweepCap, Nat.min_eq_left (by rw [wordMax_eq]; omega)]

/-- The sweep cap is the ceiling of a hundredth of the product of routes and percent, saturated at
the largest 64-bit value, and at least one; computed in the naturals, it overflows nowhere. Up to a
hundred percent it lies between one and the number of active routes (one when there are none),
the saturation boundary included, and below that boundary it is the exact percentage of the
routes rounded up. -/
theorem sweepCap_ceiling_bounds (active percent : Nat) :
    sweepCap active percent = max 1 ⌈((min (active * percent) (2 ^ 64 - 1) : ℕ) : ℚ) / 100⌉₊ ∧
    (1 ≤ percent → percent ≤ 100 →
      1 ≤ sweepCap active percent ∧ sweepCap active percent ≤ max 1 active) ∧
    (active * percent < 2 ^ 64 →
      sweepCap active percent = max 1 ⌈((active * percent : ℕ) : ℚ) / 100⌉₊) := by
  refine ⟨?_, fun _ h => ⟨one_le_sweepCap active percent, sweepCap_le_max h⟩, fun h => ?_⟩
  · rw [ceil_div_hundred, sweepCap, wordMax_eq]
  · rw [sweepCap_of_lt h, ceil_div_hundred]

/-- At the saturation boundary, every route at a hundred percent, the cap stays within the routes;
below it, five percent of 21 routes is the exact share rounded up. -/
theorem sweepCap_ceiling_bounds_saturated :
    (1 ≤ 100 ∧ 100 ≤ 100 ∧ 1 ≤ sweepCap (2 ^ 64 - 1) 100 ∧
      sweepCap (2 ^ 64 - 1) 100 ≤ max 1 (2 ^ 64 - 1)) ∧
    (21 * 5 < 2 ^ 64 ∧ sweepCap 21 5 = max 1 ⌈((21 * 5 : ℕ) : ℚ) / 100⌉₊) :=
  ⟨⟨by decide, le_rfl, (sweepCap_ceiling_bounds _ 100).2.1 (by decide) le_rfl⟩,
    by decide, (sweepCap_ceiling_bounds 21 5).2.2 (by decide)⟩

example : sweepCap 0 5 = 1 ∧ sweepCap 20 5 = 1 ∧ sweepCap 21 5 = 2 ∧ sweepCap 100 50 = 50 ∧
    sweepCap 3 100 = 3 := by
  decide

/-- A configuration that passes its checks sweeps between 1 and 100 percent. -/
theorem Config.DaemonConfig.sweepPercent_of_validate {c : Config.DaemonConfig}
    (h : c.validate = .ok ()) :
    1 ≤ c.management.sweepPercent ∧ c.management.sweepPercent ≤ 100 := by
  unfold Config.DaemonConfig.validate at h
  dsimp only at h
  -- every check but the last ends in an error, so all of them passed
  split_ifs at h with hname hmetric httl hinterval hpercent
  omega

/-- Under a configuration that passes its checks, the manager's sweep cap for any number of
active routes lies between one and that number, or is one when there are none. -/
theorem Config.DaemonConfig.sweepCap_bounds_of_validate {c : Config.DaemonConfig}
    (h : c.validate = .ok ()) (active : Nat) :
    1 ≤ sweepCap active c.routeSettings.sweepPercent ∧
      sweepCap active c.routeSettings.sweepPercent ≤ max 1 active :=
  ⟨one_le_sweepCap _ _, sweepCap_le_max (c.sweepPercent_of_validate h).2⟩

end Cap

namespace RouteTable

/-- The marks of the index that are due by `now`. -/
def dueMarks (t : RouteTable) (now : Nat) : List ExpiryMark :=
  t.expiry.filter fun m => m.expiration ≤ now

/-- How many marks a sweep at `now` removes: the due marks, up to the cap computed from the
active routes before the sweep. -/
def sweepCount (t : RouteTable) (now percent : Nat) : Nat :=
  min (t.dueMarks now).length (sweepCap t.active.length percent)

section Sweep

variable {t : RouteTable}

/-- The due marks of a valid table are a front part of its expiry index. -/
theorem Valid.dueMarks_eq_takeWhile (hv : t.Valid) (now : Nat) :
    t.dueMarks now = t.expiry.takeWhile fun m => m.expiration ≤ now :=
  filter_eq_takeWhile_of_pairwise
    (fun a b hab hb => by
      simp only [decide_eq_true_eq] at hb ⊢
      exact Nat.le_trans (ExpiryMark.expiration_le_of_compare_lt hab) hb)
    hv.expiry_sorted

/-- The due marks of a valid table are a prefix of its expiry index. -/
theorem Valid.dueMarks_prefix (hv : t.Valid) (now : Nat) : t.dueMarks now <+: t.expiry := by
  rw [hv.dueMarks_eq_takeWhile]
  exact List.takeWhile_prefix _

/-- A sweep returns the first `sweepCount` marks of the index. -/
theorem Valid.sweep_snd (hv : t.Valid) (now percent : Nat) :
    (t.sweep now percent).2 = t.expiry.take (t.sweepCount now percent) := by
  have hfront : t.dueMarks now = t.expiry.take (t.dueMarks now).length :=
    List.prefix_iff_eq_take.1 (hv.dueMarks_prefix now)
  show ((t.expiry.takeWhile fun m => m.expiration ≤ now).take _) = _
  rw [← hv.dueMarks_eq_takeWhile, hfront, List.take_take, sweepCount, Nat.min_comm]

/-- A sweep removes no more marks than the index holds. -/
theorem sweepCount_le_length (t : RouteTable) (now percent : Nat) :
    t.sweepCount now percent ≤ t.expiry.length :=
  Nat.le_trans (Nat.min_le_left _ _) (List.length_filter_le _ _)

/-- A sweep removes exactly the earliest due marks up to the cap: with `k` the smaller of the
number of due marks and the cap computed before the sweep, it returns the first `k` marks of the
index in order, drops them from the index and their destinations from the active map, and keeps
every other active entry and the pending map. -/
theorem sweep_removes_earliest_due (hv : t.Valid) (now percent : Nat) :
    t.dueMarks now <+: t.expiry ∧
    (t.sweep now percent).2 = t.expiry.take (t.sweepCount now percent) ∧
    (t.sweep now percent).1.expiry = t.expiry.drop (t.sweepCount now percent) ∧
    (∀ x, (t.sweep now percent).1.activeOf x =
      if ∃ m ∈ t.expiry.take (t.sweepCount now percent), m.dest = x then none
      else t.activeOf x) ∧
    (t.sweep now percent).1.pending = t.pending := by
  have hsnd := hv.sweep_snd now percent
  have hlen : (t.sweep now percent).2.length = t.sweepCount now percent := by
    rw [hsnd, List.length_take, Nat.min_eq_left (sweepCount_le_length t now percent)]
  refine ⟨hv.dueMarks_prefix now, hsnd, ?_, fun x => ?_, rfl⟩
  · rw [sweep_fst, ← hlen]
  · rw [sweep_fst, ← hsnd]
    exact SortedMap.get?_foldl_erase ExpiryMark.dest _ hv.active_sorted x

/-- A sweep at 100, with the cap at a quarter of the active routes, of a table whose two routes
expire at 60 and 900 returns the first `sweepCount` marks of its index. -/
theorem sweep_removes_earliest_due_two_routes :
    let t := (((empty.confirmAdd (.ofV4 192 0 2 1) 60).1).confirmAdd (.ofV4 192 0 2 2) 900).1
    t.Valid ∧ (t.sweep 100 25).2 = t.expiry.take (t.sweepCount 100 25) :=
  let hv := (valid_empty.confirmAdd (.ofV4 192 0 2 1) 60).confirmAdd (.ofV4 192 0 2 2) 900
  ⟨hv, (sweep_removes_earliest_due hv 100 25).2.1⟩

end Sweep

end RouteTable

end RouteLease
