import RouteLease.Proofs.Sorted
import RouteLease.Proofs.Order
import RouteLease.Tracker

/-!
# The tracker's state stays consistent

The tracker remembers, for each local address, the broadcast or peer address it announced, and
keeps a snapshot with the local and remote addresses and the up state. Along any run of kernel
notifications (`TrackedInterface.run`) it keeps three facts (`TrackedInterface.Consistent`):

* every local address with a remembered remote is a local address of the snapshot;
* every remembered remote is a remote address of the snapshot;
* while the interface index is unknown, the snapshot says the interface is down.

When the snapshot's remote addresses are exactly the remembered ones to begin with, and every
address notification that counts carries a valid local address, they stay exactly the remembered
ones (`TrackedInterface.Announced`): a remote shared by several local addresses is kept until the
last of them is gone or announces another remote.

The lists that stand for the tracker's sets and map are sorted, as the daemon's own sets and maps
are (`TrackedInterface.WellFormed`); the list operations mean what their names say only then, and
every notification keeps them sorted.

The proof says once what a notification can do (`next_cases`, from `applyLink_fst` and
`applyAddress_fst`), proves each fact for one notification, and carries it along a run by
induction.
-/

namespace RouteLease

open Wire

namespace InterfaceConfig

/-- Adding a local address inserts it into the local addresses. -/
@[simp] theorem addLocal_locals (c : InterfaceConfig) (a : IpAddress) :
    (c.addLocal a).locals = SortedSet.insert a c.locals := rfl

/-- Adding a local address keeps the remote addresses. -/
@[simp] theorem addLocal_remotes (c : InterfaceConfig) (a : IpAddress) :
    (c.addLocal a).remotes = c.remotes := rfl

/-- Adding a local address keeps whether the interface is up. -/
@[simp] theorem addLocal_up (c : InterfaceConfig) (a : IpAddress) : (c.addLocal a).up = c.up := rfl

/-- Deleting a local address erases it from the local addresses. -/
@[simp] theorem delLocal_locals (c : InterfaceConfig) (a : IpAddress) :
    (c.delLocal a).locals = SortedSet.erase a c.locals := rfl

/-- Deleting a local address keeps the remote addresses. -/
@[simp] theorem delLocal_remotes (c : InterfaceConfig) (a : IpAddress) :
    (c.delLocal a).remotes = c.remotes := rfl

/-- Deleting a local address keeps whether the interface is up. -/
@[simp] theorem delLocal_up (c : InterfaceConfig) (a : IpAddress) : (c.delLocal a).up = c.up := rfl

/-- Adding a remote address keeps the local addresses. -/
@[simp] theorem addRemote_locals (c : InterfaceConfig) (a : IpAddress) :
    (c.addRemote a).locals = c.locals := rfl

/-- Adding a remote address inserts it into the remote addresses. -/
@[simp] theorem addRemote_remotes (c : InterfaceConfig) (a : IpAddress) :
    (c.addRemote a).remotes = SortedSet.insert a c.remotes := rfl

/-- Adding a remote address keeps whether the interface is up. -/
@[simp] theorem addRemote_up (c : InterfaceConfig) (a : IpAddress) :
    (c.addRemote a).up = c.up := rfl

/-- Deleting a remote address keeps the local addresses. -/
@[simp] theorem delRemote_locals (c : InterfaceConfig) (a : IpAddress) :
    (c.delRemote a).locals = c.locals := rfl

/-- Deleting a remote address erases it from the remote addresses. -/
@[simp] theorem delRemote_remotes (c : InterfaceConfig) (a : IpAddress) :
    (c.delRemote a).remotes = SortedSet.erase a c.remotes := rfl

/-- Deleting a remote address keeps whether the interface is up. -/
@[simp] theorem delRemote_up (c : InterfaceConfig) (a : IpAddress) :
    (c.delRemote a).up = c.up := rfl

end InterfaceConfig

namespace TrackedInterface

/-! ## Runs and the facts they keep -/

/-- The state after a notification: what `apply` leaves, or the same state when the notification
is a kernel error. -/
def next (t : TrackedInterface) (metric : UInt32) (ev : KernelEvent) : TrackedInterface :=
  match t.apply metric ev with
  | .ok (t', _) => t'
  | .error _ => t

/-- The state after notifications handled one after the other. -/
def run (t : TrackedInterface) (metric : UInt32) (evs : List KernelEvent) : TrackedInterface :=
  evs.foldl (fun t ev => t.next metric ev) t

/-- The empty run leaves the tracker as it is. -/
theorem run_nil (t : TrackedInterface) (metric : UInt32) : t.run metric [] = t := rfl

/-- A run handles its first notification, then the rest. -/
theorem run_cons (t : TrackedInterface) (metric : UInt32) (ev : KernelEvent)
    (evs : List KernelEvent) : t.run metric (ev :: evs) = (t.next metric ev).run metric evs := rfl

/-- The lists of the snapshot's address sets and of the remembered remotes are sorted. -/
structure WellFormed (t : TrackedInterface) : Prop where
  locals : SortedSet.Sorted t.config.locals
  remoteIps : SortedSet.Sorted t.config.remotes
  remotes : SortedMap.Sorted t.remotes

/-- The tracker's invariant: what it remembers is in its snapshot, and an interface whose index is
unknown is down. -/
structure Consistent (t : TrackedInterface) : Prop where
  local_mem : ∀ l r, (l, r) ∈ t.remotes → l ∈ t.config.locals
  remote_mem : ∀ l r, (l, r) ∈ t.remotes → r ∈ t.config.remotes
  down : t.ifindex = none → t.config.up = false

/-- Every remote address of the snapshot is remembered as announced by some local address. -/
def Announced (t : TrackedInterface) : Prop :=
  ∀ r ∈ t.config.remotes, ∃ l, (l, r) ∈ t.remotes

/-- An address notification that the tracker takes into account (for its index, of an IP family)
carries a valid local address. -/
def AnnouncesLocal (t : TrackedInterface) : KernelEvent → Prop
  | .address e => some e.index = t.ifindex → (e.family = 2 ∨ e.family = 10) →
      ∃ a, e.endpoints.1 = some a ∧ a.isValid = true
  | _ => True

/-- Every address notification of a run, for the index tracked when it arrives, carries a valid
local address. -/
def AnnouncesLocals (metric : UInt32) : TrackedInterface → List KernelEvent → Prop
  | _, [] => True
  | t, ev :: evs => t.AnnouncesLocal ev ∧ AnnouncesLocals metric (t.next metric ev) evs

/-! ## Snapshots and releases -/

/-- Replacing the snapshot keeps the new one, whether or not it is published. -/
theorem update_fst (t : TrackedInterface) (c : InterfaceConfig) :
    (t.update c).1 = { t with config := c } := by
  unfold update
  split
  · rename_i h
    subst h
    rfl
  · rfl

/-- Releasing a remote address keeps the local addresses. -/
@[simp] theorem releaseRemote_locals (m : List (IpAddress × IpAddress)) (c : InterfaceConfig)
    (x : IpAddress) : (releaseRemote m c x).locals = c.locals := by
  unfold releaseRemote
  split <;> rfl

/-- Releasing a remote address keeps whether the interface is up. -/
@[simp] theorem releaseRemote_up (m : List (IpAddress × IpAddress)) (c : InterfaceConfig)
    (x : IpAddress) : (releaseRemote m c x).up = c.up := by
  unfold releaseRemote
  split <;> rfl

/-- Releasing `x` drops it from the snapshot's remotes exactly when no local address still
announces it. -/
theorem mem_releaseRemote {m : List (IpAddress × IpAddress)} {c : InterfaceConfig}
    {x r : IpAddress} (hs : SortedSet.Sorted c.remotes) :
    r ∈ (releaseRemote m c x).remotes ↔ r ∈ c.remotes ∧ (r = x → ∃ l, (l, x) ∈ m) := by
  unfold releaseRemote
  split
  · rename_i h
    obtain ⟨⟨l, y⟩, hm, hy⟩ := List.any_eq_true.1 h
    simp only [beq_iff_eq] at hy
    subst hy
    exact ⟨fun h => ⟨h, fun _ => ⟨l, hm⟩⟩, fun h => h.1⟩
  · rename_i h
    have hfree : ¬ ∃ l, (l, x) ∈ m := by
      rintro ⟨l, hl⟩
      exact h (List.any_eq_true.2 ⟨(l, x), hl, by simp⟩)
    simp only [InterfaceConfig.delRemote_remotes, SortedSet.mem_erase hs]
    constructor
    · rintro ⟨hne, hr⟩
      exact ⟨hr, fun he => absurd he hne⟩
    · rintro ⟨hr, hx⟩
      exact ⟨fun he => hfree (hx he), hr⟩

/-- Releasing a remote address keeps the snapshot's remotes sorted. -/
theorem sorted_releaseRemote {m : List (IpAddress × IpAddress)} {c : InterfaceConfig}
    {x : IpAddress} (hs : SortedSet.Sorted c.remotes) :
    SortedSet.Sorted (releaseRemote m c x).remotes := by
  unfold releaseRemote
  split
  · exact hs
  · exact hs.erase x

/-- Releasing keeps every remote address that is still announced. -/
theorem values_releaseRemote {R : List (IpAddress × IpAddress)} {c : InterfaceConfig}
    {x : IpAddress} (hs : SortedSet.Sorted c.remotes) (h : ∀ l r, (l, r) ∈ R → r ∈ c.remotes) :
    ∀ l r, (l, r) ∈ R → r ∈ (releaseRemote R c x).remotes :=
  fun l r hm => (mem_releaseRemote hs).2 ⟨h l r hm, fun he => ⟨l, he ▸ hm⟩⟩

/-! ## Link notifications -/

/-- A link notification for a known index either sets the state and the type, or forgets the
index and takes the interface down. -/
theorem applyOwnLink_fst {t : TrackedInterface} {idx : UInt32} (h : t.ifindex = some idx)
    (e : LinkEvent) :
    ∃ i up ptp, (t.applyOwnLink e).1 = { t with ifindex := i, config := { t.config with up, ptp } }
      ∧ (i = none → up = false) := by
  cases hc : e.change with
  | new =>
    refine ⟨t.ifindex, e.running, e.pointToPoint, ?_, by simp [h]⟩
    simp [applyOwnLink, hc, update_fst, InterfaceConfig.setState, InterfaceConfig.setType]
  | del =>
    refine ⟨none, false, t.config.ptp, ?_, fun _ => rfl⟩
    simp [applyOwnLink, hc, update_fst, InterfaceConfig.setState]

/-- What a link notification can do: nothing, or change only the index, the state and the type,
leaving the interface down whenever it leaves the index unknown. -/
theorem applyLink_fst (t : TrackedInterface) (e : LinkEvent) :
    (t.applyLink e).1 = t ∨
      ∃ i up ptp, (t.applyLink e).1 = { t with ifindex := i, config := { t.config with up, ptp } }
        ∧ (i = none → up = false) := by
  unfold applyLink
  dsimp only
  split
  · split
    · -- the interface's own name: the index is learned first
      exact .inr (applyOwnLink_fst (t := { t with ifindex := some e.index }) rfl e)
    · split
      · -- another name on the tracked index: renamed away
        exact .inr ⟨none, false, t.config.ptp, by simp [update_fst, InterfaceConfig.setState],
          fun _ => rfl⟩
      · exact .inl rfl
  · split
    · rename_i htr
      exact .inr (applyOwnLink_fst (by simpa using htr) e)
    · exact .inl rfl

/-! ## Address notifications -/

/-- Setting the remote of a local address keeps every key of the map among the local addresses, once
that address is added to them. -/
theorem keys_insert {R : List (IpAddress × IpAddress)} {L : List IpAddress} {a b : IpAddress}
    (h : ∀ l r, (l, r) ∈ R → l ∈ L) :
    ∀ l r, (l, r) ∈ SortedMap.insert a b R → l ∈ SortedSet.insert a L := by
  intro l r hm
  rcases SortedMap.mem_of_mem_insert hm with he | hm
  · cases he
    exact SortedSet.mem_insert.2 (.inl rfl)
  · exact SortedSet.mem_insert.2 (.inr (h l r hm))

/-- Setting the remote of a local address keeps every value of the map among the remote addresses,
once that remote is added to them. -/
theorem values_insert {R : List (IpAddress × IpAddress)} {C : List IpAddress} {a b : IpAddress}
    (h : ∀ l r, (l, r) ∈ R → r ∈ C) :
    ∀ l r, (l, r) ∈ SortedMap.insert a b R → r ∈ SortedSet.insert b C := by
  intro l r hm
  rcases SortedMap.mem_of_mem_insert hm with he | hm
  · cases he
    exact SortedSet.mem_insert.2 (.inl rfl)
  · exact SortedSet.mem_insert.2 (.inr (h l r hm))

/-- Forgetting a local address in the map and in the snapshot keeps every key of the map among the
local addresses. -/
theorem keys_erase {R : List (IpAddress × IpAddress)} {L : List IpAddress} {a : IpAddress}
    (hR : SortedMap.Sorted R) (hL : SortedSet.Sorted L) (h : ∀ l r, (l, r) ∈ R → l ∈ L) :
    ∀ l r, (l, r) ∈ SortedMap.erase a R → l ∈ SortedSet.erase a L := by
  intro l r hm
  obtain ⟨hm, hne⟩ := (SortedMap.mem_erase hR).1 hm
  exact (SortedSet.mem_erase hL).2 ⟨hne, h l r hm⟩

/-- Forgetting a local address in the map keeps every value of the map among the remote addresses.
-/
theorem values_erase {R : List (IpAddress × IpAddress)} {C : List IpAddress} {a : IpAddress}
    (hR : SortedMap.Sorted R) (h : ∀ l r, (l, r) ∈ R → r ∈ C) :
    ∀ l r, (l, r) ∈ SortedMap.erase a R → r ∈ C :=
  fun l r hm => h l r ((SortedMap.mem_erase hR).1 hm).1

/-- An entry of a map stays after setting another key, and otherwise it is the key's value. -/
theorem mem_insert_or_get? {R : List (IpAddress × IpAddress)} (hR : SortedMap.Sorted R)
    {l r : IpAddress} (hm : (l, r) ∈ R) (a b : IpAddress) :
    (l, r) ∈ SortedMap.insert a b R ∨ SortedMap.get? a R = some r := by
  by_cases he : l = a
  · subst he
    exact .inr ((SortedMap.get?_eq_some_iff hR).2 hm)
  · exact .inl ((SortedMap.mem_insert hR).2 (.inr ⟨hm, he⟩))

/-- An entry of a map stays after erasing another key, and otherwise it is the key's value. -/
theorem mem_erase_or_get? {R : List (IpAddress × IpAddress)} (hR : SortedMap.Sorted R)
    {l r : IpAddress} (hm : (l, r) ∈ R) (a : IpAddress) :
    (l, r) ∈ SortedMap.erase a R ∨ SortedMap.get? a R = some r := by
  by_cases he : l = a
  · subst he
    exact .inr ((SortedMap.get?_eq_some_iff hR).2 hm)
  · exact .inl ((SortedMap.mem_erase hR).2 ⟨hm, he⟩)

/-- A new address keeps the snapshot's sets and the map of remotes sorted. -/
theorem WellFormed.addAddress {t : TrackedInterface} (hw : t.WellFormed) (l r : Option IpAddress) :
    (t.addAddress l r).1.WellFormed := by
  obtain ⟨hl, hr, hm⟩ := hw
  cases hlv : l.filter IpAddress.isValid with
  | none =>
    cases hrv : r.filter IpAddress.isValid with
    | none => simpa [TrackedInterface.addAddress, hlv, hrv, update_fst] using ⟨hl, hr, hm⟩
    | some ip =>
      simpa [TrackedInterface.addAddress, hlv, hrv, update_fst] using ⟨hl, hr.insert ip, hm⟩
  | some lv =>
    cases hrv : r.filter IpAddress.isValid with
    | none =>
      simpa [TrackedInterface.addAddress, hlv, hrv, update_fst] using ⟨hl.insert lv, hr, hm⟩
    | some ip =>
      cases hg : SortedMap.get? lv t.remotes with
      | none =>
        simpa [TrackedInterface.addAddress, hlv, hrv, hg, update_fst] using
          ⟨hl.insert lv, hr.insert ip, hm.insert lv ip⟩
      | some old =>
        simp only [TrackedInterface.addAddress, hlv, hrv, hg, update_fst]
        exact ⟨by simpa using hl.insert lv, sorted_releaseRemote (hr.insert ip), hm.insert lv ip⟩

/-- A new address keeps what the tracker remembers in its snapshot, and keeps an interface of
unknown index down. -/
theorem Consistent.addAddress {t : TrackedInterface} (hw : t.WellFormed) (hc : t.Consistent)
    (l r : Option IpAddress) : (t.addAddress l r).1.Consistent := by
  obtain ⟨hl, hr, hm⟩ := hw
  obtain ⟨hloc, hrem, hdown⟩ := hc
  cases hlv : l.filter IpAddress.isValid with
  | none =>
    cases hrv : r.filter IpAddress.isValid with
    | none =>
      simp only [TrackedInterface.addAddress, hlv, hrv, update_fst]
      exact ⟨hloc, hrem, hdown⟩
    | some ip =>
      simp only [TrackedInterface.addAddress, hlv, hrv, update_fst]
      exact ⟨hloc, fun l' r' h => SortedSet.mem_insert.2 (.inr (hrem l' r' h)), hdown⟩
  | some lv =>
    cases hrv : r.filter IpAddress.isValid with
    | none =>
      simp only [TrackedInterface.addAddress, hlv, hrv, update_fst]
      exact ⟨fun l' r' h => SortedSet.mem_insert.2 (.inr (hloc l' r' h)), hrem, hdown⟩
    | some ip =>
      cases hg : SortedMap.get? lv t.remotes with
      | none =>
        simp only [TrackedInterface.addAddress, hlv, hrv, hg, update_fst]
        exact ⟨keys_insert hloc, values_insert hrem, hdown⟩
      | some old =>
        -- the replaced remote is released against the new map, which announces `ip`
        simp only [TrackedInterface.addAddress, hlv, hrv, hg, update_fst]
        exact ⟨by simpa using keys_insert hloc,
          values_releaseRemote (hr.insert ip) (values_insert hrem), by simpa using hdown⟩

/-- A new address with a valid local address keeps every remote of the snapshot announced: the
new remote is announced by the local address, and the remote it replaces is dropped unless
another local address still announces it. -/
theorem Announced.addAddress {t : TrackedInterface} (hw : t.WellFormed) (ha : t.Announced)
    {l : Option IpAddress} {a : IpAddress} (hl : l = some a) (hv : a.isValid = true)
    (r : Option IpAddress) : (t.addAddress l r).1.Announced := by
  obtain ⟨hls, hr, hm⟩ := hw
  have hlv : l.filter IpAddress.isValid = some a := by simp [hl, hv]
  cases hrv : r.filter IpAddress.isValid with
  | none =>
    simp only [TrackedInterface.addAddress, hlv, hrv, update_fst]
    exact ha
  | some ip =>
    have hnew : (a, ip) ∈ SortedMap.insert a ip t.remotes := (SortedMap.mem_insert hm).2 (.inl rfl)
    cases hg : SortedMap.get? a t.remotes with
    | none =>
      simp only [TrackedInterface.addAddress, hlv, hrv, hg, update_fst]
      intro r' hr'
      rcases SortedSet.mem_insert.1 (by simpa using hr') with rfl | hr'
      · exact ⟨a, hnew⟩
      · obtain ⟨l', hl'⟩ := ha r' hr'
        rcases mem_insert_or_get? hm hl' a ip with hk | hk
        · exact ⟨l', hk⟩
        · simp [hk] at hg
    | some old =>
      simp only [TrackedInterface.addAddress, hlv, hrv, hg, update_fst]
      intro r' hr'
      obtain ⟨hr', hx⟩ := (mem_releaseRemote (hr.insert ip)).1 (by simpa using hr')
      rcases SortedSet.mem_insert.1 hr' with rfl | hr'
      · exact ⟨a, hnew⟩
      · obtain ⟨l', hl'⟩ := ha r' hr'
        rcases mem_insert_or_get? hm hl' a ip with hk | hk
        · exact ⟨l', hk⟩
        · -- `r'` was the remote of `a` and has been released
          rw [hk, Option.some.injEq] at hg
          exact hg ▸ hx hg

/-- A deleted address keeps the snapshot's sets and the map of remotes sorted. -/
theorem WellFormed.deleteAddress {t : TrackedInterface} (hw : t.WellFormed)
    (l r : Option IpAddress) : (t.deleteAddress l r).1.WellFormed := by
  obtain ⟨hl, hr, hm⟩ := hw
  cases l with
  | none =>
    cases r with
    | none => simpa [TrackedInterface.deleteAddress, update_fst] using ⟨hl, hr, hm⟩
    | some x =>
      simp only [TrackedInterface.deleteAddress, Option.or, update_fst]
      exact ⟨by simpa using hl, sorted_releaseRemote hr, hm⟩
  | some ip =>
    cases h : (SortedMap.get? ip t.remotes).or r with
    | none =>
      simp only [TrackedInterface.deleteAddress, h, update_fst]
      exact ⟨hl.erase ip, hr, hm.erase ip⟩
    | some x =>
      simp only [TrackedInterface.deleteAddress, h, update_fst]
      exact ⟨by simpa using hl.erase ip, sorted_releaseRemote hr, hm.erase ip⟩

/-- A deleted address keeps what the tracker remembers in its snapshot, and keeps an interface of
unknown index down. -/
theorem Consistent.deleteAddress {t : TrackedInterface} (hw : t.WellFormed) (hc : t.Consistent)
    (l r : Option IpAddress) : (t.deleteAddress l r).1.Consistent := by
  obtain ⟨hl, hr, hm⟩ := hw
  obtain ⟨hloc, hrem, hdown⟩ := hc
  cases l with
  | none =>
    cases r with
    | none => simpa [TrackedInterface.deleteAddress, update_fst] using ⟨hloc, hrem, hdown⟩
    | some x =>
      simp only [TrackedInterface.deleteAddress, Option.or, update_fst]
      exact ⟨by simpa using hloc, values_releaseRemote hr hrem, by simpa using hdown⟩
  | some ip =>
    cases h : (SortedMap.get? ip t.remotes).or r with
    | none =>
      simp only [TrackedInterface.deleteAddress, h, update_fst]
      exact ⟨keys_erase hm hl hloc, values_erase hm hrem, hdown⟩
    | some x =>
      simp only [TrackedInterface.deleteAddress, h, update_fst]
      exact ⟨by simpa using keys_erase hm hl hloc, values_releaseRemote hr (values_erase hm hrem),
        by simpa using hdown⟩

/-- A deleted address keeps every remote of the snapshot announced: the remote that the local
address announced is the one released, and it is dropped only when no other local address
announces it. -/
theorem Announced.deleteAddress {t : TrackedInterface} (hw : t.WellFormed) (ha : t.Announced)
    (l r : Option IpAddress) : (t.deleteAddress l r).1.Announced := by
  obtain ⟨hl, hr, hm⟩ := hw
  cases l with
  | none =>
    cases r with
    | none => simpa [TrackedInterface.deleteAddress, update_fst] using ha
    | some x =>
      simp only [TrackedInterface.deleteAddress, Option.or, update_fst]
      intro r' hr'
      exact ha r' ((mem_releaseRemote hr).1 hr').1
  | some ip =>
    cases h : (SortedMap.get? ip t.remotes).or r with
    | none =>
      simp only [TrackedInterface.deleteAddress, h, update_fst]
      intro r' hr'
      obtain ⟨l', hl'⟩ := ha r' hr'
      rcases mem_erase_or_get? hm hl' ip with hk | hk
      · exact ⟨l', hk⟩
      · simp [hk] at h
    | some x =>
      simp only [TrackedInterface.deleteAddress, h, update_fst]
      have hs : SortedSet.Sorted (t.config.delLocal ip).remotes := hr
      intro r' hr'
      obtain ⟨hr', hx⟩ := (mem_releaseRemote hs).1 hr'
      obtain ⟨l', hl'⟩ := ha r' hr'
      rcases mem_erase_or_get? hm hl' ip with hk | hk
      · exact ⟨l', hk⟩
      · -- `r'` was the remote of `ip`, which is the one released
        rw [hk, Option.some_or, Option.some.injEq] at h
        exact h ▸ hx h

/-- What an address notification can do: nothing, or, for the tracked index and an IP family, add
or delete its endpoints. -/
theorem applyAddress_fst (t : TrackedInterface) (e : AddressEvent) :
    (t.applyAddress e).1 = t ∨
      some e.index = t.ifindex ∧ (e.family = 2 ∨ e.family = 10) ∧
        (e.change = .new ∧ (t.applyAddress e).1 = (t.addAddress e.endpoints.1 e.endpoints.2).1 ∨
          (t.applyAddress e).1 = (t.deleteAddress e.endpoints.1 e.endpoints.2).1) := by
  unfold applyAddress
  by_cases hi : some e.index = t.ifindex
  · by_cases hf : e.family ≠ 2 ∧ e.family ≠ 10
    · exact .inl (by simp [hi, hf])
    · have hf' : e.family = 2 ∨ e.family = 10 := by
        simp only [ne_eq, not_and, Decidable.not_not] at hf
        by_cases h2 : e.family = 2
        · exact .inl h2
        · exact .inr (hf h2)
      refine .inr ⟨hi, hf', ?_⟩
      cases e.change <;> simp [hi, hf]
  · exact .inl (by simp [hi])

/-! ## One notification, then a run -/

/-- A kernel error leaves the tracker as it is. -/
theorem next_error (t : TrackedInterface) (metric : UInt32) (n : Int) :
    t.next metric (.error n) = t := by
  by_cases hn : n = 0 <;> simp [next, apply, hn]

/-- What one notification can do: nothing; or change only the index, the state and the type,
leaving the interface down when the index is unknown; or, for an address notification of the
tracked index and an IP family, add or delete its endpoints. -/
theorem next_cases (t : TrackedInterface) (metric : UInt32) (ev : KernelEvent) :
    t.next metric ev = t ∨
      (∃ i up ptp, t.next metric ev = { t with ifindex := i, config := { t.config with up, ptp } }
        ∧ (i = none → up = false)) ∨
      ∃ e, ev = .address e ∧ some e.index = t.ifindex ∧ (e.family = 2 ∨ e.family = 10) ∧
        (t.next metric ev = (t.addAddress e.endpoints.1 e.endpoints.2).1 ∨
          t.next metric ev = (t.deleteAddress e.endpoints.1 e.endpoints.2).1) := by
  cases ev with
  | link e =>
    rcases applyLink_fst t e with h | h
    · exact .inl h
    · exact .inr (.inl h)
  | address e =>
    rcases applyAddress_fst t e with h | ⟨hi, hf, ⟨-, h⟩ | h⟩
    · exact .inl h
    · exact .inr (.inr ⟨e, rfl, hi, hf, .inl h⟩)
    · exact .inr (.inr ⟨e, rfl, hi, hf, .inr h⟩)
  | route e => exact .inl rfl
  | done => exact .inl rfl
  | other n => exact .inl rfl
  | error n => exact .inl (next_error t metric n)

/-- Every notification keeps the snapshot's sets and the map of remotes sorted. -/
theorem WellFormed.next {t : TrackedInterface} (hw : t.WellFormed) (metric : UInt32)
    (ev : KernelEvent) : (t.next metric ev).WellFormed := by
  rcases next_cases t metric ev with h | ⟨i, up, ptp, h, -⟩ | ⟨e, -, -, -, h | h⟩ <;> rw [h]
  · exact hw
  · exact ⟨hw.1, hw.2, hw.3⟩
  · exact hw.addAddress _ _
  · exact hw.deleteAddress _ _

/-- Every notification keeps the tracker consistent with its snapshot. -/
theorem Consistent.next {t : TrackedInterface} (hw : t.WellFormed) (hc : t.Consistent)
    (metric : UInt32) (ev : KernelEvent) : (t.next metric ev).Consistent := by
  rcases next_cases t metric ev with h | ⟨i, up, ptp, h, hi⟩ | ⟨e, -, -, -, h | h⟩ <;> rw [h]
  · exact hc
  · exact ⟨hc.1, hc.2, hi⟩
  · exact hc.addAddress hw _ _
  · exact hc.deleteAddress hw _ _

/-- A notification that carries a valid local address whenever the tracker takes it into account
keeps every remote of the snapshot announced. -/
theorem Announced.next {t : TrackedInterface} (hw : t.WellFormed) (ha : t.Announced)
    (metric : UInt32) {ev : KernelEvent} (hl : t.AnnouncesLocal ev) :
    (t.next metric ev).Announced := by
  rcases next_cases t metric ev with h | ⟨i, up, ptp, h, -⟩ | ⟨e, rfl, hi, hf, h | h⟩ <;> rw [h]
  · exact ha
  · exact ha
  · -- only a new address needs the valid local address
    obtain ⟨a, ha', hv⟩ := hl hi hf
    exact ha.addAddress hw ha' hv _
  · exact ha.deleteAddress hw _ _

/-- The snapshot's sets and the map of remotes stay sorted along every run. -/
theorem WellFormed.run {t : TrackedInterface} (hw : t.WellFormed) (metric : UInt32)
    (evs : List KernelEvent) : (t.run metric evs).WellFormed := by
  induction evs generalizing t with
  | nil => exact hw
  | cons ev evs ih => exact ih (hw.next metric ev)

/-- The tracker stays consistent with its snapshot along every run. -/
theorem Consistent.run {t : TrackedInterface} (hw : t.WellFormed) (hc : t.Consistent)
    (metric : UInt32) (evs : List KernelEvent) : (t.run metric evs).Consistent := by
  induction evs generalizing t with
  | nil => exact hc
  | cons ev evs ih => exact ih (hw.next metric ev) (hc.next hw metric ev)

/-- Every remote of the snapshot stays announced along a run whose address notifications carry valid
local addresses. -/
theorem Announced.run {t : TrackedInterface} (hw : t.WellFormed) (ha : t.Announced)
    (metric : UInt32) {evs : List KernelEvent} (hl : AnnouncesLocals metric t evs) :
    (t.run metric evs).Announced := by
  induction evs generalizing t with
  | nil => exact ha
  | cons ev evs ih => exact ih (hw.next metric ev) (ha.next hw metric hl.1) hl.2

/-- Whether the tracker takes a notification into account does not matter when every address
notification of the run carries a valid local address. -/
theorem announcesLocals_of_valid_locals (metric : UInt32) (t : TrackedInterface)
    {evs : List KernelEvent}
    (h : ∀ e, KernelEvent.address e ∈ evs → ∃ a, e.endpoints.1 = some a ∧ a.isValid = true) :
    AnnouncesLocals metric t evs := by
  induction evs generalizing t with
  | nil => trivial
  | cons ev evs ih =>
    refine ⟨?_, ih _ fun e he => h e (List.mem_cons_of_mem _ he)⟩
    cases ev with
    | address e => exact fun _ _ => h e List.mem_cons_self
    | _ => trivial

/-- Along every run of notifications from a consistent tracker, the tracker stays consistent; and
when the snapshot's remote addresses are exactly the remembered remotes at the start, and every
address notification that counts carries a valid local address, they stay exactly the remembered
remotes. -/
theorem remotes_tracked_along_run (t : TrackedInterface) (metric : UInt32)
    (evs : List KernelEvent) (hw : t.WellFormed) (hc : t.Consistent) :
    (t.run metric evs).WellFormed ∧ (t.run metric evs).Consistent ∧
      ((∀ x, x ∈ t.config.remotes ↔ ∃ l, (l, x) ∈ t.remotes) → AnnouncesLocals metric t evs →
        ∀ x, x ∈ (t.run metric evs).config.remotes ↔ ∃ l, (l, x) ∈ (t.run metric evs).remotes) := by
  refine ⟨hw.run metric evs, hc.run hw metric evs, fun heq hl x => ?_⟩
  have ha : t.Announced := fun x hx => (heq x).1 hx
  exact ⟨ha.run hw metric hl x, fun ⟨l, hm⟩ => (hc.run hw metric evs).remote_mem l x hm⟩

/-- Two local addresses share the broadcast address 10.0.0.255; when the first is deleted, the
broadcast stays, announced by the second, and the tracker stays consistent. -/
theorem remotes_tracked_shared_broadcast :
    let t := TrackedInterface.run { name := "eth0", ifindex := some 2 } 100
      [.address ⟨.new, 2, 24, 2, some (.ofV4 10 0 0 2), some (.ofV4 10 0 0 2),
          some (.ofV4 10 0 0 255)⟩,
       .address ⟨.new, 2, 24, 2, some (.ofV4 10 0 0 3), some (.ofV4 10 0 0 3),
          some (.ofV4 10 0 0 255)⟩,
       .address ⟨.del, 2, 24, 2, some (.ofV4 10 0 0 2), some (.ofV4 10 0 0 2),
          some (.ofV4 10 0 0 255)⟩]
    t.WellFormed ∧ t.Consistent ∧ ∀ x, x ∈ t.config.remotes ↔ ∃ l, (l, x) ∈ t.remotes := by
  intro t
  obtain ⟨hw, hc, hrem⟩ := remotes_tracked_along_run { name := "eth0", ifindex := some 2 } 100 _
    ⟨SortedSet.sorted_nil, SortedSet.sorted_nil, SortedMap.sorted_nil⟩ ⟨by simp, by simp, by simp⟩
  refine ⟨hw, hc, hrem (by simp) (announcesLocals_of_valid_locals _ _ ?_)⟩
  intro e he
  simp only [List.mem_cons, KernelEvent.address.injEq, List.not_mem_nil, or_false] at he
  rcases he with rfl | rfl | rfl <;> exact ⟨_, rfl, rfl⟩

end TrackedInterface

end RouteLease
