import RouteLease.Order.Sorted

/-!
# Sorted lists as sets and maps

The daemon's sets and maps are lists kept strictly ascending by the order of their keys
(`Keyed.Sorted`): a map's entries are keyed by their first component, and a set's elements are
their own keys. Under that invariant the list operations mean what their names say: `find?` finds
the one entry a key has, `insert` adds its entry and drops only the entry of the same key, and
`erase` removes exactly the entries of its key. Each operation keeps the list sorted.

These facts are proved once, for any key function, and then read for sets through membership and
for maps through `get?`, so that the route table's invariants can be proved without unfolding a
list operation again.
-/

namespace RouteLease

section Order

variable {α : Type} [Ord α] [Std.TransOrd α]

/-- No element comes before itself. -/
theorem compare_self_ne_lt (a : α) : compare a a ≠ .lt := by
  simp

/-- The strict order is asymmetric. -/
theorem compare_ne_lt_of_lt {a b : α} (h : compare a b = .lt) : compare b a ≠ .lt := by
  rw [Std.OrientedCmp.gt_of_lt h]
  simp

/-- Two elements of which one comes first are different. -/
theorem ne_of_compare_lt {a b : α} (h : compare a b = .lt) : a ≠ b := by
  rintro rfl
  exact compare_self_ne_lt a h

end Order

namespace Keyed

variable {α κ : Type} [Ord κ] {key : α → κ}

/-- A keyed list: strictly ascending by key, so each key has at most one entry. -/
def Sorted (key : α → κ) (l : List α) : Prop :=
  l.Pairwise fun a b => compare (key a) (key b) = .lt

/-- Nothing is found in the empty list. -/
@[simp] theorem find?_nil (k : κ) : find? key k [] = none := rfl

/-- The empty list is sorted. -/
theorem sorted_nil : Sorted key [] :=
  List.Pairwise.nil

/-- A sublist of a sorted list is sorted too. -/
theorem Sorted.sublist {l l' : List α} (h : Sorted key l) (hs : l'.Sublist l) : Sorted key l' :=
  List.Pairwise.sublist hs h

/-- Erasing drops entries and keeps the others in their order. -/
theorem erase_sublist (k : κ) (l : List α) : (erase key k l).Sublist l := by
  induction l with
  | nil => exact List.Sublist.slnil
  | cons b bs ih =>
    cases hc : compare k (key b) with
    | lt => simp [erase, hc]
    | eq => simp [erase, hc]
    | gt => simpa [erase, hc] using ih

/-- Erasing keeps a list sorted. -/
theorem Sorted.erase {l : List α} (h : Sorted key l) (k : κ) : Sorted key (erase key k l) :=
  h.sublist (erase_sublist k l)

/-- Every entry after inserting is the new one or an old one. -/
theorem mem_of_mem_insert {a x : α} {l : List α} (hx : x ∈ insert key a l) : x = a ∨ x ∈ l := by
  induction l with
  | nil => simpa [insert] using hx
  | cons b bs ih =>
    rw [List.mem_cons]
    cases hc : compare (key a) (key b) with
    | lt =>
      simp only [insert, hc, List.mem_cons] at hx
      exact hx
    | eq =>
      simp only [insert, hc, List.mem_cons] at hx
      exact hx.imp_right Or.inr
    | gt =>
      simp only [insert, hc, List.mem_cons] at hx
      rcases hx with rfl | hx
      · exact Or.inr (Or.inl rfl)
      · exact (ih hx).imp_right Or.inr

/-- The inserted entry is in the list. -/
theorem mem_insert_self (a : α) (l : List α) : a ∈ insert key a l := by
  induction l with
  | nil => simp [insert]
  | cons b bs ih =>
    cases hc : compare (key a) (key b) with
    | lt => simp [insert, hc]
    | eq => simp [insert, hc]
    | gt => simp [insert, hc, ih]

section LawfulEq

variable [Std.LawfulEqOrd κ]

/-- Inserting keeps every entry of another key. -/
theorem mem_insert_of_mem {a x : α} {l : List α} (hx : x ∈ l) (hk : key x ≠ key a) :
    x ∈ insert key a l := by
  induction l with
  | nil => cases hx
  | cons b bs ih =>
    cases hc : compare (key a) (key b) with
    | lt =>
      simp only [insert, hc]
      exact List.mem_cons_of_mem _ hx
    | eq =>
      -- the replaced entry has the new key, so it is not `x`
      have hb : key a = key b := Std.LawfulEqOrd.eq_of_compare hc
      rcases List.mem_cons.mp hx with rfl | hx
      · exact absurd hb.symm hk
      · simp [insert, hc, hx]
    | gt =>
      rcases List.mem_cons.mp hx with rfl | hx
      · simp [insert, hc]
      · simp [insert, hc, ih hx]

/-- Erasing the key of an entry just inserted into a list without that key gives the list back. -/
theorem erase_insert {a : α} {l : List α} (ha : ∀ b ∈ l, key b ≠ key a) :
    erase key (key a) (insert key a l) = l := by
  induction l with
  | nil => simp [insert, erase]
  | cons b bs ih =>
    rw [List.forall_mem_cons] at ha
    cases hc : compare (key a) (key b) with
    | lt => simp [insert, erase, hc]
    | eq => exact absurd (Std.LawfulEqOrd.eq_of_compare hc).symm ha.1
    | gt => simp [insert, erase, hc, ih ha.2]

end LawfulEq

variable [Std.TransOrd κ]

/-- Inserting keeps a list sorted. -/
theorem Sorted.insert {l : List α} (h : Sorted key l) (a : α) : Sorted key (insert key a l) := by
  induction l with
  | nil => exact List.pairwise_singleton _ a
  | cons b bs ih =>
    rw [Sorted, List.pairwise_cons] at h
    cases hc : compare (key a) (key b) with
    | lt =>
      simp only [Keyed.insert, hc]
      refine List.Pairwise.cons ?_ (List.Pairwise.cons h.1 h.2)
      intro y hy
      rcases List.mem_cons.mp hy with rfl | hy
      · exact hc
      · exact Std.TransCmp.lt_trans hc (h.1 y hy)
    | eq =>
      -- the new entry takes the old one's place, before the same tail
      simp only [Keyed.insert, hc]
      exact List.Pairwise.cons (fun y hy => Std.TransCmp.lt_of_eq_of_lt hc (h.1 y hy)) h.2
    | gt =>
      simp only [Keyed.insert, hc]
      refine List.Pairwise.cons ?_ (ih h.2)
      intro y hy
      rcases mem_of_mem_insert hy with rfl | hy
      · exact Std.OrientedCmp.lt_of_gt hc
      · exact h.1 y hy

/-- Entries of a sorted list have different keys, so none is repeated. -/
theorem Sorted.nodup {l : List α} (h : Sorted key l) : l.Nodup :=
  List.Pairwise.imp (fun hab he => ne_of_compare_lt hab (congrArg key he)) h

/-- A sorted list is determined by its entries: two sorted lists with the same entries are
equal. -/
theorem Sorted.eq_of_mem_iff {l₁ l₂ : List α} (h₁ : Sorted key l₁) (h₂ : Sorted key l₂)
    (h : ∀ a, a ∈ l₁ ↔ a ∈ l₂) : l₁ = l₂ :=
  ((List.perm_ext_iff_of_nodup h₁.nodup h₂.nodup).2 h).eq_of_pairwise
    (fun _ _ _ _ hab hba => absurd hba (compare_ne_lt_of_lt hab)) h₁ h₂

/-- In a sorted list, no entry after the head has a key at or before the head's. -/
theorem Sorted.key_ne_of_mem_tail {b : α} {bs : List α} (h : Sorted key (b :: bs)) {k : κ}
    (hk : compare k (key b) ≠ .gt) {y : α} (hy : y ∈ bs) : key y ≠ k := by
  intro hyk
  apply hk
  rw [← hyk]
  exact Std.OrientedCmp.gt_of_lt (List.rel_of_pairwise_cons h hy)

/-- Looking up the key of an inserted entry finds it. -/
theorem find?_insert_self (a : α) (l : List α) : find? key (key a) (insert key a l) = some a := by
  induction l with
  | nil => simp [insert, find?]
  | cons b bs ih =>
    cases hb : compare (key a) (key b) with
    | lt => simp [insert, find?, hb]
    | eq => simp [insert, find?, hb]
    | gt => simp [insert, find?, hb, ih]

variable [Std.LawfulEqOrd κ]

/-- Inserting an entry leaves the lookups of every other key as they were. -/
theorem find?_insert_of_ne {a : α} {k : κ} (hk : k ≠ key a) (l : List α) :
    find? key k (insert key a l) = find? key k l := by
  induction l with
  | nil =>
    cases hc : compare k (key a) with
    | lt => simp [insert, find?, hc]
    | eq => exact absurd (Std.LawfulEqOrd.eq_of_compare hc) hk
    | gt => simp [insert, find?, hc]
  | cons b bs ih =>
    cases hb : compare (key a) (key b) with
    | lt =>
      -- the new entry goes first, and a key before it is before the old head too
      cases hc : compare k (key a) with
      | lt => simp [insert, find?, hb, hc, Std.TransCmp.lt_trans hc hb]
      | eq => exact absurd (Std.LawfulEqOrd.eq_of_compare hc) hk
      | gt => simp [insert, find?, hb, hc]
    | eq =>
      -- the new entry replaces the old head, under the same key
      have hab : key a = key b := Std.LawfulEqOrd.eq_of_compare hb
      cases hc : compare k (key a) with
      | lt => simp [insert, find?, ← hab, hc]
      | eq => exact absurd (Std.LawfulEqOrd.eq_of_compare hc) hk
      | gt => simp [insert, find?, ← hab, hc]
    | gt =>
      -- the new entry goes further in, past the old head
      cases hc : compare k (key b) with
      | lt => simp [insert, find?, hb, hc]
      | eq => simp [insert, find?, hb, hc]
      | gt => simp [insert, find?, hb, hc, ih]

/-- A lookup after inserting finds the new entry at its key and the old entries elsewhere. -/
theorem find?_insert [DecidableEq κ] (a : α) (k : κ) (l : List α) :
    find? key k (insert key a l) = if k = key a then some a else find? key k l := by
  by_cases hk : k = key a
  · rw [if_pos hk, hk, find?_insert_self]
  · rw [if_neg hk, find?_insert_of_ne hk]

/-- In a sorted list, a lookup finds exactly the entry of its key. -/
theorem find?_eq_some_iff {l : List α} (h : Sorted key l) {k : κ} {a : α} :
    find? key k l = some a ↔ a ∈ l ∧ key a = k := by
  induction l with
  | nil => simp [find?]
  | cons b bs ih =>
    cases hc : compare k (key b) with
    | lt =>
      simp only [find?, hc, reduceCtorEq, false_iff, List.mem_cons, not_and]
      rintro (rfl | ha) hk
      · rw [hk] at hc
        exact compare_self_ne_lt k hc
      · exact h.key_ne_of_mem_tail (by simp [hc]) ha hk
    | eq =>
      have hk : k = key b := Std.LawfulEqOrd.eq_of_compare hc
      subst hk
      simp only [find?, hc, Option.some.injEq, List.mem_cons]
      constructor
      · rintro rfl
        exact ⟨Or.inl rfl, rfl⟩
      · rintro ⟨rfl | ha, hk⟩
        · rfl
        · exact absurd hk (h.key_ne_of_mem_tail (by simp) ha)
    | gt =>
      have hne : key b ≠ k := ne_of_compare_lt (Std.OrientedCmp.lt_of_gt hc)
      simp only [find?, hc, ih (List.Pairwise.of_cons h), List.mem_cons]
      constructor
      · rintro ⟨ha, hk⟩
        exact ⟨Or.inr ha, hk⟩
      · rintro ⟨rfl | ha, hk⟩
        · exact absurd hk hne
        · exact ⟨ha, hk⟩

/-- Two entries of one key in a sorted list are the same entry. -/
theorem Sorted.eq_of_key_eq {l : List α} (h : Sorted key l) {a b : α} (ha : a ∈ l) (hb : b ∈ l)
    (hk : key a = key b) : a = b := by
  have hfa : find? key (key a) l = some a := (find?_eq_some_iff h).2 ⟨ha, rfl⟩
  have hfb : find? key (key a) l = some b := (find?_eq_some_iff h).2 ⟨hb, hk.symm⟩
  exact Option.some.inj (hfa.symm.trans hfb)

/-- Inserting into a sorted list adds the entry and keeps the entries of every other key. -/
theorem mem_insert {l : List α} (h : Sorted key l) {a x : α} :
    x ∈ insert key a l ↔ x = a ∨ (x ∈ l ∧ key x ≠ key a) := by
  constructor
  · intro hx
    rcases mem_of_mem_insert hx with rfl | hxl
    · exact Or.inl rfl
    -- an old entry of the new key would be a second entry of that key
    by_cases hxa : x = a
    · exact Or.inl hxa
    · exact Or.inr ⟨hxl, fun hk => hxa ((h.insert a).eq_of_key_eq hx (mem_insert_self a l) hk)⟩
  · rintro (rfl | ⟨hx, hk⟩)
    · exact mem_insert_self _ l
    · exact mem_insert_of_mem hx hk

/-- Erasing from a sorted list removes exactly the entries of the key. -/
theorem mem_erase {l : List α} (h : Sorted key l) {k : κ} {x : α} :
    x ∈ erase key k l ↔ x ∈ l ∧ key x ≠ k := by
  induction l with
  | nil => simp [erase]
  | cons b bs ih =>
    cases hc : compare k (key b) with
    | lt =>
      -- the key comes before every entry, so no entry has it
      simp only [erase, hc]
      refine ⟨fun hx => ⟨hx, ?_⟩, fun hx => hx.1⟩
      rcases List.mem_cons.mp hx with rfl | hx
      · intro hk
        rw [hk] at hc
        exact compare_self_ne_lt k hc
      · exact h.key_ne_of_mem_tail (by simp [hc]) hx
    | eq =>
      have hk : k = key b := Std.LawfulEqOrd.eq_of_compare hc
      subst hk
      simp only [erase, hc, List.mem_cons]
      refine ⟨fun hx => ⟨Or.inr hx, h.key_ne_of_mem_tail (by simp) hx⟩, ?_⟩
      rintro ⟨rfl | hx, hk⟩
      · exact absurd rfl hk
      · exact hx
    | gt =>
      have hb : key b ≠ k := ne_of_compare_lt (Std.OrientedCmp.lt_of_gt hc)
      simp only [erase, hc, List.mem_cons, ih (List.Pairwise.of_cons h)]
      constructor
      · rintro (rfl | ⟨hx, hk⟩)
        · exact ⟨Or.inl rfl, hb⟩
        · exact ⟨Or.inr hx, hk⟩
      · rintro ⟨rfl | hx, hk⟩
        · exact Or.inl rfl
        · exact Or.inr ⟨hx, hk⟩

end Keyed

namespace SortedSet

variable {α : Type} [Ord α]

/-- The list of a set: strictly ascending, so without duplicates. -/
def Sorted (l : List α) : Prop :=
  Keyed.Sorted id l

/-- The empty set's list is sorted. -/
theorem sorted_nil : Sorted ([] : List α) :=
  Keyed.sorted_nil

/-- A sublist of a set's list is sorted too. -/
theorem Sorted.sublist {l l' : List α} (h : Sorted l) (hs : l'.Sublist l) : Sorted l' :=
  Keyed.Sorted.sublist h hs

/-- Erasing keeps a set's list sorted. -/
theorem Sorted.erase {l : List α} (h : Sorted l) (a : α) : Sorted (erase a l) :=
  Keyed.Sorted.erase h a

/-- A set's list has no duplicates. -/
theorem Sorted.nodup [Std.TransOrd α] {l : List α} (h : Sorted l) : l.Nodup :=
  Keyed.Sorted.nodup h

/-- A set's list is determined by its elements: two sorted lists with the same elements are
equal. -/
theorem Sorted.eq_of_mem_iff [Std.TransOrd α] {l₁ l₂ : List α} (h₁ : Sorted l₁) (h₂ : Sorted l₂)
    (h : ∀ a, a ∈ l₁ ↔ a ∈ l₂) : l₁ = l₂ :=
  Keyed.Sorted.eq_of_mem_iff h₁ h₂ h

/-- Inserting keeps a set's list sorted. -/
theorem Sorted.insert [Std.TransOrd α] {l : List α} (h : Sorted l) (a : α) :
    Sorted (insert a l) :=
  Keyed.Sorted.insert h a

variable [Std.LawfulEqOrd α]

/-- Inserting adds the element, and nothing else. -/
theorem mem_insert {a x : α} {l : List α} : x ∈ insert a l ↔ x = a ∨ x ∈ l := by
  refine ⟨Keyed.mem_of_mem_insert, ?_⟩
  rintro (rfl | hx)
  · exact Keyed.mem_insert_self _ l
  -- an element equal to the new one is replaced by it, every other is kept
  by_cases hxa : x = a
  · subst hxa
    exact Keyed.mem_insert_self _ l
  · exact Keyed.mem_insert_of_mem hx hxa

/-- Erasing an element just inserted into a set that lacked it gives the set back. -/
theorem erase_insert_of_not_mem {a : α} {l : List α} (ha : a ∉ l) : erase a (insert a l) = l :=
  Keyed.erase_insert fun b hb (hba : b = a) => ha (hba ▸ hb)

variable [Std.TransOrd α]

/-- Erasing from a set's list removes exactly the element. -/
theorem mem_erase {a x : α} {l : List α} (h : Sorted l) : x ∈ erase a l ↔ x ≠ a ∧ x ∈ l :=
  (Keyed.mem_erase h).trans and_comm

/-- Looking an element up in a set's list finds exactly its elements. -/
theorem contains_iff_mem {a : α} {l : List α} (h : Sorted l) : contains a l = true ↔ a ∈ l := by
  rw [contains, Option.isSome_iff_exists]
  constructor
  · rintro ⟨b, hb⟩
    obtain ⟨hmem, rfl⟩ := (Keyed.find?_eq_some_iff h).1 hb
    exact hmem
  · intro ha
    exact ⟨a, (Keyed.find?_eq_some_iff h).2 ⟨ha, rfl⟩⟩

end SortedSet

namespace SortedMap

variable {κ ν : Type} [Ord κ]

/-- The list of a map: strictly ascending by key, so each key has one entry. -/
def Sorted (m : List (κ × ν)) : Prop :=
  Keyed.Sorted Prod.fst m

/-- The empty map has no values. -/
@[simp] theorem get?_nil (k : κ) : get? k ([] : List (κ × ν)) = none := rfl

/-- The empty map's list is sorted. -/
theorem sorted_nil : Sorted ([] : List (κ × ν)) :=
  Keyed.sorted_nil

/-- Filtering keeps a map's list sorted. -/
theorem Sorted.filter {m : List (κ × ν)} (h : Sorted m) (p : κ × ν → Bool) :
    Sorted (m.filter p) :=
  Keyed.Sorted.sublist h List.filter_sublist

/-- Changing the entries but not their keys keeps a map's list sorted. -/
theorem Sorted.map {μ : Type} {m : List (κ × ν)} (h : Sorted m) {g : κ × ν → κ × μ}
    (hg : ∀ e, (g e).1 = e.1) : Sorted (m.map g) :=
  List.Pairwise.map g (fun a b hab => by rw [hg a, hg b]; exact hab) h

/-- Erasing keeps a map's list sorted. -/
theorem Sorted.erase {m : List (κ × ν)} (h : Sorted m) (k : κ) : Sorted (erase k m) :=
  Keyed.Sorted.erase h k

/-- Every entry after inserting is the new one or an old one. -/
theorem mem_of_mem_insert {k : κ} {v : ν} {m : List (κ × ν)} {q : κ × ν}
    (hq : q ∈ insert k v m) : q = (k, v) ∨ q ∈ m :=
  Keyed.mem_of_mem_insert hq

/-- Erasing the keys of a list of items one after the other keeps a map's list sorted. -/
theorem Sorted.foldl_erase {β : Type} (f : β → κ) (l : List β) {m : List (κ × ν)}
    (h : Sorted m) : Sorted (l.foldl (fun acc x => SortedMap.erase (f x) acc) m) := by
  induction l generalizing m with
  | nil => exact h
  | cons x xs ih => exact ih (h.erase (f x))

/-- Inserting keeps a map's list sorted. -/
theorem Sorted.insert [Std.TransOrd κ] {m : List (κ × ν)} (h : Sorted m) (k : κ) (v : ν) :
    Sorted (insert k v m) :=
  Keyed.Sorted.insert h (k, v)

variable [Std.TransOrd κ] [Std.LawfulEqOrd κ]

/-- A lookup after inserting finds the inserted value at its key and the old one elsewhere. -/
theorem get?_insert [DecidableEq κ] (k k' : κ) (v : ν) (m : List (κ × ν)) :
    get? k' (insert k v m) = if k' = k then some v else get? k' m := by
  rw [get?, insert, Keyed.find?_insert]
  split <;> rfl

/-- In a map's list, a lookup finds exactly the entries. -/
theorem get?_eq_some_iff {m : List (κ × ν)} (h : Sorted m) {k : κ} {v : ν} :
    get? k m = some v ↔ (k, v) ∈ m := by
  rw [get?, Option.map_eq_some_iff]
  constructor
  · rintro ⟨q, hq, rfl⟩
    obtain ⟨hmem, rfl⟩ := (Keyed.find?_eq_some_iff h).1 hq
    exact hmem
  · intro hq
    exact ⟨(k, v), (Keyed.find?_eq_some_iff h).2 ⟨hq, rfl⟩, rfl⟩

/-- A lookup misses exactly the keys without an entry. -/
theorem get?_eq_none_iff {m : List (κ × ν)} (h : Sorted m) {k : κ} :
    get? k m = none ↔ ∀ v, (k, v) ∉ m := by
  rw [Option.eq_none_iff_forall_ne_some]
  simp only [ne_eq, get?_eq_some_iff h]

/-- A map's list is determined by its lookups: two sorted lists that give every key the same
value are equal. -/
theorem Sorted.eq_of_get?_eq {m₁ m₂ : List (κ × ν)} (h₁ : Sorted m₁) (h₂ : Sorted m₂)
    (h : ∀ k, get? k m₁ = get? k m₂) : m₁ = m₂ := by
  refine Keyed.Sorted.eq_of_mem_iff h₁ h₂ ?_
  rintro ⟨k, v⟩
  rw [← get?_eq_some_iff h₁, ← get?_eq_some_iff h₂, h]

/-- Two entries of one key in a map's list are the same entry. -/
theorem Sorted.eq_of_mem {m : List (κ × ν)} (h : Sorted m) {k : κ} {v w : ν} (hv : (k, v) ∈ m)
    (hw : (k, w) ∈ m) : v = w :=
  congrArg Prod.snd (Keyed.Sorted.eq_of_key_eq h hv hw rfl)

/-- Erasing from a map's list removes exactly the entries of the key. -/
theorem mem_erase {m : List (κ × ν)} (h : Sorted m) {k : κ} {q : κ × ν} :
    q ∈ erase k m ↔ q ∈ m ∧ q.1 ≠ k :=
  Keyed.mem_erase h

/-- Inserting into a map's list adds the entry and keeps the entries of every other key. -/
theorem mem_insert {m : List (κ × ν)} (h : Sorted m) {k : κ} {v : ν} {q : κ × ν} :
    q ∈ insert k v m ↔ q = (k, v) ∨ (q ∈ m ∧ q.1 ≠ k) :=
  Keyed.mem_insert h

/-- A lookup after erasing misses the erased key and finds the old value elsewhere. -/
theorem get?_erase [DecidableEq κ] {m : List (κ × ν)} (h : Sorted m) (k k' : κ) :
    get? k' (erase k m) = if k' = k then none else get? k' m := by
  apply Option.ext
  intro v
  rw [get?_eq_some_iff (h.erase k), mem_erase h]
  split
  · simp_all
  · simp_all [get?_eq_some_iff h]

/-- After erasing the keys of a list of items, a lookup misses those keys and finds the old value
elsewhere. -/
theorem get?_foldl_erase [DecidableEq κ] {β : Type} (f : β → κ) (l : List β)
    {m : List (κ × ν)} (h : Sorted m) (k : κ) :
    get? k (l.foldl (fun acc x => SortedMap.erase (f x) acc) m) =
      if ∃ x ∈ l, f x = k then none else get? k m := by
  induction l generalizing m with
  | nil => simp
  | cons x xs ih =>
    rw [List.foldl_cons, ih (h.erase (f x)), get?_erase h]
    by_cases hx : f x = k
    · simp [hx]
    · simp [hx, Ne.symm hx]

end SortedMap

end RouteLease
