import RouteLease.Proofs.Address.Numerals
import RouteLease.Proofs.Wire.Decode
import RouteLease.Config.Schema
import Mathlib.Data.List.Basic

/-!
# Address text reads back

Every valid address is read back from the text it prints as (`parse_display`), and so from its
serialized form, which is that text (`decode_display_iff`); the invalid address prints as
`invalid`, which is no address.

An IPv4 address prints as a dotted quad, which `Numerals` reads back. An IPv6 address prints its
eight groups in one of three forms, and each is read back to the same groups:

* an IPv4-mapped address as `::ffff:` and a dotted quad, read as one group and a quad that fills
  the last two (`read_mapped`);
* with a run of two or more zero groups, as the groups before the run, `::`, and the groups after
  it; reading fills the gap with zeros, which is right because the run printed is one of zeros
  (`ZeroRun`, `zeroRun_longestZeroRun`, `read_compressed`). That it is the first of the longest
  runs (`longestZeroRun_first_longest`) decides only which text is printed, not that it reads
  back;
* otherwise as all eight groups (`read_joinGroups`).

Reading groups is described one step at a time (`readGroups_succ_quad`, `readGroups_succ_group`,
`readGroups_succ_stop`): a dotted quad where two slots are left, a group, or nothing more. No
printed group is followed by a dot, so the dotted-quad step never fires on a group.
-/

namespace RouteLease.IpAddress

/-! ## Groups of octets -/

/-- Two leading octets make the first group, most significant first. -/
theorem groups_cons_cons (a b : UInt8) (rest : List UInt8) :
    groups (a :: b :: rest) = (a.toNat * 256 + b.toNat) :: groups rest := rfl

/-- An octet string has half as many groups as octets, a last odd octet dropped. -/
theorem length_groups (o : List UInt8) : (groups o).length = o.length / 2 := by
  induction o using groups.induct with
  | case1 a b rest ih => simp [groups_cons_cons, ih]; omega
  | case2 t ht =>
    match t, ht with
    | [], _ => rfl
    | [_], _ => simp [groups]
    | _ :: _ :: _, ht => exact absurd rfl (ht _ _ _)

/-- Every group is a sixteen-bit number. -/
theorem lt_of_mem_groups {o : List UInt8} {g : Nat} (h : g ∈ groups o) : g < 65536 := by
  induction o using groups.induct with
  | case1 a b rest ih =>
    rw [groups_cons_cons, List.mem_cons] at h
    rcases h with rfl | h
    · have := a.toNat_lt
      have := b.toNat_lt
      omega
    · exact ih h
  | case2 t ht =>
    match t, ht with
    | [], _ => simp [groups] at h
    | [_], _ => simp [groups] at h
    | _ :: _ :: _, ht => exact absurd rfl (ht _ _ _)

/-- Octets paired into groups come back as the same octets. -/
theorem groupOctets_groups {o : List UInt8} (h : o.length % 2 = 0) :
    groupOctets (groups o) = o := by
  induction o using groups.induct with
  | case1 a b rest ih =>
    have hb := b.toNat_lt
    have hdiv : (a.toNat * 256 + b.toNat) / 256 = a.toNat := by omega
    have hmod : (a.toNat * 256 + b.toNat) % 256 = b.toNat := by omega
    simp only [List.length_cons] at h
    rw [groups_cons_cons, groupOctets, List.flatMap_cons, ← groupOctets, ih (by omega), hdiv,
      hmod]
    simp
  | case2 t ht =>
    match t, ht with
    | [], _ => rfl
    | [_], _ => simp at h
    | _ :: _ :: _, ht => exact absurd rfl (ht _ _ _)

/-- Dropping `2 k` octets drops `k` groups. -/
theorem groups_drop (o : List UInt8) (k : Nat) : groups (o.drop (2 * k)) = (groups o).drop k := by
  induction o using groups.induct generalizing k with
  | case1 a b rest ih =>
    cases k with
    | zero => rfl
    | succ k =>
      rw [show 2 * (k + 1) = 2 * k + 1 + 1 by omega, List.drop_succ_cons, List.drop_succ_cons,
        groups_cons_cons, List.drop_succ_cons, ih]
  | case2 t ht =>
    match t, ht with
    | [], _ => simp [groups]
    | [_], _ =>
      cases k with
      | zero => rfl
      | succ k => rw [List.drop_eq_nil_of_le (by simp; omega)]; simp [groups]
    | _ :: _ :: _, ht => exact absurd rfl (ht _ _ _)

/-! ## Runs of zero groups -/

/-- The `l` groups from position `s` on are zeros. -/
def ZeroRun (gs : List Nat) (s l : Nat) : Prop :=
  s + l ≤ gs.length ∧ (gs.drop s).take l = List.replicate l 0

/-- An empty run of zeros starts at any position of the list, up to its end. -/
theorem zeroRun_zero {gs : List Nat} {s : Nat} (h : s ≤ gs.length) : ZeroRun gs s 0 :=
  ⟨by omega, by simp⟩

/-- A run of zeros goes on with a zero right after it. -/
theorem ZeroRun.succ {gs : List Nat} {s l : Nat} (h : ZeroRun gs s l) (hz : gs[s + l]? = some 0) :
    ZeroRun gs s (l + 1) := by
  obtain ⟨-, hrun⟩ := h
  have hlt : s + l < gs.length := (List.getElem?_eq_some_iff.1 hz).1
  refine ⟨by omega, ?_⟩
  rw [List.take_add_one, hrun, List.getElem?_drop, hz, List.replicate_succ']
  rfl

/-- A list with a run of zeros is its groups before the run, the zeros, and its groups after. -/
theorem ZeroRun.split {gs : List Nat} {s l : Nat} (h : ZeroRun gs s l) :
    gs = gs.take s ++ List.replicate l 0 ++ gs.drop (s + l) := by
  obtain ⟨-, hrun⟩ := h
  conv_lhs => rw [← List.take_append_drop s gs, ← List.take_append_drop l (gs.drop s)]
  rw [hrun, List.drop_drop, List.append_assoc]

/-- Every group inside a run of zeros is zero. -/
theorem ZeroRun.getElem?_eq_zero {gs : List Nat} {s l : Nat} (h : ZeroRun gs s l) (j : Nat)
    (hs : s ≤ j) (hj : j < s + l) : gs[j]? = some 0 := by
  obtain ⟨-, hrun⟩ := h
  have hat := congrArg (·[j - s]?) hrun
  simp only [List.getElem?_take, List.getElem?_drop, List.getElem?_replicate] at hat
  rwa [if_pos (by omega), if_pos (by omega), Nat.add_sub_cancel' hs] at hat

/-- A run of zeros holds every shorter run from the same start. -/
theorem ZeroRun.mono {gs : List Nat} {s l k : Nat} (h : ZeroRun gs s l) (hk : k ≤ l) :
    ZeroRun gs s k := by
  obtain ⟨hlen, hrun⟩ := h
  refine ⟨by omega, ?_⟩
  rw [← Nat.min_eq_left hk, ← List.take_take, hrun, List.take_replicate, Nat.min_eq_left hk]

/-- A run of zeros ending one past a group that is not zero is empty. -/
theorem ZeroRun.eq_zero_of_ne {gs : List Nat} {s l i g : Nat} (h : ZeroRun gs s l)
    (hend : s + l = i + 1) (hg : gs[i]? = some g) (hne : g ≠ 0) : l = 0 := by
  refine Nat.eq_zero_of_not_pos fun hl => hne ?_
  have hzero := h.getElem?_eq_zero i (by omega) (by omega)
  rw [hg, Option.some.injEq] at hzero
  exact hzero

/-- A run of zeros ending at `i + 1` is at most one longer than every run ending at `i`. -/
theorem ZeroRun.le_succ_of_end {gs : List Nat} {i l s' l' : Nat}
    (hcur : ∀ s' l', ZeroRun gs s' l' → s' + l' = i → l' ≤ l) (h : ZeroRun gs s' l')
    (hend : s' + l' = i + 1) : l' ≤ l + 1 := by
  cases l' with
  | zero => omega
  | succ m =>
    have := hcur s' m (h.mono (Nat.le_succ m)) (by omega)
    omega

/-- One more step past a position whose suffix is known drops its head. -/
theorem drop_succ_of_drop_eq_cons {G gs : List Nat} {i g : Nat} (hgs : G.drop i = g :: gs) :
    G.drop (i + 1) = gs := by
  rw [← List.drop_drop, hgs, List.drop_one, List.tail_cons]

/-- The head of the suffix at a position is the element at that position. -/
theorem getElem?_of_drop_eq_cons {G gs : List Nat} {i g : Nat} (hgs : G.drop i = g :: gs) :
    G[i]? = some g := by
  rw [← List.head?_drop, hgs, List.head?_cons]

/-- Where the current run starts once the scan has taken one more zero: at the zero if there was
no run, and where the run started otherwise. It then ends one past the zero. -/
theorem scan_start_add {i s l : Nat} (hend : 0 < l → s + l = i) :
    (if l = 0 then i else s) + (l + 1) = i + 1 := by
  split
  · omega
  · have := hend (by omega)
    omega

/-- A zero where the scan stands makes the current run one longer, starting there if there was
none. -/
theorem zeroRun_scan_zero {G gs : List Nat} {i s l : Nat} (hgs : G.drop i = 0 :: gs)
    (hcur : ZeroRun G s l) (hend : 0 < l → s + l = i) :
    ZeroRun G (if l = 0 then i else s) (l + 1) := by
  have hzero := getElem?_of_drop_eq_cons hgs
  have hlt : i < G.length := (List.getElem?_eq_some_iff.1 hzero).1
  by_cases hl : l = 0
  · subst hl
    rw [if_pos rfl]
    exact (zeroRun_zero (by omega)).succ (by simpa using hzero)
  · rw [if_neg hl]
    have hi := hend (by omega)
    exact hcur.succ (by rw [hi]; exact hzero)

/-- The scan for zero runs keeps two facts: the best run so far is a run of zeros, and so is the
current run, which ends where the scan stands. -/
theorem zeroRun_zeroRunFrom (G : List Nat) (gs : List Nat) (i s l bs bl : Nat)
    (hgs : G.drop i = gs) (hbest : ZeroRun G bs bl) (hcur : ZeroRun G s l)
    (hend : 0 < l → s + l = i) :
    ZeroRun G (zeroRunFrom gs i s l bs bl).1 (zeroRunFrom gs i s l bs bl).2 := by
  fun_induction zeroRunFrom gs i s l bs bl with
  | case1 i s l bs bl => exact hbest
  | case2 gs i s l bs bl s' hlonger ih =>
    -- the current run becomes the best one
    have hrun := zeroRun_scan_zero hgs hcur hend
    exact ih (drop_succ_of_drop_eq_cons hgs) hrun hrun fun _ => scan_start_add hend
  | case3 gs i s l bs bl s' hshorter ih =>
    exact ih (drop_succ_of_drop_eq_cons hgs) hbest (zeroRun_scan_zero hgs hcur hend)
      fun _ => scan_start_add hend
  | case4 g gs i s l bs bl hg ih =>
    exact ih (drop_succ_of_drop_eq_cons hgs) hbest (zeroRun_zero (Nat.zero_le _)) (by omega)

/-- The run `showV6` compresses is a run of zeros. -/
theorem zeroRun_longestZeroRun (gs : List Nat) :
    ZeroRun gs (longestZeroRun gs).1 (longestZeroRun gs).2 :=
  zeroRun_zeroRunFrom gs gs 0 0 0 0 0 rfl (zeroRun_zero (Nat.zero_le _))
    (zeroRun_zero (Nat.zero_le _)) (by omega)

/-- The scan for zero runs also keeps that no run of zeros before its position is longer than the
best one, and that one as long starts no earlier; that the best run lies before the position; and
that no run of zeros ending at the position is longer than the current run. A later run replaces
the best only when strictly longer, which is what makes the best the first of the longest. -/
theorem zeroRunFrom_first_longest (G gs : List Nat) (i s l bs bl : Nat) (hgs : G.drop i = gs)
    (hbest : ∀ s' l', ZeroRun G s' l' → s' + l' ≤ i →
      l' ≤ bl ∧ (l' = bl → 0 < l' → bs ≤ s'))
    (hbestEnd : bs + bl ≤ i) (hcur : ∀ s' l', ZeroRun G s' l' → s' + l' = i → l' ≤ l)
    (hend : 0 < l → s + l = i) (s' l' : Nat) (hrun : ZeroRun G s' l') :
    l' ≤ (zeroRunFrom gs i s l bs bl).2 ∧
      (l' = (zeroRunFrom gs i s l bs bl).2 → 0 < l' →
        (zeroRunFrom gs i s l bs bl).1 ≤ s') := by
  fun_induction zeroRunFrom gs i s l bs bl with
  | case1 i s l bs bl =>
    -- the scan has passed every group, so every run lies before its position
    have hlen : G.length ≤ i := List.drop_eq_nil_iff.1 hgs
    exact hbest s' l' hrun (by have := hrun.1; omega)
  | case2 gs i s l bs bl s'' hlonger ih =>
    -- the current run, one longer, becomes the best one
    have hend' := scan_start_add hend
    have hcur' : ∀ s₁ l₁, ZeroRun G s₁ l₁ → s₁ + l₁ = i + 1 → l₁ ≤ l + 1 :=
      fun _ _ h₁ he => h₁.le_succ_of_end hcur he
    refine ih (drop_succ_of_drop_eq_cons hgs) ?_ (by omega) hcur' fun _ => hend'
    intro s₁ l₁ h₁ hle
    rcases Nat.lt_or_ge (s₁ + l₁) (i + 1) with hlt | hge
    · have := (hbest s₁ l₁ h₁ (by omega)).1
      exact ⟨by omega, fun _ _ => by omega⟩
    · have := hcur' s₁ l₁ h₁ (by omega)
      exact ⟨this, fun _ _ => by omega⟩
  | case3 gs i s l bs bl s'' hshorter ih =>
    have hend' := scan_start_add hend
    have hcur' : ∀ s₁ l₁, ZeroRun G s₁ l₁ → s₁ + l₁ = i + 1 → l₁ ≤ l + 1 :=
      fun _ _ h₁ he => h₁.le_succ_of_end hcur he
    refine ih (drop_succ_of_drop_eq_cons hgs) ?_ (by omega) hcur' fun _ => hend'
    intro s₁ l₁ h₁ hle
    rcases Nat.lt_or_ge (s₁ + l₁) (i + 1) with hlt | hge
    · exact hbest s₁ l₁ h₁ (by omega)
    · -- a run ending here is no longer than the best, which ends before it
      have := hcur' s₁ l₁ h₁ (by omega)
      exact ⟨by omega, fun _ _ => by omega⟩
  | case4 g gs i s l bs bl hg ih =>
    -- a group that is not zero ends every run
    have hgi := getElem?_of_drop_eq_cons hgs
    have hempty : ∀ s₁ l₁, ZeroRun G s₁ l₁ → s₁ + l₁ = i + 1 → l₁ = 0 :=
      fun _ _ h₁ he => h₁.eq_zero_of_ne he hgi hg
    refine ih (drop_succ_of_drop_eq_cons hgs) ?_ (by omega)
      (fun s₁ l₁ h₁ he => (hempty s₁ l₁ h₁ he).le) (by omega)
    intro s₁ l₁ h₁ hle
    rcases Nat.lt_or_ge (s₁ + l₁) (i + 1) with hlt | hge
    · exact hbest s₁ l₁ h₁ (by omega)
    · have := hempty s₁ l₁ h₁ (by omega)
      exact ⟨by omega, fun _ _ => by omega⟩

/-- The run `showV6` compresses is the first longest run of zeros: no run of zeros is longer, and
one as long that is not empty starts no earlier. -/
theorem longestZeroRun_first_longest {gs : List Nat} {s l : Nat} (h : ZeroRun gs s l) :
    l ≤ (longestZeroRun gs).2 ∧
      (l = (longestZeroRun gs).2 → 0 < l → (longestZeroRun gs).1 ≤ s) :=
  zeroRunFrom_first_longest gs gs 0 0 0 0 0 rfl
    (fun _ _ _ _ => ⟨by omega, fun _ _ => Nat.zero_le _⟩) (by omega) (fun _ _ _ _ => by omega)
    (by omega) s l h

example : longestZeroRun [1, 0, 0, 2, 0, 0, 3, 0] = (1, 2) := by decide

/-! ## Printed groups -/

/-- The text of groups joined by colons: the digits of the first, then a colon and the digits of
each further one. -/
theorem joinGroups_cons_toList (g : Nat) (gs : List Nat) :
    (joinGroups (g :: gs)).toList =
      Nat.toDigits 16 g ++ gs.flatMap fun g => ':' :: Nat.toDigits 16 g := by
  induction gs generalizing g with
  | nil => simp [joinGroups, hex]
  | cons g' gs ih =>
    have h := ih g'
    simp only [joinGroups, hex, List.map_cons, String.toList_intercalate, List.map_map] at h ⊢
    rw [List.intercalate_cons_cons, h]
    simp

/-- No groups print as no characters. -/
theorem joinGroups_nil_toList : (joinGroups []).toList = [] := rfl

/-- A character that a printed group is written with is no dot. -/
theorem ne_dot_of_mem_toDigits {g : Nat} {c : Char} (h : c ∈ Nat.toDigits 16 g) : c ≠ '.' := by
  obtain ⟨ds, hds, hlt, -, -⟩ := toDigits_eq_map_digitChar (by decide : 1 < 16) g
  rw [hds, List.mem_map] at h
  obtain ⟨d, hd, rfl⟩ := h
  have key : ∀ d < 16, Nat.digitChar d ≠ '.' := by decide
  exact key d (hlt d hd)

/-- No characters are no dotted quad. -/
theorem readIpv4_nil : readIpv4 [] = none := rfl

/-- No characters are no number. -/
theorem readNumber_nil (radix maxDigits max : Nat) (zeroPrefix : Bool) :
    readNumber radix maxDigits max zeroPrefix [] = none := rfl

/-- A colon starts no dotted quad. -/
theorem readIpv4_colon (r : List Char) : readIpv4 (':' :: r) = none :=
  readIpv4_eq_none_of_head? (by simp [digitValue_colon])

/-- A printed group followed by nothing or a colon is no dotted quad: a letter or the colon stops
its decimal digits. -/
theorem readIpv4_toDigits_hex (g : Nat) {more : List Char}
    (hmore : more = [] ∨ ∃ r, more = ':' :: r) :
    readIpv4 (Nat.toDigits 16 g ++ more) = none := by
  apply readIpv4_eq_none_of_head?
  rw [List.dropWhile_append]
  split
  · rcases hmore with rfl | ⟨r, rfl⟩ <;> simp [digitValue_colon]
  · rename_i hne
    rw [List.isEmpty_iff] at hne
    obtain ⟨c, cs, hc⟩ := List.exists_cons_of_ne_nil hne
    have hmem : c ∈ Nat.toDigits 16 g :=
      (List.dropWhile_suffix _).mem (hc ▸ List.mem_cons_self)
    rw [hc, List.cons_append, List.head?_cons, ne_eq, Option.some.injEq]
    exact ne_dot_of_mem_toDigits hmem

/-- A printed group followed by nothing or a colon reads back as the group. -/
theorem readNumber_hex {g : Nat} (hg : g < 65536) {more : List Char}
    (hmore : more = [] ∨ ∃ r, more = ':' :: r) :
    readNumber 16 4 0xffff true (Nat.toDigits 16 g ++ more) = some (g, more) := by
  have hrest : ∀ c ∈ more.head?, digitValue 16 c = none := by
    rcases hmore with rfl | ⟨r, rfl⟩ <;> simp [digitValue_colon]
  exact readNumber_toDigits (by decide) (by decide) (by omega) (by simpa using hg) (by decide)
    true hrest

/-- A colon starts no number. -/
theorem readNumber_colon (radix maxDigits max : Nat) (zeroPrefix : Bool) (r : List Char) :
    readNumber radix maxDigits max zeroPrefix (':' :: r) = none := by
  simp [readNumber, digitRun, digitValue_colon]

/-! ## Reading groups one step at a time -/

/-- Where two or more slots are left, a dotted quad fills the last two. -/
theorem readGroups_succ_quad {n : Nat} {first : Bool} {cs : List Char} {q : List UInt8}
    {rest : List Char} (hn : 1 ≤ n)
    (hquad : (separator first cs).bind readIpv4 = some (q, rest)) :
    readGroups (n + 1) first cs = (groups q, true, rest) := by
  rw [readGroups.eq_2, if_pos hn, hquad]

/-- Where no dotted quad stands, a group is read and reading goes on after it. -/
theorem readGroups_succ_group {n : Nat} {first : Bool} {cs : List Char} {g : Nat}
    {rest : List Char} (hquad : (separator first cs).bind readIpv4 = none)
    (hnum : (separator first cs).bind (readNumber 16 4 0xffff true) = some (g, rest)) :
    readGroups (n + 1) first cs =
      (g :: (readGroups n false rest).1, (readGroups n false rest).2.1,
        (readGroups n false rest).2.2) := by
  have hnone : (if n ≥ 1 then (separator first cs).bind readIpv4 else none) = none := by
    split <;> simp [hquad]
  rw [readGroups.eq_2, hnone, hnum]

/-- Where neither a dotted quad nor a group stands, reading stops. -/
theorem readGroups_succ_stop {n : Nat} {first : Bool} {cs : List Char}
    (hquad : (separator first cs).bind readIpv4 = none)
    (hnum : (separator first cs).bind (readNumber 16 4 0xffff true) = none) :
    readGroups (n + 1) first cs = ([], false, cs) := by
  have hnone : (if n ≥ 1 then (separator first cs).bind readIpv4 else none) = none := by
    split <;> simp [hquad]
  rw [readGroups.eq_2, hnone, hnum]

/-- Reading groups reads nothing at the end of the text or at `::`. -/
theorem readGroups_stop (n : Nat) (first : Bool) {rest : List Char}
    (hrest : rest = [] ∨ ∃ r, rest = ':' :: ':' :: r) :
    readGroups n first rest = ([], false, rest) := by
  cases n with
  | zero => rfl
  | succ n =>
    apply readGroups_succ_stop <;>
      rcases hrest with rfl | ⟨r, rfl⟩ <;> cases first <;>
        simp [separator, expect, readIpv4_colon, readNumber_colon, readIpv4_nil, readNumber_nil]

/-- What follows a printed group, when the text goes on with further groups and then ends or
has `::`: the end of the text or a colon. -/
theorem flatMap_groups_append (gs : List Nat) {rest : List Char}
    (hrest : rest = [] ∨ ∃ r, rest = ':' :: ':' :: r) :
    (gs.flatMap fun g => ':' :: Nat.toDigits 16 g) ++ rest = [] ∨
      ∃ r, (gs.flatMap fun g => ':' :: Nat.toDigits 16 g) ++ rest = ':' :: r := by
  cases gs with
  | nil => rcases hrest with rfl | ⟨r, rfl⟩ <;> simp
  | cons g gs => exact .inr ⟨_, rfl⟩

/-- Groups after the first, each after its colon, are read back up to the end of the text or
`::`. -/
theorem readGroups_sep (gs : List Nat) {n : Nat} (hlen : gs.length ≤ n)
    (hg : ∀ g ∈ gs, g < 65536) {rest : List Char}
    (hrest : rest = [] ∨ ∃ r, rest = ':' :: ':' :: r) :
    readGroups n false ((gs.flatMap fun g => ':' :: Nat.toDigits 16 g) ++ rest) =
      (gs, false, rest) := by
  induction gs generalizing n with
  | nil => exact readGroups_stop n false hrest
  | cons g gs ih =>
    obtain ⟨k, rfl⟩ : ∃ k, n = k + 1 := ⟨n - 1, by simp at hlen; omega⟩
    have hmore := flatMap_groups_append gs hrest
    have hsep : separator false ((((g :: gs).flatMap fun g => ':' :: Nat.toDigits 16 g)) ++ rest) =
        some (Nat.toDigits 16 g ++ ((gs.flatMap fun g => ':' :: Nat.toDigits 16 g) ++ rest)) := by
      simp [separator, expect]
    rw [readGroups_succ_group (by rw [hsep]; exact readIpv4_toDigits_hex g hmore)
      (by rw [hsep]; exact readNumber_hex (hg g List.mem_cons_self) hmore),
      ih (by simp at hlen; omega) fun g' hg' => hg g' (List.mem_cons_of_mem g hg')]

/-- Printed groups are read back up to the end of the text or `::`. -/
theorem readGroups_joinGroups (gs : List Nat) {n : Nat} (hlen : gs.length ≤ n)
    (hg : ∀ g ∈ gs, g < 65536) {rest : List Char}
    (hrest : rest = [] ∨ ∃ r, rest = ':' :: ':' :: r) :
    readGroups n true ((joinGroups gs).toList ++ rest) = (gs, false, rest) := by
  cases gs with
  | nil => exact readGroups_stop n true hrest
  | cons g gs =>
    obtain ⟨k, rfl⟩ : ∃ k, n = k + 1 := ⟨n - 1, by simp at hlen; omega⟩
    have hmore := flatMap_groups_append gs hrest
    rw [joinGroups_cons_toList, List.append_assoc,
      readGroups_succ_group (by exact readIpv4_toDigits_hex g hmore)
        (by exact readNumber_hex (hg g List.mem_cons_self) hmore),
      readGroups_sep gs (by simp at hlen; omega) (fun g' hg' => hg g' (List.mem_cons_of_mem g hg'))
        hrest]

/-- Printed groups followed by nothing or a colon are no dotted quad. -/
theorem readIpv4_joinGroups (gs : List Nat) {rest : List Char}
    (hrest : rest = [] ∨ ∃ r, rest = ':' :: r) :
    readIpv4 ((joinGroups gs).toList ++ rest) = none := by
  cases gs with
  | nil =>
    rcases hrest with rfl | ⟨r, rfl⟩
    · rfl
    · exact readIpv4_colon r
  | cons g gs =>
    rw [joinGroups_cons_toList, List.append_assoc]
    apply readIpv4_toDigits_hex
    cases gs with
    | nil => simpa using hrest
    | cons g' gs' => exact .inr ⟨_, rfl⟩

/-! ## IPv6 texts -/

/-- Reading an IPv6 address that has eight groups before anything else. -/
theorem readIpv6_of_full {cs : List Char} {head : List Nat} {quadEnd : Bool} {rest : List Char}
    (h : readGroups 8 true cs = (head, quadEnd, rest)) (hlen : head.length = 8) :
    readIpv6 cs = some (head, rest) := by
  simp only [readIpv6, h, hlen, if_true]

/-- Reading an IPv6 address with `::`: the groups before it, zeros, and the groups after it. -/
theorem readIpv6_of_compressed {cs : List Char} {head : List Nat} {r : List Char}
    (h : readGroups 8 true cs = (head, false, ':' :: ':' :: r)) (hlen : head.length ≠ 8)
    {tail : List Nat} {quadEnd : Bool} {rest : List Char}
    (htail : readGroups (8 - (head.length + 1)) true r = (tail, quadEnd, rest)) :
    readIpv6 cs =
      some (head ++ List.replicate (8 - head.length - tail.length) 0 ++ tail, rest) := by
  simp only [readIpv6, h, hlen, if_false, htail, Bool.false_eq_true]

/-- Eight groups printed in full are no dotted quad and read back as the groups. -/
theorem read_joinGroups {gs : List Nat} (hlen : gs.length = 8) (hg : ∀ g ∈ gs, g < 65536) :
    readIpv4 (joinGroups gs).toList = none ∧ readIpv6 (joinGroups gs).toList = some (gs, []) := by
  have hall : readGroups 8 true ((joinGroups gs).toList ++ []) = (gs, false, []) :=
    readGroups_joinGroups _ (by omega) hg (.inl rfl)
  have hquad : readIpv4 ((joinGroups gs).toList ++ []) = none :=
    readIpv4_joinGroups _ (.inl rfl)
  rw [List.append_nil] at hall hquad
  exact ⟨hquad, readIpv6_of_full hall hlen⟩

/-- Eight groups with a run of two or more zeros printed as `::` are no dotted quad and read back
as the groups: reading puts back as many zeros as the groups around `::` leave room for. -/
theorem read_compressed {gs : List Nat} {s l : Nat} (hlen : gs.length = 8)
    (hg : ∀ g ∈ gs, g < 65536) (hz : ZeroRun gs s l) (hl : 1 < l) :
    readIpv4 (joinGroups (gs.take s) ++ "::" ++ joinGroups (gs.drop (s + l))).toList = none ∧
      readIpv6 (joinGroups (gs.take s) ++ "::" ++ joinGroups (gs.drop (s + l))).toList =
        some (gs, []) := by
  have hs : s + l ≤ 8 := hlen ▸ hz.1
  have htext : (joinGroups (gs.take s) ++ "::" ++ joinGroups (gs.drop (s + l))).toList =
      (joinGroups (gs.take s)).toList ++ ':' :: ':' :: (joinGroups (gs.drop (s + l))).toList := by
    simp only [String.toList_append, List.append_assoc]
    rfl
  have hhead : readGroups 8 true ((joinGroups (gs.take s)).toList ++
      ':' :: ':' :: (joinGroups (gs.drop (s + l))).toList) =
        (gs.take s, false, ':' :: ':' :: (joinGroups (gs.drop (s + l))).toList) :=
    readGroups_joinGroups _ (by rw [List.length_take, hlen]; omega)
      (fun g hg' => hg g (List.mem_of_mem_take hg')) (.inr ⟨_, rfl⟩)
  have htail : readGroups (8 - ((gs.take s).length + 1)) true
      ((joinGroups (gs.drop (s + l))).toList ++ []) = (gs.drop (s + l), false, []) :=
    readGroups_joinGroups _ (by rw [List.length_drop, List.length_take, hlen]; omega)
      (fun g hg' => hg g (List.mem_of_mem_drop hg')) (.inl rfl)
  rw [List.append_nil] at htail
  -- the zeros put back are exactly the run
  have hgap : 8 - (gs.take s).length - (gs.drop (s + l)).length = l := by
    rw [List.length_drop, List.length_take, hlen]
    omega
  rw [htext]
  refine ⟨readIpv4_joinGroups _ (.inr ⟨_, rfl⟩), ?_⟩
  rw [readIpv6_of_compressed hhead (by rw [List.length_take, hlen]; omega) htail, hgap,
    ← hz.split]

/-- An IPv4-mapped address, printed as `::ffff:` and the dotted quad of its last four octets, is
no dotted quad and reads back as its groups: one group `ffff` after `::`, then a dotted quad that
fills the last two. -/
theorem read_mapped {L : List UInt8} (hL : L.length = 16)
    (hmap : (groups L).take 6 = [0, 0, 0, 0, 0, 0xffff]) :
    readIpv4 ("::ffff:" ++ dotted (L.drop 12)).toList = none ∧
      readIpv6 ("::ffff:" ++ dotted (L.drop 12)).toList = some (groups L, []) := by
  obtain ⟨a, b, c, d, hq⟩ := List.length_eq_four.1 (show (L.drop 12).length = 4 by simp [hL])
  have htext : ("::ffff:" ++ dotted (L.drop 12)).toList =
      ':' :: ':' :: (Nat.toDigits 16 0xffff ++ ':' :: (dotted [a, b, c, d]).toList) := by
    rw [hq, String.toList_append]
    rfl
  have hgroups : groups L = List.replicate 5 0 ++ 0xffff :: groups [a, b, c, d] := by
    rw [← hq, show 12 = 2 * 6 from rfl, groups_drop, ← List.take_append_drop 6 (groups L), hmap]
    simp
  have hffff : readNumber 16 4 0xffff true
      (Nat.toDigits 16 0xffff ++ ':' :: (dotted [a, b, c, d]).toList) =
        some (0xffff, ':' :: (dotted [a, b, c, d]).toList) :=
    readNumber_hex (by decide) (.inr ⟨_, rfl⟩)
  have htail : readGroups 7 true (Nat.toDigits 16 0xffff ++ ':' :: (dotted [a, b, c, d]).toList) =
      (0xffff :: groups [a, b, c, d], true, []) := by
    rw [@readGroups_succ_group 6 true _ 0xffff _ (readIpv4_toDigits_hex 0xffff (.inr ⟨_, rfl⟩))
        hffff,
      @readGroups_succ_quad 5 false (':' :: (dotted [a, b, c, d]).toList) _ _ (by decide)
        (by simpa [separator, expect] using readIpv4_dotted_whole a b c d)]
  rw [htext]
  refine ⟨readIpv4_colon _, ?_⟩
  rw [readIpv6_of_compressed (readGroups_stop 8 true (.inr ⟨_, rfl⟩)) (by decide) htail,
    hgroups]
  rfl

/-- The text of an IPv6 address given by its sixteen octets is no dotted quad, and reads back as
the address's eight groups, whichever of its three forms is printed. -/
theorem read_showV6 {L : List UInt8} (hL : L.length = 16) :
    readIpv4 (showV6 L).toList = none ∧ readIpv6 (showV6 L).toList = some (groups L, []) := by
  have hlen : (groups L).length = 8 := by rw [length_groups, hL]
  have hg : ∀ g ∈ groups L, g < 65536 := fun g hg => lt_of_mem_groups hg
  unfold showV6
  dsimp only
  split
  · exact read_mapped hL (by assumption)
  · -- the run printed as `::` is one of zeros
    rcases hr : longestZeroRun (groups L) with ⟨s, l⟩
    have hz := zeroRun_longestZeroRun (groups L)
    rw [hr] at hz
    dsimp only at hz ⊢
    split
    · exact read_compressed hlen hg hz (by omega)
    · exact read_joinGroups hlen hg

/-! ## Reading an address back -/

/-- An IPv4 address is read back from its dotted quad. -/
theorem readText_display_v4 (o : Vector UInt8 4) :
    readText (v4 o).display.toList = some (v4 o) := by
  obtain ⟨a, b, c, d, ho⟩ := List.length_eq_four.1 (show o.toList.length = 4 by simp)
  simp only [display, ho, readText, readIpv4_dotted_whole]
  rw [← ho]
  exact congrArg some (@ofOctets_octets (v4 o) .v4 rfl)

/-- An IPv6 address is read back from its text, in each of the three forms it prints in. -/
theorem readText_display_v6 (o : Vector UInt8 16) :
    readText (v6 o).display.toList = some (v6 o) := by
  obtain ⟨hquad, hgroups⟩ := read_showV6 (show o.toList.length = 16 by simp)
  simp only [display, readText, hquad, hgroups]
  rw [groupOctets_groups (by simp)]
  exact congrArg some (@ofOctets_octets (v6 o) .v6 rfl)

/-- A valid address is read back from its text. -/
theorem parse_display {a : IpAddress} (h : a.isValid) : parse a.display = .ok a := by
  cases a with
  | invalid => simp [isValid] at h
  | v4 o =>
    unfold parse
    rw [readText_display_v4]
  | v6 o =>
    unfold parse
    rw [readText_display_v6]

/-- The text of the invalid address is no address. -/
theorem parse_invalid_display : parse invalid.display = .error (.invalidIpAddress "invalid") := by
  have hnone : readText "invalid".toList = none := by decide
  show parse "invalid" = _
  unfold parse
  rw [hnone]

/-- The serialized form of the invalid address fails to read, naming its text. -/
theorem decode_invalid_display (d : Config.Dialect) (span : Option Config.Span) :
    decode d (.string span invalid.display) =
      .error ⟨.rejected (ParseError.invalidIpAddress "invalid").message, span⟩ := by
  unfold decode
  dsimp only
  rw [parse_invalid_display]
  rfl

/-- The serialized form of an address, its text, reads back as the address exactly when the
address is valid. -/
theorem decode_display_iff (a : IpAddress) (d : Config.Dialect) (span : Option Config.Span) :
    decode d (.string span a.display) = .ok a ↔ a.isValid := by
  constructor
  · intro h
    cases a with
    | invalid => simp [decode_invalid_display] at h
    | v4 o | v6 o => rfl
  · intro h
    unfold decode
    dsimp only
    rw [parse_display h]

/-- Printing and reading addresses agree: every valid address, IPv4 or IPv6, is read back from
its text, and so from its serialized form, which is that text. The invalid address serializes as
`invalid`, which is no address, so the serialized form reads back exactly for the valid
addresses. -/
theorem display_reads_back :
    (∀ a : IpAddress, a.isValid → parse a.display = .ok a) ∧
    (∀ (a : IpAddress) (d : Config.Dialect) (span : Option Config.Span),
      decode d (.string span a.display) = .ok a ↔ a.isValid) ∧
    invalid.display = "invalid" ∧
    parse invalid.display = .error (.invalidIpAddress "invalid") ∧
    ∀ (d : Config.Dialect) (span : Option Config.Span),
      decode d (.string span invalid.display) =
        .error ⟨.rejected (ParseError.invalidIpAddress "invalid").message, span⟩ :=
  ⟨fun _ h => parse_display h, decode_display_iff, rfl, parse_invalid_display,
    decode_invalid_display⟩

/-- An IPv4-mapped address prints as `::ffff:` and a dotted quad, and is read back from it. -/
theorem display_reads_back_mapped :
    (v6 #v[0, 0, 0, 0, 0, 0, 0, 0, 0, 0, 255, 255, 192, 0, 2, 1]).display = "::ffff:192.0.2.1" ∧
      (v6 #v[0, 0, 0, 0, 0, 0, 0, 0, 0, 0, 255, 255, 192, 0, 2, 1]).isValid ∧
      parse (v6 #v[0, 0, 0, 0, 0, 0, 0, 0, 0, 0, 255, 255, 192, 0, 2, 1]).display =
        .ok (v6 #v[0, 0, 0, 0, 0, 0, 0, 0, 0, 0, 255, 255, 192, 0, 2, 1]) :=
  ⟨by decide, rfl, display_reads_back.1 _ rfl⟩

end RouteLease.IpAddress
