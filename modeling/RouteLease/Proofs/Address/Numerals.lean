import RouteLease.Address.Text
import Mathlib.Data.Nat.Digits.Defs

/-!
# Reading back printed numbers

An address is printed with numbers: the octets of a dotted quad in base ten, the groups of an
IPv6 address in base sixteen, both written by `Nat.toDigits`. Reading takes the longest run of
digits (`digitRun`) and checks its length, its value and its leading zero (`readNumber`).

The digits that `Nat.toDigits` writes are below the base, write the number, and start with a
zero only for zero itself (`toDigits_eq_map_digitChar`), so a printed number is read back whole
when no digit follows it (`readNumber_toDigits`). For dotted quads this gives `readIpv4_dotted`.
The other way round, a text is no dotted quad when its leading decimal digits are not followed by
a dot (`readIpv4_eq_none_of_head?`), which is how every IPv6 text starts.
-/

namespace RouteLease.IpAddress

/-! ## Digits -/

/-- A digit below a base of at most sixteen reads as its value. -/
theorem digitValue_digitChar {b d : Nat} (hb : b ≤ 16) (hd : d < b) :
    digitValue b (Nat.digitChar d) = some d := by
  have key : ∀ b < 17, ∀ d < b, digitValue b (Nat.digitChar d) = some d := by decide
  exact key b (by omega) d hd

/-- One more digit multiplies the value read so far by the base and adds the digit. -/
theorem valueOf_append_singleton (b : Nat) (ds : List Nat) (d : Nat) :
    valueOf b (ds ++ [d]) = valueOf b ds * b + d := by
  simp [valueOf, List.foldl_append]

/-- What `Nat.toDigits` writes: digits below the base, which write the number and start with a
zero only when the number is zero. -/
theorem toDigits_eq_map_digitChar {b : Nat} (hb : 1 < b) (n : Nat) :
    ∃ ds : List Nat, Nat.toDigits b n = ds.map Nat.digitChar ∧ (∀ d ∈ ds, d < b) ∧
      valueOf b ds = n ∧ (0 < n → ds.head? ≠ some 0) := by
  induction n using Nat.strongRecOn with
  | ind n ih =>
    rw [Nat.toDigits_eq_if hb]
    split
    · rename_i hnb
      refine ⟨[n], rfl, by simpa using hnb, by simp [valueOf], ?_⟩
      intro hn
      simp only [List.head?_cons, ne_eq, Option.some.injEq]
      omega
    · rename_i hnb
      -- the last digit is the remainder, the others write the quotient
      obtain ⟨ds, hds, hlt, hval, hhead⟩ := ih (n / b) (Nat.div_lt_self (by omega) hb)
      have hne : ds ≠ [] := fun h => Nat.toDigits_ne_nil (by rw [hds, h, List.map_nil])
      refine ⟨ds ++ [n % b], by simp [hds], ?_, ?_, ?_⟩
      · intro d hd
        rcases List.mem_append.1 hd with hd | hd
        · exact hlt d hd
        · rw [List.mem_singleton.1 hd]
          exact Nat.mod_lt _ (by omega)
      · rw [valueOf_append_singleton, hval, Nat.div_add_mod']
      · intro _
        obtain ⟨x, xs, rfl⟩ := List.exists_cons_of_ne_nil hne
        rw [List.cons_append, List.head?_cons]
        exact hhead (Nat.div_pos (by omega) (by omega))

/-! ## Reading numbers -/

/-- The digit run of digits followed by a character that is no digit is those digits. -/
theorem digitRun_append {b : Nat} {ds : List Nat} (hb : b ≤ 16) (hds : ∀ d ∈ ds, d < b)
    {rest : List Char} (hrest : ∀ c ∈ rest.head?, digitValue b c = none) :
    digitRun b (ds.map Nat.digitChar ++ rest) = (ds, rest) := by
  induction ds with
  | nil =>
    cases rest with
    | nil => rfl
    | cons c cs =>
      have hc : digitValue b c = none := hrest c rfl
      simp [digitRun, hc]
  | cons d ds ih =>
    have hd := digitValue_digitChar hb (hds d List.mem_cons_self)
    simp [digitRun, hd, ih fun d' hd' => hds d' (List.mem_cons_of_mem d hd')]

/-- What is left after a digit run: the text from its first character that is no digit. -/
theorem digitRun_snd (b : Nat) (cs : List Char) :
    (digitRun b cs).2 = cs.dropWhile fun c => (digitValue b c).isSome := by
  induction cs with
  | nil => rfl
  | cons c cs ih =>
    cases hc : digitValue b c with
    | none => simp [digitRun, hc]
    | some d => simp [digitRun, hc, ih]

/-- A number read leaves the text after its run of digits. -/
theorem readNumber_snd {radix maxDigits max : Nat} {zeroPrefix : Bool} {cs : List Char}
    {v : Nat} {rest : List Char}
    (h : readNumber radix maxDigits max zeroPrefix cs = some (v, rest)) :
    rest = (digitRun radix cs).2 := by
  unfold readNumber at h
  rcases hd : digitRun radix cs with ⟨ds, r⟩
  rw [hd] at h
  dsimp only at h
  split at h
  · cases h
  · simp only [Option.some.injEq, Prod.mk.injEq] at h
    exact h.2.symm

/-- A number printed in a base of at most sixteen is read back, with what follows it, when it is
within the bound and the number of digits allowed and no digit follows it. -/
theorem readNumber_toDigits {b maxDigits max n : Nat} (hb : 1 < b) (hb16 : b ≤ 16)
    (hn : n ≤ max) (hdigits : n < b ^ maxDigits) (hpos : 0 < maxDigits) (zeroPrefix : Bool)
    {rest : List Char} (hrest : ∀ c ∈ rest.head?, digitValue b c = none) :
    readNumber b maxDigits max zeroPrefix (Nat.toDigits b n ++ rest) = some (n, rest) := by
  obtain ⟨ds, hds, hlt, hval, hhead⟩ := toDigits_eq_map_digitChar hb n
  have hlen : ds.length ≤ maxDigits := by
    have := Nat.toDigits_length b n maxDigits hpos hdigits
    rwa [hds, List.length_map] at this
  have hne : ds ≠ [] := fun h => Nat.toDigits_ne_nil (by rw [hds, h, List.map_nil])
  -- a leading zero only stands in the number zero, which has one digit
  have hzero : ¬ (ds.head? = some 0 ∧ 1 < ds.length) := by
    rintro ⟨hh, hl⟩
    rcases Nat.eq_zero_or_pos n with rfl | hn0
    · have : ds.map Nat.digitChar = ['0'] := by rw [← hds, Nat.toDigits_zero]
      have := congrArg List.length this
      simp only [List.length_map, List.length_singleton] at this
      omega
    · exact hhead hn0 hh
  rw [hds, readNumber, digitRun_append hb16 hlt hrest]
  dsimp only
  rw [if_neg, hval]
  simp only [Bool.or_eq_true, List.isEmpty_iff, decide_eq_true_eq, Bool.and_eq_true,
    Bool.not_eq_true', beq_iff_eq, not_or, not_and]
  exact ⟨⟨⟨hne, by omega⟩, by omega⟩, fun ⟨_, hh⟩ hl => hzero ⟨hh, hl⟩⟩

/-! ## Dotted quads -/

/-- A dot is no digit in any base. -/
theorem digitValue_dot (b : Nat) : digitValue b '.' = none := rfl

/-- A colon is no digit in any base. -/
theorem digitValue_colon (b : Nat) : digitValue b ':' = none := rfl

/-- An octet's decimal digits are read back as the octet. -/
theorem readOctet_toDigits (x : UInt8) {rest : List Char}
    (hrest : ∀ c ∈ rest.head?, digitValue 10 c = none) :
    readOctet (Nat.toDigits 10 x.toNat ++ rest) = some (x, rest) := by
  have h256 : x.toNat < 256 := x.toNat_lt
  have hx : x.toNat < 10 ^ 3 := by omega
  rw [readOctet, readNumber_toDigits (by decide) (by decide) (by omega) hx (by decide) false hrest]
  simp

/-- An octet's decimal digits before a dot are read back as the octet, the dot left. -/
theorem readOctet_toDigits_dot (x : UInt8) (r : List Char) :
    readOctet (Nat.toDigits 10 x.toNat ++ '.' :: r) = some (x, '.' :: r) :=
  readOctet_toDigits x fun _ hc => by cases hc; rfl

/-- A dotted quad is its four octets in decimal, separated by dots. -/
theorem dotted_toList (a b c d : UInt8) :
    (dotted [a, b, c, d]).toList =
      Nat.toDigits 10 a.toNat ++ '.' :: (Nat.toDigits 10 b.toNat ++ '.' ::
        (Nat.toDigits 10 c.toNat ++ '.' :: Nat.toDigits 10 d.toNat)) := by
  simp [dotted]

/-- A dotted quad is read back as its four octets, with what follows it when no digit does. -/
theorem readIpv4_dotted (a b c d : UInt8) {rest : List Char}
    (hrest : ∀ c ∈ rest.head?, digitValue 10 c = none) :
    readIpv4 ((dotted [a, b, c, d]).toList ++ rest) = some ([a, b, c, d], rest) := by
  simp only [dotted_toList, List.append_assoc, List.cons_append]
  simp [readIpv4, readOctet_toDigits_dot, readOctet_toDigits d hrest, expect]

/-- A dotted quad on its own is read back as its four octets, with nothing left. -/
theorem readIpv4_dotted_whole (a b c d : UInt8) :
    readIpv4 (dotted [a, b, c, d]).toList = some ([a, b, c, d], []) := by
  have h : readIpv4 ((dotted [a, b, c, d]).toList ++ []) = some ([a, b, c, d], []) :=
    readIpv4_dotted a b c d (by simp)
  rwa [List.append_nil] at h

/-- A text is no dotted quad when its leading decimal digits are not followed by a dot. -/
theorem readIpv4_eq_none_of_head? {cs : List Char}
    (h : (cs.dropWhile fun c => (digitValue 10 c).isSome).head? ≠ some '.') :
    readIpv4 cs = none := by
  cases hr : readOctet cs with
  | none => simp [readIpv4, hr]
  | some r =>
    obtain ⟨x, rest⟩ := r
    -- the first octet stops at the first character that is no digit, which is no dot
    have hrest : rest = (digitRun 10 cs).2 := by
      cases hn : readNumber 10 3 255 false cs with
      | none => simp [readOctet, hn] at hr
      | some p =>
        obtain ⟨v, rest'⟩ := p
        simp only [readOctet, hn, Option.map_some, Option.some.injEq, Prod.mk.injEq] at hr
        rw [← hr.2, readNumber_snd hn]
    rw [digitRun_snd] at hrest
    subst hrest
    have hexp : expect '.' (cs.dropWhile fun c => (digitValue 10 c).isSome) = none := by
      revert h
      cases cs.dropWhile fun c => (digitValue 10 c).isSome with
      | nil => intro; rfl
      | cons c cs' =>
        intro h
        have hc : c ≠ '.' := fun hc => h (by rw [hc]; rfl)
        simp [expect, hc]
    simp [readIpv4, hr, hexp]

end RouteLease.IpAddress
