import Mathlib.Data.Nat.Bitwise
import RemoteCall.Checksum

/-!
# Bursts of errors change the checksum

Two facts about one bit step carry everything.  It is linear (`shift_xor`), so two registers that go
through the same bytes differ at the end by what their first difference has become.  And it loses
nothing: the polynomial has its highest bit set, so a register that is small behind a step was just
twice as much before it (`toNat_of_shift_lt`).

From this a difference never vanishes on the way (`eq_of_run_eq_run`), and it can be followed
backwards: registers that are the same after `n` different bytes differed by less than `256 ^ n`
before them (`xor_lt_of_run_eq`).  But a single byte leaves a difference at the high end of the
register, out of reach of three bytes more.  So a register that is the same after four bytes has met
the same bytes (`eq_of_run_eq`), and a burst within four bytes changes the checksum, whatever stands
before and behind it (`crc32c_ne_of_isBurst`).
-/

namespace RemoteCall.Checksum

/-! ## Registers as numbers -/

theorem xor_eq_zero_iff {p q : UInt32} : p ^^^ q = 0 ↔ p = q := by
  constructor
  · intro h
    rw [← UInt32.xor_self (a := q)] at h
    exact (UInt32.xor_left_inj q).mp h
  · rintro rfl
    exact UInt32.xor_self

theorem toNat_xor_lt {p q : UInt32} {k : Nat} (hp : p.toNat < 2 ^ k) (hq : q.toNat < 2 ^ k) :
    (p ^^^ q).toNat < 2 ^ k := by
  rw [UInt32.toNat_xor]
  exact Nat.xor_lt_two_pow hp hq

/-- If a sum is small and one of its parts is, so is the other. -/
theorem toNat_lt_of_xor_lt {p q : UInt32} {k : Nat} (hxor : (p ^^^ q).toNat < 2 ^ k)
    (hq : q.toNat < 2 ^ k) : p.toNat < 2 ^ k := by
  have hp : p = p ^^^ q ^^^ q := by rw [UInt32.xor_assoc, UInt32.xor_self, UInt32.xor_zero]
  rw [hp]
  exact toNat_xor_lt hxor hq

theorem toNat_byte_lt (b : UInt8) : b.toUInt32.toNat < 2 ^ 8 := by
  rw [UInt8.toNat_toUInt32]
  exact b.toNat_lt

/-! ## Bit steps -/

/-- What a step adds for the bit that leaves the register. -/
def carry (register : UInt32) : UInt32 :=
  if register.toNat % 2 = 1 then polynomial else 0

theorem shift_eq (r : UInt32) : shift r = (r >>> 1) ^^^ carry r := by
  have hlow : r &&& 1 = 1 ↔ r.toNat % 2 = 1 := by
    rw [← UInt32.toNat_inj, UInt32.toNat_and]
    show r.toNat &&& 1 = 1 ↔ _
    rw [Nat.and_one_is_mod]
  rw [shift, carry]
  by_cases h : r.toNat % 2 = 1
  · rw [if_pos h, if_pos (hlow.mpr h)]
  · rw [if_neg h, if_neg (fun hbit => h (hlow.mp hbit)), UInt32.xor_zero]

theorem carry_xor (p q : UInt32) : carry (p ^^^ q) = carry p ^^^ carry q := by
  have hlow : (p ^^^ q).toNat % 2 = (p.toNat % 2 + q.toNat % 2) % 2 := by
    rw [UInt32.toNat_xor, Nat.xor_mod_two_eq, Nat.add_mod]
  unfold carry
  rw [hlow]
  rcases Nat.mod_two_eq_zero_or_one p.toNat with hp | hp <;>
    rcases Nat.mod_two_eq_zero_or_one q.toNat with hq | hq <;> rw [hp, hq] <;> rfl

/-- **Steps are linear.** -/
theorem shift_xor (p q : UInt32) : shift (p ^^^ q) = shift p ^^^ shift q := by
  rw [shift_eq, shift_eq, shift_eq, carry_xor, UInt32.shiftRight_xor]
  ac_rfl

/-- **Steps lose nothing**: what is small behind a step was twice as much before it. -/
theorem toNat_of_shift_lt {r : UInt32} (h : (shift r).toNat < 2 ^ 31) :
    r.toNat = 2 * (shift r).toNat := by
  have hlt := r.toNat_lt
  have hhalf : (r >>> 1).toNat = r.toNat / 2 := by
    rw [UInt32.toNat_shiftRight]
    rfl
  have hcarry : (carry r).toNat < 2 ^ 31 := by
    rw [shift_eq, UInt32.xor_comm] at h
    exact toNat_lt_of_xor_lt h (by omega)
  -- the polynomial is not small, so it was not subtracted
  have heven : ¬ r.toNat % 2 = 1 := by
    intro hodd
    rw [carry, if_pos hodd] at hcarry
    exact absurd hcarry (by decide)
  have hshift : (shift r).toNat = r.toNat / 2 := by
    rw [shift_eq, carry, if_neg heven, UInt32.xor_zero, hhalf]
  omega

/-! ## Bytes -/

theorem shift8_xor (p q : UInt32) : shift8 (p ^^^ q) = shift8 p ^^^ shift8 q := by
  simp only [shift8, shift_xor]

theorem toNat_of_iterate_shift_lt {n : Nat} {r : UInt32}
    (h : 2 ^ n * (shift^[n] r).toNat < 2 ^ 32) : r.toNat = 2 ^ n * (shift^[n] r).toNat := by
  induction n generalizing r with
  | zero => exact (Nat.one_mul _).symm
  | succ n ih =>
    rw [Function.iterate_succ_apply, Nat.pow_succ', Nat.mul_assoc] at h ⊢
    have hrest : (shift r).toNat = 2 ^ n * (shift^[n] (shift r)).toNat := ih (by omega)
    rw [← hrest] at h ⊢
    exact toNat_of_shift_lt (by omega)

/-- What is small behind a byte was 256 times as much before it. -/
theorem toNat_of_shift8_lt {r : UInt32} (h : (shift8 r).toNat < 2 ^ 24) :
    r.toNat = 256 * (shift8 r).toNat := by
  have hiterate : shift^[8] r = shift8 r := rfl
  have hnat := @toNat_of_iterate_shift_lt 8 r
  rw [hiterate] at hnat
  exact hnat (by omega)

/-- Where two registers differ little behind a byte of their own, they and the bytes together differed
256 times as much before it. -/
theorem toNat_of_feed_lt {p q : UInt32} {b c : UInt8}
    (h : (feed p b ^^^ feed q c).toNat < 2 ^ 24) :
    ((p ^^^ q) ^^^ (b.toUInt32 ^^^ c.toUInt32)).toNat = 256 * (feed p b ^^^ feed q c).toNat := by
  have hfeed : feed p b ^^^ feed q c = shift8 ((p ^^^ q) ^^^ (b.toUInt32 ^^^ c.toUInt32)) := by
    rw [feed, feed, ← shift8_xor]
    congr 1
    ac_rfl
  rw [hfeed] at h ⊢
  exact toNat_of_shift8_lt h

/-- Registers that are the same behind a byte were the same before it. -/
theorem eq_of_feed_eq {p q : UInt32} {b : UInt8} (h : feed p b = feed q b) : p = q := by
  have hzero : feed p b ^^^ feed q b = 0 := xor_eq_zero_iff.mpr h
  have hnat := @toNat_of_feed_lt p q b b (by rw [hzero]; decide)
  rw [hzero, UInt32.xor_self, UInt32.xor_zero] at hnat
  exact xor_eq_zero_iff.mp (UInt32.toNat_inj.mp hnat)

/-- **A difference never vanishes** while the bytes are the same. -/
theorem eq_of_run_eq_run {p q : UInt32} {bs : Bytes} (h : run p bs = run q bs) : p = q := by
  induction bs generalizing p q with
  | nil => exact h
  | cons b bs ih => exact eq_of_feed_eq (ih h)

/-- Registers that meet after a few bytes of their own cannot have differed much. -/
theorem xor_lt_of_run_eq {p q : UInt32} {was now : Bytes} (hlength : was.length = now.length)
    (hfour : was.length ≤ 4) (h : run p was = run q now) :
    (p ^^^ q).toNat < 2 ^ (8 * was.length) := by
  induction was generalizing p q now with
  | nil =>
    cases now with
    | nil =>
      have hpq : p = q := h
      rw [hpq, UInt32.xor_self]
      decide
    | cons c now => cases hlength
  | cons b was ih =>
    cases now with
    | nil => cases hlength
    | cons c now =>
      rw [List.length_cons] at hfour ⊢
      have hbehind := ih (Nat.succ.inj hlength) (by omega) h
      have hsmall : 2 ^ (8 * was.length) ≤ 2 ^ 24 := Nat.pow_le_pow_right (by decide) (by omega)
      have hpow : 2 ^ (8 * (was.length + 1)) = 256 * 2 ^ (8 * was.length) := by
        rw [Nat.mul_add, Nat.pow_add, Nat.mul_comm]
      have hsum := toNat_of_feed_lt (Nat.lt_of_lt_of_le hbehind hsmall)
      have hbytes : (b.toUInt32 ^^^ c.toUInt32).toNat < 2 ^ (8 * (was.length + 1)) :=
        Nat.lt_of_lt_of_le (toNat_xor_lt (toNat_byte_lt b) (toNat_byte_lt c))
          (Nat.pow_le_pow_right (by decide) (by omega))
      exact toNat_lt_of_xor_lt (by omega) hbytes

/-- **Four bytes leave different registers behind** if they are different. -/
theorem eq_of_run_eq {r : UInt32} {was now : Bytes} (hlength : was.length = now.length)
    (hfour : was.length ≤ 4) (h : run r was = run r now) : was = now := by
  induction was generalizing r now with
  | nil => exact (List.length_eq_zero_iff.mp hlength.symm).symm
  | cons b was ih =>
    cases now with
    | nil => cases hlength
    | cons c now =>
      rw [List.length_cons] at hfour
      have hlength' : was.length = now.length := Nat.succ.inj hlength
      have hbehind : (feed r b ^^^ feed r c).toNat < 2 ^ (8 * was.length) :=
        xor_lt_of_run_eq hlength' (by omega) h
      have hsmall : 2 ^ (8 * was.length) ≤ 2 ^ 24 := Nat.pow_le_pow_right (by decide) (by omega)
      have hsum := toNat_of_feed_lt (Nat.lt_of_lt_of_le hbehind hsmall)
      rw [UInt32.xor_self, UInt32.zero_xor] at hsum
      -- 256 times something, and less than 256
      have hbytes := toNat_xor_lt (toNat_byte_lt b) (toNat_byte_lt c)
      have hzero : b.toUInt32 ^^^ c.toUInt32 = 0 := by
        rw [← UInt32.toNat_inj]
        show _ = 0
        omega
      have hbc : b = c := UInt8.toUInt32_inj.mp (xor_eq_zero_iff.mp hzero)
      subst hbc
      rw [ih hlength' (by omega) h]

/-! ## Bursts -/

/-- The second byte string is as long as the first and not the same, but outside a window of `n`
bytes it is. -/
structure IsBurst (n : Nat) (sent received : Bytes) : Prop where
  length : received.length = sent.length
  ne : received ≠ sent
  window : ∃ start, ∀ i, i < start ∨ start + n ≤ i → received[i]? = sent[i]?

/-- What stands before and behind the window is the same. -/
theorem IsBurst.split {n : Nat} {sent received : Bytes} (h : IsBurst n sent received) :
    ∃ front was now back, sent = front ++ was ++ back ∧ received = front ++ now ++ back ∧
      was.length = now.length ∧ was.length ≤ n ∧ was ≠ now := by
  obtain ⟨hlength, hne, start, hsame⟩ := h
  have hfront : received.take start = sent.take start := by
    apply List.ext_getElem?
    intro i
    by_cases hi : i < start
    · rw [List.getElem?_take_of_lt hi, List.getElem?_take_of_lt hi, hsame i (Or.inl hi)]
    · rw [List.getElem?_take_eq_none (by omega), List.getElem?_take_eq_none (by omega)]
  have hback : received.drop (start + n) = sent.drop (start + n) := by
    apply List.ext_getElem?
    intro i
    rw [List.getElem?_drop, List.getElem?_drop, hsame _ (Or.inr (Nat.le_add_right _ i))]
  have hsplit (bs : Bytes) :
      bs = bs.take start ++ (bs.drop start).take n ++ bs.drop (start + n) := by
    rw [List.append_assoc, ← List.drop_drop, List.take_append_drop, List.take_append_drop]
  refine ⟨sent.take start, (sent.drop start).take n, (received.drop start).take n,
    sent.drop (start + n), hsplit sent, ?_, ?_, List.length_take_le _ _, ?_⟩
  · rw [← hfront, ← hback]
    exact hsplit received
  · rw [List.length_take, List.length_take, List.length_drop, List.length_drop, hlength]
  · intro heq
    apply hne
    rw [hsplit received, hsplit sent, hfront, hback, heq]

/-- Whatever is put into a window makes a burst, unless it stood there before. -/
theorem isBurst_of_ne {n : Nat} {was now : Bytes} (hlength : was.length = now.length)
    (hn : was.length ≤ n) (hne : was ≠ now) (front back : Bytes) :
    IsBurst n (front ++ was ++ back) (front ++ now ++ back) := by
  refine ⟨by simp only [List.length_append, hlength], ?_, front.length, ?_⟩
  · intro heq
    rw [List.append_assoc, List.append_assoc] at heq
    exact hne (List.append_inj_left (List.append_cancel_left heq) hlength.symm).symm
  · intro i hi
    rcases hi with hi | hi
    · rw [List.append_assoc, List.append_assoc, List.getElem?_append_left hi,
        List.getElem?_append_left hi]
    · have hbehind (mid : Bytes) (hmid : mid.length = was.length) :
          (front ++ mid ++ back)[i]? = back[i - (front.length + was.length)]? := by
        rw [List.getElem?_append_right (by rw [List.length_append]; omega), List.length_append, hmid]
      rw [hbehind now hlength.symm, hbehind was rfl]

/-- **A burst within four bytes changes the checksum.** -/
theorem crc32c_ne_of_isBurst {sent received : Bytes} (h : IsBurst 4 sent received) :
    crc32c received ≠ crc32c sent := by
  obtain ⟨front, was, now, back, rfl, rfl, hlength, hfour, hne⟩ := h.split
  intro heq
  have hrun : run 0xffffffff (front ++ now ++ back) = run 0xffffffff (front ++ was ++ back) :=
    (UInt32.xor_left_inj 0xffffffff).mp heq
  simp only [run_append] at hrun
  exact hne (eq_of_run_eq hlength hfour (eq_of_run_eq_run hrun.symm))

end RemoteCall.Checksum
