/-!
# Byte strings

Everything that crosses a connection is a finite sequence of bytes.  This module fixes that type and
the two ways a number is written into it: with its low byte first (inside an envelope) and with its
high byte first (the length in front of a frame).

* `littleEndian_length`, `littleEndian_ofLittleEndian`: a number of known width is written in
  exactly that many bytes, and bytes that were read as a number are the bytes of that number.
* `bigEndian_length`, `bigEndian_ofBigEndian`: the same for the other order.
* `splitFront_eq_some_iff`: taking bytes off the front succeeds exactly when there are enough of
  them.
* `isShorter_eq`: to compare a length with a number it is enough to look at so many bytes.
-/

namespace RemoteCall

/-- A byte string, first byte first. -/
abbrev Bytes := List UInt8

namespace Bytes

/-! ## Numbers with the low byte first -/

/-- The lowest `width` bytes of `n`, the least significant one first. -/
def littleEndian : (width n : Nat) → Bytes
  | 0, _ => []
  | width + 1, n => UInt8.ofNat n :: littleEndian width (n / 256)

/-- The number whose bytes these are, the least significant one first. -/
def ofLittleEndian : Bytes → Nat
  | [] => 0
  | b :: bs => b.toNat + 256 * ofLittleEndian bs

@[simp] theorem littleEndian_length (width n : Nat) : (littleEndian width n).length = width := by
  induction width generalizing n with
  | zero => rfl
  | succ width ih => simp [littleEndian, ih]

theorem littleEndian_ofLittleEndian (bs : Bytes) :
    littleEndian bs.length (ofLittleEndian bs) = bs := by
  induction bs with
  | nil => rfl
  | cons b bs ih =>
    have hb := b.toNat_lt
    have hdiv : (b.toNat + 256 * ofLittleEndian bs) / 256 = ofLittleEndian bs := by omega
    have hmod : UInt8.ofNat (b.toNat + 256 * ofLittleEndian bs) = b := by
      apply UInt8.toNat_inj.mp
      rw [UInt8.toNat_ofNat']
      omega
    rw [ofLittleEndian, List.length_cons, littleEndian, hdiv, hmod, ih]

/-! ## Numbers with the high byte first -/

/-- The lowest `width` bytes of `n`, the most significant one first. -/
def bigEndian (width n : Nat) : Bytes :=
  (littleEndian width n).reverse

/-- The number whose bytes these are, the most significant one first. -/
def ofBigEndian (bs : Bytes) : Nat :=
  ofLittleEndian bs.reverse

@[simp] theorem bigEndian_length (width n : Nat) : (bigEndian width n).length = width := by
  simp [bigEndian]

theorem bigEndian_ofBigEndian (bs : Bytes) : bigEndian bs.length (ofBigEndian bs) = bs := by
  have h := littleEndian_ofLittleEndian bs.reverse
  rw [List.length_reverse] at h
  rw [bigEndian, ofBigEndian, h, List.reverse_reverse]

/-! ## Taking bytes off the front -/

/-- The first `n` bytes and the rest, if there are that many. -/
def splitFront (n : Nat) (bs : Bytes) : Option (Bytes × Bytes) :=
  let front := bs.take n
  if front.length = n then some (front, bs.drop n) else none

theorem splitFront_eq_some_iff {n : Nat} {bs front rest : Bytes} :
    splitFront n bs = some (front, rest) ↔ bs = front ++ rest ∧ front.length = n := by
  constructor
  · intro h
    simp only [splitFront] at h
    split at h
    · next hlen =>
      cases h
      exact ⟨(List.take_append_drop n bs).symm, hlen⟩
    · exact nomatch h
  · rintro ⟨rfl, rfl⟩
    simp [splitFront]

theorem splitFront_eq_none_iff {n : Nat} {bs : Bytes} :
    splitFront n bs = none ↔ bs.length < n := by
  simp only [splitFront, List.length_take]
  split <;> simp <;> omega

/-- Whether there are fewer than `n` bytes; no more than `n` of them are looked at. -/
def isShorter : (n : Nat) → Bytes → Bool
  | 0, _ => false
  | _ + 1, [] => true
  | n + 1, _ :: bs => isShorter n bs

theorem isShorter_eq (n : Nat) (bs : Bytes) : isShorter n bs = decide (bs.length < n) := by
  induction n generalizing bs with
  | zero => simp [isShorter]
  | succ n ih => cases bs <;> simp [isShorter, ih]

theorem length_of_splitFront {n : Nat} {bs front rest : Bytes}
    (h : splitFront n bs = some (front, rest)) :
    front.length = n ∧ rest.length + n = bs.length := by
  obtain ⟨rfl, hlen⟩ := splitFront_eq_some_iff.mp h
  exact ⟨hlen, by rw [List.length_append]; omega⟩

end Bytes

end RemoteCall
