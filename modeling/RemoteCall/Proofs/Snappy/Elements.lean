import RemoteCall.Bytes.Range
import RemoteCall.Snappy.Compress
import RemoteCall.Snappy.Expand

/-!
# Elements are read back as they were written

The byte forms of elements stand one after the other with nothing between them, so each has to tell
where it ends.  `Element.IsWritable` says which elements have a byte form here, `readElement_append`
reads one of them back whatever follows it, and `expandElements_flatMap` carries out a whole list:
if the elements produce no more than was announced, reading their byte forms produces the same.

`produce` is the meaning of a list of elements without any byte form, and the link between the two
sides of the format.
-/

namespace RemoteCall.Snappy

/-! ## Elements that can be written -/

/-- Elements that the byte form can hold: literals of 1 to 65536 bytes, and copies of 1 to 64 bytes
from at most 65535 bytes back, of at least 4 if they are written in the short form. -/
def Element.IsWritable : Element → Prop
  | .literal bytes => 1 ≤ bytes.length ∧ bytes.length ≤ 65536
  | .copy offset length =>
    1 ≤ length ∧ length ≤ 64 ∧ offset < 65536 ∧ (length ≤ 11 → offset ≤ 2047 → 4 ≤ length)

theorem toNat_ofNat_of_lt {n : Nat} (h : n < 256) : (UInt8.ofNat n).toNat = n := by
  rw [UInt8.toNat_ofNat', Nat.mod_eq_of_lt (by omega)]

theorem readLiteral_append {room : Nat} {bytes : Bytes} (h : bytes.length ≤ room) (rest : Bytes) :
    readLiteral room bytes.length (bytes ++ rest) = .ok (.literal bytes, rest) := by
  rw [readLiteral, if_neg (by omega), Bytes.splitFront_eq_some_iff.mpr ⟨rfl, rfl⟩]

theorem readCopy_append {offset base width n : Nat} (h : n < 256 ^ width) (length : Nat)
    (ho : offset = base + n) (rest : Bytes) :
    readCopy length base width (Bytes.littleEndian width n ++ rest)
      = .ok (.copy offset length, rest) := by
  have hs : Bytes.splitFront width (Bytes.littleEndian width n ++ rest)
      = some (Bytes.littleEndian width n, rest) :=
    Bytes.splitFront_eq_some_iff.mpr ⟨rfl, Bytes.littleEndian_length width n⟩
  rw [readCopy, hs, ho]
  show Except.ok (Element.copy (base + Bytes.ofLittleEndian (Bytes.littleEndian width n)) length,
    rest) = _
  rw [Bytes.ofLittleEndian_littleEndian, Nat.mod_eq_of_lt h]

/-- A literal whose length stands in bytes of its own behind the tag. -/
theorem readElement_longLiteral {room width : Nat} {tag : UInt8} {bytes : Bytes}
    (hkind : tag.toNat % 4 = 0) (hwidth : tag.toNat / 4 = width + 60)
    (h1 : 1 ≤ bytes.length) (h2 : bytes.length - 1 < 256 ^ (width + 1))
    (hroom : bytes.length ≤ room) (rest : Bytes) :
    readElement room tag (Bytes.littleEndian (width + 1) (bytes.length - 1) ++ (bytes ++ rest))
      = .ok (.literal bytes, rest) := by
  have hs : Bytes.splitFront (width + 1)
      (Bytes.littleEndian (width + 1) (bytes.length - 1) ++ (bytes ++ rest))
      = some (Bytes.littleEndian (width + 1) (bytes.length - 1), bytes ++ rest) :=
    Bytes.splitFront_eq_some_iff.mpr ⟨rfl, Bytes.littleEndian_length _ _⟩
  have hn : Bytes.ofLittleEndian (Bytes.littleEndian (width + 1) (bytes.length - 1)) + 1
      = bytes.length := by
    rw [Bytes.ofLittleEndian_littleEndian, Nat.mod_eq_of_lt h2]
    omega
  have hextra : width + 60 - 59 = width + 1 := by omega
  simp only [readElement, hkind, hwidth, hextra, hs, hn]
  rw [if_neg (by omega)]
  exact readLiteral_append hroom rest

/-- A literal is read back: its length stands in the tag, or in one or two bytes behind it. -/
theorem readElement_literal {room : Nat} {bytes : Bytes} (h1 : 1 ≤ bytes.length)
    (h2 : bytes.length ≤ 65536) (hroom : bytes.length ≤ room) (rest : Bytes) :
    ∃ tag source, (Element.literal bytes).encode ++ rest = tag :: source ∧
      readElement room tag source = .ok (.literal bytes, rest) := by
  by_cases hshort : bytes.length - 1 < 60
  · refine ⟨UInt8.ofNat ((bytes.length - 1) * 4), bytes ++ rest, ?_, ?_⟩
    · simp [Element.encode, literalTag, hshort]
    · have ht : (UInt8.ofNat ((bytes.length - 1) * 4)).toNat = (bytes.length - 1) * 4 :=
        toNat_ofNat_of_lt (by omega)
      have hl : (bytes.length - 1) * 4 / 4 + 1 = bytes.length := by omega
      simp only [readElement, ht, Nat.mul_mod_left]
      rw [if_pos (by omega), hl, readLiteral_append hroom rest]
  · by_cases hbyte : bytes.length - 1 < 256
    · refine ⟨0xf0, Bytes.littleEndian 1 (bytes.length - 1) ++ (bytes ++ rest), ?_, ?_⟩
      · simp [Element.encode, literalTag, hshort, hbyte, Bytes.littleEndian]
      · exact readElement_longLiteral rfl rfl h1 (by omega) hroom rest
    · refine ⟨0xf4, Bytes.littleEndian 2 (bytes.length - 1) ++ (bytes ++ rest), ?_, ?_⟩
      · simp [Element.encode, literalTag, hshort, hbyte]
      · exact readElement_longLiteral rfl rfl h1 (by omega) hroom rest

theorem readElement_copy {room offset length : Nat} (h : (Element.copy offset length).IsWritable)
    (rest : Bytes) :
    ∃ tag source, (Element.copy offset length).encode ++ rest = tag :: source ∧
      readElement room tag source = .ok (.copy offset length, rest) := by
  obtain ⟨h1, h64, hoffset, hfour⟩ := h
  by_cases hshort : length ≤ 11 ∧ offset ≤ 2047
  · -- the high bits of the offset and the length stand in the tag
    have h4 := hfour hshort.1 hshort.2
    refine ⟨UInt8.ofNat (offset / 256 * 32 + (length - 4) * 4 + 1),
      Bytes.littleEndian 1 offset ++ rest, ?_, ?_⟩
    · simp [Element.encode, hshort, Bytes.littleEndian]
    · have ht : (UInt8.ofNat (offset / 256 * 32 + (length - 4) * 4 + 1)).toNat
          = offset / 256 * 32 + (length - 4) * 4 + 1 := toNat_ofNat_of_lt (by omega)
      have hkind : (offset / 256 * 32 + (length - 4) * 4 + 1) % 4 = 1 := by omega
      have hlen : (offset / 256 * 32 + (length - 4) * 4 + 1) / 4 % 8 + 4 = length := by omega
      have hhigh : (offset / 256 * 32 + (length - 4) * 4 + 1) / 32 = offset / 256 := by omega
      have hlow : Bytes.littleEndian 1 offset = Bytes.littleEndian 1 (offset % 256) := by
        simp only [Bytes.littleEndian, List.cons.injEq, and_true]
        apply UInt8.toNat_inj.mp
        rw [UInt8.toNat_ofNat', UInt8.toNat_ofNat', Nat.mod_mod]
      simp only [readElement, ht, hkind, hlen, hhigh]
      rw [hlow]
      exact readCopy_append (by omega) length (by omega) rest
  · refine ⟨UInt8.ofNat ((length - 1) * 4 + 2), Bytes.littleEndian 2 offset ++ rest, ?_, ?_⟩
    · simp [Element.encode, hshort]
    · have ht : (UInt8.ofNat ((length - 1) * 4 + 2)).toNat = (length - 1) * 4 + 2 :=
        toNat_ofNat_of_lt (by omega)
      have hkind : ((length - 1) * 4 + 2) % 4 = 2 := by omega
      have hlen : ((length - 1) * 4 + 2) / 4 + 1 = length := by omega
      simp only [readElement, ht, hkind, hlen]
      exact readCopy_append (by omega) length (by omega) rest

/-- How much room an element needs before it is carried out: only literals are checked that early. -/
def Element.room : Element → Nat
  | .literal bytes => bytes.length
  | .copy _ _ => 0

/-- **An element is read back**, whatever follows it. -/
theorem readElement_append {room : Nat} {e : Element} (h : e.IsWritable) (hroom : e.room ≤ room)
    (rest : Bytes) :
    ∃ tag source, e.encode ++ rest = tag :: source ∧
      readElement room tag source = .ok (e, rest) := by
  cases e with
  | literal bytes => exact readElement_literal h.1 h.2 hroom rest
  | copy offset length => exact readElement_copy h rest

/-! ## Carrying out a list of elements -/

/-- What elements produce on top of what was produced so far. -/
def produce (size : Nat) (out : Array UInt8) : List Element → Except Error (Array UInt8)
  | [] => .ok out
  | e :: es =>
    match e.expand size out with
    | .error cause => .error cause
    | .ok out => produce size out es

theorem produce_append {size : Nat} {out mid : Array UInt8} {es : List Element}
    (h : produce size out es = .ok mid) (fs : List Element) :
    produce size out (es ++ fs) = produce size mid fs := by
  induction es generalizing out with
  | nil =>
    cases h
    rfl
  | cons e es ih =>
    rw [produce] at h
    rw [List.cons_append, produce]
    cases he : e.expand size out with
    | error cause => simp [he] at h
    | ok out' =>
      simp only [he] at h
      exact ih h

theorem size_repeatBack (offset length : Nat) (out : Array UInt8) :
    (repeatBack offset length out).size = out.size + length := by
  induction length generalizing out with
  | zero => rfl
  | succ length ih =>
    rw [repeatBack, ih, Array.size_push]
    omega

/-- How many bytes an element stands for. -/
def Element.length : Element → Nat
  | .literal bytes => bytes.length
  | .copy _ length => length

theorem Element.room_le_length (e : Element) : e.room ≤ e.length := by
  cases e with
  | literal bytes => exact Nat.le_refl _
  | copy offset length => exact Nat.zero_le _

/-- What an element adds. -/
theorem size_of_expand {size : Nat} {out out' : Array UInt8} {e : Element}
    (h : e.expand size out = .ok out') : out'.size = out.size + e.length := by
  cases e with
  | literal bytes =>
    cases h
    have hlen := congrArg List.length (@Array.toList_appendList _ out bytes)
    rw [Array.length_toList, List.length_append, Array.length_toList] at hlen
    exact hlen
  | copy offset length =>
    rw [Element.expand] at h
    split at h
    · cases h
    · split at h
      · cases h
      · cases h
        exact size_repeatBack offset length out

/-- What an element adds is at least what it needs room for. -/
theorem size_expand {size : Nat} {out out' : Array UInt8} {e : Element}
    (h : e.expand size out = .ok out') : out.size + e.room ≤ out'.size := by
  have hsize := size_of_expand h
  have hroom := e.room_le_length
  omega

theorem size_le_of_produce {size : Nat} {out out' : Array UInt8} {es : List Element}
    (h : produce size out es = .ok out') : out.size ≤ out'.size := by
  induction es generalizing out with
  | nil =>
    cases h
    exact Nat.le_refl _
  | cons e es ih =>
    rw [produce] at h
    cases he : e.expand size out with
    | error cause => simp [he] at h
    | ok mid =>
      simp only [he] at h
      have h1 := size_expand he
      have h2 := ih h
      omega

/-- **The byte forms of elements produce what the elements produce**, if that is not more than was
announced. -/
theorem expandElements_flatMap {size : Nat} {out out' : Array UInt8} {es : List Element}
    (hes : ∀ e ∈ es, e.IsWritable) (h : produce size out es = .ok out') (hsize : out'.size ≤ size) :
    expandElements size (es.flatMap Element.encode) out = .ok out' := by
  induction es generalizing out with
  | nil =>
    cases h
    rw [List.flatMap_nil, expandElements]
  | cons e es ih =>
    rw [produce] at h
    cases he : e.expand size out with
    | error cause => simp [he] at h
    | ok mid =>
      simp only [he] at h
      -- what the rest adds only makes the result longer, so this element has its room
      have hroom : e.room ≤ size - out.size := by
        have h1 := size_expand he
        have h2 := size_le_of_produce h
        omega
      obtain ⟨tag, source, hsource, hread⟩ :=
        readElement_append (hes e List.mem_cons_self) hroom (es.flatMap Element.encode)
      rw [List.flatMap_cons, hsource, expandElements]
      split
      · next cause hbad =>
        rw [hread] at hbad
        cases hbad
      · next element rest hgood =>
        rw [hread] at hgood
        cases hgood
        simp only [he]
        exact ih (fun f hf => hes f (List.mem_cons_of_mem e hf)) h

/-! ## The preamble -/

theorem readPreamble_append {n groups : Nat} (h : n < 128 ^ (groups + 1)) (rest : Bytes) :
    readPreamble (groups + 1) (preamble n ++ rest) = some (n, rest) := by
  induction groups generalizing n with
  | zero =>
    -- the last group is below 128, which is what ends the preamble
    have hn : n < 128 := by omega
    have ht : (UInt8.ofNat n).toNat = n := toNat_ofNat_of_lt (by omega)
    have hlt : UInt8.ofNat n < 128 := by
      rw [UInt8.lt_iff_toNat_lt, ht]
      exact hn
    rw [preamble, if_pos hn, List.singleton_append, readPreamble, if_pos hlt, ht]
  | succ groups ih =>
    by_cases hn : n < 128
    · have ht : (UInt8.ofNat n).toNat = n := toNat_ofNat_of_lt (by omega)
      have hlt : UInt8.ofNat n < 128 := by
        rw [UInt8.lt_iff_toNat_lt, ht]
        exact hn
      rw [preamble, if_pos hn, List.singleton_append, readPreamble, if_pos hlt, ht]
    · have ht : (UInt8.ofNat (n % 128 + 128)).toNat = n % 128 + 128 := toNat_ofNat_of_lt (by omega)
      have hge : ¬ UInt8.ofNat (n % 128 + 128) < 128 := by
        rw [UInt8.lt_iff_toNat_lt, ht]
        show ¬ n % 128 + 128 < 128
        omega
      have hdiv : n / 128 < 128 ^ (groups + 1) := by
        rw [Nat.pow_succ] at h
        omega
      rw [preamble, if_neg hn, List.cons_append, readPreamble, if_neg hge, ih hdiv, ht]
      simp only [Option.map_some, Option.some.injEq, Prod.mk.injEq, and_true]
      omega

/-- A block that can be expanded announces the length of what it stands for. -/
theorem announcedLength_of_expand {block payload : Bytes} (h : expand block = .ok payload) :
    announcedLength block = .ok payload.length := by
  rw [expand] at h
  split at h
  · cases h
  · next hne =>
    split at h
    · cases h
    · next size source hread =>
      split at h
      · cases h
      · next hmax =>
        split at h
        · cases h
        · next out _ =>
          split at h
          · next hsize =>
            have hout : out.toList = payload := Except.ok.inj h
            rw [announcedLength, if_neg hne, hread]
            simp only [if_neg hmax]
            rw [← hout, Array.length_toList, hsize]
          · cases h

end RemoteCall.Snappy
