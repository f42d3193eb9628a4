import RemoteCall.Bytes

/-!
# Text as bytes

Text travels in UTF-8.  Writing it never fails.  Reading it back can, and then the caller is told
where the well-formed part ends and how many bytes of a character were found there, which is what
`Fault` holds.  Whether bytes are text at all is decided by core's own validity predicate; the scan
for the fault only explains a refusal.
-/

namespace RemoteCall.Utf8

/-- The UTF-8 form of a text. -/
def encode (s : String) : Bytes :=
  s.toByteArray.data.toList

/-- The text with this UTF-8 form, if there is one. -/
def decode? (bs : Bytes) : Option String :=
  String.fromUTF8? ⟨bs.toArray⟩

theorem decode?_encode (s : String) : decode? (encode s) = some s := by
  have h : (⟨(encode s).toArray⟩ : ByteArray) = s.toByteArray := by simp [encode]
  rw [decode?, h, String.fromUTF8?, dif_pos s.isValidUTF8]
  rfl

theorem encode_of_decode? {bs : Bytes} {s : String} (h : decode? bs = some s) : encode s = bs := by
  unfold decode? String.fromUTF8? at h
  split at h
  · cases h; simp [encode, String.fromUTF8]
  · exact nomatch h

theorem decode?_eq_some_iff {bs : Bytes} {s : String} : decode? bs = some s ↔ bs = encode s :=
  ⟨fun h => (encode_of_decode? h).symm, fun h => h ▸ decode?_encode s⟩

theorem encode_injective {s t : String} (h : encode s = encode t) : s = t := by
  have := decode?_encode s
  rw [h, decode?_encode] at this
  exact (Option.some.inj this).symm

theorem encode_append (s t : String) : encode (s ++ t) = encode s ++ encode t := by
  simp [encode]

/-! ## Where a byte string stops being text -/

/-- Why a byte string is not text: the length of its longest well-formed beginning, and how many of
the bytes after it begin a character, or `none` if the input ended inside that character. -/
structure Fault where
  validUpTo : Nat
  badLength : Option Nat
  deriving DecidableEq, Repr

/-- The explanation of a fault. -/
def Fault.message (f : Fault) : String :=
  match f.badLength with
  | some n => s!"invalid utf-8 sequence of {n} bytes from index {f.validUpTo}"
  | none => s!"incomplete utf-8 byte sequence from index {f.validUpTo}"

/-- How many bytes a character takes whose first byte is `b`; 0 if none begins with `b`. -/
def width (b : UInt8) : Nat :=
  if b < 0x80 then 1
  else if b < 0xc2 then 0
  else if b < 0xe0 then 2
  else if b < 0xf0 then 3
  else if b < 0xf5 then 4
  else 0

/-- Whether `b` continues a character. -/
def isContinuation (b : UInt8) : Bool :=
  0x80 ≤ b && b < 0xc0

/-- Whether `second` may follow `first`: longer forms than needed, surrogates and numbers beyond the
last code point are excluded by the second byte. -/
def canFollow (first second : UInt8) : Bool :=
  if first = 0xe0 then 0xa0 ≤ second && second < 0xc0
  else if first = 0xed then 0x80 ≤ second && second < 0xa0
  else if first = 0xf0 then 0x90 ≤ second && second < 0xc0
  else if first = 0xf4 then 0x80 ≤ second && second < 0x90
  else isContinuation second

/-- Checks the bytes of a character after its first one, of which `found` were read and `missing`
are still expected.  Returns the rest of the input behind the character, or the fault's length. -/
def tail (found : Nat) : (missing : Nat) → Bytes → Except (Option Nat) Bytes
  | 0, rest => .ok rest
  | _ + 1, [] => .error none
  | missing + 1, b :: rest =>
    if isContinuation b then tail (found + 1) missing rest else .error (some found)

theorem length_le_of_tail {found missing : Nat} {bs rest : Bytes}
    (h : tail found missing bs = .ok rest) : rest.length ≤ bs.length := by
  induction missing generalizing found bs with
  | zero => cases h; exact Nat.le_refl _
  | succ missing ih =>
    match bs with
    | [] => exact nomatch h
    | b :: bs =>
      rw [tail] at h
      split at h
      · exact Nat.le_succ_of_le (ih h)
      · exact nomatch h

/-- Reads one character: the rest of the input behind it, or the fault's length. -/
def skipChar (first : UInt8) (rest : Bytes) : Except (Option Nat) Bytes :=
  match width first with
  | 0 => .error (some 1)
  | 1 => .ok rest
  | w + 2 =>
    match rest with
    | [] => .error none
    | second :: rest => if canFollow first second then tail 2 w rest else .error (some 1)

theorem length_le_of_skipChar {first : UInt8} {bs rest : Bytes}
    (h : skipChar first bs = .ok rest) : rest.length ≤ bs.length := by
  rcases hw : width first with _ | _ | w
  · simp [skipChar, hw] at h
  · simp_all [skipChar]
  · cases bs with
    | nil => simp [skipChar, hw] at h
    | cons second bs =>
      by_cases hf : canFollow first second
      · exact Nat.le_succ_of_le (length_le_of_tail (by simpa [skipChar, hw, hf] using h))
      · simp [skipChar, hw, hf] at h

/-- The first fault in `bs`, whose own first byte stands at `index`. -/
def faultFrom (index : Nat) : Bytes → Option Fault
  | [] => none
  | first :: rest =>
    match _h : skipChar first rest with
    | .error badLength => some ⟨index, badLength⟩
    | .ok rest' => faultFrom (index + width first) rest'
termination_by bs => bs.length
decreasing_by
  have := length_le_of_skipChar (by assumption)
  simp only [List.length_cons]
  omega

/-- The fault of a byte string that is not text. -/
def fault (bs : Bytes) : Fault :=
  (faultFrom 0 bs).getD ⟨bs.length, none⟩

end RemoteCall.Utf8
