import RemoteCall.Snappy.Basic

/-!
# Writing a compressed block

The input is cut into chunks of 65536 bytes and each is compressed alone, so no copy reaches across
a border.  Within a chunk a table remembers, for a hash of four bytes, the last position at which
they were looked up.  The search for a repetition takes ever longer steps while it finds nothing.  A
candidate from the table counts only if its four bytes really agree, and a copy then reaches as far
as the bytes keep agreeing; so whatever the table holds, the elements expand to the chunk.

Chunks under 17 bytes, and the last 15 bytes of every chunk unless a copy runs into them, are
literals.
-/

namespace RemoteCall.Snappy

/-! ## Elements as bytes -/

/-- The tag of a literal of `length` bytes, with the length behind it if it does not fit. -/
def literalTag (length : Nat) : Bytes :=
  let n := length - 1
  if n < 60 then [UInt8.ofNat (n * 4)]
  else if n < 256 then [0xf0, UInt8.ofNat n]
  else 0xf4 :: Bytes.littleEndian 2 n

/-- The byte form of an element.  A copy takes the one-byte offset if its length and offset fit. -/
def Element.encode : Element → Bytes
  | .literal bytes => literalTag bytes.length ++ bytes
  | .copy offset length =>
    if length ≤ 11 ∧ offset ≤ 2047 then
      [UInt8.ofNat (offset / 256 * 32 + (length - 4) * 4 + 1), UInt8.ofNat offset]
    else UInt8.ofNat ((length - 1) * 4 + 2) :: Bytes.littleEndian 2 offset

/-! ## Finding repetitions in a chunk -/

/-- Bytes to compress alone, at most 65536 of them. -/
abbrev Chunk := Array UInt8

/-- The four bytes from `i` on, as one number. -/
def Chunk.word (chunk : Chunk) (i : Nat) : UInt32 :=
  (chunk.getD i 0).toUInt32 ||| (chunk.getD (i + 1) 0).toUInt32 <<< 8 |||
    (chunk.getD (i + 2) 0).toUInt32 <<< 16 ||| (chunk.getD (i + 3) 0).toUInt32 <<< 24

/-- The bytes from `start` up to but without `stop`. -/
def Chunk.slice (chunk : Chunk) (start stop : Nat) : Bytes :=
  (chunk.extract start stop).toList

/-- For every hash the position at which it was last looked up; at first position 0 for all. -/
structure Table where
  bits : Nat
  slots : Array Nat

/-- An empty table for a chunk of `length` bytes: 256 slots, doubled up to 16384 while that is less
than the length. -/
def Table.forLength (length : Nat) : Table :=
  let bits := if length ≤ 256 then 8 else min 14 ((length - 1).log2 + 1)
  ⟨bits, Array.replicate (1 <<< bits) 0⟩

/-- The slot for four bytes. -/
def Table.hash (table : Table) (word : UInt32) : Nat :=
  ((word * 0x1e35a7bd) >>> UInt32.ofNat (32 - table.bits)).toNat

/-- The position remembered for the four bytes at `position`, which takes its place. -/
def Table.exchange (table : Table) (chunk : Chunk) (position : Nat) : Nat × Table :=
  let slot := table.hash (chunk.word position)
  (table.slots.getD slot 0, { table with slots := table.slots.setIfInBounds slot position })

/-- Searches from `position` on for four bytes that a remembered position has too.  The step is one
longer than `patience / 32`, which grows by every step.  Returns where the four bytes stand, the
remembered position and the table. -/
def findRepeat (chunk : Chunk) (limit : Nat) (table : Table) (position patience : Nat) :
    Option (Nat × Nat × Table) :=
  let step := 1 + patience / 32
  if limit < position + step then none
  else
    let seen := table.exchange chunk position
    if seen.1 < position ∧ chunk.word position = chunk.word seen.1 then
      some (position, seen.1, seen.2)
    else findRepeat chunk limit seen.2 (position + step) (patience + step)
termination_by limit - position
decreasing_by omega

/-- The first position from `position` on at which the chunk differs from itself read from
`candidate` on, or its end. -/
def agreeUntil (chunk : Chunk) (candidate position : Nat) : Nat :=
  if position < chunk.size ∧ chunk.getD candidate 0 = chunk.getD position 0 then
    agreeUntil chunk (candidate + 1) (position + 1)
  else position
termination_by chunk.size - position

/-- A repetition of `length` bytes as copies of 4 to 64 bytes. -/
def copies (offset length : Nat) : List Element :=
  if 68 ≤ length then .copy offset 64 :: copies offset (length - 64)
  else if 64 < length then [.copy offset 60, .copy offset (length - 60)]
  else [.copy offset length]
termination_by length

/-! ## Compressing a chunk -/

/-- How the compression of a chunk stands: the elements so far, and how much of the chunk they
cover. -/
structure Progress where
  elements : Array Element
  covered : Nat

/-- Takes over bytes that repeat nothing. -/
def Progress.literal (p : Progress) (chunk : Chunk) (stop : Nat) : Progress :=
  if p.covered < stop then
    ⟨p.elements.push (.literal (chunk.slice p.covered stop)), stop⟩
  else p

/-- Takes over bytes that repeat those from `candidate` on. -/
def Progress.repetition (p : Progress) (candidate stop : Nat) : Progress :=
  ⟨p.elements ++ copies (p.covered - candidate) (stop - p.covered), stop⟩

/-- Takes over repetitions as long as each is followed at once by another.  The bytes from
`p.covered` on agree with those from `candidate` on.  Returns the table to go on searching with, or
`none` if the end of the chunk is near. -/
def followRepeats (chunk : Chunk) (limit : Nat) (table : Table) (p : Progress)
    (candidate : Nat) : Progress × Option Table :=
  let stop := agreeUntil chunk (candidate + 4) (p.covered + 4)
  let p' := p.repetition candidate stop
  if limit ≤ stop ∨ stop ≤ p.covered then (p', none)
  else
    let table := (table.exchange chunk (stop - 1)).2
    let seen := table.exchange chunk stop
    if seen.1 < stop ∧ chunk.word stop = chunk.word seen.1 then
      followRepeats chunk limit seen.2 p' seen.1
    else (p', some seen.2)
termination_by limit - p.covered
decreasing_by
  simp only [Progress.repetition, stop] at *
  omega

theorem lt_covered_followRepeats (chunk : Chunk) (limit : Nat) (table : Table) (p : Progress)
    (candidate : Nat) {q : Progress} {t : Table}
    (h : followRepeats chunk limit table p candidate = (q, some t)) :
    p.covered < q.covered ∧ q.covered < limit := by
  fun_induction followRepeats chunk limit table p candidate with
  | case1 => simp at h
  | case2 table p candidate stop p' hstop table' seen hseen ih =>
    have := ih h
    simp only [p', Progress.repetition] at this
    omega
  | case3 table p candidate stop p' hstop table' seen hseen =>
    simp only [Prod.mk.injEq] at h
    obtain ⟨rfl, -⟩ := h
    simp only [p', Progress.repetition]
    omega

theorem le_findRepeat (chunk : Chunk) (limit : Nat) (table : Table) (position patience : Nat)
    {s c : Nat} {t : Table} (h : findRepeat chunk limit table position patience = some (s, c, t)) :
    position ≤ s ∧ s < limit := by
  fun_induction findRepeat chunk limit table position patience with
  | case1 => simp at h
  | case2 table position patience step hstep seen hseen =>
    simp only [Option.some.injEq, Prod.mk.injEq] at h
    omega
  | case3 table position patience step hstep seen hseen ih =>
    have := ih h
    omega

/-- Compresses the rest of a chunk: alternately searches for a repetition, takes over what was
skipped, and follows repetitions. -/
def compressFrom (chunk : Chunk) (limit : Nat) (table : Table) (p : Progress) : Progress :=
  match _hs : findRepeat chunk limit table (p.covered + 1) 0 with
  | none => p
  | some (start, candidate, table) =>
    match _hf :
      followRepeats chunk limit table ⟨(p.literal chunk start).elements, start⟩ candidate with
    | (p', none) => p'
    | (p', some table) => compressFrom chunk limit table p'
termination_by limit - p.covered
decreasing_by
  have h₁ := le_findRepeat _ _ _ _ _ (by assumption)
  have h₂ := lt_covered_followRepeats _ _ _ _ _ (by assumption)
  simp only at h₂
  omega

/-- The elements of a chunk. -/
def compressChunk (chunk : Chunk) : List Element :=
  let p :=
    if chunk.size < 17 then ⟨#[], 0⟩
    else compressFrom chunk (chunk.size - 15) (Table.forLength chunk.size) ⟨#[], 0⟩
  (p.literal chunk chunk.size).elements.toList

/-- The most bytes a chunk may have. -/
def chunkLength : Nat := 65536

/-- The elements of the whole input, chunk by chunk, behind `acc`. -/
def compressChunks (acc : Array Element) (input : Bytes) : Array Element :=
  if input = [] then acc
  else
    compressChunks (acc ++ compressChunk (input.take chunkLength).toArray)
      (input.drop chunkLength)
termination_by input.length
decreasing_by
  have : 0 < input.length := List.length_pos_iff.mpr (by assumption)
  simp only [List.length_drop, chunkLength]
  omega

/-- The most bytes that compressing `length` bytes can produce. -/
def worstLength (length : Nat) : Nat :=
  32 + length + length / 6

/-- A byte string as a block.  Inputs whose block might be too long for the format are refused
unseen. -/
def compress (input : Bytes) : Except Error Bytes :=
  if maxLength < worstLength input.length then .error (.tooLong input.length)
  else
    .ok (preamble input.length ++ (compressChunks #[] input).toList.flatMap Element.encode)

end RemoteCall.Snappy
