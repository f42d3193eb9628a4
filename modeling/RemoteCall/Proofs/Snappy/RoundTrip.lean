import RemoteCall.Proofs.Snappy.Elements

/-!
# Expanding undoes compressing

Which repetitions the compressor finds depends on its hash table, and nothing is known about that
table: a slot may hold any earlier position.  What makes the result right is that a candidate counts
only if its bytes really agree, so the invariant speaks of the chunk alone.

`Covers chunk es k`: the elements `es` stand for the first `k` bytes of the chunk, literals because
they were cut out of it there, copies because the chunk repeats itself there.  Each step of the
search keeps it (`covers_copies`, `covers_followRepeats`, `covers_compressFrom`), and a covered
beginning is what the elements produce (`produce_of_covers`), whatever chunks came before.  The
result for whole inputs is `expand_compress`.
-/

namespace RemoteCall.Snappy

/-! ## Four bytes as one number -/

theorem or_shiftLeft (low high i : Nat) (h : low < 2 ^ i) :
    low ||| high <<< i = low + high * 2 ^ i := by
  rw [Nat.or_comm, ← Nat.shiftLeft_add_eq_or_of_lt h, Nat.shiftLeft_eq, Nat.add_comm]

theorem toNat_word (chunk : Chunk) (i : Nat) :
    (chunk.word i).toNat = (chunk.getD i 0).toNat + (chunk.getD (i + 1) 0).toNat * 2 ^ 8 +
      (chunk.getD (i + 2) 0).toNat * 2 ^ 16 + (chunk.getD (i + 3) 0).toNat * 2 ^ 24 := by
  have h0 := (chunk.getD i 0).toNat_lt
  have h1 := (chunk.getD (i + 1) 0).toNat_lt
  have h2 := (chunk.getD (i + 2) 0).toNat_lt
  have h3 := (chunk.getD (i + 3) 0).toNat_lt
  have hshift : ∀ {n j : Nat}, n < 256 → j ≤ 24 → n <<< j % 2 ^ 32 = n <<< j := by
    intro n j hn hj
    have hp : 2 ^ j ≤ 2 ^ 24 := Nat.pow_le_pow_right (by decide) hj
    have hm : n * 2 ^ j ≤ 255 * 2 ^ 24 := Nat.mul_le_mul (by omega) hp
    rw [Nat.shiftLeft_eq, Nat.mod_eq_of_lt (by omega)]
  simp only [Chunk.word, UInt32.toNat_or, UInt32.toNat_shiftLeft, UInt8.toNat_toUInt32,
    UInt32.reduceToNat, Nat.reduceMod]
  rw [hshift h1 (by decide), hshift h2 (by decide), hshift h3 (by decide),
    or_shiftLeft (chunk.getD i 0).toNat _ 8 (by omega), or_shiftLeft _ _ 16 (by omega),
    or_shiftLeft _ _ 24 (by omega)]

/-! ## Where a chunk repeats itself -/

/-- The `length` bytes from `position` on are those from `candidate` on. -/
def Agree (chunk : Chunk) (candidate position length : Nat) : Prop :=
  ∀ j < length, chunk.getD (candidate + j) 0 = chunk.getD (position + j) 0

theorem agree_of_word_eq {chunk : Chunk} {candidate position : Nat}
    (h : chunk.word position = chunk.word candidate) : Agree chunk candidate position 4 := by
  have hn := congrArg UInt32.toNat h
  rw [toNat_word, toNat_word] at hn
  have hlt : ∀ i, (chunk.getD i 0).toNat < 256 := fun i => (chunk.getD i 0).toNat_lt
  have hp0 := hlt position
  have hp1 := hlt (position + 1)
  have hp2 := hlt (position + 2)
  have hp3 := hlt (position + 3)
  have hc0 := hlt candidate
  have hc1 := hlt (candidate + 1)
  have hc2 := hlt (candidate + 2)
  have hc3 := hlt (candidate + 3)
  intro j hj
  apply UInt8.toNat_inj.mp
  rcases j with _ | _ | _ | _ | j
  · show (chunk.getD candidate 0).toNat = (chunk.getD position 0).toNat
    omega
  · show (chunk.getD (candidate + 1) 0).toNat = (chunk.getD (position + 1) 0).toNat
    omega
  · show (chunk.getD (candidate + 2) 0).toNat = (chunk.getD (position + 2) 0).toNat
    omega
  · show (chunk.getD (candidate + 3) 0).toNat = (chunk.getD (position + 3) 0).toNat
    omega
  · omega

theorem Agree.append {chunk : Chunk} {candidate position n m : Nat}
    (hn : Agree chunk candidate position n) (hm : Agree chunk (candidate + n) (position + n) m) :
    Agree chunk candidate position (n + m) := by
  intro j hj
  rcases Nat.lt_or_ge j n with h | h
  · exact hn j h
  · have hstep := hm (j - n) (by omega)
    have hc : candidate + n + (j - n) = candidate + j := by omega
    have hp : position + n + (j - n) = position + j := by omega
    rwa [hc, hp] at hstep

theorem Agree.drop {chunk : Chunk} {candidate position n m : Nat}
    (h : Agree chunk candidate position (n + m)) :
    Agree chunk (candidate + n) (position + n) m := by
  intro j hj
  have hstep := h (n + j) (by omega)
  rwa [← Nat.add_assoc, ← Nat.add_assoc] at hstep

/-- The search for the end of a repetition stops inside the chunk, and all before it agrees. -/
theorem agreeUntil_spec (chunk : Chunk) (candidate position : Nat) (h : position ≤ chunk.size) :
    position ≤ agreeUntil chunk candidate position ∧
      agreeUntil chunk candidate position ≤ chunk.size ∧
      Agree chunk candidate position (agreeUntil chunk candidate position - position) := by
  fun_induction agreeUntil chunk candidate position with
  | case1 candidate position hagree ih =>
    obtain ⟨hle, hsize, hrest⟩ := ih (by omega)
    -- the first byte was compared here, the others further on in the search
    refine ⟨by omega, hsize, ?_⟩
    intro j hj
    rcases j with _ | j
    · exact hagree.2
    · have hstep := hrest j (by omega)
      have hc : candidate + 1 + j = candidate + (j + 1) := by omega
      have hp : position + 1 + j = position + (j + 1) := by omega
      rwa [hc, hp] at hstep
  | case2 candidate position hstop =>
    refine ⟨Nat.le_refl _, h, ?_⟩
    intro j hj
    omega

/-- What the search for a repetition returns: a position in front of the limit, and an earlier one
whose four bytes are the same. -/
theorem findRepeat_spec {chunk : Chunk} {limit : Nat} {table table' : Table}
    {position patience s c : Nat}
    (h : findRepeat chunk limit table position patience = some (s, c, table')) :
    position ≤ s ∧ s < limit ∧ c < s ∧ Agree chunk c s 4 := by
  have hle := le_findRepeat chunk limit table position patience h
  refine ⟨hle.1, hle.2, ?_⟩
  clear hle
  fun_induction findRepeat chunk limit table position patience with
  | case1 => cases h
  | case2 table position patience step hstep seen hseen =>
    -- whatever the table said, the words of the two positions were compared
    simp only [Option.some.injEq, Prod.mk.injEq] at h
    obtain ⟨rfl, rfl, -⟩ := h
    exact ⟨hseen.1, agree_of_word_eq hseen.2⟩
  | case3 table position patience step hstep seen hseen ih => exact ih h

/-! ## What the elements cover -/

/-- The elements stand for the first bytes of the chunk, as many as the number says. -/
inductive Covers (chunk : Chunk) : List Element → Nat → Prop
  | nil : Covers chunk [] 0
  | literal {es : List Element} {k stop : Nat} : Covers chunk es k → k < stop →
      stop ≤ chunk.size → Covers chunk (es ++ [.literal (chunk.slice k stop)]) stop
  | copy {es : List Element} {k candidate : Nat} (length : Nat) : Covers chunk es k →
      candidate < k → 4 ≤ length → length ≤ 64 → k + length ≤ chunk.size →
      Agree chunk candidate k length →
      Covers chunk (es ++ [.copy (k - candidate) length]) (k + length)

theorem Covers.le_size {chunk : Chunk} {es : List Element} {k : Nat} (h : Covers chunk es k) :
    k ≤ chunk.size := by
  cases h with
  | nil => exact Nat.zero_le _
  | literal _ _ hstop => exact hstop
  | copy _ _ _ _ _ hsize _ => exact hsize

theorem length_slice {chunk : Chunk} {k stop : Nat} (h : stop ≤ chunk.size) :
    (chunk.slice k stop).length = stop - k := by
  rw [Chunk.slice, Array.length_toList, Array.size_extract]
  omega

theorem Covers.isWritable {chunk : Chunk} {es : List Element} {k : Nat} (h : Covers chunk es k)
    (hsize : chunk.size ≤ 65536) : ∀ e ∈ es, e.IsWritable := by
  induction h with
  | nil =>
    intro e he
    cases he
  | @literal es k stop _ hlt hstop ih =>
    intro e he
    rcases List.mem_append.mp he with he | he
    · exact ih e he
    · rw [List.mem_singleton.mp he]
      have hlen : (chunk.slice k stop).length = stop - k := length_slice hstop
      exact ⟨by omega, by omega⟩
  | @copy es k candidate length _ hc h4 h64 hk _ ih =>
    intro e he
    rcases List.mem_append.mp he with he | he
    · exact ih e he
    · rw [List.mem_singleton.mp he]
      exact ⟨by omega, h64, by omega, fun _ _ => h4⟩

/-! ### What covers a beginning produces it -/

theorem toList_repeatBack {chunk : Chunk} {pre : Bytes} {k candidate length : Nat}
    {out : Array UInt8} (hout : out.toList = pre ++ chunk.toList.take k) (hc : candidate < k)
    (hk : k + length ≤ chunk.size) (h : Agree chunk candidate k length) :
    (repeatBack (k - candidate) length out).toList = pre ++ chunk.toList.take (k + length) := by
  induction length generalizing out k candidate with
  | zero => exact hout
  | succ length ih =>
    -- the byte that is pushed is the next one of the chunk
    have hlen : chunk.toList.length = chunk.size := Array.length_toList
    have hsize : out.size = pre.length + k := by
      rw [← Array.length_toList, hout, List.length_append, List.length_take, hlen]
      omega
    have hbyte : out.getD (out.size - (k - candidate)) 0 = chunk.getD k 0 := by
      have hfirst := h 0 (by omega)
      have hindex : out.size - (k - candidate) = pre.length + candidate := by omega
      rw [Nat.add_zero, Nat.add_zero] at hfirst
      rw [← hfirst, hindex, Array.getD_eq_getD_getElem?, Array.getD_eq_getD_getElem?,
        ← Array.getElem?_toList, ← Array.getElem?_toList, hout, List.getElem?_append_right (by omega),
        Nat.add_sub_cancel_left, List.getElem?_take_of_lt hc]
    have hpush : (out.push (out.getD (out.size - (k - candidate)) 0)).toList
        = pre ++ chunk.toList.take (k + 1) := by
      have hget : chunk.toList[k]? = some (chunk.getD k 0) := by
        have hlt : k < chunk.size := by omega
        rw [Array.getElem?_toList, Array.getD_eq_getD_getElem?, Array.getElem?_eq_getElem hlt]
        rfl
      rw [Array.toList_push, hout, hbyte, List.take_add_one, hget, List.append_assoc]
      rfl
    have hnext : Agree chunk (candidate + 1) (k + 1) length := by
      rw [Nat.add_comm] at h
      exact h.drop
    have hoffset : k + 1 - (candidate + 1) = k - candidate := by omega
    have hlength : k + 1 + length = k + (length + 1) := by omega
    have hrest := ih hpush (by omega) (by omega) hnext
    rwa [hoffset, hlength] at hrest

/-- **Covering elements produce what they cover**, behind whatever was produced before. -/
theorem produce_of_covers {chunk : Chunk} {es : List Element} {k size : Nat} {out : Array UInt8}
    (h : Covers chunk es k) (hsize : out.size + chunk.size ≤ size) :
    ∃ out', produce size out es = .ok out' ∧ out'.toList = out.toList ++ chunk.toList.take k := by
  induction h with
  | nil => exact ⟨out, rfl, by rw [List.take_zero, List.append_nil]⟩
  | @literal es k stop hes hlt hstop ih =>
    obtain ⟨mid, hmid, hlist⟩ := ih
    -- the new element comes last, and what was produced before is there already
    refine ⟨mid ++ chunk.slice k stop, ?_, ?_⟩
    · rw [produce_append hmid]
      rfl
    · rw [Array.toList_appendList, hlist, List.append_assoc, Chunk.slice, Array.toList_extract,
        List.extract_eq_take_drop]
      congr 1
      have hs : stop = k + (stop - k) := by omega
      conv => rhs; rw [hs, List.take_add]
  | @copy es k candidate length hes hc h4 h64 hk hagree ih =>
    obtain ⟨mid, hmid, hlist⟩ := ih
    have hmsize : mid.size = out.size + k := by
      rw [← Array.length_toList, hlist, List.length_append, List.length_take, Array.length_toList,
        Array.length_toList]
      omega
    refine ⟨repeatBack (k - candidate) length mid, ?_, toList_repeatBack hlist hc hk hagree⟩
    rw [produce_append hmid, produce, Element.expand, if_neg (by omega), if_neg (by omega)]
    rfl

/-! ### The compressor covers its chunk -/

/-- The front of a repetition is one of its own, and what is left is one as far back. -/
theorem Covers.copyFront {chunk : Chunk} {es : List Element} {k candidate length : Nat} (n : Nat)
    (h : Covers chunk es k) (hc : candidate < k) (h4 : 4 ≤ n) (h64 : n ≤ 64) (hn : n ≤ length)
    (hk : k + length ≤ chunk.size) (hagree : Agree chunk candidate k length) :
    Covers chunk (es ++ [.copy (k - candidate) n]) (k + n) ∧
      Agree chunk (candidate + n) (k + n) (length - n) ∧
      k + n - (candidate + n) = k - candidate := by
  refine ⟨?_, ?_, by omega⟩
  · exact h.copy n hc h4 h64 (by omega) fun j hj => hagree j (by omega)
  · have hlength : length = n + (length - n) := by omega
    rw [hlength] at hagree
    exact hagree.drop

theorem covers_copies {chunk : Chunk} {es : List Element} {k candidate length : Nat}
    (h : Covers chunk es k) (hc : candidate < k) (h4 : 4 ≤ length) (hk : k + length ≤ chunk.size)
    (hagree : Agree chunk candidate k length) :
    Covers chunk (es ++ copies (k - candidate) length) (k + length) := by
  induction length using Nat.strongRecOn generalizing es k candidate with
  | ind length ih =>
    unfold copies
    split
    · next hlong =>
      obtain ⟨hfirst, hnext, hoffset⟩ :=
        h.copyFront 64 hc (by omega) (by omega) (by omega) hk hagree
      have hrest := ih (length - 64) (by omega) hfirst (by omega) (by omega) (by omega) hnext
      have hsum : k + 64 + (length - 64) = k + length := by omega
      rwa [hoffset, hsum, List.append_assoc] at hrest
    · split
      · next hshort hmiddle =>
        -- sixty are taken first, so that at least four are left
        obtain ⟨hfirst, hnext, hoffset⟩ :=
          h.copyFront 60 hc (by omega) (by omega) (by omega) hk hagree
        have hlast := hfirst.copy (length - 60) (by omega) (by omega) (by omega) (by omega) hnext
        have hsum : k + 60 + (length - 60) = k + length := by omega
        rwa [hoffset, hsum, List.append_assoc] at hlast
      · exact h.copy length hc h4 (by omega) hk hagree

theorem covers_literal {chunk : Chunk} {p : Progress} {stop : Nat}
    (h : Covers chunk p.elements.toList p.covered) (hle : p.covered ≤ stop)
    (hstop : stop ≤ chunk.size) :
    Covers chunk (p.literal chunk stop).elements.toList stop := by
  unfold Progress.literal
  split
  · next hlt =>
    rw [Array.toList_push]
    exact Covers.literal h hlt hstop
  · have heq : p.covered = stop := by omega
    exact heq ▸ h

/-- Following repetitions keeps the invariant: the bytes in front of the search agree with those from
`candidate` on, at least four of them. -/
theorem covers_followRepeats {chunk : Chunk} {limit : Nat} {table : Table} {p : Progress}
    {candidate : Nat} (h : Covers chunk p.elements.toList p.covered) (hc : candidate < p.covered)
    (hlimit : limit + 15 ≤ chunk.size) (hin : p.covered < limit)
    (hagree : Agree chunk candidate p.covered 4) :
    Covers chunk (followRepeats chunk limit table p candidate).1.elements.toList
      (followRepeats chunk limit table p candidate).1.covered := by
  -- one repetition: the four bytes that are known to agree, and all that follow and agree too
  have hstep : ∀ (q : Progress) (c : Nat), Covers chunk q.elements.toList q.covered →
      c < q.covered → q.covered < limit → Agree chunk c q.covered 4 →
      Covers chunk (q.repetition c (agreeUntil chunk (c + 4) (q.covered + 4))).elements.toList
        (agreeUntil chunk (c + 4) (q.covered + 4)) := by
    intro q c hq hcq hqin hq4
    obtain ⟨hle, hsize, hmore⟩ := agreeUntil_spec chunk (c + 4) (q.covered + 4) (by omega)
    have hall := hq4.append hmore
    have hlength : 4 + (agreeUntil chunk (c + 4) (q.covered + 4) - (q.covered + 4))
        = agreeUntil chunk (c + 4) (q.covered + 4) - q.covered := by omega
    rw [hlength] at hall
    have hcov := covers_copies hq hcq (by omega) (by omega) hall
    rw [Nat.add_sub_cancel' (by omega)] at hcov
    rw [Progress.repetition, Array.toList_appendList]
    exact hcov
  fun_induction followRepeats chunk limit table p candidate with
  | case1 table p candidate stop p' hstop => exact hstep p candidate h hc hin hagree
  | case2 table p candidate stop p' hstop table' seen hseen ih =>
    have hcov := hstep p candidate h hc hin hagree
    exact ih hcov hseen.1 (by simp only [p', Progress.repetition]; omega)
      (agree_of_word_eq hseen.2)
  | case3 table p candidate stop p' hstop table' seen hseen =>
    exact hstep p candidate h hc hin hagree

/-- One round of the search: what was skipped is a literal, and then repetitions are followed. -/
theorem covers_round {chunk : Chunk} {limit : Nat} {table table' : Table} {p : Progress}
    {start candidate : Nat} (h : Covers chunk p.elements.toList p.covered)
    (hlimit : limit + 15 ≤ chunk.size)
    (hs : findRepeat chunk limit table (p.covered + 1) 0 = some (start, candidate, table')) :
    Covers chunk (followRepeats chunk limit table'
        ⟨(p.literal chunk start).elements, start⟩ candidate).1.elements.toList
      (followRepeats chunk limit table'
        ⟨(p.literal chunk start).elements, start⟩ candidate).1.covered := by
  obtain ⟨hle, hlt, hc, hagree⟩ := findRepeat_spec hs
  have hliteral : Covers chunk (p.literal chunk start).elements.toList start :=
    covers_literal h (by omega) (by omega)
  exact covers_followRepeats hliteral hc hlimit hlt hagree

theorem covers_compressFrom {chunk : Chunk} {limit : Nat} {table : Table} {p : Progress}
    (h : Covers chunk p.elements.toList p.covered) (hlimit : limit + 15 ≤ chunk.size) :
    Covers chunk (compressFrom chunk limit table p).elements.toList
      (compressFrom chunk limit table p).covered := by
  fun_induction compressFrom chunk limit table p with
  | case1 table p hs => exact h
  | case2 table p start candidate table' hs p' hf =>
    have hround := covers_round h hlimit hs
    rwa [hf] at hround
  | case3 table p start candidate table' hs p' table'' hf ih =>
    have hround := covers_round h hlimit hs
    rw [hf] at hround
    exact ih hround

/-- **The elements of a chunk cover it.** -/
theorem covers_compressChunk (chunk : Chunk) : Covers chunk (compressChunk chunk) chunk.size := by
  have hstart : Covers chunk (⟨#[], 0⟩ : Progress).elements.toList 0 := Covers.nil
  rw [compressChunk]
  by_cases hsmall : chunk.size < 17
  · simp only [if_pos hsmall]
    exact covers_literal hstart (Nat.zero_le _) (Nat.le_refl _)
  · simp only [if_neg hsmall]
    have hcov := @covers_compressFrom chunk (chunk.size - 15) (Table.forLength chunk.size) _ hstart
      (by omega)
    exact covers_literal hcov hcov.le_size (Nat.le_refl _)

/-! ## Whole inputs -/

theorem produce_compressChunks {acc : Array Element} {input : Bytes} {size : Nat}
    {out : Array UInt8} (hw : ∀ e ∈ acc.toList, e.IsWritable)
    (h : produce size #[] acc.toList = .ok out) (hsize : out.size + input.length ≤ size) :
    (∀ e ∈ (compressChunks acc input).toList, e.IsWritable) ∧
      ∃ out', produce size #[] (compressChunks acc input).toList = .ok out' ∧
        out'.toList = out.toList ++ input := by
  -- the elements of earlier chunks are in `acc`; a copy never reaches back into them
  fun_induction compressChunks acc input generalizing out with
  | case1 acc => exact ⟨hw, out, h, (List.append_nil _).symm⟩
  | case2 acc input hne ih =>
    have hcov := covers_compressChunk (input.take chunkLength).toArray
    have hlen : (input.take chunkLength).toArray.size ≤ input.length := by
      rw [List.size_toArray, List.length_take]
      omega
    have hchunk : (input.take chunkLength).toArray.size ≤ 65536 := by
      rw [List.size_toArray, List.length_take]
      exact Nat.min_le_left _ _
    have hfit : out.size + (input.take chunkLength).toArray.size ≤ size := by omega
    obtain ⟨mid, hmid, hlist⟩ := produce_of_covers hcov hfit
    rw [List.take_of_length_le (Nat.le_of_eq Array.length_toList)] at hlist
    have hmidlen := congrArg List.length hlist
    rw [List.length_append, Array.length_toList, Array.length_toList, List.length_take] at hmidlen
    have hw' : ∀ e ∈ (acc ++ compressChunk (input.take chunkLength).toArray).toList,
        e.IsWritable := by
      intro e he
      rw [Array.toList_appendList] at he
      rcases List.mem_append.mp he with he | he
      · exact hw e he
      · exact hcov.isWritable hchunk e he
    have hacc : produce size #[] (acc ++ compressChunk (input.take chunkLength).toArray).toList
        = .ok mid := by
      rw [Array.toList_appendList, produce_append h, hmid]
    have hrest : mid.size + (input.drop chunkLength).length ≤ size := by
      rw [List.length_drop]
      omega
    obtain ⟨hall, out', hout', hfinal⟩ := ih hw' hacc hrest
    refine ⟨hall, out', hout', ?_⟩
    rw [hfinal, hlist, List.append_assoc, List.take_append_drop]

/-- **Expanding undoes compressing**, for every input that the compressor takes. -/
theorem expand_compress {input block : Bytes} (h : compress input = .ok block) :
    announcedLength block = .ok input.length ∧ expand block = .ok input := by
  unfold compress at h
  split at h
  · cases h
  · next hworst =>
    cases h
    have hmax : input.length ≤ maxLength := by
      rw [worstLength] at hworst
      omega
    -- an input that is not refused has a length that the preamble and the reader take
    have hne : preamble input.length ++ (compressChunks #[] input).toList.flatMap Element.encode
        ≠ [] := by
      rw [preamble]
      split <;> exact List.cons_ne_nil _ _
    have hpow : input.length < 128 ^ (4 + 1) := by
      have : maxLength < 128 ^ (4 + 1) := by decide
      omega
    have hread := readPreamble_append hpow
      ((compressChunks #[] input).toList.flatMap Element.encode)
    obtain ⟨hw, out, hout, hlist⟩ := @produce_compressChunks #[] input input.length #[]
      (fun e he => by cases he) rfl (Nat.le_of_eq (Nat.zero_add _))
    have hsize : out.size = input.length := by
      rw [← Array.length_toList, hlist]
      rfl
    have hexpand := expandElements_flatMap hw hout (Nat.le_of_eq hsize)
    constructor
    · rw [announcedLength, if_neg hne, hread]
      exact if_neg (by omega)
    · rw [expand, if_neg hne, hread]
      simp only [if_neg (Nat.not_lt.mpr hmax), hexpand, hsize, if_true, hlist]
      rfl

end RemoteCall.Snappy
