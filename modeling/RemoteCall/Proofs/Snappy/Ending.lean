import RemoteCall.Proofs.Snappy.Elements

/-!
# Where a block ends

Nothing in a block marks its end, and still it ends in one place only.  Every element stands for at
least one byte (`one_le_length_of_readElement`) and is not carried out without room for all of them
(`length_le_of_expand`), so elements that have produced what was announced are the last ones.  If
more bytes stand behind a block, reading goes through the block as before (`expandElements_more`),
comes upon one element more, or upon the beginning of one, and has no room for it
(`expand_append`).
-/

namespace RemoteCall

/-- What is taken off the front is the same when there is more behind. -/
theorem Bytes.splitFront_append {n : Nat} {bs front rest : Bytes}
    (h : splitFront n bs = some (front, rest)) (more : Bytes) :
    splitFront n (bs ++ more) = some (front, rest ++ more) := by
  obtain ⟨rfl, hlength⟩ := splitFront_eq_some_iff.mp h
  exact splitFront_eq_some_iff.mpr ⟨List.append_assoc .., hlength⟩

namespace Snappy

/-! ## What is read -/

theorem eq_of_readLiteral {room length : Nat} {source rest : Bytes} {e : Element}
    (h : readLiteral room length source = .ok (e, rest)) : ∃ bytes,
      source = bytes ++ rest ∧ bytes.length = length ∧ bytes.length ≤ room ∧ e = .literal bytes := by
  unfold readLiteral at h
  split at h
  · cases h
  · next hroom =>
    split at h
    · next bytes _ hsplit =>
      cases h
      obtain ⟨hsource, hlength⟩ := Bytes.splitFront_eq_some_iff.mp hsplit
      exact ⟨bytes, hsource, hlength, by omega, rfl⟩
    · cases h

theorem eq_of_readCopy {length base width : Nat} {source rest : Bytes} {e : Element}
    (h : readCopy length base width source = .ok (e, rest)) : ∃ bytes,
      Bytes.splitFront width source = some (bytes, rest) ∧
        e = .copy (base + Bytes.ofLittleEndian bytes) length := by
  unfold readCopy at h
  split at h
  · next bytes _ hsplit =>
    cases h
    exact ⟨bytes, hsplit, rfl⟩
  · cases h

/-! ## Elements need room -/

/-- **An element stands for at least one byte.**  If its room is checked when it is read, there is
enough. -/
theorem one_le_length_of_readElement {room : Nat} {tag : UInt8} {source rest : Bytes} {e : Element}
    (h : readElement room tag source = .ok (e, rest)) : 1 ≤ e.length ∧ e.room ≤ room := by
  have hliteral {n : Nat} {source : Bytes}
      (h : readLiteral room (n + 1) source = .ok (e, rest)) : 1 ≤ e.length ∧ e.room ≤ room := by
    obtain ⟨bytes, _, hlength, hroom, rfl⟩ := eq_of_readLiteral h
    exact ⟨show 1 ≤ bytes.length by omega, hroom⟩
  have hcopy {n base width : Nat} (h : readCopy (n + 1) base width source = .ok (e, rest)) :
      1 ≤ e.length ∧ e.room ≤ room := by
    obtain ⟨bytes, _, rfl⟩ := eq_of_readCopy h
    exact ⟨Nat.succ_pos n, Nat.zero_le room⟩
  unfold readElement at h
  simp only at h
  split at h
  · split at h
    · exact hliteral h
    · split at h
      · exact hliteral h
      · cases h
  · exact hcopy h
  · exact hcopy h
  · exact hcopy h

/-- What is carried out had room: that of a literal is checked when it is read, and that of a copy
when it is carried out. -/
theorem length_le_of_expand {size : Nat} {out out' : Array UInt8} {e : Element}
    (h : e.expand size out = .ok out') (hroom : e.room ≤ size - out.size) :
    e.length ≤ size - out.size := by
  cases e with
  | literal bytes => exact hroom
  | copy offset length =>
    rw [Element.expand] at h
    split at h
    · cases h
    · split at h
      · cases h
      · next hfits => exact Nat.le_of_not_lt hfits

/-! ## More bytes behind -/

theorem readLiteral_more {room length : Nat} {source rest : Bytes} {e : Element}
    (h : readLiteral room length source = .ok (e, rest)) (more : Bytes) :
    readLiteral room length (source ++ more) = .ok (e, rest ++ more) := by
  obtain ⟨bytes, rfl, rfl, hroom, rfl⟩ := eq_of_readLiteral h
  rw [List.append_assoc]
  exact readLiteral_append hroom (rest ++ more)

theorem readCopy_more {length base width : Nat} {source rest : Bytes} {e : Element}
    (h : readCopy length base width source = .ok (e, rest)) (more : Bytes) :
    readCopy length base width (source ++ more) = .ok (e, rest ++ more) := by
  obtain ⟨bytes, hsplit, rfl⟩ := eq_of_readCopy h
  rw [readCopy, Bytes.splitFront_append hsplit more]

/-- An element is read off the front whatever stands behind it. -/
theorem readElement_more {room : Nat} {tag : UInt8} {source rest : Bytes} {e : Element}
    (h : readElement room tag source = .ok (e, rest)) (more : Bytes) :
    readElement room tag (source ++ more) = .ok (e, rest ++ more) := by
  unfold readElement at h ⊢
  simp only at h ⊢
  split at h
  · split at h
    · next hshort =>
      rw [if_pos hshort]
      exact readLiteral_more h more
    · next hshort =>
      rw [if_neg hshort]
      split at h
      · next hsplit =>
        rw [Bytes.splitFront_append hsplit more]
        exact readLiteral_more h more
      · cases h
  · exact readCopy_more h more
  · exact readCopy_more h more
  · exact readCopy_more h more

theorem readPreamble_more {groups n : Nat} {bs rest : Bytes}
    (h : readPreamble groups bs = some (n, rest)) (more : Bytes) :
    readPreamble groups (bs ++ more) = some (n, rest ++ more) := by
  induction groups generalizing n bs with
  | zero => cases h
  | succ groups ih =>
    cases bs with
    | nil => cases h
    | cons b bs =>
      rw [readPreamble] at h
      rw [List.cons_append, readPreamble]
      split at h
      · next hlast =>
        cases h
        rw [if_pos hlast]
      · next hlast =>
        obtain ⟨⟨k, behind⟩, hk, hn⟩ := Option.map_eq_some_iff.mp h
        cases hn
        rw [if_neg hlast, ih hk, Option.map_some]

/-- **Elements are carried out whatever stands behind them.** -/
theorem expandElements_more {size : Nat} {source : Bytes} {out out' : Array UInt8}
    (h : expandElements size source out = .ok out') (more : Bytes) :
    expandElements size (source ++ more) out = expandElements size more out' := by
  -- along the elements, in the order in which they are read
  fun_induction expandElements size source out with
  | case1 out =>
    cases h
    rfl
  | case2 => cases h
  | case3 => cases h
  | case4 out tag source element rest hread mid hexpand ih =>
    have hmore := readElement_more hread more
    rw [List.cons_append, expandElements]
    split
    · next hbad =>
      rw [hmore] at hbad
      cases hbad
    · next hgood =>
      rw [hmore] at hgood
      cases hgood
      rw [hexpand]
      exact ih h

/-- When the output is full, no element is carried out any more. -/
theorem expandElements_of_full {size : Nat} {source : Bytes} {out : Array UInt8}
    (hfull : out.size = size) (hne : source ≠ []) :
    ∃ cause, expandElements size source out = .error cause := by
  unfold expandElements
  split
  · exact absurd rfl hne
  · split
    · next cause _ => exact ⟨cause, rfl⟩
    · next e rest hread =>
      split
      · next cause _ => exact ⟨cause, rfl⟩
      · next out' hexpand =>
        obtain ⟨hlength, hroom⟩ := one_le_length_of_readElement hread
        have hfits := length_le_of_expand hexpand hroom
        omega

/-- **A block that can be expanded is not the beginning of another one.** -/
theorem expand_append {block payload more : Bytes} (h : expand block = .ok payload)
    (hmore : more ≠ []) : ∃ cause, expand (block ++ more) = .error cause := by
  rw [expand] at h
  split at h
  · cases h
  · next hblock =>
    split at h
    · cases h
    · next size source hread =>
      split at h
      · cases h
      · next hmax =>
        split at h
        · cases h
        · next out hout =>
          split at h
          · next hsize =>
            obtain ⟨cause, hcause⟩ := expandElements_of_full hsize hmore
            have hne : block ++ more ≠ [] := by
              intro hnil
              exact hblock (List.append_eq_nil_iff.mp hnil).1
            refine ⟨cause, ?_⟩
            rw [expand, if_neg hne, readPreamble_more hread more]
            simp only [if_neg hmax, expandElements_more hout more, hcause]
          · cases h

end Snappy

end RemoteCall
