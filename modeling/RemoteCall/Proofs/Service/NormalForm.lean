import RemoteCall.Proofs.Service.Naming

/-!
# Which names are normal forms

A normal form can be told without making one: no underscore at the front, and no small letter where
a word starts, which is at the front and directly behind a digit, a dot or an underscore
(`IsNormalForm`).  `isJoined` checks this character by character (`isJoined_iff`), so the names that
`camelCase` yields are the names of this form, and these are the names that it leaves alone.

A dot starts a new word whatever stands before it and never goes, so words are joined on both sides
of it independently (`joinWords_append_dot`).  Only the rule for the first character tells a name on
its own from the same name behind a dot: an underscore there becomes `X` or does not
(`normalize_eq_joinWords_iff`).
-/

namespace RemoteCall.Name

/-! ## What a normal form looks like -/

/-- Neither an underscore nor a small letter stands at the front, and no small letter stands directly
behind a digit, a dot or an underscore. -/
structure IsNormalForm (cs : List Char) : Prop where
  no_line : cs.head? ≠ some '_'
  no_lower : ∀ c ∈ cs.head?, c.isLower = false
  no_lower_behind : cs.IsChain fun c d => c.isDigit ∨ c = '.' ∨ c = '_' → d.isLower = false

theorem breaksWord_iff {c : Char} : breaksWord c = true ↔ c.isDigit ∨ c = '.' ∨ c = '_' := by
  simp [breaksWord, or_assoc]

/-- To be joined is to have no small letter where a word starts. -/
theorem isJoined_iff {inWord : Bool} {cs : List Char} : isJoined inWord cs = true ↔
    (inWord = false → ∀ c ∈ cs.head?, c.isLower = false) ∧
      cs.IsChain fun c d => c.isDigit ∨ c = '.' ∨ c = '_' → d.isLower = false := by
  -- the first character of the rest starts a word exactly if this one breaks it
  induction cs generalizing inWord with
  | nil => simp [isJoined]
  | cons c rest ih =>
    rw [isJoined, Bool.and_eq_true, ih, List.isChain_cons, ← and_assoc, ← and_assoc]
    refine and_congr_left fun _ => and_congr ?_ ?_
    · cases inWord <;> simp
    · rw [Bool.not_eq_false', breaksWord_iff]
      exact ⟨fun h d hd hbreak => h hbreak d hd, fun h hbreak d hd => h d hd hbreak⟩

theorem isNormal_iff {cs : List Char} : isNormal cs = true ↔ IsNormalForm cs := by
  rw [isNormal, Bool.and_eq_true, decide_eq_true_iff, isJoined_iff]
  constructor
  · rintro ⟨hline, hlower, hbehind⟩
    exact ⟨hline, hlower rfl, hbehind⟩
  · intro h
    exact ⟨h.no_line, fun _ => h.no_lower, h.no_lower_behind⟩

theorem toList_camelCase (s : String) : (camelCase s).toList = normalize s.toList :=
  String.toList_ofList

/-- The names that are left alone are those in normal form. -/
theorem camelCase_eq_self_iff {s : String} : camelCase s = s ↔ IsNormalForm s.toList := by
  rw [← isNormal_iff, ← String.toList_inj, toList_camelCase]
  constructor
  · intro heq
    rw [← heq]
    exact isNormal_normalize s.toList
  · exact normalize_of_isNormal

/-- The names that come out are those in normal form. -/
theorem exists_camelCase_eq_iff {s : String} : (∃ t, camelCase t = s) ↔ IsNormalForm s.toList := by
  constructor
  · rintro ⟨t, rfl⟩
    exact camelCase_eq_self_iff.mp (camelCase_camelCase t)
  · intro h
    exact ⟨s, camelCase_eq_self_iff.mpr h⟩

/-! ## Two names with a dot between them -/

/-- A dot does not count as a small letter that is still to come. -/
theorem startsLower_append_dot (before behind : List Char) :
    startsLower (before ++ '.' :: behind) = startsLower before := by
  cases before with
  | nil => rfl
  | cons c before => rfl

/-- Words are joined on both sides of a dot, each on its own. -/
theorem joinWords_append_dot (inWord : Bool) (before behind : List Char) :
    joinWords inWord (before ++ '.' :: behind)
      = joinWords inWord before ++ '.' :: joinWords false behind := by
  induction before generalizing inWord with
  | nil => cases inWord <;> rfl
  | cons c before ih =>
    rw [List.cons_append, joinWords, joinWords, startsLower_append_dot, ih, ih]
    split
    · rfl
    · split
      · rfl
      · split <;> rfl

/-- The first character is treated apart exactly if it is an underscore. -/
theorem normalize_eq_joinWords_iff {cs : List Char} :
    normalize cs = joinWords false cs ↔ cs.head? ≠ some '_' := by
  refine ⟨?_, normalize_of_head⟩
  cases cs with
  | nil => simp
  | cons c rest =>
    rintro heq hhead
    obtain rfl : c = '_' := Option.some.inj hhead
    rw [normalize, joinWords, Bool.false_and, if_neg Bool.false_ne_true,
      decide_eq_true rfl, Bool.true_and] at heq
    split at heq
    · -- the underscore goes, and `X` would be one character more
      exact List.cons_ne_self 'X' _ heq
    · -- the underscore stays where `X` would stand
      rw [show (Char.isDigit '_' || decide ('_' = '.')) = false by decide,
        if_neg Bool.false_ne_true] at heq
      exact absurd (List.cons.inj heq).1 (by decide)

/-- What stands before a dot is made normal on its own. -/
theorem normalize_append_dot (before behind : List Char) :
    normalize (before ++ '.' :: behind) = normalize before ++ '.' :: joinWords false behind := by
  by_cases hhead : before.head? = some '_'
  · cases before with
    | nil => cases hhead
    | cons c before =>
      obtain rfl : c = '_' := Option.some.inj hhead
      show 'X' :: joinWords false (before ++ '.' :: behind) = _
      rw [joinWords_append_dot]
      rfl
  · have hwhole : (before ++ '.' :: behind).head? ≠ some '_' := by
      cases before with
      | nil => simp
      | cons c before => exact hhead
    rw [normalize_of_head hhead, normalize_of_head hwhole, joinWords_append_dot]

/-- Two names joined by a dot are made normal each on its own, if the second does not begin with an
underscore, and otherwise are not. -/
theorem camelCase_append_dot_iff {a b : String} :
    camelCase (a ++ "." ++ b) = camelCase a ++ "." ++ camelCase b ↔ b.toList.head? ≠ some '_' := by
  have hjoin (s t : String) : (s ++ "." ++ t).toList = s.toList ++ '.' :: t.toList := by
    rw [String.toList_append, String.toList_append, List.append_assoc]
    rfl
  rw [← normalize_eq_joinWords_iff, ← String.toList_inj, toList_camelCase, hjoin, hjoin,
    toList_camelCase, toList_camelCase, normalize_append_dot, List.append_cancel_left_eq,
    List.cons_inj_right, eq_comm]

/-- **To make a name normal is to project onto the normal forms.**  What is normal stays, and only
what is normal comes out; no dot is added or lost, nothing but the empty name becomes empty, and a
usable name stays usable.  Of two names with a dot between them each is made normal on its own,
unless the second begins with an underscore. -/
theorem projects_camelCase :
    (∀ s, camelCase (camelCase s) = camelCase s) ∧
    (∀ s, (∃ t, camelCase t = s) ↔ IsNormalForm s.toList) ∧
    (∀ s, camelCase s = s ↔ IsNormalForm s.toList) ∧
    (∀ s, (camelCase s).toList.count '.' = s.toList.count '.') ∧
    (∀ s, camelCase s = "" ↔ s = "") ∧
    (∀ s, isValid (camelCase s) = true ↔ isValid s = true) ∧
    (∀ a b, camelCase (a ++ "." ++ b) = camelCase a ++ "." ++ camelCase b ↔
      b.toList.head? ≠ some '_') := by
  refine ⟨camelCase_camelCase, fun s => exists_camelCase_eq_iff, fun s => camelCase_eq_self_iff,
    ?_, ?_, fun s => isValid_camelCase_iff, fun a b => camelCase_append_dot_iff⟩
  · intro s
    rw [toList_camelCase]
    exact count_normalize (by decide) (by decide) s.toList
  · intro s
    rw [← String.toList_eq_nil_iff, toList_camelCase, normalize_eq_nil_iff,
      String.toList_eq_nil_iff]

/-- Underscores go before small letters only, and a digit starts a word. -/
example : camelCase "_my__field_2nd._x" = "XMy_Field_2Nd.X" := by decide

end RemoteCall.Name
