import Mathlib
import RemoteCall.Service.Name

/-!
# Normal forms of names

Joining the words of a name leaves nothing to join: behind it no small letter starts a word any
more (`isJoined_joinWords`), and a text in which none does is left as it is
(`joinWords_of_isJoined`).  With the rule for the first character this makes `normalize` a
projection: what it yields is normal (`isNormal_normalize`), and what is normal it leaves alone
(`normalize_of_isNormal`).

The form does not spoil a name and does not mend one.  It has every character that is neither a
letter nor an underscore as often as the name has it (`count_normalize`), dots and white space among
them, so it is usable exactly if the name is (`isValid_camelCase_iff`).
-/

namespace RemoteCall.Name

/-- Whether a small letter behind this character starts a word. -/
def breaksWord (c : Char) : Bool := c.isDigit || c = '.' || c = '_'

/-- Whether no word starts with a small letter.  `inWord` tells whether the first character stands
inside a word. -/
def isJoined (inWord : Bool) : List Char → Bool
  | [] => true
  | c :: rest => (inWord || !c.isLower) && isJoined (!breaksWord c) rest

/-- Whether the characters are those of a name in normal form. -/
def isNormal (cs : List Char) : Bool :=
  cs.head? ≠ some '_' && isJoined false cs

/-! ## Single characters -/

theorem toNat_of_isAlpha {c : Char} (h : c.isAlpha = true) :
    65 ≤ c.toNat ∧ c.toNat ≤ 90 ∨ 97 ≤ c.toNat ∧ c.toNat ≤ 122 := by
  simp only [Char.isAlpha, Char.isUpper, Char.isLower, Bool.or_eq_true, Bool.and_eq_true,
    decide_eq_true_eq, ge_iff_le, UInt32.le_iff_toNat_le] at h
  exact h

theorem isAlpha_of_isLower {c : Char} (h : c.isLower = true) : c.isAlpha = true := by
  rw [Char.isAlpha, h, Bool.or_true]

/-- Letters stand inside words. -/
theorem breaksWord_of_isAlpha {c : Char} (h : c.isAlpha = true) : breaksWord c = false := by
  have hrange := toNat_of_isAlpha h
  have hdigit : c.isDigit = false := by
    simp only [Char.isDigit, Bool.and_eq_false_iff, decide_eq_false_iff_not, ge_iff_le,
      UInt32.le_iff_toNat_le]
    show ¬ 48 ≤ c.toNat ∨ ¬ c.toNat ≤ 57
    omega
  have hdot : c ≠ '.' := by
    rintro rfl
    exact absurd h (by decide)
  have hline : c ≠ '_' := by
    rintro rfl
    exact absurd h (by decide)
  simp [breaksWord, hdigit, hdot, hline]

/-- Letters are not white space. -/
theorem isBlank_of_isAlpha {c : Char} (h : c.isAlpha = true) : Text.isBlank c = false := by
  have hrange := toNat_of_isAlpha h
  simp only [Text.isBlank, Text.blankRanges, List.any_cons, List.any_nil, Bool.or_eq_false_iff,
    Bool.and_eq_false_iff, decide_eq_false_iff_not, and_true]
  omega

/-- To become a capital letter makes no difference to the letter behind. -/
theorem breaksWord_toUpper (c : Char) : breaksWord c.toUpper = breaksWord c := by
  by_cases hlower : c.isLower = true
  · have hletter := isAlpha_of_isLower hlower
    rw [breaksWord_of_isAlpha hletter,
      breaksWord_of_isAlpha (Char.isAlpha_toUpper_eq_isAlpha c ▸ hletter)]
  · rw [Char.toUpper_eq_of_not_isLower hlower]

/-! ## Joining words -/

/-- At the start of a word less may stand than inside. -/
theorem isJoined_mono {cs : List Char} (h : isJoined false cs = true) (inWord : Bool) :
    isJoined inWord cs = true := by
  cases cs with
  | nil => rfl
  | cons c rest =>
    simp only [isJoined, Bool.false_or, Bool.and_eq_true] at h ⊢
    exact ⟨by rw [h.1, Bool.or_true], h.2⟩

/-- Where no small letter comes next, it does not matter whether a word goes on. -/
theorem joinWords_of_startsLower {cs : List Char} (h : startsLower cs = false) (inWord : Bool) :
    joinWords inWord cs = joinWords false cs := by
  cases cs with
  | nil => rfl
  | cons c rest =>
    have hlower : c.isLower = false := h
    rw [joinWords, joinWords, hlower, Bool.and_false, Bool.and_false]

theorem startsLower_of_isJoined {cs : List Char} (h : isJoined false cs = true) :
    startsLower cs = false := by
  cases cs with
  | nil => rfl
  | cons c rest =>
    simp only [isJoined, Bool.false_or, Bool.and_eq_true, Bool.not_eq_true'] at h
    exact h.1

/-- **Nothing is left to join.** -/
theorem isJoined_joinWords (inWord : Bool) (cs : List Char) :
    isJoined inWord (joinWords inWord cs) = true := by
  -- along the characters; `inWord` changes from one to the next
  induction cs generalizing inWord with
  | nil => rfl
  | cons c rest ih =>
    unfold joinWords
    split
    · next hinside =>
      -- a small letter inside a word
      rw [Bool.and_eq_true] at hinside
      rw [isJoined, hinside.1, breaksWord_of_isAlpha (isAlpha_of_isLower hinside.2)]
      exact ih true
    · split
      · -- an underscore that goes
        exact isJoined_mono (ih false) inWord
      · next hkept =>
        split
        · next hbreak =>
          have hbreaks : breaksWord c = true := by
            rw [breaksWord, Bool.or_eq_true]
            exact Or.inl hbreak
          have hlower : c.isLower = false := by
            by_contra hlower
            have hletter := isAlpha_of_isLower (Bool.not_eq_false _ ▸ hlower)
            rw [breaksWord_of_isAlpha hletter] at hbreaks
            cases hbreaks
          rw [isJoined, hbreaks, hlower, Bool.not_false, Bool.or_true]
          exact ih false
        · next hbreak =>
          rw [isJoined, breaksWord_toUpper, Char.isLower_toUpper_eq_false, Bool.not_false,
            Bool.or_true, Bool.true_and]
          by_cases hline : c = '_'
          · -- an underscore that stays has no small letter behind it
            have hstarts : startsLower rest = false := by
              simpa [hline] using hkept
            rw [joinWords_of_startsLower hstarts, hline]
            exact ih false
          · have hbreaks : breaksWord c = false := by
              rw [breaksWord, decide_eq_false hline, Bool.or_false]
              exact Bool.eq_false_iff.mpr hbreak
            rw [hbreaks]
            exact ih true

/-- **What has nothing to join is left as it is.** -/
theorem joinWords_of_isJoined {inWord : Bool} {cs : List Char} (h : isJoined inWord cs = true) :
    joinWords inWord cs = cs := by
  induction cs generalizing inWord with
  | nil => rfl
  | cons c rest ih =>
    rw [isJoined, Bool.and_eq_true] at h
    obtain ⟨hfirst, hrest⟩ := h
    unfold joinWords
    split
    · next hinside =>
      rw [Bool.and_eq_true] at hinside
      rw [breaksWord_of_isAlpha (isAlpha_of_isLower hinside.2)] at hrest
      rw [@ih true hrest]
    · next hinside =>
      have hlower : ¬ c.isLower = true := by
        intro hlower
        rw [hlower, Bool.not_true, Bool.or_false] at hfirst
        exact hinside (by rw [hfirst, hlower]; rfl)
      split
      · next hgoes =>
        -- behind an underscore there is no small letter, so it does not go
        rw [Bool.and_eq_true, decide_eq_true_iff] at hgoes
        rw [hgoes.1] at hrest
        rw [startsLower_of_isJoined hrest] at hgoes
        cases hgoes.2
      · split
        · next hbreak =>
          have hbreaks : breaksWord c = true := by
            rw [breaksWord, Bool.or_eq_true]
            exact Or.inl hbreak
          rw [hbreaks] at hrest
          rw [@ih false hrest]
        · rw [Char.toUpper_eq_of_not_isLower hlower]
          by_cases hline : c = '_'
          · rw [hline] at hrest
            rw [joinWords_of_startsLower (startsLower_of_isJoined hrest), @ih false hrest]
          · next hbreak =>
            have hbreaks : breaksWord c = false := by
              rw [breaksWord, decide_eq_false hline, Bool.or_false]
              exact Bool.eq_false_iff.mpr hbreak
            rw [hbreaks] at hrest
            rw [@ih true hrest]

/-- Joining drops and adds no characters but letters and underscores. -/
theorem count_joinWords {c : Char} (hletter : c.isAlpha = false) (hline : c ≠ '_')
    (inWord : Bool) (cs : List Char) : (joinWords inWord cs).count c = cs.count c := by
  induction cs generalizing inWord with
  | nil => rfl
  | cons first rest ih =>
    unfold joinWords
    split
    · rw [List.count_cons, List.count_cons, ih]
    · split
      · next hgoes =>
        -- an underscore is not counted
        rw [Bool.and_eq_true, decide_eq_true_iff] at hgoes
        rw [ih, hgoes.1, List.count_cons_of_ne hline.symm]
      · split
        · rw [List.count_cons, List.count_cons, ih]
        · by_cases hlower : first.isLower = true
          · -- a letter is not counted, small or capital
            have hfirst : first ≠ c := by
              rintro rfl
              rw [isAlpha_of_isLower hlower] at hletter
              cases hletter
            have hupper : first.toUpper ≠ c := by
              rintro rfl
              rw [Char.isAlpha_toUpper_eq_isAlpha, isAlpha_of_isLower hlower] at hletter
              cases hletter
            rw [List.count_cons_of_ne hfirst, List.count_cons_of_ne hupper, ih]
          · rw [Char.toUpper_eq_of_not_isLower hlower, List.count_cons, List.count_cons, ih]

/-- Only from nothing comes nothing. -/
theorem joinWords_ne_nil {inWord : Bool} {cs : List Char} (h : cs ≠ []) :
    joinWords inWord cs ≠ [] := by
  induction cs generalizing inWord with
  | nil => exact absurd rfl h
  | cons c rest ih =>
    unfold joinWords
    split
    · simp
    · split
      · next hgoes =>
        -- an underscore goes only if a letter follows
        refine ih ?_
        rintro rfl
        simp [startsLower] at hgoes
      · split <;> simp

/-! ## Normal forms -/

/-- What does not begin with an underscore is only joined. -/
theorem normalize_of_head {cs : List Char} (h : cs.head? ≠ some '_') :
    normalize cs = joinWords false cs := by
  unfold normalize
  split
  · exact absurd rfl h
  · rfl

/-- **What is made normal is normal.** -/
theorem isNormal_normalize (cs : List Char) : isNormal (normalize cs) = true := by
  unfold normalize
  split
  · next rest =>
    have hrest := isJoined_mono (isJoined_joinWords false rest) true
    simp [isNormal, isJoined, hrest, show Char.isLower 'X' = false by decide,
      show breaksWord 'X' = false by decide]
  · next hhead =>
    have hjoined := isJoined_joinWords false cs
    rw [isNormal, hjoined, Bool.and_true, decide_eq_true_iff]
    cases cs with
    | nil => simp [joinWords]
    | cons c rest =>
      have hline : c ≠ '_' := by
        rintro rfl
        exact hhead rest rfl
      have hupper : c.toUpper ≠ '_' := by
        intro heq
        by_cases hlower : c.isLower = true
        · have hletter := Char.isAlpha_toUpper_eq_isAlpha c ▸ isAlpha_of_isLower hlower
          rw [heq] at hletter
          exact absurd hletter (by decide)
        · exact hline (Char.toUpper_eq_of_not_isLower hlower ▸ heq)
      rw [joinWords, Bool.false_and, if_neg Bool.false_ne_true, decide_eq_false hline,
        Bool.false_and, if_neg Bool.false_ne_true]
      split
      · simpa using hline
      · simpa using hupper

/-- **What is normal is left alone.** -/
theorem normalize_of_isNormal {cs : List Char} (h : isNormal cs = true) : normalize cs = cs := by
  rw [isNormal, Bool.and_eq_true, decide_eq_true_iff] at h
  rw [normalize_of_head h.1, joinWords_of_isJoined h.2]

/-- To make a name normal twice changes nothing. -/
theorem camelCase_camelCase (s : String) : camelCase (camelCase s) = camelCase s := by
  rw [camelCase, camelCase, String.toList_ofList, normalize_of_isNormal (isNormal_normalize _)]

/-- But for letters and underscores, normal forms have the characters of the name. -/
theorem count_normalize {c : Char} (hletter : c.isAlpha = false) (hline : c ≠ '_')
    (cs : List Char) : (normalize cs).count c = cs.count c := by
  unfold normalize
  split
  · next rest =>
    have hcross : 'X' ≠ c := by
      rintro rfl
      cases hletter
    rw [List.count_cons_of_ne hcross, List.count_cons_of_ne hline.symm,
      count_joinWords hletter hline]
  · exact count_joinWords hletter hline false cs

theorem mem_normalize_iff {c : Char} (hletter : c.isAlpha = false) (hline : c ≠ '_')
    {cs : List Char} : c ∈ normalize cs ↔ c ∈ cs := by
  rw [← List.count_pos_iff, count_normalize hletter hline, List.count_pos_iff]

theorem normalize_eq_nil_iff {cs : List Char} : normalize cs = [] ↔ cs = [] := by
  constructor
  · intro hnil
    unfold normalize at hnil
    split at hnil
    · cases hnil
    · by_contra hne
      exact joinWords_ne_nil hne hnil
  · rintro rfl
    rfl

/-! ## Usable names -/

theorem isValid_iff {s : String} :
    isValid s = true ↔ s.toList ≠ [] ∧ ∀ c ∈ s.toList, c ≠ '.' ∧ Text.isBlank c = false := by
  simp [isValid]

/-- What makes a name unusable stands in it exactly if it stands in the normal form. -/
theorem mem_normalize_of_unusable {c : Char} (h : ¬ (c ≠ '.' ∧ Text.isBlank c = false))
    {cs : List Char} : c ∈ normalize cs ↔ c ∈ cs := by
  refine mem_normalize_iff ?_ ?_
  · rw [Bool.eq_false_iff]
    intro hletter
    refine h ⟨?_, isBlank_of_isAlpha hletter⟩
    rintro rfl
    exact absurd hletter (by decide)
  · rintro rfl
    exact h (by decide)

/-- **A name is usable exactly if its normal form is.** -/
theorem isValid_camelCase_iff {s : String} : isValid (camelCase s) = true ↔ isValid s = true := by
  rw [isValid_iff, isValid_iff, camelCase, String.toList_ofList, Ne, normalize_eq_nil_iff]
  refine and_congr_right fun _ => forall_congr' fun c => ?_
  by_cases husable : c ≠ '.' ∧ Text.isBlank c = false
  · exact ⟨fun _ _ => husable, fun _ _ => husable⟩
  · rw [mem_normalize_of_unusable husable]

end RemoteCall.Name
