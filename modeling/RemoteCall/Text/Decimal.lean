/-!
# Decimal numbers

A number in base 10, as people type it: digits, which a plus sign may precede.  Reading stops to
count at a limit, so that a text of any length is read in one pass over small numbers, and
`valueUpTo_eq` says that nothing but the size of too large a number gets lost.
-/

namespace RemoteCall.Text

/-- The number that one digit stands for. -/
def digitValue (c : Char) : Nat :=
  c.toNat - '0'.toNat

/-- The number that digits stand for. -/
def value (digits : List Char) : Nat :=
  digits.foldl (fun n c => 10 * n + digitValue c) 0

/-- The number that digits stand for, or the next after `limit` if it is larger than `limit`. -/
def valueUpTo (limit : Nat) (digits : List Char) : Nat :=
  digits.foldl (fun n c => min (limit + 1) (10 * n + digitValue c)) 0

/-- The number that a text stands for, if the text is a number up to `limit`. -/
def unsigned? (limit : Nat) (text : List Char) : Option Nat :=
  let digits := match text with
    | '+' :: rest => rest
    | other => other
  if digits.isEmpty || !digits.all Char.isDigit then none
  else
    let n := valueUpTo limit digits
    if n ≤ limit then some n else none

/-- Counting on from a number cut off at the limit is counting on and cutting off at the end. -/
theorem foldl_upTo (limit : Nat) (digits : List Char) (n : Nat) :
    digits.foldl (fun n c => min (limit + 1) (10 * n + digitValue c)) (min (limit + 1) n) =
      min (limit + 1) (digits.foldl (fun n c => 10 * n + digitValue c) n) := by
  induction digits generalizing n with
  | nil => rfl
  | cons c digits ih =>
    have h : min (limit + 1) (10 * min (limit + 1) n + digitValue c) =
        min (limit + 1) (10 * n + digitValue c) := by omega
    rw [List.foldl_cons, List.foldl_cons, h, ih]

/-- Only the size of a number beyond the limit gets lost. -/
theorem valueUpTo_eq (limit : Nat) (digits : List Char) :
    valueUpTo limit digits = min (limit + 1) (value digits) := by
  have h := foldl_upTo limit digits 0
  rwa [Nat.min_eq_right (Nat.zero_le _)] at h

end RemoteCall.Text
