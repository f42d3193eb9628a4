/-!
# Runs

Clients, connections and conversations are machines: each has a function that takes a step, and
leaves open who takes which step when.  A run is one way in which that may go.  It keeps its past,
so that a statement can speak of what happened first, or only once.

A property of runs is proved by induction on the run, whose step is the machine's step.  Two ways of
looking at runs serve everywhere: every moment of a run is a step of the machine after a run of its
own (`Run.split`), and a list of labels that the machine accepts is a run (`Run.of_replay`).
-/

namespace RemoteCall

/-- One step of a run: in which state it was taken, which step it was, to which state it led, and
what it showed. -/
structure Moment (σ κ ε : Type) where
  before : σ
  label : κ
  after : σ
  shown : List ε

section

variable {σ κ ε : Type}

/-- What may happen from a state on: the moments so far, first one first, and the state they led
to. -/
inductive Run (step : σ → κ → Option (σ × List ε)) (start : σ) : List (Moment σ κ ε) → σ → Prop
  | start : Run step start [] start
  | snoc {past : List (Moment σ κ ε)} {s s' : σ} {label : κ} {shown : List ε} :
      Run step start past s → step s label = some (s', shown) →
        Run step start (past ++ [⟨s, label, s', shown⟩]) s'

/-- Everything that was shown. -/
def effects (past : List (Moment σ κ ε)) : List ε :=
  past.flatMap Moment.shown

theorem effects_snoc (past : List (Moment σ κ ε)) (m : Moment σ κ ε) :
    effects (past ++ [m]) = effects past ++ m.shown := by
  rw [effects, List.flatMap_append, List.flatMap_singleton]
  rfl

/-- Takes the steps of these labels, and keeps what happens. -/
def replay (step : σ → κ → Option (σ × List ε)) (s : σ) :
    List κ → Option (List (Moment σ κ ε) × σ)
  | [] => some ([], s)
  | label :: labels =>
    match step s label with
    | none => none
    | some (s', shown) =>
      (replay step s' labels).map fun later => (⟨s, label, s', shown⟩ :: later.1, later.2)

variable {step : σ → κ → Option (σ × List ε)} {start s : σ} {past : List (Moment σ κ ε)}

namespace Run

/-- Every moment of a run is a step, taken where the run had come so far. -/
theorem split {early late : List (Moment σ κ ε)} {m : Moment σ κ ε}
    (h : Run step start (early ++ m :: late) s) :
    Run step start early m.before ∧ step m.before m.label = some (m.after, m.shown) := by
  -- a run grows at its end, so the moment is the last one or lies in the run before
  generalize hpast : early ++ m :: late = past at h
  induction h generalizing late with
  | start => simp at hpast
  | @snoc past s s' label shown hrun hstep ih =>
    rcases List.eq_nil_or_concat late with rfl | ⟨late, last, rfl⟩
    · obtain ⟨rfl, hm⟩ := List.append_inj' hpast rfl
      cases hm
      exact ⟨hrun, hstep⟩
    · rw [List.concat_eq_append, ← List.cons_append, ← List.append_assoc] at hpast
      exact ih (List.append_inj' hpast rfl).1

theorem step_of_mem (h : Run step start past s) {m : Moment σ κ ε} (hm : m ∈ past) :
    step m.before m.label = some (m.after, m.shown) := by
  obtain ⟨early, late, rfl⟩ := List.append_of_mem hm
  exact h.split.2

/-- Two runs, the second from where the first has come. -/
theorem append {later : List (Moment σ κ ε)} {t : σ} (h : Run step start past s)
    (hl : Run step s later t) : Run step start (past ++ later) t := by
  induction hl with
  | start => rwa [List.append_nil]
  | snoc _ hstep ih =>
    rw [← List.append_assoc]
    exact ih.snoc hstep

/-- What happens after a moment is a run from where the moment led. -/
theorem after {early late : List (Moment σ κ ε)} {m : Moment σ κ ε}
    (h : Run step start (early ++ m :: late) s) : Run step m.after late s := by
  generalize hpast : early ++ m :: late = past at h
  induction h generalizing late with
  | start => simp at hpast
  | @snoc past s s' label shown hrun hstep ih =>
    rcases List.eq_nil_or_concat late with rfl | ⟨late, last, rfl⟩
    · obtain ⟨_, hm⟩ := List.append_inj' hpast rfl
      cases hm
      exact .start
    · rw [List.concat_eq_append, ← List.cons_append, ← List.append_assoc] at hpast
      obtain ⟨hearly, hm⟩ := List.append_inj' hpast rfl
      cases hm
      rw [List.concat_eq_append]
      exact (ih hearly).snoc hstep

/-- What is true after a moment and kept by every step is true in the end. -/
theorem keep {P : σ → Prop} {early late : List (Moment σ κ ε)} {m : Moment σ κ ε}
    (h : Run step start (early ++ m :: late) s) (hafter : P m.after)
    (hstep : ∀ {past : List (Moment σ κ ε)} {t t' : σ} {label : κ} {shown : List ε},
      Run step start past t → step t label = some (t', shown) → P t → P t') : P s := by
  have hfirst := h.split.1.snoc h.split.2
  induction h.after with
  | start => exact hafter
  | snoc hrest hlast ih =>
    have hpast := hfirst.append hrest
    rw [List.append_assoc] at hpast
    exact hstep hpast hlast (ih hpast)

theorem append_replay {labels : List κ} {later : List (Moment σ κ ε)} {t : σ}
    (h : Run step start past s) (hl : replay step s labels = some (later, t)) :
    Run step start (past ++ later) t := by
  -- the past grows at its end while the labels are used up from the front
  induction labels generalizing past s later with
  | nil =>
    cases hl
    rwa [List.append_nil]
  | cons label labels ih =>
    unfold replay at hl
    split at hl
    · cases hl
    · next s' shown hstep =>
      obtain ⟨⟨rest, t'⟩, hrest, heq⟩ := Option.map_eq_some_iff.mp hl
      cases heq
      have hrun := ih (h.snoc hstep) hrest
      rwa [List.append_assoc, List.singleton_append] at hrun

/-- Labels that the machine accepts one after the other are a run. -/
theorem of_replay {labels : List κ} {t : σ} (h : replay step s labels = some (past, t)) :
    Run step s past t := by
  have hrun := Run.start.append_replay h
  rwa [List.nil_append] at hrun

end Run

end

/-! ## Lists in the state

A state keeps its calls or requests in a list, and a step adds one behind the others or changes one
in its place. -/

theorem getElem?_modify_eq_some {α : Type} {l : List α} {f : α → α} {i j : Nat} {b : α}
    (h : (l.modify i f)[j]? = some b) : ∃ a, l[j]? = some a ∧ b = if i = j then f a else a := by
  rw [List.getElem?_modify] at h
  obtain ⟨a, ha, hb⟩ := Option.map_eq_some_iff.mp h
  exact ⟨a, ha, hb.symm⟩

theorem getElem?_append_singleton {α : Type} {l : List α} {a b : α} {i : Nat}
    (h : (l ++ [a])[i]? = some b) : l[i]? = some b ∨ i = l.length ∧ b = a := by
  rcases Nat.lt_or_ge i l.length with hlt | hge
  · rw [List.getElem?_append_left hlt] at h
    exact Or.inl h
  · rw [List.getElem?_append_right hge] at h
    obtain ⟨hlen, hb⟩ := List.getElem?_eq_some_iff.mp h
    rw [List.length_singleton] at hlen
    refine Or.inr ⟨by omega, ?_⟩
    rw [← hb, List.getElem_singleton]

theorem filterMap_concat {α β : Type} (f : α → Option β) (l : List α) (a : α) :
    (l ++ [a]).filterMap f = l.filterMap f ++ (f a).toList := by
  rw [List.filterMap_append, List.filterMap_cons, List.filterMap_nil]
  cases f a <;> rfl

/-- What is picked out of a list stays if the changed element gives the same. -/
theorem filterMap_modify_eq {α β : Type} {l : List α} {f : α → α} {g : α → Option β} {i : Nat}
    {a : α} (h : l[i]? = some a) (hsame : g (f a) = g a) :
    (l.modify i f).filterMap g = l.filterMap g := by
  induction l generalizing i with
  | nil => cases h
  | cons b l ih =>
    cases i with
    | zero =>
      cases h
      rw [List.modify_zero_cons, List.filterMap_cons, List.filterMap_cons, hsame]
    | succ i => rw [List.modify_succ_cons, List.filterMap_cons, List.filterMap_cons, ih h]

/-- The changed element gave something, and gives nothing any more. -/
theorem filterMap_modify_perm {α β : Type} {l : List α} {f : α → α} {g : α → Option β} {i : Nat}
    {a : α} {b : β} (h : l[i]? = some a) (hwas : g a = some b) (hnow : g (f a) = none) :
    (l.filterMap g).Perm (b :: (l.modify i f).filterMap g) := by
  induction l generalizing i with
  | nil => cases h
  | cons c l ih =>
    cases i with
    | zero =>
      cases h
      rw [List.modify_zero_cons, List.filterMap_cons, List.filterMap_cons, hwas, hnow]
    | succ i =>
      rw [List.modify_succ_cons, List.filterMap_cons, List.filterMap_cons]
      split
      · exact ih h
      · exact ((ih h).cons _).trans (List.Perm.swap _ _ _)

end RemoteCall
