import RemoteCall.Service.Call

/-!
# Registries that were registered

A registry is built by registering one service after the other; what cannot be registered leaves it
as it was.  So whatever is true of all methods in the tables is true of every method that a call can
find (`Registered.of_lookup`).  The property that matters most is that methods come back: then a call
in place has an outcome (`callRaw_eq_some`).  Another is that they report nothing but runs of their
handlers, which every method has that was made of a handler.
-/

namespace RemoteCall

namespace Registry

variable {μ : Type} {p : μ → Prop} {r : Registry μ}

/-- A registry that holds the services of some tables, whose methods have a property. -/
inductive Registered (p : μ → Prop) : Registry μ → Prop
  | empty : Registered p .empty
  | register {r r' : Registry μ} (name : String) (table : List (String × μ)) : Registered p r →
      (∀ entry ∈ table, p entry.2) → r.register name table = .ok r' → Registered p r'

theorem forall_select {kept table : List (String × μ)} (hkept : ∀ entry ∈ kept, p entry.2)
    (htable : ∀ entry ∈ table, p entry.2) : ∀ entry ∈ select kept table, p entry.2 := by
  induction table generalizing kept with
  | nil => exact hkept
  | cons first table ih =>
    obtain ⟨name, method⟩ := first
    have hrest : ∀ entry ∈ table, p entry.2 := fun e he => htable e (List.mem_cons_of_mem _ he)
    unfold select
    split
    · refine ih ?_ hrest
      intro entry hentry
      rcases List.mem_append.mp hentry with hentry | hentry
      · exact hkept entry hentry
      · cases List.mem_singleton.mp hentry
        exact htable (name, method) List.mem_cons_self
    · exact ih hkept hrest

theorem Registered.of_services (h : Registered p r) :
    ∀ service ∈ r.services, ∀ entry ∈ service.2, p entry.2 := by
  induction h with
  | empty => exact fun _ hservice => by cases hservice
  | @register r r' name table _ htable hregister ih =>
    rw [Registry.register] at hregister
    split at hregister
    · split at hregister
      · cases hregister
      · simp only at hregister
        split at hregister
        · cases hregister
        · cases hregister
          intro service hservice
          rcases List.mem_append.mp hservice with hservice | hservice
          · exact ih service hservice
          · cases List.mem_singleton.mp hservice
            exact forall_select (fun _ he => by cases he) htable
    · cases hregister

theorem mem_of_lookup {α : Type} {l : List (String × α)} {name : String} {a : α}
    (h : l.lookup name = some a) : (name, a) ∈ l := by
  obtain ⟨before, behind, rfl, _⟩ := List.lookup_eq_some_iff.mp h
  exact List.mem_append_right _ List.mem_cons_self

/-- **Whatever a call finds stood in one of the tables.** -/
theorem Registered.of_lookup (h : Registered p r) {name : String} {m : μ}
    (hlookup : r.lookup name = .ok m) : p m := by
  unfold Registry.lookup at hlookup
  split at hlookup
  · cases hlookup
  · split at hlookup
    · cases hlookup
    · next methods hservice =>
      split at hlookup
      · cases hlookup
      · next found hmethod =>
        cases hlookup
        exact h.of_services _ (mem_of_lookup hservice) _ (mem_of_lookup hmethod)

end Registry

/-- A method that always comes back with a reply. -/
def Method.Returns (m : Method) : Prop :=
  ∀ name payload, m.invoke name payload ≠ .panicked

theorem Method.returns_ofHandler {α β : Type} [Payload α] [Shown α] [Payload β] [Shown β]
    {handler : Handler α β} (h : ∀ request fresh, handler request fresh ≠ .panicked) (fresh : β) :
    (ofHandler handler fresh).Returns := by
  intro name payload
  show run handler fresh name payload ≠ .panicked
  unfold run
  split
  · simp
  · next request _ =>
    split
    · next hpanicked => exact absurd hpanicked (h request fresh)
    · simp
    · simp

/-- A method that reports nothing but runs of its handler. -/
def Method.ReportsRuns (m : Method) : Prop :=
  ∀ name payload, ∀ event ∈ (m.invoke name payload).events,
    ∃ args reply error, event = .handled name args reply error

theorem Method.reportsRuns_ofHandler {α β : Type} [Payload α] [Shown α] [Payload β] [Shown β]
    (handler : Handler α β) (fresh : β) : (ofHandler handler fresh).ReportsRuns := by
  intro name payload event hevent
  change event ∈ (run handler fresh name payload).events at hevent
  unfold run at hevent
  split at hevent
  · cases hevent
  · split at hevent
    · cases hevent
    · cases List.mem_singleton.mp hevent
      exact ⟨_, _, _, rfl⟩
    · cases List.mem_singleton.mp hevent
      exact ⟨_, _, _, rfl⟩

/-- A call in place comes back with the result of a reply. -/
theorem Registry.callRaw_eq_some {r : Registry Method} (h : r.Registered Method.Returns)
    (name : String) (payload : Bytes) :
    ∃ events reply, r.dispatch name payload = .replied events reply ∧
      r.callRaw name payload = some reply.result := by
  have hreplied : ∃ events reply, r.dispatch name payload = .replied events reply := by
    rw [dispatch]
    cases hlookup : r.lookup name with
    | error cause => exact ⟨[], _, rfl⟩
    | ok method =>
      have hreturns := h.of_lookup hlookup name payload
      show ∃ events reply, method.invoke name payload = .replied events reply
      cases hinvoke : method.invoke name payload with
      | panicked => exact absurd hinvoke hreturns
      | replied events reply => exact ⟨events, reply, rfl⟩
  obtain ⟨events, reply, hdispatch⟩ := hreplied
  refine ⟨events, reply, hdispatch, ?_⟩
  rw [callRaw, hdispatch]

end RemoteCall
