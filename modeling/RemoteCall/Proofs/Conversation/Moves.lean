import RemoteCall.Proofs.Conversation.ClientSide
import RemoteCall.Proofs.Server.Change

/-!
# What a step of a conversation does

Either side takes one of its own steps, and what it writes goes into its pipe; or bytes, or the end
of a stream, arrive at the other side.  `Move` lists these with what each asks for, and
`move_of_step` says that every step is one of them.  What is proved about whole conversations is
proved by cases on `Move`.
-/

namespace RemoteCall.Conversation

variable {setup : Setup} {s s' : State} {label : Label} {events : List Event}

/-- What a step can do to the two sides and the pipes. -/
inductive Move (setup : Setup) (s : State) : Label → State → Prop
  | client {l : Client.Label} {k : Client.State} {shown : List Client.Effect} :
      s.allowsClient l = true → Client.step setup.client s.client l = some (k, shown) →
      Move setup s (.client l) { s with
        client := k
        requests := ⟨s.requests.held ++ Client.output shown,
          s.requests.ending || decide (.endOutput ∈ shown)⟩ }
  | server {l : Connection.Label} {v : Connection.State} {shown : List Connection.Effect} :
      s.allowsServer l = true → Connection.step setup.server s.server l = some (v, shown) →
      Move setup s (.server l) { s with
        server := v
        responses := ⟨s.responses.held ++ Connection.output shown,
          s.responses.ending || decide (.endOutput ∈ shown)⟩ }
  | carryRequests (n : Nat) : s.server.inputEnded = false →
      Move setup s (.carryRequests n) { s with
        server := { s.server with inbox := s.server.inbox ++ s.requests.held.take n }
        requests := { s.requests with held := s.requests.held.drop n } }
  | endRequests : s.requests.ending = true →
      Move setup s .endRequests { s with server := { s.server with inputEnded := true } }
  | carryResponses (n : Nat) : s.client.inputEnded = false →
      Move setup s (.carryResponses n) { s with
        client := { s.client with inbox := s.client.inbox ++ s.responses.held.take n }
        responses := { s.responses with held := s.responses.held.drop n } }
  | endResponses : s.responses.ending = true →
      Move setup s .endResponses { s with client := { s.client with inputEnded := true } }

/-- What a step of the client shows goes into its pipe, which may end with it. -/
theorem foldl_takeClient (effects : List Client.Effect) (t : State) :
    effects.foldl State.takeClient t = { t with requests :=
      ⟨t.requests.held ++ Client.output effects,
        t.requests.ending || decide (.endOutput ∈ effects)⟩ } := by
  induction effects generalizing t with
  | nil =>
    show t = { t with requests := ⟨t.requests.held ++ [], t.requests.ending || false⟩ }
    rw [List.append_nil, Bool.or_false]
  | cons effect effects ih =>
    rw [List.foldl_cons, ih]
    cases effect with
    | event event => simp [State.takeClient, Client.output]
    | bytes bytes => simp [State.takeClient, Client.output]
    | endOutput => simp [State.takeClient, Client.output]

/-- What a step of the connection shows goes into the other pipe. -/
theorem foldl_takeServer (effects : List Connection.Effect) (t : State) :
    effects.foldl State.takeServer t = { t with responses :=
      ⟨t.responses.held ++ Connection.output effects,
        t.responses.ending || decide (.endOutput ∈ effects)⟩ } := by
  induction effects generalizing t with
  | nil =>
    show t = { t with responses := ⟨t.responses.held ++ [], t.responses.ending || false⟩ }
    rw [List.append_nil, Bool.or_false]
  | cons effect effects ih =>
    rw [List.foldl_cons, ih]
    cases effect with
    | event event => simp [State.takeServer, Connection.output]
    | bytes bytes => simp [State.takeServer, Connection.output]
    | endOutput => simp [State.takeServer, Connection.output]

/-- **Every step is one of the moves.** -/
theorem move_of_step (h : step setup s label = some (s', events)) : Move setup s label s' := by
  cases label with
  | client l =>
    rw [step] at h
    split at h
    · next hallowed =>
      split at h
      · next k effects hk =>
        cases h
        rw [foldl_takeClient]
        exact .client hallowed hk
      · cases h
    · cases h
  | server l =>
    rw [step] at h
    split at h
    · next hallowed =>
      split at h
      · next v effects hv =>
        cases h
        rw [foldl_takeServer]
        exact .server hallowed hv
      · cases h
    · cases h
  | carryRequests n =>
    rw [step] at h
    split at h
    · cases h
    · split at h
      · next v effects hv =>
        rw [Connection.step] at hv
        split at hv
        · cases hv
        · next hinput =>
          cases hv
          cases h
          exact .carryRequests n (Bool.eq_false_iff.mpr hinput)
      · cases h
  | endRequests =>
    rw [step] at h
    split at h
    · next hending =>
      rw [Bool.and_eq_true, Bool.and_eq_true] at hending
      cases h
      exact .endRequests hending.1.1
    · cases h
  | carryResponses n =>
    rw [step] at h
    split at h
    · cases h
    · split at h
      · next k effects hk =>
        rw [Client.step] at hk
        split at hk
        · cases hk
        · next hinput =>
          cases hk
          cases h
          exact .carryResponses n (Bool.eq_false_iff.mpr hinput)
      · cases h
  | endResponses =>
    rw [step] at h
    split at h
    · next hending =>
      rw [Bool.and_eq_true, Bool.and_eq_true] at hending
      cases h
      exact .endResponses hending.1.1
    · cases h

end RemoteCall.Conversation
