import RemoteCall.Service.Call

/-!
# Handlers that fail

A handler that fails says why in a text, and the reply to its caller is of the kind for failures of
handlers.  The caller does not look at the kind: it takes a reply for a failure if the reply has a
text (`ServiceError.seen`).  So it learns of every failure but the one without a text, which looks
like a success without payload, while the run itself was reported as a failure
(`Registry.Fails.dispatch`).
-/

namespace RemoteCall

/-- What a caller gets to see of a handler that failed. -/
def ServiceError.seen (error : ServiceError) : Except CallError Bytes :=
  if error.message = "" then .ok [] else .error (.application error.message)

/-- The call names a method that can read the payload, and the method's handler fails with this
error. -/
inductive Registry.Fails (r : Registry Method) (name : String) (payload : Bytes)
    (error : ServiceError) : Prop
  | intro {α β : Type} [Payload α] [Shown α] [Payload β] [Shown β] {method : Method}
      (handler : Handler α β) (fresh reply : β) (request : α) : r.lookup name = .ok method →
      method.invoke = Method.run handler fresh → Payload.read α payload = .ok request →
      handler request fresh = .failed reply error → Fails r name payload error

theorem ServiceError.seen_of_ne {error : ServiceError} (h : error.message ≠ "") :
    error.seen = .error (.application error.message) := if_neg h

/-- What a caller makes of the reply to a failure. -/
theorem Reply.result_failed (error : ServiceError) :
    (Reply.failed .application error.message).result = error.seen := by
  rw [Reply.result, Reply.isOk, ServiceError.seen]
  by_cases h : error.message = ""
  · simp [Reply.failed, h]
  · simp [Reply.failed, h, CallError.ofResponse]

section

variable {r : Registry Method} {name : String} {payload : Bytes} {error : ServiceError}

/-- **The run of a handler that fails is reported as a failure**, and its reply is of the kind for
failures. -/
theorem Registry.Fails.dispatch (h : r.Fails name payload error) : ∃ args reply,
    r.dispatch name payload = .replied [.handled name args reply (some error.message)]
      (.failed .application error.message) := by
  obtain ⟨handler, fresh, reply, request, hlookup, hinvoke, hread, hfailed⟩ := h
  refine ⟨Shown.shown request, Shown.shown reply, ?_⟩
  rw [Registry.dispatch, hlookup]
  simp only [hinvoke, Method.run, hread, hfailed]
  rfl

/-- What a call in place comes to. -/
theorem Registry.Fails.callRaw (h : r.Fails name payload error) :
    r.callRaw name payload = some error.seen := by
  obtain ⟨args, reply, hdispatch⟩ := h.dispatch
  rw [Registry.callRaw, hdispatch]
  exact congrArg some (Reply.result_failed error)

/-- What a call with types comes to. -/
theorem Registry.Fails.call (h : r.Fails name payload error) {α : Type} [Payload α] {args : α}
    (hargs : Payload.encode args = .ok payload) (β : Type) [Payload β] :
    RemoteCall.call r.callRaw name args β = some (readReply β error.seen) := by
  rw [RemoteCall.call, hargs]
  simp only [h.callRaw, Option.map_some]

end

end RemoteCall
