import RemoteCall.Demo.Registry
import RemoteCall.Proofs.Service.InPlace

/-!
# The demonstration services through their calls

Each of the six calls names its target in normal form, and the registry has stored the method under
this name, however it was spelled when it was registered (`registry_eq`).  The requests and replies
are read back as they were written, and both failures have a text, so every call mirrors its handler
(`mirrors_stubs`).  What the handlers compute is said in integers: arithmetic is that of
two's complement with 32 bits, and division fails for a zero divisor only.
-/

namespace RemoteCall.Demo

/-- The registry with both services: the methods by their names in normal form. -/
def services : Registry Method where
  services :=
    [("ArithService",
      [("Add", Arith.method Arith.add), ("Mul", Arith.method Arith.mul),
       ("Div", Arith.method Arith.div), ("Error", Arith.method Arith.error)]),
     ("EchoService",
      [("Echo", .ofHandler Echo.echo ⟨""⟩), ("EchoTwice", .ofHandler Echo.echoTwice ⟨""⟩)])]

/-- Neither service is refused, and none of their methods is skipped. -/
theorem registry_eq : registry = .ok services := rfl

/-- A text that a machine of 64 bits can hold. -/
def IsHeld (text : String) : Prop := (Utf8.encode text).length < 2 ^ 63

/-! ## Requests and replies are read back -/

theorem Arith.isReadBack_request (request : Arith.Request) : Payload.IsReadBack request := by
  obtain ⟨a, b⟩ := request
  refine Payload.isReadBack_of_decode rfl ?_
  rw [List.append_assoc]
  refine (Decoder.bind_ok (Payload.decode_int32_append a _)).trans ?_
  exact Decoder.bind_ok (Payload.decode_int32_append b _)

theorem Arith.isReadBack_response (response : Arith.Response) : Payload.IsReadBack response := by
  obtain ⟨c⟩ := response
  refine Payload.isReadBack_of_decode rfl ?_
  exact Decoder.bind_ok (Payload.decode_int32_append c _)

theorem Echo.isReadBack_request {text : String} (h : (Utf8.encode text).length < 2 ^ 64) :
    Payload.IsReadBack (⟨text⟩ : Echo.Request) := by
  refine Payload.isReadBack_of_decode rfl ?_
  exact Decoder.bind_ok (Payload.decode_string_append h _)

theorem Echo.isReadBack_response {text : String} (h : (Utf8.encode text).length < 2 ^ 64) :
    Payload.IsReadBack (⟨text⟩ : Echo.Response) := by
  refine Payload.isReadBack_of_decode rfl ?_
  exact Decoder.bind_ok (Payload.decode_string_append h _)

/-! ## The calls come to what the handlers come to -/

theorem Arith.call_eq_seen {handler : Handler Arith.Request Arith.Response} {name : String}
    (hlookup : services.lookup name = .ok (Arith.method handler)) (request : Arith.Request)
    (htext : ∀ reply error, handler request ⟨0⟩ = .failed reply error → error.message ≠ "") :
    Arith.callMethod services.callRaw name request = (handler request ⟨0⟩).seen :=
  Registry.call_eq_seen hlookup (Arith.isReadBack_request request)
    (fun reply _ => Arith.isReadBack_response reply) htext

theorem Arith.callAdd_eq (request : Arith.Request) :
    Arith.callAdd services.callRaw request = (Arith.add request ⟨0⟩).seen :=
  Arith.call_eq_seen rfl request (fun _ _ h => by cases h)

theorem Arith.callMul_eq (request : Arith.Request) :
    Arith.callMul services.callRaw request = (Arith.mul request ⟨0⟩).seen :=
  Arith.call_eq_seen rfl request (fun _ _ h => by cases h)

theorem Arith.callDiv_eq (request : Arith.Request) :
    Arith.callDiv services.callRaw request = (Arith.div request ⟨0⟩).seen := by
  refine Arith.call_eq_seen rfl request ?_
  intro reply error hfailed
  unfold Arith.div at hfailed
  split at hfailed
  · cases hfailed
    decide
  · cases hfailed

theorem Arith.callError_eq (request : Arith.Request) :
    Arith.callError services.callRaw request = (Arith.error request ⟨0⟩).seen := by
  refine Arith.call_eq_seen rfl request ?_
  intro reply error hfailed
  cases hfailed
  decide

theorem Echo.callEcho_eq {text : String} (h : IsHeld text) :
    Echo.callEcho services.callRaw ⟨text⟩ = (Echo.echo ⟨text⟩ ⟨""⟩).seen := by
  have hlength : (Utf8.encode text).length < 2 ^ 64 := Nat.lt_trans h (by decide)
  refine Registry.call_eq_seen rfl (Echo.isReadBack_request hlength) ?_ (fun _ _ h => by cases h)
  intro reply hdone
  cases hdone
  exact Echo.isReadBack_response hlength

theorem Echo.callEchoTwice_eq {text : String} (h : IsHeld text) :
    Echo.callEchoTwice services.callRaw ⟨text⟩ = (Echo.echoTwice ⟨text⟩ ⟨""⟩).seen := by
  have hlength : (Utf8.encode text).length < 2 ^ 63 := h
  -- the reply has twice the length, which eight bytes can still tell
  have htwice : (Utf8.encode (text ++ text)).length < 2 ^ 64 := by
    rw [Utf8.encode_append, List.length_append]
    omega
  refine Registry.call_eq_seen rfl (Echo.isReadBack_request (by omega)) ?_ (fun _ _ h => by cases h)
  intro reply hdone
  cases hdone
  exact Echo.isReadBack_response htwice

/-! ## All six calls -/

/-- Each call over this caller mirrors its handler, applied to the same request and a fresh reply. -/
structure AllMirror (caller : Caller) : Prop where
  add : ∀ request, Mirrors (Arith.callAdd caller request) (Arith.add request ⟨0⟩)
  mul : ∀ request, Mirrors (Arith.callMul caller request) (Arith.mul request ⟨0⟩)
  div : ∀ request, Mirrors (Arith.callDiv caller request) (Arith.div request ⟨0⟩)
  error : ∀ request, Mirrors (Arith.callError caller request) (Arith.error request ⟨0⟩)
  echo : ∀ text, IsHeld text →
    Mirrors (Echo.callEcho caller ⟨text⟩) (Echo.echo ⟨text⟩ ⟨""⟩)
  echoTwice : ∀ text, IsHeld text →
    Mirrors (Echo.callEchoTwice caller ⟨text⟩) (Echo.echoTwice ⟨text⟩ ⟨""⟩)

/-- What each call over this caller comes to.  Sums, products and quotients are the integers' own,
brought into the range of 32 bits; quotients go toward zero. -/
structure AllCompute (caller : Caller) : Prop where
  add : ∀ a b, ∃ c, Arith.callAdd caller ⟨a, b⟩ = some (.ok ⟨c⟩) ∧
    c.toInt = (a.toInt + b.toInt).bmod (2 ^ 32)
  mul : ∀ a b, ∃ c, Arith.callMul caller ⟨a, b⟩ = some (.ok ⟨c⟩) ∧
    c.toInt = (a.toInt * b.toInt).bmod (2 ^ 32)
  div : ∀ a b, b ≠ 0 → ∃ c, Arith.callDiv caller ⟨a, b⟩ = some (.ok ⟨c⟩) ∧
    c.toInt = (a.toInt.tdiv b.toInt).bmod (2 ^ 32)
  div_fails_iff : ∀ a b,
    Arith.callDiv caller ⟨a, b⟩ = some (.error (.application "divide by zero")) ↔ b = 0
  error : ∀ request,
    Arith.callError caller request = some (.error (.application "ArithError"))
  echo : ∀ text, IsHeld text → Echo.callEcho caller ⟨text⟩ = some (.ok ⟨text⟩)
  echoTwice : ∀ text, IsHeld text → Echo.callEchoTwice caller ⟨text⟩ = some (.ok ⟨text ++ text⟩)

theorem allMirror_services : AllMirror services.callRaw where
  add request := .of_seen (Arith.callAdd_eq request)
  mul request := .of_seen (Arith.callMul_eq request)
  div request := .of_seen (Arith.callDiv_eq request)
  error request := .of_seen (Arith.callError_eq request)
  echo _ h := .of_seen (Echo.callEcho_eq h)
  echoTwice _ h := .of_seen (Echo.callEchoTwice_eq h)

theorem allCompute_services : AllCompute services.callRaw where
  add a b := ⟨a + b, Arith.callAdd_eq ⟨a, b⟩, Int32.toInt_add a b⟩
  mul a b := ⟨a * b, Arith.callMul_eq ⟨a, b⟩, Int32.toInt_mul a b⟩
  div a b hb := by
    refine ⟨a / b, ?_, Int32.toInt_div a b⟩
    rw [Arith.callDiv_eq, Arith.div, if_neg hb]
    rfl
  div_fails_iff a b := by
    rw [Arith.callDiv_eq, Arith.div]
    by_cases hb : b = 0
    · rw [if_pos hb]
      exact iff_of_true rfl hb
    · rw [if_neg hb]
      refine iff_of_false ?_ hb
      intro hfails
      cases hfails
  error request := Arith.callError_eq request
  echo _ h := Echo.callEcho_eq h
  echoTwice _ h := Echo.callEchoTwice_eq h

/-- **The calls are transparent.**  The registry of the demonstration can be set up; over it every
call comes to exactly what its handler comes to for the same request, a value or a failure with its
text; and this is arithmetic of 32 bits, in which only a zero divisor fails, and the text once or
twice. -/
theorem transparent_registry :
    ∃ r, registry = .ok r ∧ AllMirror r.callRaw ∧ AllCompute r.callRaw :=
  ⟨services, registry_eq, allMirror_services, allCompute_services⟩

/-- The quotient that does not fit, a zero divisor, and a text of three bytes a character. -/
theorem transparent_at_limits : ∃ r, registry = .ok r ∧
    Arith.callDiv r.callRaw ⟨Int32.minValue, -1⟩ = some (.ok ⟨Int32.minValue⟩) ∧
    Arith.callDiv r.callRaw ⟨7, 0⟩ = some (.error (.application "divide by zero")) ∧
    IsHeld "日本" ∧ Echo.callEchoTwice r.callRaw ⟨"日本"⟩ = some (.ok ⟨"日本日本"⟩) := by
  obtain ⟨r, hregistry, _, hcompute⟩ := transparent_registry
  have hheld : IsHeld "日本" := by
    show (Utf8.encode "日本").length < 2 ^ 63
    decide +kernel
  obtain ⟨c, hcall, hc⟩ := hcompute.div Int32.minValue (-1) (by decide)
  have hmin : c = Int32.minValue := Int32.toInt_inj.mp (hc.trans (by decide))
  rw [hmin] at hcall
  exact ⟨r, hregistry, hcall, (hcompute.div_fails_iff 7 0).mpr rfl, hheld,
    hcompute.echoTwice "日本" hheld⟩

end RemoteCall.Demo
