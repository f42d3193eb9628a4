import RemoteCall.Endpoint
import RemoteCall.Proofs.Frame.Receiving

/-!
# Frames keep their boundaries

A sender and a receiver may have been told any limits; what takes effect is never more than what
four bytes can tell.  Into a pipe with room for everything a sender writes the stream of the bodies
that are within its limit, one whole frame each, and of the others nothing (`sendAll_close`).  A
receiver sees of such a stream the bodies up to the first one over its own limit, which it refuses,
or else all of them and then the end (`yields_stream`).  Put together this is `KeepsBoundaries`,
once for a sender and a receiver on their own and once for the two ends of a connection, which
clamp the limits they are told (`keepsBoundaries`).
-/

namespace RemoteCall

namespace Frame

theorem clampLimit_le (limit : Nat) : clampLimit limit ≤ longest :=
  Nat.min_le_right limit longest

/-! ## What is sent -/

/-- How sending a body ends where there is room for everything. -/
def sentAs (limit : Nat) (body : Bytes) : Sent :=
  if body.length ≤ limit then .done else .failed (overLimit body.length limit)

/-- The bodies that a sender does not refuse. -/
def accepted (limit : Nat) (bodies : List Bytes) : List Bytes :=
  bodies.filter fun body => body.length ≤ limit

theorem accepted_cons (limit : Nat) (body : Bytes) (bodies : List Bytes) :
    accepted limit (body :: bodies) = accepted limit [body] ++ accepted limit bodies :=
  List.filter_append [body] bodies

theorem length_le_of_mem_accepted {limit : Nat} {bodies : List Bytes} {body : Bytes}
    (h : body ∈ accepted limit bodies) : body.length ≤ limit :=
  of_decide_eq_true (List.mem_filter.mp h).2

/-- A body over the limit leaves any pipe as it was. -/
theorem send_of_limit_lt {limit : Nat} {body : Bytes} (h : limit < body.length)
    (timeout : Option Nat) (pipe : Pipe) :
    send limit timeout pipe body = (.failed (overLimit body.length limit), pipe) := by
  have hnot : ¬ body.length ≤ limit := by omega
  simp only [send, encode?, if_neg hnot]

end Frame

/-- A pipe that is open and has room for everything. -/
structure Pipe.IsWide (pipe : Pipe) : Prop where
  unbounded : pipe.capacity = none
  sound : pipe.isBroken = false

/-- The pipe with more bytes in it. -/
def Pipe.holding (pipe : Pipe) (bytes : Bytes) : Pipe :=
  { pipe with held := pipe.held ++ bytes }

namespace Pipe

theorem isWide_empty : (empty none).IsWide := ⟨rfl, rfl⟩

theorem IsWide.holding {pipe : Pipe} (h : pipe.IsWide) (bytes : Bytes) :
    (pipe.holding bytes).IsWide := ⟨h.unbounded, h.sound⟩

theorem holding_nil (pipe : Pipe) : pipe.holding [] = pipe := by
  rw [holding, List.append_nil]

theorem holding_holding (pipe : Pipe) (front back : Bytes) :
    (pipe.holding front).holding back = pipe.holding (front ++ back) := by
  simp only [holding, List.append_assoc]

theorem IsWide.put {pipe : Pipe} (h : pipe.IsWide) (bytes : Bytes) :
    pipe.put bytes = (pipe.holding bytes, []) := by
  have hroom : pipe.room bytes.length = bytes.length := by rw [room, h.unbounded]
  simp only [Pipe.put, hroom, List.take_length, List.drop_length, Pipe.holding]

end Pipe

namespace Frame

/-- Where there is room for everything, an accepted body goes in as one frame and another body not
at all. -/
theorem send_of_isWide {pipe : Pipe} (h : pipe.IsWide) (limit : Nat) (body : Bytes) :
    send limit none pipe body
      = (sentAs limit body, pipe.holding (stream (accepted limit [body]))) := by
  by_cases hle : body.length ≤ limit
  · have haccepted : accepted limit [body] = [body] :=
      List.filter_cons_of_pos (decide_eq_true hle)
    have hstream : stream [body] = encode body := List.append_nil _
    rw [haccepted, hstream]
    simp only [send, encode?, if_pos hle, h.sound, h.put, sentAs]
    rfl
  · have haccepted : accepted limit [body] = [] :=
      List.filter_cons_of_neg (fun hpos => hle (of_decide_eq_true hpos))
    rw [haccepted, stream_nil, Pipe.holding_nil, sentAs, if_neg hle]
    exact send_of_limit_lt (by omega) none pipe

/-- What is sent and what the pipe then holds, the end included. -/
theorem sendAll_close {pipe : Pipe} (h : pipe.IsWide) (limit : Nat) (bodies : List Bytes) :
    sendAll limit none pipe (bodies.map .body ++ [.close])
      = (bodies.map (sentAs limit) ++ [.done],
          (pipe.holding (stream (accepted limit bodies))).close) := by
  induction bodies generalizing pipe with
  | nil =>
    show (_, pipe.close) = (_, (pipe.holding []).close)
    rw [Pipe.holding_nil]
    rfl
  | cons body bodies ih =>
    have hsend := send_of_isWide h limit body
    have hrest := ih (h.holding (stream (accepted limit [body])))
    rw [Pipe.holding_holding, ← stream_append, ← accepted_cons] at hrest
    simp only [List.map_cons, List.cons_append, sendAll, hsend, hrest]

/-! ## What is received of it -/

/-- A frame over the limit is refused as soon as its length is there. -/
theorem scan_encode_of_limit_lt {limit : Nat} {body : Bytes} (h : limit < body.length)
    (hlongest : body.length ≤ longest) (rest : Bytes) :
    scan limit (encode body ++ rest) = .tooLarge body.length (body ++ rest) := by
  have hfront : Bytes.splitFront 4 (encode body ++ rest)
      = some (Bytes.bigEndian 4 body.length, body ++ rest) :=
    Bytes.splitFront_eq_some_iff.mpr
      ⟨by rw [encode, List.append_assoc], Bytes.bigEndian_length _ _⟩
  have hlength := ofBigEndian_length hlongest
  simp only [scan, hfront, hlength]
  exact if_pos h

/-- The bodies that a receiver gets before its first failure. -/
def delivered (limit : Nat) (bodies : List Bytes) : List Bytes :=
  bodies.takeWhile fun body => body.length ≤ limit

/-- The first failure: a body over the limit, or the end. -/
def firstFailure (limit : Nat) (bodies : List Bytes) : LinkError :=
  match bodies.find? fun body => limit < body.length with
  | some body => overLimit body.length limit
  | none => .closed

/-- What a receiver sees of a list of bodies. -/
def seen (limit : Nat) (bodies : List Bytes) : List Received :=
  (delivered limit bodies).map .frame ++ [.failed (firstFailure limit bodies)]

/-- **What a receiver sees of a stream** are the bodies that were written. -/
theorem yields_stream {limit : Nat} (hlimit : limit ≤ longest) {bodies : List Bytes}
    (h : ∀ body ∈ bodies, body.length ≤ longest) :
    yields limit (stream bodies) = seen limit bodies := by
  induction bodies with
  | nil =>
    rw [stream_nil, yields_eq]
    rfl
  | cons body bodies ih =>
    have hbody := h body List.mem_cons_self
    have hrest := ih fun b hb => h b (List.mem_cons_of_mem body hb)
    rw [stream_cons, yields_eq]
    by_cases hle : body.length ≤ limit
    · have hnot : ¬ limit < body.length := by omega
      have hseen : seen limit (body :: bodies) = .frame body :: seen limit bodies := by
        simp only [seen, delivered, firstFailure, List.takeWhile_cons, List.find?_cons, hle, hnot,
          decide_true, decide_false, if_true, List.map_cons, List.cons_append]
      rw [scan_encode_append hle hlimit, hseen, ← hrest]
    · have hlt : limit < body.length := by omega
      have hseen : seen limit (body :: bodies) = [.failed (overLimit body.length limit)] := by
        simp only [seen, delivered, firstFailure, List.takeWhile_cons, List.find?_cons, hle, hlt,
          decide_true, decide_false, Bool.false_eq_true, if_false, List.map_nil, List.nil_append]
      rw [scan_encode_of_limit_lt hlt hbody, hseen]

example : seen 4 [[1, 2], [], [1, 2, 3, 4, 5], [6]]
    = [.frame [1, 2], .frame [], .failed (overLimit 5 4)] := by decide

end Frame

/-! ## Between the two ends of a connection -/

namespace Endpoint.Answer

/-- What an end answers when it has sent. -/
def ofSent : Frame.Sent → Endpoint.Answer
  | .done => .done
  | .failed cause => .failed cause
  | .blocked => .blocked

/-- What an end answers when it has waited for a frame. -/
def ofReceived : Frame.Received → Endpoint.Answer
  | .frame body => .frame body
  | .failed cause => .failed cause
  | .blocked => .blocked

end Endpoint.Answer

namespace Duplex

open Endpoint Endpoint.Answer

@[simp] theorem outflow_setOutflow (d : Duplex) (side : Side) (pipe : Pipe) :
    (d.setOutflow side pipe).outflow side = pipe := if_pos rfl

@[simp] theorem endpoint_setOutflow (d : Duplex) (side other : Side) (pipe : Pipe) :
    (d.setOutflow side pipe).endpoint other = d.endpoint other := rfl

@[simp] theorem setOutflow_setOutflow (d : Duplex) (side : Side) (pipe pipe' : Pipe) :
    (d.setOutflow side pipe).setOutflow side pipe' = d.setOutflow side pipe' := by
  have houtflow : ((d.setOutflow side pipe).setOutflow side pipe').outflow
      = (d.setOutflow side pipe').outflow := by
    funext s
    by_cases hs : s = side
    · simp only [setOutflow, if_pos hs]
    · simp only [setOutflow, if_neg hs]
  exact congrArg (Duplex.mk d.endpoint) houtflow

@[simp] theorem setOutflow_outflow (d : Duplex) (side : Side) :
    d.setOutflow side (d.outflow side) = d := by
  have houtflow : (d.setOutflow side (d.outflow side)).outflow = d.outflow := by
    funext s
    by_cases hs : s = side
    · rw [hs, outflow_setOutflow]
    · simp only [setOutflow, if_neg hs]
  exact congrArg (Duplex.mk d.endpoint) houtflow

section Acts

variable {d : Duplex} {side : Side}

theorem act_send (hkept : (d.endpoint side).dropped = false) (hwide : (d.outflow side).IsWide)
    (body : Bytes) :
    d.act side (.send body)
      = (ofSent (Frame.sentAs (d.endpoint side).settings.limit body),
          d.setOutflow side ((d.outflow side).holding
            (Frame.stream (Frame.accepted (d.endpoint side).settings.limit [body])))) := by
  have hact : d.act side (.send body) = d.send side body := by
    simp only [act, hkept, Bool.false_eq_true, if_false]
  rw [hact]
  simp only [send, Frame.send_of_isWide hwide]
  cases Frame.sentAs (d.endpoint side).settings.limit body <;> rfl

/-- One end sends one body after the other. -/
theorem run_sends (hkept : (d.endpoint side).dropped = false) (hwide : (d.outflow side).IsWide)
    (bodies : List Bytes) (rest : List (Side × Action)) :
    d.run (bodies.map (fun body => (side, .send body)) ++ rest)
      = bodies.map (fun body => ofSent (Frame.sentAs (d.endpoint side).settings.limit body))
        ++ (d.setOutflow side ((d.outflow side).holding
          (Frame.stream (Frame.accepted (d.endpoint side).settings.limit bodies)))).run rest := by
  induction bodies generalizing d with
  | nil =>
    show d.run rest = (d.setOutflow side ((d.outflow side).holding [])).run rest
    rw [Pipe.holding_nil, setOutflow_outflow]
  | cons body bodies ih =>
    have hsent := act_send hkept hwide body
    generalize hd : d.setOutflow side _ = after at hsent
    have hpipe : after.outflow side = (d.outflow side).holding
        (Frame.stream (Frame.accepted (d.endpoint side).settings.limit [body])) := by
      rw [← hd, outflow_setOutflow]
    have hends : after.endpoint = d.endpoint := by rw [← hd]; rfl
    have hrest := @ih after (by rw [hends]; exact hkept) (by rw [hpipe]; exact hwide.holding _)
    rw [hpipe, Pipe.holding_holding, hends, ← Frame.stream_append, ← Frame.accepted_cons, ← hd,
      setOutflow_setOutflow] at hrest
    simp only [List.map_cons, List.cons_append, run, hsent, ← hd, hrest]

/-- What comes of waiting for a frame when the opposite end has shut its pipe. -/
theorem act_receive {limit : Nat} (hkept : (d.endpoint side).dropped = false)
    (hsettings : (d.endpoint side).settings = ⟨limit, none⟩)
    (hclosed : (d.outflow side.other).closed = true) :
    match Frame.scan limit (d.outflow side.other).held with
    | .frame body rest => d.act side .receive
        = (.frame body, d.setOutflow side.other { d.outflow side.other with held := rest })
    | .tooLarge length _ => (d.act side .receive).1 = .failed (Frame.overLimit length limit)
    | .short => (d.act side .receive).1 = .failed .closed := by
  have hfollows := @Frame.receive_follows limit 1 ⟨[(0, (d.outflow side.other).held)], some 0⟩ rfl
  have hbytes : Frame.Inflow.bytes ⟨[(0, (d.outflow side.other).held)], some 0⟩
      = (d.outflow side.other).held := List.append_nil _
  rw [hbytes] at hfollows
  simp only [act, hkept, receive, hsettings, hclosed, Bool.false_eq_true, if_false, if_true]
  generalize Frame.scan limit (d.outflow side.other).held = front at hfollows ⊢
  generalize Frame.receive ⟨limit, none⟩ 1 _ = ended at hfollows ⊢
  cases hfollows with
  | frame hrest =>
    rw [← hrest, Frame.Inflow.bytes, List.flatMap_def]
  | tooLarge => rfl
  | short => rfl

/-- One end waits for frames until the first failure. -/
theorem run_receives {limit attempts : Nat} (hkept : (d.endpoint side).dropped = false)
    (hsettings : (d.endpoint side).settings = ⟨limit, none⟩)
    (hclosed : (d.outflow side.other).closed = true)
    (h : attempts ≤ (Frame.yields limit (d.outflow side.other).held).length) :
    d.run (List.replicate attempts (side, .receive))
      = ((Frame.yields limit (d.outflow side.other).held).take attempts).map ofReceived := by
  induction attempts generalizing d with
  | zero => rfl
  | succ attempts ih =>
    have hact := act_receive hkept hsettings hclosed
    rw [Frame.yields_eq] at h ⊢
    rw [List.replicate_succ, run]
    generalize Frame.scan limit (d.outflow side.other).held = front at hact h ⊢
    cases front with
    | frame body rest =>
      simp only at hact h ⊢
      have hrest := @ih (d.setOutflow side.other { d.outflow side.other with held := rest })
        hkept hsettings (by rw [outflow_setOutflow]; exact hclosed)
        (by rw [outflow_setOutflow]; exact Nat.le_of_succ_le_succ h)
      rw [hact, hrest, outflow_setOutflow]
      rfl
    | tooLarge length rest =>
      -- this was the last attempt
      have hlast : attempts = 0 := Nat.le_zero.mp (Nat.le_of_succ_le_succ h)
      rw [hlast]
      exact congrArg (· :: []) hact
    | short =>
      have hlast : attempts = 0 := Nat.le_zero.mp (Nat.le_of_succ_le_succ h)
      rw [hlast]
      exact congrArg (· :: []) hact

end Acts

/-! ### Limits are clamped -/

/-- No end has a limit beyond what four bytes can tell. -/
def IsClamped (d : Duplex) : Prop :=
  ∀ side, (d.endpoint side).settings.limit ≤ Frame.longest

theorem IsClamped.setEndpoint {d : Duplex} (h : d.IsClamped) (side : Side) {e : Endpoint}
    (he : e.settings.limit ≤ Frame.longest) : (d.setEndpoint side e).IsClamped := by
  intro other
  by_cases hother : other = side
  · have hnew : (d.setEndpoint side e).endpoint other = e := if_pos hother
    rw [hnew]
    exact he
  · have hold : (d.setEndpoint side e).endpoint other = d.endpoint other := if_neg hother
    rw [hold]
    exact h other

theorem endpoint_send (d : Duplex) (side : Side) (body : Bytes) :
    (d.send side body).2.endpoint = d.endpoint := by
  unfold send
  simp only
  split <;> rfl

theorem endpoint_receive (d : Duplex) (side : Side) : (d.receive side).2.endpoint = d.endpoint := by
  unfold receive
  simp only
  split <;> rfl

theorem IsClamped.drop {d : Duplex} (h : d.IsClamped) (side : Side) : (d.drop side).IsClamped :=
  h.setEndpoint side (h side)

theorem IsClamped.of_endpoint {d d' : Duplex} (h : d.IsClamped) (hsame : d'.endpoint = d.endpoint) :
    d'.IsClamped := by
  intro side
  rw [hsame]
  exact h side

theorem IsClamped.act {d : Duplex} (h : d.IsClamped) (side : Side) (action : Action) :
    (d.act side action).2.IsClamped := by
  have hsent (body : Bytes) : (d.send side body).2.IsClamped :=
    h.of_endpoint (endpoint_send d side body)
  have hreceived : (d.receive side).2.IsClamped := h.of_endpoint (endpoint_receive d side)
  unfold Duplex.act
  simp only
  split
  · exact h
  · cases action with
    | send body => exact hsent body
    | receive =>
      simp only
      split <;> next heq => rw [heq] at hreceived; exact hreceived
    | close =>
      simp only
      split
      · exact h.drop side
      · exact h
    | setLimit limit => exact h.setEndpoint side (Frame.clampLimit_le limit)
    | setTimeout timeout => exact h.setEndpoint side (h side)
    | drop => exact h.drop side
    | split => exact h.setEndpoint side (h side)
    | makeChannel => exact h.setEndpoint side (h side)
    | sendEnvelope header payload =>
      simp only
      split
      · exact hsent _
      · exact h
    | receiveEnvelope =>
      simp only
      split
      · next heq =>
        rw [heq] at hreceived
        split <;> exact hreceived
      · next heq =>
        rw [heq] at hreceived
        exact hreceived

/-- The connection after its ends did one thing after the other. -/
def after (d : Duplex) (actions : List (Side × Action)) : Duplex :=
  actions.foldl (fun d action => (d.act action.1 action.2).2) d

/-- **Whatever limits the ends are told**, what takes effect is one that four bytes can tell. -/
theorem isClamped_after (actions : List (Side × Action)) :
    ((connect .default .default).after actions).IsClamped := by
  have hfold (d : Duplex) (h : d.IsClamped) : (d.after actions).IsClamped := by
    induction actions generalizing d with
    | nil => exact h
    | cons action actions ih => exact ih _ (h.act action.1 action.2)
  refine hfold _ ?_
  intro side
  have hdefault : Frame.defaultLimit ≤ Frame.longest := by decide
  cases side <;> exact hdefault

/-! ### An exchange -/

/-- The near end is told the limit `w` and the far end the limit `r`.  The near end sends the
bodies and shuts its pipe, and the far end waits for frames. -/
def exchange (w r : Nat) (bodies : List Bytes) (attempts : Nat) : List (Side × Action) :=
  (.near, .setLimit w) :: (.far, .setLimit r) ::
    (bodies.map (fun body => (.near, .send body)) ++
      (.near, .close) :: List.replicate attempts (.far, .receive))

theorem run_exchange {w r attempts : Nat} {bodies : List Bytes} {received : List Frame.Received}
    (hyields : Frame.yields (Frame.clampLimit r)
      (Frame.stream (Frame.accepted (Frame.clampLimit w) bodies)) = received)
    (h : attempts ≤ received.length) :
    (connect .default .default).run (exchange w r bodies attempts)
      = .done :: .done :: (bodies.map (fun body => ofSent (Frame.sentAs (Frame.clampLimit w) body))
        ++ .done :: (received.take attempts).map ofReceived) := by
  let near : Endpoint := .fresh ⟨Frame.clampLimit w, none⟩
  let far : Endpoint := .fresh ⟨Frame.clampLimit r, none⟩
  let d := ((connect .default .default).setEndpoint .near near).setEndpoint .far far
  let sent := d.setOutflow .near ((Pipe.empty none).holding
    (Frame.stream (Frame.accepted (Frame.clampLimit w) bodies)))
  have hsends := @run_sends d .near rfl Pipe.isWide_empty bodies
    ((.near, .close) :: List.replicate attempts (.far, .receive))
  have hreceives := @run_receives (sent.setOutflow .near (sent.outflow .near).close) .far
    (Frame.clampLimit r) attempts rfl rfl rfl (by rw [← hyields] at h; exact h)
  show .done :: .done :: d.run _ = _
  rw [hsends]
  show .done :: .done :: (_ ++ .done ::
    (sent.setOutflow .near (sent.outflow .near).close).run _) = _
  rw [hreceives, ← hyields]
  rfl

end Duplex

/-! ## The result -/

namespace Frame

/-- What becomes of a list of bodies that a sender with the limit `w` puts into a pipe with room for
everything, which is then shut, and that a receiver with the limit `r` takes out. -/
structure KeepsBoundaries (w r : Nat) (bodies : List Bytes) : Prop where
  /-- Sending a body succeeds or fails whatever was sent before it, and shutting the pipe
  succeeds. -/
  sent : (sendAll (clampLimit w) none (.empty none) (bodies.map .body ++ [.close])).1
    = bodies.map (sentAs (clampLimit w)) ++ [.done]
  /-- It succeeds exactly if the body is within the limit and its length within four bytes. -/
  done_iff : ∀ body, sentAs (clampLimit w) body = .done ↔ body.length ≤ min w (2 ^ 32 - 1)
  /-- Any other body is refused for its length, and no pipe gets any byte of it. -/
  refused : ∀ body, ¬ body.length ≤ min w (2 ^ 32 - 1) → ∀ timeout pipe,
    send (clampLimit w) timeout pipe body
      = (.failed (.frame (.tooLarge body.length (min w (2 ^ 32 - 1)))), pipe)
  /-- In the pipe are the frames of the bodies that were taken, in order, and nothing else. -/
  written : (sendAll (clampLimit w) none (.empty none) (bodies.map .body ++ [.close])).2
    = ⟨none, stream (accepted (clampLimit w) bodies), true, false⟩
  /-- The four bytes in front of such a body tell its whole length. -/
  untruncated : ∀ body ∈ accepted (clampLimit w) bodies,
    Bytes.ofBigEndian ((encode body).take 4) = body.length
  /-- However the bytes arrive, the receiver gets just these bodies, up to the first one over its
  limit, which it refuses, or else up to the end. -/
  received : ∀ patience inflow, inflow.Ends →
    inflow.bytes
      = (sendAll (clampLimit w) none (.empty none) (bodies.map .body ++ [.close])).2.held →
    receiveAll ⟨clampLimit r, none⟩ patience inflow
      = seen (clampLimit r) (accepted (clampLimit w) bodies)
  /-- The same holds of the two ends of a connection, whose limits are set to `w` and `r`. -/
  exchanged : ∀ attempts ≤ (seen (clampLimit r) (accepted (clampLimit w) bodies)).length,
    (Duplex.connect .default .default).run (Duplex.exchange w r bodies attempts)
      = .done :: .done ::
        (bodies.map (fun body => Endpoint.Answer.ofSent (sentAs (clampLimit w) body)) ++
          .done :: ((seen (clampLimit r) (accepted (clampLimit w) bodies)).take attempts).map
            Endpoint.Answer.ofReceived)
  /-- And no history of a connection gives an end a limit that four bytes cannot tell. -/
  clamped : ∀ actions, ((Duplex.connect .default .default).after actions).IsClamped

theorem sentAs_eq_done_iff {limit : Nat} {body : Bytes} :
    sentAs limit body = .done ↔ body.length ≤ limit := by
  unfold sentAs
  split
  · next h => exact iff_of_true rfl h
  · next h => exact iff_of_false (fun heq => by cases heq) h

/-- **Frames keep their boundaries**, whatever the limits and the bodies. -/
theorem keepsBoundaries (w r : Nat) (bodies : List Bytes) : KeepsBoundaries w r bodies := by
  have hsend := sendAll_close Pipe.isWide_empty (clampLimit w) bodies
  have hlongest (body : Bytes) (hbody : body ∈ accepted (clampLimit w) bodies) :
      body.length ≤ longest :=
    Nat.le_trans (length_le_of_mem_accepted hbody) (clampLimit_le w)
  have hyields := yields_stream (clampLimit_le r) hlongest
  have hheld : (sendAll (clampLimit w) none (.empty none) (bodies.map .body ++ [.close])).2.held
      = stream (accepted (clampLimit w) bodies) := by
    rw [hsend]
    exact List.nil_append _
  exact {
    sent := by rw [hsend]
    done_iff := fun body => sentAs_eq_done_iff
    refused := by
      intro body hbody timeout pipe
      exact send_of_limit_lt (Nat.lt_of_not_le hbody) timeout pipe
    written := by rw [hsend]; rfl
    untruncated := by
      intro body hbody
      rw [encode, List.take_left' (Bytes.bigEndian_length _ _)]
      exact ofBigEndian_length (hlongest body hbody)
    received := by
      intro patience inflow hends hbytes
      rw [receiveAll_eq_yields _ patience hends, hbytes, hheld, hyields]
    exchanged := fun attempts hattempts => Duplex.run_exchange hyields hattempts
    clamped := Duplex.isClamped_after }

end Frame

end RemoteCall
