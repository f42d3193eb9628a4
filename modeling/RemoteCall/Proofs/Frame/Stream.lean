import RemoteCall.Bytes.Range
import RemoteCall.Frame.Basic

/-!
# Streams of frames

Whoever writes a list of bodies writes `stream bodies`.  A reader sees a beginning of that stream,
however far it has arrived, and has to find in it the first body and nothing else: either the first
frame is not there as a whole, and `scan` says so, or `scan` takes off exactly that frame
(`scan_beginning`).  So a stream falls apart in one way only, into the bodies that were written
(`bodies_stream`).  There all bodies are within the reader's limit, and the limit is one that four
bytes can tell.

Of other bytes `Scans` says what `scan` finds in them, by the length that their first four tell.
-/

namespace RemoteCall.Frame

/-- What goes over a connection for these bodies, first one first. -/
def stream (bodies : List Bytes) : Bytes :=
  bodies.flatMap encode

@[simp] theorem stream_nil : stream [] = [] := rfl

@[simp] theorem stream_cons (body : Bytes) (bodies : List Bytes) :
    stream (body :: bodies) = encode body ++ stream bodies := List.flatMap_cons

theorem stream_append (front back : List Bytes) :
    stream (front ++ back) = stream front ++ stream back := List.flatMap_append

theorem length_encode (body : Bytes) : (encode body).length = 4 + body.length := by
  rw [encode, List.length_append, Bytes.bigEndian_length]

theorem encode_ne_nil (body : Bytes) : encode body ≠ [] := by
  intro h
  have hlen := congrArg List.length h
  rw [length_encode, List.length_nil] at hlen
  omega

/-- The four bytes in front of a body tell its length. -/
theorem ofBigEndian_length {body : Bytes} (h : body.length ≤ longest) :
    Bytes.ofBigEndian (Bytes.bigEndian 4 body.length) = body.length := by
  have hlongest : longest < 256 ^ 4 := by decide
  rw [Bytes.ofBigEndian_bigEndian, Nat.mod_eq_of_lt (by omega)]

/-- A frame that is wholly there is taken off. -/
theorem scan_encode_append {limit : Nat} {body : Bytes} (h : body.length ≤ limit)
    (hlimit : limit ≤ longest) (rest : Bytes) :
    scan limit (encode body ++ rest) = .frame body rest := by
  have hfront : Bytes.splitFront 4 (encode body ++ rest)
      = some (Bytes.bigEndian 4 body.length, body ++ rest) :=
    Bytes.splitFront_eq_some_iff.mpr
      ⟨by rw [encode, List.append_assoc], Bytes.bigEndian_length _ _⟩
  have hbody : Bytes.splitFront body.length (body ++ rest) = some (body, rest) :=
    Bytes.splitFront_eq_some_iff.mpr ⟨rfl, rfl⟩
  have hlength := ofBigEndian_length (Nat.le_trans h hlimit)
  simp only [scan, hfront, hlength, hbody]
  exact if_neg (by omega)

/-- The length has arrived, and the body has not. -/
theorem scan_of_missing {limit : Nat} {body got behind : Bytes}
    (hgot : got = Bytes.bigEndian 4 body.length ++ behind) (h : body.length ≤ limit)
    (hlimit : limit ≤ longest) (hbehind : behind.length < body.length) : scan limit got = .short := by
  have hfront : Bytes.splitFront 4 got = some (Bytes.bigEndian 4 body.length, behind) :=
    Bytes.splitFront_eq_some_iff.mpr ⟨hgot, Bytes.bigEndian_length _ _⟩
  have hlength := ofBigEndian_length (Nat.le_trans h hlimit)
  simp only [scan, hfront, hlength, Bytes.splitFront_eq_none_iff.mpr hbehind]
  exact if_neg (by omega)

/-- A frame of which something is missing is left alone. -/
theorem scan_short {limit : Nat} {body got missing : Bytes} (h : body.length ≤ limit)
    (hlimit : limit ≤ longest) (hgot : encode body = got ++ missing) (hne : missing ≠ []) :
    scan limit got = .short := by
  have hmissing := List.length_pos_iff.mpr hne
  have hlen := congrArg List.length hgot
  rw [length_encode, List.length_append] at hlen
  by_cases hfour : got.length < 4
  · rw [scan, Bytes.splitFront_eq_none_iff.mpr hfour]
  · -- the length is there, so what is missing belongs to the body
    rw [encode] at hgot
    rcases List.append_eq_append_iff.mp hgot with ⟨behind, hgot', hbody⟩ | ⟨tail, hfront, htail⟩
    · have hbehind := congrArg List.length hbody
      rw [List.length_append] at hbehind
      exact scan_of_missing hgot' h hlimit (by omega)
    · -- or just the length is there
      have hlen' := congrArg List.length hfront
      rw [Bytes.bigEndian_length, List.length_append] at hlen'
      have htail' : tail = [] := List.eq_nil_of_length_eq_zero (by omega)
      rw [htail', List.append_nil] at hfront
      refine scan_of_missing (by rw [List.append_nil, hfront]) h hlimit ?_
      rw [htail', List.nil_append] at htail
      rw [← htail]
      exact hmissing

/-- **The beginning of a stream**, as far as it has arrived, holds its first frame or is too short
for it. -/
theorem scan_beginning {limit : Nat} {body got more rest : Bytes} (h : body.length ≤ limit)
    (hlimit : limit ≤ longest) (hstream : got ++ more = encode body ++ rest) :
    (scan limit got = .short ∧ more ≠ []) ∨
      ∃ behind, scan limit got = .frame body behind ∧ behind ++ more = rest := by
  rcases List.append_eq_append_iff.mp hstream with ⟨missing, hmissing, hmore⟩ | ⟨behind, hgot, hrest⟩
  · by_cases hne : missing = []
    · -- the frame has just arrived
      rw [hne, List.append_nil] at hmissing
      rw [hne, List.nil_append] at hmore
      refine Or.inr ⟨[], ?_, ?_⟩
      · have hscan := scan_encode_append h hlimit []
        rwa [hmissing, List.append_nil] at hscan
      · rw [List.nil_append, hmore]
    · refine Or.inl ⟨scan_short h hlimit hmissing hne, ?_⟩
      rw [hmore]
      simp [hne]
  · refine Or.inr ⟨behind, ?_, hrest.symm⟩
    rw [hgot]
    exact scan_encode_append h hlimit behind

/-! ## What is found -/

/-- The length that the first four bytes tell. -/
def declared (bytes : Bytes) : Nat :=
  Bytes.ofBigEndian (bytes.take 4)

theorem declared_le_longest (bytes : Bytes) : declared bytes ≤ longest := by
  have hlt := Bytes.ofBigEndian_lt (bytes.take 4)
  have hfour : (bytes.take 4).length ≤ 4 := List.length_take_le 4 bytes
  have hpow : 256 ^ (bytes.take 4).length ≤ 256 ^ 4 := Nat.pow_le_pow_right (by decide) hfour
  have hlongest : longest = 256 ^ 4 - 1 := by decide
  rw [declared]
  omega

theorem declared_encode_append {body : Bytes} (h : body.length ≤ longest) (rest : Bytes) :
    declared (encode body ++ rest) = body.length := by
  rw [declared, encode, List.append_assoc, List.take_left' (Bytes.bigEndian_length _ _)]
  exact ofBigEndian_length h

/-- The ways in which looking for a frame ends. -/
inductive Scans (limit : Nat) (bytes : Bytes) : Scan → Prop
  | frame {body rest : Bytes} : bytes = encode body ++ rest → declared bytes = body.length →
      body.length ≤ limit → Scans limit bytes (.frame body rest)
  | tooLarge {behind : Bytes} : 4 ≤ bytes.length → limit < declared bytes →
      Scans limit bytes (.tooLarge (declared bytes) behind)
  | short : bytes.length < 4 ∨ declared bytes ≤ limit ∧ bytes.length < 4 + declared bytes →
      Scans limit bytes .short

theorem scans (limit : Nat) (bytes : Bytes) : Scans limit bytes (scan limit bytes) := by
  unfold scan
  split
  · next hfront => exact .short (Or.inl (Bytes.splitFront_eq_none_iff.mp hfront))
  · next front behind hfront =>
    obtain ⟨rfl, hfour⟩ := Bytes.splitFront_eq_some_iff.mp hfront
    have hdeclared : declared (front ++ behind) = Bytes.ofBigEndian front := by
      rw [declared, List.take_left' hfour]
    simp only
    split
    · next hlimit =>
      rw [← hdeclared] at hlimit ⊢
      refine .tooLarge ?_ hlimit
      rw [List.length_append]
      omega
    · next hlimit =>
      split
      · next hbody =>
        have hshort := Bytes.splitFront_eq_none_iff.mp hbody
        refine .short (Or.inr ⟨?_, ?_⟩)
        · rw [hdeclared]
          omega
        · rw [hdeclared, List.length_append]
          omega
      · next body rest hbody =>
        obtain ⟨rfl, hlength⟩ := Bytes.splitFront_eq_some_iff.mp hbody
        refine .frame ?_ (by rw [hdeclared, hlength]) (by omega)
        -- the four bytes are those that stand in front of a body of this length
        have hback := Bytes.bigEndian_ofBigEndian front
        rw [hfour, ← hlength] at hback
        rw [encode, hback, List.append_assoc]

/-- What is found at the front of a stream is its first body, also if the reader's limit is not the
writer's. -/
theorem eq_of_scan {limit : Nat} {body found got more behind rest : Bytes}
    (h : body.length ≤ longest) (hstream : got ++ more = encode body ++ rest)
    (hscan : scan limit got = .frame found behind) : found = body ∧ behind ++ more = rest := by
  have hfront := scans limit got
  rw [hscan] at hfront
  cases hfront with
  | frame hgot hdeclared _ =>
    have hfound : found.length ≤ longest := hdeclared ▸ declared_le_longest got
    rw [hgot, List.append_assoc] at hstream
    -- both lengths are told by the same four bytes
    have hlength : found.length = body.length := by
      have hsame := congrArg declared hstream
      rwa [declared_encode_append hfound, declared_encode_append h] at hsame
    rw [encode, encode, hlength, List.append_assoc, List.append_assoc] at hstream
    exact List.append_inj (List.append_cancel_left hstream) hlength

/-! ## Streams of certain bodies -/

/-- The bytes are the stream of some bodies, all of which are as `p` says. -/
def IsStream (p : Bytes → Prop) (bytes : Bytes) : Prop :=
  ∃ bodies, bytes = stream bodies ∧ ∀ body ∈ bodies, body.length ≤ longest ∧ p body

theorem IsStream.nil {p : Bytes → Prop} : IsStream p [] :=
  ⟨[], rfl, fun _ hbody => by cases hbody⟩

theorem IsStream.single {p : Bytes → Prop} {body : Bytes} (hlength : body.length ≤ longest)
    (hbody : p body) : IsStream p (encode body) := by
  refine ⟨[body], (List.append_nil _).symm, ?_⟩
  intro b hb
  cases List.mem_singleton.mp hb
  exact ⟨hlength, hbody⟩

theorem IsStream.append {p : Bytes → Prop} {front back : Bytes} (hfront : IsStream p front)
    (hback : IsStream p back) : IsStream p (front ++ back) := by
  obtain ⟨ahead, rfl, hahead⟩ := hfront
  obtain ⟨behind, rfl, hbehind⟩ := hback
  refine ⟨ahead ++ behind, (stream_append ahead behind).symm, ?_⟩
  intro body hbody
  rcases List.mem_append.mp hbody with hbody | hbody
  · exact hahead body hbody
  · exact hbehind body hbody

theorem IsStream.mono {p q : Bytes → Prop} {bytes : Bytes} (h : IsStream p bytes)
    (hpq : ∀ body, p body → q body) : IsStream q bytes := by
  obtain ⟨bodies, rfl, hbodies⟩ := h
  exact ⟨bodies, rfl, fun body hbody => (hbodies body hbody).imp_right (hpq body)⟩

/-- **Whoever finds a frame in a stream finds a body that was written**, and leaves a stream. -/
theorem IsStream.of_scan {p : Bytes → Prop} {limit : Nat} {got more found behind : Bytes}
    (h : IsStream p (got ++ more)) (hscan : scan limit got = .frame found behind) :
    found.length ≤ longest ∧ p found ∧ IsStream p (behind ++ more) := by
  obtain ⟨bodies, hstream, hbodies⟩ := h
  cases bodies with
  | nil =>
    rw [(List.append_eq_nil_iff.mp hstream).1] at hscan
    cases hscan
  | cons body bodies =>
    obtain ⟨hlength, hbody⟩ := hbodies body List.mem_cons_self
    rw [stream_cons] at hstream
    obtain ⟨rfl, hrest⟩ := eq_of_scan hlength hstream hscan
    exact ⟨hlength, hbody, bodies, hrest, fun b hb => hbodies b (List.mem_cons_of_mem _ hb)⟩

/-! ## A stream as a whole -/

/-- Behind a frame that was found there is less than before it. -/
theorem length_lt_of_scan {limit : Nat} {got body rest : Bytes}
    (h : scan limit got = .frame body rest) : rest.length < got.length := by
  have hfront := scans limit got
  rw [h] at hfront
  cases hfront with
  | frame hgot _ _ =>
    rw [hgot, List.length_append, length_encode]
    omega

/-- The bodies of the frames that stand at the front of a stream. -/
def bodies (bytes : Bytes) : List Bytes :=
  match _h : scan longest bytes with
  | .frame body rest => body :: bodies rest
  | _ => []
termination_by bytes.length
decreasing_by exact length_lt_of_scan (by assumption)

theorem bodies_nil : bodies [] = [] := by
  rw [bodies]
  rfl

/-- **A stream falls apart into the bodies that were written.** -/
theorem bodies_stream {written : List Bytes} (h : ∀ body ∈ written, body.length ≤ longest) :
    bodies (stream written) = written := by
  induction written with
  | nil => exact bodies_nil
  | cons body written ih =>
    have hscan := scan_encode_append (h body List.mem_cons_self) (Nat.le_refl _) (stream written)
    rw [stream_cons, bodies]
    split
    · next body' rest hfound =>
      rw [hscan] at hfound
      cases hfound
      rw [ih fun b hb => h b (List.mem_cons_of_mem body hb)]
    · next hother => exact absurd hscan (hother _ _)

/-! ## A stream that breaks off -/

/-- Whole frames one after the other, and then at most the front of one more. -/
inductive IsCutShort : List Bytes → Bytes → Prop
  | whole (frames : List Bytes) : IsCutShort frames frames.flatten
  | cut (frames : List Bytes) (part rest : Bytes) : rest ≠ [] →
      IsCutShort (frames ++ [part ++ rest]) (frames.flatten ++ part)

theorem IsCutShort.cons {frames : List Bytes} {bytes : Bytes} (frame : Bytes)
    (h : IsCutShort frames bytes) : IsCutShort (frame :: frames) (frame ++ bytes) := by
  cases h with
  | whole => exact .whole (frame :: frames)
  | cut front part rest hne =>
    rw [← List.append_assoc, ← List.cons_append, ← List.flatten_cons]
    exact .cut (frame :: front) part rest hne

/-- What broke off is the beginning of the stream of its frames. -/
theorem IsCutShort.isPrefix {frames : List Bytes} {bytes : Bytes} (h : IsCutShort frames bytes) :
    bytes <+: frames.flatten := by
  cases h with
  | whole => exact List.prefix_rfl
  | cut whole part rest _ =>
    refine ⟨rest, ?_⟩
    rw [List.flatten_append, List.flatten_singleton, List.append_assoc]

end RemoteCall.Frame
