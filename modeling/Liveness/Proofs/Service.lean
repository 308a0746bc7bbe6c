import Liveness.Http.Wire.Head
import Liveness.Proofs.Log.Nesting
import Liveness.Service

/-! # What the service answers

Whatever stands between a client and the router, every response is the reply of the router with the
length of its body and one identifier.

* `idOf`: the identifier that a request has, or is given.
* `stamped`: the reply to a method and a URI, with its length and an identifier.
* `handle_response`, `handle_drawn`, `handle_recorder`: what a request is answered, how many
  identifiers it draws, and that the spans open behind it are those open before it.
* `getElem?_answers`, `getElem?_handleAll`: what each of a list of requests is answered.
* `handleAll_transparent`: these answers are the router's, and apart from the identifier they depend
  on the method and the URI alone.
-/

namespace Liveness
set_option autoImplicit false

open Http (Headers HeaderName HeaderValue Method Request Response Uri)

/-! ## Values of visible characters -/

theorem toNat_lt_of_isVisible {c : Char} (h : HeaderValue.isVisible c = true) : c.toNat < 256 := by
  simp only [HeaderValue.isVisible, Bool.and_eq_true, decide_eq_true_eq] at h
  omega

/-- A value that was made of visible characters holds just these. -/
theorem chars_ofVisible (text : List Char) (h : text.all HeaderValue.isVisible = true) :
    Http.Wire.chars (HeaderValue.ofVisible text h).bytes = text := by
  have back : ∀ c ∈ text, Char.ofNat (UInt8.ofNat c.toNat).toNat = c := by
    intro c hc
    have small := toNat_lt_of_isVisible (List.all_eq_true.1 h c hc)
    rw [UInt8.toNat_ofNat', Nat.mod_eq_of_lt small, Char.ofNat_toNat]
  show (text.map fun c => UInt8.ofNat c.toNat).map (fun b => Char.ofNat b.toNat) = text
  rw [List.map_map]
  conv => rhs; rw [← List.map_id text]
  apply List.map_congr_left
  intro c hc
  exact back c hc

theorem text_lengthValue (n : Nat) : Http.Wire.text (lengthValue n).bytes = toString n := by
  rw [Http.Wire.text, lengthValue, chars_ofVisible]
  rfl

/-! ## One request -/

/-- Whether a request comes without an identifier. -/
def lacksId (q : Request) : Bool := (q.headers.first? Headers.requestId).isNone

/-- The identifier of a request that comes after a number of identifiers have been drawn. -/
def idOf (supply : Supply) (drawn : Nat) (q : Request) : HeaderValue :=
  (q.headers.first? Headers.requestId).getD (supply drawn).headerValue

/-- The reply to a method and a URI, with the length of its body and an identifier. -/
def stamped (method : Method) (uri : Uri) (id : HeaderValue) : Response :=
  let reply := dispatch method uri
  { status := reply.status
    headers :=
      [(Headers.contentLength, lengthValue reply.body.utf8ByteSize), (Headers.requestId, id)]
    body := reply.body }

theorem first?_append_of_none {name : HeaderName} {headers : Headers}
    (h : headers.first? name = none) (v : HeaderValue) :
    Headers.first? name (headers ++ [(name, v)]) = some v := by
  have missing : headers.find? (·.1 = name) = none := by
    simpa [Headers.first?] using h
  simp [Headers.first?, List.find?_append, missing]

section
variable (supply : Supply) (n : Nat) (q : Request)

theorem identify_method : (identify supply n q).1.method = q.method := by
  unfold identify
  split <;> rfl

theorem identify_uri : (identify supply n q).1.uri = q.uri := by
  unfold identify
  split <;> rfl

theorem first?_identify :
    (identify supply n q).1.headers.first? Headers.requestId = some (idOf supply n q) := by
  unfold identify idOf
  cases h : q.headers.first? Headers.requestId with
  | some v => simpa using h
  | none => simpa using first?_append_of_none h (supply n).headerValue

theorem respond_identify :
    respond (identify supply n q).1 = stamped q.method q.uri (idOf supply n q) := by
  rw [respond, first?_identify, identify_method, identify_uri]
  rfl

theorem drawn_identify : (identify supply n q).2 = n + [q].countP lacksId := by
  unfold identify
  cases h : q.headers.first? Headers.requestId with
  | some v => simp [lacksId, h]
  | none => simp [lacksId, h]

end

theorem handle_response (supply : Supply) (s : Service) (q : Request) :
    (s.handle supply q).2.1 = stamped q.method q.uri (idOf supply s.drawn q) :=
  respond_identify supply s.drawn q

theorem handle_drawn (supply : Supply) (s : Service) (q : Request) :
    (s.handle supply q).1.drawn = s.drawn + [q].countP lacksId := by
  show (identify supply s.drawn q).2 = _
  exact drawn_identify supply s.drawn q

theorem trace_recorder (recorder : Log.Recorder) (q : Request) :
    (trace recorder q).1 = recorder :=
  congrArg Prod.fst (recorder.step_exit_of_enter .debug _ "request" (spanFields q))

theorem handle_recorder (supply : Supply) (s : Service) (q : Request) :
    (s.handle supply q).1.recorder = s.recorder := trace_recorder s.recorder _

/-! ## Requests one after the other -/

theorem handleAll_cons (supply : Supply) (s : Service) (q : Request) (requests : List Request) :
    s.handleAll supply (q :: requests) =
      (s.handle supply q).2 :: (s.handle supply q).1.handleAll supply requests := rfl

theorem length_handleAll (supply : Supply) (s : Service) (requests : List Request) :
    (s.handleAll supply requests).length = requests.length := by
  induction requests generalizing s with
  | nil => rfl
  | cons q requests ih => rw [handleAll_cons, List.length_cons, List.length_cons, ih]

/-- Each request is answered and recorded as if it came alone, behind identifiers drawn for those
before it that came without one. -/
theorem getElem?_answers (supply : Supply) (s : Service) (requests : List Request) (i : Nat) :
    (s.handleAll supply requests)[i]? = requests[i]?.map fun q =>
      (Service.handle supply
        { s with drawn := s.drawn + (requests.take i).countP lacksId } q).2 := by
  induction requests generalizing s i with
  | nil => rfl
  | cons q requests ih =>
    rw [handleAll_cons]
    cases i with
    | zero => rfl
    | succ i =>
      -- Answering the first request moves the service on by what it draws.
      have rest := ih (s.handle supply q).1 i
      have moved : s.drawn + [q].countP lacksId + (requests.take i).countP lacksId =
          s.drawn + ((q :: requests).take (i + 1)).countP lacksId := by
        rw [List.take_succ_cons, List.countP_cons, List.countP_cons, List.countP_nil]
        omega
      rw [handle_drawn, handle_recorder, moved] at rest
      rw [List.getElem?_cons_succ, List.getElem?_cons_succ]
      exact rest

theorem getElem?_handleAll (supply : Supply) (s : Service) (requests : List Request) (i : Nat) :
    ((s.handleAll supply requests).map Prod.fst)[i]? =
      requests[i]?.map fun q =>
        stamped q.method q.uri (idOf supply (s.drawn + (requests.take i).countP lacksId) q) := by
  rw [List.getElem?_map, getElem?_answers, Option.map_map]
  refine congrArg (fun answer => Option.map answer requests[i]?) (funext fun q => ?_)
  exact handle_response supply _ q

/-! ## Counting -/

section
variable {α : Type} {p : α → Bool} {l : List α} {i j : Nat} {a b : α}

theorem countP_take_lt (h : l[i]? = some a) (hp : p a = true) :
    (l.take i).countP p < l.countP p := by
  obtain ⟨hi, rfl⟩ := List.getElem?_eq_some_iff.1 h
  have parts : l.take i ++ l[i] :: l.drop (i + 1) = l := by
    rw [← List.drop_eq_getElem_cons hi, List.take_append_drop]
  have count := congrArg (List.countP p) parts
  rw [List.countP_append, List.countP_cons_of_pos hp] at count
  omega

theorem countP_take_lt_take (h : l[i]? = some a) (hp : p a = true) (less : i < j) :
    (l.take i).countP p < (l.take j).countP p := by
  have front : (l.take j)[i]? = some a := by
    rw [List.getElem?_take_of_lt less, h]
  have := countP_take_lt front hp
  rwa [List.take_take, Nat.min_eq_left (Nat.le_of_lt less)] at this

/-- Elements that are counted have different counts in front of them. -/
theorem countP_take_ne (ne : i ≠ j) (ha : l[i]? = some a) (hb : l[j]? = some b)
    (pa : p a = true) (pb : p b = true) : (l.take i).countP p ≠ (l.take j).countP p := by
  obtain less | less := Nat.lt_or_gt_of_ne ne
  · exact Nat.ne_of_lt (countP_take_lt_take ha pa less)
  · exact Nat.ne_of_gt (countP_take_lt_take hb pb less)

end

/-! ## The service and the router -/

/-- A response without its identifier. -/
def anonymous (r : Response) : Response :=
  { r with headers := r.headers.filter (·.1 ≠ Headers.requestId) }

theorem anonymous_stamped (method : Method) (uri : Uri) (id id' : HeaderValue) :
    anonymous (stamped method uri id) = anonymous (stamped method uri id') := by
  have other : Headers.contentLength ≠ Headers.requestId := by decide
  simp [anonymous, stamped, other]

/-- Every request is answered with the status and the body that the router gives for its method and
its URI, with the length of that body and with one identifier. Two requests with the same method and
URI are answered alike but for the identifier, whatever else they hold, wherever they stand among
whatever other requests, and whatever is recorded. -/
theorem handleAll_transparent (supply supply' : Supply) (s s' : Service)
    (requests requests' : List Request) :
    let responses := (s.handleAll supply requests).map Prod.fst
    let responses' := (s'.handleAll supply' requests').map Prod.fst
    responses.length = requests.length ∧
      (∀ (i : Nat) (q : Request), requests[i]? = some q → ∃ r length id, responses[i]? = some r ∧
        r.status = (dispatch q.method q.uri).status ∧ r.body = (dispatch q.method q.uri).body ∧
        r.headers = [(Headers.contentLength, length), (Headers.requestId, id)] ∧
        Http.Wire.text length.bytes = toString r.body.utf8ByteSize) ∧
      ∀ (i j : Nat) (q q' : Request) (r r' : Response),
        requests[i]? = some q → requests'[j]? = some q' →
        responses[i]? = some r → responses'[j]? = some r' →
        q.method = q'.method → q.uri = q'.uri → anonymous r = anonymous r' := by
  intro responses responses'
  refine ⟨?_, ?_, ?_⟩
  · rw [List.length_map, length_handleAll]
  · intro i q hq
    have answer := getElem?_handleAll supply s requests i
    rw [hq, Option.map_some] at answer
    exact ⟨_, _, _, answer, rfl, rfl, rfl, text_lengthValue _⟩
  · intro i j q q' r r' hq hq' hr hr' method uri
    have answer := getElem?_handleAll supply s requests i
    have answer' := getElem?_handleAll supply' s' requests' j
    rw [hq, Option.map_some] at answer
    rw [hq', Option.map_some] at answer'
    have same : r = stamped q.method q.uri _ := Option.some.inj (hr.symm.trans answer)
    have same' : r' = stamped q'.method q'.uri _ := Option.some.inj (hr'.symm.trans answer')
    rw [same, same', method, uri]
    exact anonymous_stamped _ _ _ _

/-- A request for the health check that comes with an identifier. -/
def taggedRequest : Request where
  method := .connect
  uri := .origin ⟨"/healthz".toList, none⟩
  headers := [(Headers.requestId, .ofVisible ['7'] (by decide))]

theorem handleAll_transparent_tagged :
    let untagged := { taggedRequest with headers := [] }
    let responses := (Service.handleAll Uuid.ofBits { recorder := .make "first" "off" none }
      [untagged, taggedRequest]).map Prod.fst
    let responses' := (Service.handleAll Uuid.ofBits
      { recorder := .make "second" "trace" (some "info"), drawn := 3 } [untagged]).map Prod.fst
    ∃ r r', responses[1]? = some r ∧ responses'[0]? = some r' ∧
      r.status = .ok ∧ r.body = "ok" ∧ anonymous r = anonymous r' := by
  intro untagged responses responses'
  obtain ⟨-, answers, alike⟩ := handleAll_transparent Uuid.ofBits Uuid.ofBits
    { recorder := .make "first" "off" none }
    { recorder := .make "second" "trace" (some "info"), drawn := 3 }
    [untagged, taggedRequest] [untagged]
  obtain ⟨-, answers', -⟩ := handleAll_transparent Uuid.ofBits Uuid.ofBits
    { recorder := .make "second" "trace" (some "info"), drawn := 3 }
    { recorder := .make "first" "off" none } [untagged] [untagged, taggedRequest]
  obtain ⟨r, _, _, answer, status, body, -⟩ := answers 1 taggedRequest rfl
  obtain ⟨r', _, _, answer', -⟩ := answers' 0 untagged rfl
  have found : dispatch taggedRequest.method taggedRequest.uri = .healthy := by decide
  rw [found] at status body
  exact ⟨r, r', answer, answer', status, body,
    alike 1 0 taggedRequest untagged r r' rfl rfl answer answer' rfl rfl⟩

end Liveness
