import Liveness.Proofs.Service

/-! # The identifiers of requests

* `headerValue_injective`: identifiers are told apart by their text.
* `Written`: a request with its header fields as they are written, and the identifiers among them.
* `handleAll_requestId`: which identifier each of a list of requests is answered with.
-/

namespace Liveness
set_option autoImplicit false

open Http (Headers HeaderName HeaderValue Request Response)

/-! ## Digits -/

namespace Text

theorem digitChar_injective {a b : Nat} (ha : a < 16) (hb : b < 16)
    (h : Nat.digitChar a = Nat.digitChar b) : a = b := by
  have all : ∀ a < 16, ∀ b < 16, Nat.digitChar a = Nat.digitChar b → a = b := by decide
  exact all a ha b hb h

/-- Numbers with the same last digits agree up to multiples of a power of sixteen. -/
theorem mod_eq_of_hexadecimal {width a b : Nat} (h : hexadecimal width a = hexadecimal width b) :
    a % Nat.pow 16 width = b % Nat.pow 16 width := by
  induction width generalizing a b with
  | zero => simp [Nat.mod_one]
  | succ width ih =>
    obtain ⟨front, last⟩ := List.append_inj' h rfl
    have quotient := ih front
    have digit : a % 16 = b % 16 := by
      apply digitChar_injective (Nat.mod_lt _ (by decide)) (Nat.mod_lt _ (by decide))
      exact (List.cons.inj last).1
    have split (n : Nat) :
        n % Nat.pow 16 (width + 1) = n % 16 + 16 * (n / 16 % Nat.pow 16 width) := by
      have power : Nat.pow 16 (width + 1) = 16 * Nat.pow 16 width := Nat.mul_comm _ _
      rw [power, Nat.mod_mul]
    rw [split, split, quotient, digit]

end Text

/-! ## Texts of identifiers -/

namespace Uuid

theorem text_injective {u v : Uuid} (h : u.text = v.text) : u = v := by
  -- The groups have fixed lengths, so equal texts have equal groups.
  obtain ⟨h, last⟩ := List.append_inj' h (by simp [Text.length_hexadecimal])
  obtain ⟨h, fourth⟩ := List.append_inj' h (by simp [Text.length_hexadecimal])
  obtain ⟨h, third⟩ := List.append_inj' h (by simp [Text.length_hexadecimal])
  obtain ⟨first, second⟩ := List.append_inj' h (by simp [Text.length_hexadecimal])
  have first := Text.mod_eq_of_hexadecimal first
  have second := Text.mod_eq_of_hexadecimal (List.cons.inj second).2
  have third := Text.mod_eq_of_hexadecimal (List.cons.inj (List.cons.inj third).2).2
  have fourth := Text.mod_eq_of_hexadecimal (List.cons.inj fourth).2
  have last := Text.mod_eq_of_hexadecimal (List.cons.inj last).2
  have p3 : Nat.pow 16 3 = 0x1000 := rfl
  have p4 : Nat.pow 16 4 = 0x10000 := rfl
  have p8 : Nat.pow 16 8 = 0x100000000 := rfl
  have p12 : Nat.pow 16 12 = 0x1000000000000 := rfl
  rw [p8] at first
  rw [p4] at second fourth
  rw [p3] at third
  rw [p12] at last
  have high : u.high = v.high := by
    apply BitVec.eq_of_toNat_eq
    have hu := u.high.isLt
    have hv := v.high.isLt
    omega
  have middle : u.middle = v.middle := by
    apply BitVec.eq_of_toNat_eq
    have hu := u.middle.isLt
    have hv := v.middle.isLt
    omega
  have low : u.low = v.low := by
    apply BitVec.eq_of_toNat_eq
    have hu := u.low.isLt
    have hv := v.low.isLt
    rw [variant] at fourth
    omega
  cases u
  cases v
  simp only at high middle low
  rw [high, middle, low]

theorem headerValue_injective {u v : Uuid} (h : u.headerValue = v.headerValue) : u = v := by
  apply text_injective
  have same := congrArg (fun value => Http.Wire.chars value.bytes) h
  simpa only [headerValue, chars_ofVisible] using same

end Uuid

/-! ## Fields as they are written -/

/-- The header field that is written with its name in any case. -/
def named? (field : String × HeaderValue) : Option (HeaderName × HeaderValue) :=
  (HeaderName.ofString? field.1).map (·, field.2)

/-- A request with its header fields as they are written. -/
structure Written where
  request : Request
  fields : List (String × HeaderValue)
  mapM_fields : fields.mapM named? = some request.headers

/-- The values of the fields whose name is that of an identifier in any case, in order. -/
def sentIds (fields : List (String × HeaderValue)) : List HeaderValue :=
  fields.filterMap fun f =>
    if f.1.toList.map Char.toLower = "x-request-id".toList then some f.2 else none

theorem first?_eq_head?_values (name : HeaderName) (headers : Headers) :
    headers.first? name = (headers.values name).head? := by
  induction headers with
  | nil => rfl
  | cons field headers ih =>
    unfold Headers.first? Headers.values at *
    by_cases h : field.1 = name
    · simp [h]
    · simpa [h] using ih

theorem eq_requestId_iff {text : String} {name : HeaderName}
    (h : HeaderName.ofString? text = some name) :
    name = Headers.requestId ↔ text.toList.map Char.toLower = "x-request-id".toList := by
  unfold HeaderName.ofString? at h
  simp only [Option.dite_none_right_eq_some, Option.some.injEq] at h
  obtain ⟨valid, rfl⟩ := h
  rw [Headers.requestId, HeaderName.mk.injEq, ← String.toList_inj, String.toList_ofList]

theorem values_of_mapM {fields : List (String × HeaderValue)} {headers : Headers}
    (h : fields.mapM named? = some headers) :
    headers.values Headers.requestId = sentIds fields := by
  induction fields generalizing headers with
  | nil =>
    obtain rfl : [] = headers := by simpa using h
    rfl
  | cons f fields ih =>
    simp only [List.mapM_cons, named?, bind, Option.bind_eq_some_iff, Option.map_eq_some_iff, pure,
      Option.some.injEq] at h
    obtain ⟨field, ⟨name, parsed, rfl⟩, rest, parsedRest, rfl⟩ := h
    have same := ih parsedRest
    unfold Headers.values sentIds at *
    rw [List.filterMap_cons, List.filterMap_cons, same]
    simp only [eq_requestId_iff parsed]

section
variable (w : Written)

theorem first?_written :
    w.request.headers.first? Headers.requestId = (sentIds w.fields).head? := by
  rw [first?_eq_head?_values, values_of_mapM w.mapM_fields]

theorem lacksId_written : lacksId w.request = (sentIds w.fields).isEmpty := by
  rw [lacksId, first?_written]
  cases sentIds w.fields <;> rfl

theorem idOf_written (supply : Supply) (n : Nat) :
    idOf supply n w.request = (sentIds w.fields).headD (supply n).headerValue := by
  rw [idOf, first?_written]
  cases sentIds w.fields <;> rfl

end

/-! ## Which identifier a request is answered with -/

theorem values_stamped (method : Http.Method) (uri : Http.Uri) (id : HeaderValue) :
    (stamped method uri id).headers.values Headers.requestId = [id] := by
  have other : Headers.contentLength ≠ Headers.requestId := by decide
  simp [stamped, Headers.values, other]

/-- The requests that are written without an identifier. -/
def countUnnamed (requests : List Written) : Nat :=
  requests.countP fun w => (sentIds w.fields).isEmpty

theorem countP_lacksId (requests : List Written) :
    (requests.map Written.request).countP lacksId = countUnnamed requests := by
  rw [List.countP_map, countUnnamed]
  apply List.countP_congr
  intro w _
  rw [Function.comp_apply, lacksId_written]

theorem countUnnamed_take_lt {requests : List Written} {i : Nat} {w : Written}
    (hw : requests[i]? = some w) (none : sentIds w.fields = []) :
    countUnnamed (requests.take i) < countUnnamed requests :=
  countP_take_lt hw (List.isEmpty_iff.2 none)

theorem countUnnamed_take_ne {requests : List Written} {i j : Nat} {w w' : Written} (ne : i ≠ j)
    (hw : requests[i]? = some w) (hw' : requests[j]? = some w') (none : sentIds w.fields = [])
    (none' : sentIds w'.fields = []) :
    countUnnamed (requests.take i) ≠ countUnnamed (requests.take j) :=
  countP_take_ne ne hw hw' (List.isEmpty_iff.2 none) (List.isEmpty_iff.2 none')

theorem getElem?_written (supply : Supply) (recorder : Log.Recorder) {requests : List Written}
    {i : Nat} {w : Written} (hw : requests[i]? = some w) :
    ((Service.handleAll supply { recorder } (requests.map Written.request)).map Prod.fst)[i]? =
      some (stamped w.request.method w.request.uri
        ((sentIds w.fields).headD (supply (countUnnamed (requests.take i))).headerValue)) := by
  rw [getElem?_handleAll, List.getElem?_map, hw, ← List.map_take, countP_lacksId, Nat.zero_add]
  simp only [Option.map_some, idOf_written]

/-- Every response has one identifier. It is the first that the request was written with, whatever
the case of the field's name, and then none is drawn. Otherwise it is the next of the supply, and as
long as the supply does not repeat itself, no two of these are the same. -/
theorem handleAll_requestId (supply : Supply) (recorder : Log.Recorder) (requests : List Written)
    (distinct : ∀ m < countUnnamed requests, ∀ n < countUnnamed requests,
      supply m = supply n → m = n) :
    let responses :=
      (Service.handleAll supply { recorder } (requests.map Written.request)).map Prod.fst
    responses.length = requests.length ∧
      (∀ (i : Nat) (w : Written), requests[i]? = some w → ∃ r id, responses[i]? = some r ∧
        r.headers.values Headers.requestId = [id] ∧
        match sentIds w.fields with
        | sent :: _ => id = sent
        | [] => id = (supply (countUnnamed (requests.take i))).headerValue) ∧
      (∀ (s : Service) (w : Written), w ∈ requests → sentIds w.fields ≠ [] →
        (s.handle supply w.request).1.drawn = s.drawn) ∧
      ∀ (i j : Nat) (w w' : Written) (r r' : Response), i ≠ j →
        requests[i]? = some w → requests[j]? = some w' →
        sentIds w.fields = [] → sentIds w'.fields = [] →
        responses[i]? = some r → responses[j]? = some r' →
        r.headers.values Headers.requestId ≠ r'.headers.values Headers.requestId := by
  intro responses
  refine ⟨?_, ?_, ?_, ?_⟩
  · rw [List.length_map, length_handleAll, List.length_map]
  · intro i w hw
    refine ⟨_, _, getElem?_written supply recorder hw, values_stamped _ _ _, ?_⟩
    cases sentIds w.fields with
    | cons sent _ => rfl
    | nil => rfl
  · intro s w _ sent
    rw [handle_drawn, List.countP_singleton, lacksId_written, List.isEmpty_eq_false_iff.2 sent]
    rfl
  · intro i j w w' r r' ne hw hw' none none' hr hr' same
    have answer := hr.symm.trans (getElem?_written supply recorder hw)
    have answer' := hr'.symm.trans (getElem?_written supply recorder hw')
    rw [Option.some.inj answer, Option.some.inj answer', values_stamped, values_stamped, none,
      none'] at same
    have drawn := Uuid.headerValue_injective (List.cons.inj same).1
    exact countUnnamed_take_ne ne hw hw' none none'
      (distinct _ (countUnnamed_take_lt hw none) _ (countUnnamed_take_lt hw' none') drawn)

/-- A request with fields in different cases, one of them without a value. -/
def mixedCase : Written where
  request :=
    { method := ⟨"PURGE", by decide⟩
      uri := .asterisk
      headers := [(Headers.requestId, ⟨[], rfl⟩), (Headers.requestId, ⟨[98], rfl⟩)] }
  fields := [("X-Request-ID", ⟨[], rfl⟩), ("x-request-id", ⟨[98], rfl⟩)]
  mapM_fields := by decide +kernel

/-- A request without fields. -/
def bareRequest : Written where
  request := { method := .head, uri := .origin ⟨['/'], none⟩ }
  fields := []
  mapM_fields := rfl

theorem handleAll_requestId_mixed :
    let requests := [bareRequest, mixedCase, bareRequest]
    let responses := (Service.handleAll Uuid.ofBits { recorder := .make "test" "trace" none }
      (requests.map Written.request)).map Prod.fst
    (∀ m < countUnnamed requests, ∀ n < countUnnamed requests,
      Uuid.ofBits m = Uuid.ofBits n → m = n) ∧
      ∃ a b, a ≠ b ∧
        responses.map (·.headers.values Headers.requestId) = [[a], [⟨[], rfl⟩], [b]] := by
  intro requests responses
  have distinct : ∀ m < countUnnamed requests, ∀ n < countUnnamed requests,
      Uuid.ofBits m = Uuid.ofBits n → m = n := by decide +kernel
  obtain ⟨length, ids, -, apart⟩ :=
    handleAll_requestId Uuid.ofBits (.make "test" "trace" none) requests distinct
  obtain ⟨r, a, answer, value, -⟩ := ids 0 bareRequest rfl
  obtain ⟨r', _, answer', value', rfl⟩ := ids 1 mixedCase rfl
  obtain ⟨r'', b, answer'', value'', -⟩ := ids 2 bareRequest rfl
  have whole : responses = [r, r', r''] := by
    apply List.ext_getElem?
    intro i
    match i with
    | 0 => exact answer
    | 1 => exact answer'
    | 2 => exact answer''
    | i + 3 =>
      have none : responses.length ≤ i + 3 := by
        rw [length]
        exact Nat.le_add_left 3 i
      rw [List.getElem?_eq_none none]
      rfl
  have ne : a ≠ b := by
    rintro rfl
    exact apart 0 2 _ _ _ _ (by decide) rfl rfl rfl rfl answer answer'' (value.trans value''.symm)
  refine ⟨distinct, a, b, ne, ?_⟩
  rw [whole, List.map_cons, List.map_cons, List.map_singleton, value, value', value'']

end Liveness
