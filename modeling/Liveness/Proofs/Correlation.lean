import Liveness.Proofs.Http.FieldText
import Liveness.Proofs.Identifiers
import Liveness.Proofs.Recording

/-! # The log and the response have one identifier

* `Uuid.eq_of_infix_headerValue`: the text of an identifier stands in that of no other.
* `headers_of_mem_trace`, `responseHeaders_of_mem_trace`: the texts of header fields in what is
  recorded of a request are those of the request and of its response.
* `Log.Record.Shows`, `Sends`: an identifier in such a text, and in what a client sends.
* `handleAll_correlated`: the identifier of each response is the one in the log, and that of another
  request is not there.
-/

namespace Liveness
set_option autoImplicit false

open Http (Headers HeaderName HeaderValue Request Response)

/-! ## Texts of identifiers -/

namespace Uuid

theorem length_text (u : Uuid) : u.text.length = 36 := by
  simp [text, Text.length_hexadecimal]

/-- The digits and the hyphen, of which identifiers are made. -/
def isTextChar (c : Char) : Bool := c.isAlphanum || c = '-'

theorem all_isTextChar_text (u : Uuid) : u.text.all isTextChar = true := by
  have digits (width n : Nat) : (Text.hexadecimal width n).all isTextChar = true := by
    refine List.all_eq_true.2 fun c hc => ?_
    obtain ⟨d, hd, rfl⟩ := Text.exists_of_mem_hexadecimal hc
    have all : ∀ d < 16, isTextChar (Nat.digitChar d) = true := by decide
    exact all d hd
  have hyphen : isTextChar '-' = true := by decide
  have four : isTextChar version = true := by decide
  simp only [text, List.all_append, List.all_cons, digits, hyphen, four, Bool.and_true]

theorem not_mem_text (u : Uuid) {c : Char} (h : isTextChar c = false) : c ∉ u.text := by
  intro hm
  have := List.all_eq_true.1 u.all_isTextChar_text c hm
  rw [h] at this
  cases this

theorem unmarked (u : Uuid) : ∀ c ∈ Http.marks, c ∉ u.text := by
  have others : Http.marks.any isTextChar = false := rfl
  intro c hc
  exact u.not_mem_text (Bool.eq_false_iff.2 (List.any_eq_false.1 others c hc))

theorem text_ne_nil (u : Uuid) : u.text ≠ [] := by
  intro h
  have := u.length_text
  rw [h] at this
  exact absurd this (by decide)

theorem text_headerValue (u : Uuid) : u.headerValue.text = '\x22' :: (u.text ++ ['\x22']) :=
  HeaderValue.text_ofVisible u.all_isVisible_text (u.not_mem_text (by decide))

theorem chars_headerValue (u : Uuid) : Http.Wire.chars u.headerValue.bytes = u.text :=
  chars_ofVisible u.text u.all_isVisible_text

theorem eq_of_infix_headerValue {u v : Uuid} (h : u.text <:+: v.headerValue.text) : u = v := by
  have quote : '\x22' ∉ u.text := u.not_mem_text (by decide)
  have nonempty {p : Prop} (h : u.text <:+: [] ∨ p) : p :=
    h.resolve_left fun none => u.text_ne_nil (List.infix_nil.1 none)
  rw [text_headerValue] at h
  have inner := nonempty (Http.infix_or_infix_of_infix_append_cons quote (a := []) h)
  have inner := nonempty (Http.infix_or_infix_of_infix_append_cons quote inner).symm
  exact text_injective (inner.eq_of_length (by rw [length_text, length_text]))

end Uuid

/-! ## The texts of header fields -/

section
variable {r : Log.Recorder} {q : Request} {record : Log.Record} {v : Log.Value}
  (alone : r.spans = []) (h : record ∈ (trace r q).2.2)
include alone h

theorem mem_fields_of_mem_trace {f : String × Log.Value} (hf : f ∈ record.fields) :
    f ∈ spanFields q ∨ (∃ milliseconds, f ∈ responseFields milliseconds (respond q)) ∨
      f.1 = Log.Recorder.elapsedField := by
  have outer : r.inherited = [] := by
    simp [Log.Recorder.inherited, Log.Recorder.current?, Log.Recorder.visible, alone]
  have inner {f : String × Log.Value} {target name : String}
      (h : f ∈ (r.enter .debug target name (spanFields q)).1.inherited) : f ∈ spanFields q := by
    obtain own | none := Log.Recorder.mem_inherited_of_enter h
    · exact own
    · rw [outer] at none
      cases none
  rw [records_trace] at h
  simp only [List.mem_append] at h
  obtain ((start | started) | finished) | stop := h
  · obtain own | none := Log.Recorder.mem_fields_of_enter start hf
    · exact .inl own
    · rw [outer] at none
      cases none
  · obtain none | above := Log.Recorder.mem_fields_of_event started hf
    · cases none
    · exact .inl (inner above)
  · obtain own | above := Log.Recorder.mem_fields_of_event finished hf
    · exact .inr (.inl ⟨_, own⟩)
    · exact .inl (inner above)
  · obtain time | above := Log.Recorder.mem_fields_of_exit stop hf
    · exact .inr (.inr time)
    · exact .inl (inner above)

theorem headers_of_mem_trace (hv : ("headers", v) ∈ record.fields) :
    v = .text (String.ofList q.headers.text) := by
  obtain own | ⟨_, other⟩ | time := mem_fields_of_mem_trace alone h hv
  · simpa [spanFields] using own
  · simp [responseFields, latencyField] at other
  · have apart : "headers" ≠ Log.Recorder.elapsedField := by decide
    exact absurd time apart

theorem responseHeaders_of_mem_trace (hv : ("response_headers", v) ∈ record.fields) :
    v = .text (String.ofList (respond q).headers.text) := by
  obtain other | ⟨_, own⟩ | time := mem_fields_of_mem_trace alone h hv
  · simp [spanFields] at other
  · simpa [responseFields, latencyField] using own
  · have apart : "response_headers" ≠ Log.Recorder.elapsedField := by decide
    exact absurd time apart

end

/-! ## Entries -/

theorem mem_identify (supply : Supply) (n : Nat) (q : Request) :
    (Headers.requestId, idOf supply n q) ∈ (identify supply n q).1.headers := by
  have first := first?_identify supply n q
  rw [Headers.first?, Option.map_eq_some_iff] at first
  obtain ⟨f, found, value⟩ := first
  have name : f.1 = Headers.requestId := by simpa using List.find?_some found
  rw [← name, ← value]
  exact List.mem_of_find?_eq_some found

theorem text_lengthValue_quoted (n : Nat) :
    (lengthValue n).text = '\x22' :: (Decimal.ofNat n ++ ['\x22']) := by
  refine HeaderValue.text_ofVisible _ fun quote => ?_
  exact absurd (Decimal.isDigit_of_mem_ofNat quote) (by decide)

theorem occurrences_stamped (method : Http.Method) (uri : Http.Uri) (id : HeaderValue) :
    Http.occurrences (Headers.label Headers.requestId) (stamped method uri id).headers.text = 1 :=
  Http.occurrences_label_answer (text_lengthValue_quoted _) (Decimal.ofNat_ne_nil _)
    (fun _ => Decimal.isDigit_of_mem_ofNat) id

/-! ## Identifiers of other requests -/

/-- Whether a record has a word in a text of header fields. -/
def Log.Record.Shows (record : Log.Record) (word : List Char) : Prop :=
  ∃ name ∈ ["headers", "response_headers"], ∃ text,
    (name, Log.Value.text text) ∈ record.fields ∧ word <:+: text.toList

/-- Whether a client sends a word in a header field. -/
def Sends (q : Request) (word : List Char) : Prop := ∃ f ∈ q.headers, word <:+: Headers.fieldText f

theorem infix_fieldText {word : List Char} {f : HeaderName × HeaderValue}
    (h : word <:+: (Text.quoted f.1.text).toList ∨ word <:+: f.2.text) :
    word <:+: Headers.fieldText f := by
  obtain name | value := h
  · exact name.trans ⟨[], [':', ' '] ++ f.2.text, by simp [Headers.fieldText]⟩
  · exact value.trans ⟨(Text.quoted f.1.text).toList ++ [':', ' '], [], by simp [Headers.fieldText]⟩

section
variable {supply : Supply} {n : Nat} {q : Request} {u : Uuid}

theorem not_infix_of_length_lt {l : List Char} (h : l.length < 36) : ¬u.text <:+: l := by
  intro hi
  have := hi.length_le
  rw [u.length_text] at this
  omega

/-- An identifier in a field of a request was sent there, or drawn for the request. -/
theorem sends_or_drawn_of_mem_identify {f : HeaderName × HeaderValue}
    (hf : f ∈ (identify supply n q).1.headers)
    (h : u.text <:+: (Text.quoted f.1.text).toList ∨ u.text <:+: f.2.text) :
    Sends q u.text ∨ lacksId q = true ∧ supply n = u := by
  unfold identify at hf
  cases hq : q.headers.first? Headers.requestId with
  | some v =>
    rw [hq] at hf
    exact .inl ⟨f, hf, infix_fieldText h⟩
  | none =>
    rw [hq] at hf
    obtain sent | drawn := List.mem_append.1 hf
    · exact .inl ⟨f, sent, infix_fieldText h⟩
    · obtain rfl := List.mem_singleton.1 drawn
      have name : (Text.quoted Headers.requestId.text).toList.length = 14 := by decide +kernel
      obtain inName | inValue := h
      · exact absurd inName (not_infix_of_length_lt (by rw [name]; decide))
      · refine .inr ⟨?_, (Uuid.eq_of_infix_headerValue inValue).symm⟩
        rw [lacksId, hq]
        rfl

theorem length_text_lengthValue (method : Http.Method) (uri : Http.Uri) :
    (lengthValue (dispatch method uri).body.utf8ByteSize).text.length = 3 := by
  obtain found | missing := dispatch_eq_healthy_or method uri
  · rw [found]
    decide
  · rw [missing]
    decide

/-- The log of a request shows an identifier only if it was sent in the request, or drawn for it. -/
theorem sends_or_drawn_of_shows {r : Log.Recorder} {record : Log.Record} (alone : r.spans = [])
    (h : record ∈ (trace r (identify supply n q).1).2.2) (shown : record.Shows u.text) :
    Sends q u.text ∨ lacksId q = true ∧ supply n = u := by
  obtain ⟨name, hname, text, field, found⟩ := shown
  simp only [List.mem_cons, List.not_mem_nil, or_false] at hname
  obtain rfl | rfl := hname
  · have whole := headers_of_mem_trace alone h field
    rw [Log.Value.text.injEq] at whole
    rw [whole, String.toList_ofList] at found
    obtain ⟨f, hf, inside⟩ := Headers.exists_field_of_infix u.text_ne_nil u.unmarked found
    exact sends_or_drawn_of_mem_identify hf inside
  · have whole := responseHeaders_of_mem_trace alone h field
    rw [Log.Value.text.injEq, respond_identify] at whole
    rw [whole, String.toList_ofList] at found
    obtain ⟨f, hf, inside⟩ := Headers.exists_field_of_infix u.text_ne_nil u.unmarked found
    simp only [stamped, List.mem_cons, List.not_mem_nil, or_false] at hf
    obtain rfl | rfl := hf
    · have name : (Text.quoted Headers.contentLength.text).toList.length = 16 := by decide +kernel
      have value := length_text_lengthValue q.method q.uri
      obtain inName | inValue := inside
      · exact absurd inName (not_infix_of_length_lt (by rw [name]; decide))
      · exact absurd inValue (not_infix_of_length_lt (by rw [value]; decide))
    · exact sends_or_drawn_of_mem_identify (mem_identify supply n q) inside

end

/-! ## Lists of requests -/

/-- The identifier of each response is the one in the log of its request: the fields of the request
as recorded have an entry for it, and those of the response have one such entry. As long as the
supply does not repeat itself, the log of a request does not show the identifier that was drawn for
another one, unless its own client has sent it. -/
theorem handleAll_correlated (supply : Supply) (name text : String) (setting : Option String)
    (requests : List Request) :
    let answers := Service.handleAll supply { recorder := .make name text setting } requests
    (∀ (r : Response) (records : List Log.Record), (r, records) ∈ answers →
      ∃ id, r.headers.values Headers.requestId = [id] ∧ ∀ record ∈ records, ∀ v,
        (("headers", v) ∈ record.fields → ∃ t, v = .text t ∧
          Headers.fieldText (Headers.requestId, id) <:+: t.toList) ∧
        (("response_headers", v) ∈ record.fields → ∃ t, v = .text t ∧
          Headers.fieldText (Headers.requestId, id) <:+: t.toList ∧
          Http.occurrences (Headers.label Headers.requestId) t.toList = 1)) ∧
      ((∀ m < requests.countP lacksId, ∀ n < requests.countP lacksId,
          supply m = supply n → m = n) →
        ∀ (i j : Nat) (q q' : Request) (r r' : Response) (id : HeaderValue)
          (records records' : List Log.Record), i ≠ j →
          requests[i]? = some q → answers[i]? = some (r, records) →
          requests[j]? = some q' → answers[j]? = some (r', records') →
          q.headers.values Headers.requestId = [] → r.headers.values Headers.requestId = [id] →
          ¬Sends q' (Http.Wire.chars id.bytes) →
          ∀ record ∈ records', ¬record.Shows (Http.Wire.chars id.bytes)) := by
  intro answers
  have answer (i : Nat) : answers[i]? = requests[i]?.map fun q =>
      let q' := (identify supply ((requests.take i).countP lacksId) q).1
      (respond q', (trace (.make name text setting) q').2.2) := by
    have := getElem?_answers supply { recorder := .make name text setting } requests i
    rwa [Nat.zero_add] at this
  constructor
  · intro r records mem
    obtain ⟨i, hi⟩ := List.mem_iff_getElem?.1 mem
    rw [answer] at hi
    obtain ⟨q, -, both⟩ := Option.map_eq_some_iff.1 hi
    obtain ⟨rfl, rfl⟩ := Prod.mk.inj both
    rw [respond_identify]
    refine ⟨_, values_stamped _ _ _, fun record hr v => ⟨fun hv => ?_, fun hv => ?_⟩⟩
    · refine ⟨_, headers_of_mem_trace rfl hr hv, ?_⟩
      rw [String.toList_ofList]
      exact Headers.fieldText_infix (mem_identify supply _ q)
    · refine ⟨_, responseHeaders_of_mem_trace rfl hr hv, ?_⟩
      rw [String.toList_ofList, respond_identify]
      exact ⟨Headers.fieldText_infix (by simp [stamped]), occurrences_stamped _ _ _⟩
  · intro distinct i j q q' r r' id records records' ne hq hr hq' hr' none value unsent record mem
    have lacks : lacksId q = true := by
      rw [lacksId, first?_eq_head?_values, none]
      rfl
    have drawn : id = (supply ((requests.take i).countP lacksId)).headerValue := by
      rw [answer, hq, Option.map_some, Option.some.injEq, Prod.mk.injEq, respond_identify] at hr
      rw [← hr.1, values_stamped, List.cons.injEq, idOf, first?_eq_head?_values, none] at value
      exact value.1.symm
    rw [answer, hq', Option.map_some, Option.some.injEq, Prod.mk.injEq] at hr'
    rw [← hr'.2] at mem
    rw [drawn, Uuid.chars_headerValue] at unsent ⊢
    intro shown
    obtain ⟨lacks', same⟩ := (sends_or_drawn_of_shows rfl mem shown).resolve_left unsent
    exact countP_take_ne ne hq hq' lacks lacks'
      (distinct _ (countP_take_lt hq' lacks') _ (countP_take_lt hq lacks) same).symm

theorem handleAll_correlated_tagged :
    let untagged := { taggedRequest with headers := [] }
    let answers := Service.handleAll Uuid.ofBits { recorder := .make "app" "debug" none }
      [untagged, taggedRequest]
    ∃ r r' id id' records records',
      answers[0]? = some (r, records) ∧ answers[1]? = some (r', records') ∧
      r.headers.values Headers.requestId = [id] ∧ r'.headers.values Headers.requestId = [id'] ∧
      records'.length = 4 ∧ ∀ record ∈ records',
        (∃ t, ("headers", .text t) ∈ record.fields ∧
          Headers.fieldText (Headers.requestId, id') <:+: t.toList) ∧
        ¬record.Shows (Http.Wire.chars id.bytes) := by
  intro untagged answers
  have distinct : ∀ m < [untagged, taggedRequest].countP lacksId,
      ∀ n < [untagged, taggedRequest].countP lacksId,
        Uuid.ofBits m = Uuid.ofBits n → m = n := by decide +kernel
  have filter : (Log.Recorder.make "app" "debug" none).filter = .bare (.downTo .debug) :=
    Log.Filter.choose_word (.downTo .debug)
  have first : answers[0]? = some (stamped untagged.method untagged.uri
      (Uuid.ofBits 0).headerValue,
      (trace (.make "app" "debug" none) (identify Uuid.ofBits 0 untagged).1).2.2) := rfl
  have second : answers[1]? = some (_, (trace (.make "app" "debug" none) taggedRequest).2.2) := rfl
  obtain ⟨same, apart⟩ := handleAll_correlated Uuid.ofBits "app" "debug" none
    [untagged, taggedRequest]
  obtain ⟨id', value', shown⟩ := same _ _ (List.mem_of_getElem? second)
  -- the value that the client has sent is shorter than an identifier that is drawn
  have unsent : ¬Sends taggedRequest (Uuid.ofBits 0).text := by
    rintro ⟨f, hf, inside⟩
    obtain rfl := List.mem_singleton.1 hf
    exact not_infix_of_length_lt (by decide +kernel) inside
  refine ⟨_, _, _, id', _, _, first, second, values_stamped _ _ _, value', ?_, ?_⟩
  · rw [trace_of_shown filter taggedRequest rfl]
    rfl
  · intro record hr
    have headers : ("headers", Log.Value.text (String.ofList taggedRequest.headers.text)) ∈
        record.fields := mem_fields_of_shown filter taggedRequest rfl hr (by simp [spanFields])
    obtain ⟨t, ht, inside⟩ := (shown record hr _).1 headers
    obtain rfl := Log.Value.text.inj ht
    refine ⟨⟨_, headers, inside⟩, ?_⟩
    refine apart distinct 0 1 untagged taggedRequest _ _ _ _ _ (by decide) rfl first rfl
      second rfl (values_stamped _ _ _) ?_ record hr
    rwa [Uuid.chars_headerValue]

/-- A client that sends the identifier drawn for the request of another has it in its own log. -/
theorem shows_of_sent :
    let untagged := { taggedRequest with headers := [] }
    let echo := { taggedRequest with headers := [(Headers.requestId, (Uuid.ofBits 0).headerValue)] }
    let answers := Service.handleAll Uuid.ofBits { recorder := .make "app" "debug" none }
      [untagged, echo]
    ∃ r r' id records records',
      answers[0]? = some (r, records) ∧ answers[1]? = some (r', records') ∧
      untagged.headers.values Headers.requestId = [] ∧ r.headers.values Headers.requestId = [id] ∧
      records'.length = 4 ∧ ∀ record ∈ records', record.Shows (Http.Wire.chars id.bytes) := by
  intro untagged echo answers
  have filter : (Log.Recorder.make "app" "debug" none).filter = .bare (.downTo .debug) :=
    Log.Filter.choose_word (.downTo .debug)
  have first : answers[0]? = some (stamped untagged.method untagged.uri
      (Uuid.ofBits 0).headerValue,
      (trace (.make "app" "debug" none) (identify Uuid.ofBits 0 untagged).1).2.2) := rfl
  have second : answers[1]? = some (_, (trace (.make "app" "debug" none) echo).2.2) := rfl
  refine ⟨_, _, _, _, _, first, second, rfl, values_stamped _ _ _, ?_, ?_⟩
  · rw [trace_of_shown filter echo rfl]
    rfl
  · intro record hr
    have headers : ("headers", Log.Value.text (String.ofList echo.headers.text)) ∈ record.fields :=
      mem_fields_of_shown filter echo rfl hr (by simp [spanFields])
    refine ⟨"headers", by simp, _, headers, ?_⟩
    exact ⟨"\x7b\"x-request-id\": \"".toList, "\"\x7d".toList, by decide +kernel⟩

end Liveness
