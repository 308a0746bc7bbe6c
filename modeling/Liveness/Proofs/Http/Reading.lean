import Liveness.Proofs.Http.Sent
import Liveness.Proofs.Http.Uri

/-! # Reading what a client sends

* `Reader.Reads`: the bytes that take a reader from one state to another, whatever their number.
* `Reader.feed_writeLines`, `Reader.feed_writeLines_of_large`: a head within the limits is read whole,
  and what stands behind it is left; one beyond them is refused.
* `Head.request?_lines`: the request that such a head makes.
* `Reader.feed_headBytes`, `Sent.request?_head`: the same for a request as it is sent.
-/

namespace Liveness.Http.Wire
set_option autoImplicit false

open Answer (newline)

/-! ## Runs of the reader -/

/-- The progress with another number of bytes read. -/
def Progress.withCount (n : Nat) : Progress → Progress
  | .more r => .more { r with count := n }
  | p => p

namespace Reader

/-- The number of bytes read has no influence on what the next one means. -/
theorem step_withCount (r : Reader) (b : UInt8) (n : Nat) :
    { r with count := n }.step b = (r.step b).withCount n := by
  obtain ⟨place, word, method, target, version, name, fields, count⟩ := r
  cases place with
  | protocol left =>
    cases left with
    | nil =>
      dsimp only [step]
      repeat' split
      all_goals rfl
    | cons c left =>
      dsimp only [step]
      split <;> rfl
  | _ =>
    dsimp only [step, gapStep, fieldStartStep, valueStep]
    repeat' split
    all_goals rfl

theorem feed_nil (r : Reader) : r.feed [] = .more r := rfl

/-- The bytes that take a reader from one state to another. -/
inductive Reads : Reader → List UInt8 → Reader → Prop
  | nil (r : Reader) : Reads r [] r
  | cons {r r' r'' : Reader} {b : UInt8} {bytes : List UInt8} (first : r.step b = .more r')
      (rest : Reads r' bytes r'') : Reads r (b :: bytes) r''

theorem Reads.single {r r' : Reader} {b : UInt8} (h : r.step b = .more r') : Reads r [b] r' :=
  .cons h (.nil r')

theorem Reads.trans {r r' r'' : Reader} {a b : List UInt8} (ha : Reads r a r')
    (hb : Reads r' b r'') : Reads r (a ++ b) r'' := by
  induction ha with
  | nil => exact hb
  | cons first _ ih => exact .cons first (ih hb)

/-- A run is what the reader does, unless the head reaches its greatest size. -/
theorem feed_of_reads {r r' : Reader} {bytes : List UInt8} (h : Reads r bytes r') {n : Nat}
    (below : n < maxSize) (rest : List UInt8) :
    { r with count := n }.feed (bytes ++ rest) =
      if n + bytes.length < maxSize then { r' with count := n + bytes.length }.feed rest
      else .refused .tooLarge := by
  induction h generalizing n with
  | nil => exact (if_pos below).symm
  | @cons r r' r'' b bytes first _ ih =>
    have one : { r with count := n }.next b =
        if n + 1 < maxSize then .more { r' with count := n + 1 } else .refused .tooLarge := by
      rw [next, step_withCount, first]
      rfl
    have length : n + (b :: bytes).length = n + 1 + bytes.length := by
      rw [List.length_cons]
      omega
    rw [List.cons_append, feed, one, length]
    by_cases small : n + 1 < maxSize
    · rw [if_pos small]
      exact ih small
    · rw [if_neg small, if_neg (by omega)]

/-- A run from the first byte of a head on. -/
theorem feed_of_reads_start {r : Reader} {bytes : List UInt8} (h : Reads {} bytes r)
    (rest : List UInt8) :
    ({} : Reader).feed (bytes ++ rest) =
      if bytes.length < maxSize then { r with count := bytes.length }.feed rest
      else .refused .tooLarge := by
  have fed := feed_of_reads h (n := 0) (by decide) rest
  rw [Nat.zero_add] at fed
  exact fed

/-- A run up to the last byte of a head. -/
theorem feed_of_reads_of_done {r : Reader} {bytes : List UInt8} (h : Reads {} bytes r)
    {last : UInt8} {head : Head} (done : r.step last = .done head) (small : bytes.length < maxSize)
    (rest : List UInt8) : ({} : Reader).feed (bytes ++ last :: rest) = .done head rest := by
  have end' : { r with count := bytes.length }.next last = .done head := by
    rw [next, step_withCount, done]
    rfl
  rw [feed_of_reads_start h, if_pos small, feed, end']

/-! ## Words -/

/-- A run of bytes that are all put into the word that is being read. -/
theorem reads_word {r : Reader} {place : Place} {w : List UInt8} (at_ : r.place = place)
    (push : ∀ (r : Reader), ∀ b ∈ w, r.place = place → r.step b = r.push place b) :
    Reads r w { r with word := w.reverse ++ r.word } := by
  induction w generalizing r with
  | nil => exact .nil r
  | cons b w ih =>
    have first := push r b List.mem_cons_self at_
    have rest := @ih { r with place, word := b :: r.word } rfl
      fun r b hb => push r b (List.mem_cons_of_mem _ hb)
    refine .cons first ?_
    rw [List.reverse_cons, List.append_assoc, List.singleton_append]
    subst at_
    exact rest

theorem ne_of_isTokenByte {b : UInt8} (h : isTokenByte b = true) :
    b ≠ cr ∧ b ≠ lf ∧ b ≠ 32 ∧ b ≠ byte ':' := by
  refine ⟨?_, ?_, ?_, ?_⟩ <;> rintro rfl <;> exact absurd h (by decide)

theorem ne_of_isValueByte {b : UInt8} (h : isValueByte b = true) : b ≠ cr ∧ b ≠ lf := by
  refine ⟨?_, ?_⟩ <;> rintro rfl <;> exact absurd h (by decide)

theorem ne_of_isTargetByte {b : UInt8} (h : isTargetByte b = true) : b ≠ 32 := by
  rintro rfl
  exact absurd h (by decide)

theorem isValueByte_of_isBlank {b : UInt8} (h : isBlank b = true) : isValueByte b = true := by
  simp only [isBlank, Bool.or_eq_true, decide_eq_true_eq] at h
  obtain rfl | rfl := h <;> rfl

theorem step_method {r : Reader} {b : UInt8} (at_ : r.place = .method)
    (h : isTokenByte b = true) : r.step b = r.push .method b := by
  rw [step, at_]
  dsimp only
  rw [if_neg (ne_of_isTokenByte h).2.2.1, if_pos h]

theorem step_target {r : Reader} {b : UInt8} (at_ : r.place = .target)
    (h : isTargetByte b = true) : r.step b = r.push .target b := by
  rw [step, at_]
  dsimp only
  rw [if_neg (ne_of_isTargetByte h), if_pos h]

theorem step_name {r : Reader} {b : UInt8} (at_ : r.place = .name)
    (h : isTokenByte b = true) : r.step b = r.push .name b := by
  rw [step, at_]
  dsimp only
  rw [if_neg (ne_of_isTokenByte h).2.2.2, if_pos h]

theorem valueStep_eq_push {r : Reader} {b : UInt8} (h : isValueByte b = true) :
    r.valueStep b = r.push .value b := by
  rw [valueStep, if_neg (ne_of_isValueByte h).1, if_neg (ne_of_isValueByte h).2, if_pos h]

theorem step_value {r : Reader} {b : UInt8} (at_ : r.place = .value)
    (h : isValueByte b = true) : r.step b = r.push .value b := by
  rw [step, at_]
  exact valueStep_eq_push h

/-! ## Lines -/

theorem reads_blanks {r : Reader} {w : List UInt8} (at_ : r.place = .blank)
    (dark : w.all isBlank = true) : Reads r w r := by
  have h := List.all_eq_true.1 dark
  clear dark
  induction w with
  | nil => exact .nil r
  | cons b w ih =>
    have first : r.step b = .more r := by
      rw [step, at_]
      dsimp only
      rw [if_pos (h b List.mem_cons_self), goTo, ← at_]
    exact .cons first (ih fun b hb => h b (List.mem_cons_of_mem _ hb))

/-- The name of a line and its colon. -/
theorem reads_name {r : Reader} {l : Line} (at_ : r.place = .fieldStart) (word : r.word = [])
    (room : r.fields.length < maxFields) :
    Reads r (l.name ++ [byte ':']) { r with place := .blank, name := l.name } := by
  have token := List.all_eq_true.1 l.parts.1.2.2
  cases hn : l.name with
  | nil => exact absurd hn l.parts.1.1
  | cons b w =>
    rw [hn] at token
    have tb := token b List.mem_cons_self
    have first : r.step b = r.push .name b := by
      rw [step, at_]
      dsimp only
      rw [fieldStartStep, if_neg (ne_of_isTokenByte tb).1, if_neg (ne_of_isTokenByte tb).2.1,
        if_neg (by rw [tb]; decide), if_pos room]
    have rest := @reads_word { r with place := .name, word := b :: r.word } .name w rfl
      fun r c hc hr => step_name hr (token c (List.mem_cons_of_mem _ hc))
    refine .cons first (rest.trans (.single ?_))
    rw [word, step]
    dsimp only
    rw [if_pos rfl, List.reverse_append, List.reverse_reverse]
    rfl

/-- The end of a value: the blanks behind it are dropped. -/
theorem dropWhile_blanks {value after : List UInt8} (last : value.getLast?.any isBlank = false)
    (h : after.all isBlank = true) :
    (((value ++ after).reverse).dropWhile isBlank).reverse = value := by
  have blanks : ∀ b ∈ after.reverse, isBlank b = true := fun b hb => List.all_eq_true.1 h b (List.mem_reverse.1 hb)
  rw [List.reverse_append, List.dropWhile_append_of_pos blanks]
  cases hv : value.reverse with
  | nil => rw [List.reverse_eq_nil_iff.1 hv]; rfl
  | cons b w =>
    have hb : isBlank b = false := by
      rw [List.getLast?_eq_head?_reverse, hv] at last
      exact last
    rw [List.dropWhile_cons_of_neg (by rw [hb]; decide), ← hv, List.reverse_reverse]

/-- The value of a line with the blanks around it, up to the end of the line. The word that has been
read is the value and the blanks behind it, unless there is no value. -/
theorem reads_value {r : Reader} {l : Line} (at_ : r.place = .blank) (word : r.word = []) :
    ∃ w, Reads r (l.before ++ l.value ++ l.after ++ [cr]) { r with place := .valueFeed, word := w } ∧
      (w.dropWhile isBlank).reverse = l.value := by
  obtain ⟨-, blanksBefore, ⟨all, head, last⟩, blanksAfter⟩ := l.parts
  have before := reads_blanks at_ blanksBefore
  cases hv : l.value with
  | nil =>
    have after := reads_blanks at_ blanksAfter
    have stop : r.step cr = .more { r with place := .valueFeed, word := [] } := by
      rw [step, at_, ← word]
      rfl
    rw [List.append_nil]
    exact ⟨[], (before.trans after).trans (.single stop), rfl⟩
  | cons b w =>
    rw [hv] at all head last
    have value := List.all_eq_true.1 all
    have dark : isBlank b = false := head
    have first : r.step b = r.push .value b := by
      rw [step, at_]
      dsimp only
      rw [dark]
      exact valueStep_eq_push (value b List.mem_cons_self)
    have rest := @reads_word { r with place := .value, word := b :: r.word } .value (w ++ l.after)
      rfl fun r c hc hr => step_value hr <| (List.mem_append.1 hc).elim
        (fun h => value c (List.mem_cons_of_mem _ h))
        fun h => isValueByte_of_isBlank (List.all_eq_true.1 blanksAfter c h)
    have stop : Reads { r with place := .value, word := (w ++ l.after).reverse ++ b :: r.word } [cr]
        { r with place := .valueFeed, word := (b :: w ++ l.after).reverse } := by
      rw [word]
      refine .single ?_
      rw [List.cons_append, List.reverse_cons]
      rfl
    refine ⟨_, ?_, dropWhile_blanks last blanksAfter⟩
    rw [List.append_assoc l.before, List.append_assoc]
    refine before.trans (.cons first ?_)
    exact rest.trans stop

/-- A line adds its field. -/
theorem reads_line {r : Reader} (l : Line) (at_ : r.place = .fieldStart) (word : r.word = [])
    (room : r.fields.length < maxFields) :
    Reads r l.bytes { r with name := l.name, fields := (l.name, l.value) :: r.fields } := by
  have name := reads_name (l := l) at_ word room
  have whole : l.bytes = l.name ++ [byte ':'] ++ (l.before ++ l.value ++ l.after ++ [cr]) ++ [lf] := by
    simp [Line.bytes, newline]
  obtain ⟨w, value, trimmed⟩ := @reads_value { r with place := .blank, name := l.name } l rfl word
  rw [whole]
  refine (name.trans value).trans (.single ?_)
  rw [step]
  dsimp only
  rw [if_pos rfl, endField]
  dsimp only
  rw [trimmed, at_, word]

theorem reads_lines {r : Reader} (lines : List Line) (at_ : r.place = .fieldStart)
    (word : r.word = []) (room : r.fields.length + lines.length ≤ maxFields) :
    ∃ name, Reads r (lines.flatMap Line.bytes)
      { r with name, fields := (lines.map fun l => (l.name, l.value)).reverse ++ r.fields } := by
  induction lines generalizing r with
  | nil => exact ⟨r.name, .nil r⟩
  | cons l lines ih =>
    rw [List.length_cons] at room
    have first := reads_line l at_ word (by omega)
    obtain ⟨name, rest⟩ :=
      @ih { r with name := l.name, fields := (l.name, l.value) :: r.fields } at_ word
        (by rw [List.length_cons]; omega)
    refine ⟨name, ?_⟩
    rw [List.map_cons, List.reverse_cons, List.append_assoc]
    exact first.trans rest

/-! ## Request lines -/

/-- The first word of a request line, from the first byte on. -/
theorem reads_firstWord {word : List UInt8} (full : word ≠ [])
    (token : word.all isTokenByte = true) :
    Reads {} (word ++ [32]) { place := .target, method := word } := by
  have token := List.all_eq_true.1 token
  cases word with
  | nil => exact absurd rfl full
  | cons b w =>
    have tb := token b List.mem_cons_self
    have first : ({} : Reader).step b = ({} : Reader).push .method b := by
      show gapStep {} b = _
      rw [gapStep, if_neg (ne_of_isTokenByte tb).1, if_neg (ne_of_isTokenByte tb).2.1, if_pos tb]
    have rest := @reads_word { place := .method, word := [b] } .method w rfl
      fun r c hc hr => step_method hr (token c (List.mem_cons_of_mem _ hc))
    refine .cons first (rest.trans (.single ?_))
    rw [step]
    dsimp only
    rw [if_pos rfl, List.reverse_append, List.reverse_reverse]
    rfl

theorem reads_target {r : Reader} {target : List UInt8} (at_ : r.place = .target)
    (word : r.word = []) (h : target.all isTargetByte = true) :
    Reads r (target ++ [32]) { r with place := .protocol protocolName, target } := by
  have rest := reads_word at_ fun r b hb hr => step_target hr (List.all_eq_true.1 h b hb)
  refine rest.trans (.single ?_)
  rw [step, at_]
  dsimp only
  rw [if_pos rfl, word, List.append_nil, List.reverse_reverse]

theorem reads_protocol {r : Reader} (left : List UInt8) (at_ : r.place = .protocol left) :
    Reads r left { r with place := .protocol [] } := by
  induction left generalizing r with
  | nil =>
    rw [← at_]
    exact .nil r
  | cons b left ih =>
    have first : r.step b = r.goTo (.protocol left) := by
      rw [step, at_]
      exact if_pos rfl
    exact .cons first (@ih { r with place := .protocol left } rfl)

/-- The protocol and the end of the request line. -/
theorem reads_lineEnd {r : Reader} (at_ : r.place = .protocol protocolName)
    (newer : r.version = .http11) :
    Reads r (protocol11 ++ newline) { r with place := .fieldStart } := by
  have name := reads_protocol protocolName at_
  have version : Reads { r with place := .protocol [] } [byte '1']
      { r with place := .lineEnd } := by
    refine .single ?_
    cases r
    cases newer
    rfl
  have carriage : Reads { r with place := .lineEnd } [cr] { r with place := .lineFeed } :=
    .single rfl
  have feed : Reads { r with place := .lineFeed } [lf] { r with place := .fieldStart } :=
    .single rfl
  exact (name.trans version).trans (carriage.trans feed)

/-! ## Heads -/

/-- The first two words of a request line. -/
theorem reads_firstWords {word target : List UInt8} (full : word ≠ [])
    (token : word.all isTokenByte = true) (clean : target.all isTargetByte = true) :
    Reads {} (word ++ [32] ++ (target ++ [32]))
      { place := .protocol protocolName, method := word, target } := by
  have first := reads_firstWord full token
  have second := @reads_target { place := .target, method := word } target rfl rfl clean
  exact first.trans second

/-- A request line and not too many header lines. -/
theorem reads_requestLines {word target : List UInt8} {lines : List Line} (full : word ≠ [])
    (token : word.all isTokenByte = true) (clean : target.all isTargetByte = true)
    (few : lines.length ≤ maxFields) :
    ∃ name, Reads {} (word ++ 32 :: (target ++ 32 :: (protocol11 ++ newline)) ++
        lines.flatMap Line.bytes)
      { place := .fieldStart
        method := word
        target
        name
        fields := (lines.map fun l => (l.name, l.value)).reverse } := by
  have words := reads_firstWords full token clean
  have line := @reads_lineEnd { place := .protocol protocolName, method := word, target } rfl rfl
  obtain ⟨name, read⟩ := @reads_lines { place := .fieldStart, method := word, target } lines rfl rfl
    (by rw [List.length_nil, Nat.zero_add]; exact few)
  have whole : word ++ 32 :: (target ++ 32 :: (protocol11 ++ newline)) =
      word ++ [32] ++ (target ++ [32]) ++ (protocol11 ++ newline) := by simp
  rw [List.append_nil] at read
  rw [whole]
  exact ⟨name, (words.trans line).trans read⟩

theorem reads_lastReturn {r : Reader} (at_ : r.place = .fieldStart) :
    Reads r [cr] { r with place := .lastFeed } := by
  refine .single ?_
  rw [step, at_]
  rfl

theorem writeLines_append (word target : List UInt8) (lines : List Line) (rest : List UInt8) :
    writeLines word target lines ++ rest =
      word ++ 32 :: (target ++ 32 :: (protocol11 ++ newline)) ++
        lines.flatMap Line.bytes ++ [cr] ++ lf :: rest := by
  simp [writeLines, newline]

/-- Reading what is written gives its head, and leaves what stands behind it. -/
theorem feed_writeLines {word target : List UInt8} {lines : List Line} (full : word ≠ [])
    (token : word.all isTokenByte = true) (clean : target.all isTargetByte = true)
    (few : lines.length ≤ maxFields) (small : (writeLines word target lines).length ≤ maxSize)
    (rest : List UInt8) :
    ({} : Reader).feed (writeLines word target lines ++ rest) =
      .done ⟨word, target, .http11, lines.map fun l => (l.name, l.value)⟩ rest := by
  obtain ⟨name, before⟩ := reads_requestLines full token clean few
  have size := congrArg List.length (writeLines_append word target lines [])
  rw [List.append_nil, List.length_append, List.length_singleton] at size
  rw [writeLines_append]
  refine feed_of_reads_of_done (before.trans (reads_lastReturn rfl)) ?_ (by omega) rest
  rw [step]
  dsimp only
  rw [if_pos rfl, head, List.reverse_reverse]

/-- A line behind as many as there may be is refused. -/
theorem feed_line_of_full {r : Reader} (at_ : r.place = .fieldStart)
    (full : r.fields.length = maxFields) (l : Line) (rest : List UInt8) :
    r.feed (l.bytes ++ rest) = .refused .tooLarge := by
  have token := List.all_eq_true.1 l.parts.1.2.2
  cases hn : l.name with
  | nil => exact absurd hn l.parts.1.1
  | cons b w =>
    rw [hn] at token
    have tb := token b List.mem_cons_self
    have first : r.step b = .refused .tooLarge := by
      rw [step, at_]
      dsimp only
      rw [fieldStartStep, if_neg (ne_of_isTokenByte tb).1, if_neg (ne_of_isTokenByte tb).2.1,
        if_neg (by rw [tb]; decide), if_neg (by omega)]
    rw [Line.bytes, hn, List.cons_append, List.cons_append, feed, next, first]

/-- A head with too many lines or too many bytes is refused. -/
theorem feed_writeLines_of_large {word target : List UInt8} {lines : List Line} (full : word ≠ [])
    (token : word.all isTokenByte = true) (clean : target.all isTargetByte = true)
    (large : lines.length ≤ maxFields → maxSize < (writeLines word target lines).length)
    (rest : List UInt8) :
    ({} : Reader).feed (writeLines word target lines ++ rest) = .refused .tooLarge := by
  by_cases few : lines.length ≤ maxFields
  · obtain ⟨name, before⟩ := reads_requestLines full token clean few
    have large := large few
    have size := congrArg List.length (writeLines_append word target lines [])
    rw [List.append_nil, List.length_append, List.length_singleton] at size
    rw [writeLines_append, feed_of_reads_start (before.trans (reads_lastReturn rfl)),
      if_neg (by omega)]
  · -- The lines up to the greatest number are read, and the next is refused.
    have some : lines.drop maxFields ≠ [] := by
      intro none
      exact few (List.drop_eq_nil_iff.1 none)
    obtain ⟨l, more, behind⟩ := List.exists_cons_of_ne_nil some
    have first : (lines.take maxFields).length = maxFields := by
      rw [List.length_take]
      omega
    obtain ⟨name, before⟩ := reads_requestLines full token clean (Nat.le_of_eq first)
    have cut : lines.flatMap Line.bytes =
        (lines.take maxFields).flatMap Line.bytes ++ (l.bytes ++ more.flatMap Line.bytes) := by
      rw [← List.flatMap_cons, ← behind, ← List.flatMap_append, List.take_append_drop]
    have whole : writeLines word target lines ++ rest =
        word ++ 32 :: (target ++ 32 :: (protocol11 ++ newline)) ++
          (lines.take maxFields).flatMap Line.bytes ++
            (l.bytes ++ (more.flatMap Line.bytes ++ newline ++ rest)) := by
      rw [writeLines, cut]
      simp only [List.append_assoc]
    rw [whole, feed_of_reads_start before]
    split
    · refine feed_line_of_full rfl ?_ l _
      rw [List.length_reverse, List.length_map, first]
    · rfl

/-- Reading a request gives its head, and leaves what stands behind it. -/
theorem feed_headBytes {q : Sent} (h : q.IsTaken) (rest : List UInt8) :
    ({} : Reader).feed (q.headBytes ++ rest) = .done q.head rest :=
  feed_writeLines q.word_ne_nil q.isTokenByte_word q.isTargetByte_target h.few h.small rest

/-- No head ends before its last byte. -/
theorem feed_of_prefix {q : Sent} (taken : q.IsTaken) {a b : List UInt8}
    (h : a ++ b = q.headBytes) (ne : b ≠ []) : ∃ r, ({} : Reader).feed a = .more r := by
  have whole := feed_headBytes taken []
  rw [List.append_nil, ← h, feed_append] at whole
  cases ha : ({} : Reader).feed a with
  | more r => exact ⟨r, rfl⟩
  | refused refusal =>
    rw [ha] at whole
    cases whole
  | done head rest =>
    rw [ha] at whole
    injection whole with _ empty
    exact absurd (List.append_eq_nil_iff.1 empty).2 ne

end Reader

/-! ## Requests -/

theorem mapM_field?_lines (lines : List Line) :
    (lines.map fun l => (l.name, l.value)).mapM field? = some (lines.map Line.field) := by
  induction lines with
  | nil => rfl
  | cons l lines ih =>
    rw [List.map_cons, List.mapM_cons, l.field?_eq_field, ih]
    rfl

theorem length_le_of_parse?_chars {target : List UInt8} {uri : Uri}
    (h : Uri.parse? (chars target) = some uri) : target.length ≤ Uri.maxLength := by
  have bytes := Uri.byteLength_le_of_parse? h
  have length := Uri.length_le_byteLength (chars target)
  rw [chars, List.length_map, ← chars] at length
  exact Nat.le_trans length bytes

/-- A head makes a request if its words are those of a method and of a URI. -/
theorem Head.request?_lines {word target : List UInt8} {lines : List Line} {method : Method}
    {uri : Uri} (named : Method.ofString? (text word) = some method)
    (parsed : Uri.parse? (chars target) = some uri) :
    Head.request? ⟨word, target, .http11, lines.map fun l => (l.name, l.value)⟩ =
      .ok { method, uri, headers := lines.map Line.field } := by
  have short := Nat.not_lt.2 (length_le_of_parse?_chars parsed)
  rw [Head.request?]
  dsimp only
  rw [if_neg short, named, parsed, mapM_field?_lines]

/-- The head that is read makes the request. -/
theorem Sent.request?_head {q : Sent} (h : q.IsTaken) : q.head.request? = .ok q.request :=
  Head.request?_lines (Sent.ofString?_word h) q.parse?_target

end Liveness.Http.Wire
