import Liveness.Proofs.Log.Choice
import Liveness.Proofs.Log.Levels
import Liveness.Proofs.Log.Placement
import Liveness.Proofs.Text.Ascii
import Liveness.Proofs.Text.Basic

/-! # Rules for targets

* `Rule`: a limit for the targets that begin with a word.
* `Rule.text`, `Directive.parse?_text`: a rule as text, and the directive that is read from it.
* `Rule.write`, `Filter.ofText_write`: the text of rules, and the filter that it makes.
-/

namespace Liveness.Log
set_option autoImplicit false

/-- Characters of the words that rules have. -/
def isTargetChar (c : Char) : Bool := c.isAlphanum || c = '_' || c = ':' || c = '-'

/-- A limit for all targets that begin with a word. Every target begins with the empty word. -/
structure Rule where
  target : String
  limit : Limit
  all_isTargetChar : target.toList.all isTargetChar = true := by decide
  deriving DecidableEq

namespace Rule

/-- A rule as text: a level alone if it is about every target. -/
def text (r : Rule) : List Char :=
  if r.target = "" then r.limit.word.toList else r.target.toList ++ '=' :: r.limit.word.toList

/-- Rules with commas between them. -/
def write (rules : List Rule) : String := String.ofList ([','].intercalate (rules.map text))

/-- The directive that a rule stands for. -/
def directive (r : Rule) : Directive :=
  ⟨if r.target = "" then none else some r.target, none, none, r.limit⟩

end Rule

/-! ## Reading -/

theorem of_isTargetChar {c : Char} (h : isTargetChar c = true) :
    Directive.beginsWord c = true ∧ Text.isBlank c = false ∧ c ≠ '=' ∧ c ≠ '[' ∧ c ≠ ',' := by
  have ascii : Text.isAscii c = true := by
    simp only [isTargetChar, Bool.or_eq_true, decide_eq_true_eq] at h
    obtain ((alphanumeric | rfl) | rfl) | rfl := h
    · exact Text.isAscii_of_isAlphanum alphanumeric
    all_goals decide
  have all : ∀ n < 128, isTargetChar (Char.ofNat n) = true →
      Directive.beginsWord (Char.ofNat n) = true ∧ Text.isBlank (Char.ofNat n) = false := by
    decide +kernel
  obtain ⟨begins, dark⟩ := Text.of_all_ascii (p := fun c => isTargetChar c = true →
    Directive.beginsWord c = true ∧ Text.isBlank c = false) all ascii h
  refine ⟨begins, dark, ?_, ?_, ?_⟩
  all_goals
    rintro rfl
    cases h

namespace Limit

theorem word_ne_nil (limit : Limit) : limit.word.toList ≠ [] := by
  cases limit with
  | off => decide
  | downTo level => cases level <;> decide

theorem isTargetChar_of_mem_word (limit : Limit) :
    ∀ c ∈ limit.word.toList, isTargetChar c = true := by
  refine List.all_eq_true.1 ?_
  cases limit with
  | off => decide
  | downTo level => cases level <;> decide

theorem read?_word (limit : Limit) : read? limit.word.toList = some limit := by
  cases limit with
  | off => decide
  | downTo level => cases level <;> decide

end Limit

namespace Directive

/-- Characters as they are read where no white space is cut off. -/
def doubled (text : List Char) : List (Char × Char) := text.map fun c => (c, c)

theorem foldlM_word {run : List Char} (h : ∀ c ∈ run, isTargetChar c = true) {s : Draft}
    {t : List Char} (hs : s.part = .word t) :
    (doubled run).foldlM Draft.step s = some { s with part := .word (t ++ run) } := by
  induction run generalizing s t with
  | nil =>
    rw [List.append_nil, ← hs]
    rfl
  | cons c run ih =>
    obtain ⟨-, -, equals, bracket, -⟩ := of_isTargetChar (h c List.mem_cons_self)
    have first : Draft.step s (c, c) = some { s with part := .word (t ++ [c]) } := by
      simp only [Draft.step, hs, if_neg equals, if_neg bracket]
    rw [doubled, List.map_cons, List.foldlM_cons, first]
    show (doubled run).foldlM Draft.step _ = _
    rw [ih (fun c' hc => h c' (List.mem_cons_of_mem _ hc)) rfl, List.append_assoc]
    rfl

theorem foldlM_limit (run : List Char) {s : Draft} {t : List Char} (hs : s.part = .limit t) :
    (doubled run).foldlM Draft.step s = some { s with part := .limit (t ++ run) } := by
  induction run generalizing s t with
  | nil =>
    rw [List.append_nil, ← hs]
    rfl
  | cons c run ih =>
    have first : Draft.step s (c, c) = some { s with part := .limit (t ++ [c]) } := by
      simp only [Draft.step, hs]
    rw [doubled, List.map_cons, List.foldlM_cons, first]
    show (doubled run).foldlM Draft.step _ = _
    rw [ih rfl, List.append_assoc]
    rfl

theorem foldlM_firstWord {word : List Char} (hne : word ≠ [])
    (h : ∀ c ∈ word, isTargetChar c = true) :
    (doubled word).foldlM Draft.step {} = some { part := .word word } := by
  obtain ⟨c, run, rfl⟩ := List.exists_cons_of_ne_nil hne
  obtain ⟨begins, -, -, bracket, -⟩ := of_isTargetChar (h c List.mem_cons_self)
  have first : Draft.step {} (c, c) = some { part := .word [c] } := by
    simp only [Draft.step, if_neg bracket, if_pos begins]
  rw [doubled, List.map_cons, List.foldlM_cons, first]
  exact foldlM_word (s := { part := .word [c] }) (fun c' hc => h c' (List.mem_cons_of_mem _ hc)) rfl

theorem parse?_of_foldlM {text : List Char} (h : ∀ c ∈ text, Text.isBlank c = false) {s : Draft}
    (read : (doubled text).foldlM Draft.step {} = some s) : parse? text = s.finish? [] := by
  have pairs : text.zip text = doubled text := by
    have := List.zip_map' (f := id) (g := id) (l := text)
    rwa [List.map_id] at this
  unfold parse?
  dsimp only
  rw [Text.trim_eq_self h, pairs, read, List.drop_length]

end Directive

namespace Rule

theorem isTargetChar_of_mem (r : Rule) : ∀ c ∈ r.target.toList, isTargetChar c = true :=
  List.all_eq_true.1 r.all_isTargetChar

theorem toList_ne_nil {target : String} (h : target ≠ "") : target.toList ≠ [] :=
  fun none => h (String.toList_inj.1 none)

theorem of_mem_text {r : Rule} {c : Char} (h : c ∈ r.text) : isTargetChar c = true ∨ c = '=' := by
  unfold text at h
  split at h
  · exact .inl (r.limit.isTargetChar_of_mem_word c h)
  · obtain target | rest := List.mem_append.1 h
    · exact .inl (r.isTargetChar_of_mem c target)
    · obtain rfl | level := List.mem_cons.1 rest
      · exact .inr rfl
      · exact .inl (r.limit.isTargetChar_of_mem_word c level)

theorem text_ne_nil (r : Rule) : r.text ≠ [] := by
  unfold text
  split
  · exact r.limit.word_ne_nil
  · exact List.append_ne_nil_of_right_ne_nil _ (List.cons_ne_nil _ _)

end Rule

/-- A rule that is written is read as its directive. -/
theorem Directive.parse?_text (r : Rule) : parse? r.text = some r.directive := by
  have dark : ∀ c ∈ r.text, Text.isBlank c = false := by
    intro c hc
    obtain word | rfl := Rule.of_mem_text hc
    · exact (of_isTargetChar word).2.1
    · decide
  have level := r.limit.read?_word
  by_cases bare : r.target = ""
  · have text : r.text = r.limit.word.toList := if_pos bare
    rw [text] at dark ⊢
    rw [parse?_of_foldlM dark
      (foldlM_firstWord r.limit.word_ne_nil r.limit.isTargetChar_of_mem_word), Draft.finish?]
    dsimp only
    rw [List.append_nil, level, Rule.directive, if_pos bare]
  · have text : r.text = r.target.toList ++ '=' :: r.limit.word.toList := if_neg bare
    have target := foldlM_firstWord (Rule.toList_ne_nil bare) r.isTargetChar_of_mem
    have whole : (doubled r.text).foldlM Draft.step {} =
        some { part := .limit r.limit.word.toList, target := some r.target } := by
      rw [text, doubled, List.map_append, List.map_cons, List.foldlM_append]
      show ((doubled r.target.toList).foldlM Draft.step {} >>= _) = _
      rw [target]
      show (doubled r.limit.word.toList).foldlM Draft.step
        { part := .limit [], target := some (String.ofList r.target.toList) } = _
      rw [foldlM_limit _ rfl, List.nil_append, String.ofList_toList]
    rw [parse?_of_foldlM dark whole, Draft.finish?]
    dsimp only
    rw [List.append_nil, if_neg r.limit.word_ne_nil, level, Option.map_some, Rule.directive,
      if_neg bare]

/-! ## The filter of rules -/

namespace Rule

/-- The rules that are in force: without any of them, errors of every target are let through. -/
def inForce (rules : List Rule) : List Rule :=
  if rules = [] then [⟨"", .downTo .error, rfl⟩] else rules

theorem pieces_write (rules : List Rule) :
    Filter.pieces (write rules).toList = rules.map text := by
  rw [write, String.toList_ofList]
  refine Filter.pieces_intercalate fun p hp => ?_
  obtain ⟨r, -, rfl⟩ := List.mem_map.1 hp
  refine ⟨r.text_ne_nil, fun comma => ?_⟩
  obtain word | equals := of_mem_text comma
  · exact (of_isTargetChar word).2.2.2.2 rfl
  · cases equals

theorem filterMap_pieces_write (rules : List Rule) :
    (Filter.pieces (write rules).toList).filterMap Directive.parse? = rules.map directive := by
  rw [pieces_write, List.filterMap_map, ← List.filterMap_eq_map]
  exact List.filterMap_congr fun r _ => Directive.parse?_text r

theorem plain_directive {rules : List Rule} :
    ∀ d ∈ rules.map directive, d.span = none ∧ d.field = none := by
  intro d hd
  obtain ⟨r, -, rfl⟩ := List.mem_map.1 hd
  exact ⟨rfl, rfl⟩

end Rule

theorem Filter.ofText_write (rules : List Rule) :
    ofText (Rule.write rules) = flat (placed ((Rule.inForce rules).map Rule.directive)) := by
  have read := Rule.filterMap_pieces_write rules
  cases rules with
  | nil => rfl
  | cons r rules =>
    have some' : (pieces (Rule.write (r :: rules)).toList).filterMap Directive.parse? ≠ [] := by
      rw [read]
      exact List.cons_ne_nil _ _
    rw [ofText_of_ne_nil some', read, ofDirectives_eq_flat Rule.plain_directive, Rule.inForce,
      if_neg (List.cons_ne_nil r rules)]

end Liveness.Log
