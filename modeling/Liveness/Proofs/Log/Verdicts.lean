import Liveness.Proofs.Log.Rules

/-! # The most specific rule decides

* `Rule.Decides`: the longest rule about a target, the last one that has its word.
* `Rule.find?_placed_iff`: the first directive about a target is the one of the rule that decides.
* `Recorder.step_of_rules`: what a step writes is up to that rule.
* `Recorder.output_of_agrees`: filters that let the same through write the same.
* `run_make_write`: what a program writes under rules, and that the order of rules about different
  words is of no account.
-/

namespace Liveness.Log
set_option autoImplicit false

namespace Rule

/-! ## The rule that decides -/

/-- Whether the rule is about a target. -/
def About (r : Rule) (target : String) : Prop := r.target.toList <+: target.toList

instance (r : Rule) (target : String) : Decidable (r.About target) :=
  inferInstanceAs (Decidable (_ <+: _))

/-- The rule that decides about a target: none about it is longer, and of those with the same word
it is the last. -/
structure Decides (rules : List Rule) (target : String) (r : Rule) : Prop where
  about : r.About target
  last : (rules.filter (·.target = r.target)).getLast? = some r
  longest : ∀ q ∈ rules, q.About target → q.target.length ≤ r.target.length

theorem target_eq_of_length {q r : Rule} {target : String} (hq : q.About target)
    (hr : r.About target) (h : q.target.length = r.target.length) : q.target = r.target := by
  have inside := List.prefix_of_prefix_length_le hq hr (Nat.le_of_eq h)
  exact String.toList_inj.1 (inside.eq_of_length h)

theorem Decides.mem {rules : List Rule} {target : String} {r : Rule} (h : Decides rules target r) :
    r ∈ rules := (List.mem_filter.1 (List.mem_of_getLast? h.last)).1

theorem Decides.unique {rules : List Rule} {target : String} {q r : Rule}
    (hq : Decides rules target q) (hr : Decides rules target r) : q = r := by
  have length := Nat.le_antisymm (hr.longest q hq.mem hq.about) (hq.longest r hr.mem hr.about)
  have last := hq.last
  rw [target_eq_of_length hq.about hr.about length, hr.last] at last
  exact (Option.some.inj last).symm

theorem concerns_directive (r : Rule) (site : Site) :
    r.directive.concerns site = true ↔ r.About site.target := by
  have field : r.directive.hasField site = true := rfl
  rw [Directive.concerns, field, Bool.or_true, Bool.and_true, Directive.hasTarget, directive, About]
  by_cases bare : r.target = ""
  · rw [if_pos bare, bare]
    simp
  · rw [if_neg bare, Option.all_some, List.isPrefixOf_iff_prefix]

theorem sameKey_directive (q r : Rule) :
    q.directive.sameKey r.directive = decide (q.target = r.target) := by
  by_cases hq : q.target = "" <;> by_cases hr : r.target = "" <;>
    simp [Directive.sameKey, directive, hq, hr, eq_comm]

theorem targetLength_directive (r : Rule) :
    r.directive.targetLength = if r.target = "" then 0 else r.target.length + 1 := by
  rw [Directive.targetLength, directive]
  split_ifs <;> rfl

theorem targetLength_directive_le_iff (q r : Rule) :
    q.directive.targetLength ≤ r.directive.targetLength ↔ q.target.length ≤ r.target.length := by
  have empty (r : Rule) : r.target = "" ↔ r.target.length = 0 := String.length_eq_zero_iff.symm
  rw [targetLength_directive, targetLength_directive]
  split_ifs with hq hr hr
  all_goals
    rw [empty] at hq hr
    omega

theorem directive_injective : Function.Injective directive := by
  intro q r h
  have key : q.directive.sameKey r.directive = true := h ▸ Directive.sameKey_refl _
  rw [sameKey_directive] at key
  have target : q.target = r.target := of_decide_eq_true key
  have limit : q.limit = r.limit := congrArg Directive.limit h
  cases q
  cases r
  cases target
  cases limit
  rfl

variable {rules : List Rule} {r : Rule} {site : Site}

theorem directive_mem_placed : r.directive ∈ Filter.placed (rules.map directive) ↔
    (rules.filter (·.target = r.target)).getLast? = some r := by
  have same : (rules.map directive).filter (·.sameKey r.directive) =
      (rules.filter (·.target = r.target)).map directive := by
    rw [List.filter_map]
    exact congrArg _ (List.filter_congr fun q _ => sameKey_directive q r)
  rw [Filter.mem_placed, same, List.getLast?_map, ← Option.map_some,
    (Option.map_injective directive_injective).eq_iff]

theorem exists_of_mem_placed {d : Directive} (h : d ∈ Filter.placed (rules.map directive)) :
    ∃ r : Rule, r.directive = d := by
  have last := List.mem_of_getLast? (Filter.mem_placed.1 h)
  obtain ⟨r, -, hr⟩ := List.mem_map.1 (List.mem_filter.1 last).1
  exact ⟨r, hr⟩

/-- Of each word that rules have, one is the last. -/
theorem exists_last {q : Rule} (hq : q ∈ rules) : ∃ r, r.target = q.target ∧
    (rules.filter (·.target = r.target)).getLast? = some r := by
  have some' : rules.filter (·.target = q.target) ≠ [] :=
    List.ne_nil_of_mem (List.mem_filter.2 ⟨hq, decide_eq_true rfl⟩)
  obtain ⟨r, hr⟩ := Option.isSome_iff_exists.1 (List.getLast?_isSome.2 some')
  have word : r.target = q.target :=
    of_decide_eq_true (List.mem_filter.1 (List.mem_of_getLast? hr)).2
  exact ⟨r, word, word ▸ hr⟩

theorem decides_of_find? (first : (Filter.placed (rules.map directive)).find? (·.concerns site) =
    some r.directive) : Decides rules site.target r where
  about := by
    have concerned := List.find?_some first
    exact (concerns_directive r site).1 concerned
  last := directive_mem_placed.1 (List.mem_of_find?_eq_some first)
  longest q hq about := by
    -- The directive of `q` may have been replaced, but then by one with the same word.
    obtain ⟨r', word, last⟩ := exists_last hq
    have about' : r'.About site.target := by rwa [About, word]
    have length := Filter.targetLength_le_of_find? (Filter.ordered_placed _) first
      (directive_mem_placed.2 last) ((concerns_directive r' site).2 about')
    rw [targetLength_directive_le_iff, word] at length
    exact length

/-- The first directive about a site is that of the rule that decides. -/
theorem find?_placed_iff {d : Directive} :
    (Filter.placed (rules.map directive)).find? (·.concerns site) = some d ↔
      ∃ r, r.directive = d ∧ Decides rules site.target r := by
  constructor
  · intro first
    obtain ⟨r, rfl⟩ := exists_of_mem_placed (List.mem_of_find?_eq_some first)
    exact ⟨r, rfl, decides_of_find? first⟩
  · rintro ⟨r, rfl, decides⟩
    have found : ((Filter.placed (rules.map directive)).find? (·.concerns site)).isSome = true :=
      List.find?_isSome.2 ⟨r.directive, directive_mem_placed.2 decides.last,
        (concerns_directive r site).2 decides.about⟩
    obtain ⟨d, first⟩ := Option.isSome_iff_exists.1 found
    obtain ⟨q, rfl⟩ := exists_of_mem_placed (List.mem_of_find?_eq_some first)
    rw [first, (decides_of_find? first).unique decides]

theorem admitsFixed_iff :
    (Filter.flat (Filter.placed (rules.map directive))).admitsFixed site = true ↔
      ∃ r, Decides rules site.target r ∧ r.limit.admits site.level = true := by
  rw [Filter.admitsFixed, Filter.flat]
  cases first : (Filter.placed (rules.map directive)).find? (·.concerns site) with
  | none =>
    refine iff_of_false Bool.false_ne_true ?_
    rintro ⟨r, decides, -⟩
    rw [find?_placed_iff.2 ⟨r, rfl, decides⟩] at first
    cases first
  | some d =>
    obtain ⟨r, rfl, decides⟩ := find?_placed_iff.1 first
    constructor
    · exact fun admitted => ⟨r, decides, admitted⟩
    · rintro ⟨q, hq, admitted⟩
      rwa [hq.unique decides] at admitted

/-- Rules that have the same rules for each word, in the same order, decide alike. -/
theorem Decides.of_filter_eq {others : List Rule} {target : String}
    (same : ∀ word, rules.filter (·.target = word) = others.filter (·.target = word))
    (h : Decides rules target r) : Decides others target r where
  about := h.about
  last := same r.target ▸ h.last
  longest q hq about := by
    have own : q ∈ others.filter (·.target = q.target) :=
      List.mem_filter.2 ⟨hq, decide_eq_true rfl⟩
    rw [← same] at own
    exact h.longest q (List.mem_filter.1 own).1 about

theorem inForce_filter_eq {others : List Rule}
    (same : ∀ word, rules.filter (·.target = word) = others.filter (·.target = word)) :
    ∀ word,
      (inForce rules).filter (·.target = word) = (inForce others).filter (·.target = word) := by
  have empty {some' none' : List Rule}
      (h : ∀ word, some'.filter (·.target = word) = none'.filter (·.target = word))
      (hn : none' = []) : some' = [] := by
    refine List.eq_nil_iff_forall_not_mem.2 fun q hq => ?_
    have own : q ∈ some'.filter (·.target = q.target) :=
      List.mem_filter.2 ⟨hq, decide_eq_true rfl⟩
    rw [h, hn] at own
    cases own
  intro word
  unfold inForce
  by_cases none : others = []
  · rw [if_pos none, if_pos (empty same none)]
  · have some' : rules ≠ [] := fun h => none (empty (fun word => (same word).symm) h)
    rw [if_neg none, if_neg some', same]

theorem agrees_of_filter_eq {others : List Rule}
    (same : ∀ word, rules.filter (·.target = word) = others.filter (·.target = word)) :
    (Filter.flat (Filter.placed (rules.map directive))).Agrees
      (.flat (Filter.placed (others.map directive))) := by
  refine Filter.agrees_flat fun site => Bool.eq_iff_iff.2 ?_
  rw [admitsFixed_iff, admitsFixed_iff]
  refine exists_congr fun r => and_congr_left fun _ => ⟨.of_filter_eq same, .of_filter_eq ?_⟩
  exact fun word => (same word).symm

end Rule

/-! ## What a step writes -/

/-- The level and the target that a step is judged by. -/
def Step.subject? : Step → Option (Level × String)
  | .event level target _ _ => some (level, target)
  | .enter level target _ _ => some (level, target)
  | .message level target _ => some (level, target)
  | .exit => none

namespace Recorder

/-- What a step writes that is let through; for a span it is the record of its start. -/
def recordOf (r : Recorder) : Step → List Record
  | .event level target text fields => [r.eventRecord level target (text.getD target) fields]
  | .enter level target name fields =>
    [r.spanRecord (r.entered level target name fields) "START" []]
  | .message level target text =>
    [r.eventRecord level messageTarget text [(messageField, .text target)]]
  | .exit => []

variable {r : Recorder} {s : Step} {level : Level} {target : String}

theorem step_of_flat {fixed : List Directive} (h : r.filter = .flat fixed)
    (judged : s.subject? = some (level, target)) : ∃ site : Site,
      site.level = level ∧ site.target = target ∧
      (r.step s).2 = if r.filter.admitsFixed site then r.recordOf s else [] := by
  cases s with
  | event level' target' text fields =>
    cases judged
    refine ⟨eventSite level target text fields, rfl, rfl, ?_⟩
    rw [step_event, h, Filter.admitsEvent_flat]
    rfl
  | message level' target' text =>
    cases judged
    refine ⟨messageSite level target, rfl, rfl, ?_⟩
    rw [step_message, h, Filter.admitsEvent_flat]
    rfl
  | enter level' target' name fields =>
    cases judged
    refine ⟨⟨some name, level, target, fields.names⟩, rfl, rfl, ?_⟩
    rw [step_enter, admits, h, Filter.admitsSpan_flat]
    split <;> rfl
  | exit => cases judged

theorem step_of_rules {rules : List Rule}
    (h : r.filter = .flat (Filter.placed (rules.map Rule.directive)))
    (judged : s.subject? = some (level, target)) :
    let admitted := ∃ rule, Rule.Decides rules target rule ∧ rule.limit.admits level = true
    (admitted → (r.step s).2 = r.recordOf s) ∧ (¬admitted → (r.step s).2 = []) := by
  obtain ⟨site, rfl, rfl, written⟩ := step_of_flat h judged
  rw [written, h]
  constructor
  · exact fun admitted => if_pos (Rule.admitsFixed_iff.2 admitted)
  · exact fun refused => if_neg fun admitted => refused (Rule.admitsFixed_iff.1 admitted)

/-! ## Runs under filters that agree -/

theorem filter_step (r : Recorder) (s : Step) : (r.step s).1.filter = r.filter := by
  cases s with
  | event level target text fields => rfl
  | message level target text => rfl
  | enter level target name fields =>
    rw [step_enter]
    split <;> rfl
  | exit =>
    show r.exit.1.filter = r.filter
    unfold exit
    split <;> rfl

theorem filter_run (r : Recorder) (steps : List Step) : (r.run steps).1.filter = r.filter := by
  induction steps generalizing r with
  | nil => rfl
  | cons s steps ih => rw [run_cons, ih, filter_step]

/-- A recorder with another filter. -/
def withFilter (r : Recorder) (f : Filter) : Recorder := { r with filter := f }

variable {f g : Filter}

theorem step_withFilter (same : f.Agrees g) {r : Recorder} (h : r.filter = f) (s : Step) :
    (r.withFilter g).step s = ((r.step s).1.withFilter g, (r.step s).2) := by
  subst h
  cases s with
  | event level target text fields =>
    rw [step_event, step_event, same.event]
    rfl
  | message level target text =>
    rw [step_message, step_message, same.event]
    rfl
  | enter level target name fields =>
    have entered : (r.withFilter g).entered level target name fields =
        r.entered level target name fields := by
      rw [Recorder.entered, Recorder.entered, same.scope]
      rfl
    have admits : (r.withFilter g).admits level target name fields =
        r.admits level target name fields := by
      rw [Recorder.admits, Recorder.admits, same.span]
      rfl
    rw [step_enter, step_enter, entered, admits]
    split <;> rfl
  | exit =>
    cases hs : r.spans with
    | nil => rw [step_exit_of_nil hs, step_exit_of_nil (r := r.withFilter g) hs]
    | cons span spans =>
      rw [eq_within_of_spans hs, step_exit_within]
      rfl

theorem run_withFilter (same : f.Agrees g) {r : Recorder} (h : r.filter = f) (steps : List Step) :
    (r.withFilter g).run steps = ((r.run steps).1.withFilter g, (r.run steps).2) := by
  induction steps generalizing r with
  | nil => rfl
  | cons s steps ih =>
    have behind : (r.step s).1.filter = f := (filter_step r s).trans h
    rw [run_cons, run_cons, step_withFilter same h, ih behind]

theorem output_of_agrees (same : f.Agrees g) {r : Recorder} (h : r.filter = f)
    (steps : List Step) : (r.withFilter g).output steps = r.output steps := by
  rw [output, output, run_withFilter same h]
  rfl

end Recorder

/-! ## The log of a program -/

theorem Recorder.filter_make_write (name : String) (rules : List Rule) :
    (make name (Rule.write rules) none).filter =
      .flat (Filter.placed ((Rule.inForce rules).map Rule.directive)) := Filter.ofText_write rules

/-- A step of a program is written if and only if the rule that decides about its target lets its
level through, whatever spans are open; a plain message is judged by its own target. Without rules,
errors are let through. The order of rules about different words is of no account. -/
theorem run_make_write (name : String) (rules : List Rule) (steps : List Step) :
    let r := Recorder.make name (Rule.write rules) none
    (∀ (before after : List Step) (s : Step) (level : Level) (target : String),
      steps = before ++ s :: after → s.subject? = some (level, target) →
        let written := (r.run steps).2[before.length]?
        let admitted := ∃ rule, Rule.Decides (Rule.inForce rules) target rule ∧
          rule.limit.admits level = true
        (admitted → written = some ((r.run before).1.recordOf s)) ∧
          (¬admitted → written = some [])) ∧
      ∀ others : List Rule,
        (∀ word, rules.filter (·.target = word) = others.filter (·.target = word)) →
          (Recorder.make name (Rule.write others) none).output steps = r.output steps := by
  intro r
  constructor
  · intro before after s level target split judged written admitted
    have filter : (r.run before).1.filter = _ :=
      (Recorder.filter_run r before).trans (Recorder.filter_make_write name rules)
    have there : written = some ((r.run before).1.step s).2 := by
      show (r.run steps).2[before.length]? = _
      rw [split, Recorder.getElem?_run]
    obtain ⟨shown, hidden⟩ := Recorder.step_of_rules filter judged
    rw [there]
    exact ⟨fun h => congrArg some (shown h), fun h => congrArg some (hidden h)⟩
  · intro others same
    have agrees := Rule.agrees_of_filter_eq (Rule.inForce_filter_eq same)
    have kept : Recorder.make name (Rule.write others) none =
        r.withFilter (Recorder.make name (Rule.write others) none).filter := rfl
    rw [kept, Recorder.filter_make_write]
    exact Recorder.output_of_agrees agrees (Recorder.filter_make_write name rules) steps

/-- Rules for a program and for a part of it, the latter given twice. -/
def programRules : List Rule :=
  [⟨"app::db", .downTo .trace, by decide⟩, ⟨"", .downTo .warn, by decide⟩, ⟨"app", .off, by decide⟩,
    ⟨"app::db", .downTo .debug, by decide⟩]

/-- The same rules, those of each word in the same order. -/
def sortedRules : List Rule :=
  [⟨"app", .off, by decide⟩, ⟨"app::db", .downTo .trace, by decide⟩,
    ⟨"app::db", .downTo .debug, by decide⟩, ⟨"", .downTo .warn, by decide⟩]

theorem run_make_write_program :
    let r := Recorder.make "test" (Rule.write programRules) none
    let steps : List Step :=
      [.enter .debug "app::db::pool" "query" [], .message .error "apple" "ripe", .exit]
    Rule.write programRules = "app::db=trace,warn,app=off,app::db=debug" ∧
      (r.run steps).2[0]?.map List.length = some 1 ∧ (r.run steps).2[1]? = some [] ∧
      (Recorder.make "test" (Rule.write sortedRules) none).output steps = r.output steps := by
  intro r steps
  have pool : Rule.Decides programRules "app::db::pool" ⟨"app::db", .downTo .debug, by decide⟩ :=
    ⟨by decide, by decide, by decide⟩
  have apple : Rule.Decides programRules "apple" ⟨"app", .off, by decide⟩ :=
    ⟨by decide, by decide, by decide⟩
  have sorted (word : String) :
      programRules.filter (·.target = word) = sortedRules.filter (·.target = word) := by
    by_cases part : "app::db" = word
    · subst part
      decide
    · by_cases whole : "app" = word
      · subst whole
        decide
      · simp [programRules, sortedRules, List.filter_cons, part, whole]
  obtain ⟨written, order⟩ := run_make_write "test" programRules steps
  refine ⟨by decide, ?_, ?_, order sortedRules sorted⟩
  · have started := (written [] _ _ .debug "app::db::pool" rfl rfl).1 ⟨_, pool, by decide⟩
    exact congrArg (Option.map List.length) started
  · refine (written [.enter .debug "app::db::pool" "query" []] _ _ .error "apple" rfl rfl).2 ?_
    rintro ⟨rule, decides, admitted⟩
    rw [decides.unique apple] at admitted
    cases admitted

end Liveness.Log
