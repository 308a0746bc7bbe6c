import Liveness.Log.Recorder
import Liveness.Proofs.Log.Placement

/-! # Filters of one level

* `Limit.word`, `Filter.bare`: a limit in a word, and the filter that such a word makes.
* `Filter.choose_word`: a program whose filter is a word gets that filter.
* `Filter.admitsEvent_bare`, `Filter.admitsSpan_bare`: what it lets through is a matter of the level
  alone, whatever spans are open.
-/

namespace Liveness.Log
set_option autoImplicit false

def Level.word : Level → String
  | error => "error"
  | warn => "warn"
  | info => "info"
  | debug => "debug"
  | trace => "trace"

def Limit.word : Limit → String
  | off => "off"
  | downTo level => level.word

namespace Filter

/-- The filter of a limit for all targets. -/
def bare (limit : Limit) : Filter := ⟨[⟨none, none, none, limit⟩], [], .off⟩

theorem choose_word (limit : Limit) : choose none limit.word = bare limit := by
  cases limit with
  | off => rfl
  | downTo level => cases level <;> rfl

variable (limit : Limit) (scopes : List Limit) (site : Site)

theorem bare_eq_flat : bare limit = flat [⟨none, none, none, limit⟩] := rfl

theorem admitsFixed_bare : (bare limit).admitsFixed site = limit.admits site.level := by
  have concerned : Directive.concerns ⟨none, none, none, limit⟩ site = true := by
    simp [Directive.concerns, Directive.hasTarget, Directive.hasField]
  have first : (bare limit).fixed.find? (·.concerns site) = some ⟨none, none, none, limit⟩ :=
    List.find?_cons_of_pos concerned
  rw [admitsFixed, first]

theorem admitsEvent_bare : (bare limit).admitsEvent scopes site = limit.admits site.level := by
  rw [bare_eq_flat, admitsEvent_flat, ← bare_eq_flat, admitsFixed_bare]

theorem admitsSpan_bare : (bare limit).admitsSpan scopes site = limit.admits site.level := by
  rw [bare_eq_flat, admitsSpan_flat, ← bare_eq_flat, admitsFixed_bare]

end Filter
end Liveness.Log
