/-! # Texts that are cut at a mark

* `splitLast?`: a text is cut at the last mark in it.
-/

namespace Liveness.Text
set_option autoImplicit false

/-- What stands in front of the last mark of a text and what stands behind it. -/
def splitLast? (mark : Char) : List Char → Option (List Char × List Char)
  | [] => none
  | c :: text =>
    match splitLast? mark text with
    | some (before, behind) => some (c :: before, behind)
    | none => if c = mark then some ([], text) else none

section
variable {mark : Char} {text before behind : List Char}

theorem splitLast?_eq_none_iff : splitLast? mark text = none ↔ mark ∉ text := by
  induction text with
  | nil => simp [splitLast?]
  | cons c text ih =>
    cases later : splitLast? mark text with
    | none => simp [splitLast?, later, ih.1 later, eq_comm]
    | some cut =>
      have mem : mark ∈ text := Decidable.not_not.1 fun absent => by
        rw [ih.2 absent] at later
        cases later
      simp [splitLast?, later, mem]

theorem splitLast?_append (before : List Char) (h : mark ∉ behind) :
    splitLast? mark (before ++ mark :: behind) = some (before, behind) := by
  induction before with
  | nil => simp [splitLast?, splitLast?_eq_none_iff.2 h]
  | cons c before ih => simp [splitLast?, ih]

theorem append_of_splitLast? (h : splitLast? mark text = some (before, behind)) :
    text = before ++ mark :: behind ∧ mark ∉ behind := by
  induction text generalizing before with
  | nil => cases h
  | cons c text ih =>
    cases later : splitLast? mark text with
    | none =>
      simp only [splitLast?, later, Option.ite_none_right_eq_some, Option.some.injEq,
        Prod.mk.injEq] at h
      obtain ⟨rfl, rfl, rfl⟩ := h
      exact ⟨rfl, splitLast?_eq_none_iff.1 later⟩
    | some cut =>
      simp only [splitLast?, later, Option.some.injEq, Prod.mk.injEq] at h
      obtain ⟨rfl, rfl⟩ := h
      obtain ⟨rfl, last⟩ := ih later
      exact ⟨rfl, last⟩

end
end Liveness.Text
