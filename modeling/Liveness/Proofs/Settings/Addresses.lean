import Liveness.Proofs.Number.Numerals
import Liveness.Settings.Application
import Liveness.Text.Cut

/-! # Addresses that are taken apart

* `Application.address_eq_iff`: the address of settings is the one text that is cut at its last colon
  into their host and the numeral of their port.
* `Application.splitLast?_address`: no other settings have this address.
-/

namespace Liveness.Settings.Application
set_option autoImplicit false

/-! ## Addresses -/

theorem colon_not_mem_ofNat (n : Nat) : ':' ∉ Decimal.ofNat n := by
  intro h
  cases Decimal.isDigit_of_mem_ofNat h

theorem toList_address (a : Application) :
    a.address.toList = a.host.toList ++ ':' :: Decimal.ofNat a.port.toNat := by
  rw [address, String.toList_ofList]

/-- A host may hold colons and end with digits: a numeral holds no colon, so the last one of an address
is the one in front of the port. -/
theorem address_eq_iff {a : Application} {text : String} :
    a.address = text ↔
      ∃ port, Text.splitLast? ':' text.toList = some (a.host.toList, port) ∧
        Decimal.IsNumeral a.port.toNat port := by
  constructor
  · rintro rfl
    refine ⟨Decimal.ofNat a.port.toNat, ?_, Decimal.isNumeral_ofNat _⟩
    rw [toList_address]
    exact Text.splitLast?_append _ (colon_not_mem_ofNat _)
  · rintro ⟨port, split, numeral⟩
    obtain rfl := numeral.eq_ofNat
    apply String.toList_injective
    rw [toList_address]
    exact (Text.append_of_splitLast? split).1.symm

/-- The address of settings is taken apart at its last colon into their host and the one numeral of
their port, so no other settings have it. -/
theorem splitLast?_address (a : Application) :
    (∃ port, Text.splitLast? ':' a.address.toList = some (a.host.toList, port) ∧
        ∀ digits, Decimal.IsNumeral a.port.toNat digits ↔ digits = port) ∧
      ∀ b : Application, a.address = b.address ↔ a.host = b.host ∧ a.port = b.port := by
  obtain ⟨port, split, numeral⟩ := address_eq_iff.1 (rfl : a.address = a.address)
  refine ⟨⟨port, split, fun digits => ?_⟩, fun b => ?_⟩
  · rw [numeral.eq_ofNat]
    exact Decimal.isNumeral_iff
  · constructor
    · intro same
      obtain ⟨port', split', numeral'⟩ := address_eq_iff.1 same.symm
      rw [split, Option.some.injEq, Prod.mk.injEq] at split'
      obtain ⟨host, rfl⟩ := split'
      have number := numeral.read.symm.trans numeral'.read
      exact ⟨String.toList_injective host, UInt16.toNat_inj.1 (Option.some.inj number)⟩
    · rintro ⟨host, port⟩
      rw [address, address, host, port]

example : Text.splitLast? ':' (address ⟨"::1", 7070⟩).toList =
    some ("::1".toList, "7070".toList) := by decide

end Liveness.Settings.Application
