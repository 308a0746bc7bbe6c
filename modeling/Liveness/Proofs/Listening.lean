import Liveness.Host
import Liveness.Proofs.Settings.Addresses

/-! # Listening on the address of settings

* `Net.Target.read_address`: the address of settings asks for their host and their port.
* `Net.listenOn_pure`: a system that only answers gives the same in any program.
* `Host.of_bind`: what a host listens on for the address of settings has their port.
-/

namespace Liveness
set_option autoImplicit false

open Settings (Application)

namespace Net

/-! ## Addresses -/

section
variable (port : UInt16)

theorem filter_toNat : (some port.toNat).filter (· < UInt16.size) = some port.toNat :=
  Option.filter_some_pos (decide_eq_true port.toNat_lt)

theorem Target.port?_ofNat : port? (Decimal.ofNat port.toNat) = some port := by
  have small : port.toNat < Decimal.unsignedLimit := Nat.lt_trans port.toNat_lt (by decide)
  rw [port?, Decimal.readUnsigned?_ofNat small, filter_toNat, Option.map_some, UInt16.ofNat_toNat]

end

/-- A host may hold colons itself: the last one of the address is that in front of the port. -/
theorem cut_address (a : Application) :
    Text.splitLast? ':' a.address.toList =
      some (a.host.toList, Decimal.ofNat a.port.toNat) := by
  obtain ⟨port, split, numeral⟩ := Application.address_eq_iff.1 (rfl : a.address = a.address)
  rw [split, numeral.eq_ofNat]

theorem Endpoint.read?_address (a : Application) :
    read? a.address.toList = (Ip.literal? a.host.toList).map (⟨·, a.port⟩) := by
  have port : ((Decimal.read? (Decimal.ofNat a.port.toNat)).filter (· < UInt16.size)) =
      some a.port.toNat := by
    rw [Decimal.read?_ofNat, filter_toNat]
  simp only [read?, cut_address, port, Option.bind_eq_bind, Option.bind_some,
    UInt16.ofNat_toNat, Option.map_eq_bind, Function.comp_def]

/-- An address asks for an endpoint of its host, if that spells one out, and else for its name, which
may hold no zero. -/
theorem Target.read_address (a : Application) :
    read a.address.toList =
      match Ip.literal? a.host.toList with
      | some ip => .ok (.endpoint ⟨ip, a.port⟩)
      | none =>
        if '\x00' ∈ a.host.toList then
          .error (.invalid "file name contained an unexpected NUL byte")
        else .ok (.host a.host a.port) := by
  rw [read, Endpoint.read?_address]
  cases Ip.literal? a.host.toList with
  | some ip => rfl
  | none =>
    rw [Option.map_none, cut_address]
    dsimp only
    rw [port?_ofNat]
    dsimp only
    rw [String.ofList_toList]

/-! ## Systems that only answer -/

section
variable {m : Type → Type} [Monad m] [LawfulMonad m] {Listener : Type}
  (listen : Endpoint → Except OsError Listener)

theorem listenFirst_pure (error : BindError) (es : List Endpoint) :
    listenFirst (m := m) (fun e => pure (listen e)) error es =
      pure (Id.run (listenFirst (fun e => pure (listen e)) error es)) := by
  induction es generalizing error with
  | nil => rfl
  | cons e es ih =>
    rw [listenFirst, listenFirst, pure_bind, pure_bind]
    cases listen e with
    | ok listener => rfl
    | error refused => exact ih _

theorem listenOn_pure (lookup : String → Except BindError (List Ip)) (address : String) :
    listenOn (m := m) (fun e => pure (listen e)) (fun name => pure (lookup name)) address =
      pure (Id.run (listenOn (fun e => pure (listen e)) (fun name => pure (lookup name)) address)) := by
  rw [listenOn, listenOn]
  cases Target.read address.toList with
  | error e => rfl
  | ok target =>
    cases target with
    | endpoint e => exact listenFirst_pure listen _ _
    | host name port =>
      dsimp only
      rw [pure_bind, pure_bind]
      cases lookup name with
      | error e => rfl
      | ok ips => exact listenFirst_pure listen _ _

end
end Net

/-! ## Hosts -/

namespace Host
open Net

variable {host : Host}

theorem listenOn_system (host : Host) (address : String) :
    listenOn host.system.listen host.system.lookup address = pure (host.bind address) :=
  listenOn_pure host.grant host.lookup address

theorem of_listenFirst {error : BindError} {es : List Endpoint} {asked : Endpoint}
    (h : Id.run (listenFirst (fun e => pure (host.grant e)) error es) = .ok asked) :
    asked ∈ es ∧ host.listen asked = .ok () := by
  induction es generalizing error with
  | nil => cases h
  | cons e es ih =>
    rw [listenFirst, pure_bind, grant] at h
    cases granted : host.listen e with
    | ok =>
      rw [granted] at h
      cases h
      exact ⟨List.mem_cons_self, granted⟩
    | error refused =>
      rw [granted] at h
      obtain ⟨mem, listens⟩ := ih h
      exact ⟨List.mem_cons_of_mem _ mem, listens⟩

/-- The port of what has been asked for is that of the settings, whichever of the addresses of the host
is taken. -/
theorem of_bind {a : Application} {asked : Endpoint} (h : host.bind a.address = .ok asked) :
    asked.port = a.port ∧ host.listen asked = .ok () := by
  rw [bind, listenOn, Target.read_address] at h
  cases literal : Ip.literal? a.host.toList with
  | some ip =>
    rw [literal] at h
    obtain ⟨mem, listens⟩ := of_listenFirst h
    rw [List.mem_singleton.1 mem] at listens ⊢
    exact ⟨rfl, listens⟩
  | none =>
    rw [literal] at h
    by_cases zero : '\x00' ∈ a.host.toList
    · rw [if_pos zero] at h
      cases h
    · rw [if_neg zero] at h
      dsimp only at h
      rw [pure_bind] at h
      cases found : host.lookup a.host with
      | error e =>
        rw [found] at h
        cases h
      | ok ips =>
        -- Each address of the host is asked for with the same port.
        rw [found] at h
        obtain ⟨mem, listens⟩ := of_listenFirst h
        obtain ⟨ip, -, rfl⟩ := List.mem_map.1 mem
        exact ⟨rfl, listens⟩

end Host
end Liveness
