import Liveness.Proofs.Settings.Ports

/-! # A file and variables that say the same

* `Key.written`, `tableHeader`: the names of the settings in a document.
* `holds_writeSection`: what a file holds that gives both settings.
* `load_agrees`: a file and variables with the same host and the same number are loaded alike.
-/

namespace Liveness.Settings
set_option autoImplicit false

/-! ## Both settings in a document -/

/-- The name of a setting in a document. -/
def Key.written (key : Key) : Toml.BareKey where
  text := key.name.toList
  ne_nil := by cases key <;> decide
  isWordChar := List.all_eq_true.1 (by cases key <;> decide)

/-- The name of the table of the settings in a document. -/
def tableHeader : Toml.BareKey where
  text := Key.table.toList
  ne_nil := by decide
  isWordChar := List.all_eq_true.1 (by decide)

theorem Key.name_written (key : Key) : key.written.name = key.name := String.ofList_toList

theorem name_tableHeader : tableHeader.name = Key.table := String.ofList_toList

/-- A file whose integers are words of 64 bits holds what its lines give. -/
theorem holds_writeSection {folder : Folder} {env : Environment}
    {assignments : List Toml.Assignment} (distinct : (assignments.map (·.key.name)).Nodup)
    (bounded : ∀ a ∈ assignments, ∀ n, a.value = .integer n → Decimal.isSigned n = true)
    (file : folder.file? (Folder.fileName env) =
      some (String.ofList (Toml.writeSection tableHeader assignments)).toUTF8) :
    ∃ members : Members, (members.map (·.1)).Nodup ∧
      folder.Holds env [(Key.table, .table members)] ∧
      ∀ a ∈ assignments, ∀ d, a.value.datum? = some d → members.lookup a.key.name = some d := by
  have given : ∀ a ∈ assignments, (a.member?).isSome = true := by
    intro a ha
    rw [Toml.Assignment.member?, Option.isSome_map]
    exact Toml.Literal.isSome_datum? (bounded a ha)
  obtain ⟨members, read, all⟩ := Toml.Assignment.exists_of_mapM given
  have nodup : (members.map (·.1)).Nodup := by
    rwa [Toml.Assignment.map_fst_of_mapM read]
  have parsed : Toml.parse? (String.ofList (Toml.writeSection tableHeader assignments)).toList =
      some [(Key.table, .table members)] := by
    rw [String.toList_ofList, Toml.parse?_writeSection tableHeader distinct, read, name_tableHeader]
    rfl
  refine ⟨members, nodup, .present file (Text.fromUTF8?_toUTF8 _) parsed, fun a ha d hd => ?_⟩
  have written : a.member? = some (a.key.name, d) := by
    rw [Toml.Assignment.member?, hd]
    rfl
  exact lookup_of_mem nodup (all a ha _ written)

theorem inDocument?_of_lookup {members : Members} {key : Key} {d : Datum}
    (found : members.lookup key.name = some d) (value : givesValue d = true) :
    key.inDocument? [(Key.table, .table members)] = some d := by
  show (members.lookup key.name).filter givesValue = some d
  rw [found, Option.filter_some, if_pos value]

/-! ## Integers as texts -/

namespace Decode

theorem denotes_ofInt {n : Int} (positive : 0 ≤ n) (signed : Decimal.isSigned n = true) :
    Denotes (String.ofList (Decimal.ofInt n)).toList n.toNat := by
  refine unsignedText?_eq_some_iff.1 ?_
  obtain ⟨k, rfl⟩ := Int.eq_ofNat_of_zero_le positive
  have high : (k : Int) < Decimal.signedLimit := of_decide_eq_true (Bool.and_eq_true_iff.1 signed).2
  have limit : Decimal.signedLimit < Decimal.unsignedLimit := by decide
  exact unsignedText?_ofNat (Nat.lt_trans (Int.ofNat_lt.1 high) limit)

theorem not_denotes_ofInt {n : Int} (negative : n < 0) (m : Nat) :
    ¬Denotes (String.ofList (Decimal.ofInt n)).toList m := by
  rw [← unsignedText?_eq_some_iff, unsignedText?, String.toList_ofList]
  cases n with
  | ofNat k => exact absurd negative (Int.not_lt.2 (Int.natCast_nonneg k))
  | negSucc k =>
    have digit : ∀ c ∈ Decimal.ofNat (k + 1), c.isDigit = true :=
      fun _ => Decimal.isDigit_of_mem_ofNat
    rw [Decimal.ofInt, switch?_of_sign (.inr rfl) digit, Option.none_or,
      readUnsigned?_of_ne (by simp), filter_read?_eq_some_iff]
    rintro ⟨⟨-, all, -⟩, -⟩
    cases all '-' List.mem_cons_self

end Decode

/-! ## Agreement -/

/-- A document and variables that give the same text as the host and the same integer as the port are
loaded alike: the host is the text, and the port has the lowest 16 bits of the integer; if that is
negative, both are refused for the type of the port. In the document the text may be spelled in any
way, and other lines may stand between the two. -/
theorem load_agrees {h : String} {spelled : List Char} (spells : Toml.Quotation.Spells h.toList spelled)
    {n : Int} {filed : Folder} {others : Variables} {env : Environment}
    (selected : environment others = .ok env) (free : ∀ key, ¬others.Overrides key)
    {assignments : List Toml.Assignment} (distinct : (assignments.map (·.key.name)).Nodup)
    (bounded : ∀ a ∈ assignments, ∀ n, a.value = .integer n → Decimal.isSigned n = true)
    (host : ⟨Key.host.written, .text h.toList spelled spells⟩ ∈ assignments)
    (port : ⟨Key.port.written, .integer n⟩ ∈ assignments)
    (file : filed.file? (Folder.fileName env) =
      some (String.ofList (Toml.writeSection tableHeader assignments)).toUTF8)
    {bare : Folder} {vars : Variables} {env' : Environment} (selected' : environment vars = .ok env')
    (nothing : bare.Holds env' []) (settled : ∀ key, vars.Settles key)
    (hostVariable : vars.given? .host = some h)
    (portVariable : vars.given? .port = some (String.ofList (Decimal.ofInt n))) :
    (0 ≤ n → ∃ port : UInt16, (port.toNat : Int) = n % 2 ^ 16 ∧
      load filed others = .ok ⟨h, port⟩ ∧ load bare vars = .ok ⟨h, port⟩) ∧
    (n < 0 → load filed others = .error (.mismatch "application.port"
        ⟨.scalar (.integer n), .unsigned, some (filed.source env)⟩) ∧
      load bare vars = .error (.mismatch "application.port"
        ⟨.scalar (.text (String.ofList (Decimal.ofInt n))), .integer, some .vars⟩)) := by
  have signed : Decimal.isSigned n = true := bounded _ port n rfl
  obtain ⟨members, nodup, held, given⟩ := holds_writeSection distinct bounded file
  have layer := isLayer_table nodup
  -- the settings in the document
  have hostText : members.lookup Key.host.name = some (.text h) := by
    rw [← Key.name_written]
    refine given _ host _ ?_
    rw [Toml.Literal.datum?, String.ofList_toList]
  have portInteger : members.lookup Key.port.name = some (.integer n) := by
    rw [← Key.name_written]
    refine given _ port _ ?_
    rw [Toml.Literal.datum?, Toml.Scalar.bounded?, signed]
    rfl
  have settles : ∀ key, others.Settles key := fun key => Variables.settles_of_not_overrides (free key)
  have fileHost := Key.winner_of_not_overrides (free .host) (inDocument?_of_lookup hostText rfl)
    (filed.source env)
  have filePort := Key.winner_of_not_overrides (free .port) (inDocument?_of_lookup portInteger rfl)
    (filed.source env)
  -- the settings among the variables
  have variableHost := Key.winner_of_given hostVariable (bare.source env') []
  have variablePort := Key.winner_of_given portVariable (bare.source env') []
  constructor
  · intro positive
    refine ⟨UInt16.ofNat n.toNat, ?_, ?_, ?_⟩
    · rw [UInt16.toNat_ofNat']
      omega
    · exact load_of_port selected held layer settles ⟨_, fileHost⟩ filePort
        (Decode.port_of_integer positive _)
    · exact load_of_port selected' nothing isLayer_nil settled ⟨_, variableHost⟩ variablePort
        (Decode.port_of_denotes (Decode.denotes_ofInt positive signed) _)
  · intro negative
    constructor
    · exact load_of_refused_port selected held layer settles ⟨_, fileHost⟩ filePort
        (Decode.port_of_negative negative _)
    · exact load_of_refused_port selected' nothing isLayer_nil settled ⟨_, variableHost⟩ variablePort
        (Decode.port_of_not_denotes (Decode.not_denotes_ofInt negative) _)

/-- A host with blanks at both ends, both characters that are written behind a backslash, one that is
written as its code point, and one outside of ASCII. -/
def oddHost : String := " \x22\x5c\x01é\t"

/-- Lines with that host behind a port and a text that is no setting. -/
def oddLines : List Toml.Assignment :=
  [⟨Key.port.written, .integer 65535⟩, ⟨tableHeader, .text [] [] .nil⟩,
    ⟨Key.host.written, .text oddHost.toList _ (Toml.Quotation.spells_write _)⟩]

/-- A folder with a file of these lines. -/
def oddFolder : Folder :=
  localFolder (String.ofList (Toml.writeSection tableHeader oddLines)).toUTF8

/-- Variables with the same host and port. -/
def oddVariables : Variables := [("APP_APPLICATION__PORT", "65535"), ("APP_APPLICATION__HOST", oddHost)]

theorem load_agrees_odd :
    load oddFolder [] = .ok ⟨oddHost, 65535⟩ ∧
      load emptyFolder oddVariables = .ok ⟨oddHost, 65535⟩ := by
  have spells := Toml.Quotation.spells_write oddHost.toList
  have development : environment [] = .ok .development := environment_of_not_mem (by decide)
  have development' : environment oddVariables = .ok .development :=
    environment_of_not_mem (by decide)
  have free (key : Key) : ¬Variables.Overrides [] key := fun ⟨_, mem, _⟩ => nomatch mem
  have settled : ∀ key, oddVariables.Settles key :=
    Variables.settles_of_known (by decide) (by decide)
  have bounded : ∀ a ∈ oddLines, ∀ n, a.value = .integer n → Decimal.isSigned n = true := by
    intro a ha n value
    simp only [oddLines, List.mem_cons, List.not_mem_nil, or_false] at ha
    obtain rfl | rfl | rfl := ha <;> cases value
    decide
  have host : ⟨Key.host.written, .text oddHost.toList _ spells⟩ ∈ oddLines :=
    List.mem_cons_of_mem _ (List.mem_cons_of_mem _ List.mem_cons_self)
  have port : ⟨Key.port.written, .integer 65535⟩ ∈ oddLines := List.mem_cons_self
  have file : oddFolder.file? (Folder.fileName .development) = some _ := rfl
  have read : oddVariables.given? .port = some (String.ofList (Decimal.ofInt 65535)) := by
    decide +kernel
  obtain ⟨loaded, -⟩ := load_agrees spells development free (by decide) bounded host port file
    development' (emptyFolder_holds _) settled rfl read
  obtain ⟨p, number, both⟩ := loaded (by decide)
  obtain rfl : p = 65535 := UInt16.toNat_inj.1 (Int.ofNat.inj number)
  exact both

end Liveness.Settings
