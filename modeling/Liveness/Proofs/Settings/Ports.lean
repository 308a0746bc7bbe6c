import Liveness.Proofs.Settings.Presence
import Liveness.Proofs.Toml.Written

/-! # Which values give a port

* `Decode.Denotes`: the texts that give a number.
* `load_eq_pair`: settings that are told apart are those of their highest layers.
* `Variables.settles_of_known`: the variables that the program knows leave each other alone.
* `load_port`: the port that the text of a variable or the integer of a document gives, and the values
  that are refused.
* `load_port_wrapped`: a number that is no port is taken for one.
-/

namespace Liveness.Settings
set_option autoImplicit false

namespace Decode

/-! ## Numbers as texts -/

/-- The texts that give a number: a word for one or for zero, letters in any case, and digits behind an
optional plus sign, up to 64 bits. -/
inductive Denotes : List Char → Nat → Prop
  | one {text : List Char}
    (word : String.ofList (Text.lowercase text) ∈ ["true", "on", "yes"]) : Denotes text 1
  | zero {text : List Char}
    (word : String.ofList (Text.lowercase text) ∈ ["false", "off", "no"]) : Denotes text 0
  | digits {text : List Char} (ne : text ≠ []) (digit : ∀ c ∈ text, c.isDigit = true)
    (small : Nat.ofDigitChars 10 text 0 < 2 ^ 64) : Denotes text (Nat.ofDigitChars 10 text 0)
  | plus {text : List Char} (ne : text ≠ []) (digit : ∀ c ∈ text, c.isDigit = true)
    (small : Nat.ofDigitChars 10 text 0 < 2 ^ 64) : Denotes ('+' :: text) (Nat.ofDigitChars 10 text 0)

theorem readUnsigned?_plus (text : List Char) :
    Decimal.readUnsigned? ('+' :: text) =
      (Decimal.read? text).filter (· < Decimal.unsignedLimit) := rfl

theorem readUnsigned?_of_ne {text : List Char} (h : text.head? ≠ some '+') :
    Decimal.readUnsigned? text = (Decimal.read? text).filter (· < Decimal.unsignedLimit) := by
  unfold Decimal.readUnsigned?
  dsimp only
  split
  · exact absurd rfl h
  · rfl

theorem filter_read?_eq_some_iff {text : List Char} {n : Nat} :
    (Decimal.read? text).filter (· < Decimal.unsignedLimit) = some n ↔
      (text ≠ [] ∧ (∀ c ∈ text, c.isDigit = true) ∧ Nat.ofDigitChars 10 text 0 = n) ∧ n < 2 ^ 64 := by
  rw [Option.filter_eq_some_iff, Decimal.read?_eq_some_iff, decide_eq_true_iff]
  rfl

theorem readUnsigned?_eq_some_iff {text : List Char} {n : Nat} :
    Decimal.readUnsigned? text = some n ↔
      ∃ digits, (text = digits ∨ text = '+' :: digits) ∧
        (digits ≠ [] ∧ (∀ c ∈ digits, c.isDigit = true) ∧ Nat.ofDigitChars 10 digits 0 = n) ∧
          n < 2 ^ 64 := by
  by_cases sign : text.head? = some '+'
  · obtain ⟨rest, rfl⟩ : ∃ rest, text = '+' :: rest := List.head?_eq_some_iff.1 sign
    rw [readUnsigned?_plus, filter_read?_eq_some_iff]
    constructor
    · exact fun read => ⟨rest, .inr rfl, read⟩
    · rintro ⟨digits, rfl | same, read⟩
      · cases read.1.2.1 '+' List.mem_cons_self
      · obtain rfl := (List.cons.inj same).2
        exact read
  · rw [readUnsigned?_of_ne sign, filter_read?_eq_some_iff]
    constructor
    · exact fun read => ⟨text, .inl rfl, read⟩
    · rintro ⟨digits, rfl | rfl, read⟩
      · exact read
      · exact absurd rfl sign

/-- A text with a sign is no word. -/
theorem switch?_of_sign {c : Char} {text : List Char} (sign : c = '+' ∨ c = '-')
    (digit : ∀ d ∈ text, d.isDigit = true) :
    switch? (String.ofList (Text.lowercase (c :: text))) = none := by
  have ascii : ∀ d ∈ c :: text, Text.isAscii d = true := by
    intro d hd
    obtain rfl | hd := List.mem_cons.1 hd
    · obtain rfl | rfl := sign <;> decide
    · have := (Decimal.code_of_isDigit (digit d hd)).2
      exact decide_eq_true (by omega)
  -- Every word begins with a letter.
  have apart {word : String} (letter : word.toList.head?.all Char.isLower = true) :
      String.ofList (Text.lowercase (c :: text)) ≠ word := by
    rintro rfl
    rw [Text.lowercase_of_ascii ascii, String.toList_ofList] at letter
    obtain rfl | rfl := sign <;> cases letter
  rw [switch?, if_neg, if_neg]
  · simp only [List.mem_cons, List.not_mem_nil, or_false, not_or]
    exact ⟨apart (by decide), apart (by decide), apart (by decide)⟩
  · simp only [List.mem_cons, List.not_mem_nil, or_false, not_or]
    exact ⟨apart (by decide), apart (by decide), apart (by decide)⟩

theorem switch?_eq_some_iff {s : String} {n : Nat} :
    switch? s = some n ↔
      (s ∈ ["true", "on", "yes"] ∧ n = 1) ∨ (s ∈ ["false", "off", "no"] ∧ n = 0) := by
  rw [switch?]
  split
  · next ones =>
    have other : s ∉ ["false", "off", "no"] := by
      simp only [List.mem_cons, List.not_mem_nil, or_false] at ones
      obtain rfl | rfl | rfl := ones <;> decide
    simp [ones, other, eq_comm]
  · next ones =>
    split
    · next zeros => simp [ones, zeros, eq_comm]
    · next zeros => simp [ones, zeros]

theorem unsignedText?_eq_some_iff {s : String} {n : Nat} :
    unsignedText? s = some n ↔ Denotes s.toList n := by
  rw [unsignedText?]
  constructor
  · intro h
    obtain word | ⟨-, read⟩ := Option.or_eq_some_iff.1 h
    · obtain ⟨one, rfl⟩ | ⟨zero, rfl⟩ := switch?_eq_some_iff.1 word
      · exact .one one
      · exact .zero zero
    · obtain ⟨digits, text, ⟨ne, digit, rfl⟩, small⟩ := readUnsigned?_eq_some_iff.1 read
      obtain text | text := text
      · rw [text]
        exact .digits ne digit small
      · rw [text]
        exact .plus ne digit small
  · intro h
    generalize s.toList = text at h
    cases h with
    | one word => rw [switch?_eq_some_iff.2 (.inl ⟨word, rfl⟩), Option.some_or]
    | zero word => rw [switch?_eq_some_iff.2 (.inr ⟨word, rfl⟩), Option.some_or]
    | digits ne digit small =>
      rw [lowercase_of_digits digit, switch?_of_digits digit, Option.none_or]
      exact readUnsigned?_eq_some_iff.2 ⟨_, .inl rfl, ⟨ne, digit, rfl⟩, small⟩
    | plus ne digit small =>
      rw [switch?_of_sign (.inl rfl) digit, Option.none_or]
      exact readUnsigned?_eq_some_iff.2 ⟨_, .inr rfl, ⟨ne, digit, rfl⟩, small⟩

/-- The port of a text is the lowest 16 bits of its number. -/
theorem port_of_denotes {s : String} {n : Nat} (h : Denotes s.toList n) (o : Option Origin) :
    port (.leaf o (.text s)) = .ok (UInt16.ofNat n) := by
  rw [port, unsigned, unsignedText?_eq_some_iff.2 h]
  rfl

theorem port_of_not_denotes {s : String} (h : ∀ n, ¬Denotes s.toList n) (o : Option Origin) :
    port (.leaf o (.text s)) = .error ⟨.scalar (.text s), .integer, o⟩ := by
  have none : unsignedText? s = none :=
    Option.eq_none_iff_forall_ne_some.2 fun n read => h n (unsignedText?_eq_some_iff.1 read)
  rw [port, unsigned, none]
  rfl

theorem port_of_integer {n : Int} (h : 0 ≤ n) (o : Option Origin) :
    port (.leaf o (.integer n)) = .ok (UInt16.ofNat n.toNat) := by
  rw [port, unsigned, if_pos h]
  rfl

theorem port_of_negative {n : Int} (h : n < 0) (o : Option Origin) :
    port (.leaf o (.integer n)) = .error ⟨.scalar (.integer n), .unsigned, o⟩ := by
  rw [port, unsigned, if_neg (Int.not_le.2 h)]
  rfl

theorem pair_of_port {port host : Tree} {p : UInt16} {h : String} (hp : Decode.port port = .ok p)
    (hh : IsHost host h) : pair port host = .ok ⟨h, p⟩ := by
  obtain ⟨o, rfl⟩ := hh
  rw [pair, hp]
  rfl

theorem pair_of_refused {port host : Tree} {m : Mismatch} (hp : Decode.port port = .error m) :
    pair port host = .error (.mismatch "application.port" m) := by
  rw [pair, hp]
  rfl

end Decode

/-! ## Loading -/

/-- Settings that can be told apart and are no tables are those of their highest layers. -/
theorem load_eq_pair {folder : Folder} {vars : Variables} {env : Environment} {document : Members}
    (selected : environment vars = .ok env) (held : folder.Holds env document)
    (layer : IsLayer document) (settled : ∀ key, vars.Settles key)
    (atom : ∀ key : Key, (key.winner (folder.source env) document vars).isTable = false) :
    load folder vars = Decode.pair (Key.port.winner (folder.source env) document vars)
      (Key.host.winner (folder.source env) document vars) := by
  have tidy := Variables.isTidy_putAll settled (isTidy_file layer (some (folder.source env)))
  obtain ⟨p, hp, stands⟩ := at?_layers_eq_winner layer (folder.source env) settled .port
  obtain ⟨h, hh, stands'⟩ := at?_layers_eq_winner layer (folder.source env) settled .host
  rw [load_eq_application selected (Folder.entries_of_holds held),
    Decode.application_eq_pair (isTable_layers tidy) hp hh, stands.eq (atom .port),
    stands'.eq (atom .host)]

theorem Key.winner_of_given {key : Key} {vars : Variables} {text : String}
    (given : vars.given? key = some text) (o : Origin) (document : Members) :
    key.winner o document vars = .leaf (some .vars) (.text text) := by
  rw [Key.winner, given]

theorem Key.winner_of_inDocument {key : Key} {vars : Variables} {document : Members} {d : Datum}
    (given : vars.given? key = none) (defined : key.inDocument? document = some d) (o : Origin) :
    key.winner o document vars = Tree.ofDatum (some o) d := by
  rw [Key.winner, given, defined]

section Port
variable {folder : Folder} {vars : Variables} {env : Environment} {document : Members}
  {host : String} {scalar : Scalar} {o : Option Origin}
  (selected : environment vars = .ok env) (held : folder.Holds env document)
  (layer : IsLayer document) (settled : ∀ key, vars.Settles key)
  (named : Decode.IsHost (Key.host.winner (folder.source env) document vars) host)
  (decides : Key.port.winner (folder.source env) document vars = .leaf o scalar)
include selected held layer settled named decides

theorem load_eq_pair_of_port : load folder vars = Decode.pair (.leaf o scalar)
    (Key.host.winner (folder.source env) document vars) := by
  rw [← decides]
  refine load_eq_pair selected held layer settled fun key => ?_
  cases key with
  | host =>
    obtain ⟨o', ho⟩ := named
    rw [ho]
    rfl
  | port =>
    rw [decides]
    rfl

theorem load_of_port {p : UInt16} (read : Decode.port (.leaf o scalar) = .ok p) :
    load folder vars = .ok ⟨host, p⟩ := by
  rw [load_eq_pair_of_port selected held layer settled named decides]
  exact Decode.pair_of_port read named

theorem load_of_refused_port {m : Mismatch} (read : Decode.port (.leaf o scalar) = .error m) :
    load folder vars = .error (.mismatch "application.port" m) := by
  rw [load_eq_pair_of_port selected held layer settled named decides]
  exact Decode.pair_of_refused read

end Port

/-! ## The variables of the program -/

namespace Variables

/-- The names of the variables that the program knows. -/
def knownNames : List String :=
  [environmentVariable, Key.host.variableName, Key.port.variableName]

theorem eq_variableName_of_known {name : String} (known : name ∈ knownNames) {key : Key}
    (h : key.isVariable name = true) : name = key.variableName := by
  simp only [knownNames, List.mem_cons, List.not_mem_nil, or_false] at known
  obtain rfl | rfl | rfl := known <;> revert h <;> cases key <;> decide

theorem not_touches_of_known {name : String} (known : name ∈ knownNames) {key : Key}
    (other : key.isVariable name = false) {setting : String}
    (gives : setting? name = some setting) :
    ¬(Tree.Path.ofName setting).Touches Key.table key.name := by
  simp only [knownNames, List.mem_cons, List.not_mem_nil, or_false] at known
  obtain rfl | variable' : name = environmentVariable ∨ ∃ key' : Key, name = key'.variableName := by
    obtain rfl | rfl | rfl := known
    · exact .inl rfl
    · exact .inr ⟨.host, rfl⟩
    · exact .inr ⟨.port, rfl⟩
  · have environment : setting? environmentVariable = some "environment" := by decide +kernel
    have path : Tree.Path.ofName "environment" = ⟨"environment", []⟩ := by cbv
    rw [environment] at gives
    rw [← Option.some.inj gives, path]
    cases key <;> decide
  · obtain ⟨key', rfl⟩ := variable'
    have named : key'.isVariable key'.variableName = true := decide_eq_true rfl
    rw [setting?_of_isVariable named] at gives
    rw [← Option.some.inj gives, Key.ofName_setting]
    revert other
    cases key <;> cases key' <;> decide

/-- The variables that the program knows leave each other alone. -/
theorem settles_of_known {vars : Variables} (distinct : (vars.map (·.1)).Nodup)
    (known : ∀ var ∈ vars, var.1 ∈ knownNames) (key : Key) : vars.Settles key where
  once :=
    calc (vars.filter (key.isVariable ·.1)).length
        = (vars.map (·.1)).countP key.isVariable := by
          rw [← List.countP_eq_length_filter, List.countP_map]
          rfl
      _ ≤ (vars.map (·.1)).count key.variableName := by
          refine List.countP_mono_left fun name hn h => ?_
          obtain ⟨var, hv, rfl⟩ := List.mem_map.1 hn
          exact beq_iff_eq.2 (eq_variableName_of_known (known var hv) h)
      _ ≤ 1 := List.nodup_iff_count_le_one.1 distinct _
  apart var hv other name gives := not_touches_of_known (known var hv) other gives

theorem given?_of_mem {vars : Variables} {key : Key} (settled : vars.Settles key) {text : String}
    (mem : (key.variableName, text) ∈ vars) : vars.given? key = some text := by
  have found : (key.variableName, text) ∈ vars.filter (key.isVariable ·.1) :=
    List.mem_filter.2 ⟨mem, decide_eq_true rfl⟩
  have once := settled.once
  rw [given?, ← List.head?_filter]
  cases only : vars.filter (key.isVariable ·.1) with
  | nil =>
    rw [only] at found
    cases found
  | cons var others =>
    rw [only] at found once
    obtain rfl : others = [] := List.length_eq_zero_iff.1 (Nat.le_zero.1 (Nat.le_of_succ_le_succ once))
    rw [← List.mem_singleton.1 found]
    rfl

theorem given?_of_not_mem {vars : Variables} (known : ∀ var ∈ vars, var.1 ∈ knownNames) {key : Key}
    (absent : key.variableName ∉ vars.map (·.1)) : vars.given? key = none := by
  rw [given?, Option.map_eq_none_iff, List.find?_eq_none]
  intro var hv gives
  rw [← eq_variableName_of_known (known var hv) gives] at absent
  exact absent (List.mem_map_of_mem hv)

theorem get?_of_not_mem {vars : Variables} {name : String} (h : name ∉ vars.map (·.1)) :
    vars.get? name = none := by
  refine List.lookup_eq_none_iff.2 fun var hv => bne_iff_ne.2 ?_
  rintro rfl
  exact h (List.mem_map_of_mem hv)

end Variables

/-- Without the variable that selects it, the environment is that of local development. -/
theorem environment_of_not_mem {vars : Variables} (h : environmentVariable ∉ vars.map (·.1)) :
    environment vars = .ok .development := by
  refine environment_of_read? ?_
  rw [Variables.get?_of_not_mem h]
  decide +kernel

/-! ## Ports -/

/-- A document is refused with any integer in it that no word of 64 bits holds. -/
theorem load_of_unbounded {folder : Folder} {vars : Variables} {env : Environment}
    (selected : environment vars = .ok env) {header : Toml.BareKey}
    {assignments : List Toml.Assignment} (distinct : (assignments.map (·.key.name)).Nodup)
    {a : Toml.Assignment} (ha : a ∈ assignments) {n : Int} (value : a.value = .integer n)
    (large : Decimal.isSigned n = false)
    (file : folder.file? (Folder.fileName env) =
      some (String.ofList (Toml.writeSection header assignments)).toUTF8) :
    load folder vars = .error (.malformedFile (folder.join (Folder.fileName env))) := by
  have refused : a.member? = none := by
    rw [Toml.Assignment.member?, value, Toml.Literal.datum?, Toml.Scalar.bounded?, large]
    rfl
  refine load_of_malformed selected file (Text.fromUTF8?_toUTF8 _) ?_
  rw [String.toList_ofList, Toml.parse?_writeSection header distinct,
    mapM_eq_none ha refused]
  rfl

/-- The port that a variable or a document gives is the lowest 16 bits of its number, so it is the
number itself where that is a port. A text that gives no number, a negative integer, and one that no
word of 64 bits holds are refused. -/
theorem load_port {folder : Folder} {vars : Variables} {env : Environment}
    (selected : environment vars = .ok env) :
    (∀ document host, folder.Holds env document → IsLayer document → (∀ key, vars.Settles key) →
      Decode.IsHost (Key.host.winner (folder.source env) document vars) host →
      (∀ text, vars.given? .port = some text →
        (∀ n, Decode.Denotes text.toList n →
          ∃ port : UInt16, port.toNat = n % 2 ^ 16 ∧ load folder vars = .ok ⟨host, port⟩) ∧
        ((∀ n, ¬Decode.Denotes text.toList n) → load folder vars =
          .error (.mismatch "application.port" ⟨.scalar (.text text), .integer, some .vars⟩))) ∧
      ∀ n, vars.given? .port = none → Key.port.inDocument? document = some (.integer n) →
        (0 ≤ n →
          ∃ port : UInt16, (port.toNat : Int) = n % 2 ^ 16 ∧
            load folder vars = .ok ⟨host, port⟩) ∧
        (n < 0 → load folder vars = .error (.mismatch "application.port"
          ⟨.scalar (.integer n), .unsigned, some (folder.source env)⟩))) ∧
    ∀ header assignments, (assignments.map (·.key.name)).Nodup → ∀ a ∈ assignments, ∀ n,
      a.value = .integer n → Decimal.isSigned n = false →
      folder.file? (Folder.fileName env) =
        some (String.ofList (Toml.writeSection header assignments)).toUTF8 →
      load folder vars = .error (.malformedFile (folder.join (Folder.fileName env))) := by
  refine ⟨?_, fun header assignments distinct a ha n value large file =>
    load_of_unbounded selected distinct ha value large file⟩
  intro document host held layer settled named
  constructor
  · intro text given
    have decides := Key.winner_of_given given (folder.source env) document
    refine ⟨fun n denotes => ⟨UInt16.ofNat n, UInt16.toNat_ofNat', ?_⟩, fun no => ?_⟩
    · exact load_of_port selected held layer settled named decides (Decode.port_of_denotes denotes _)
    · exact load_of_refused_port selected held layer settled named decides
        (Decode.port_of_not_denotes no _)
  · intro n given defined
    have decides := Key.winner_of_inDocument given defined (folder.source env)
    refine ⟨fun positive => ⟨UInt16.ofNat n.toNat, ?_, ?_⟩, fun negative => ?_⟩
    · rw [UInt16.toNat_ofNat']
      omega
    · exact load_of_port selected held layer settled named decides (Decode.port_of_integer positive _)
    · exact load_of_refused_port selected held layer settled named decides
        (Decode.port_of_negative negative _)

/-- A folder without files. -/
def emptyFolder : Folder := ⟨"config", fun _ => none⟩

theorem emptyFolder_holds (env : Environment) : emptyFolder.Holds env [] := .absent fun _ => rfl

theorem isLayer_nil : IsLayer [] where
  nodup := List.nodup_nil
  inner := List.nodup_nil
  isTable _ h := nomatch h
  alone _ := fun ⟨_, h, _⟩ => nomatch h

/-- A document with nothing but the table of the settings. -/
theorem isLayer_table {members : Members} (distinct : (members.map (·.1)).Nodup) :
    IsLayer [(Key.table, .table members)] where
  nodup := List.nodup_singleton _
  inner := distinct
  isTable _ found := ⟨members, (Option.some.inj found).symm⟩
  alone := by
    refine not_rewrites_of_plain fun m hm => ?_
    rw [List.mem_singleton.1 hm]
    exact Key.ofName_table

/-- A variable that gives a port, over a folder without files. -/
theorem load_of_portVariable {text : String} {n : Nat} (number : Decode.unsignedText? text = some n)
    {p : UInt16} (low : UInt16.ofNat n = p) :
    load emptyFolder [(Key.port.variableName, text)] = .ok ⟨"0.0.0.0", p⟩ := by
  have denotes := Decode.unsignedText?_eq_some_iff.1 number
  have known : ∀ var ∈ [(Key.port.variableName, text)], var.1 ∈ Variables.knownNames := by
    simp [Variables.knownNames]
  have other {name : String} (h : name ≠ Key.port.variableName) :
      name ∉ [(Key.port.variableName, text)].map (·.1) := fun mem => h (List.mem_singleton.1 mem)
  have settled : ∀ key, Variables.Settles [(Key.port.variableName, text)] key :=
    Variables.settles_of_known (List.nodup_singleton _) known
  have given : Variables.given? [(Key.port.variableName, text)] .port = some text :=
    Variables.given?_of_mem (settled .port) List.mem_cons_self
  have unnamed : Variables.given? [(Key.port.variableName, text)] .host = none :=
    Variables.given?_of_not_mem known (other (by decide))
  rw [← low]
  refine load_of_port (environment_of_not_mem (other (by decide))) (emptyFolder_holds _) isLayer_nil
    settled ⟨none, ?_⟩ (Key.winner_of_given given _ _) (Decode.port_of_denotes denotes _)
  rw [Key.winner, unnamed]
  rfl

/-- A document with a negative port. -/
def negativeText : String := "[application]\nport = -1\n"

theorem load_port_signed :
    load emptyFolder [("APP_APPLICATION__PORT", "+00443")] = .ok ⟨"0.0.0.0", 443⟩ ∧
      load (localFolder negativeText.toUTF8) [] = .error (.mismatch "application.port"
        ⟨.scalar (.integer (-1)), .unsigned, some (.file "config/local.toml")⟩) := by
  constructor
  · have selected : environment [("APP_APPLICATION__PORT", "+00443")] = .ok .development :=
      environment_of_not_mem (by decide)
    have settled : ∀ key, Variables.Settles [("APP_APPLICATION__PORT", "+00443")] key :=
      Variables.settles_of_known (by decide) (by decide)
    obtain ⟨given, -⟩ := (load_port selected).1 [] "0.0.0.0" (emptyFolder_holds _) isLayer_nil settled
      ⟨none, rfl⟩
    obtain ⟨port, number, loaded⟩ := (given "+00443" (by decide)).1 443
      (Decode.unsignedText?_eq_some_iff.1 (by decide +kernel))
    obtain rfl : port = 443 := UInt16.toNat_inj.1 number
    exact loaded
  · have selected : environment [] = .ok .development := environment_of_not_mem (by decide)
    have parsed : Toml.parse? negativeText.toList =
        some [("application", .table [("port", .integer (-1))])] := by cbv
    have held : (localFolder negativeText.toUTF8).Holds .development _ :=
      .present rfl (Text.fromUTF8?_toUTF8 _) parsed
    have settled : ∀ key, Variables.Settles [] key :=
      Variables.settles_of_known List.nodup_nil (by decide)
    obtain ⟨-, integer⟩ := (load_port selected).1 _ "0.0.0.0" held
      (isLayer_table (List.nodup_singleton _)) settled ⟨none, rfl⟩
    exact (integer (-1) rfl rfl).2 (by decide)

/-- A number that is no port is taken for one, and so is a word that is no number. -/
theorem load_port_wrapped :
    load emptyFolder [("APP_APPLICATION__PORT", "65536")] = .ok ⟨"0.0.0.0", 0⟩ ∧
      load emptyFolder [("APP_APPLICATION__PORT", "65537")] = .ok ⟨"0.0.0.0", 1⟩ ∧
      load emptyFolder [("APP_APPLICATION__PORT", "ON")] = .ok ⟨"0.0.0.0", 1⟩ :=
  ⟨load_of_portVariable (n := 65536) (by decide +kernel) rfl,
    load_of_portVariable (n := 65537) (by decide +kernel) rfl,
    load_of_portVariable (n := 1) (by decide +kernel) rfl⟩

end Liveness.Settings
