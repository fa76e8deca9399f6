import Kia.ConfigFile
import Kia.Discovery

/-!
# Files the manager reads back

The manager reads two kinds of file and writes neither: its configuration
file and the session descriptors of the two session directories. This module
gives each format a writer and shows that what the writer puts is read back
exactly, and that nothing else can be read.

`configText` writes one `key=value` line per field of `kia_config_t`, in the
order of the key table, booleans as `true` or `false` and numbers in decimal.
A configuration is `Loadable` when its numbers lie in the ranges the parser
enforces and each of its two strings is shorter than 256 bytes, holds no CR or
LF, and is left as it is by `trim_whitespace`. Every configuration
`config_load` leaves is loadable, whatever the file (`config_load_loadable`),
and every loadable configuration, once written, is read back exactly, with
`KIA_SUCCESS` when the stream reads to its end and `KIA_ERROR_CONFIG` when a
read error ends it after the last line (`config_load_round_trip`). So the
configurations `config_load` can leave are exactly the loadable ones, and each
is set by a file.

`descriptorText` writes a session as a `Name=` line and an `Exec=` line. Every
session whose name has 1 to 255 bytes and whose command has 1 to 511 bytes,
neither holding a newline, is discovered from such a file under any name
`scan_session_directory` tries, in `readdir` order and tagged with its
directory's type, when every `readdir`, read and `realloc` succeeds
(`session_discover_descriptors`).
-/

namespace Kia

/-! ## Writing a configuration -/

/-- The decimal digits of `n`, most significant first, before `digits`; as in
`Nat.toDigitsCore`, `fuel` bounds the number of digits. -/
def decimalCore : Nat → Nat → List UInt8 → List UInt8
  | 0, _, digits => digits
  | fuel + 1, n, digits =>
    if n / 10 = 0 then (48 + n % 10).toUInt8 :: digits
    else decimalCore fuel (n / 10) ((48 + n % 10).toUInt8 :: digits)

/-- The numeral `printf("%d")` writes for a nonnegative `int`: at most ten
digits. -/
def decimal (n : Nat) : List UInt8 := decimalCore 10 n []

/-- The word a boolean is written as. -/
def boolText (value : Bool) : List UInt8 := if value then ascii "true" else ascii "false"

/-- The keys and values of the file, in the order of the key table. -/
def configEntries (config : KiaConfig) : List (List UInt8 × List UInt8) :=
  [(ascii "autologin_enabled", boolText config.autologinEnabled),
    (ascii "autologin_user", config.autologinUser.bytes),
    (ascii "default_session", config.defaultSession.bytes),
    (ascii "max_attempts", decimal config.maxAttempts.toNat),
    (ascii "enable_logs", boolText config.enableLogs),
    (ascii "lockout_duration", decimal config.lockoutDuration.toNat)]

/-- The line `key=value`, without its newline. -/
def entryLine (entry : List UInt8 × List UInt8) : List UInt8 := entry.1 ++ 61 :: entry.2

/-- The file: each line followed by a newline. -/
def configText (config : KiaConfig) : List UInt8 :=
  ((configEntries config).map entryLine).flatMap (· ++ [10])

/-! ## What a configuration file can express -/

/-- Text that reaches `parse_config_line` as it is written: no NUL, no CR or
LF, and nothing `trim_whitespace` removes. -/
def Bare (bytes : List UInt8) : Prop := 0 ∉ bytes ∧ 10 ∉ bytes ∧ 13 ∉ bytes ∧ strip bytes = bytes

instance (bytes : List UInt8) : Decidable (Bare bytes) := inferInstanceAs (Decidable (_ ∧ _ ∧ _ ∧ _))

/-- A key of the table: bare, not empty, without '=' and not a comment. -/
def KeyText (key : List UInt8) : Prop := Bare key ∧ key ≠ [] ∧ 61 ∉ key ∧ key.head? ≠ some 35

instance (key : List UInt8) : Decidable (KeyText key) := inferInstanceAs (Decidable (_ ∧ _ ∧ _ ∧ _))

/-- A string value a configuration file can set: shorter than the 256-byte
array, without CR or LF, and left as it is by `trim_whitespace`. -/
def Writable (text : CStr) : Prop :=
  text.bytes.length < 256 ∧ 10 ∉ text.bytes ∧ 13 ∉ text.bytes ∧ strip text.bytes = text.bytes

instance (text : CStr) : Decidable (Writable text) := inferInstanceAs (Decidable (_ ∧ _ ∧ _ ∧ _))

/-- A configuration a configuration file can set. -/
def Loadable (config : KiaConfig) : Prop :=
  ConfigRanges config ∧ Writable config.autologinUser ∧ Writable config.defaultSession

instance (config : KiaConfig) : Decidable (Loadable config) := inferInstanceAs (Decidable (_ ∧ _ ∧ _))

theorem Writable.bare {text : CStr} (writable : Writable text) : Bare text.bytes :=
  ⟨fun member => text.nulFree 0 member rfl, writable.2⟩

/-! ## trim_whitespace on written text -/

theorem strip_eq_self {bytes : List UInt8} :
    strip bytes = bytes ↔ bytes.dropWhile isspace = bytes ∧ bytes.rdropWhile isspace = bytes := by
  constructor
  · intro stripped
    have front : bytes.dropWhile isspace = bytes := by
      refine (List.dropWhile_suffix isspace).eq_of_length (le_antisymm (List.dropWhile_suffix isspace).length_le ?_)
      calc bytes.length = (strip bytes).length := by rw [stripped]
        _ ≤ (bytes.dropWhile isspace).length := (List.rdropWhile_prefix _ _).length_le
    unfold strip at stripped
    rw [front] at stripped
    exact ⟨front, stripped⟩
  · rintro ⟨front, back⟩
    rw [strip, front, back]

/-- `trim_whitespace` leaves what it returned as it is. -/
theorem strip_strip (bytes : List UInt8) : strip (strip bytes) = strip bytes := by
  refine strip_eq_self.mpr ⟨?_, List.rdropWhile_idempotent _ _⟩
  obtain ⟨rest, whole⟩ := List.rdropWhile_prefix isspace (bytes.dropWhile isspace)
  have front : (bytes.dropWhile isspace).dropWhile isspace = bytes.dropWhile isspace := List.dropWhile_idempotent _ _
  unfold strip
  cases stripped : (bytes.dropWhile isspace).rdropWhile isspace with
  | nil => rfl
  | cons first others =>
    rw [stripped] at whole
    have leading := List.dropWhile_eq_self_iff.mp front (by rw [← whole]; simp)
    simp only [← whole, List.get_eq_getElem, List.getElem_cons_zero, List.cons_append] at leading
    simp [leading]

/-- A line of a bare key and a bare value is bare at both ends. -/
theorem strip_entry_line {key value : List UInt8} (nonempty : key ≠ []) (keyStripped : strip key = key)
    (valueStripped : strip value = value) : strip (key ++ 61 :: value) = key ++ 61 :: value := by
  obtain ⟨keyFront, -⟩ := strip_eq_self.mp keyStripped
  obtain ⟨-, valueBack⟩ := strip_eq_self.mp valueStripped
  refine strip_eq_self.mpr ⟨?_, ?_⟩
  · obtain ⟨first, others, rfl⟩ := List.exists_cons_of_ne_nil nonempty
    have leading := List.dropWhile_eq_self_iff.mp keyFront (by simp)
    simp only [List.get_eq_getElem, List.getElem_cons_zero] at leading
    simp [leading]
  · rcases List.eq_nil_or_concat value with rfl | ⟨init, last, rfl⟩
    · exact List.rdropWhile_concat_neg _ _ _ (by decide)
    · rw [List.concat_eq_append] at valueBack ⊢
      have trailing := List.rdropWhile_eq_self_iff.mp valueBack (by simp)
      simp only [List.getLast_append_singleton] at trailing
      rw [show key ++ 61 :: (init ++ [last]) = (key ++ 61 :: init) ++ [last] by simp]
      exact List.rdropWhile_concat_neg _ _ _ trailing

/-! ## Decimal numerals -/

section Decimal

theorem decimal_core_append (fuel n : Nat) (digits : List UInt8) :
    decimalCore fuel n digits = decimalCore fuel n [] ++ digits := by
  induction fuel generalizing n digits with
  | zero => rfl
  | succ fuel inductionHypothesis =>
    simp only [decimalCore]
    split_ifs
    · rfl
    · rw [inductionHypothesis _ (_ :: digits), inductionHypothesis _ [_]]
      simp

theorem decimal_core_length (fuel n : Nat) : (decimalCore fuel n []).length ≤ fuel := by
  induction fuel generalizing n with
  | zero => exact le_rfl
  | succ fuel inductionHypothesis =>
    simp only [decimalCore]
    split_ifs
    · simp
    · rw [decimal_core_append, List.length_append]
      exact Nat.add_le_add_right (inductionHypothesis _) 1

/-- The bytes of the ten digits. -/
def digitBytes : List UInt8 := ascii "0123456789"

theorem digit_byte_mem (n : Nat) : (48 + n % 10).toUInt8 ∈ digitBytes := by
  have digit : ∀ d < 10, (48 + d).toUInt8 ∈ digitBytes := by decide
  exact digit _ (Nat.mod_lt _ (by decide))

theorem decimal_core_digits (fuel n : Nat) : ∀ byte ∈ decimalCore fuel n [], byte ∈ digitBytes := by
  induction fuel generalizing n with
  | zero => exact fun _ absent => nomatch absent
  | succ fuel inductionHypothesis =>
    simp only [decimalCore]
    split_ifs
    · simpa using digit_byte_mem n
    · rw [decimal_core_append]
      intro byte member
      rcases List.mem_append.mp member with earlier | last
      · exact inductionHypothesis _ byte earlier
      · rw [List.mem_singleton.mp last]
        exact digit_byte_mem n

/-- `strtol` reads the numeral back, when the fuel covers its digits. -/
theorem digits_value_decimal_core (fuel n : Nat) (fits : n < Nat.pow 10 fuel) :
    digitsValue (decimalCore fuel n []) = n := by
  have digit : ∀ d < 10, ((48 + d).toUInt8).toNat - 48 = d := by decide
  induction fuel generalizing n with
  | zero =>
    rw [Nat.lt_one_iff.mp fits]
    rfl
  | succ fuel inductionHypothesis =>
    have lower : n / 10 < Nat.pow 10 fuel := (Nat.div_lt_iff_lt_mul (by decide)).mpr fits
    simp only [decimalCore]
    split_ifs with single
    · simp only [digitsValue, List.foldl_cons, List.foldl_nil, digit _ (Nat.mod_lt _ (by decide : 10 > 0))]
      omega
    · rw [decimal_core_append, digitsValue, List.foldl_append, List.foldl_cons, List.foldl_nil,
        digit _ (Nat.mod_lt _ (by decide)), ← digitsValue, inductionHypothesis _ lower]
      omega

theorem decimal_ne_nil (n : Nat) : decimal n ≠ [] := by
  show decimalCore (9 + 1) n [] ≠ []
  rw [decimalCore]
  split_ifs
  · simp
  · rw [decimal_core_append]
    simp

theorem decimal_bare (n : Nat) : Bare (decimal n) := by
  have facts : ∀ byte ∈ digitBytes, byte ≠ 0 ∧ byte ≠ 10 ∧ byte ≠ 13 ∧ isspace byte = false := by decide
  have digits : ∀ byte ∈ decimal n, byte ∈ digitBytes := decimal_core_digits 10 n
  obtain ⟨first, others, numeral⟩ := List.exists_cons_of_ne_nil (decimal_ne_nil n)
  refine ⟨fun zero => (facts 0 (digits 0 zero)).1 rfl, fun lf => (facts 10 (digits 10 lf)).2.1 rfl,
    fun cr => (facts 13 (digits 13 cr)).2.2.1 rfl, strip_eq_self.mpr ⟨?_, ?_⟩⟩
  · have leading := (facts first (digits first (by rw [numeral]; exact List.mem_cons_self _ _))).2.2.2
    rw [numeral]
    simp [leading]
  · exact List.rdropWhile_eq_self_iff.mpr fun nonempty => by
      simp [(facts _ (digits _ (List.getLast_mem nonempty))).2.2.2]

/-- `atoi` reads the numeral of an `int` back. -/
theorem atoi_decimal {n : Nat} (fits : n < 2147483648) : atoi (decimal n) = n := by
  have facts : ∀ byte ∈ digitBytes, isdigit byte ∧ isspace byte = false ∧ byte ≠ 43 ∧ byte ≠ 45 := by decide
  have digits : ∀ byte ∈ decimal n, byte ∈ digitBytes := decimal_core_digits 10 n
  obtain ⟨first, others, numeral⟩ := List.exists_cons_of_ne_nil (decimal_ne_nil n)
  have leading := facts first (digits first (by rw [numeral]; exact List.mem_cons_self _ _))
  have whole : (decimal n).takeWhile isdigit = decimal n :=
    List.takeWhile_eq_self_iff.mpr fun byte member => (facts byte (digits byte member)).1
  have value : (digitsValue (decimal n) : Int) = n := by
    rw [decimal, digits_value_decimal_core 10 n (fits.trans_le (by decide))]
  rw [atoi]
  simp only [numeral, List.dropWhile_cons, leading.2.1, Bool.false_eq_true, if_false, List.head?_cons,
    Option.some.injEq, leading.2.2.1, leading.2.2.2, or_self, if_false]
  have clamped : max (-9223372036854775808) (min (n : Int) 9223372036854775807) = n := by omega
  rw [← numeral, whole, value, clamped]
  unfold Int.bmod
  dsimp only
  split_ifs <;> omega

end Decimal

/-! ## Reading a configuration back -/

/-- The reader hands over each written line with its newline, whether the
stream ends after them or fails there. -/
theorem read_lines_written (failing : Bool) (lines : List (List UInt8))
    (each : ∀ line ∈ lines, 0 ∉ line ∧ 10 ∉ line ∧ line.length < 1023) (fuel : Nat)
    (enough : (lines.flatMap (· ++ [10])).length ≤ fuel) :
    readLines failing fuel (lines.flatMap (· ++ [10])) = lines.map fun line => some (line ++ [10]) := by
  induction lines generalizing fuel with
  | nil => simp
  | cons line lines inductionHypothesis =>
    obtain ⟨nulFree, noNewline, short⟩ := each line (List.mem_cons_self _ _)
    simp only [List.flatMap_cons, List.length_append, List.length_singleton] at enough
    obtain ⟨fuel, rfl⟩ := Nat.exists_eq_add_one_of_ne_zero (by omega : fuel ≠ 0)
    rw [List.flatMap_cons, List.append_assoc, List.singleton_append, read_lines_short failing fuel nulFree noNewline short,
      List.map_cons, inductionHypothesis (fun other member => each other (List.mem_cons_of_mem _ member)) fuel
        (by omega)]

/-- A written line reaches the key table with its key and value as written. -/
theorem parse_config_line_entry {entry : List UInt8 × List UInt8} (keyed : KeyText entry.1)
    (written : Bare entry.2) (config : KiaConfig) :
    parseConfigLine (trimString ((entryLine entry ++ [10]).takeWhile fun byte => byte != 13 && byte != 10)) config =
      parseConfigKey entry.1 entry.2 config := by
  obtain ⟨key, value⟩ := entry
  obtain ⟨⟨keyNul, keyLf, keyCr, keyStripped⟩, nonempty, noEquals, uncommented⟩ := keyed
  obtain ⟨valueNul, valueLf, valueCr, valueStripped⟩ := written
  have cut : (entryLine (key, value) ++ [10]).takeWhile (fun byte => byte != 13 && byte != 10) =
      key ++ 61 :: value := by
    rw [List.takeWhile_append_of_pos fun byte member => ?_]
    · simp [entryLine]
    simp only [entryLine, List.mem_append, List.mem_cons] at member
    rcases member with inKey | rfl | inValue
    · simp [ne_of_mem_of_not_mem inKey keyCr, ne_of_mem_of_not_mem inKey keyLf]
    · decide
    · simp [ne_of_mem_of_not_mem inValue valueCr, ne_of_mem_of_not_mem inValue valueLf]
  have lineNul : 0 ∉ key ++ 61 :: value := by simp [keyNul, valueNul]
  have keyPart : (key ++ 61 :: value).takeWhile (· != 61) = key := by
    rw [List.takeWhile_append_of_pos fun byte member => by simpa using ne_of_mem_of_not_mem member noEquals]
    simp
  have valuePart : (key ++ 61 :: value).dropWhile (· != 61) = 61 :: value := by
    rw [List.dropWhile_append_of_pos fun byte member => by simpa using ne_of_mem_of_not_mem member noEquals]
    simp
  obtain ⟨first, others, rfl⟩ := List.exists_cons_of_ne_nil nonempty
  have unmarked : first ≠ 35 := fun marked => uncommented (by rw [marked]; rfl)
  rw [cut, trim_string_eq lineNul, strip_entry_line nonempty keyStripped valueStripped, parseConfigLine,
    keyPart, valuePart, List.tail_cons, trim_string_eq keyNul, trim_string_eq valueNul, keyStripped,
    valueStripped]
  simp [unmarked, nonempty]

/-- One iteration of `config_load` on a written line. -/
theorem config_load_step_entry {entry : List UInt8 × List UInt8} (keyed : KeyText entry.1)
    (written : Bare entry.2) (loaded : Bool × KiaConfig) :
    configLoadStep loaded (some (entryLine entry ++ [10])) =
      (loaded.1 || (parseConfigKey entry.1 entry.2 loaded.2).1 != .success,
        (parseConfigKey entry.1 entry.2 loaded.2).2) := by
  simp only [configLoadStep, parse_config_line_entry keyed written]

theorem parse_bool_text (value : Bool) : parseBool (boolText value) = value := by
  cases value <;> decide

theorem parse_text_writable {text : CStr} (writable : Writable text) : parseText text.bytes = some text := by
  have whole : CStr.ofBytes text.bytes = text := by
    obtain ⟨bytes, nulFree⟩ := text
    simp only [CStr.ofBytes, CStr.mk.injEq]
    exact take_while_of_nul_free fun zero => nulFree 0 zero rfl
  have short := writable.1
  rw [parseText, if_neg (by omega), whole, CStr.take_of_length_le (by omega)]

theorem parse_number_decimal {low high value : Int} (positive : 0 ≤ low) (inRange : low ≤ value ∧ value ≤ high)
    (fits : high < 2147483648) : parseNumber low high (decimal value.toNat) = some value := by
  have read : atoi (decimal value.toNat) = value := by
    rw [atoi_decimal (by omega)]
    omega
  rw [parseNumber, if_neg (decimal_ne_nil _), read, if_neg (by omega)]

/-- The keys of the file are keys of the table. -/
theorem config_entries_keys (config : KiaConfig) :
    ∀ entry ∈ configEntries config, KeyText entry.1 ∧ entry.1.length < 32 := by
  have table : ∀ key ∈ [ascii "autologin_enabled", ascii "autologin_user", ascii "default_session",
      ascii "max_attempts", ascii "enable_logs", ascii "lockout_duration"], KeyText key ∧ key.length < 32 := by
    decide
  exact fun entry member => table entry.1 (List.mem_map_of_mem Prod.fst member)

/-- The values of a loadable configuration are bare and fit their arrays. -/
theorem config_entries_values {config : KiaConfig} (loadable : Loadable config) :
    ∀ entry ∈ configEntries config, Bare entry.2 ∧ entry.2.length < 256 := by
  have numeral : ∀ n, Bare (decimal n) ∧ (decimal n).length < 256 := fun n =>
    ⟨decimal_bare n, (decimal_core_length 10 n).trans_lt (by decide)⟩
  have word : ∀ value, Bare (boolText value) ∧ (boolText value).length < 256 := by decide
  simp only [configEntries, List.mem_cons, List.mem_singleton, List.not_mem_nil, or_false]
  rintro entry (rfl | rfl | rfl | rfl | rfl | rfl)
  · exact word _
  · exact ⟨loadable.2.1.bare, loadable.2.1.1⟩
  · exact ⟨loadable.2.2.bare, loadable.2.2.1⟩
  · exact numeral _
  · exact word _
  · exact numeral _

/-- The six written lines set the six fields, each accepted, whatever the
configuration before them. -/
theorem config_load_entries {config : KiaConfig} (loadable : Loadable config) (start : KiaConfig) :
    ((configEntries config).map fun entry => some (entryLine entry ++ [10])).foldl configLoadStep (false, start) =
      (false, config) := by
  obtain ⟨⟨attemptsLow, attemptsHigh, durationLow, durationHigh⟩, userWritable, sessionWritable⟩ := id loadable
  have enabled : ∀ c, parseConfigKey (ascii "autologin_enabled") (boolText config.autologinEnabled) c =
      (.success, { c with autologinEnabled := config.autologinEnabled }) := fun c => by
    rw [parseConfigKey, if_pos rfl, parse_bool_text]
  have user : ∀ c, parseConfigKey (ascii "autologin_user") config.autologinUser.bytes c =
      (.success, { c with autologinUser := config.autologinUser }) := fun c => by
    rw [parseConfigKey, if_neg (by decide), if_pos rfl, parse_text_writable userWritable]
    rfl
  have session : ∀ c, parseConfigKey (ascii "default_session") config.defaultSession.bytes c =
      (.success, { c with defaultSession := config.defaultSession }) := fun c => by
    rw [parseConfigKey, if_neg (by decide), if_neg (by decide), if_pos rfl, parse_text_writable sessionWritable]
    rfl
  have attempts : ∀ c, parseConfigKey (ascii "max_attempts") (decimal config.maxAttempts.toNat) c =
      (.success, { c with maxAttempts := config.maxAttempts }) := fun c => by
    rw [parseConfigKey, if_neg (by decide), if_neg (by decide), if_neg (by decide), if_pos rfl,
      parse_number_decimal (by decide) ⟨attemptsLow, attemptsHigh⟩ (by decide)]
    rfl
  have logs : ∀ c, parseConfigKey (ascii "enable_logs") (boolText config.enableLogs) c =
      (.success, { c with enableLogs := config.enableLogs }) := fun c => by
    rw [parseConfigKey, if_neg (by decide), if_neg (by decide), if_neg (by decide), if_neg (by decide), if_pos rfl,
      parse_bool_text]
  have duration : ∀ c, parseConfigKey (ascii "lockout_duration") (decimal config.lockoutDuration.toNat) c =
      (.success, { c with lockoutDuration := config.lockoutDuration }) := fun c => by
    rw [parseConfigKey, if_neg (by decide), if_neg (by decide), if_neg (by decide), if_neg (by decide),
      if_neg (by decide), if_pos rfl, parse_number_decimal (Int.le_refl 0) ⟨durationLow, durationHigh⟩ (by decide)]
    rfl
  rw [List.foldl_map, List.foldl_ext _ _ _ fun loaded entry member =>
    config_load_step_entry (config_entries_keys config entry member).1
      (config_entries_values loadable entry member).1 loaded]
  simp only [configEntries, List.foldl_cons, List.foldl_nil, enabled, user, session, attempts, logs, duration,
    bne_self_eq_false, Bool.or_false]

/-- Every loadable configuration, written by `configText`, is read back
exactly by `config_load`, which returns `KIA_SUCCESS` when the stream ends
after the text and `KIA_ERROR_CONFIG` when a read error follows it. -/
theorem config_load_round_trip (config : KiaConfig) (loadable : Loadable config) (failing : Bool) :
    configLoad (some ⟨configText config, failing⟩) = (if failing then .errorConfig else .success, config) := by
  have lines : ∀ line ∈ (configEntries config).map entryLine, 0 ∉ line ∧ 10 ∉ line ∧ line.length < 1023 := by
    intro line member
    obtain ⟨entry, listed, rfl⟩ := List.mem_map.mp member
    obtain ⟨⟨⟨keyNul, keyLf, -⟩, -⟩, keyShort⟩ := config_entries_keys config entry listed
    obtain ⟨⟨valueNul, valueLf, -⟩, valueShort⟩ := config_entries_values loadable entry listed
    simp only [entryLine, List.mem_append, List.mem_cons, List.length_append, List.length_cons]
    exact ⟨by simp [keyNul, valueNul], by simp [keyLf, valueLf], by omega⟩
  have read : fileLines ⟨configText config, failing⟩ =
      (configEntries config).map fun entry => some (entryLine entry ++ [10]) := by
    rw [fileLines, configText, read_lines_written _ _ lines _ le_rfl, List.map_map]
    rfl
  simp only [configLoad, read, config_load_entries loadable, config_validate_of_ranges loadable.1]
  simp

/-- An autologin configuration whose session name holds a space, with five
attempts and no lockout delay, survives the round trip. -/
theorem autologin_config_round_trip :
    Loadable ⟨⟨ascii "alice", by decide⟩, true, ⟨ascii "GNOME Classic", by decide⟩, 5, false, 0⟩ ∧
      configLoad (some ⟨configText ⟨⟨ascii "alice", by decide⟩, true, ⟨ascii "GNOME Classic", by decide⟩, 5, false, 0⟩,
          false⟩) =
        (.success, ⟨⟨ascii "alice", by decide⟩, true, ⟨ascii "GNOME Classic", by decide⟩, 5, false, 0⟩) :=
  have loadable : Loadable ⟨⟨ascii "alice", by decide⟩, true, ⟨ascii "GNOME Classic", by decide⟩, 5, false, 0⟩ := by
    decide
  ⟨loadable, config_load_round_trip _ loadable false⟩

/-! ## What a configuration file can set -/

theorem mem_of_mem_strip {bytes : List UInt8} {byte : UInt8} (member : byte ∈ strip bytes) : byte ∈ bytes :=
  (List.dropWhile_suffix _).subset ((List.rdropWhile_prefix _ _).subset member)

/-- What `trim_whitespace` returns from a string without CR or LF is bare. -/
theorem strip_bare {bytes : List UInt8} (nulFree : 0 ∉ bytes) (noLf : 10 ∉ bytes) (noCr : 13 ∉ bytes) :
    Bare (strip bytes) :=
  ⟨fun member => nulFree (mem_of_mem_strip member), fun member => noLf (mem_of_mem_strip member),
    fun member => noCr (mem_of_mem_strip member), strip_strip bytes⟩

/-- The key table sets a string only to a bare value that fits its array. -/
theorem parse_config_key_writable (key : List UInt8) {value : List UInt8} (bare : Bare value) {config : KiaConfig}
    (writable : Writable config.autologinUser ∧ Writable config.defaultSession) :
    Writable (parseConfigKey key value config).2.autologinUser ∧
      Writable (parseConfigKey key value config).2.defaultSession := by
  have parsed : ∀ text, parseText value = some text → Writable text := by
    intro text found
    obtain ⟨nulFree, noLf, noCr, stripped⟩ := bare
    unfold parseText at found
    split_ifs at found with long
    cases found
    have copied : ((CStr.ofBytes value).take 255).bytes = value := by
      simp only [CStr.take_bytes, CStr.ofBytes, take_while_of_nul_free nulFree]
      exact List.take_of_length_le (by omega)
    unfold Writable
    rw [copied]
    exact ⟨by omega, noLf, noCr, stripped⟩
  unfold parseConfigKey
  by_cases enabled : key = ascii "autologin_enabled"
  · rw [if_pos enabled]
    exact writable
  rw [if_neg enabled]
  by_cases user : key = ascii "autologin_user"
  · rw [if_pos user]
    cases found : parseText value with
    | none => exact writable
    | some user => exact ⟨parsed user found, writable.2⟩
  rw [if_neg user]
  by_cases session : key = ascii "default_session"
  · rw [if_pos session]
    cases found : parseText value with
    | none => exact writable
    | some session => exact ⟨writable.1, parsed session found⟩
  rw [if_neg session]
  by_cases attempts : key = ascii "max_attempts"
  · rw [if_pos attempts]
    cases parseNumber 1 10 value <;> exact writable
  rw [if_neg attempts]
  by_cases logs : key = ascii "enable_logs"
  · rw [if_pos logs]
    exact writable
  rw [if_neg logs]
  by_cases duration : key = ascii "lockout_duration"
  · rw [if_pos duration]
    cases parseNumber 0 3600 value <;> exact writable
  rw [if_neg duration]
  exact writable

/-- An iteration of `config_load` on a record without NUL keeps the strings
writable: the line is cut before its CR or LF, and the value trimmed. -/
theorem config_load_step_writable (loaded : Bool × KiaConfig) {record : Option (List UInt8)}
    (nulFree : ∀ line ∈ record, 0 ∉ line)
    (writable : Writable loaded.2.autologinUser ∧ Writable loaded.2.defaultSession) :
    Writable (configLoadStep loaded record).2.autologinUser ∧
      Writable (configLoadStep loaded record).2.defaultSession := by
  cases record with
  | none => exact writable
  | some line =>
    have cutNul : 0 ∉ line.takeWhile (fun byte => byte != 13 && byte != 10) := fun member =>
      nulFree line rfl ((List.takeWhile_prefix _).subset member)
    have cutEnds : ∀ byte ∈ line.takeWhile (fun byte => byte != 13 && byte != 10), byte ≠ 13 ∧ byte ≠ 10 :=
      fun byte member => by simpa using List.mem_takeWhile_imp member
    obtain ⟨textNul, textLf, textCr, -⟩ := strip_bare cutNul (fun member => (cutEnds 10 member).2 rfl)
      (fun member => (cutEnds 13 member).1 rfl)
    simp only [configLoadStep, trim_string_eq cutNul]
    unfold parseConfigLine
    dsimp only
    split_ifs
    · exact writable
    · exact writable
    · have valueNul : 0 ∉ ((strip _).dropWhile (· != 61)).tail := fun member =>
        textNul ((List.dropWhile_suffix _).subset (List.mem_of_mem_tail member))
      rw [trim_string_eq valueNul]
      refine parse_config_key_writable _ (strip_bare valueNul ?_ ?_) writable
      · exact fun member => textLf ((List.dropWhile_suffix _).subset (List.mem_of_mem_tail member))
      · exact fun member => textCr ((List.dropWhile_suffix _).subset (List.mem_of_mem_tail member))
    · exact writable

theorem config_load_fold_writable (records : List (Option (List UInt8)))
    (nulFree : ∀ record ∈ records, ∀ line ∈ record, 0 ∉ line) (loaded : Bool × KiaConfig)
    (writable : Writable loaded.2.autologinUser ∧ Writable loaded.2.defaultSession) :
    Writable (records.foldl configLoadStep loaded).2.autologinUser ∧
      Writable (records.foldl configLoadStep loaded).2.defaultSession := by
  induction records generalizing loaded with
  | nil => exact writable
  | cons record records inductionHypothesis =>
    exact inductionHypothesis (fun other member => nulFree other (List.mem_cons_of_mem _ member)) _
      (config_load_step_writable loaded (nulFree record (List.mem_cons_self _ _)) writable)

/-- Whatever the file holds, `config_load` leaves a configuration a file can
set: its numbers in range, and each string shorter than 256 bytes, without CR
or LF, and with no `isspace` byte at either end. -/
theorem config_load_loadable (file : Option ReadStream) : Loadable (configLoad file).2 := by
  refine ⟨config_load_ranges file, ?_⟩
  cases file with
  | none => decide
  | some stream =>
    rw [config_load_some]
    exact config_load_fold_writable (fileLines stream) (read_lines_nul_free _ _ _) _ (by decide)

/-! ## Session descriptors -/

/-- A descriptor as a writer puts it: its `Name=` line, then its `Exec=` line. -/
def descriptorText (session : SessionInfo) : List UInt8 :=
  [ascii "Name=" ++ session.name.bytes, ascii "Exec=" ++ session.exec.bytes].flatMap (· ++ [10])

/-- A session a descriptor can hold: a name of 1 to 255 bytes and a command of
1 to 511 bytes, neither holding a newline. -/
def Describable (session : SessionInfo) : Prop :=
  0 < session.name.bytes.length ∧ session.name.bytes.length < 256 ∧ 10 ∉ session.name.bytes ∧
    0 < session.exec.bytes.length ∧ session.exec.bytes.length < 512 ∧ 10 ∉ session.exec.bytes

instance (session : SessionInfo) : Decidable (Describable session) :=
  inferInstanceAs (Decidable (_ ∧ _ ∧ _ ∧ _ ∧ _ ∧ _))

/-- A directory listing the descriptors of `entries` under their names, where
every `readdir`, every read of a descriptor and every `realloc` succeeds. -/
def descriptorDirectory (entries : List (CStr × SessionInfo)) : Except Nat Directory :=
  .ok ⟨entries.map fun entry => ⟨entry.1, .ok ⟨descriptorText entry.2, false⟩, none⟩, none⟩

theorem CStr.of_bytes_bytes (text : CStr) : CStr.ofBytes text.bytes = text := by
  obtain ⟨bytes, nulFree⟩ := text
  simp only [CStr.ofBytes, CStr.mk.injEq]
  exact take_while_of_nul_free fun zero => nulFree 0 zero rfl

/-- The line `prefix ++ value` with its newline reaches the body of
`parse_desktop_file` as `prefix ++ value`. -/
theorem desktop_line_written {field : List UInt8} (value : CStr) (noNewline : 10 ∉ field ++ value.bytes)
    (fields : DesktopFields) :
    desktopLine fields ((field ++ value.bytes) ++ [10]) = desktopLine fields (field ++ value.bytes) := by
  rw [← desktop_line_cut, List.takeWhile_append_of_pos fun byte member => by
    simpa using ne_of_mem_of_not_mem member noNewline]
  simp

/-- `parse_desktop_file` reads a written descriptor back, with the type of its
directory, and stops before a read error after it. -/
theorem parse_desktop_file_descriptor (filepath : CStr) (named : filepath.bytes ≠ []) {session : SessionInfo}
    (described : Describable session) (type : SessionType) (failing : Bool) :
    (parseDesktopFile filepath (.ok ⟨descriptorText session, failing⟩) type).1 = some { session with type := type } := by
  obtain ⟨namePositive, nameShort, nameNewline, execPositive, execShort, execNewline⟩ := described
  have nameLine : 10 ∉ ascii "Name=" ++ session.name.bytes := by
    simp only [List.mem_append, not_or]
    exact ⟨by decide, nameNewline⟩
  have execLine : 10 ∉ ascii "Exec=" ++ session.exec.bytes := by
    simp only [List.mem_append, not_or]
    exact ⟨by decide, execNewline⟩
  have read : fileLines ⟨descriptorText session, failing⟩ =
      [some ((ascii "Name=" ++ session.name.bytes) ++ [10]), some ((ascii "Exec=" ++ session.exec.bytes) ++ [10])] := by
    refine read_lines_written _ _ (fun line member => ?_) _ le_rfl
    simp only [List.mem_cons, List.mem_singleton, List.not_mem_nil, or_false] at member
    rcases member with rfl | rfl
    · refine ⟨?_, nameLine, ?_⟩
      · simp only [List.mem_append, not_or]
        exact ⟨by decide, fun zero => session.name.nulFree 0 zero rfl⟩
      · rw [List.length_append, show (ascii "Name=").length = 5 from rfl]
        omega
    · refine ⟨?_, execLine, ?_⟩
      · simp only [List.mem_append, not_or]
        exact ⟨by decide, fun zero => session.exec.nulFree 0 zero rfl⟩
      · rw [List.length_append, show (ascii "Exec=").length = 5 from rfl]
        omega
  have whole : ∀ {line : List UInt8}, 10 ∉ line → line.takeWhile (· != 10) = line := fun noNewline =>
    List.takeWhile_eq_self_iff.mpr fun byte member => by simpa using ne_of_mem_of_not_mem member noNewline
  have nameRead : desktopLine DesktopFields.initial (ascii "Name=" ++ session.name.bytes) =
      ⟨session.name, CStr.empty, true, false⟩ := by
    dsimp only [desktopLine]
    have five : (ascii "Name=").length = 5 := rfl
    rw [whole nameLine, List.take_left' five, List.drop_left' five, if_pos ⟨rfl, rfl⟩, if_pos ⟨namePositive, nameShort⟩,
      CStr.of_bytes_bytes, CStr.take_of_length_le (by omega)]
    rfl
  have execRead : desktopLine ⟨session.name, CStr.empty, true, false⟩ (ascii "Exec=" ++ session.exec.bytes) =
      ⟨session.name, session.exec, true, true⟩ := by
    have notName : ascii "Exec=" ≠ ascii "Name=" := by decide
    dsimp only [desktopLine]
    have five : (ascii "Exec=").length = 5 := rfl
    rw [whole execLine, List.take_left' five, List.drop_left' five, if_neg fun found => notName found.1,
      if_pos ⟨rfl, rfl⟩, if_pos ⟨execPositive, execShort⟩, CStr.of_bytes_bytes, CStr.take_of_length_le (by omega)]
  rw [parse_desktop_file_found filepath named]
  simp only [read, desktopLoop, desktop_line_written session.name nameLine, desktop_line_written session.exec execLine,
    nameRead, execRead, Bool.false_eq_true, and_false, if_false, and_self, if_true]

/-- A directory of written descriptors under names the scan tries contributes
their sessions, in `readdir` order, tagged with its type. -/
theorem accepted_sessions_descriptors (dirPath : CStr) (type : SessionType) (entries : List (CStr × SessionInfo))
    (tried : ∀ entry ∈ entries, Tried dirPath entry.1) (described : ∀ entry ∈ entries, Describable entry.2) :
    acceptedSessions dirPath type (descriptorDirectory entries) =
      entries.map fun entry => { entry.2 with type := type } := by
  induction entries with
  | nil => rfl
  | cons entry entries inductionHypothesis =>
    have accepted : acceptedEntry dirPath type ⟨entry.1, .ok ⟨descriptorText entry.2, false⟩, none⟩ =
        some { entry.2 with type := type } := by
      simp only [acceptedEntry]
      rw [if_pos]
      · exact parse_desktop_file_descriptor _ (by simp [joinPath]) (described entry (List.mem_cons_self _ _)) type false
      · exact tried entry (List.mem_cons_self _ _)
    have rest := inductionHypothesis (fun other member => tried other (List.mem_cons_of_mem _ member))
      (fun other member => described other (List.mem_cons_of_mem _ member))
    simp only [acceptedSessions, descriptorDirectory, List.map_cons, List.filterMap_cons, accepted] at rest ⊢
    rw [rest]

/-- Two session directories of written descriptors, under names the scan tries
and not both empty, are discovered whole: `session_discover` succeeds with the
X11 sessions followed by the Wayland sessions, in `readdir` order, each tagged
with its directory's type. -/
theorem session_discover_descriptors (x11 wayland : List (CStr × SessionInfo))
    (x11Tried : ∀ entry ∈ x11, Tried x11SessionDir entry.1)
    (waylandTried : ∀ entry ∈ wayland, Tried waylandSessionDir entry.1)
    (described : ∀ entry ∈ x11 ++ wayland, Describable entry.2) (nonempty : x11 ++ wayland ≠ []) :
    (sessionDiscover (descriptorDirectory x11) (descriptorDirectory wayland)).result = .success ∧
      (sessionDiscover (descriptorDirectory x11) (descriptorDirectory wayland)).sessions =
        x11.map (fun entry => { entry.2 with type := .x11 }) ++
          wayland.map fun entry => { entry.2 with type := .wayland } := by
  have clean (dirPath : CStr) (entries : List (CStr × SessionInfo)) :
      ScansCleanly dirPath (descriptorDirectory entries) :=
    ⟨rfl, fun entry member _ => by obtain ⟨_, _, rfl⟩ := List.mem_map.mp member; rfl⟩
  obtain ⟨first, firstSessions⟩ := scan_session_directory_status x11SessionDir .x11 (descriptorDirectory x11)
  obtain ⟨second, secondSessions⟩ :=
    scan_session_directory_status waylandSessionDir .wayland (descriptorDirectory wayland)
  replace first := first.mpr (clean _ x11)
  replace second := second.mpr (clean _ wayland)
  replace firstSessions := firstSessions first
  replace secondSessions := secondSessions second
  rw [accepted_sessions_descriptors _ _ _ x11Tried fun entry member => described entry (List.mem_append_left _ member)]
    at firstSessions
  rw [accepted_sessions_descriptors _ _ _ waylandTried fun entry member =>
    described entry (List.mem_append_right _ member)] at secondSessions
  have catalogue : x11.map (fun entry => { entry.2 with type := .x11 }) ++
      wayland.map (fun entry => { entry.2 with type := .wayland }) ≠ [] := by
    simpa [List.append_eq_nil] using nonempty
  simp only [sessionDiscover, sessionDiscoverRun, first, second, firstSessions, secondSessions,
    ne_eq, not_true_eq_false, if_false, catalogue, and_self]

/-- One X11 descriptor saved as `xfce.desktop`, with an empty Wayland
directory, is discovered as the catalogue of its one session. -/
theorem xfce_descriptor_discovered :
    (sessionDiscover
        (descriptorDirectory
          [(⟨ascii "xfce.desktop", by decide⟩, ⟨⟨ascii "Xfce Session", by decide⟩, ⟨ascii "startxfce4", by decide⟩, .x11⟩)])
        (descriptorDirectory [])).result = .success ∧
      (sessionDiscover
          (descriptorDirectory
            [(⟨ascii "xfce.desktop", by decide⟩, ⟨⟨ascii "Xfce Session", by decide⟩, ⟨ascii "startxfce4", by decide⟩, .x11⟩)])
          (descriptorDirectory [])).sessions =
        [⟨⟨ascii "Xfce Session", by decide⟩, ⟨ascii "startxfce4", by decide⟩, .x11⟩] :=
  session_discover_descriptors _ [] (by decide) (by decide) (by decide) (by decide)

end Kia
