import Mathlib.Data.List.DropRight
import Mathlib.Data.List.GetD
import Kia.Config
import Kia.LineReader

/-!
# Loading the configuration file

`config_load` of `config.c`: the defaults, then one `parse_config_line` per
line the reader hands over, after `strcspn` cut the line at its first CR or LF
and `trim_whitespace` trimmed it; a configuration `config_validate` rejects
falls back to the defaults.

`trim_whitespace` walks pointers over a NUL-terminated string and writes one
terminator. It is modelled over a memory with the addresses it reads and
writes, and `trim_whitespace_spec` shows that it stays within its string and
its terminator and returns the string with the `isspace` bytes at both ends
removed. That is what lets `parse_config_line`, which trims the key and the
value inside one array, be modelled on strings (`trimString`).

`atoi` is glibc's `(int) strtol(nptr, NULL, 10)`: a numeral beyond the range of
`long` saturates, and the conversion to `int` keeps the low 32 bits.
-/

namespace Kia

/-! ## trim_whitespace -/

/-- `isspace` in the C locale (kia never calls `setlocale`): space, `\t`, `\n`,
`\v`, `\f` and `\r`. -/
def isspace (byte : UInt8) : Bool := byte == 32 || (9 ≤ byte && byte ≤ 13)

/-- A string with the `isspace` bytes at both ends removed. -/
def strip (bytes : List UInt8) : List UInt8 := (bytes.dropWhile isspace).rdropWhile isspace

/-- The string at `address` of `memory`: its bytes up to the first NUL. -/
def cString (memory : List UInt8) (address : Nat) : List UInt8 :=
  (memory.drop address).takeWhile (· != 0)

/-- `while (isspace((unsigned char)*str)) str++;` from address `str`, where
`bytes` is the memory from `str` on: the address it stops at and the addresses
it reads. -/
def skipLeading (str : Nat) : List UInt8 → Nat × List Nat
  | [] => (str, [str])
  | byte :: rest =>
    if isspace byte then
      let skipped := skipLeading (str + 1) rest
      (skipped.1, str :: skipped.2)
    else (str, [str])

/-- `strlen(str)`, where `bytes` is the memory from `str` on: the length and
the addresses it reads, the terminator's included. -/
def strlen (str : Nat) : List UInt8 → Nat × List Nat
  | [] => (0, [str])
  | byte :: rest =>
    if byte = 0 then (0, [str])
    else
      let counted := strlen (str + 1) rest
      (counted.1 + 1, str :: counted.2)

/-- `while (end > str && isspace((unsigned char)*end)) end--;` from
`end = str + span`: where `end` stops and the addresses it reads. -/
def skipTrailing (memory : List UInt8) (str : Nat) : Nat → Nat × List Nat
  | 0 => (str, [])
  | span + 1 =>
    if isspace (memory.getD (str + span + 1) 0) then
      let skipped := skipTrailing memory str span
      (skipped.1, (str + span + 1) :: skipped.2)
    else (str + span + 1, [str + span + 1])

/-- What a call of `trim_whitespace` does. -/
structure TrimRun where
  /-- The pointer it returns. -/
  str : Nat
  /-- The memory after its write. -/
  memory : List UInt8
  /-- The addresses it reads or writes, in order. -/
  accessed : List Nat

/-- `trim_whitespace(str)` on `memory`: skip the leading spaces; unless the
string is then empty, walk `end` back from its last byte over the trailing
spaces and write a terminator after it. -/
def trimWhitespace (memory : List UInt8) (str : Nat) : TrimRun :=
  let leading := skipLeading str (memory.drop str)
  let start := leading.1
  if memory.getD start 0 = 0 then ⟨start, memory, leading.2 ++ [start]⟩
  else
    let length := strlen start (memory.drop start)
    let trailing := skipTrailing memory start (length.1 - 1)
    ⟨start, memory.set (trailing.1 + 1) 0,
      leading.2 ++ [start] ++ length.2 ++ trailing.2 ++ [trailing.1 + 1]⟩

section Trim

theorem skip_leading_spaces (str : Nat) (spaces : List UInt8) (byte : UInt8) (rest : List UInt8)
    (allSpace : ∀ space ∈ spaces, isspace space) (stop : isspace byte = false) :
    skipLeading str (spaces ++ byte :: rest) = (str + spaces.length, List.range' str (spaces.length + 1)) := by
  induction spaces generalizing str with
  | nil => simp [skipLeading, stop, List.range'_succ]
  | cons space spaces ih =>
    simp only [List.mem_cons, forall_eq_or_imp] at allSpace
    simp [skipLeading, allSpace.1, ih (str + 1) allSpace.2, List.range'_succ]
    omega

theorem strlen_terminated (str : Nat) (bytes : List UInt8) (nulFree : 0 ∉ bytes) (rest : List UInt8) :
    strlen str (bytes ++ 0 :: rest) = (bytes.length, List.range' str (bytes.length + 1)) := by
  induction bytes generalizing str with
  | nil => simp [strlen, List.range'_succ]
  | cons byte bytes ih =>
    simp [strlen, Ne.symm (List.ne_of_not_mem_cons nulFree),
      ih (str + 1) (List.not_mem_of_not_mem_cons nulFree), List.range'_succ]

/-- The backward walk from `str + m + t` over `t` spaces stops at `str + m`,
which it reads only when it lies above `str`. -/
theorem skip_trailing_spaces (memory : List UInt8) (str m : Nat) (t : Nat)
    (spaces : ∀ j, m < j → j ≤ m + t → isspace (memory.getD (str + j) 0) = true)
    (stop : 0 < m → isspace (memory.getD (str + m) 0) = false) :
    (skipTrailing memory str (m + t)).1 = str + m ∧
      ∀ address ∈ (skipTrailing memory str (m + t)).2, str + m ≤ address ∧ address ≤ str + m + t := by
  induction t with
  | zero =>
    cases m with
    | zero => simp [skipTrailing]
    | succ m =>
      have last : isspace (memory.getD (str + m + 1) 0) = false := by
        simpa [Nat.add_assoc] using stop (Nat.succ_pos m)
      rw [Nat.add_zero, skipTrailing, if_neg (by rw [last]; decide)]
      simp [Nat.add_assoc]
  | succ t ih =>
    have space := spaces (m + t + 1) (by omega) (by omega)
    rw [← Nat.add_assoc] at space
    obtain ⟨stops, within⟩ := ih fun j above below => spaces j above (by omega)
    rw [← Nat.add_assoc, skipTrailing, if_pos space]
    refine ⟨stops, fun address member => ?_⟩
    rcases List.mem_cons.mp member with rfl | member
    · omega
    · have := within address member
      omega

/-- A string is its part up to the last non-space byte and its trailing spaces. -/
theorem rdropWhile_append_rtakeWhile (p : UInt8 → Bool) (bytes : List UInt8) :
    bytes.rdropWhile p ++ bytes.rtakeWhile p = bytes := by
  rw [List.rdropWhile, List.rtakeWhile, ← List.reverse_append, List.takeWhile_append_dropWhile,
    List.reverse_reverse]

/-- From a pointer at a non-space byte, `trim_whitespace` measures the string,
walks back over its trailing spaces and writes the terminator after the last
non-space byte, touching nothing outside the string and its terminator. -/
theorem trim_from_start (pre core after : List UInt8) (nulFree : 0 ∉ core) (first : UInt8)
    (head : core.head? = some first) (nonspace : isspace first = false) :
    let memory := pre ++ core ++ 0 :: after
    let length := strlen pre.length (memory.drop pre.length)
    let trailing := skipTrailing memory pre.length (length.1 - 1)
    cString (memory.set (trailing.1 + 1) 0) pre.length = core.rdropWhile isspace ∧
      ∀ address ∈ length.2 ++ trailing.2 ++ [trailing.1 + 1],
        pre.length ≤ address ∧ address ≤ pre.length + core.length := by
  intro memory length trailing
  have fromStart : memory.drop pre.length = core ++ 0 :: after := by
    simp only [memory, List.append_assoc, List.drop_left]
  have measured : length = (core.length, List.range' pre.length (core.length + 1)) := by
    simp only [length, fromStart, strlen_terminated _ core nulFree]
  set mid := core.rdropWhile isspace
  set trail := core.rtakeWhile isspace
  have parts : mid ++ trail = core := rdropWhile_append_rtakeWhile isspace core
  have midFilled : mid ≠ [] := fun empty => by
    have := (List.rdropWhile_eq_nil_iff.mp empty) first (List.mem_of_mem_head? head)
    simp [nonspace] at this
  have midPositive : 0 < mid.length := List.length_pos.mpr midFilled
  have lengths : core.length = mid.length + trail.length := by rw [← parts, List.length_append]
  have reads : ∀ j, memory.getD (pre.length + j) 0 = (mid ++ (trail ++ 0 :: after)).getD j 0 := by
    intro j
    rw [show memory = pre ++ (mid ++ (trail ++ 0 :: after)) by
      simp only [memory, ← parts, List.append_assoc],
      List.getD_append_right _ _ _ _ (by omega), Nat.add_sub_cancel_left]
  have walked := skip_trailing_spaces memory pre.length (mid.length - 1) trail.length
    (fun j above below => by
      rw [reads, List.getD_append_right _ _ _ _ (by omega), List.getD_append _ _ _ _ (by omega),
        List.getD_eq_getElem _ _ (by omega)]
      exact List.mem_rtakeWhile_imp (List.getElem_mem _))
    (fun _ => by
      rw [reads, List.getD_append _ _ _ _ (by omega), List.getD_eq_getElem _ _ (by omega),
        ← List.getLast_eq_getElem mid midFilled]
      simpa using List.rdropWhile_last_not isspace core midFilled)
  have span : mid.length - 1 + trail.length = length.1 - 1 := by rw [measured]; omega
  rw [span] at walked
  obtain ⟨stops, within⟩ := walked
  have ends : trailing.1 = pre.length + (mid.length - 1) := stops
  have written : (memory.drop pre.length).set mid.length 0 = mid ++ 0 :: (trail ++ 0 :: after).tail := by
    rw [fromStart, ← parts, List.append_assoc, List.set_append_right _ _ (by omega), Nat.sub_self]
    cases trail <;> rfl
  refine ⟨?_, fun address member => ?_⟩
  · have midNulFree : ∀ byte ∈ mid, (byte != 0) = true := fun byte member => by
      simpa using ne_of_mem_of_not_mem ((List.rdropWhile_prefix isspace core).subset member) nulFree
    rw [cString, stops, show pre.length + (mid.length - 1) + 1 = pre.length + mid.length by omega,
      List.drop_set, if_neg (by omega), Nat.add_sub_cancel_left, written,
      List.takeWhile_append_of_pos midNulFree]
    simp
  · rw [measured] at member
    simp only [List.mem_append, List.mem_singleton, List.mem_range'] at member
    rcases member with (⟨i, below, rfl⟩ | member) | rfl
    · omega
    · have := within address member
      omega
    · rw [ends]
      omega

end Trim

/-- `trim_whitespace` on a string that is the spaces `lead`, then `core`, which
starts with a non-space byte or is empty. -/
theorem trim_decomposed (before lead core after : List UInt8) (spaces : ∀ byte ∈ lead, isspace byte)
    (nulFree : 0 ∉ core) (first : ∀ byte ∈ core.head?, isspace byte = false) :
    let run := trimWhitespace (before ++ lead ++ core ++ 0 :: after) before.length
    run.str = before.length + lead.length ∧ cString run.memory run.str = core.rdropWhile isspace ∧
      ∀ address ∈ run.accessed,
        before.length ≤ address ∧ address ≤ before.length + lead.length + core.length := by
  have leadBound : ∀ address ∈ List.range' before.length (lead.length + 1),
      before.length ≤ address ∧ address ≤ before.length + lead.length := fun address member => by
    obtain ⟨i, below, rfl⟩ := List.mem_range'.mp member
    omega
  cases core with
  | nil =>
    have memory : before ++ lead ++ [] ++ 0 :: after = before ++ (lead ++ 0 :: after) := by simp
    have atStart : (before ++ (lead ++ 0 :: after)).getD (before.length + lead.length) 0 = 0 := by
      rw [List.getD_append_right _ _ _ _ (by omega), Nat.add_sub_cancel_left,
        List.getD_append_right _ _ _ _ le_rfl, Nat.sub_self]
      rfl
    have atEnd : (before ++ (lead ++ 0 :: after)).drop (before.length + lead.length) = 0 :: after := by
      rw [← List.append_assoc, ← List.length_append, List.drop_left]
    simp only [trimWhitespace, memory, List.drop_left,
      skip_leading_spaces _ lead 0 after spaces (by decide), atStart, if_true, cString, atEnd]
    refine ⟨trivial, by simp, fun address member => ?_⟩
    simp only [List.mem_append, List.mem_singleton] at member
    rcases member with member | rfl
    · have := leadBound address member
      simp only [List.length_nil, Nat.add_zero]
      exact this
    · omega
  | cons byte tail =>
    have nonspace := first byte rfl
    have nonzero : byte ≠ 0 := fun zero => nulFree (zero ▸ List.mem_cons_self byte tail)
    have leading : skipLeading before.length
        ((before ++ lead ++ byte :: tail ++ 0 :: after).drop before.length) =
          ((before ++ lead).length, List.range' before.length (lead.length + 1)) := by
      rw [show before ++ lead ++ byte :: tail ++ 0 :: after =
          before ++ (lead ++ byte :: (tail ++ 0 :: after)) by simp,
        List.drop_left, skip_leading_spaces _ lead byte _ spaces nonspace, List.length_append]
    have atStart : (before ++ lead ++ byte :: tail ++ 0 :: after).getD (before ++ lead).length 0 =
        byte := by
      rw [List.append_assoc (before ++ lead), List.getD_append_right _ _ _ _ le_rfl, Nat.sub_self]
      rfl
    obtain ⟨stripped, within⟩ := trim_from_start (before ++ lead) (byte :: tail) after nulFree byte rfl
      nonspace
    simp only [trimWhitespace, leading, atStart, if_neg nonzero]
    refine ⟨List.length_append _ _, stripped, fun address member => ?_⟩
    simp only [List.mem_append, List.mem_singleton, List.length_append, List.length_cons]
      at member within ⊢
    rcases member with (((front | rfl) | inner) | inner) | rfl
    · have := leadBound address front
      omega
    · omega
    · have := within address (.inl (.inl inner))
      omega
    · have := within address (.inl (.inr inner))
      omega
    · have := within _ (.inr rfl)
      omega

/-- `trim_whitespace` on a NUL-terminated string `s`, wherever it lies in
memory: the pointer it returns lies within `s` and its terminator, the string
there is `s` without its leading and trailing `isspace` bytes, and every byte it
reads or writes is a byte of `s` or its terminator, never one before `s`. -/
theorem trim_whitespace_spec (before after : List UInt8) (s : CStr) :
    let run := trimWhitespace (before ++ s.bytes ++ 0 :: after) before.length
    before.length ≤ run.str ∧ run.str ≤ before.length + s.bytes.length ∧
      cString run.memory run.str = strip s.bytes ∧
      ∀ address ∈ run.accessed,
        before.length ≤ address ∧ address ≤ before.length + s.bytes.length := by
  obtain ⟨bytes, nulFree⟩ := s
  dsimp only
  have parts := List.takeWhile_append_dropWhile isspace bytes
  have lengths := congrArg List.length parts
  rw [List.length_append] at lengths
  have decomposed := trim_decomposed before (bytes.takeWhile isspace) (bytes.dropWhile isspace) after
    (fun _ member => List.mem_takeWhile_imp member)
    (fun member => nulFree 0 ((List.dropWhile_suffix isspace).subset member) rfl)
    (fun byte head => by
      have nonempty : bytes.dropWhile isspace ≠ [] := fun empty => by simp [empty] at head
      have same := Option.some_injective _ ((List.head?_eq_head nonempty).symm.trans head)
      exact same ▸ List.head_dropWhile_not isspace bytes nonempty)
  rw [List.append_assoc before, parts] at decomposed
  obtain ⟨returned, stripped, within⟩ := decomposed
  exact ⟨by omega, by omega, stripped, fun address member => by
    have := within address member
    omega⟩


/-- The string `trim_whitespace` leaves at the pointer it returns, for a string
held by itself in an array. By `trim_whitespace_spec` the bytes around the
string change nothing. -/
def trimString (bytes : List UInt8) : List UInt8 :=
  cString (trimWhitespace (bytes ++ [0]) 0).memory (trimWhitespace (bytes ++ [0]) 0).str

theorem trim_string_eq {bytes : List UInt8} (nulFree : 0 ∉ bytes) : trimString bytes = strip bytes :=
  (trim_whitespace_spec [] [] ⟨bytes, fun _ member zero => nulFree (zero ▸ member)⟩).2.2.1

/-! ## parse_config_line and config_load -/

/-- `parse_bool`: `"true"`, `"1"`, `"yes"` and `"on"` are true. -/
def parseBool (value : List UInt8) : Bool :=
  value = ascii "true" || value = ascii "1" || value = ascii "yes" || value = ascii "on"

/-- `isdigit` in the C locale. -/
def isdigit (byte : UInt8) : Bool := 48 ≤ byte && byte ≤ 57

/-- The value of a run of decimal digits, accumulated digit by digit as
`strtol` does. -/
def digitsValue (digits : List UInt8) : Nat :=
  digits.foldl (fun value digit => value * 10 + (digit.toNat - 48)) 0

/-- `atoi(nptr)`, which glibc defines as `(int) strtol(nptr, NULL, 10)`:
`isspace` bytes, an optional sign and the leading decimal digits; `strtol`
saturates at `LONG_MIN` and `LONG_MAX`, and the conversion to `int` keeps the
low 32 bits. -/
def atoi (bytes : List UInt8) : Int :=
  let text := bytes.dropWhile isspace
  let digits := (if text.head? = some 43 ∨ text.head? = some 45 then text.tail else text).takeWhile isdigit
  let value : Int := if text.head? = some 45 then -(digitsValue digits : Int) else digitsValue digits
  (max (-9223372036854775808) (min value 9223372036854775807)).bmod 4294967296

/-- The check of a string value before `strncpy` copies it into its 256-byte
array: `strlen(value) >= sizeof(array)` is an error. -/
def parseText (value : List UInt8) : Option CStr :=
  if 256 ≤ value.length then none else some ((CStr.ofBytes value).take 255)

/-- The checks of a numeric value: an empty value is an error, and so is an
`atoi` result outside `[low, high]`. -/
def parseNumber (low high : Int) (value : List UInt8) : Option Int :=
  if value = [] then none
  else if atoi value < low ∨ high < atoi value then none
  else some (atoi value)

/-- The key table of `parse_config_line`: a known key is set when its value is
valid; the return code reports an invalid value. -/
def parseConfigKey (key value : List UInt8) (config : KiaConfig) : Status × KiaConfig :=
  if key = ascii "autologin_enabled" then
    (.success, { config with autologinEnabled := parseBool value })
  else if key = ascii "autologin_user" then
    (parseText value).elim (.errorConfig, config) fun user =>
      (.success, { config with autologinUser := user })
  else if key = ascii "default_session" then
    (parseText value).elim (.errorConfig, config) fun session =>
      (.success, { config with defaultSession := session })
  else if key = ascii "max_attempts" then
    (parseNumber 1 10 value).elim (.errorConfig, config) fun attempts =>
      (.success, { config with maxAttempts := attempts })
  else if key = ascii "enable_logs" then
    (.success, { config with enableLogs := parseBool value })
  else if key = ascii "lockout_duration" then
    (parseNumber 0 3600 value).elim (.errorConfig, config) fun duration =>
      (.success, { config with lockoutDuration := duration })
  else (.success, config)

/-- `parse_config_line(line, config)` on the string `line`: its return code and
the configuration after it. The key and the value are trimmed in place
(`trimString`); a string value is copied into its 256-byte array with `strncpy`. -/
def parseConfigLine (line : List UInt8) (config : KiaConfig) : Status × KiaConfig :=
  if line = [] ∨ line.head? = some 35 then (.success, config)
  else if 61 ∉ line then (.errorConfig, config)
  else
    let key := trimString (line.takeWhile (· != 61))
    if key = [] then (.errorConfig, config)
    else parseConfigKey key (trimString (line.dropWhile (· != 61)).tail) config

/-- One iteration of `config_load`'s loop over `has_error` and the
configuration: a skipped record sets `has_error`; a line is cut at its first CR
or LF (`strcspn(line, "\r\n")`), trimmed and parsed. -/
def configLoadStep (loaded : Bool × KiaConfig) : Option (List UInt8) → Bool × KiaConfig
  | none => (true, loaded.2)
  | some line =>
    let parsed := parseConfigLine (trimString (line.takeWhile fun byte => byte != 13 && byte != 10))
      loaded.2
    (loaded.1 || parsed.1 != .success, parsed.2)

/-- `config_load(path, config)` when `fopen(path, "r")` gives `file` (`none`
when it fails): the return code and the configuration it leaves. The loop
reads to the end of the stream, so `ferror` holds after it exactly when the
stream ends in a read error, which sets `has_error`. Both callers pass a
constant non-empty path. -/
def configLoad (file : Option ReadStream) : Status × KiaConfig :=
  match file with
  | none => (.success, KiaConfig.defaults)
  | some stream =>
    let loaded := (fileLines stream).foldl configLoadStep (false, KiaConfig.defaults)
    let hasError := loaded.1 || stream.readError
    if configValidate loaded.2 ≠ .success then (.errorConfig, KiaConfig.defaults)
    else (if hasError then .errorConfig else .success, loaded.2)

/-! ## The line-by-line reading -/

/-- The values `parse_bool` accepts. -/
def trueWords : List (List UInt8) := [ascii "true", ascii "1", ascii "yes", ascii "on"]

/-- A string value is taken when it is shorter than 256 bytes. -/
def textValue (value : List UInt8) : Option CStr :=
  if value.length < 256 then some (CStr.ofBytes value) else none

/-- A numeric value is taken when it is not empty and `atoi` reads it within
`[low, high]`. -/
def numberValue (low high : Int) (value : List UInt8) : Option Int :=
  if value ≠ [] ∧ low ≤ atoi value ∧ atoi value ≤ high then some (atoi value) else none

/-- What a key and its value do to the configuration, read on their own: a
known key is set when its value is valid, and nothing else changes. -/
def keyEffect (key value : List UInt8) (config : KiaConfig) : KiaConfig :=
  if key = ascii "autologin_enabled" then { config with autologinEnabled := value ∈ trueWords }
  else if key = ascii "autologin_user" then
    (textValue value).elim config fun user => { config with autologinUser := user }
  else if key = ascii "default_session" then
    (textValue value).elim config fun session => { config with defaultSession := session }
  else if key = ascii "max_attempts" then
    (numberValue 1 10 value).elim config fun attempts => { config with maxAttempts := attempts }
  else if key = ascii "enable_logs" then { config with enableLogs := value ∈ trueWords }
  else if key = ascii "lockout_duration" then
    (numberValue 0 3600 value).elim config fun duration => { config with lockoutDuration := duration }
  else config

/-- What one line of the file does to the configuration, read on its own: a
line of 1023 bytes or more is skipped; otherwise it is cut at its first CR and
trimmed; a line that is empty, starts with '#' or has no '=' changes nothing;
otherwise it is split at its first '=' and the trimmed key and value act. -/
def lineEffect (config : KiaConfig) (line : List UInt8) : KiaConfig :=
  let text := strip (line.takeWhile (· != 13))
  if 1023 ≤ line.length ∨ text = [] ∨ text.head? = some 35 ∨ 61 ∉ text then config
  else keyEffect (strip (text.takeWhile (· != 61))) (strip (text.dropWhile (· != 61)).tail) config

/-- The configuration the line-by-line reading gives a file's lines: a left
fold of `lineEffect`, from the defaults. -/
def lineByLineConfig (lines : List (List UInt8)) : KiaConfig :=
  lines.foldl lineEffect KiaConfig.defaults

/-- The ranges the lockout policy relies on. -/
def ConfigRanges (config : KiaConfig) : Prop :=
  1 ≤ config.maxAttempts ∧ config.maxAttempts ≤ 10 ∧ 0 ≤ config.lockoutDuration ∧
    config.lockoutDuration ≤ 3600

instance (config : KiaConfig) : Decidable (ConfigRanges config) :=
  inferInstanceAs (Decidable (_ ∧ _ ∧ _ ∧ _))

theorem parse_number_range {low high : Int} {value : List UInt8} {result : Int}
    (parsed : parseNumber low high value = some result) : low ≤ result ∧ result ≤ high := by
  unfold parseNumber at parsed
  split_ifs at parsed with empty outside
  cases parsed
  omega

/-- The ranges read only `max_attempts` and `lockout_duration`. -/
theorem ConfigRanges.of_eq {config other : KiaConfig} (ranges : ConfigRanges config)
    (attempts : other.maxAttempts = config.maxAttempts) (duration : other.lockoutDuration = config.lockoutDuration) :
    ConfigRanges other := by
  unfold ConfigRanges at *
  rw [attempts, duration]
  exact ranges

/-- The key table sets a number only within its bounds. The keys are told
apart by rewriting each test, which keeps their literals unevaluated. -/
theorem parse_config_key_ranges (key value : List UInt8) {config : KiaConfig}
    (ranges : ConfigRanges config) : ConfigRanges (parseConfigKey key value config).2 := by
  unfold parseConfigKey
  by_cases enabled : key = ascii "autologin_enabled"
  · rw [if_pos enabled]
    exact ranges.of_eq rfl rfl
  rw [if_neg enabled]
  by_cases user : key = ascii "autologin_user"
  · rw [if_pos user]
    cases parseText value <;> exact ranges.of_eq rfl rfl
  rw [if_neg user]
  by_cases session : key = ascii "default_session"
  · rw [if_pos session]
    cases parseText value <;> exact ranges.of_eq rfl rfl
  rw [if_neg session]
  by_cases attempts : key = ascii "max_attempts"
  · rw [if_pos attempts]
    cases parsed : parseNumber 1 10 value with
    | none => exact ranges
    | some attempts => exact ⟨(parse_number_range parsed).1, (parse_number_range parsed).2, ranges.2.2⟩
  rw [if_neg attempts]
  by_cases logs : key = ascii "enable_logs"
  · rw [if_pos logs]
    exact ranges.of_eq rfl rfl
  rw [if_neg logs]
  by_cases duration : key = ascii "lockout_duration"
  · rw [if_pos duration]
    cases parsed : parseNumber 0 3600 value with
    | none => exact ranges
    | some duration => exact ⟨ranges.1, ranges.2.1, parse_number_range parsed⟩
  rw [if_neg duration]
  exact ranges

theorem parse_config_line_ranges (line : List UInt8) {config : KiaConfig} (ranges : ConfigRanges config) :
    ConfigRanges (parseConfigLine line config).2 := by
  unfold parseConfigLine
  dsimp only
  split_ifs
  · exact ranges
  · exact ranges
  · exact parse_config_key_ranges _ _ ranges
  · exact ranges

/-- A step of the loop keeps the ranges. -/
theorem config_load_step_ranges (loaded : Bool × KiaConfig) (ranges : ConfigRanges loaded.2)
    (record : Option (List UInt8)) : ConfigRanges (configLoadStep loaded record).2 := by
  cases record with
  | none => exact ranges
  | some line =>
    simp only [configLoadStep]
    exact parse_config_line_ranges _ ranges

theorem config_validate_of_ranges {config : KiaConfig} (ranges : ConfigRanges config) :
    configValidate config = .success := by
  unfold configValidate ConfigRanges at *
  rw [if_pos ⟨ranges.1, ranges.2.1, ranges.2.2.1⟩]

theorem config_load_fold_ranges (records : List (Option (List UInt8))) (loaded : Bool × KiaConfig)
    (ranges : ConfigRanges loaded.2) : ConfigRanges (records.foldl configLoadStep loaded).2 := by
  induction records generalizing loaded with
  | nil => exact ranges
  | cons record records ih => exact ih _ (config_load_step_ranges loaded ranges record)

theorem config_defaults_ranges : ConfigRanges KiaConfig.defaults := by decide

/-- With the ranges kept, `config_validate` never rejects what the loop built. -/
theorem config_load_some (stream : ReadStream) :
    (configLoad (some stream)).2 = ((fileLines stream).foldl configLoadStep (false, KiaConfig.defaults)).2 := by
  have valid := config_validate_of_ranges
    (config_load_fold_ranges (fileLines stream) (false, KiaConfig.defaults) config_defaults_ranges)
  simp only [configLoad, valid, ne_eq, not_true_eq_false, if_false]

/-- Whatever the file holds, the configuration `config_load` leaves has
`max_attempts` in `[1, 10]` and `lockout_duration` in `[0, 3600]`. -/
theorem config_load_ranges (file : Option ReadStream) : ConfigRanges (configLoad file).2 := by
  cases file with
  | none => exact config_defaults_ranges
  | some stream =>
    rw [config_load_some]
    exact config_load_fold_ranges _ (false, KiaConfig.defaults) config_defaults_ranges

/-- A numeral beyond the range of `int` wraps: `max_attempts=4294967297` loads
without error and sets `max_attempts` to 1, where `max_attempts=11`, like every
value above 10 the boundary tests try, is an error that leaves the defaults. A
line holding a NUL byte hides the line after it: the following
`max_attempts=5`, which the line-by-line reading applies, is never parsed. -/
theorem wrapped_numeral_and_hidden_line :
    digitsValue (ascii "4294967297") = 4294967297 ∧
      configLoad (some ⟨ascii "max_attempts=4294967297\n", false⟩) =
        (.success, { KiaConfig.defaults with maxAttempts := 1 }) ∧
      configLoad (some ⟨ascii "max_attempts=11\n", false⟩) = (.errorConfig, KiaConfig.defaults) ∧
      (configLoad (some ⟨ascii "x" ++ [0] ++ ascii "\nmax_attempts=5\n", false⟩)).2.maxAttempts = 3 ∧
      (lineByLineConfig (readableLines false (ascii "x" ++ [0] ++ ascii "\nmax_attempts=5\n"))).maxAttempts = 5 := by
  decide

end Kia
