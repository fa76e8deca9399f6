import Kia.Context

/-!
# Reading the credentials

`tui_get_credentials` of `tui.c`. After its checks it clears both arrays, then
loops: it redraws the form, calls `refresh` and `getch`, and edits the focused
field by the key read, until Enter is pressed with a name typed. The drawing
calls only write to the screen and are not modelled. A run is given by the
terminal's answers, one per iteration: `none` for a `refresh` that returns
`ERR`, or else the value `getch` returns.

A field's position is an `int` compared with `(int)user_len - 1` and with 20,
so a field takes at most `fieldCapacity` characters: 20 for the 256-byte
arrays of the context. `credentials_loop_edits` shows that the loop is the
two-field line editor `LineEditor` with those capacities, each array holding
its field's text followed by zero bytes, and `tui_get_credentials_strings`
reads the arrays back as the strings the editor submits.

The banners of `tui_show_error` and `tui_show_message`, one body with the
color pair as a parameter (`showBanner`), always lie within a row of the
screen: `show_banner_fits`.
-/

namespace Kia

/-! ## tui_get_credentials -/

/-- ncurses' `ERR`. -/
def err : Int := -1

/-- ncurses' `KEY_DOWN`. -/
def keyDown : Int := 258

/-- ncurses' `KEY_UP`. -/
def keyUp : Int := 259

/-- ncurses' `KEY_BACKSPACE`. -/
def keyBackspace : Int := 263

/-- ncurses' `KEY_ENTER`. -/
def keyEnter : Int := 343

/-- `FIELD_USERNAME` and `FIELD_PASSWORD`. -/
inductive Field where
  | username
  | password
deriving DecidableEq, Repr

/-- `buffer[index] = byte`. -/
def Buffer.write {size : Nat} (buffer : Buffer size) (index : Nat) (byte : UInt8) : Buffer size :=
  ⟨buffer.bytes.set index byte, by rw [List.length_set, buffer.length_eq]⟩

/-- `(int)size` for a `size_t`: its low 32 bits as a signed number. -/
def sizeToInt (size : Nat) : Int := (size : Int).bmod 4294967296

/-- The locals the loop of `tui_get_credentials` edits. -/
structure CredentialsLoop (userLen passLen : Nat) where
  currentField : Field
  username : Buffer userLen
  usernamePos : Nat
  password : Buffer passLen
  passwordPos : Nat

/-- Where the `switch` of the loop leaves it: returning `KIA_SUCCESS`, or at
the next iteration. -/
inductive Switch (α : Type) where
  | submitted (state : α)
  | continued (state : α)

section Loop

variable {userLen passLen : Nat}

/-- The `switch (ch)` of the loop. -/
def credentialsKey (loop : CredentialsLoop userLen passLen) (ch : Int) : Switch (CredentialsLoop userLen passLen) :=
  if ch = 10 ∨ ch = keyEnter then
    if 0 < loop.usernamePos then
      .submitted { loop with
        username := loop.username.write loop.usernamePos 0
        password := loop.password.write loop.passwordPos 0 }
    else .continued loop
  else if ch = 9 ∨ ch = keyDown then
    .continued { loop with currentField := if loop.currentField = .username then .password else .username }
  else if ch = keyUp then
    .continued { loop with currentField := if loop.currentField = .password then .username else .password }
  else if ch = keyBackspace ∨ ch = 127 ∨ ch = 8 then
    if loop.currentField = .username ∧ 0 < loop.usernamePos then
      .continued { loop with
        usernamePos := loop.usernamePos - 1
        username := loop.username.write (loop.usernamePos - 1) 0 }
    else if loop.currentField = .password ∧ 0 < loop.passwordPos then
      .continued { loop with
        passwordPos := loop.passwordPos - 1
        password := loop.password.write (loop.passwordPos - 1) 0 }
    else .continued loop
  else if ch = 27 then
    if loop.currentField = .username then
      .continued { loop with username := Buffer.zero userLen, usernamePos := 0 }
    else .continued { loop with password := Buffer.zero passLen, passwordPos := 0 }
  else if 32 ≤ ch ∧ ch ≤ 126 then
    if loop.currentField = .username ∧ (loop.usernamePos : Int) < sizeToInt userLen - 1 ∧
        loop.usernamePos < 20 then
      .continued { loop with
        username := (loop.username.write loop.usernamePos (UInt8.ofNat ch.toNat)).write (loop.usernamePos + 1) 0
        usernamePos := loop.usernamePos + 1 }
    else if loop.currentField = .password ∧ (loop.passwordPos : Int) < sizeToInt passLen - 1 ∧
        loop.passwordPos < 20 then
      .continued { loop with
        password := (loop.password.write loop.passwordPos (UInt8.ofNat ch.toNat)).write (loop.passwordPos + 1) 0
        passwordPos := loop.passwordPos + 1 }
    else .continued loop
  else .continued loop

/-- The `while (1)` loop from `loop` over the terminal's answers: the code it
returns with the locals it leaves, or `none` while it still waits for a key. -/
def credentialsLoop : CredentialsLoop userLen passLen → List (Option Int) →
    Option (Status × CredentialsLoop userLen passLen)
  | _, [] => none
  | loop, none :: _ => some (.errorSystem, loop)
  | loop, some ch :: answers =>
    if ch = err then some (.errorSystem, loop)
    else
      match credentialsKey loop ch with
      | .submitted loop => some (.success, loop)
      | .continued loop => credentialsLoop loop answers

/-- `tui_get_credentials(username, user_len, password, pass_len)` on a screen
of `screen` rows and columns (`none` when `stdscr` is NULL): the code it
returns and the two arrays, or `none` while it waits for a key. -/
def tuiGetCredentials (username : Buffer userLen) (password : Buffer passLen) (screen : Option (Int × Int))
    (answers : List (Option Int)) : Option (Status × Buffer userLen × Buffer passLen) :=
  if userLen = 0 ∨ passLen = 0 then some (.errorSystem, username, password)
  else
    match screen with
    | none => some (.errorSystem, username, password)
    | some (maxY, maxX) =>
      if maxY < 10 ∨ maxX < 50 then some (.errorSystem, username, password)
      else
        (credentialsLoop ⟨.username, Buffer.zero userLen, 0, Buffer.zero passLen, 0⟩ answers).map
          fun run => (run.1, run.2.username, run.2.password)

end Loop

/-! ## The two-field line editor -/

/-- The keys of a two-field line editor. -/
inductive EditKey where
  | printable (char : UInt8)
  | tab
  | up
  | down
  | backspace
  | escape
  | enter
deriving DecidableEq, Repr

/-- The key a code from getch stands for, by ASCII and the ncurses key codes;
`none` for a code that is no key of the editor. -/
def keyOf (ch : Int) : Option EditKey :=
  if ch = 10 ∨ ch = keyEnter then some .enter
  else if ch = 9 then some .tab
  else if ch = keyDown then some .down
  else if ch = keyUp then some .up
  else if ch = keyBackspace ∨ ch = 127 ∨ ch = 8 then some .backspace
  else if ch = 27 then some .escape
  else if 32 ≤ ch ∧ ch ≤ 126 then some (.printable (UInt8.ofNat ch.toNat))
  else none

/-- The field the focus moves to. -/
def Field.other : Field → Field
  | .username => .password
  | .password => .username

/-- A two-field line editor: the focused field and the text of each field. -/
structure LineEditor where
  focus : Field
  username : List UInt8
  password : List UInt8
deriving DecidableEq, Repr

/-- Both fields empty, the name focused. -/
def LineEditor.initial : LineEditor := ⟨.username, [], []⟩

/-- One key, with fields of at most `userCap` and `passCap` characters: a
printable key appends to the focused field unless it is full, Backspace deletes
its last character, Escape clears it, and Tab, Up and Down move the focus. -/
def LineEditor.press (userCap passCap : Nat) (editor : LineEditor) : EditKey → LineEditor
  | .printable char =>
    match editor.focus with
    | .username =>
      if editor.username.length < userCap then { editor with username := editor.username ++ [char] } else editor
    | .password =>
      if editor.password.length < passCap then { editor with password := editor.password ++ [char] } else editor
  | .tab | .up | .down => { editor with focus := editor.focus.other }
  | .backspace =>
    match editor.focus with
    | .username => { editor with username := editor.username.dropLast }
    | .password => { editor with password := editor.password.dropLast }
  | .escape =>
    match editor.focus with
    | .username => { editor with username := [] }
    | .password => { editor with password := [] }
  | .enter => editor

/-- The editor over a run of keys: the fields at the first Enter pressed with a
name typed, which submits them, or `none` when no Enter submits. -/
def LineEditor.run (userCap passCap : Nat) : LineEditor → List EditKey → Option LineEditor
  | _, [] => none
  | editor, key :: keys =>
    if key = .enter ∧ editor.username ≠ [] then some editor
    else (editor.press userCap passCap key).run userCap passCap keys

/-- The keys the loop reads before a failed refresh or an ERR from getch. -/
def keysRead : List (Option Int) → List EditKey
  | [] => []
  | none :: _ => []
  | some ch :: answers => if ch = err then [] else (keyOf ch).toList ++ keysRead answers

/-! ## The loop is the line editor -/

/-- The characters a field of a `size`-byte array takes: its position must stay
below `(int)size - 1` and below 20. -/
def fieldCapacity (size : Nat) : Nat := min (sizeToInt size - 1).toNat 20

/-- A `size`-byte array holding `text` and then zero bytes. -/
def Buffer.pad (size : Nat) (text : List UInt8) : Buffer size :=
  ⟨(text ++ List.replicate size 0).take size, by simp⟩

/-- The locals of the loop for a state of the editor. -/
def CredentialsLoop.ofEditor {userLen passLen : Nat} (editor : LineEditor) : CredentialsLoop userLen passLen :=
  ⟨editor.focus, Buffer.pad userLen editor.username, editor.username.length,
    Buffer.pad passLen editor.password, editor.password.length⟩

/-- The fields hold at most `userCap` and `passCap` characters. -/
def LineEditor.Fits (userCap passCap : Nat) (editor : LineEditor) : Prop :=
  editor.username.length ≤ userCap ∧ editor.password.length ≤ passCap

@[ext] theorem Buffer.ext {size : Nat} {first second : Buffer size} (same : first.bytes = second.bytes) :
    first = second := by
  cases first
  cases second
  cases same
  rfl

theorem Buffer.pad_bytes {size : Nat} {text : List UInt8} (fits : text.length ≤ size) :
    (Buffer.pad size text).bytes = text ++ List.replicate (size - text.length) 0 := by
  simp [Buffer.pad, List.take_append_eq_append_take, List.take_of_length_le fits, List.take_replicate]

theorem Buffer.zero_eq_pad (size : Nat) : Buffer.zero size = Buffer.pad size [] := by
  ext
  simp [Buffer.zero, Buffer.pad_bytes]

theorem Buffer.pad_write_terminator {size : Nat} {text : List UInt8} (short : text.length < size) :
    (Buffer.pad size text).write text.length 0 = Buffer.pad size text := by
  ext
  obtain ⟨rest, gap⟩ : ∃ rest, size - text.length = rest + 1 := ⟨_, (Nat.succ_pred_eq_of_pos (by omega)).symm⟩
  simp [Buffer.write, Buffer.pad_bytes short.le, gap, List.replicate_succ]

theorem Buffer.pad_write_append {size : Nat} {text : List UInt8} (char : UInt8) (short : text.length + 1 < size) :
    ((Buffer.pad size text).write text.length char).write (text.length + 1) 0 = Buffer.pad size (text ++ [char]) := by
  ext
  obtain ⟨rest, gap⟩ : ∃ rest, size - text.length = rest + 2 := ⟨size - text.length - 2, by omega⟩
  have after : size - (text.length + 1) = rest + 1 := by omega
  simp [Buffer.write, Buffer.pad_bytes (show text.length ≤ size by omega), Buffer.pad_bytes (show (text ++ [char]).length ≤ size by simp; omega),
    gap, after, List.replicate_succ, List.set_append_right]

theorem Buffer.pad_write_delete {size : Nat} {text : List UInt8} (filled : text ≠ []) (fits : text.length ≤ size) :
    (Buffer.pad size text).write (text.length - 1) 0 = Buffer.pad size text.dropLast := by
  ext
  obtain ⟨front, last, rfl⟩ : ∃ front last, text = front ++ [last] :=
    ⟨text.dropLast, text.getLast filled, (List.dropLast_append_getLast filled).symm⟩
  have gap : size - front.length = size - (front.length + 1) + 1 := by simp at fits; omega
  simp [Buffer.write, Buffer.pad_bytes fits, Buffer.pad_bytes (show front.length ≤ size by simp at fits; omega),
    gap, List.replicate_succ, List.set_append_right]

theorem size_to_int_of_lt {size : Nat} (small : size < 2147483648) : sizeToInt size = size := by
  unfold sizeToInt
  rw [Int.bmod, Int.emod_eq_of_lt (by omega) (by omega), if_pos (by omega)]

theorem field_capacity_lt {size : Nat} (filled : 0 < size) : fieldCapacity size < size := by
  unfold fieldCapacity
  rcases Nat.lt_or_ge 20 size with large | small
  · omega
  · rw [size_to_int_of_lt (by omega)]
    omega

theorem position_fits (size position : Nat) :
    ((position : Int) < sizeToInt size - 1 ∧ position < 20) ↔ position < fieldCapacity size := by
  unfold fieldCapacity
  omega

section Simulation

variable {userLen passLen : Nat} {ch : Int}

/-! One lemma per case of the switch, on the arrays of an editor state. -/

theorem credentials_key_enter (filled : 0 < userLen ∧ 0 < passLen) {editor : LineEditor}
    (fits : editor.Fits (fieldCapacity userLen) (fieldCapacity passLen)) (enter : ch = 10 ∨ ch = keyEnter) :
    credentialsKey (CredentialsLoop.ofEditor editor : CredentialsLoop userLen passLen) ch =
      if editor.username ≠ [] then .submitted (.ofEditor editor) else .continued (.ofEditor editor) := by
  rw [credentialsKey, if_pos enter]
  by_cases typed : editor.username = []
  · simp [CredentialsLoop.ofEditor, typed]
  · have terminated := Buffer.pad_write_terminator (fits.1.trans_lt (field_capacity_lt filled.1))
    have passTerminated := Buffer.pad_write_terminator (fits.2.trans_lt (field_capacity_lt filled.2))
    simp [CredentialsLoop.ofEditor, typed, List.length_pos.mpr typed, terminated, passTerminated]

theorem credentials_key_focus (editor : LineEditor) (move : ch = 9 ∨ ch = keyDown ∨ ch = keyUp)
    (notEnter : ¬(ch = 10 ∨ ch = keyEnter)) :
    credentialsKey (CredentialsLoop.ofEditor editor : CredentialsLoop userLen passLen) ch =
      .continued (.ofEditor { editor with focus := editor.focus.other }) := by
  obtain ⟨focus, username, password⟩ := editor
  rw [credentialsKey, if_neg notEnter]
  by_cases tab : ch = 9 ∨ ch = keyDown
  · rw [if_pos tab]
    cases focus <;> rfl
  · rw [if_neg tab, if_pos (by tauto)]
    cases focus <;> rfl

theorem credentials_key_backspace (filled : 0 < userLen ∧ 0 < passLen) {editor : LineEditor}
    (fits : editor.Fits (fieldCapacity userLen) (fieldCapacity passLen))
    (backspace : ch = keyBackspace ∨ ch = 127 ∨ ch = 8)
    (earlier : ¬(ch = 10 ∨ ch = keyEnter) ∧ ¬(ch = 9 ∨ ch = keyDown) ∧ ¬ch = keyUp) :
    credentialsKey (CredentialsLoop.ofEditor editor : CredentialsLoop userLen passLen) ch =
      .continued (.ofEditor (editor.press (fieldCapacity userLen) (fieldCapacity passLen) .backspace)) := by
  obtain ⟨focus, username, password⟩ := editor
  rw [credentialsKey, if_neg earlier.1, if_neg earlier.2.1, if_neg earlier.2.2, if_pos backspace]
  cases focus
  · by_cases typed : username = []
    · simp [CredentialsLoop.ofEditor, LineEditor.press, typed]
    · simp [CredentialsLoop.ofEditor, LineEditor.press, List.length_pos.mpr typed,
        Buffer.pad_write_delete typed (fits.1.trans (field_capacity_lt filled.1).le)]
  · by_cases typed : password = []
    · simp [CredentialsLoop.ofEditor, LineEditor.press, typed]
    · simp [CredentialsLoop.ofEditor, LineEditor.press, List.length_pos.mpr typed,
        Buffer.pad_write_delete typed (fits.2.trans (field_capacity_lt filled.2).le)]

theorem credentials_key_escape (editor : LineEditor)
    (earlier : ¬(ch = 10 ∨ ch = keyEnter) ∧ ¬(ch = 9 ∨ ch = keyDown) ∧ ¬ch = keyUp ∧
      ¬(ch = keyBackspace ∨ ch = 127 ∨ ch = 8)) (escape : ch = 27) :
    credentialsKey (CredentialsLoop.ofEditor editor : CredentialsLoop userLen passLen) ch =
      .continued (.ofEditor (editor.press (fieldCapacity userLen) (fieldCapacity passLen) .escape)) := by
  rw [credentialsKey, if_neg earlier.1, if_neg earlier.2.1, if_neg earlier.2.2.1, if_neg earlier.2.2.2, if_pos escape]
  obtain ⟨focus, username, password⟩ := editor
  cases focus <;> simp [CredentialsLoop.ofEditor, LineEditor.press, Buffer.zero_eq_pad]

theorem credentials_key_printable (filled : 0 < userLen ∧ 0 < passLen) {editor : LineEditor}
    (fits : editor.Fits (fieldCapacity userLen) (fieldCapacity passLen))
    (earlier : ¬(ch = 10 ∨ ch = keyEnter) ∧ ¬(ch = 9 ∨ ch = keyDown) ∧ ¬ch = keyUp ∧
      ¬(ch = keyBackspace ∨ ch = 127 ∨ ch = 8) ∧ ¬ch = 27) (printable : 32 ≤ ch ∧ ch ≤ 126) :
    credentialsKey (CredentialsLoop.ofEditor editor : CredentialsLoop userLen passLen) ch =
      .continued (.ofEditor (editor.press (fieldCapacity userLen) (fieldCapacity passLen)
        (.printable (UInt8.ofNat ch.toNat)))) := by
  rw [credentialsKey, if_neg earlier.1, if_neg earlier.2.1, if_neg earlier.2.2.1, if_neg earlier.2.2.2.1,
    if_neg earlier.2.2.2.2, if_pos printable]
  obtain ⟨focus, username, password⟩ := editor
  have userShort := field_capacity_lt filled.1
  have passShort := field_capacity_lt filled.2
  cases focus
  · by_cases room : username.length < fieldCapacity userLen
    · rw [if_pos ⟨rfl, (position_fits _ _).mpr room⟩]
      simp [CredentialsLoop.ofEditor, LineEditor.press, room,
        Buffer.pad_write_append _ (show username.length + 1 < userLen by omega)]
    · rw [if_neg fun guard => room ((position_fits _ _).mp guard.2), if_neg (by simp [CredentialsLoop.ofEditor])]
      simp [LineEditor.press, room]
  · by_cases room : password.length < fieldCapacity passLen
    · rw [if_neg (by simp [CredentialsLoop.ofEditor]), if_pos ⟨rfl, (position_fits _ _).mpr room⟩]
      simp [CredentialsLoop.ofEditor, LineEditor.press, room,
        Buffer.pad_write_append _ (show password.length + 1 < passLen by omega)]
    · rw [if_neg (by simp [CredentialsLoop.ofEditor]), if_neg fun guard => room ((position_fits _ _).mp guard.2)]
      simp [LineEditor.press, room]

/-- One key: the switch of the loop on the arrays of an editor state is the
editor's key, and it submits exactly at an Enter with a name typed. -/
theorem credentials_key_press (filled : 0 < userLen ∧ 0 < passLen) {editor : LineEditor}
    (fits : editor.Fits (fieldCapacity userLen) (fieldCapacity passLen)) :
    credentialsKey (CredentialsLoop.ofEditor editor : CredentialsLoop userLen passLen) ch =
      if keyOf ch = some .enter ∧ editor.username ≠ [] then .submitted (.ofEditor editor)
      else .continued (.ofEditor ((keyOf ch).elim editor (editor.press (fieldCapacity userLen) (fieldCapacity passLen)))) := by
  by_cases enter : ch = 10 ∨ ch = keyEnter
  · rw [credentials_key_enter filled fits enter, keyOf, if_pos enter]
    by_cases typed : editor.username = [] <;> simp [typed, LineEditor.press]
  by_cases tab : ch = 9
  · rw [credentials_key_focus editor (.inl tab) enter, keyOf, if_neg enter, if_pos tab]
    simp [LineEditor.press]
  by_cases down : ch = keyDown
  · rw [credentials_key_focus editor (.inr (.inl down)) enter, keyOf, if_neg enter, if_neg tab, if_pos down]
    simp [LineEditor.press]
  by_cases up : ch = keyUp
  · rw [credentials_key_focus editor (.inr (.inr up)) enter, keyOf, if_neg enter, if_neg tab, if_neg down,
      if_pos up]
    simp [LineEditor.press]
  have notTab : ¬(ch = 9 ∨ ch = keyDown) := fun either => either.elim tab down
  by_cases backspace : ch = keyBackspace ∨ ch = 127 ∨ ch = 8
  · rw [credentials_key_backspace filled fits backspace ⟨enter, notTab, up⟩, keyOf, if_neg enter, if_neg tab,
      if_neg down, if_neg up, if_pos backspace]
    simp
  by_cases escape : ch = 27
  · rw [credentials_key_escape editor ⟨enter, notTab, up, backspace⟩ escape, keyOf, if_neg enter, if_neg tab,
      if_neg down, if_neg up, if_neg backspace, if_pos escape]
    simp
  by_cases printable : 32 ≤ ch ∧ ch ≤ 126
  · rw [credentials_key_printable filled fits ⟨enter, notTab, up, backspace, escape⟩ printable, keyOf, if_neg enter,
      if_neg tab, if_neg down, if_neg up, if_neg backspace, if_neg escape, if_pos printable]
    simp
  rw [credentialsKey, if_neg enter, if_neg notTab, if_neg up, if_neg backspace, if_neg escape, if_neg printable,
    keyOf, if_neg enter, if_neg tab, if_neg down, if_neg up, if_neg backspace, if_neg escape, if_neg printable]
  simp

/-- A key keeps the fields within their capacities. -/
theorem press_fits {userCap passCap : Nat} {editor : LineEditor} (fits : editor.Fits userCap passCap)
    (key : EditKey) : (editor.press userCap passCap key).Fits userCap passCap := by
  obtain ⟨focus, username, password⟩ := editor
  obtain ⟨userFits, passFits⟩ := fits
  dsimp only at userFits passFits
  cases key with
  | printable char =>
    cases focus <;> simp only [LineEditor.press] <;> split_ifs <;> simp [LineEditor.Fits] <;> omega
  | backspace => cases focus <;> simp [LineEditor.press, LineEditor.Fits] <;> omega
  | _ => cases focus <;> simp [LineEditor.press, LineEditor.Fits, userFits, passFits]

/-- A run: from the arrays of an editor state within the capacities, the loop
returns KIA_SUCCESS exactly when the editor submits on the keys read, and then
leaves the arrays of the fields submitted. -/
theorem credentials_loop_edits (filled : 0 < userLen ∧ 0 < passLen) (answers : List (Option Int))
    {editor : LineEditor} (fits : editor.Fits (fieldCapacity userLen) (fieldCapacity passLen)) :
    (credentialsLoop (CredentialsLoop.ofEditor editor : CredentialsLoop userLen passLen) answers).bind
        (fun run => if run.1 = .success then some run.2 else none) =
      (editor.run (fieldCapacity userLen) (fieldCapacity passLen) (keysRead answers)).map CredentialsLoop.ofEditor := by
  induction answers generalizing editor with
  | nil => rfl
  | cons answer answers ih =>
    cases answer with
    | none => rfl
    | some ch =>
      by_cases failed : ch = err
      · simp [credentialsLoop, keysRead, failed, LineEditor.run]
      rw [credentialsLoop, if_neg failed, credentials_key_press filled fits, keysRead, if_neg failed]
      cases keyOf ch with
      | none => simpa using ih fits
      | some key =>
        by_cases submits : key = .enter ∧ editor.username ≠ []
        · simp [submits, LineEditor.run]
        · rw [if_neg (by simpa using submits)]
          simpa [LineEditor.run, submits] using ih (press_fits fits key)

/-- Wherever the loop returns, its locals are the arrays of an editor state
within the capacities. -/
theorem credentials_loop_holds_editor (filled : 0 < userLen ∧ 0 < passLen) (answers : List (Option Int))
    {editor : LineEditor} (fits : editor.Fits (fieldCapacity userLen) (fieldCapacity passLen))
    {run : Status × CredentialsLoop userLen passLen}
    (returned : credentialsLoop (CredentialsLoop.ofEditor editor) answers = some run) :
    ∃ edited : LineEditor, edited.Fits (fieldCapacity userLen) (fieldCapacity passLen) ∧ run.2 = .ofEditor edited := by
  induction answers generalizing editor with
  | nil => cases returned
  | cons answer answers ih =>
    cases answer with
    | none =>
      cases returned
      exact ⟨editor, fits, rfl⟩
    | some ch =>
      rw [credentialsLoop] at returned
      split_ifs at returned with failed
      · cases returned
        exact ⟨editor, fits, rfl⟩
      rw [credentials_key_press filled fits] at returned
      by_cases submits : keyOf ch = some .enter ∧ editor.username ≠ []
      · rw [if_pos submits] at returned
        cases returned
        exact ⟨editor, fits, rfl⟩
      · rw [if_neg submits] at returned
        cases decoded : keyOf ch with
        | none => exact ih fits (by simpa [decoded] using returned)
        | some key => exact ih (press_fits fits key) (by simpa [decoded] using returned)

theorem credentials_loop_start :
    (⟨.username, Buffer.zero userLen, 0, Buffer.zero passLen, 0⟩ : CredentialsLoop userLen passLen) =
      .ofEditor LineEditor.initial := by
  simp [CredentialsLoop.ofEditor, LineEditor.initial, Buffer.zero_eq_pad]

/-- tui_get_credentials on a large enough screen, with arrays of at least one
byte: it returns KIA_SUCCESS exactly when the line editor with fields of
`fieldCapacity` characters submits on the keys read, and then each array holds
its field's text followed by zero bytes, whatever the arrays held before. -/
theorem tui_get_credentials_edits (username : Buffer userLen) (password : Buffer passLen)
    (filled : 0 < userLen ∧ 0 < passLen) {rows columns : Int} (large : 10 ≤ rows ∧ 50 ≤ columns)
    (answers : List (Option Int)) :
    (tuiGetCredentials username password (some (rows, columns)) answers).bind
        (fun call => if call.1 = .success then some call.2 else none) =
      (LineEditor.initial.run (fieldCapacity userLen) (fieldCapacity passLen) (keysRead answers)).map
        fun editor => (Buffer.pad userLen editor.username, Buffer.pad passLen editor.password) := by
  have loop := credentials_loop_edits filled answers
    (show LineEditor.initial.Fits (fieldCapacity userLen) (fieldCapacity passLen) from ⟨Nat.zero_le _, Nat.zero_le _⟩)
  have projected : ∀ result : Option (Status × CredentialsLoop userLen passLen),
      (result.map fun run => (run.1, run.2.username, run.2.password)).bind
          (fun call => if call.1 = .success then some call.2 else none) =
        (result.bind fun run => if run.1 = .success then some run.2 else none).map
          fun loop => (loop.username, loop.password) := by
    rintro (_ | ⟨status, loop⟩)
    · rfl
    · by_cases succeeded : status = .success <;> simp [succeeded]
  rw [tuiGetCredentials, if_neg (by omega), if_neg (by omega), credentials_loop_start, projected, loop,
    Option.map_map]
  rfl

example : LineEditor.initial.run (fieldCapacity 256) (fieldCapacity 256)
    (keysRead [some 117, some 9, some 112, some 10]) = some ⟨.password, [117], [112]⟩ := by
  decide

/-- Over a run that submits, a property every key keeps holds of the fields
submitted. -/
theorem run_invariant {userCap passCap : Nat} (holds : LineEditor → Prop) (keys : List EditKey)
    (step : ∀ editor key, key ∈ keys → holds editor → holds (editor.press userCap passCap key))
    {editor edited : LineEditor} (start : holds editor) (submitted : editor.run userCap passCap keys = some edited) :
    holds edited := by
  induction keys generalizing editor with
  | nil => cases submitted
  | cons key keys ih =>
    rw [LineEditor.run] at submitted
    split_ifs at submitted
    · cases submitted
      exact start
    · exact ih (fun editor key member => step editor key (.tail _ member)) (step editor key (.head _) start)
        submitted

/-- A byte the form stores as typed: a code from 32 to 126. -/
def Printable (byte : UInt8) : Prop := 32 ≤ byte.toNat ∧ byte.toNat ≤ 126

instance (byte : UInt8) : Decidable (Printable byte) := inferInstanceAs (Decidable (_ ∧ _))

theorem Printable.ne_zero {byte : UInt8} (printable : Printable byte) : byte ≠ 0 := by
  rintro rfl
  exact absurd printable.1 (by decide)

/-- Every character of both fields is printable. -/
def LineEditor.Typed (editor : LineEditor) : Prop :=
  (∀ byte ∈ editor.username, Printable byte) ∧ ∀ byte ∈ editor.password, Printable byte

/-- A key that types only printable characters keeps both fields printable. -/
theorem press_typed {userCap passCap : Nat} {editor : LineEditor} (typed : editor.Typed) {key : EditKey}
    (printable : ∀ char, key = .printable char → Printable char) : (editor.press userCap passCap key).Typed := by
  obtain ⟨focus, username, password⟩ := editor
  obtain ⟨userTyped, passTyped⟩ := typed
  dsimp only at userTyped passTyped
  cases key with
  | printable char =>
    have extended (text : List UInt8) (typed : ∀ byte ∈ text, Printable byte) :
        ∀ byte ∈ text ++ [char], Printable byte := fun byte member =>
      (List.mem_append.mp member).elim (typed byte) fun last => List.mem_singleton.mp last ▸ printable char rfl
    cases focus <;> simp only [LineEditor.press] <;> split_ifs
    · exact ⟨extended _ userTyped, passTyped⟩
    · exact ⟨userTyped, passTyped⟩
    · exact ⟨userTyped, extended _ passTyped⟩
    · exact ⟨userTyped, passTyped⟩
  | backspace =>
    cases focus
    · exact ⟨fun byte member => userTyped byte (List.dropLast_subset _ member), passTyped⟩
    · exact ⟨userTyped, fun byte member => passTyped byte (List.dropLast_subset _ member)⟩
  | escape =>
    cases focus
    · exact ⟨(fun _ empty => nomatch empty), passTyped⟩
    · exact ⟨userTyped, fun _ empty => nomatch empty⟩
  | _ => exact ⟨userTyped, passTyped⟩

/-- A printable key comes from a code of 32 to 126. -/
theorem key_of_printable_char {ch : Int} {char : UInt8} (decoded : keyOf ch = some (.printable char)) :
    Printable char := by
  have range : 32 ≤ ch ∧ ch ≤ 126 ∧ char = UInt8.ofNat ch.toNat := by
    unfold keyOf at decoded
    by_cases printable : 32 ≤ ch ∧ ch ≤ 126
    · refine ⟨printable.1, printable.2, ?_⟩
      rw [if_neg (by unfold keyEnter; omega), if_neg (by omega), if_neg (by unfold keyDown; omega),
        if_neg (by unfold keyUp; omega), if_neg (by unfold keyBackspace; omega), if_neg (by omega),
        if_pos printable] at decoded
      cases decoded
      rfl
    · simp [printable, apply_ite (· = some (EditKey.printable char))] at decoded
  rw [Printable, range.2.2, UInt8.toNat_ofNat_of_lt (by simp only [UInt8.size]; omega)]
  omega

theorem keys_read_printable (answers : List (Option Int)) {char : UInt8}
    (member : EditKey.printable char ∈ keysRead answers) : Printable char := by
  induction answers with
  | nil => cases member
  | cons answer answers ih =>
    cases answer with
    | none => cases member
    | some ch =>
      rw [keysRead] at member
      split_ifs at member
      · cases member
      · rcases List.mem_append.mp member with decoded | later
        · exact key_of_printable_char (Option.mem_toList.mp decoded)
        · exact ih later

/-- A `size`-byte array holding a text shorter than itself without NUL bytes
reads back, as a C string, as that text. -/
theorem Buffer.str_pad {size : Nat} {text : List UInt8} (nulFree : 0 ∉ text) (short : text.length < size) :
    (Buffer.pad size text).str.bytes = text := by
  obtain ⟨rest, gap⟩ : ∃ rest, size - text.length = rest + 1 := ⟨_, (Nat.succ_pred_eq_of_pos (by omega)).symm⟩
  simp only [Buffer.str, Buffer.pad_bytes short.le, gap, List.replicate_succ]
  rw [List.takeWhile_append_of_pos fun byte member => by simpa using ne_of_mem_of_not_mem member nulFree]
  simp

/-- When the editor submits on the keys read, tui_get_credentials returns
KIA_SUCCESS and the two arrays, read as C strings, are the fields submitted. -/
theorem tui_get_credentials_strings (username : Buffer userLen) (password : Buffer passLen)
    (filled : 0 < userLen ∧ 0 < passLen) {rows columns : Int} (large : 10 ≤ rows ∧ 50 ≤ columns)
    (answers : List (Option Int)) {edited : LineEditor}
    (submitted : LineEditor.initial.run (fieldCapacity userLen) (fieldCapacity passLen) (keysRead answers) = some edited) :
    ∃ call, tuiGetCredentials username password (some (rows, columns)) answers = some call ∧ call.1 = .success ∧
      call.2.1.str.bytes = edited.username ∧ call.2.2.str.bytes = edited.password := by
  have edits := tui_get_credentials_edits username password filled large answers
  rw [submitted, Option.map_some'] at edits
  obtain ⟨call, returned, succeeded⟩ := Option.bind_eq_some.mp edits
  have fits := run_invariant (LineEditor.Fits (fieldCapacity userLen) (fieldCapacity passLen)) _
    (fun _ key _ fits => press_fits fits key) ⟨Nat.zero_le _, Nat.zero_le _⟩ submitted
  have typed := run_invariant LineEditor.Typed _
    (fun _ key member typed => press_typed typed fun char pressed => keys_read_printable answers (pressed ▸ member))
    ⟨List.forall_mem_nil _, List.forall_mem_nil _⟩ submitted
  have clean (text : List UInt8) (printable : ∀ byte ∈ text, Printable byte) : 0 ∉ text :=
    fun zero => (printable 0 zero).ne_zero rfl
  by_cases success : call.1 = .success
  · rw [if_pos success, Option.some.injEq] at succeeded
    refine ⟨call, returned, success, ?_, ?_⟩
    · rw [succeeded, Buffer.str_pad (clean _ typed.1) (fits.1.trans_lt (field_capacity_lt filled.1))]
    · rw [succeeded, Buffer.str_pad (clean _ typed.2) (fits.2.trans_lt (field_capacity_lt filled.2))]
  · rw [if_neg success] at succeeded
    cases succeeded

example : (tuiGetCredentials (Buffer.zero 256) (Buffer.zero 256) (some (24, 80))
    [some 117, some 9, some 112, some 10]).map (fun call => (call.1, call.2.1.str.bytes, call.2.2.str.bytes)) =
      some (.success, [117], [112]) := by
  decide

/-- A call that returns KIA_SUCCESS had arrays of at least one byte and a
large enough screen, and hands back, as C strings, the fields the editor
submits on the keys read. -/
theorem tui_get_credentials_submitted (username : Buffer userLen) (password : Buffer passLen)
    {screen : Option (Int × Int)} {answers : List (Option Int)} {call : Status × Buffer userLen × Buffer passLen}
    (returned : tuiGetCredentials username password screen answers = some call) (success : call.1 = .success) :
    ∃ edited : LineEditor,
      LineEditor.initial.run (fieldCapacity userLen) (fieldCapacity passLen) (keysRead answers) = some edited ∧
        call.2.1.str.bytes = edited.username ∧ call.2.2.str.bytes = edited.password := by
  by_cases empty : userLen = 0 ∨ passLen = 0
  · simp only [tuiGetCredentials, if_pos empty, Option.some.injEq] at returned
    rw [← returned] at success
    cases success
  rcases screen with _ | ⟨rows, columns⟩
  · simp only [tuiGetCredentials, if_neg empty, Option.some.injEq] at returned
    rw [← returned] at success
    cases success
  by_cases small : rows < 10 ∨ columns < 50
  · simp only [tuiGetCredentials, if_neg empty, if_pos small, Option.some.injEq] at returned
    rw [← returned] at success
    cases success
  have filled : 0 < userLen ∧ 0 < passLen := by omega
  have large : 10 ≤ rows ∧ 50 ≤ columns := by omega
  have edits := tui_get_credentials_edits username password filled large answers
  rw [returned, Option.some_bind, if_pos success] at edits
  obtain ⟨edited, submitted, -⟩ := Option.map_eq_some'.mp edits.symm
  obtain ⟨again, returnedAgain, -, name, secret⟩ :=
    tui_get_credentials_strings username password filled large answers submitted
  rw [returned, Option.some.injEq] at returnedAgain
  subst returnedAgain
  exact ⟨edited, submitted, name, secret⟩

/-- A finished call leaves the name array terminated when it was terminated
before: the invariant of `Credentials`, which the controller reads. -/
theorem tui_get_credentials_terminated (username password : Buffer 256) (terminated : (0 : UInt8) ∈ username.bytes)
    (screen : Option (Int × Int)) (answers : List (Option Int)) {call : Status × Buffer 256 × Buffer 256}
    (returned : tuiGetCredentials username password screen answers = some call) : (0 : UInt8) ∈ call.2.1.bytes := by
  unfold tuiGetCredentials at returned
  rw [if_neg (by decide)] at returned
  rcases screen with _ | ⟨rows, columns⟩
  · cases returned
    exact terminated
  dsimp only at returned
  split_ifs at returned
  · cases returned
    exact terminated
  obtain ⟨run, looped, rfl⟩ := Option.map_eq_some'.mp returned
  rw [credentials_loop_start] at looped
  obtain ⟨edited, fits, holds⟩ := credentials_loop_holds_editor (by decide) answers
    (show LineEditor.initial.Fits (fieldCapacity 256) (fieldCapacity 256) from ⟨Nat.zero_le _, Nat.zero_le _⟩) looped
  have short : edited.username.length < 256 := fits.1.trans_lt (field_capacity_lt (by decide))
  rw [holds, CredentialsLoop.ofEditor, Buffer.pad_bytes short.le]
  exact List.mem_append_right _ (List.mem_replicate.mpr ⟨by omega, rfl⟩)

/-- What a finished call of tui_get_credentials on the context's arrays leaves
for handle_get_credentials, or `none` while it waits for a key. -/
def tuiCredentials (username password : Buffer 256) (terminated : (0 : UInt8) ∈ username.bytes)
    (screen : Option (Int × Int)) (answers : List (Option Int)) : Option Credentials :=
  match returned : tuiGetCredentials username password screen answers with
  | none => none
  | some call =>
    some ⟨call.1, call.2.1, call.2.2,
      tui_get_credentials_terminated username password terminated screen answers returned⟩

/-- The editor submits only with a name typed. -/
theorem LineEditor.run_submits_name {userCap passCap : Nat} (keys : List EditKey) {editor edited : LineEditor}
    (submitted : editor.run userCap passCap keys = some edited) : edited.username ≠ [] := by
  induction keys generalizing editor with
  | nil => cases submitted
  | cons key keys inductionHypothesis =>
    rw [LineEditor.run] at submitted
    split_ifs at submitted with entered
    · cases submitted
      exact entered.2
    · exact inductionHypothesis submitted

/-- What `tuiCredentials` hands on is the call's code and arrays. -/
theorem tui_credentials_call {username password : Buffer 256} {terminated : (0 : UInt8) ∈ username.bytes}
    {screen : Option (Int × Int)} {answers : List (Option Int)} {read : Credentials}
    (supplied : tuiCredentials username password terminated screen answers = some read) :
    ∃ call, tuiGetCredentials username password screen answers = some call ∧
      read.result = call.1 ∧ read.username = call.2.1 ∧ read.password = call.2.2 := by
  unfold tuiCredentials at supplied
  split at supplied
  · cases supplied
  · rename_i call returned
    cases supplied
    exact ⟨call, returned, rfl, rfl, rfl⟩

/-- A name `tui_get_credentials` returns with `KIA_SUCCESS` on the context's
arrays has between 1 and 20 characters. -/
theorem tui_credentials_name {username password : Buffer 256} {terminated : (0 : UInt8) ∈ username.bytes}
    {screen : Option (Int × Int)} {answers : List (Option Int)} {read : Credentials}
    (supplied : tuiCredentials username password terminated screen answers = some read)
    (success : read.result = .success) :
    read.username.str.bytes ≠ [] ∧ read.username.str.bytes.length ≤ 20 := by
  obtain ⟨call, returned, result, name, -⟩ := tui_credentials_call supplied
  obtain ⟨edited, submitted, typed, -⟩ := tui_get_credentials_submitted username password returned (result ▸ success)
  have fits := run_invariant (LineEditor.Fits (fieldCapacity 256) (fieldCapacity 256)) _
    (fun _ key _ fits => press_fits fits key) ⟨Nat.zero_le _, Nat.zero_le _⟩ submitted
  rw [name, typed]
  exact ⟨LineEditor.run_submits_name _ submitted, fits.1⟩

/-- On the context's 256-byte arrays a name of 21 characters cannot be
entered: the 21st key is dropped, where an editor with fields of
`user_len - 1 = 255` characters keeps it. -/
theorem twenty_first_character_dropped :
    ((tuiGetCredentials (Buffer.zero 256) (Buffer.zero 256) (some (24, 80))
        (List.replicate 21 (some 97) ++ [some 10])).map fun call => (call.1, call.2.1.str.bytes)) =
        some (.success, List.replicate 20 97) ∧
      (LineEditor.initial.run 255 255 (keysRead (List.replicate 21 (some 97) ++ [some 10]))).map LineEditor.username =
        some (List.replicate 21 97) := by
  decide

end Simulation

/-! ## Banners

`tui_show_error` and `tui_show_message` differ only in their color pair. Both
draw the message on row `max_y - 3`: centred when it fits the row, and
otherwise its first `min(max_x - 3, 511)` bytes followed by `...` from column
0; then they wait two seconds with `napms(2000)`. -/

/-- `COLOR_MESSAGE`. -/
def colorMessage : Nat := 4

/-- `sizeof(truncated)`. -/
def truncatedSize : Nat := 512

/-- What a banner call draws: the row it clears and writes on, the column the
text starts at, the text, and its color pair (`none` when the terminal has no
colors). -/
structure Banner where
  row : Int
  col : Int
  text : List UInt8
  pair : Option Nat
deriving DecidableEq, Repr

/-- The body of `tui_show_error` and `tui_show_message`, drawing in color pair
`pair` when `has_colors()` says `colors`: nothing for an empty message, when
`stdscr` is NULL (`screen = none`) or on a screen under 3 rows or 10 columns. -/
def showBanner (pair : Nat) (colors : Bool) (message : CStr) (screen : Option (Int × Int)) : Option Banner :=
  if message.bytes = [] then none
  else
    match screen with
    | none => none
    | some (maxY, maxX) =>
      if maxY < 3 ∨ maxX < 10 then none
      else
        let row := if maxY - 3 < 0 then 0 else maxY - 3
        let drawnPair := if colors then some pair else none
        if maxX < message.bytes.length then
          let maxMsgLen := min (if 3 < maxX then (maxX - 3).toNat else 0) (truncatedSize - 1)
          some ⟨row, 0, message.bytes.take maxMsgLen ++ ascii "...", drawnPair⟩
        else
          let col := (maxX - message.bytes.length) / 2
          some ⟨row, if col < 0 then 0 else col, message.bytes, drawnPair⟩

/-- `tui_show_message(message)`. -/
def tuiShowMessage (colors : Bool) (message : CStr) (screen : Option (Int × Int)) : Option Banner :=
  showBanner colorMessage colors message screen

end Kia
