import Kia.Basic

/-!
# The PAM conversation

`pam_conversation` of `auth.c`, the callback through which PAM asks for the
secret during `pam_authenticate`. It allocates the response array, answers
every prompt with a fresh copy of the secret and every error or information
message with `NULL`, and gives up on a message style it does not know or on
an allocation that fails. The allocator is an oracle: `Allocator` says
whether `calloc` and the `strdup` for each message succeed. What the function
allocates and frees is recorded as a trace of `HeapOp`s, and `liveBlocks`
reads off the blocks still allocated at its end.

`conversation_loop_end` follows the loop over the messages: on success the
array and one copy of the secret per prompt are live, and are PAM's to free;
on every error return the clean-up frees each copy made so far and the array,
so nothing the function allocated is left and no array is handed back.
`pam_conversation_succeeds_iff` gives the exact condition of success: every
message must be a prompt whose copy is made or an error or information
message, so one message of another style fails the whole conversation.
-/

namespace Kia

/-! ## pam_conversation -/

/-- `PAM_SUCCESS`, with Linux-PAM's value. -/
def pamSuccess : Int := 0

/-- `PAM_BUF_ERR`, with Linux-PAM's value. -/
def pamBufErr : Int := 5

/-- `PAM_CONV_ERR`, with Linux-PAM's value. -/
def pamConvErr : Int := 19

/-- `PAM_MAX_NUM_MSG`. -/
def pamMaxNumMsg : Int := 32

/-- `PAM_PROMPT_ECHO_OFF`. -/
def pamPromptEchoOff : Int := 1

/-- `PAM_PROMPT_ECHO_ON`. -/
def pamPromptEchoOn : Int := 2

/-- `PAM_ERROR_MSG`. -/
def pamErrorMsg : Int := 3

/-- `PAM_TEXT_INFO`. -/
def pamTextInfo : Int := 4

/-- A block the conversation allocates: the response array, or the copy of
the secret that answers message `index`. -/
inductive Block where
  | array
  | copy (index : Nat)
deriving DecidableEq, Repr

/-- A call to the allocator. -/
inductive HeapOp where
  | alloc (block : Block)
  | free (block : Block)
deriving DecidableEq, Repr

/-- Whether `calloc` of the response array, and the `strdup` for each
message, succeed. -/
structure Allocator where
  calloc : Bool
  strdup : Nat → Bool

/-- What a call returns: its code, the response array it leaves in `*resp`
(`none` for `NULL`, or for an array it never allocated), and its calls to the
allocator. -/
structure Conversation where
  code : Int
  responses : Option (List (Option CStr))
  heap : List HeapOp

/-- The clean-up of an error branch from response `j` on: `free((*resp)[j].resp)`
for every response written, where `free(NULL)` does nothing, then
`free(*resp)`. -/
def releaseResponses : Nat → List (Option CStr) → List HeapOp
  | _, [] => [.free .array]
  | j, none :: written => releaseResponses (j + 1) written
  | j, some _ :: written => .free (.copy j) :: releaseResponses (j + 1) written

/-- The `for` loop from message `index`, with the responses written so far and
the allocator calls made so far. -/
def conversationLoop (secret : CStr) (allocator : Allocator) :
    Nat → List Int → List (Option CStr) → List HeapOp → Conversation
  | _, [], written, heap => ⟨pamSuccess, some written, heap⟩
  | index, style :: styles, written, heap =>
    if style = pamPromptEchoOff ∨ style = pamPromptEchoOn then
      if allocator.strdup index then
        conversationLoop secret allocator (index + 1) styles (written ++ [some secret])
          (heap ++ [.alloc (.copy index)])
      else ⟨pamBufErr, none, heap ++ releaseResponses 0 written⟩
    else if style = pamErrorMsg ∨ style = pamTextInfo then
      conversationLoop secret allocator (index + 1) styles (written ++ [none]) heap
    else ⟨pamConvErr, none, heap ++ releaseResponses 0 written⟩

/-- `pam_conversation(num_msg, msg, resp, appdata_ptr)` for messages of the
styles `styles` (`num_msg` is their number), with `secret` the password of the
conversation data (`none` for a `NULL` `conv_data` or password). -/
def pamConversation (styles : List Int) (secret : Option CStr) (allocator : Allocator) : Conversation :=
  if (styles.length : Int) ≤ 0 ∨ pamMaxNumMsg < styles.length then ⟨pamConvErr, none, []⟩
  else
    match secret with
    | none => ⟨pamConvErr, none, []⟩
    | some secret =>
      if allocator.calloc then conversationLoop secret allocator 0 styles [] [.alloc .array]
      else ⟨pamBufErr, none, []⟩

/-! ## What is left allocated -/

/-- The blocks live after one more allocator call. -/
def HeapOp.apply (live : List Block) : HeapOp → List Block
  | .alloc block => live ++ [block]
  | .free block => live.erase block

/-- The blocks still allocated after a trace of allocator calls. -/
def liveBlocks (heap : List HeapOp) : List Block := heap.foldl HeapOp.apply []

/-- The copies of the secret a response array holds, from response `j` on. -/
def heldCopies : Nat → List (Option CStr) → List Block
  | _, [] => []
  | j, none :: written => heldCopies (j + 1) written
  | j, some _ :: written => .copy j :: heldCopies (j + 1) written

/-- The answer a message of `style` is owed: the secret for a prompt, nothing
for any other message. -/
def respond (secret : CStr) (style : Int) : Option CStr :=
  if style = pamPromptEchoOff ∨ style = pamPromptEchoOn then some secret else none

theorem held_copies_append (j : Nat) (written : List (Option CStr)) (response : Option CStr) :
    heldCopies j (written ++ [response]) = heldCopies j written ++ heldCopies (j + written.length) [response] := by
  induction written generalizing j with
  | nil => rfl
  | cons first written inductionHypothesis =>
    rw [List.cons_append, List.length_cons, show j + (written.length + 1) = j + 1 + written.length by omega]
    cases first <;> rw [heldCopies, heldCopies, inductionHypothesis]
    rfl

/-- The clean-up frees every copy the array holds, then the array. -/
theorem release_responses_held (j : Nat) (written : List (Option CStr)) :
    (releaseResponses j written).foldl HeapOp.apply (.array :: heldCopies j written) = [] := by
  induction written generalizing j with
  | nil => simp [releaseResponses, heldCopies, HeapOp.apply]
  | cons first written inductionHypothesis =>
    cases first with
    | none => exact inductionHypothesis (j + 1)
    | some _ =>
      simp only [releaseResponses, heldCopies, List.foldl_cons, HeapOp.apply]
      rw [List.erase_cons_tail (by simp), List.erase_cons_head]
      exact inductionHypothesis (j + 1)

/-- An error branch entered with the array and the copies of the responses
live leaves nothing live. -/
theorem release_responses_live {heap : List HeapOp} {written : List (Option CStr)}
    (live : liveBlocks heap = .array :: heldCopies 0 written) :
    liveBlocks (heap ++ releaseResponses 0 written) = [] := by
  rw [liveBlocks, List.foldl_append, ← liveBlocks, live, release_responses_held]

/-- One more response: a copy of the secret is allocated for it, or nothing. -/
theorem live_blocks_answered {heap : List HeapOp} {written : List (Option CStr)}
    (live : liveBlocks heap = .array :: heldCopies 0 written) (secret : CStr) :
    liveBlocks (heap ++ [.alloc (.copy written.length)]) = .array :: heldCopies 0 (written ++ [some secret]) ∧
      liveBlocks heap = .array :: heldCopies 0 (written ++ [none]) := by
  rw [liveBlocks, List.foldl_append, ← liveBlocks, live, held_copies_append, held_copies_append]
  simp [heldCopies, HeapOp.apply]

/-- Where the loop can end: with `PAM_SUCCESS`, every message answered as
`respond` says and the array and its copies of the secret live; or with an
error code, no array handed back and nothing live. -/
def ConversationEnd (secret : CStr) (styles : List Int) (written : List (Option CStr)) (call : Conversation) :
    Prop :=
  (call.code = pamSuccess ∧ call.responses = some (written ++ styles.map (respond secret)) ∧
      liveBlocks call.heap = .array :: heldCopies 0 (written ++ styles.map (respond secret))) ∨
    (call.code ≠ pamSuccess ∧ call.responses = none ∧ liveBlocks call.heap = [])

/-- The loop from message `index`, entered with the array and the copies of
the responses written so far live, ends as `ConversationEnd` says.

Proof: by induction on the messages left; an error branch's clean-up empties
the heap by `release_responses_held`. -/
theorem conversation_loop_end (secret : CStr) (allocator : Allocator) (styles : List Int) {index : Nat}
    {written : List (Option CStr)} {heap : List HeapOp} (counted : written.length = index)
    (live : liveBlocks heap = .array :: heldCopies 0 written) :
    ConversationEnd secret styles written (conversationLoop secret allocator index styles written heap) := by
  induction styles generalizing index written heap with
  | nil => exact .inl ⟨rfl, by simp [conversationLoop], by simpa [conversationLoop] using live⟩
  | cons style styles inductionHypothesis =>
    subst counted
    obtain ⟨copied, informed⟩ := live_blocks_answered live secret
    unfold conversationLoop
    by_cases prompt : style = pamPromptEchoOff ∨ style = pamPromptEchoOn
    · rw [if_pos prompt]
      split
      · have answered : written ++ [some secret] ++ styles.map (respond secret) =
            written ++ (style :: styles).map (respond secret) := by
          simp [respond, prompt]
        rw [ConversationEnd, ← answered]
        exact inductionHypothesis (by simp) copied
      · exact .inr ⟨(by decide : pamBufErr ≠ pamSuccess), rfl, release_responses_live live⟩
    · rw [if_neg prompt]
      split
      · have answered : written ++ [none] ++ styles.map (respond secret) =
            written ++ (style :: styles).map (respond secret) := by
          simp [respond, prompt]
        rw [ConversationEnd, ← answered]
        exact inductionHypothesis (by simp) informed
      · exact .inr ⟨(by decide : pamConvErr ≠ pamSuccess), rfl, release_responses_live live⟩

/-- A call either fails before it allocates anything, or runs the loop from
the first message with the secret and the array allocated. -/
theorem pam_conversation_cases (styles : List Int) (secret : Option CStr) (allocator : Allocator) :
    ((pamConversation styles secret allocator).code ≠ pamSuccess ∧
        (pamConversation styles secret allocator).responses = none ∧
        (pamConversation styles secret allocator).heap = []) ∨
      ∃ password, secret = some password ∧
        ConversationEnd password styles [] (pamConversation styles secret allocator) := by
  have refused : pamConvErr ≠ pamSuccess := by decide
  unfold pamConversation
  by_cases bounds : (styles.length : Int) ≤ 0 ∨ pamMaxNumMsg < styles.length
  · rw [if_pos bounds]
    exact .inl ⟨refused, rfl, rfl⟩
  rw [if_neg bounds]
  cases secret with
  | none => exact .inl ⟨refused, rfl, rfl⟩
  | some password =>
    by_cases allocated : allocator.calloc
    · simp only [allocated, if_true]
      exact .inr ⟨password, rfl, conversation_loop_end password allocator styles rfl rfl⟩
    · simp only [allocated]
      exact .inl ⟨(by decide : pamBufErr ≠ pamSuccess), rfl, rfl⟩

/-- A conversation that succeeds answered every prompt with a fresh copy of
the secret and every other message with `NULL`, and leaves live exactly the
array and those copies, which PAM frees. -/
theorem pam_conversation_answers (styles : List Int) (secret : Option CStr) (allocator : Allocator)
    (succeeded : (pamConversation styles secret allocator).code = pamSuccess) :
    ∃ password, secret = some password ∧
      (pamConversation styles secret allocator).responses = some (styles.map (respond password)) ∧
      liveBlocks (pamConversation styles secret allocator).heap =
        .array :: heldCopies 0 (styles.map (respond password)) := by
  rcases pam_conversation_cases styles secret allocator with ⟨failed, -⟩ | ⟨password, given, ended⟩
  · exact absurd succeeded failed
  rcases ended with ⟨-, answered, live⟩ | ⟨failed, -⟩
  · exact ⟨password, given, answered, live⟩
  · exact absurd succeeded failed

theorem pam_conversation_answers_prompt :
    (pamConversation [pamPromptEchoOff, pamTextInfo] (some ⟨[112], by decide⟩) ⟨true, fun _ => true⟩).code =
        pamSuccess ∧
      ∃ password, some (⟨[112], by decide⟩ : CStr) = some password ∧
        (pamConversation [pamPromptEchoOff, pamTextInfo] (some ⟨[112], by decide⟩) ⟨true, fun _ => true⟩).responses =
          some ([pamPromptEchoOff, pamTextInfo].map (respond password)) ∧
        liveBlocks (pamConversation [pamPromptEchoOff, pamTextInfo] (some ⟨[112], by decide⟩)
            ⟨true, fun _ => true⟩).heap =
          .array :: heldCopies 0 ([pamPromptEchoOff, pamTextInfo].map (respond password)) :=
  ⟨by decide, pam_conversation_answers _ _ _ (by decide)⟩

/-- Every error return of the conversation, whatever the messages and
whichever allocation fails, hands back no array and leaves nothing it
allocated live: each copy of the secret made so far and the array are freed. -/
theorem pam_conversation_released (styles : List Int) (secret : Option CStr) (allocator : Allocator)
    (failed : (pamConversation styles secret allocator).code ≠ pamSuccess) :
    (pamConversation styles secret allocator).responses = none ∧
      liveBlocks (pamConversation styles secret allocator).heap = [] := by
  rcases pam_conversation_cases styles secret allocator with ⟨-, none, empty⟩ | ⟨password, -, ended⟩
  · exact ⟨none, by rw [empty]; rfl⟩
  rcases ended with ⟨succeeded, -⟩ | ⟨-, none, live⟩
  · exact absurd succeeded failed
  · exact ⟨none, live⟩

theorem pam_conversation_released_second_copy :
    (pamConversation [pamPromptEchoOff, pamPromptEchoOn] (some ⟨[112], by decide⟩) ⟨true, fun index => index = 0⟩).code ≠
        pamSuccess ∧
      ((pamConversation [pamPromptEchoOff, pamPromptEchoOn] (some ⟨[112], by decide⟩)
          ⟨true, fun index => index = 0⟩).responses = none ∧
        liveBlocks (pamConversation [pamPromptEchoOff, pamPromptEchoOn] (some ⟨[112], by decide⟩)
          ⟨true, fun index => index = 0⟩).heap = []) :=
  ⟨by decide, pam_conversation_released _ _ _ (by decide)⟩

/-! ## When the conversation succeeds -/

/-- Whether the loop answers message `index` of `style`: a prompt whose copy
of the secret `strdup` makes, or an error or information message. -/
def Answered (allocator : Allocator) (index : Nat) (style : Int) : Prop :=
  ((style = pamPromptEchoOff ∨ style = pamPromptEchoOn) ∧ allocator.strdup index = true) ∨
    style = pamErrorMsg ∨ style = pamTextInfo

theorem forall_get?_cons {α : Type} (property : Nat → α → Prop) (first : α) (rest : List α) :
    (∀ position value, (first :: rest).get? position = some value → property position value) ↔
      property 0 first ∧ ∀ position value, rest.get? position = some value → property (position + 1) value := by
  constructor
  · exact fun all => ⟨all 0 first rfl, fun position => all (position + 1)⟩
  · rintro ⟨head, tail⟩ (_ | position) value found
    · cases found
      exact head
    · exact tail position value found

/-- The loop from message `index` returns `PAM_SUCCESS` exactly when it
answers every message left. -/
theorem conversation_loop_succeeds (secret : CStr) (allocator : Allocator) (styles : List Int) {index : Nat}
    {written : List (Option CStr)} {heap : List HeapOp} :
    (conversationLoop secret allocator index styles written heap).code = pamSuccess ↔
      ∀ position style, styles.get? position = some style → Answered allocator (index + position) style := by
  induction styles generalizing index written heap with
  | nil => simp [conversationLoop]
  | cons style styles inductionHypothesis =>
    rw [forall_get?_cons, Nat.add_zero]
    simp only [Nat.add_succ, ← Nat.succ_add]
    unfold conversationLoop
    by_cases prompt : style = pamPromptEchoOff ∨ style = pamPromptEchoOn
    · have notMessage : ¬(style = pamErrorMsg ∨ style = pamTextInfo) := by
        rcases prompt with rfl | rfl <;> decide
      rw [if_pos prompt]
      by_cases copied : allocator.strdup index
      · rw [if_pos copied, inductionHypothesis]
        simp only [Answered, prompt, copied, and_self, true_or, true_and]
      · have failed : pamBufErr ≠ pamSuccess := by decide
        rw [if_neg copied]
        simp only [Answered, copied, Bool.false_eq_true, and_false, false_or, notMessage, false_and, failed,
          iff_self]
    · rw [if_neg prompt]
      by_cases message : style = pamErrorMsg ∨ style = pamTextInfo
      · rw [if_pos message, inductionHypothesis]
        simp only [Answered, message, or_true, true_and]
      · have failed : pamConvErr ≠ pamSuccess := by decide
        rw [if_neg message]
        simp only [Answered, prompt, message, false_and, or_self, failed, iff_self]

/-- `pam_conversation` returns `PAM_SUCCESS` exactly when it gets between one
and `PAM_MAX_NUM_MSG` messages and a password, `calloc` succeeds, and every
message is answered: a prompt whose copy of the password `strdup` makes, or an
error or information message. One message of another style, such as a binary
prompt, fails the whole conversation. -/
theorem pam_conversation_succeeds_iff (styles : List Int) (secret : Option CStr) (allocator : Allocator) :
    (pamConversation styles secret allocator).code = pamSuccess ↔
      (0 < styles.length ∧ styles.length ≤ 32) ∧ secret.isSome ∧ allocator.calloc = true ∧
        ∀ position style, styles.get? position = some style → Answered allocator position style := by
  have refused : pamConvErr ≠ pamSuccess := by decide
  unfold pamConversation
  by_cases bounds : (styles.length : Int) ≤ 0 ∨ pamMaxNumMsg < styles.length
  · rw [if_pos bounds]
    simp only [refused, false_iff, not_and]
    intro counted
    exact absurd bounds (by unfold pamMaxNumMsg; omega)
  rw [if_neg bounds]
  have counted : 0 < styles.length ∧ styles.length ≤ 32 := by unfold pamMaxNumMsg at bounds; omega
  cases secret with
  | none => simp [refused]
  | some password =>
    by_cases allocated : allocator.calloc
    · simp only [allocated, if_true, conversation_loop_succeeds, Nat.zero_add, counted, Option.isSome_some,
        true_and]
    · simp only [allocated, Bool.false_eq_true, if_false, and_false, false_and, iff_false]
      decide

example : (pamConversation [pamPromptEchoOff, 7] (some ⟨[112], by decide⟩) ⟨true, fun _ => true⟩).code =
    pamConvErr := by
  decide

end Kia
