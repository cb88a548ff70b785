import SchemaBindings.Proofs.Resolution

/-!
# Pointers read from their texts

The text of a pointer has its tokens one after the other, each behind a slash (RFC 6901).
In the written form of a token there is no slash, whatever characters the token has, so
that the slashes of the text are those in front of the tokens, and the tokens can be read
back from it. Pointers into one document that have the same text are therefore the same,
and a text names at most one value of the document.
-/
namespace SchemaBindings

/-- A token is read back from its written form. -/
theorem unescapeToken_escapeToken (token : List Char) :
    unescapeToken (escapeToken token) = token := by
  induction token with
  | nil => rfl
  | cons character rest inductionHypothesis =>
    by_cases tilde : character = '~'
    · subst tilde
      rw [escapeToken, unescapeToken, inductionHypothesis]
    · by_cases slash : character = '/'
      · subst slash
        rw [escapeToken, unescapeToken, inductionHypothesis]
      · rw [escapeToken, unescapeToken, inductionHypothesis]
        all_goals simp [tilde, slash]

/-- The written form of a token has no slash. -/
theorem not_mem_escapeToken (token : List Char) : '/' ∉ escapeToken token := by
  induction token with
  | nil => exact List.not_mem_nil
  | cons character rest inductionHypothesis =>
    by_cases tilde : character = '~'
    · subst tilde
      simpa [escapeToken] using inductionHypothesis
    · by_cases slash : character = '/'
      · subst slash
        simpa [escapeToken] using inductionHypothesis
      · rw [escapeToken]
        · simpa [Ne.symm slash] using inductionHypothesis
        · simp [tilde]
        · simp [slash]

namespace Pointer

/-- The tokens that a text writes: none if it is empty, and otherwise those behind its slashes. -/
def readTokens? : List Char → Option (List String)
  | [] => some []
  | '/' :: text => some ((text.splitOn '/').map fun token => .ofList (unescapeToken token))
  | _ => none

/-- Behind the first slash the written tokens stand between slashes. -/
theorem tokensText_cons (token : String) (tokens : List String) :
    tokensText (token :: tokens) =
      '/' :: ['/'].intercalate ((token :: tokens).map fun token => escapeToken token.toList) := by
  induction tokens generalizing token with
  | nil => simp [tokensText, List.intercalate]
  | cons next rest inductionHypothesis =>
    rw [tokensText, inductionHypothesis, List.map_cons, List.map_cons, List.map_cons]
    simp [List.intercalate, List.intersperse]

/-- Tokens are read back from their written form. -/
theorem readTokens?_tokensText (tokens : List String) :
    readTokens? (tokensText tokens) = some tokens := by
  cases tokens with
  | nil => rfl
  | cons token tokens =>
    have slashless : ∀ written ∈ (token :: tokens).map fun token => escapeToken token.toList,
        '/' ∉ written := by
      intro written member
      obtain ⟨_, _, rfl⟩ := List.mem_map.mp member
      exact not_mem_escapeToken _
    rw [tokensText_cons, readTokens?, List.splitOn_intercalate '/' slashless (by simp),
      List.map_map]
    simp [Function.comp_def, unescapeToken_escapeToken]

/-- The text of a pointer into a whole document. -/
theorem text_of_origin {pointer : Pointer} (whole : pointer.origin = "") :
    pointer.text = .ofList (tokensText pointer.tokens) := by
  rw [text, whole, String.empty_append]

/-- The text of a pointer into a whole document determines its tokens. -/
theorem readTokens?_text {pointer : Pointer} (whole : pointer.origin = "") :
    readTokens? pointer.text.toList = some pointer.tokens := by
  rw [text_of_origin whole, String.toList_ofList, readTokens?_tokensText]

/-- Pointers into a whole document have different texts. -/
theorem text_inj {pointer other : Pointer} (whole : pointer.origin = "")
    (otherWhole : other.origin = "") (same : pointer.text = other.text) : pointer = other := by
  have tokens : some pointer.tokens = some other.tokens := by
    rw [← readTokens?_text whole, ← readTokens?_text otherWhole, same]
  cases pointer
  cases other
  simp_all

/-- What is reached from the top of a document is a pointer into the whole document. -/
theorem origin_follow (pointer : Pointer) (tokens : List String) :
    (pointer.follow tokens).origin = pointer.origin := by
  induction tokens generalizing pointer with
  | nil => rfl
  | cons token tokens inductionHypothesis => exact inductionHypothesis (pointer.child token)

/-- The tokens of a pointer that goes on from another one. -/
theorem tokens_follow (pointer : Pointer) (tokens : List String) :
    (pointer.follow tokens).tokens = pointer.tokens ++ tokens := by
  induction tokens generalizing pointer with
  | nil => simp [follow]
  | cons token tokens inductionHypothesis =>
    rw [follow, List.foldl_cons, ← follow, inductionHypothesis, child, List.append_assoc]
    rfl

/-- A pointer leads to those that go on from it. -/
theorem leadsTo_follow (pointer : Pointer) (tokens : List String) :
    pointer.LeadsTo (pointer.follow tokens) := by
  refine ⟨(pointer.origin_follow tokens).symm, ?_⟩
  rw [tokens_follow]
  exact List.prefix_append _ _

end Pointer

namespace Json

/-- The value that the text of a pointer names in a document. -/
def resolveText? (document : Json) (text : String) : Option Json :=
  (Pointer.readTokens? text.toList).bind document.resolve?

/-- The text of a pointer names the value to which its tokens lead. -/
theorem resolveText?_text (document : Json) {pointer : Pointer} (whole : pointer.origin = "") :
    document.resolveText? pointer.text = document.resolve? pointer.tokens := by
  rw [resolveText?, Pointer.readTokens?_text whole, Option.bind_some]

end Json

end SchemaBindings
