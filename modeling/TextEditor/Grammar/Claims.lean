import TextEditor.Token

/-!
# Claims

The tokens of a line are claimed one after the other: a candidate becomes a token when its span is
not empty and touches none of the tokens claimed before. The claimed tokens are kept in order of
their starts; being disjoint they are then in order of their stops too, so a candidate need be
compared only with the last of them that starts before its end.
-/

namespace TextEditor

/-- A span that a rule proposes as a token of some kind. -/
structure Candidate where
  kind : TokenKind
  span : Span
  deriving DecidableEq, Repr

/-- The tokens claimed so far on a line, by ascending start. -/
structure Claims where
  language : Language
  tokens : List Token
  deriving DecidableEq, Repr

namespace Claims

/-- No token claimed. -/
def empty (language : Language) : Claims := ⟨language, []⟩

/-- The tokens with one more, in place of a token with the same start if there is one. -/
def insert (token : Token) : List Token → List Token
  | [] => [token]
  | t :: tokens =>
      if t.span.start < token.span.start then t :: insert token tokens
      else if t.span.start = token.span.start then token :: tokens
      else token :: t :: tokens

/-- The last of the tokens that start before byte `n`. -/
def lastBefore? (claims : Claims) (n : Nat) : Option Token :=
  (claims.tokens.takeWhile (·.span.start < n)).getLast?

/-- Whether a span is not empty and ends the last token before its end in time. -/
def admits (claims : Claims) (span : Span) : Bool :=
  !span.isEmpty && (claims.lastBefore? span.stop).all (·.span.stop ≤ span.start)

/-- The claims after a candidate has been offered, and whether it was accepted. -/
def claim (claims : Claims) (candidate : Candidate) : Bool × Claims :=
  if claims.admits candidate.span then
    (true, { claims with
      tokens := insert ⟨candidate.kind, candidate.span, claims.language⟩ claims.tokens })
  else (false, claims)

/-- The claims after candidates have been offered in order. -/
def claimAll (claims : Claims) (candidates : List Candidate) : Claims :=
  candidates.foldl (fun claims candidate => (claims.claim candidate).2) claims

end Claims

end TextEditor
