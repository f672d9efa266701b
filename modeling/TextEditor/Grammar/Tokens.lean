import TextEditor.Grammar.Basic
import TextEditor.Grammar.Claims
import TextEditor.Text.Lines

/-!
# Tokens of a line

The tokens of a line come from candidates in order of rank, each of which is accepted unless it
touches one accepted before. First come the literals, strings and comments for the most part, which
a scan from left to right finds so that neither can begin inside the other; then the words that are
keywords; then the matches of the patterns and of the refinements, rule by rule.

The scan keeps the next match of every literal rule and searches again for a rule only when it has
passed the start of that match.
-/

namespace TextEditor

/-- The next match of a literal rule: what it emits and what it matches as a whole. -/
structure LiteralMatch where
  candidate : Candidate
  whole : Span
  deriving DecidableEq, Repr

/-- The first match of a literal rule at or after byte `n`; one that emits nothing stands as an
empty span at its start. -/
def Rule.literalAt? (rule : Rule) (line : Text) (n : Nat) : Option LiteralMatch :=
  (rule.pattern.searchAt line n).map fun m =>
    ⟨⟨rule.kind, (rule.emitted? m).getD ⟨m.whole.start, m.whole.start⟩⟩, m.whole⟩

/-- A literal rule with its next match, if it has one. -/
abbrev Upcoming := Rule × Option LiteralMatch

namespace Upcoming

/-- The rule searched again from byte `n`, provided that its match begins before. -/
def refresh (line : Text) (n : Nat) (upcoming : Upcoming) : Upcoming :=
  match upcoming with
  | (rule, some m) => (rule, if m.whole.start < n then rule.literalAt? line n else some m)
  | (rule, none) => (rule, none)

/-- Of two matches the one that emits the span further left, the first if both begin together. -/
def leftOf? : Option LiteralMatch → Option LiteralMatch → Option LiteralMatch
  | none, next => next
  | some best, none => some best
  | some best, some next =>
      if next.candidate.span.start < best.candidate.span.start then some next else some best

/-- The match that emits the leftmost span, of the earliest rule if several do. -/
def leftmost? (upcoming : List Upcoming) : Option LiteralMatch :=
  upcoming.foldl (fun best (_, next) => leftOf? best next) none

end Upcoming

/-- Where the literal scan goes on after a match: at its end or, if that is not ahead, after the
next character. -/
def resumeAfter (line : Text) (n : Nat) (m : LiteralMatch) : Nat :=
  if n < m.whole.stop then m.whole.stop
  else n + ((line.after n).head?.map Char.utf8Size).getD 1

/-- The literal candidates from byte `n` on, at most one for each character of `budget`. -/
def literalsFrom (line : Text) : Text → Nat → List Upcoming → List Candidate
  | [], _, _ => []
  | _ :: budget, n, upcoming =>
      if n < line.size then
        let upcoming := upcoming.map (Upcoming.refresh line n)
        match Upcoming.leftmost? upcoming with
        | none => []
        | some m => m.candidate :: literalsFrom line budget (resumeAfter line n m) upcoming
      else []

namespace Grammar

/-- The literal candidates of a line, from left to right. -/
def literalCandidates (grammar : Grammar) (line : Text) : List Candidate :=
  literalsFrom line line 0 (grammar.literals.map fun rule => (rule, rule.literalAt? line 0))

/-- The rule that finds words. -/
def wordRule (grammar : Grammar) : Rule := ⟨.keyword, grammar.word⟩

/-- The words of a line that are keywords. -/
def keywordCandidates (grammar : Grammar) (line : Text) : List Candidate :=
  (grammar.wordRule.spans line).filterMap fun span =>
    if grammar.isKeyword (line.between span.start span.stop) then some ⟨.keyword, span⟩ else none

/-- What the rules of a list emit in a line, rule by rule. -/
def ruleCandidates (rules : List Rule) (line : Text) : List Candidate :=
  rules.flatMap fun rule => (rule.spans line).map fun span => ⟨rule.kind, span⟩

/-- All candidates for tokens in a line, by rank. -/
def candidates (grammar : Grammar) (line : Text) : List Candidate :=
  grammar.literalCandidates line ++ grammar.keywordCandidates line ++
    ruleCandidates grammar.patterns line ++ ruleCandidates grammar.refinements line

/-- The tokens of a line, by ascending start. -/
def tokenize (grammar : Grammar) (line : Text) : List Token :=
  if line.isEmpty || grammar.isPlain then []
  else ((Claims.empty grammar.language).claimAll (grammar.candidates line)).tokens

/-- The tokens of each line of a text; lines end with a line feed. -/
def tokenizeText (grammar : Grammar) (t : Text) : List (List Token) :=
  t.contentLines.map grammar.tokenize

end Grammar

end TextEditor
