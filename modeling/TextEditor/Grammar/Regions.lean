import TextEditor.Grammar.Basic

/-!
# Embedded regions of a line

The regions that a grammar finds in a line come from its embed rules in order: what the first group
of a match holds becomes a region unless it is empty or touches a region found before.
-/

namespace TextEditor

namespace Grammar

/-- The regions that the embed rules propose, rule by rule and from left to right. -/
def regionCandidates (grammar : Grammar) (line : Text) : List Region :=
  grammar.embeds.flatMap fun embed =>
    (embed.pattern.findAll line).filterMap fun m =>
      match m.group? 1 with
      | none => none
      | some span => if span.isEmpty then none else some ⟨embed.language, span⟩

/-- The regions after one more has been proposed. -/
def addRegion (regions : List Region) (region : Region) : List Region :=
  if regions.any (·.span.overlaps region.span) then regions else regions ++ [region]

/-- The regions of a line in other languages, by ascending start. -/
def regions (grammar : Grammar) (line : Text) : List Region :=
  ((grammar.regionCandidates line).foldl addRegion []).mergeSort
    fun a b => a.span.start ≤ b.span.start

end Grammar

end TextEditor
