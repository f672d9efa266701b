import TextEditor.Proofs.Editor.Cut
import TextEditor.Proofs.Text.ClusterBreaks

/-!
# Stepping and deleting

A step to the left or right goes over one cluster or one line break, and a deletion takes one. The
end of a cluster is looked for in what stands behind the cursor, and its start in what stands before
it; where the cursor is at the end of a cluster this is all the same, since a line can be cut there
without any of its clusters changing. So a step to one side takes back a step to the other, and
deleting what is before the cursor is stepping over it and deleting it from there.

Main statements: what each of `moveRight`, `moveLeft`, `deleteForward` and `backspace` does at two
cuts that follow each other, and from these `steps_and_deletions_agree`.
-/

namespace TextEditor

namespace Cut

variable {pieces next : Cut}

/-- One cut of a document comes one cluster or one line break after another. The clusters are those
of the whole line, as the rules for their boundaries have it. -/
inductive Next : Cut → Cut → Prop where
  | cluster {above below : List Text} {before cluster behind : Text}
      (h : Text.IsCluster before cluster behind) :
      Next ⟨above, before, cluster ++ behind, below⟩ ⟨above, before ++ cluster, behind, below⟩
  | lineBreak {above below : List Text} {line line' : Text} :
      Next ⟨above, line, [], line' :: below⟩ ⟨above ++ [line], [], line', below⟩

/-- The document without what stands between two cuts of it. -/
def upTo (pieces next : Cut) : Cut := ⟨pieces.above, pieces.before, next.behind, next.below⟩

/-- The cursor is where a cluster of its line ends, or at the start of the line. -/
def BetweenClusters (pieces : Cut) : Prop :=
  (pieces.before ++ pieces.behind).IsClusterBoundary pieces.before.size

/-- Two cuts with one cluster between them are cuts of the same lines. -/
theorem Next.lines_eq (h : Next pieces next) : next.lines = pieces.lines := by
  cases h <;> simp [lines]

/-- Between clusters the pieces of the line consist of whole clusters. -/
theorem BetweenClusters.exists_clusters (h : pieces.BetweenClusters) :
    ∃ lefts rights, Text.clusters (pieces.before ++ pieces.behind) = lefts ++ rights ∧
      lefts.flatten = pieces.before ∧ rights.flatten = pieces.behind :=
  Text.exists_clusters_of_isClusterBoundary h

/-- Behind the cursor there is a cluster or a line break, unless the document ends. -/
theorem BetweenClusters.exists_next (h : pieces.BetweenClusters)
    (hmore : ¬ (pieces.behind = [] ∧ pieces.below = [])) : ∃ next, Next pieces next := by
  obtain ⟨lefts, rights, hcut, hbefore, hbehind⟩ := h.exists_clusters
  obtain ⟨above, before, behind, below⟩ := pieces
  obtain rfl : lefts.flatten = before := hbefore
  obtain rfl : rights.flatten = behind := hbehind
  cases rights with
  | nil =>
      cases below with
      | nil => exact absurd ⟨rfl, rfl⟩ hmore
      | cons line below => exact ⟨_, .lineBreak⟩
  | cons cluster rights =>
      exact ⟨_, .cluster (Text.isCluster_iff.2 ⟨lefts, rights, hcut, rfl, rfl⟩)⟩

/-- Before the cursor there is a cluster or a line break, unless the document starts. -/
theorem BetweenClusters.exists_previous (h : pieces.BetweenClusters)
    (hmore : ¬ (pieces.before = [] ∧ pieces.above = [])) :
    ∃ previous, Next previous pieces := by
  obtain ⟨lefts, rights, hcut, hbefore, hbehind⟩ := h.exists_clusters
  obtain ⟨above, before, behind, below⟩ := pieces
  obtain rfl : lefts.flatten = before := hbefore
  obtain rfl : rights.flatten = behind := hbehind
  rcases List.eq_nil_or_concat lefts with rfl | ⟨lefts, cluster, rfl⟩
  · rcases List.eq_nil_or_concat above with rfl | ⟨above, line, rfl⟩
    · exact absurd ⟨rfl, rfl⟩ hmore
    · rw [List.concat_eq_append]
      exact ⟨_, .lineBreak⟩
  · simp only [List.concat_eq_append, List.flatten_append, List.flatten_singleton,
      List.append_assoc] at hcut ⊢
    refine ⟨_, .cluster (Text.isCluster_iff.2 ⟨lefts, rights, hcut, rfl, rfl⟩)⟩

end Cut

namespace Editor

variable {editor after : Editor} {here next : Cut} {origin : Option LineSource}

/-! ## Each step and each deletion -/

section Steps

variable (hloaded : editor.unfinished? = none) (hnext : here.Next next)
include hloaded hnext

/-- A move to the right goes from a cut to the next one. -/
theorem moveRight_at (h : editor.At here) : editor.moveRight.At next := by
  have hlines : editor.buffer.lines = next.lines := h.lines.trans hnext.lines_eq.symm
  have hjump := at_jumpTo_of_loaded hlines hloaded
  unfold moveRight
  simp only
  cases hnext with
  | @cluster above below before cluster behind hcluster =>
      obtain ⟨lefts, rights, hcut, rfl, rfl⟩ := Text.isCluster_iff.1 hcluster
      have hline : editor.currentLine = lefts.flatten ++ (cluster ++ rights.flatten) :=
        h.currentLine_eq
      have hcolumn : editor.cursor.column = Text.size lefts.flatten := h.column
      have hinside : editor.cursor.column < editor.currentLine.size :=
        h.column_lt_size_iff.2 (List.append_ne_nil_of_left_ne_nil (Text.ne_nil_of_clusters hcut) _)
      rw [if_pos hinside, hcolumn, hline, h.line, Text.nextCluster_eq hcut, ← Text.size_append]
      exact hjump
  | @lineBreak above below line line' =>
      have hend : ¬ editor.cursor.column < editor.currentLine.size :=
        fun hinside => h.column_lt_size_iff.1 hinside rfl
      have hbelow : editor.cursor.line + 1 < editor.buffer.length := by
        rw [h.line, h.length_eq, List.length_cons]
        omega
      have habove : editor.cursor.line + 1 = (above ++ [line]).length := by
        rw [h.line, List.length_append, List.length_singleton]
      rw [if_neg hend, if_pos hbelow, habove]
      exact hjump

/-- A move to the left goes from a cut to the one before. -/
theorem moveLeft_at (h : editor.At next) : editor.moveLeft.At here := by
  have hlines : editor.buffer.lines = here.lines := h.lines.trans hnext.lines_eq
  have hjump := at_jumpTo_of_loaded hlines hloaded
  unfold moveLeft
  simp only
  cases hnext with
  | @cluster above below before cluster behind hcluster =>
      obtain ⟨lefts, rights, hcut, rfl, rfl⟩ := Text.isCluster_iff.1 hcluster
      have hline : editor.currentLine = lefts.flatten ++ (cluster ++ rights.flatten) :=
        h.currentLine_eq.trans (List.append_assoc ..)
      have hcolumn : editor.cursor.column = Text.size lefts.flatten + cluster.size :=
        h.column.trans (Text.size_append ..)
      have hinside : 0 < editor.cursor.column :=
        h.column_pos_iff.2 (List.append_ne_nil_of_right_ne_nil _ (Text.ne_nil_of_clusters hcut))
      rw [if_pos hinside, hcolumn, hline, h.line, Text.previousCluster_eq hcut]
      exact hjump
  | @lineBreak above below line line' =>
      have hstart : ¬ 0 < editor.cursor.column := fun hinside => h.column_pos_iff.1 hinside rfl
      have habove : editor.cursor.line = above.length + 1 := by
        rw [h.line, List.length_append, List.length_singleton]
      have hprevious : editor.buffer.line above.length = line := by
        rw [LineBuffer.line_of_lines_eq hlines]
        exact List.append_nil line
      rw [if_neg hstart, if_pos (by omega), habove, Nat.add_sub_cancel, LineBuffer.lineSize,
        hprevious]
      exact hjump

/-- Deleting takes out what a step to the right goes over. -/
theorem deleteForward_at (h : editor.At here) : editor.deleteForward.At (here.upTo next) := by
  unfold deleteForward
  simp only
  cases hnext with
  | @cluster above below before cluster behind hcluster =>
      obtain ⟨lefts, rights, hcut, rfl, rfl⟩ := Text.isCluster_iff.1 hcluster
      have hline : editor.currentLine = lefts.flatten ++ (cluster ++ rights.flatten) :=
        h.currentLine_eq
      have hcolumn : editor.cursor.column = Text.size lefts.flatten := h.column
      have hinside : editor.cursor.column < editor.currentLine.size :=
        h.column_lt_size_iff.2 (List.append_ne_nil_of_left_ne_nil (Text.ne_nil_of_clusters hcut) _)
      have hremoved := LineBuffer.lines_removeRange h.lines
      rw [if_pos hinside, hcolumn, hline, h.line, Text.nextCluster_eq hcut]
      exact at_afterEdit hremoved hloaded
  | @lineBreak above below line line' =>
      have hend : ¬ editor.cursor.column < editor.currentLine.size :=
        fun hinside => h.column_lt_size_iff.1 hinside rfl
      have hlines : editor.buffer.lines = above ++ line :: line' :: below := by
        simpa [Cut.lines] using h.lines
      obtain ⟨joined, hjoin, hjoined⟩ := LineBuffer.joinWithNext_of_lines hlines
      rw [if_neg hend, h.line, h.column, hjoin]
      exact at_afterEdit hjoined hloaded

/-- Deleting backwards takes out what a step to the left goes over. -/
theorem backspace_at (h : editor.At next)
    (hpairs : ¬ CharPair.Enclose editor.settings.pairs next.before next.behind) :
    editor.backspace.At (here.upTo next) := by
  have hlines : editor.buffer.lines = here.lines := h.lines.trans hnext.lines_eq
  have haround : CharPair.around? editor.settings.pairs editor.currentLine editor.cursor.column =
      none := by
    rw [h.currentLine_eq, h.column, ← Option.not_isSome_iff_eq_none, CharPair.isSome_around?_iff]
    exact hpairs
  unfold backspace
  simp only [haround]
  cases hnext with
  | @cluster above below before cluster behind hcluster =>
      obtain ⟨lefts, rights, hcut, rfl, rfl⟩ := Text.isCluster_iff.1 hcluster
      have hline : editor.currentLine = lefts.flatten ++ (cluster ++ rights.flatten) :=
        h.currentLine_eq.trans (List.append_assoc ..)
      have hcolumn : editor.cursor.column = Text.size lefts.flatten + cluster.size :=
        h.column.trans (Text.size_append ..)
      have hinside : editor.cursor.column ≠ 0 := Nat.ne_of_gt
        (h.column_pos_iff.2 (List.append_ne_nil_of_right_ne_nil _ (Text.ne_nil_of_clusters hcut)))
      have hremoved := LineBuffer.lines_removeRange hlines
      rw [if_neg hinside, hcolumn, hline, h.line, Text.previousCluster_eq hcut]
      exact at_afterEdit hremoved hloaded
  | @lineBreak above below line line' =>
      have habove : editor.cursor.line = above.length + 1 := by
        rw [h.line, List.length_append, List.length_singleton]
      have hlines : editor.buffer.lines = above ++ line :: line' :: below := by
        simpa [Cut.lines] using hlines
      obtain ⟨joined, hjoin, hjoined⟩ := LineBuffer.joinWithNext_of_lines hlines
      have hstart : editor.cursor.column = 0 := h.column
      rw [if_pos hstart, if_neg (by omega), habove, Nat.add_sub_cancel, hjoin]
      exact at_afterEdit hjoined hloaded

end Steps

/-! ## All of them together -/

/-- The cursor is at the start of the document. -/
def AtStart (editor : Editor) : Prop := editor.cursor.line = 0 ∧ editor.cursor.column = 0

/-- The cursor is at the end of the document. -/
def AtEnd (editor : Editor) : Prop :=
  editor.cursor.line + 1 = editor.buffer.length ∧ editor.cursor.column = editor.currentLine.size

/-- With nothing before the cut the cursor is at the start of the document. -/
theorem At.atStart (h : editor.At here) (hstart : here.before = [] ∧ here.above = []) :
    editor.AtStart := by
  rw [AtStart, h.line, h.column, hstart.1, hstart.2]
  exact ⟨rfl, rfl⟩

/-- With nothing behind the cut the cursor is at the end of the document. -/
theorem At.atEnd (h : editor.At here) (hend : here.behind = [] ∧ here.below = []) :
    editor.AtEnd := by
  rw [AtEnd, h.line, h.column, h.length_eq, h.currentLine_eq, hend.1, hend.2, List.append_nil]
  exact ⟨rfl, rfl⟩

/-- A cut says where the cursor is. -/
theorem At.cursor_eq {originAfter : Option LineSource} (h : editor.At here) (hafter : after.At here)
    (hsound : editor.Sound origin) (hsoundAfter : after.Sound originAfter)
    (hsettings : after.settings = editor.settings) : after.cursor = editor.cursor := by
  have hline : after.cursor.line = editor.cursor.line := hafter.line.trans h.line.symm
  have hcolumn : after.cursor.column = editor.cursor.column := hafter.column.trans h.column.symm
  have htext : after.buffer.line after.cursor.line = editor.buffer.line editor.cursor.line :=
    hafter.currentLine_eq.trans h.currentLine_eq.symm
  have hvisual : after.cursor.visualColumn = editor.cursor.visualColumn := by
    rw [hsoundAfter.cursor.visualColumn, hsound.cursor.visualColumn, htext, hcolumn, hsettings]
  calc after.cursor = ⟨after.cursor.line, after.cursor.column, after.cursor.visualColumn⟩ := rfl
    _ = editor.cursor := by rw [hline, hcolumn, hvisual]

/-- Steps and deletions go over the same clusters and line breaks. In any sound editor, such as
every run leads to, whose document has been read to its end and whose cursor is between two clusters
of its line: unless the cursor is at the end of the document, a step to the right is taken back by a
step to the left, and deleting takes out what the step went over, one cluster or one line break.
Unless it is at the start, a step to the left is taken back by a step to the right; and unless it is
between two brackets that belong together, deleting backwards takes out what the step went over, and
leaves the same document and cursor as that step and deleting. -/
theorem steps_and_deletions_agree (h : editor.Sound origin) (hstream : editor.isStreaming = false)
    (hclusters : editor.currentLine.IsClusterBoundary editor.cursor.column) :
    let here := editor.cut
    editor.At here ∧
      (¬ editor.AtEnd → ∃ next, here.Next next ∧
        editor.moveRight.At next ∧ editor.moveRight.moveLeft.cursor = editor.cursor ∧
        editor.deleteForward.At (here.upTo next)) ∧
      (¬ editor.AtStart → ∃ previous, previous.Next here ∧
        editor.moveLeft.At previous ∧ editor.moveLeft.moveRight.cursor = editor.cursor ∧
        (¬ CharPair.Enclose editor.settings.pairs here.before here.behind →
          editor.backspace.At (previous.upTo here) ∧
          editor.backspace.buffer.lines = editor.moveLeft.deleteForward.buffer.lines ∧
          editor.backspace.cursor = editor.moveLeft.deleteForward.cursor)) := by
  intro here
  have hloaded : editor.unfinished? = none := unfinished?_eq_none hstream
  have hright := (editor.untouched_moveRight).unfinished?_eq hloaded
  have hleft := (editor.untouched_moveLeft).unfinished?_eq hloaded
  have hat : editor.At here := h.at_cut
  have hbetween : here.BetweenClusters := by
    rw [Cut.BetweenClusters, ← hat.currentLine_eq, ← hat.column]
    exact hclusters
  refine ⟨hat, fun hend => ?_, fun hstart => ?_⟩
  · obtain ⟨next, hnext⟩ := hbetween.exists_next (mt hat.atEnd hend)
    have hthere := moveRight_at hloaded hnext hat
    have hback := moveLeft_at hright hnext hthere
    have hsettings : editor.moveRight.moveLeft.settings = editor.settings :=
      (settles_moveLeft editor.moveRight).settings_eq.trans (settles_moveRight editor).settings_eq
    exact ⟨next, hnext, hthere, hat.cursor_eq hback h h.moveRight.moveLeft hsettings,
      deleteForward_at hloaded hnext hat⟩
  · obtain ⟨previous, hnext⟩ := hbetween.exists_previous (mt hat.atStart hstart)
    have hthere := moveLeft_at hloaded hnext hat
    have hback := moveRight_at hleft hnext hthere
    have hsettings : editor.moveLeft.moveRight.settings = editor.settings :=
      (settles_moveRight editor.moveLeft).settings_eq.trans (settles_moveLeft editor).settings_eq
    refine ⟨previous, hnext, hthere, hat.cursor_eq hback h h.moveLeft.moveRight hsettings,
      fun hpairs => ?_⟩
    have hbackspace := backspace_at hloaded hnext hat hpairs
    have hdelete := deleteForward_at hleft hnext hthere
    have hsame : editor.backspace.settings = editor.moveLeft.deleteForward.settings := by
      rw [(settles_deleteForward _).settings_eq, (settles_moveLeft editor).settings_eq,
        (settles_backspace editor).settings_eq]
    exact ⟨hbackspace, hbackspace.lines.trans hdelete.lines.symm,
      hdelete.cursor_eq hbackspace h.moveLeft.deleteForward h.backspace hsame⟩

/-- The cursor is behind a letter with a mark and the first of two flags, and the line below begins
with an emoji put together from two. -/
theorem steps_and_deletions_agree_flags :
    let earlier : List Operation := [.loadText "a\u0301🇫🇷🇪🇸(x\n👩‍🚀b".toList, .goto 1 (some 11)]
    let editor := ((new .usual).performAll earlier).2
    editor.cursor.line = 0 ∧ editor.cursor.column = 11 ∧
      editor.moveRight.moveLeft.cursor = editor.cursor ∧
      editor.moveLeft.moveRight.cursor = editor.cursor ∧
      editor.backspace.buffer.lines = editor.moveLeft.deleteForward.buffer.lines ∧
      editor.backspace.cursor = editor.moveLeft.deleteForward.cursor := by
  intro earlier editor
  have hstream : editor.isStreaming = false := by decide +kernel
  have hline : editor.cursor.line = 0 := by decide +kernel
  have hcolumn : editor.cursor.column = 11 := by decide +kernel
  have hlength : editor.buffer.length = 2 := by decide +kernel
  have hclusters : editor.currentLine.IsClusterBoundary editor.cursor.column :=
    Text.isClusterBoundary_iff.2
      ⟨["a\u0301".toList, "🇫🇷".toList], ["🇪🇸".toList, ['('], ['x']], by decide +kernel⟩
  have hpairs : CharPair.around? editor.settings.pairs editor.currentLine editor.cursor.column =
    none := by decide +kernel
  -- nothing more is computed from here on
  clear_value earlier
  obtain ⟨hat, hright, hleft⟩ :=
    steps_and_deletions_agree ((sound_new .usual).performAll earlier) hstream hclusters
  have hend : ¬ editor.AtEnd := by
    rintro ⟨hlast, -⟩
    rw [hline, hlength] at hlast
    cases hlast
  have hstart : ¬ editor.AtStart := by
    rintro ⟨-, hfirst⟩
    rw [hcolumn] at hfirst
    cases hfirst
  have hopen : ¬ CharPair.Enclose editor.settings.pairs editor.cut.before editor.cut.behind := by
    rw [← CharPair.isSome_around?_iff, ← hat.currentLine_eq, ← hat.column, hpairs]
    nofun
  obtain ⟨_, -, -, hback, -⟩ := hright hend
  obtain ⟨_, -, -, hforth, hdelete⟩ := hleft hstart
  obtain ⟨-, hsame, hcursor⟩ := hdelete hopen
  exact ⟨hline, hcolumn, hback, hforth, hsame, hcursor⟩

end Editor

end TextEditor
