import Mathlib.Data.List.Chain
import Mathlib.Tactic.SplitIfs
import TextEditor.Proofs.Screen.Tiling

/-!
# The two measures of a text

Columns are counted one character at a time; a segment is measured as a whole. In plain ASCII the
two measures agree. In any other text the second counts a cell for each control, which has none by
itself, but for a carriage return before a line feed; and characters that join those right of them
take fewer cells there, or more. So a segment may be wider or narrower than the cells that it has up
to the next one.

Main statements: `from_measure` for one character, `measureAll_eq` for what the second measure adds,
`joinGain_eq_zero` for texts in which no two neighbours join, and `widths_agree_iff`.
-/

namespace TextEditor

open Unicode

/-- The characters without a shape: those before the space, and from delete on those up to the end
of the second block of controls. -/
def isControl (c : Char) : Bool := c.toNat < 0x20 || (0x7F ≤ c.toNat && c.toNat < 0xA0)

variable {c : Char} {right : Measured} {trailing : Trailing}

/-- The control characters are those of the two ranges set apart for them. -/
theorem isControl_iff :
    isControl c = true ↔ c.toNat < 0x20 ∨ (0x7F ≤ c.toNat ∧ c.toNat < 0xA0) := by
  simp only [isControl, Bool.or_eq_true, Bool.and_eq_true, decide_eq_true_eq]

/-! ## One character by itself -/

/-- The visible characters of ASCII take one cell each. -/
theorem cellWidth_of_visible (h : ' ' ≤ c ∧ c ≤ '~') : cellWidth c = 1 := if_pos h

/-- Control characters take none. -/
theorem cellWidth_of_isControl (h : isControl c = true) : cellWidth c = 0 := by
  rw [isControl_iff] at h
  have hvisible : ¬ (' ' ≤ c ∧ c ≤ '~') := by
    rintro ⟨hspace, htilde⟩
    have hlow : 0x20 ≤ c.toNat := hspace
    have hhigh : c.toNat ≤ 0x7E := htilde
    omega
  rw [cellWidth, if_neg hvisible]
  split
  · rfl
  · next hspace =>
      have hlow : ¬ c.toNat < 0x20 := hspace
      have hhigh : 0x7F ≤ c.toNat ∧ c.toNat ≤ 0x9F := by omega
      exact if_pos hhigh

/-- Up to the no-break space all characters but the controls take one cell. -/
theorem cellWidth_of_le (hle : c.toNat ≤ 0xA0) (h : isControl c = false) : cellWidth c = 1 := by
  have hcontrol : ¬ (c.toNat < 0x20 ∨ (0x7F ≤ c.toNat ∧ c.toNat < 0xA0)) := by
    rw [← isControl_iff, h]
    exact Bool.false_ne_true
  by_cases hlast : c.toNat = 0xA0
  · obtain rfl : c = '\u00A0' := Char.toNat_inj.1 hlast
    decide
  · have hvisible : 0x20 ≤ c.toNat ∧ c.toNat ≤ 0x7E := by omega
    exact cellWidth_of_visible hvisible

/-- No control can begin an emoji. -/
theorem not_emojiBase_of_isControl (h : isControl c = true) : emojiBaseRanges.has c = false := by
  have hnone : ∀ n < 0xA0, (n < 0x20 ∨ 0x7F ≤ n) → CharRanges.mem emojiBaseRanges n = false := by
    decide +kernel
  rw [isControl_iff] at h
  exact hnone _ (by omega) (by omega)

/-- Cells that a character left of these may take back: those of a letter that may be joined below
another, and of one more of an odd number of flag letters. -/
def Trailing.held : Trailing → Nat
  | .ligature .khmerLetter _ | .ligature .tifinaghLetterWithJoiner _ => 1
  | .joinedFlagLetter | .joinedFlagsOdd => 1
  | _ => 0

/-- The letters that may be joined below another take a cell. -/
theorem one_le_cellWidth_of_khmer (h : khmerSubscriptRanges.has c = true) : 1 ≤ cellWidth c := by
  have hascending : CharRanges.Ascending khmerSubscriptRanges := by
    simp [CharRanges.Ascending, khmerSubscriptRanges]
  have hshown : ∀ range ∈ khmerSubscriptRanges, 0xA0 ≤ range.1 ∧ ∀ k < range.2 + 1 - range.1,
      CharRanges.mem zeroWidthRanges (range.1 + k) = false := by
    decide +kernel
  obtain ⟨range, hrange, hfirst, hlast⟩ := (CharRanges.mem_iff hascending _).1 h
  obtain ⟨hhigh, hcells⟩ := hshown range hrange
  have hzero : zeroWidthRanges.has c = false := by
    have hcell := hcells (c.toNat - range.1) (by omega)
    rwa [Nat.add_sub_cancel' hfirst] at hcell
  have hspace : ¬ c < ' ' := by
    intro hlt
    have hlow : c.toNat < 0x20 := hlt
    omega
  have hcontrol : ¬ ('\x7f' ≤ c ∧ c ≤ '\u009f') := by
    rintro ⟨-, hle⟩
    have hlow : c.toNat ≤ 0x9F := hle
    omega
  rw [cellWidth, if_neg hspace, if_neg hcontrol, hzero]
  split
  · exact Nat.le_refl 1
  · split
    · decide
    · simp only [Bool.false_eq_true, if_false]
      split
      · decide
      · exact Nat.le_refl 1

/-- A character takes the cells that may be taken back from it. -/
theorem held_measureAlone (c : Char) :
    (measureAlone c).2.trailing.held ≤ cellWidth c ∧ (measureAlone c).2.trailing ≠ .lineFeed := by
  have hone := @one_le_cellWidth_of_khmer c
  let kept (trailing : Trailing) : Prop := trailing.held ≤ cellWidth c ∧ trailing ≠ .lineFeed
  have hzero (trailing : Trailing) (hnone : trailing.held = 0) (hne : trailing ≠ .lineFeed) :
      kept trailing := ⟨by omega, hne⟩
  show kept _
  unfold measureAlone
  iterate 6 refine iteInduction (motive := kept) (fun _ => hzero _ rfl nofun) fun _ => ?_
  refine iteInduction (motive := kept) (fun hkhmer => ⟨hone hkhmer, nofun⟩) fun _ => ?_
  iterate 6 refine iteInduction (motive := kept) (fun _ => hzero _ rfl nofun) fun _ => ?_
  exact hzero _ rfl nofun

/-- Characters up to the no-break space have no bearing on those left of them. -/
theorem measureAlone_of_le (h : c.toNat ≤ 0xA0) :
    measureAlone c = ((cellWidth c : Int), Measured.plain) := by
  have hlow : c.toNat < 0xA1 := by omega
  have hselector : c.toNat ≠ 0xFE0F ∧ c.toNat ≠ 0xFE0E := by omega
  simp only [measureAlone, if_pos hlow, if_neg hselector.1, if_neg hselector.2]
  rfl

/-! ## One character in a text -/

/-- Characters that join take back no more cells than may be taken back. -/
theorem held_joinTrailing? {result : Int × Measured} (h : joinTrailing? trailing c = some result) :
    (result.2.trailing.held : Int) ≤ trailing.held + result.1 ∧ result.2.trailing ≠ .lineFeed := by
  cases trailing with
  | plain | lineFeed | keycap => cases h
  | ligature letter joined =>
      simp only [joinTrailing?] at h
      split at h
      · cases h
        cases letter
        all_goals exact ⟨by simp [Trailing.held, Measured.of], nofun⟩
      · split at h
        · cases h
          exact ⟨by simp [Measured.of], nofun⟩
        · split at h
          case h_9 => cases h
          all_goals
            split_ifs at h
            all_goals
              cases h
              exact ⟨by simp [Trailing.held, Measured.of, Measured.plain], nofun⟩
  | _ =>
      simp only [joinTrailing?] at h
      split_ifs at h
      all_goals
        cases h
        exact ⟨by simp [Trailing.held, Measured.of, Measured.plain], nofun⟩

/-- What may come of a character in a text: it completes an emoji, is a line feed, has no bearing on
those left of it, is measured alone, is a variation selector, or joins those right of it. -/
inductive Measured.From (c : Char) (right : Measured) : Int × Measured → Prop where
  | completes {width : Int} (h : 0 ≤ width) : From c right (width, .of .emoji)
  | feeds (h : c = '\n') : From c right (1, .of .lineFeed)
  | ends {width : Int} (h : 0 ≤ width) : From c right (width, .plain)
  | stands : From c right (measureAlone c)
  | selects {trailing : Trailing} {presentation : Presentation}
      (h : trailing = .plain ∨ trailing = right.trailing ∧ trailing.passesSelector = true) :
      From c right (0, ⟨trailing, some presentation⟩)
  | joins {result : Int × Measured} (h : joinTrailing? right.trailing c = some result) :
      From c right result

/-- What lets ignorable characters stand inside a sequence lets selectors do so. -/
theorem passesSelector_of_passesIgnorable (h : trailing.passesIgnorable = true) :
    trailing.passesSelector = true := by
  cases trailing with
  | ligature | kiratRaiE | kiratRaiAi => rfl
  | _ => cases h

/-- What a character sees to its right; an emoji selector may hide it. -/
def Measured.seen (right : Measured) : Trailing :=
  if right.selector = some .emoji && !right.trailing.passesIgnorable then .plain
  else right.trailing

/-- Behind a variation selector the characters right of it may be out of view. -/
theorem hidden_cases (hidden : Bool) (trailing : Trailing) :
    (if hidden = true then Trailing.plain else trailing) = .plain ∨
      (if hidden = true then Trailing.plain else trailing) = trailing := by
  cases hidden with
  | false => exact .inr rfl
  | true => exact .inl rfl

/-- A character is measured in one of these ways. -/
theorem from_measure (c : Char) (right : Measured) : Measured.From c right (measure c right) := by
  unfold measure
  refine iteInduction (motive := Measured.From c right) (fun _ => .completes ?_) fun _ => ?_
  · split
    · decide
    · decide
  · have hcases : right.seen = .plain ∨ right.seen = right.trailing := hidden_cases ..
    have hseen : right.seen = if (right.selector = some .emoji && !right.trailing.passesIgnorable) =
        true then .plain else right.trailing := rfl
    simp only [← hseen]
    generalize right.seen = seen at hcases
    refine iteInduction (motive := Measured.From c right) (fun hfeed => .feeds hfeed) fun _ => ?_
    refine iteInduction (motive := Measured.From c right) (fun _ => .ends (by decide)) fun _ => ?_
    refine iteInduction (motive := Measured.From c right) (fun _ => .ends (by decide)) fun _ => ?_
    refine iteInduction (motive := Measured.From c right) (fun _ => .stands) fun _ => ?_
    refine iteInduction (motive := Measured.From c right) (fun _ => .selects ?_) fun _ => ?_
    · by_cases hpasses : seen.passesSelector = true
      · rw [if_pos hpasses]
        exact hcases.imp_right fun heq => ⟨heq, hpasses⟩
      · exact .inl (if_neg hpasses)
    refine iteInduction (motive := Measured.From c right) (fun _ => .selects ?_) fun _ => ?_
    · by_cases hpasses : seen.passesIgnorable = true
      · rw [if_pos hpasses]
        exact hcases.imp_right fun heq => ⟨heq, passesSelector_of_passesIgnorable hpasses⟩
      · exact .inl (if_neg hpasses)
    refine iteInduction (motive := Measured.From c right) (fun _ => .ends (by decide)) fun _ => ?_
    have hlast := hidden_cases (right.selector = some .text && !seen.passesIgnorable) seen
    generalize (if (right.selector = some .text && !seen.passesIgnorable) = true then .plain
      else seen) = last at hlast
    cases hjoin : joinTrailing? last c with
    | none => exact .stands
    | some result =>
        -- nothing is joined to what is plain
        have hne : last ≠ .plain := by
          rintro rfl
          cases hjoin
        have hsame : last = right.trailing := by
          rcases hlast with hplain | rfl
          · exact absurd hplain hne
          · exact hcases.resolve_left hne
        exact .joins (hsame ▸ hjoin)

/-! ## What a text takes as a whole -/

/-- A text is measured from its end, each character with what is to the right of it. -/
theorem measureAll_cons (c : Char) (t : Text) :
    Text.measureAll (c :: t) = ((Text.measureAll t).1 + (measure c (Text.measureAll t).2).1,
      (measure c (Text.measureAll t).2).2) := rfl

/-- A character takes back no more cells than may be taken back. -/
theorem held_measure (c : Char) (right : Measured) :
    ((measure c right).2.trailing.held : Int) ≤ right.trailing.held + (measure c right).1 := by
  have hcases := from_measure c right
  generalize measure c right = result at hcases
  cases hcases with
  | completes h | ends h =>
      have hheld := Int.natCast_nonneg right.trailing.held
      exact Int.add_nonneg hheld h
  | feeds h => exact Int.add_nonneg (Int.natCast_nonneg _) (by decide)
  | stands =>
      have hheld := (held_measureAlone c).1
      have hwidth : (measureAlone c).1 = cellWidth c := rfl
      omega
  | selects h =>
      rcases h with rfl | ⟨rfl, -⟩
      · exact Int.add_nonneg (Int.natCast_nonneg _) (Int.le_refl 0)
      · exact Int.le_of_eq (Int.add_zero _).symm
  | joins h => exact (held_joinTrailing? h).1

/-- A text takes the cells that may be taken back from it, so it never takes less than none. -/
theorem held_measureAll (t : Text) :
    ((Text.measureAll t).2.trailing.held : Int) ≤ (Text.measureAll t).1 := by
  induction t with
  | nil => exact Int.le_refl 0
  | cons c t ih =>
      have hstep := held_measure c (Text.measureAll t).2
      rw [measureAll_cons]
      simp only
      omega

/-- A line feed is measured the same whatever is to the right of it. -/
theorem measure_feed (right : Measured) : measure '\n' right = (1, .of .lineFeed) := by
  have hbase : emojiBaseRanges.has '\n' = false := not_emojiBase_of_isControl rfl
  rw [measure, hbase, if_neg (fun h => Bool.false_ne_true h.2)]
  rfl

/-- Only a line feed is seen as one. -/
theorem eq_feed_of_trailing (h : (measure c right).2.trailing = .lineFeed) : c = '\n' := by
  have hcases := from_measure c right
  generalize measure c right = result at h hcases
  cases hcases with
  | completes | ends => cases h
  | feeds hfeed => exact hfeed
  | stands => exact absurd h (held_measureAlone c).2
  | @selects trailing _ hselects =>
      have hseen : trailing = .lineFeed := h
      subst hseen
      rcases hselects with hplain | ⟨-, hpasses⟩
      · cases hplain
      · cases hpasses
  | joins hjoins => exact absurd h (held_joinTrailing? hjoins).2

/-- A line feed is seen by the character left of it. -/
theorem seen_measureAll_iff (t : Text) :
    (Text.measureAll t).2.seen = .lineFeed ↔ t.head? = some '\n' := by
  cases t with
  | nil => exact ⟨nofun, nofun⟩
  | cons c t =>
      rw [measureAll_cons, List.head?_cons, Option.some.injEq]
      constructor
      · intro h
        rcases hidden_cases _ (measure c (Text.measureAll t).2).2.trailing with hplain | hsame
        · cases hplain.symm.trans h
        · exact eq_feed_of_trailing (hsame.symm.trans h)
      · rintro rfl
        rw [measure_feed]
        rfl

/-- A control takes a cell, unless it is a carriage return before a line feed, and only a line feed
has a bearing on the character left of it. -/
theorem measure_of_isControl (h : isControl c = true) (right : Measured) :
    measure c right = (if c = '\r' ∧ right.seen = .lineFeed then 0 else 1,
      if c = '\n' then .of .lineFeed else .plain) := by
  have hlow : c ≤ '\u00A0' := by
    rw [isControl_iff] at h
    show c.toNat ≤ 0xA0
    omega
  by_cases hfeed : c = '\n'
  · subst hfeed
    rw [measure_feed]
    rfl
  · rw [measure, not_emojiBase_of_isControl h, if_neg (fun h => Bool.false_ne_true h.2)]
    simp only [if_neg hfeed, if_pos hlow]
    change (if c = '\r' ∧ right.seen = .lineFeed then _ else _) = _
    split
    · rfl
    · rfl

namespace Text

/-- The controls of a text, but for each carriage return before a line feed. -/
def loneControls : Text → Nat
  | [] => 0
  | c :: t =>
      (if isControl c = true ∧ ¬ (c = '\r' ∧ t.head? = some '\n') then 1 else 0) + loneControls t

/-- The cells that the other characters of a text take more than by themselves, because of those
right of them; fewer where this is negative. -/
def joinGain : Text → Int
  | [] => 0
  | c :: t =>
      (if isControl c = true then 0 else (measure c (measureAll t).2).1 - cellWidth c) + joinGain t

/-- What the characters of a text take as a whole and one by one. -/
theorem measureAll_eq (t : Text) :
    (measureAll t).1 = t.cellCount + t.loneControls + t.joinGain := by
  induction t with
  | nil => rfl
  | cons c t ih =>
      rw [measureAll_cons, cellCount_cons, loneControls, joinGain]
      simp only [ih]
      by_cases hcontrol : isControl c = true
      · rw [measure_of_isControl hcontrol, cellWidth_of_isControl hcontrol]
        simp only [seen_measureAll_iff, hcontrol, true_and, if_true]
        split
        · omega
        · omega
      · simp only [hcontrol, Bool.false_eq_true, false_and, if_false]
        omega

/-- Of a text in plain ASCII the characters in view are counted, which take one cell each. -/
theorem displayWidth_of_ascii {t : Text} (h : ∀ c ∈ t, c.toNat < 0x80) :
    t.displayWidth = t.cellCount := by
  have hall : t.all (fun c => c.toNat < 0x80) = true :=
    List.all_eq_true.2 fun c hc => decide_eq_true (h c hc)
  rw [displayWidth, if_pos hall]
  clear hall
  induction t with
  | nil => rfl
  | cons c t ih =>
      obtain ⟨hfirst, hrest⟩ := List.forall_mem_cons.1 h
      rw [cellCount_cons, ← ih hrest]
      by_cases hvisible : ' ' ≤ c ∧ c ≤ '~'
      · rw [List.filter_cons_of_pos (by simpa using hvisible), List.length_cons,
          cellWidth_of_visible hvisible, Nat.add_comm]
      · have hcontrol : isControl c = true := by
          have hout : ¬ (0x20 ≤ c.toNat ∧ c.toNat ≤ 0x7E) := hvisible
          rw [isControl_iff]
          omega
        rw [List.filter_cons_of_neg (by simpa using hvisible), cellWidth_of_isControl hcontrol,
          Nat.zero_add]

/-- A text is measured the same as a whole and character by character: it is plain ASCII, or its
controls make up for what its joined characters lose. -/
def MeasuresAlike (t : Text) : Prop :=
  (∀ c ∈ t, c.toNat < 0x80) ∨ (t.loneControls : Int) + t.joinGain = 0

/-- The two widths of a text are the same just when it is measured alike both ways. -/
theorem displayWidth_eq_cellCount_iff (t : Text) :
    t.displayWidth = t.cellCount ↔ t.MeasuresAlike := by
  by_cases hascii : ∀ c ∈ t, c.toNat < 0x80
  · exact iff_of_true (displayWidth_of_ascii hascii) (.inl hascii)
  · have hall : t.all (fun c => c.toNat < 0x80) ≠ true := by
      intro hall
      exact hascii fun c hc => of_decide_eq_true (List.all_eq_true.1 hall c hc)
    have hnonneg := held_measureAll t
    rw [MeasuresAlike, or_iff_right hascii, displayWidth, if_neg hall]
    rw [measureAll_eq] at hnonneg ⊢
    omega

end Text

/-! ## Neighbours -/

/-- Nothing right of a character, and a line feed there, has no bearing on it. -/
theorem measure_of_silent (h : isControl c = false)
    (hright : right = .plain ∨ right = .of .lineFeed) : measure c right = measureAlone c := by
  have hselector : right.selector = none := by
    rcases hright with rfl | rfl
    · rfl
    · rfl
  have hfeed : c ≠ '\n' := by
    rintro rfl
    cases h
  have hreturn : c ≠ '\r' := by
    rintro rfl
    cases h
  by_cases hlow : c ≤ '\u00A0'
  · rw [measureAlone_of_le hlow, cellWidth_of_le hlow h]
    simp [measure, hselector, hfeed, hreturn, hlow]
  · rcases hright with rfl | rfl
    · simp [measure, Measured.plain, hfeed, hreturn, hlow]
    · by_cases hemoji : c = '\uFE0F'
      · subst hemoji
        decide +kernel
      · by_cases htext : c = '\uFE0E'
        · subst htext
          decide +kernel
        · simp [measure, Measured.of, hfeed, hreturn, hlow, hemoji, htext, joinTrailing?]

/-- A character whose neighbours have no bearing on it says as much to its left as it would alone,
but for a line feed. -/
theorem state_cases {t : Text}
    (h : isControl c = false → measure c (Text.measureAll t).2 = measureAlone c) :
    (Text.measureAll (c :: t)).2 = (measureAlone c).2 ∨
      c = '\n' ∧ (Text.measureAll (c :: t)).2 = .of .lineFeed := by
  rw [measureAll_cons]
  simp only
  cases hcontrol : isControl c with
  | false =>
      rw [h hcontrol]
      exact .inl rfl
  | true =>
      have hlow : c.toNat ≤ 0xA0 := by
        rw [isControl_iff] at hcontrol
        omega
      rw [measure_of_isControl hcontrol, measureAlone_of_le hlow]
      by_cases hfeed : c = '\n'
      · exact .inr ⟨hfeed, if_pos hfeed⟩
      · exact .inl (if_neg hfeed)

/-- A character joins the one right of it: measured there it is other than alone. -/
def Joins (c d : Char) : Prop :=
  isControl c = false ∧ measure c (measureAlone d).2 ≠ measureAlone c

namespace Text

/-- No character of a text joins the one right of it. -/
def Unjoined (t : Text) : Prop := t.IsChain fun c d => ¬ Joins c d

/-- What a text without joined neighbours makes of the character left of it comes from its first
character alone. -/
theorem Unjoined.cons_eq {t : Text} (h : Unjoined (c :: t)) :
    (isControl c = false → measure c (measureAll t).2 = measureAlone c) ∧
      ((measureAll (c :: t)).2 = (measureAlone c).2 ∨
        c = '\n' ∧ (measureAll (c :: t)).2 = .of .lineFeed) := by
  induction t generalizing c with
  | nil =>
      have halone (hcontrol : isControl c = false) : measure c .plain = measureAlone c :=
        measure_of_silent hcontrol (.inl rfl)
      exact ⟨halone, state_cases halone⟩
  | cons d t ih =>
      obtain ⟨hjoins, hrest⟩ := List.isChain_cons_cons.1 h
      have halone (hcontrol : isControl c = false) :
          measure c (measureAll (d :: t)).2 = measureAlone c := by
        rcases (ih hrest).2 with hstate | ⟨-, hstate⟩
        · rw [hstate]
          exact Classical.not_not.1 fun hne => hjoins ⟨hcontrol, hne⟩
        · rw [hstate]
          exact measure_of_silent hcontrol (.inr rfl)
      exact ⟨halone, state_cases halone⟩

/-- In a text without joined neighbours only controls are measured otherwise than by themselves. -/
theorem joinGain_eq_zero {t : Text} (h : t.Unjoined) : t.joinGain = 0 := by
  induction t with
  | nil => rfl
  | cons c t ih =>
      rw [joinGain, ih h.tail]
      split
      · rfl
      · next hcontrol =>
          rw [h.cons_eq.1 (Bool.eq_false_iff.2 hcontrol)]
          show (cellWidth c : Int) - cellWidth c + 0 = 0
          omega

end Text

/-! ## Lines and segments -/

/-- Spaces take a cell each. -/
theorem Text.cellCount_replicate_space (count : Nat) :
    cellCount (List.replicate count ' ') = count := by
  induction count with
  | zero => rfl
  | succ count ih => rw [List.replicate_succ, cellCount_cons, ih, cellWidth_space, Nat.add_comm]

/-- With spaces in place of its tabs a text takes the cells between the columns where it begins and
ends. -/
theorem Text.add_cellCount_expandFrom (tabWidth column : Nat) (t : Text) :
    column + cellCount (expandFrom tabWidth column t) = advanceAll tabWidth column t := by
  induction t generalizing column with
  | nil => rfl
  | cons c t ih =>
      have hle := le_advance tabWidth column c
      have hfirst : cellCount (if c = '\t' then
          List.replicate (advance tabWidth column c - column) ' ' else [c]) =
          advance tabWidth column c - column := by
        split
        · exact cellCount_replicate_space _
        · next htab =>
            rw [advance_of_ne htab, cellCount_cons, cellCount_nil]
            omega
      rw [advanceAll_cons, ← ih, expandFrom, cellCount_append, hfirst]
      omega

/-- A line is as wide as it is with its tabs written out as spaces. -/
theorem Text.lineWidth_eq (line : Text) (tabWidth : Nat) :
    line.lineWidth tabWidth = (line.expandTabs tabWidth).cellCount := by
  rw [lineWidth, ← add_cellCount_expandFrom, Nat.zero_add]
  rfl

/-- In a tiling a segment begins in the cell after the one before it. -/
theorem Segment.Tile.column_next {n stop : Nat} {segment next : Segment}
    {earlier later : List Segment} (h : Tile n (earlier ++ segment :: next :: later) stop) :
    next.column = segment.stop := by
  induction earlier generalizing n with
  | nil => exact h.2.2.1
  | cons first earlier ih => exact ih h.2.2

/-- Where the two measures agree. A line has the cells of the text with spaces in place of its tabs,
counted one character at a time, and a segment has the cells of its text up to the column of the
next. A text measured as a whole takes the cells of its characters just when it is plain ASCII, or
when its controls make up for what its joined characters lose; where no two neighbours join, just
when it is plain ASCII or without controls, carriage returns before line feeds apart. -/
theorem widths_agree_iff (line : Text) (tokens : List Token) (left width tabWidth : Nat) :
    line.lineWidth tabWidth = (line.expandTabs tabWidth).cellCount ∧
    (line.lineWidth tabWidth = (line.expandTabs tabWidth).displayWidth ↔
      (line.expandTabs tabWidth).MeasuresAlike) ∧
    (∀ t : Text, t.displayWidth = t.cellCount ↔ t.MeasuresAlike) ∧
    (∀ t : Text, t.Unjoined →
      (t.MeasuresAlike ↔ (∀ c ∈ t, c.toNat < 0x80) ∨ t.loneControls = 0)) ∧
    ∀ earlier segment next later,
      visibleSegments line tokens left width tabWidth = earlier ++ segment :: next :: later →
      next.column = segment.column + segment.text.cellCount ∧
        (next.column = segment.column + segment.width ↔ segment.text.MeasuresAlike) := by
  have hline := line.lineWidth_eq tabWidth
  refine ⟨hline, ?_, Text.displayWidth_eq_cellCount_iff, ?_, ?_⟩
  · rw [hline, eq_comm]
    exact Text.displayWidth_eq_cellCount_iff _
  · intro t hunjoined
    rw [Text.MeasuresAlike, Text.joinGain_eq_zero hunjoined, Int.add_zero, Int.natCast_eq_zero]
  · intro earlier segment next later hsegments
    have hnext : next.column = segment.column + segment.text.cellCount :=
      (hsegments ▸ tile_visibleSegments line tokens left width tabWidth).column_next
    refine ⟨hnext, ?_⟩
    rw [hnext, Nat.add_left_cancel_iff, eq_comm]
    exact Text.displayWidth_eq_cellCount_iff _

/-- A line with a control that is not plain ASCII takes four cells and is measured with five; its
first segment is measured with three, and the next one begins in column 2. An emoji that is put
together from two is measured with two cells, and the next segment begins in column 4. -/
theorem widths_differ :
    let line : Text := ['a', '\x07', 'é', '=', '1']
    let emoji : Text := ['👩', '\u200D', '👩', '=']
    line.lineWidth 4 = 4 ∧ (line.expandTabs 4).displayWidth = 5 ∧
      line.cellCount = 4 ∧ line.displayWidth = 5 ∧
      (visibleSegments line [⟨.operator, ⟨4, 5⟩, .go⟩] 0 10 4).map
        (fun segment => (segment.column, segment.width)) = [(0, 3), (2, 1), (3, 1)] ∧
      (visibleSegments emoji [⟨.operator, ⟨11, 12⟩, .go⟩] 0 10 4).map
        (fun segment => (segment.column, segment.width)) = [(0, 2), (4, 1)] := by
  decide +kernel

end TextEditor
