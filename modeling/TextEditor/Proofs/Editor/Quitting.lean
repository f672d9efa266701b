import TextEditor.Proofs.Editor.Saving
import TextEditor.Proofs.Editor.Stance
import TextEditor.Proofs.Editor.Untouched

/-!
# Quitting

An editor asks before it lets go of changes: the command to quit leads to a question, the question
to quitting, to saving or to the prompt for a file name, and that prompt to saving. The host may
carry out other operations at any time, also while a question stands. Whether the prompt leads to
quitting is a flag of the editor; here it is traced back to what the prompt was last opened for.

Main statements: `turn_perform`, all that an operation can do to the two questions;
`Traced.performAll`, what the flag goes back to; `Aside.performAll`, without a command to quit no
question leads to quitting; and `quit_safety`.
-/

namespace TextEditor

/-- The answer that changes need not be saved. -/
def KeyEvent.DeclinesSaving (event : KeyEvent) : Prop :=
  event.key = .char 'n' ∨ event.key = .char 'N'

instance (event : KeyEvent) : Decidable event.DeclinesSaving :=
  inferInstanceAs (Decidable (_ ∨ _))

/-- The two modes in which the editor waits for an answer that may lead to quitting. -/
def Mode.Asks (mode : Mode) : Prop := mode = .savePrompt ∨ mode = .quitPrompt

instance (mode : Mode) : Decidable mode.Asks := inferInstanceAs (Decidable (_ ∨ _))

/-- The host is asked to quit. -/
def Outcome.Quits (outcome : Outcome) : Prop :=
  outcome = .request .quit ∨ ∃ saved, outcome = .request (.saveAndQuit saved)

/-- What the prompt for a file name is opened for: to save, or to save before quitting. -/
inductive PromptPurpose where
  | save
  | quit
  deriving DecidableEq, Repr

namespace Editor

variable {editor after : Editor} {operation : Operation} {last : Option PromptPurpose}

/-- Whether an operation answers the question before quitting by saving. -/
def savesFirst (editor : Editor) : Operation → Bool
  | .key event => editor.mode = .quitPrompt ∧ ¬ event.DeclinesSaving
  | _ => false

/-- What an operation opens the prompt for a file name for, if it opens it: a document without a
name is to be saved, by a command or by an answer to the question before quitting. -/
def opens? (editor : Editor) (operation : Operation) : Option PromptPurpose :=
  if editor.fileName.isSome then none
  else if editor.command? operation = some (.save none) then some .save
  else if editor.savesFirst operation then some .quit
  else none

/-- What the prompt for a file name was last opened for after a run, if it was `last` before. -/
def lastOpening (editor : Editor) (last : Option PromptPurpose) :
    List Operation → Option PromptPurpose
  | [] => last
  | operation :: operations =>
      (editor.perform operation).2.lastOpening ((editor.opens? operation).or last) operations

/-- An operation begins to quit: it is the command to quit, and there are changes to ask about. -/
def BeginsQuitting (editor : Editor) (operation : Operation) : Prop :=
  editor.command? operation = some .quit ∧ editor.dirty = true

/-- Keys give commands only at the prompt for them. -/
theorem command?_key_eq_none {mode : Mode} {event : KeyEvent} (h : editor.mode = mode)
    (hmode : mode ≠ .command) : editor.command? (.key event) = none :=
  if_neg fun hkey => hmode (h.symm.trans hkey.1)

/-- Keys answer the question before quitting only while it stands. -/
theorem savesFirst_key_eq_false {mode : Mode} {event : KeyEvent} (h : editor.mode = mode)
    (hmode : mode ≠ .quitPrompt) : editor.savesFirst (.key event) = false :=
  decide_eq_false fun hsaves => hmode (h.symm.trans hsaves.1)

/-- An operation that is no key, or is a key that declines, does not answer it by saving. -/
theorem savesFirst_eq_false
    (h : ∀ event, operation = .key event → editor.mode = .quitPrompt → event.DeclinesSaving) :
    editor.savesFirst operation = false := by
  cases operation with
  | key event => exact decide_eq_false fun hsaves => hsaves.2 (h event rfl hsaves.1)
  | _ => rfl

/-- The prompt for a file name is opened by nothing but a command to save and such an answer. -/
theorem opens?_eq_none (hsave : editor.command? operation ≠ some (.save none))
    (hanswer : editor.savesFirst operation = false) : editor.opens? operation = none := by
  simp only [opens?, hsave, hanswer, if_false, Bool.false_eq_true, ite_self]

/-- What gives no command and answers no question does not open the prompt for a file name. -/
theorem opens?_eq_none_of_calm (hcommand : editor.command? operation = none)
    (hanswer : editor.savesFirst operation = false) : editor.opens? operation = none := by
  refine opens?_eq_none (fun hsave => ?_) hanswer
  cases hcommand.symm.trans hsave

/-- The prompt is opened for quitting only by an answer to the question before quitting. -/
theorem opens?_eq_some {purpose : PromptPurpose} (h : editor.opens? operation = some purpose) :
    purpose = .save ∧ editor.command? operation = some (.save none) ∨
      purpose = .quit ∧ editor.mode = .quitPrompt := by
  unfold opens? at h
  split at h
  · cases h
  · split at h
    · next hsave => exact .inl ⟨(Option.some.inj h).symm, hsave⟩
    · split at h
      · next hanswer =>
          refine .inr ⟨(Option.some.inj h).symm, ?_⟩
          cases operation with
          | key event => exact (of_decide_eq_true hanswer).1
          | _ => cases hanswer
      · cases h

/-! ## One operation -/

/-- All that an operation can do to the questions that an editor asks before it quits, as seen from
what comes of it. -/
inductive Turn (editor : Editor) (operation : Operation) : Outcome × Editor → Prop where
  /-- No question comes up: the one that stands, if there is one, stays or is dropped. -/
  | goesOn {outcome : Outcome} {after : Editor} (hopens : editor.opens? operation = none)
      (hbegins : ¬ editor.BeginsQuitting operation) (hquits : ¬ outcome.Quits)
      (hafter : after.stance = editor.stance ∨ ¬ after.mode.Asks) :
      Turn editor operation (outcome, after)
  | opens {after : Editor} {purpose : PromptPurpose}
      (hopens : editor.opens? operation = some purpose) (hmode : after.mode = .savePrompt)
      (hpurpose : after.quitAfterSave = decide (purpose = .quit)) :
      Turn editor operation (.nothing, after)
  | asks {after : Editor} (hopens : editor.opens? operation = none)
      (hbegins : editor.BeginsQuitting operation)
      (hmode : after.mode = .quitPrompt) : Turn editor operation (.nothing, after)
  | quits {after : Editor} (hopens : editor.opens? operation = none)
      (hclean : editor.dirty = false ∧ after.dirty = false)
      (hafter : after.stance = editor.stance ∨ ¬ after.mode.Asks) :
      Turn editor operation (.request .quit, after)
  /-- The question before quitting is answered by quitting. -/
  | declines {event : KeyEvent} {after : Editor} (hopens : editor.opens? operation = none)
      (hkey : operation = .key event)
      (hmode : editor.mode = .quitPrompt) (hdeclines : event.DeclinesSaving)
      (hafter : ¬ after.mode.Asks) : Turn editor operation (.request .quit, after)
  /-- The question before quitting is answered by saving. -/
  | saves {event : KeyEvent} {outcome : Outcome} {after : Editor}
      (hopens : editor.opens? operation = none) (hkey : operation = .key event)
      (hmode : editor.mode = .quitPrompt) (hquit : outcome ≠ .request .quit)
      (hafter : ¬ after.mode.Asks) : Turn editor operation (outcome, after)
  /-- The prompt for a file name is answered. -/
  | names {event : KeyEvent} {outcome : Outcome} {after : Editor}
      (hopens : editor.opens? operation = none) (hkey : operation = .key event)
      (hmode : editor.mode = .savePrompt) (henter : event.key = .enter)
      (hquit : outcome ≠ .request .quit)
      (hflag : ∀ saved, outcome = .request (.saveAndQuit saved) → editor.quitAfterSave = true)
      (hafter : ¬ after.mode.Asks) : Turn editor operation (outcome, after)

/-- A mode that is known not to wait for an answer asks nothing. -/
theorem not_asks_of_mode (mode : Mode) (h : after.mode = mode) (hmode : ¬ mode.Asks) :
    ¬ after.mode.Asks := by
  rwa [h]

/-- An editor in which the document is edited asks nothing. -/
theorem not_asks_editing (h : after.mode = .editing) : ¬ after.mode.Asks :=
  not_asks_of_mode .editing h (by decide)

/-- Without a request there is none to quit. -/
theorem not_quits_nothing : ¬ Outcome.nothing.Quits := by
  rintro (hquit | ⟨saved, hquit⟩)
  · cases hquit
  · cases hquit

/-- The mode is part of the stance. -/
theorem mode_of_stance {before : Editor} (h : after.stance = before.stance) :
    after.mode = before.mode := congrArg (·.1) h

/-- The flag that saving leads to quitting is part of the stance. -/
theorem flag_of_stance {before : Editor} (h : after.stance = before.stance) :
    after.quitAfterSave = before.quitAfterSave := congrArg (·.2.2) h

/-- What saving asks of the host: nothing, or to save, and to quit after that if this is wanted. -/
theorem requestSave_cases (editor : Editor) (quitAfter : Bool) :
    (editor.requestSave quitAfter).1 = none ∨ ∃ saved,
      (editor.requestSave quitAfter).1 =
        some (if quitAfter then .saveAndQuit saved else .save saved) := by
  unfold requestSave
  split
  · exact .inl rfl
  · split
    · exact .inl rfl
    · exact .inr ⟨_, rfl⟩

/-- Saving does not ask the host to quit without saving. -/
theorem requestSave_ne_quit (editor : Editor) (quitAfter : Bool) :
    Outcome.ofRequest? (editor.requestSave quitAfter).1 ≠ .request .quit := by
  intro hquit
  rcases requestSave_cases editor quitAfter with heq | ⟨saved, heq⟩
  · rw [heq] at hquit
    cases hquit
  · rw [heq] at hquit
    cases quitAfter with
    | true => cases hquit
    | false => cases hquit

/-- Saving asks the host to quit after it only if this is wanted. -/
theorem flag_of_requestSave {quitAfter : Bool} {saved : SaveRequest}
    (h : Outcome.ofRequest? (editor.requestSave quitAfter).1 = .request (.saveAndQuit saved)) :
    quitAfter = true := by
  rcases requestSave_cases editor quitAfter with heq | ⟨other, heq⟩
  · rw [heq] at h
    cases h
  · rw [heq] at h
    cases quitAfter with
    | true => rfl
    | false => cases h

/-- Saving that is not to lead to quitting asks for no quitting at all. -/
theorem not_quits_requestSave (editor : Editor) :
    ¬ (Outcome.ofRequest? (editor.requestSave false).1).Quits := by
  rintro (hquit | ⟨saved, hquit⟩)
  · exact requestSave_ne_quit editor false hquit
  · cases flag_of_requestSave hquit

/-- What a command does to the questions. -/
theorem turn_of_command? {command : Command} (h : editor.command? operation = some command) :
    Turn editor operation (editor.perform operation) := by
  obtain ⟨mode, input, journal, hmode, heq⟩ := perform_of_command? h
  simp only at heq
  have hanswer : editor.savesFirst operation = false := by
    apply savesFirst_eq_false
    rintro event rfl hquit
    rw [command?_key_eq_none hquit (by decide)] at h
    cases h
  -- the mode has been left alone or the prompt for commands has been closed
  have hcalm {after : Editor}
      (hstance : after.stance = (mode, editor.search, editor.quitAfterSave)) :
      after.stance = editor.stance ∨ ¬ after.mode.Asks := by
    rcases hmode with rfl | rfl
    · exact .inl hstance
    · exact .inr (not_asks_editing (congrArg (·.1) hstance))
  have hbegins (hne : decide (command = .quit) = false) : ¬ editor.BeginsQuitting operation :=
    fun hbegins => of_decide_eq_false hne (Option.some.inj (h.symm.trans hbegins.1))
  have hopens (hne : decide (command = .save none) = false) : editor.opens? operation = none := by
    refine opens?_eq_none (fun hsave => ?_) hanswer
    exact of_decide_eq_false hne (Option.some.inj (h.symm.trans hsave))
  rw [heq]
  cases command with
  | quit =>
      simp only [execute]
      split
      · next hdirty => exact .asks (hopens rfl) ⟨h, hdirty⟩ rfl
      · next hclean =>
          have hclean : editor.dirty = false := Bool.eq_false_iff.2 hclean
          exact .quits (hopens rfl) ⟨hclean, hclean⟩ (hcalm rfl)
  | save path =>
      cases path with
      | some path =>
          refine .goesOn (hopens rfl) (hbegins rfl) (not_quits_requestSave _) (hcalm ?_)
          exact (stance_requestSave _ _).trans (stance_setFileName _ _)
      | none =>
          simp only [execute]
          cases hname : editor.fileName with
          | none =>
              have hopens : editor.opens? operation = some .save := by
                simp only [opens?, hname, h, if_true, Option.isSome_none, Bool.false_eq_true,
                  if_false]
              exact .opens hopens rfl rfl
          | some path =>
              have hopens : editor.opens? operation = none := by
                simp only [opens?, hname, Option.isSome_some, if_true]
              exact .goesOn hopens (hbegins rfl) (not_quits_requestSave _)
                (hcalm (stance_requestSave _ _))
  | goto line column =>
      exact .goesOn (hopens rfl) (hbegins rfl) not_quits_nothing (hcalm (stance_goto _ _ _))
  | setEncoding encoding => exact .goesOn (hopens rfl) (hbegins rfl) not_quits_nothing (hcalm rfl)
  | format => exact .goesOn (hopens rfl) (hbegins rfl) not_quits_nothing (hcalm (stance_format _))
  | test =>
      refine .goesOn (hopens rfl) (hbegins rfl) ?_ (hcalm rfl)
      rintro (hquit | ⟨saved, hquit⟩)
      · cases hquit
      · cases hquit

/-- An operation that gives no command and answers no question opens no prompt and does not begin to
quit. -/
theorem Turn.of_calm {outcome : Outcome} (hcommand : editor.command? operation = none)
    (hanswer : editor.savesFirst operation = false) (hquits : ¬ outcome.Quits)
    (hafter : after.stance = editor.stance ∨ ¬ after.mode.Asks) :
    Turn editor operation (outcome, after) := by
  refine .goesOn (opens?_eq_none_of_calm hcommand hanswer) ?_ hquits hafter
  rintro ⟨hquit, -⟩
  cases hcommand.symm.trans hquit

/-- What a key can do while the document is edited: it asks nothing of the host, though it may open
another mode. -/
theorem turn_editingKey (h : editor.mode = .editing) (event : KeyEvent) :
    Turn editor (.key event) (.nothing, editor.editingKey event) := by
  have hkept {after : Editor} (hstance : after.stance = editor.stance) : ¬ after.mode.Asks :=
    not_asks_editing ((mode_of_stance hstance).trans h)
  apply Turn.of_calm
  · exact command?_key_eq_none h (by decide)
  · exact savesFirst_key_eq_false h (by decide)
  · exact not_quits_nothing
  · right
    unfold editingKey
    split
    · exact not_asks_of_mode .find rfl (by decide)
    · split
      · exact not_asks_of_mode .command rfl (by decide)
      · apply hkept
        split
        · split
          · exact stance_jumpTo ..
          · exact stance_moveLeft editor
        · split
          · exact stance_jumpTo ..
          · exact stance_moveRight editor
        · exact stance_moveUp editor
        · exact stance_moveDown editor
        · exact stance_jumpTo ..
        · exact stance_jumpTo ..
        · exact stance_moveVertically editor _
        · exact stance_moveVertically editor _
        · exact stance_splitLine editor
        · exact stance_backspace editor
        · exact stance_deleteForward editor
        · exact stance_insertText editor _
        · split
          · exact stance_insertChar editor _
          · rfl
        · split
          · exact stance_insertChar editor _
          · rfl

/-- What a key can do at the prompt for commands: carry out the command that is written there, or
nothing. -/
theorem turn_commandKey (h : editor.mode = .command) (event : KeyEvent) :
    Turn editor (.key event) (editor.perform (.key event)) := by
  cases hcommand : editor.command? (.key event) with
  | some command => exact turn_of_command? hcommand
  | none =>
      have hanswer : editor.savesFirst (.key event) = false :=
        savesFirst_key_eq_false h (by decide)
      rw [perform, handleKey, h]
      simp only [commandKey]
      split
      · exact .of_calm hcommand hanswer not_quits_nothing (.inr (not_asks_editing rfl))
      · next hkey =>
          have hline : Command.ofLine? editor.input = none := by
            rwa [command?, if_pos ⟨h, hkey⟩] at hcommand
          rcases executeLine_of_ofLine?_none { editor with mode := .editing, input := [] } hline
            with heq | ⟨message, heq⟩
          · rw [heq]
            exact .of_calm hcommand hanswer not_quits_nothing (.inr (not_asks_editing rfl))
          · rw [heq]
            exact .of_calm hcommand hanswer not_quits_nothing (.inr (not_asks_editing rfl))
      · exact .of_calm hcommand hanswer not_quits_nothing (.inl (stance_promptKey editor event))

/-- What a key can do in a search: nothing, as far as quitting goes. -/
theorem turn_findKey (h : editor.mode = .find) (event : KeyEvent) :
    Turn editor (.key event) (.nothing, editor.findKey event) := by
  have hsearch (search : LineSearch) :
      ¬ ({ editor with search := search }.gotoResult.mode).Asks := by
    have hmode : { editor with search := search }.gotoResult.mode = .find :=
      (mode_of_stance (stance_gotoResult _)).trans h
    exact not_asks_of_mode .find hmode (by decide)
  apply Turn.of_calm
  · exact command?_key_eq_none h (by decide)
  · exact savesFirst_key_eq_false h (by decide)
  · exact not_quits_nothing
  · unfold findKey
    split
    · exact .inr (not_asks_editing rfl)
    · exact .inr (not_asks_editing rfl)
    · exact .inr (hsearch _)
    · exact .inr (hsearch _)
    · exact .inr (hsearch _)
    · exact .inr (hsearch _)
    · exact .inr (hsearch _)
    · split
      · exact .inr (hsearch _)
      · exact .inl rfl

/-- What a key can do at the prompt for a file name: save under the name, leave the prompt, or go on
writing it. -/
theorem turn_savePromptKey (h : editor.mode = .savePrompt) (event : KeyEvent) :
    Turn editor (.key event) (editor.perform (.key event)) := by
  have hcommand : editor.command? (.key event) = none :=
    command?_key_eq_none h (by decide)
  have hanswer : editor.savesFirst (.key event) = false :=
    savesFirst_key_eq_false h (by decide)
  have hopens := opens?_eq_none_of_calm hcommand hanswer
  rw [perform, handleKey, h]
  simp only [savePromptKey]
  split
  · exact .of_calm hcommand hanswer not_quits_nothing (.inr (not_asks_editing rfl))
  · next hkey =>
      split
      · refine .names hopens rfl h hkey (fun hquit => ?_) (fun saved hsaved => ?_)
          (not_asks_editing rfl)
        · cases hquit
        · cases hsaved
      · refine .names hopens rfl h hkey (requestSave_ne_quit _ _)
          (fun saved => flag_of_requestSave) ?_
        apply not_asks_editing
        exact (mode_of_stance (stance_requestSave _ _)).trans
          (mode_of_stance (stance_setFileName _ _))
  · exact .of_calm hcommand hanswer not_quits_nothing (.inl (stance_promptKey editor event))

/-- What a key can do at the question before quitting: quit, save first, return to the document, or
nothing. -/
theorem turn_quitPromptKey (h : editor.mode = .quitPrompt) (event : KeyEvent) :
    Turn editor (.key event) (editor.perform (.key event)) := by
  have hcommand : editor.command? (.key event) = none :=
    command?_key_eq_none h (by decide)
  rw [perform, handleKey, h]
  simp only [quitPromptKey]
  split
  · next hdeclines =>
      have hanswer : editor.savesFirst (.key event) = false :=
        decide_eq_false fun hsaves => hsaves.2 hdeclines
      exact .declines (opens?_eq_none_of_calm hcommand hanswer) rfl h hdeclines
        (not_asks_editing rfl)
  · next hsaves =>
      split
      · next hname =>
          have hopens : editor.opens? (.key event) = none := if_pos hname
          refine .saves hopens rfl h (requestSave_ne_quit _ _) (not_asks_editing ?_)
          exact mode_of_stance (stance_requestSave _ _)
      · next hname =>
          have hanswer : editor.savesFirst (.key event) = true := decide_eq_true ⟨h, hsaves⟩
          have hopens : editor.opens? (.key event) = some .quit := by
            simp only [opens?, hname, hcommand, hanswer, if_true, if_false, reduceCtorEq]
          exact .opens hopens rfl rfl

/-- Only what a user types does anything to the questions. -/
theorem turn_of_not_takesInput (h : ¬ takesInput operation) :
    Turn editor operation (editor.perform operation) := by
  have hcommand : editor.command? operation = none := by
    cases operation with
    | key event => exact absurd trivial h
    | executeLine line => exact absurd trivial h
    | _ => rfl
  have hanswer : editor.savesFirst operation = false := by
    apply savesFirst_eq_false
    rintro event rfl
    exact absurd trivial h
  refine .of_calm hcommand hanswer ?_ (.inl (stance_perform editor h))
  rintro (hquit | ⟨saved, hquit⟩)
  · exact perform_ne_request editor h _ hquit
  · exact perform_ne_request editor h _ hquit

/-- What an operation does to the questions that stand before quitting. -/
theorem turn_perform (editor : Editor) (operation : Operation) :
    Turn editor operation (editor.perform operation) := by
  cases operation with
  | key event =>
      cases hmode : editor.mode with
      | editing =>
          rw [perform, handleKey, hmode]
          exact turn_editingKey hmode event
      | command => exact turn_commandKey hmode event
      | find =>
          rw [perform, handleKey, hmode]
          exact turn_findKey hmode event
      | savePrompt => exact turn_savePromptKey hmode event
      | quitPrompt => exact turn_quitPromptKey hmode event
  | executeLine line =>
      cases hline : Command.ofLine? line with
      | some command => exact turn_of_command? hline
      | none =>
          rw [perform]
          rcases executeLine_of_ofLine?_none editor hline with heq | ⟨message, heq⟩
          · rw [heq]
            exact .of_calm hline rfl not_quits_nothing (.inl rfl)
          · rw [heq]
            exact .of_calm hline rfl not_quits_nothing (.inl rfl)
  | _ => exact turn_of_not_takesInput id

/-! ## Where the flag comes from -/

/-- While the prompt for a file name stands, saving leads to quitting just when this is what the
prompt was last opened for. -/
def Traced (last : Option PromptPurpose) (editor : Editor) : Prop :=
  editor.mode = .savePrompt →
    ∃ purpose, last = some purpose ∧ editor.quitAfterSave = decide (purpose = .quit)

/-- While no question stands there is nothing to trace back. -/
theorem traced_of_not_asks (h : ¬ editor.mode.Asks) :
    Traced last editor := fun hmode => absurd (.inl hmode) h

/-- What leaves mode and flag, or leaves no question standing, leaves the flag traced back. -/
theorem Traced.of_calm (h : Traced last editor)
    (hafter : after.stance = editor.stance ∨ ¬ after.mode.Asks) : Traced last after := by
  rcases hafter with hstance | hnone
  · intro hmode
    rw [flag_of_stance hstance]
    exact h ((mode_of_stance hstance).symm.trans hmode)
  · exact traced_of_not_asks hnone

/-- After any operation the flag goes back to what this opened the prompt for or, if it did not open
it, to what it went back to before. -/
theorem Turn.traced {result : Outcome × Editor} (h : Turn editor operation result)
    (hlast : Traced last editor) : Traced ((editor.opens? operation).or last) result.2 := by
  cases h with
  | goesOn hopens _ _ hafter =>
      rw [hopens]
      exact hlast.of_calm hafter
  | @opens after purpose hopens hmode hpurpose =>
      rw [hopens]
      exact fun _ => ⟨purpose, rfl, hpurpose⟩
  | asks _ _ hmode =>
      intro hother
      rw [hmode] at hother
      cases hother
  | quits hopens _ hafter =>
      rw [hopens]
      exact hlast.of_calm hafter
  | declines _ _ _ _ hafter => exact traced_of_not_asks hafter
  | saves _ _ _ _ hafter => exact traced_of_not_asks hafter
  | names _ _ _ _ _ _ hafter => exact traced_of_not_asks hafter

/-- After any run the flag goes back to the operation that last opened the prompt. -/
theorem Traced.performAll (h : Traced last editor)
    (operations : List Operation) :
    Traced (editor.lastOpening last operations) (editor.performAll operations).2 := by
  induction operations generalizing editor last with
  | nil => exact h
  | cons operation operations ih => exact ih ((turn_perform editor operation).traced h)

/-! ## Out of the way to quitting -/

/-- No question stands that saving and quitting could answer. -/
structure Aside (editor : Editor) : Prop where
  not_asked : editor.mode ≠ .quitPrompt
  not_flagged : editor.mode = .savePrompt → editor.quitAfterSave = false

/-- While no question stands there is none that saving and quitting could answer. -/
theorem aside_of_not_asks (h : ¬ editor.mode.Asks) : Aside editor :=
  ⟨fun hmode => h (.inr hmode), fun hmode => absurd (.inl hmode) h⟩

/-- At a prompt for a file name that is not to lead to quitting, no question stands that saving and
quitting could answer. -/
theorem aside_of_flag (hmode : editor.mode = .savePrompt) (hflag : editor.quitAfterSave = false) :
    Aside editor := by
  refine ⟨fun hother => ?_, fun _ => hflag⟩
  cases hmode.symm.trans hother

/-- What leaves mode and flag, or leaves no question standing, keeps out of the way to quitting. -/
theorem Aside.of_calm (h : Aside editor)
    (hafter : after.stance = editor.stance ∨ ¬ after.mode.Asks) : Aside after := by
  rcases hafter with hstance | hnone
  · refine ⟨?_, fun hmode => ?_⟩
    · rw [mode_of_stance hstance]
      exact h.not_asked
    · rw [flag_of_stance hstance]
      exact h.not_flagged ((mode_of_stance hstance).symm.trans hmode)
  · exact aside_of_not_asks hnone

/-- Every operation that does not begin to quit keeps out of the way to quitting. -/
theorem Turn.aside {result : Outcome × Editor} (h : Turn editor operation result)
    (haside : Aside editor) (hbegins : ¬ editor.BeginsQuitting operation) : Aside result.2 := by
  cases h with
  | goesOn _ _ _ hafter => exact haside.of_calm hafter
  | @opens after purpose hopens hmode hpurpose =>
      obtain ⟨rfl, -⟩ | ⟨-, hquit⟩ := opens?_eq_some hopens
      · exact aside_of_flag hmode hpurpose
      · exact absurd hquit haside.not_asked
  | asks _ hother _ => exact absurd hother hbegins
  | quits _ _ hafter => exact haside.of_calm hafter
  | declines _ _ _ _ hafter => exact aside_of_not_asks hafter
  | saves _ _ _ _ hafter => exact aside_of_not_asks hafter
  | names _ _ _ _ _ _ hafter => exact aside_of_not_asks hafter

/-- Only the command to quit, given while there are changes, leads out of the way. -/
theorem Aside.performAll (h : Aside editor) (operations : List Operation) :
    Aside (editor.performAll operations).2 ∨ ∃ earlier begins rest,
      operations = earlier ++ begins :: rest ∧
        (editor.performAll earlier).2.BeginsQuitting begins := by
  induction operations generalizing editor with
  | nil => exact .inl h
  | cons operation operations ih =>
      by_cases hbegins : editor.BeginsQuitting operation
      · exact .inr ⟨[], operation, operations, rfl, hbegins⟩
      · have hnext := (turn_perform editor operation).aside h hbegins
        rcases ih hnext with haside | ⟨earlier, begins, rest, rfl, hfound⟩
        · exact .inl haside
        · exact .inr ⟨operation :: earlier, begins, rest, rfl, hfound⟩

/-- Opening the prompt for a file name to save leads out of the way to quitting. -/
theorem Turn.aside_of_opens?_save {result : Outcome × Editor} (h : Turn editor operation result)
    (hsave : editor.opens? operation = some .save) : Aside result.2 := by
  cases h with
  | opens hopens hmode hpurpose =>
      obtain rfl := Option.some.inj (hopens.symm.trans hsave)
      exact aside_of_flag hmode hpurpose
  | _ hopens => cases hopens.symm.trans hsave

/-- So does leaving that prompt, whatever it was opened for. -/
theorem aside_perform_escape {event : KeyEvent} (hmode : editor.mode = .savePrompt)
    (hkey : event.key = .escape) : Aside (editor.perform (.key event)).2 := by
  rw [perform, handleKey, hmode]
  simp only [savePromptKey, hkey]
  exact aside_of_not_asks (not_asks_editing rfl)

/-! ## Requests to quit -/

/-- The host is asked to quit and to let go of changes only by that answer to the question whether
to save them. -/
theorem Turn.quit {result : Outcome × Editor} (h : Turn editor operation result)
    (hquit : result.1 = .request .quit) (hdirty : editor.dirty = true ∨ result.2.dirty = true) :
    ∃ event, operation = .key event ∧ editor.mode = .quitPrompt ∧ event.DeclinesSaving := by
  cases h with
  | goesOn _ _ hquits _ => exact absurd (.inl hquit) hquits
  | opens _ _ _ => cases hquit
  | asks _ _ _ => cases hquit
  | quits _ hclean _ =>
      rcases hdirty with hdirty | hdirty
      · cases hclean.1.symm.trans hdirty
      · cases hclean.2.symm.trans hdirty
  | declines _ hkey hmode hdeclines _ => exact ⟨_, hkey, hmode, hdeclines⟩
  | saves _ _ _ hother _ => exact absurd hquit hother
  | names _ _ _ _ hother _ _ => exact absurd hquit hother

/-- The host is asked to save and quit only by an answer to one of the two questions. -/
theorem Turn.saveAndQuit {result : Outcome × Editor} {saved : SaveRequest}
    (h : Turn editor operation result) (hasked : result.1 = .request (.saveAndQuit saved)) :
    ∃ event, operation = .key event ∧ (editor.mode = .quitPrompt ∨
      editor.mode = .savePrompt ∧ event.key = .enter ∧ editor.quitAfterSave = true) := by
  cases h with
  | goesOn _ _ hquits _ => exact absurd (.inr ⟨saved, hasked⟩) hquits
  | saves _ hkey hmode _ _ => exact ⟨_, hkey, .inl hmode⟩
  | names _ hkey hmode henter _ hflag _ => exact ⟨_, hkey, .inr ⟨hmode, henter, hflag saved hasked⟩⟩
  | _ => cases hasked

/-- The command to quit asks nothing of the host while there are changes. -/
theorem nothing_of_beginsQuitting (h : editor.BeginsQuitting operation) :
    (editor.perform operation).1 = .nothing := by
  obtain ⟨mode, input, journal, -, heq⟩ := perform_of_command? h.1
  rw [heq]
  simp only [execute, h.2, if_true]
  rfl

/-- Out of the way to quitting no operation asks the host to save and quit. -/
theorem Aside.ne_saveAndQuit (h : Aside editor) (operation : Operation) (saved : SaveRequest) :
    (editor.perform operation).1 ≠ .request (.saveAndQuit saved) := by
  intro hasked
  obtain ⟨event, -, hquit | ⟨hmode, -, hflag⟩⟩ := (turn_perform editor operation).saveAndQuit hasked
  · exact h.not_asked hquit
  · cases (h.not_flagged hmode).symm.trans hflag

/-- Changes are not lost and saving does not quit unless this has been asked for, whatever is done
with an editor and in whatever order. While there are changes, the host is asked to quit only by `n`
as the answer to whether to save them, and not by the command to quit. It is asked to save and quit
only by another answer to that question, or by a file name at a prompt that was last opened by such
an answer. And once the prompt for a file name has been opened by a command to save, or has been
left by escape, the host is asked to save and quit only after another command to quit. -/
theorem quit_safety (settings : Settings) (operations : List Operation) (operation : Operation) :
    let editor := ((new settings).performAll operations).2
    let outcome := (editor.perform operation).1
    let after := (editor.perform operation).2
    (outcome = .request .quit → editor.dirty = true ∨ after.dirty = true →
      ∃ event, operation = .key event ∧ editor.mode = .quitPrompt ∧ event.DeclinesSaving) ∧
    (editor.command? operation = some .quit → editor.dirty = true → outcome = .nothing) ∧
    (∀ saved, outcome = .request (.saveAndQuit saved) →
      ∃ event, operation = .key event ∧ (editor.mode = .quitPrompt ∨
        editor.mode = .savePrompt ∧ event.key = .enter ∧
          (new settings).lastOpening none operations = some .quit)) ∧
    (editor.opens? operation = some .save ∨
        (editor.mode = .savePrompt ∧ ∃ event, operation = .key event ∧ event.key = .escape) →
      ∀ later answer saved,
        ((after.performAll later).2.perform answer).1 = .request (.saveAndQuit saved) →
          ∃ earlier begins rest, later = earlier ++ begins :: rest ∧
            (after.performAll earlier).2.BeginsQuitting begins) := by
  intro editor outcome after
  have hturn := turn_perform editor operation
  refine ⟨hturn.quit, fun hcommand hdirty => nothing_of_beginsQuitting ⟨hcommand, hdirty⟩, ?_, ?_⟩
  · intro saved hasked
    obtain ⟨event, hkey, hquit | ⟨hmode, henter, hflag⟩⟩ := hturn.saveAndQuit hasked
    · exact ⟨event, hkey, .inl hquit⟩
    · have htraced : Traced none (new settings) := fun hediting => by cases hediting
      obtain ⟨purpose, hlast, hpurpose⟩ := htraced.performAll operations hmode
      obtain rfl := of_decide_eq_true (hpurpose.symm.trans hflag)
      exact ⟨event, hkey, .inr ⟨hmode, henter, hlast⟩⟩
  · intro haside later answer saved hasked
    have haside : Aside after := by
      rcases haside with hsave | ⟨hmode, event, rfl, hescape⟩
      · exact hturn.aside_of_opens?_save hsave
      · exact aside_perform_escape hmode hescape
    rcases haside.performAll later with haside | hbegins
    · exact absurd hasked (haside.ne_saveAndQuit answer saved)
    · exact hbegins

/-- A changed document without a name: the command to quit leads to the question, this to the
prompt, and a name to saving and quitting. -/
theorem quit_safety_asked_for_name :
    let operations : List Operation := [.insertChar 'a', .executeLine "quit".toList,
      .key (.plain (.char 'y')), .key (.plain (.char 'f'))]
    let editor := ((new .usual).performAll operations).2
    let saved : SaveRequest := ⟨"f".toList, "a".toList, .usual⟩
    editor.mode = .savePrompt ∧
      (editor.perform (.key (.plain .enter))).1 = .request (.saveAndQuit saved) ∧
      (new .usual).lastOpening none operations = some .quit := by
  intro operations editor saved
  have hmode : editor.mode = .savePrompt := by decide +kernel
  have hasked : (editor.perform (.key (.plain .enter))).1 = .request (.saveAndQuit saved) := by
    decide +kernel
  -- nothing more is computed from here on
  clear_value operations
  obtain ⟨-, -, hsaveAndQuit, -⟩ := quit_safety .usual operations (.key (.plain .enter))
  obtain ⟨event, -, hquit | ⟨-, -, hlast⟩⟩ := hsaveAndQuit saved hasked
  · cases hmode.symm.trans hquit
  · exact ⟨hmode, hasked, hlast⟩

end Editor

end TextEditor
