import TextEditor.Language
import TextEditor.Proofs.Text.Spacing

/-!
# What names a language

A language has an identifier and some aliases, and its files have some extensions. Case does not
count in any of these, nor does white space around a name or a dot before an extension. No name
stands for two languages, and neither does an extension, so that looking either up among all
languages finds the one that it belongs to.

Main statements: `ofId?_eq_some_iff`, `ofExtension_eq` and `ofExtension_eq_plainText`.
-/

namespace TextEditor

open Unicode

/-- White space is the same in lower case. -/
theorem asciiLower_of_isBlank {c : Char} (h : isBlank c = true) : asciiLower c = c := by
  refine dif_neg ?_
  rintro ⟨hfirst, hlast⟩
  have hfirst : 65 ≤ c.toNat := hfirst
  have hlast : c.toNat ≤ 90 := hlast
  have hnone : CharRanges.mem blankRanges c.toNat = false := by
    simp only [blankRanges, CharRanges.mem]
    -- capitals lie between the second range and the third
    rw [if_neg (by omega), if_neg (by omega), if_neg (by omega), if_neg (by omega),
      if_pos (by omega)]
  rw [isBlank, CharRanges.has, hnone] at h
  cases h

/-- What has no white space in lower case has none as it is. -/
theorem isBlank_eq_false_of_asciiLower {c : Char} (h : isBlank (asciiLower c) = false) :
    isBlank c = false := by
  cases hblank : isBlank c with
  | false => rfl
  | true => rw [asciiLower_of_isBlank hblank, hblank] at h; cases h

namespace Language

variable {language : Language} {id extension : Text}

/-- A text is a name of a language, in any case and perhaps with white space around it. -/
def HasName (language : Language) (id : Text) : Prop :=
  ∃ front word back, id = front ++ word ++ back ∧ (∀ c ∈ front, isBlank c = true) ∧
    (∀ c ∈ back, isBlank c = true) ∧ ∃ name ∈ language.names, word.toAsciiLower = name.toList

/-- A text is an extension of files in a language, in any case and perhaps with dots before it. -/
def HasExtension (language : Language) (extension : Text) : Prop :=
  ∃ dots word, extension = dots ++ word ∧ (∀ c ∈ dots, c = '.') ∧
    ∃ known ∈ language.extensions, word.toAsciiLower = known.toList

/-! ## Names -/

/-- A name belongs to one language. -/
theorem find?_names (language : Language) : ∀ name ∈ language.names,
    (all.find? fun other => other.names.contains name) = some language := by
  cases language <;> decide

/-- Names are not empty, and they neither begin nor end with white space. -/
theorem trimmed_names (language : Language) : ∀ name ∈ language.names, name.toList ≠ [] ∧
    (∀ c ∈ name.toList.head?, isBlank c = false) ∧
    ∀ c ∈ name.toList.getLast?, isBlank c = false := by
  have hends : ∀ name ∈ language.names, name.toList ≠ [] ∧
      name.toList.head?.any isBlank = false ∧ name.toList.getLast?.any isBlank = false := by
    cases language <;> decide
  simpa only [Option.any_eq_false, Bool.not_eq_true, Option.mem_def] using hends

/-- Where a word is a name in some case, trimming leaves the word. -/
theorem trim_append_name {front word back : Text} {name : String} (hname : name ∈ language.names)
    (hword : word.toAsciiLower = name.toList) (hfront : ∀ c ∈ front, isBlank c = true)
    (hback : ∀ c ∈ back, isBlank c = true) : Text.trim (front ++ word ++ back) = word := by
  obtain ⟨hne, hhead, hlast⟩ := trimmed_names language name hname
  rw [← hword] at hne hhead hlast
  refine Text.trim_append_append hfront hback ?_ (fun c hc => ?_) fun c hc => ?_
  · rintro rfl
    exact hne rfl
  · refine isBlank_eq_false_of_asciiLower (hhead (asciiLower c) ?_)
    rw [Text.toAsciiLower, List.head?_map, Option.mem_def.1 hc]
    rfl
  · refine isBlank_eq_false_of_asciiLower (hlast (asciiLower c) ?_)
    rw [Text.toAsciiLower, List.getLast?_map, Option.mem_def.1 hc]
    rfl

/-- An identifier stands for the language that it is a name of. -/
theorem ofId?_eq_some_iff : ofId? id = some language ↔ language.HasName id := by
  constructor
  · intro h
    obtain ⟨front, back, hid, hfront, hback⟩ := Text.exists_append_trim id
    simp only [ofId?] at h
    have hname := List.find?_some h
    exact ⟨front, id.trim, back, hid, hfront, hback, String.ofList id.trim.toAsciiLower,
      List.contains_iff_mem.1 hname, String.toList_ofList.symm⟩
  · rintro ⟨front, word, back, rfl, hfront, hback, name, hname, hword⟩
    unfold ofId?
    rw [trim_append_name hname hword hfront hback, hword, String.ofList_toList]
    exact find?_names language name hname

/-! ## Extensions -/

/-- An extension belongs to one language. -/
theorem find?_extensions (language : Language) : ∀ known ∈ language.extensions,
    (all.find? fun other => other.extensions.contains known) = some language := by
  cases language <;> decide

/-- Extensions do not begin with a dot. -/
theorem undotted_extensions (language : Language) : ∀ known ∈ language.extensions,
    ∀ c ∈ known.toList.head?, c ≠ '.' := by
  have hstart : ∀ known ∈ language.extensions, known.toList.head? ≠ some '.' := by
    cases language <;> decide
  rintro known hknown c hc rfl
  exact hstart known hknown hc

/-- An extension that a language has leads to that language, since no two share one. -/
theorem ofExtension_eq (h : language.HasExtension extension) :
    ofExtension extension = language := by
  obtain ⟨dots, word, rfl, hdots, known, hknown, hword⟩ := h
  have hrest : (dots ++ word).dropWhile (· == '.') = word := by
    refine Text.dropWhile_append_stop (fun c hc => beq_iff_eq.2 (hdots c hc)) fun c hc => ?_
    have hstart : asciiLower c ∈ known.toList.head? := by
      rw [← hword, Text.toAsciiLower, List.head?_map, Option.mem_def.1 hc]
      rfl
    rw [beq_eq_false_iff_ne]
    rintro rfl
    exact undotted_extensions language known hknown _ hstart rfl
  simp only [ofExtension, hrest, hword, String.ofList_toList,
    find?_extensions language known hknown, Option.getD_some]

/-- What is an extension in no language is taken for plain text. -/
theorem ofExtension_eq_plainText (h : ∀ language : Language, ¬ language.HasExtension extension) :
    ofExtension extension = .plainText := by
  simp only [ofExtension]
  cases hfound : all.find? fun language => language.extensions.contains
      (String.ofList (Text.toAsciiLower (extension.dropWhile (· == '.')))) with
  | none => rfl
  | some language =>
      have hknown := List.find?_some hfound
      have hdots : ∀ c ∈ extension.takeWhile (· == '.'), c = '.' := fun c hc =>
        beq_iff_eq.1 (List.all_eq_true.1 List.all_takeWhile c hc)
      exact absurd ⟨_, _, List.takeWhile_append_dropWhile.symm, hdots, _,
        List.contains_iff_mem.1 hknown, String.toList_ofList.symm⟩ (h language)

end Language

end TextEditor
