import Mathlib.Data.Finset.Card
import Mathlib.Data.List.Induction
import TextEditor.Grammar.Registry
import TextEditor.Proofs.Grammar.Naming

/-!
# Registered grammars

Seen from outside a registry is a map: registering a grammar changes what its language has and
nothing else. Inside, grammars pile up and only positions are changed, so this takes an invariant:
no language has two positions, and each position is that of a grammar for the language that it
stands with. Lookups leave a registry as it is, so what it is after any calls is what it is after
those that registered something, in their order.

Main statements: `get?_register`, `get?_registerAll_eq_some_iff`, `size_registerAll`, and
`registerAll_last_wins`, which has the other lookups as well.
-/

namespace TextEditor

variable {language : Language} {grammar : Grammar} {registered : List Grammar}

/-- Of the grammars that have been registered, this is the last one for a language. -/
def Grammar.LastFor (grammar : Grammar) (language : Language) (registered : List Grammar) : Prop :=
  ∃ earlier later, registered = earlier ++ grammar :: later ∧ grammar.language = language ∧
    ∀ other ∈ later, other.language ≠ language

/-- The grammar that is registered last is the one for its language, and changes nothing for the
others. -/
theorem Grammar.lastFor_concat_iff {last : Grammar} :
    grammar.LastFor language (registered ++ [last]) ↔
      if last.language = language then grammar = last
      else grammar.LastFor language registered := by
  constructor
  · rintro ⟨earlier, later, hsplit, hlanguage, hlater⟩
    rcases List.eq_nil_or_concat later with rfl | ⟨later, other, rfl⟩
    · obtain ⟨rfl, hlast⟩ := List.append_inj' hsplit rfl
      obtain rfl : last = grammar := List.singleton_inj.1 hlast
      rw [if_pos hlanguage]
    · rw [List.concat_eq_append, ← List.cons_append, ← List.append_assoc] at hsplit
      obtain ⟨rfl, hlast⟩ := List.append_inj' hsplit rfl
      obtain rfl : last = other := List.singleton_inj.1 hlast
      rw [if_neg (hlater last (by simp))]
      exact ⟨earlier, later, rfl, hlanguage, fun other hmem => hlater other (by simp [hmem])⟩
  · intro h
    split at h
    · next hlanguage =>
        subst h
        exact ⟨registered, [], rfl, hlanguage, nofun⟩
    · next hlanguage =>
        obtain ⟨earlier, later, rfl, hgrammar, hlater⟩ := h
        refine ⟨earlier, later ++ [last], by simp, hgrammar, fun other hmem => ?_⟩
        rcases List.mem_append.1 hmem with hmem | hmem
        · exact hlater other hmem
        · rwa [List.mem_singleton.1 hmem]

namespace Registry

variable {registry : Registry}

/-- The languages that have a grammar. -/
def languages (registry : Registry) : List Language := registry.positions.map (·.1)

/-- No language has two positions, and each position is that of a grammar for its language. -/
structure Indexed (registry : Registry) : Prop where
  nodup : registry.languages.Nodup
  own : ∀ language position, (language, position) ∈ registry.positions →
    ∃ grammar, registry.grammars[position]? = some grammar ∧ grammar.language = language

/-- An empty registry has no position to go wrong. -/
theorem indexed_empty : empty.Indexed where
  nodup := List.nodup_nil
  own := nofun

/-! ## Registering one grammar -/

/-- Leaving out one language does not change where another is found. -/
theorem lookup_filter_of_ne {other : Language} (h : other ≠ language)
    (positions : List (Language × Nat)) :
    (positions.filter (·.1 != language)).lookup other = positions.lookup other := by
  induction positions with
  | nil => rfl
  | cons entry positions ih =>
      obtain ⟨key, position⟩ := entry
      by_cases hkey : key = language
      · rw [List.filter_cons_of_neg (by simpa using hkey), ih, List.lookup_cons, hkey,
          beq_false_of_ne h]
      · rw [List.filter_cons_of_pos (by simpa using hkey), List.lookup_cons, List.lookup_cons, ih]

/-- A position that is set is found for its language, and nothing else is changed. -/
theorem lookup_point (language other : Language) (position : Nat)
    (positions : List (Language × Nat)) :
    (point language position positions).lookup other =
      if other = language then some position else positions.lookup other := by
  unfold point
  by_cases hother : other = language
  · rw [if_pos hother, hother, List.lookup_cons_self]
  · rw [if_neg hother, List.lookup_cons, beq_false_of_ne hother]
    exact lookup_filter_of_ne hother positions

/-- A position that is looked up is in range. -/
theorem Indexed.lt_size (h : registry.Indexed) {position : Nat}
    (hlookup : registry.positions.lookup language = some position) :
    position < registry.grammars.size := by
  obtain ⟨earlier, later, hsplit, -⟩ := List.lookup_eq_some_iff.1 hlookup
  obtain ⟨grammar, hgrammar, -⟩ := h.own language position (by simp [hsplit])
  exact (Array.getElem?_eq_some_iff.1 hgrammar).1

/-- Registering a grammar gives it to its language, and leaves all others what they have. -/
theorem get?_register (h : registry.Indexed) (grammar : Grammar) (language : Language) :
    (registry.register grammar).get? language =
      if grammar.language = language then some grammar else registry.get? language := by
  rw [get?, register, lookup_point]
  by_cases hlanguage : grammar.language = language
  · rw [if_pos hlanguage, if_pos hlanguage.symm, Option.bind_some, Array.getElem?_push_size]
  · rw [if_neg hlanguage, if_neg (Ne.symm hlanguage), get?]
    cases hlookup : registry.positions.lookup language with
    | none => rfl
    | some position =>
        rw [Option.bind_some, Option.bind_some,
          Array.getElem?_push_lt (h.lt_size hlookup), Array.getElem?_eq_getElem]

/-- A grammar that is registered puts its language in front, and in no second place. -/
theorem languages_register (registry : Registry) (grammar : Grammar) :
    (registry.register grammar).languages =
      grammar.language :: registry.languages.filter (· != grammar.language) := by
  rw [languages, register, point, List.map_cons, languages, List.filter_map]
  rfl

/-- Each position stays that of a grammar for its own language when one more is registered. -/
theorem Indexed.register (h : registry.Indexed) (grammar : Grammar) :
    (registry.register grammar).Indexed where
  nodup := by
    rw [languages_register]
    exact List.nodup_cons.2 ⟨by simp, h.nodup.filter _⟩
  own := by
    intro language position hmem
    rcases List.mem_cons.1 hmem with heq | hmem
    · obtain ⟨rfl, rfl⟩ := Prod.mk.inj heq
      exact ⟨grammar, Array.getElem?_push_size, rfl⟩
    · obtain ⟨other, hother, hlanguage⟩ := h.own language position (List.mem_filter.1 hmem).1
      refine ⟨other, ?_, hlanguage⟩
      have hlt := (Array.getElem?_eq_some_iff.1 hother).1
      rw [Registry.register, Array.getElem?_push_lt hlt, ← Array.getElem?_eq_getElem hlt, hother]

/-! ## Registering one grammar after the other -/

/-- Of several grammars the last is registered last. -/
theorem registerAll_concat (registry : Registry) (registered : List Grammar) (grammar : Grammar) :
    registry.registerAll (registered ++ [grammar]) =
      (registry.registerAll registered).register grammar := List.foldl_concat ..

/-- Each position is that of a grammar for its own language, whatever is registered. -/
theorem indexed_registerAll (registered : List Grammar) :
    (empty.registerAll registered).Indexed := by
  induction registered using List.reverseRecOn with
  | nil => exact indexed_empty
  | append_singleton registered grammar ih =>
      rw [registerAll_concat]
      exact ih.register grammar

/-- A language has the grammar that was registered last for it. -/
theorem get?_registerAll_eq_some_iff :
    (empty.registerAll registered).get? language = some grammar ↔
      grammar.LastFor language registered := by
  induction registered using List.reverseRecOn with
  | nil =>
      refine ⟨nofun, ?_⟩
      rintro ⟨earlier, later, hnil, -⟩
      simp at hnil
  | append_singleton registered last ih =>
      rw [registerAll_concat, get?_register (indexed_registerAll registered),
        Grammar.lastFor_concat_iff]
      split
      · rw [Option.some_inj, eq_comm]
      · exact ih

/-- The languages that have a grammar are those that one was registered for. -/
theorem mem_languages_registerAll_iff :
    language ∈ (empty.registerAll registered).languages ↔
      ∃ grammar ∈ registered, grammar.language = language := by
  induction registered using List.reverseRecOn with
  | nil => simp [registerAll, empty, languages]
  | append_singleton registered last ih =>
      rw [registerAll_concat, languages_register, List.mem_cons, List.mem_filter, ih]
      simp only [bne_iff_ne, ne_eq, List.mem_append, List.mem_singleton]
      by_cases hlast : last.language = language
      · exact iff_of_true (.inl hlast.symm) ⟨last, .inr rfl, hlast⟩
      · constructor
        · rintro (rfl | ⟨⟨grammar, hmem, hgrammar⟩, -⟩)
          · exact absurd rfl hlast
          · exact ⟨grammar, .inl hmem, hgrammar⟩
        · rintro ⟨grammar, hmem | rfl, hgrammar⟩
          · exact .inr ⟨⟨grammar, hmem, hgrammar⟩, Ne.symm hlast⟩
          · exact absurd hgrammar hlast

/-- A language has no grammar if none was registered for it. -/
theorem get?_registerAll_eq_none_iff :
    (empty.registerAll registered).get? language = none ↔
      ∀ grammar ∈ registered, grammar.language ≠ language := by
  induction registered using List.reverseRecOn with
  | nil => exact iff_of_true rfl nofun
  | append_singleton registered last ih =>
      rw [registerAll_concat, get?_register (indexed_registerAll registered),
        List.forall_mem_append, List.forall_mem_singleton]
      split
      · next hlast => exact iff_of_false nofun fun h => h.2 hlast
      · next hlast => exact ih.trans (and_iff_left hlast).symm

/-- A registry has as many entries as there are languages among the grammars registered. -/
theorem size_registerAll (registered : List Grammar) :
    (empty.registerAll registered).size = (registered.map (·.language)).toFinset.card := by
  have hnodup := (indexed_registerAll registered).nodup
  have hsize : (empty.registerAll registered).size =
      (empty.registerAll registered).languages.length := List.length_map _ |>.symm
  rw [hsize, ← List.toFinset_card_of_nodup hnodup]
  congr 1
  ext language
  rw [List.mem_toFinset, List.mem_toFinset, mem_languages_registerAll_iff, List.mem_map]

example : (empty.registerAll [.blank .go, .blank .css, .blank .go]).size = 2 := by decide

/-! ## Other lookups -/

variable {id extension : Text}

/-- An identifier finds the grammar that the language of this name has. -/
theorem byId_eq_ok_iff : registry.byId id = .ok grammar ↔
    ∃ language : Language, language.HasName id ∧ registry.get? language = some grammar := by
  simp only [← Language.ofId?_eq_some_iff, ← Option.bind_eq_some_iff, byId]
  split
  · next found hfound => rw [hfound, Except.ok.injEq, Option.some_inj]
  · next hnone => exact iff_of_false nofun (by simp [hnone])

/-- An identifier finds nothing, and is told of as it was given, if it names no language or one
without a grammar. -/
theorem byId_eq_error_iff {error : EditorError} : registry.byId id = .error error ↔
    error = .unknownLanguage id ∧
      ∀ language : Language, language.HasName id → registry.get? language = none := by
  simp only [← Language.ofId?_eq_some_iff, ← Option.bind_eq_none_iff, byId]
  split
  · next found hfound => exact iff_of_false nofun (by simp [hfound])
  · next hnone => rw [Except.error.injEq, and_iff_left hnone, eq_comm]

/-- What a registry holds after grammars have been registered, in any order and any number for each
language. A language has the grammar that was registered last for it, and none if none was. An
identifier finds the grammar of the language that has it as a name; if no language has, or one that
has no grammar, this is an error with the identifier as it was given. An extension finds the grammar
of the language whose files have it, and that of plain text if there is no such language. The size
is the number of languages that some grammar was registered for. -/
theorem registerAll_last_wins (registered : List Grammar) :
    let registry := empty.registerAll registered
    (∀ (language : Language) (grammar : Grammar),
      registry.get? language = some grammar ↔ grammar.LastFor language registered) ∧
    (∀ language : Language,
      registry.get? language = none ↔ ∀ grammar ∈ registered, grammar.language ≠ language) ∧
    (∀ (id : Text) (grammar : Grammar), registry.byId id = .ok grammar ↔
      ∃ language : Language, language.HasName id ∧ grammar.LastFor language registered) ∧
    (∀ (id : Text) (error : EditorError), registry.byId id = .error error ↔
      error = .unknownLanguage id ∧ ∀ language : Language, language.HasName id →
        ∀ grammar ∈ registered, grammar.language ≠ language) ∧
    (∀ (extension : Text) (language : Language), language.HasExtension extension →
      registry.forExtension? extension = registry.get? language) ∧
    (∀ extension : Text, (∀ language : Language, ¬ language.HasExtension extension) →
      registry.forExtension? extension = registry.get? .plainText) ∧
    registry.size = (registered.map (·.language)).toFinset.card := by
  intro registry
  refine ⟨fun _ _ => get?_registerAll_eq_some_iff, fun _ => get?_registerAll_eq_none_iff,
    fun id grammar => ?_, fun id error => ?_, fun extension language h => ?_,
    fun extension h => ?_, size_registerAll registered⟩
  · simp only [byId_eq_ok_iff, registry, get?_registerAll_eq_some_iff]
  · simp only [byId_eq_error_iff, registry, get?_registerAll_eq_none_iff]
  · rw [forExtension?, Language.ofExtension_eq h]
  · rw [forExtension?, Language.ofExtension_eq_plainText h]

end Registry

end TextEditor
