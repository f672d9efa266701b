import TextEditor.Proofs.Pattern.Spans

/-!
# All ways to match

A run tries one way to match after the other until its continuation accepts where the way has led.
Listing the ways themselves, the preferred one first, leaves the continuation out: a run is a search
through the list, and a match is its first member. So what a pattern can match and what it prefers
are both read off the list.

A place is given by the two parts of the text that it stands between. A way leads from there over a
passage that consists of characters that the sets of the pattern have, and the groups that it
matches lie in that passage.

Main statements: `run_eq_findSome?` with `matchAt_eq_head?`, and `passes_of_mem_ways`.
-/

namespace TextEditor

/-- Where a pattern leads, with the groups matched by then. -/
abbrev Way := Place × Groups

/-- The ways through further rounds of a repetition, the preferred one first. -/
def roundWays (round : Place → Groups → List Way) (greedy : Bool) :
    Text → Place → Groups → List Way
  | [], place, groups => [(place, groups)]
  | _ :: budget, place, groups =>
      let again := (round place groups).flatMap fun way =>
        if place.offset < way.1.offset then roundWays round greedy budget way.1 way.2 else []
      if greedy then again ++ [(place, groups)] else (place, groups) :: again

/-- The ways to match a pattern at a place, the preferred one first. -/
def Pattern.ways : Pattern → Place → Groups → List Way
  | .empty, place, groups => [(place, groups)]
  | .oneOf set, place, groups =>
      match place.rest with
      | [] => []
      | c :: _ => if set.has c then [(place.next, groups)] else []
  | .position anchor, place, groups => if anchor.holds place then [(place, groups)] else []
  | .seq p q, place, groups => (p.ways place groups).flatMap fun way => q.ways way.1 way.2
  | .alt p q, place, groups => p.ways place groups ++ q.ways place groups
  | .group index p, place, groups =>
      (p.ways place groups).map fun way =>
        (way.1, (index, ⟨place.offset, way.1.offset⟩) :: way.2)
  | .repeated p greedy, place, groups =>
      (p.ways place groups).flatMap fun way =>
        if place.offset < way.1.offset then
          roundWays (fun place groups => p.ways place groups) greedy way.1.rest way.1 way.2
        else [way]

/-! ## Runs -/

/-- Searching lists that have been joined is searching what each of them gives. -/
theorem findSome?_flatMap {α β γ : Type} (xs : List α) (f : α → List β) (g : β → Option γ) :
    (xs.flatMap f).findSome? g = xs.findSome? fun x => (f x).findSome? g := by
  induction xs with
  | nil => rfl
  | cons x xs ih =>
      rw [List.flatMap_cons, List.findSome?_append, ih, List.findSome?_cons]
      cases (f x).findSome? g with
      | none => rfl
      | some found => rfl

/-- To try rounds one after the other is to try the list of all their ways. -/
theorem repeatRounds_eq_findSome? {α : Type} {round : Place → Groups → Continuation α → Option α}
    {ways : Place → Groups → List Way}
    (hround : ∀ place groups k,
      round place groups k = (ways place groups).findSome? fun way => k way.1 way.2)
    (greedy : Bool) (k : Continuation α) (budget : Text) (place : Place) (groups : Groups) :
    repeatRounds round greedy k budget place groups =
      (roundWays ways greedy budget place groups).findSome? fun way => k way.1 way.2 := by
  induction budget generalizing place groups with
  | nil => simp [repeatRounds, roundWays]
  | cons c budget ih =>
      have hagain : (round place groups fun place' groups' =>
            if place.offset < place'.offset then repeatRounds round greedy k budget place' groups'
            else none) =
          ((ways place groups).flatMap fun way =>
            if place.offset < way.1.offset then roundWays ways greedy budget way.1 way.2
            else []).findSome? fun way => k way.1 way.2 := by
        rw [hround, findSome?_flatMap]
        refine congrArg (fun f => List.findSome? f _) (funext fun way => ?_)
        split
        · exact ih way.1 way.2
        · rfl
      simp only [repeatRounds, roundWays, hagain, Option.orElse_eq_or]
      split
      · rw [List.findSome?_append]
        simp
      · rw [List.findSome?_cons]
        cases k place groups with
        | none => rfl
        | some found => rfl

namespace Pattern

/-- A run is a search through the ways of its pattern. -/
theorem run_eq_findSome? {α : Type} (p : Pattern) (place : Place) (groups : Groups)
    (k : Continuation α) :
    p.run place groups k = (p.ways place groups).findSome? fun way => k way.1 way.2 := by
  induction p generalizing place groups k with
  | empty => simp [run, ways]
  | oneOf set =>
      simp only [run, ways]
      cases place.rest with
      | nil => rfl
      | cons c rest =>
          by_cases hc : set.has c = true
          · simp [hc]
          · simp [hc]
  | position anchor =>
      by_cases hanchor : anchor.holds place = true
      · simp [run, ways, hanchor]
      · simp [run, ways, hanchor]
  | seq p q ihp ihq =>
      simp only [run, ways, ihp, ihq, findSome?_flatMap]
  | alt p q ihp ihq =>
      simp only [run, ways, ihp, ihq, List.findSome?_append, Option.orElse_eq_or]
  | group index p ih =>
      simp only [run, ways, ih, List.findSome?_map]
      rfl
  | repeated p greedy ih =>
      simp only [run, ways, ih, findSome?_flatMap]
      refine congrArg (fun f => List.findSome? f _) (funext fun way => ?_)
      split
      · exact repeatRounds_eq_findSome? (fun _ _ _ => rfl) ..
      · simp

/-- A match goes the preferred one of the ways. -/
theorem matchAt_eq_head? (p : Pattern) (place : Place) :
    p.matchAt place =
      (p.ways place []).head?.map fun way => ⟨⟨place.offset, way.1.offset⟩, way.2⟩ := by
  rw [matchAt, run_eq_findSome?]
  cases p.ways place [] with
  | nil => rfl
  | cons way ways => rfl

end Pattern

/-! ## What ways pass -/

/-- The place between two parts of a text. -/
def Place.between (front back : Text) : Place := ⟨front.getLast?, back, front.size⟩

namespace Place

/-- What is ahead of a place between two texts is the second one. -/
@[simp] theorem between_rest (front back : Text) : (between front back).rest = back := rfl

/-- The place is at the size of the first one. -/
@[simp] theorem between_offset (front back : Text) : (between front back).offset = front.size := rfl

/-- One character further on it is between the two with that character moved. -/
@[simp] theorem next_between (front : Text) (c : Char) (back : Text) :
    (between front (c :: back)).next = between (front ++ [c]) back := by
  simp [between, next]

end Place

/-- Whether some set of a pattern has a character. -/
def Pattern.reads (c : Char) : Pattern → Bool
  | .empty | .position _ => false
  | .oneOf set => set.has c
  | .seq p q | .alt p q => p.reads c || q.reads c
  | .repeated p _ => p.reads c
  | .group _ p => p.reads c

/-- A way from the place between `front` and `back` has passed over some characters of `back`, all
of them allowed, and the groups that it has added lie where it has passed. -/
def Way.Passes (allowed : Char → Bool) (front back : Text) (groups : Groups) (way : Way) : Prop :=
  ∃ passed rest, back = passed ++ rest ∧ way.1 = .between (front ++ passed) rest ∧
    (∀ c ∈ passed, allowed c = true) ∧
    ∀ group ∈ way.2, group ∈ groups ∨
      front.size ≤ group.2.start ∧ group.2.stop ≤ (front ++ passed).size

namespace Way

variable {allowed : Char → Bool} {front back : Text} {groups : Groups} {way : Way}

/-- To stay at a place passes over nothing. -/
theorem passes_stay (allowed : Char → Bool) (front back : Text) (groups : Groups) :
    Passes allowed front back groups (.between front back, groups) :=
  ⟨[], back, rfl, by rw [List.append_nil], fun _ h => absurd h List.not_mem_nil,
    fun _ h => .inl h⟩

/-- A way that passes over some characters only does so if more are allowed. -/
theorem Passes.mono (h : way.Passes allowed front back groups) {more : Char → Bool}
    (hmore : ∀ c, allowed c = true → more c = true) : way.Passes more front back groups := by
  obtain ⟨passed, rest, hback, hway, hpassed, hgroups⟩ := h
  exact ⟨passed, rest, hback, hway, fun c hc => hmore c (hpassed c hc), hgroups⟩

/-- A way that goes on where another has led passes over both passages. -/
theorem Passes.trans (h : way.Passes allowed front back groups) {last : Way}
    (hlast : ∀ front' back', way.1 = .between front' back' →
      last.Passes allowed front' back' way.2) : last.Passes allowed front back groups := by
  obtain ⟨passed, rest, rfl, hway, hpassed, hgroups⟩ := h
  obtain ⟨further, rest', rfl, hlast', hfurther, hgroups'⟩ := hlast _ _ hway
  refine ⟨passed ++ further, rest', by simp, by rw [hlast', List.append_assoc], ?_, ?_⟩
  · intro c hc
    exact (List.mem_append.1 hc).elim (hpassed c) (hfurther c)
  · intro group hgroup
    simp only [Text.size_append] at hgroups hgroups' ⊢
    rcases hgroups' group hgroup with hold | hnew
    · exact (hgroups group hold).imp_right fun h => ⟨h.1, by omega⟩
    · exact .inr (by omega)

end Way

/-- A repetition passes over no other characters than its rounds do. -/
theorem passes_of_mem_roundWays {round : Place → Groups → List Way} {allowed : Char → Bool}
    (hround : ∀ {front back groups way}, way ∈ round (.between front back) groups →
      way.Passes allowed front back groups)
    {greedy : Bool} {budget front back : Text} {groups : Groups} {way : Way}
    (h : way ∈ roundWays round greedy budget (.between front back) groups) :
    way.Passes allowed front back groups := by
  induction budget generalizing front back groups with
  | nil =>
      obtain rfl := List.mem_singleton.1 h
      exact Way.passes_stay ..
  | cons c budget ih =>
      have hagain : way ∈ ((round (.between front back) groups).flatMap fun first =>
            if (Place.between front back).offset < first.1.offset then
              roundWays round greedy budget first.1 first.2
            else []) → way.Passes allowed front back groups := by
        intro hmem
        obtain ⟨first, hfirst, hrest⟩ := List.mem_flatMap.1 hmem
        split at hrest
        · refine (hround hfirst).trans fun front' back' heq => ?_
          rw [heq] at hrest
          exact ih hrest
        · exact absurd hrest List.not_mem_nil
      simp only [roundWays] at h
      split at h
      · rcases List.mem_append.1 h with h | h
        · exact hagain h
        · obtain rfl := List.mem_singleton.1 h
          exact Way.passes_stay ..
      · rcases List.mem_cons.1 h with rfl | h
        · exact Way.passes_stay ..
        · exact hagain h

/-- A way of a pattern passes only characters that the pattern reads. -/
theorem Pattern.passes_of_mem_ways {p : Pattern} {front back : Text} {groups : Groups} {way : Way}
    (h : way ∈ p.ways (.between front back) groups) :
    way.Passes (fun c => p.reads c) front back groups := by
  induction p generalizing front back groups way with
  | empty =>
      obtain rfl := List.mem_singleton.1 h
      exact Way.passes_stay ..
  | oneOf set =>
      cases back with
      | nil => exact absurd h List.not_mem_nil
      | cons c back =>
          simp only [ways, Place.between_rest] at h
          split at h
          · next hc =>
              obtain rfl := List.mem_singleton.1 h
              exact ⟨[c], back, rfl, Place.next_between .., fun d hd => by
                rwa [List.mem_singleton.1 hd], fun _ h => .inl h⟩
          · exact absurd h List.not_mem_nil
  | position anchor =>
      simp only [ways] at h
      split at h
      · obtain rfl := List.mem_singleton.1 h
        exact Way.passes_stay ..
      · exact absurd h List.not_mem_nil
  | seq p q ihp ihq =>
      obtain ⟨first, hfirst, hrest⟩ := List.mem_flatMap.1 h
      have hp : first.Passes (fun c => (seq p q).reads c) front back groups :=
        (ihp hfirst).mono fun c hc => by simp [reads, hc]
      refine hp.trans fun front' back' heq => ?_
      rw [heq] at hrest
      exact (ihq hrest).mono fun c hc => by simp [reads, hc]
  | alt p q ihp ihq =>
      rcases List.mem_append.1 h with h | h
      · exact (ihp h).mono fun c hc => by simp [reads, hc]
      · exact (ihq h).mono fun c hc => by simp [reads, hc]
  | group index p ih =>
      obtain ⟨inner, hinner, rfl⟩ := List.mem_map.1 h
      obtain ⟨passed, rest, hback, hway, hpassed, hgroups⟩ := ih hinner
      refine ⟨passed, rest, hback, hway, hpassed, ?_⟩
      intro group hgroup
      rcases List.mem_cons.1 hgroup with rfl | hgroup
      · simp only [hway]
        exact .inr ⟨Nat.le_refl _, Nat.le_refl _⟩
      · exact hgroups group hgroup
  | repeated p greedy ih =>
      obtain ⟨first, hfirst, hrest⟩ := List.mem_flatMap.1 h
      split at hrest
      · refine Way.Passes.trans (ih hfirst) fun front' back' heq => ?_
        rw [heq] at hrest
        exact passes_of_mem_roundWays ih hrest
      · obtain rfl := List.mem_singleton.1 hrest
        exact ih hfirst

end TextEditor
