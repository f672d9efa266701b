import TextEditor.Proofs.Pattern.Ways

/-!
# What patterns take

A pattern takes a passage if its preferred way leads over it, and takes nothing else if that is its
only way. A greedy repetition whose body goes one way over each of some chunks, and nowhere behind
the last of them, prefers to pass them all; its other ways end in front of one of the chunks, so
that it matters for what follows only whether this can begin like a chunk.

Main statements: `ways_star_of_chunks`, and from it `onlyTakes_star_seq` and `takes_repeated_oneOf`.
-/

namespace TextEditor.Pattern

variable {p q : Pattern} {set : CharSet} {front text more back : Text} {chunks : List Text}

/-- The preferred way over what comes next leads over `text`, whatever groups have been matched. -/
def Takes (p : Pattern) (front text back : Text) : Prop :=
  ∀ groups, (p.ways (.between front (text ++ back)) groups).head? =
    some (.between (front ++ text) back, groups)

/-- The only way over what comes next leads over `text`. -/
def OnlyTakes (p : Pattern) (front text back : Text) : Prop :=
  ∀ groups, p.ways (.between front (text ++ back)) groups =
    [(.between (front ++ text) back, groups)]

/-- There is no way over what comes next. -/
def Refuses (p : Pattern) (front back : Text) : Prop :=
  ∀ groups, p.ways (.between front back) groups = []

/-- What is read in no other way is read so first. -/
theorem OnlyTakes.takes (h : p.OnlyTakes front text back) : p.Takes front text back :=
  fun groups => by rw [h groups, List.head?_cons]

/-- A pattern that refuses a place does not match there. -/
theorem Refuses.matchAt_eq_none (h : p.Refuses front back) :
    p.matchAt (.between front back) = none := by
  rw [matchAt_eq_head?, h, List.head?_nil, Option.map_none]

/-- What is read first is the match. -/
theorem Takes.matchAt_eq_some (h : p.Takes front text back) :
    p.matchAt (.between front (text ++ back)) =
      some ⟨⟨front.size, (front ++ text).size⟩, []⟩ := by
  rw [matchAt_eq_head?, h, Option.map_some, Place.between_offset, Place.between_offset]

/-! ## Characters -/

/-- A character of a set is read as it is. -/
theorem onlyTakes_oneOf {c : Char} (h : set.has c = true) :
    (oneOf set).OnlyTakes front [c] back := fun groups => by
  simp [ways, h]

/-- A set refuses any other character, and the end of the text. -/
theorem refuses_oneOf (h : ∀ c ∈ back.head?, set.has c = false) :
    (oneOf set).Refuses front back := fun groups => by
  cases back with
  | nil => rfl
  | cons c back => simp [ways, h c rfl]

/-- The empty pattern reads nothing. -/
theorem onlyTakes_empty : empty.OnlyTakes front [] back := fun groups => by
  simp [ways]

/-! ## Sequences and alternatives -/

/-- The preferred way of what comes first, if it can be continued, is continued. -/
theorem head?_flatMap_of_head? {α β : Type} {xs : List α} {f : α → List β} {x : α} {y : β}
    (hx : xs.head? = some x) (hy : (f x).head? = some y) : (xs.flatMap f).head? = some y := by
  cases xs with
  | nil => cases hx
  | cons first xs =>
      obtain rfl := Option.some.inj hx
      rw [List.flatMap_cons, List.head?_append, hy, Option.some_or]

/-- One pattern behind another reads the one text and then the other. -/
theorem Takes.seq (hp : p.Takes front text (more ++ back))
    (hq : q.Takes (front ++ text) more back) : (p.seq q).Takes front (text ++ more) back :=
  fun groups => by
    rw [ways, List.append_assoc, ← List.append_assoc front]
    exact head?_flatMap_of_head? (hp groups) (hq groups)

/-- A condition on the place where a pattern begins. -/
theorem Takes.position_seq {anchor : Anchor} (h : p.Takes front text back)
    (hanchor : anchor.holds (.between front (text ++ back)) = true) :
    ((position anchor).seq p).Takes front text back := fun groups => by
  rw [ways, ways, if_pos hanchor, List.flatMap_singleton, h groups]

/-- A pattern refuses also where an anchor comes before it. -/
theorem Refuses.position_seq (h : p.Refuses front back) (anchor : Anchor) :
    ((position anchor).seq p).Refuses front back := fun groups => by
  rw [ways, ways]
  split
  · rw [List.flatMap_singleton, h groups]
  · rfl

/-- A condition on the place where a pattern ends. -/
theorem Takes.seq_position {anchor : Anchor} (h : p.Takes front text back)
    (hanchor : anchor.holds (.between (front ++ text) back) = true) :
    (p.seq (position anchor)).Takes front text back := fun groups => by
  refine head?_flatMap_of_head? (h groups) ?_
  rw [ways, if_pos hanchor, List.head?_cons]

/-- Two patterns that each read in one way read in one way together. -/
theorem OnlyTakes.seq (hp : p.OnlyTakes front text (more ++ back))
    (hq : q.OnlyTakes (front ++ text) more back) : (p.seq q).OnlyTakes front (text ++ more) back :=
  fun groups => by
    rw [ways, List.append_assoc, hp groups, List.flatMap_singleton, hq groups, List.append_assoc]

/-- Two patterns in a row refuse if the second one does behind the only text that the first one
reads. -/
theorem OnlyTakes.refuses_seq (hp : p.OnlyTakes front text back)
    (hq : q.Refuses (front ++ text) back) : (p.seq q).Refuses front (text ++ back) :=
  fun groups => by rw [ways, hp groups, List.flatMap_singleton, hq groups]

/-- Two patterns in a row refuse if the first one does. -/
theorem Refuses.seq (hp : p.Refuses front back) (q : Pattern) : (p.seq q).Refuses front back :=
  fun groups => by rw [ways, hp groups, List.flatMap_nil]

/-- Of two alternatives the first one reads first. -/
theorem Takes.alt (hp : p.Takes front text back) (q : Pattern) : (p.alt q).Takes front text back :=
  fun groups => by rw [ways, List.head?_append, hp groups, Option.some_or]

/-- Of two alternatives the first one alone reads if the second one refuses. -/
theorem OnlyTakes.alt (hp : p.OnlyTakes front text back) (hq : q.Refuses front (text ++ back)) :
    (p.alt q).OnlyTakes front text back := fun groups => by
  rw [ways, hp groups, hq groups, List.append_nil]

/-- If the first one refuses, the second one reads. -/
theorem Refuses.onlyTakes_alt (hp : p.Refuses front (text ++ back))
    (hq : q.OnlyTakes front text back) : (p.alt q).OnlyTakes front text back := fun groups => by
  rw [ways, hp groups, List.nil_append, hq groups]

/-- Two alternatives refuse if both of them do. -/
theorem Refuses.alt (hp : p.Refuses front back) (hq : q.Refuses front back) :
    (p.alt q).Refuses front back := fun groups => by
  rw [ways, hp groups, hq groups, List.append_nil]

/-- What a pattern takes is preferred to leaving it out. -/
theorem Takes.upTo_one (h : p.Takes front text back) : (upTo p true 1).Takes front text back := by
  have hbody : (p.seq empty).Takes front text back := by
    have hseq := Takes.seq h onlyTakes_empty.takes
    rwa [List.append_nil] at hseq
  exact hbody.alt empty

/-- What may be left out is left out where it is refused. -/
theorem Refuses.onlyTakes_upTo_one (h : p.Refuses front back) :
    (upTo p true 1).OnlyTakes front [] back :=
  Refuses.onlyTakes_alt (h.seq _) onlyTakes_empty

/-- A character that may be left out is read where it is. -/
theorem takes_upTo_oneOf {sign : Option Char} (hsign : ∀ c ∈ sign, set.has c = true)
    (hback : ∀ c ∈ back.head?, set.has c = false) :
    (upTo (oneOf set) true 1).Takes front sign.toList back := by
  cases sign with
  | none => exact (refuses_oneOf hback).onlyTakes_upTo_one.takes
  | some c => exact (onlyTakes_oneOf (hsign c rfl)).takes.upTo_one

/-- A group refuses what it is a group of. -/
theorem Refuses.group (h : p.Refuses front back) (index : Nat) :
    (group index p).Refuses front back := fun groups => by
  rw [ways, h groups, List.map_nil]

/-- A pattern takes one more group along if it stands in one. -/
theorem OnlyTakes.ways_group (h : p.OnlyTakes front text back) (index : Nat) (groups : Groups) :
    (group index p).ways (.between front (text ++ back)) groups =
      [(.between (front ++ text) back,
        (index, ⟨front.size, (front ++ text).size⟩) :: groups)] := by
  rw [ways, h groups]
  rfl

/-- A match of a group and what follows it. -/
theorem OnlyTakes.matchAt_group_seq (hp : p.OnlyTakes front text (more ++ back))
    (hq : q.OnlyTakes (front ++ text) more back) (index : Nat) :
    ((group index p).seq q).matchAt (.between front (text ++ (more ++ back))) =
      some ⟨⟨front.size, (front ++ text ++ more).size⟩,
        [(index, ⟨front.size, (front ++ text).size⟩)]⟩ := by
  rw [matchAt_eq_head?, ways, hp.ways_group, List.flatMap_singleton, hq]
  rfl

/-- A group with something behind it refuses where that does behind the text of the group. -/
theorem OnlyTakes.refuses_group_seq (hp : p.OnlyTakes front text back)
    (hq : q.Refuses (front ++ text) back) (index : Nat) :
    ((group index p).seq q).Refuses front (text ++ back) := fun groups => by
  rw [ways, hp.ways_group, List.flatMap_singleton, hq]

/-! ## Repetition -/

/-- What is to be read once or more is refused if it is at the first time. -/
theorem Refuses.repeated (h : p.Refuses front back) (greedy : Bool) :
    (repeated p greedy).Refuses front back := fun groups => by
  rw [ways, h groups, List.flatMap_nil]

/-- The body of a repetition goes one way over each of the chunks and nowhere behind the last. -/
def Chunks (p : Pattern) : Text → List Text → Text → Prop
  | front, [], back => p.Refuses front back
  | front, chunk :: chunks, back =>
      chunk ≠ [] ∧ p.OnlyTakes front chunk (chunks.flatten ++ back) ∧
        Chunks p (front ++ chunk) chunks back

/-- The ways that end behind the last chunk, and in front of each of them, the longest first. -/
def stops (groups : Groups) : Text → List Text → Text → List Way
  | front, [], back => [(.between front back, groups)]
  | front, chunk :: chunks, back =>
      stops groups (front ++ chunk) chunks back ++
        [(.between front ((chunk :: chunks).flatten ++ back), groups)]

/-- The way that is tried first goes to the end of all chunks. -/
theorem head?_stops (groups : Groups) (front : Text) (chunks : List Text) (back : Text) :
    (stops groups front chunks back).head? =
      some (.between (front ++ chunks.flatten) back, groups) := by
  induction chunks generalizing front with
  | nil => simp [stops]
  | cons chunk chunks ih => simp [stops, ih]

/-- A repetition can stop behind each of the chunks, those further on first. -/
theorem roundWays_of_chunks {budget : Text} (h : p.Chunks front chunks back)
    (hbudget : chunks.length ≤ budget.length) (groups : Groups) :
    roundWays (fun place groups => p.ways place groups) true budget
      (.between front (chunks.flatten ++ back)) groups = stops groups front chunks back := by
  induction budget generalizing front chunks with
  | nil =>
      obtain rfl := List.length_eq_zero_iff.1 (Nat.le_zero.1 hbudget)
      rfl
  | cons c budget ih =>
      cases chunks with
      | nil => simp [roundWays, stops, h groups]
      | cons chunk chunks =>
          obtain ⟨hne, hchunk, hrest⟩ := h
          have hahead : front.size < (front ++ chunk).size := by
            have hsize : chunk.size ≠ 0 := fun hzero => hne (Text.size_eq_zero_iff.1 hzero)
            rw [Text.size_append]
            omega
          have hfirst := hchunk groups
          rw [← List.append_assoc, ← List.flatten_cons] at hfirst
          simp only [roundWays, hfirst, List.flatMap_singleton, Place.between_offset, hahead,
            if_true]
          rw [ih hrest (Nat.le_of_succ_le_succ hbudget), stops]

/-- There are no more chunks than characters, as none is empty. -/
theorem length_le_of_chunks (h : p.Chunks front chunks back) :
    chunks.length ≤ (chunks.flatten ++ back).length := by
  induction chunks generalizing front with
  | nil => exact Nat.zero_le _
  | cons chunk chunks ih =>
      obtain ⟨hne, -, hrest⟩ := h
      have hpos := List.length_pos_iff.2 hne
      have := ih hrest
      simp only [List.length_append, List.length_cons, List.flatten_cons] at this ⊢
      omega

/-- A repetition of a body that goes one way over each chunk ends behind the first of them or
further on. -/
theorem ways_repeated_of_chunks {chunk : Text} (h : p.Chunks front (chunk :: chunks) back)
    (groups : Groups) :
    (repeated p true).ways (.between front ((chunk :: chunks).flatten ++ back)) groups =
      stops groups (front ++ chunk) chunks back := by
  obtain ⟨hne, hchunk, hrest⟩ := h
  have hahead : front.size < (front ++ chunk).size := by
    have hsize : chunk.size ≠ 0 := fun hzero => hne (Text.size_eq_zero_iff.1 hzero)
    rw [Text.size_append]
    omega
  have hfirst := hchunk groups
  rw [← List.append_assoc, ← List.flatten_cons] at hfirst
  simp only [ways, hfirst, List.flatMap_singleton, Place.between_offset, hahead, if_true]
  exact roundWays_of_chunks hrest (length_le_of_chunks hrest) groups

/-- Any number of repetitions of such a body end in front of any chunk or behind the last. -/
theorem ways_star_of_chunks (h : p.Chunks front chunks back) (groups : Groups) :
    (star p true).ways (.between front (chunks.flatten ++ back)) groups =
      stops groups front chunks back := by
  cases chunks with
  | nil => simp [star, optional, ways, stops, h groups]
  | cons chunk chunks =>
      rw [star, optional, if_pos rfl, ways, ways_repeated_of_chunks h groups]
      rfl

/-- Where what follows cannot begin like a chunk, only the longest way goes on. -/
theorem flatMap_stops {q : Pattern} (groups : Groups)
    (h : ∀ chunk ∈ chunks, ∀ front back, q.Refuses front (chunk ++ back)) :
    (stops groups front chunks back).flatMap (fun way => q.ways way.1 way.2) =
      q.ways (.between (front ++ chunks.flatten) back) groups := by
  induction chunks generalizing front with
  | nil => simp [stops]
  | cons chunk chunks ih =>
      have hchunk := h chunk (List.mem_cons_self ..) front (chunks.flatten ++ back) groups
      have hrest (front : Text) :=
        @ih front fun other hmem => h other (List.mem_cons_of_mem _ hmem)
      simp [stops, hrest, hchunk]

/-- What refuses every chunk can only follow on all of them. -/
theorem ways_star_seq (hp : p.Chunks front chunks back)
    (hq : ∀ chunk ∈ chunks, ∀ front back, q.Refuses front (chunk ++ back)) (groups : Groups) :
    ((star p true).seq q).ways (.between front (chunks.flatten ++ back)) groups =
      q.ways (.between (front ++ chunks.flatten) back) groups := by
  rw [ways, ways_star_of_chunks hp groups, flatMap_stops groups hq]

/-- A repetition, and what cannot begin like a chunk, go together one way over all chunks. -/
theorem onlyTakes_star_seq (hp : p.Chunks front chunks (text ++ back))
    (hq : ∀ chunk ∈ chunks, ∀ front back, q.Refuses front (chunk ++ back))
    (h : q.OnlyTakes (front ++ chunks.flatten) text back) :
    ((star p true).seq q).OnlyTakes front (chunks.flatten ++ text) back := fun groups => by
  rw [List.append_assoc, ways_star_seq hp hq groups, h groups, List.append_assoc]

/-- A repetition and what follows on it refuse if that cannot begin like a chunk and refuses behind
all chunks. -/
theorem refuses_star_seq (hp : p.Chunks front chunks back)
    (hq : ∀ chunk ∈ chunks, ∀ front back, q.Refuses front (chunk ++ back))
    (h : q.Refuses (front ++ chunks.flatten) back) :
    ((star p true).seq q).Refuses front (chunks.flatten ++ back) := fun groups => by
  rw [ways_star_seq hp hq groups, h groups]

/-- A repetition reads all of the chunks. -/
theorem takes_star (h : p.Chunks front chunks back) :
    (star p true).Takes front chunks.flatten back := fun groups => by
  rw [ways_star_of_chunks h groups, head?_stops]

/-! ## Runs of characters -/

/-- Passages over each of which the body goes one way wherever it stands are chunks, if it goes
nowhere behind them. -/
theorem chunks_of_onlyTakes
    (hchunks : ∀ chunk ∈ chunks, chunk ≠ [] ∧ ∀ front back, p.OnlyTakes front chunk back)
    (hback : ∀ front, p.Refuses front back) : p.Chunks front chunks back := by
  induction chunks generalizing front with
  | nil => exact hback front
  | cons chunk chunks ih =>
      obtain ⟨hne, hchunk⟩ := hchunks chunk (List.mem_cons_self ..)
      exact ⟨hne, hchunk front _, ih fun other hmem => hchunks other (List.mem_cons_of_mem _ hmem)⟩

/-- The characters of a text are chunks for a set that has them all, up to what follows. -/
theorem chunks_oneOf (htext : ∀ c ∈ text, set.has c = true)
    (hback : ∀ c ∈ back.head?, set.has c = false) :
    (oneOf set).Chunks front (text.map fun c => [c]) back := by
  refine chunks_of_onlyTakes (fun chunk hmem => ?_) fun _ => refuses_oneOf hback
  obtain ⟨c, hc, rfl⟩ := List.mem_map.1 hmem
  exact ⟨List.cons_ne_nil _ _, fun _ _ => onlyTakes_oneOf (htext c hc)⟩

/-- The characters of a text, one by one, make up the text. -/
theorem flatten_map_singleton (t : Text) : (t.map fun c => [c]).flatten = t := by
  rw [← List.flatMap_def, List.flatMap_singleton']

/-- A repeated set takes the characters that it has, if there is one and up to what follows. -/
theorem takes_repeated_oneOf (hne : text ≠ []) (htext : ∀ c ∈ text, set.has c = true)
    (hback : ∀ c ∈ back.head?, set.has c = false) :
    (repeated (oneOf set) true).Takes front text back := fun groups => by
  have hchunks : (oneOf set).Chunks front (text.map fun c => [c]) back :=
    chunks_oneOf htext hback
  cases text with
  | nil => exact absurd rfl hne
  | cons c text =>
      have hways := ways_repeated_of_chunks hchunks groups
      rw [← List.map_cons (f := fun c => [c]), flatten_map_singleton] at hways
      rw [hways, head?_stops, flatten_map_singleton, List.append_assoc, List.singleton_append]

end TextEditor.Pattern
