import TextEditor.Buffer.Edit
import TextEditor.Proofs.Text.Cuts

/-!
# Steps that can go out of range

A program stops when it cuts a text away from a character boundary, reaches past the end of a list,
or takes a larger number from a smaller one. The definitions of `TextEditor` have some value even
then. Those of `TextEditor.Guarded` do the same work by the steps of this module, which have no
value when they go out of range, and then neither has the definition that takes such a step. That
they always have the value of their unguarded namesakes says that no step goes out of range.

Two steps go out of range only where there is a limit on what a machine can hold: a sum of numbers
that the machine does not have, and a text that is larger than a text can be. Definitions with such
steps take the limit, the largest number, as their first argument; for offsets it is `maxOffset`,
and `none` sets the limit aside.

Main statement: `floor_eq`, for the search of a boundary by steps of one byte.
-/

namespace TextEditor.Guarded

variable {α : Type} {items : List α} {index n : Nat} {line : Text}

/-- The difference of two numbers, provided that the second is not larger. -/
def minus (a b : Nat) : Option Nat := if b ≤ a then some (a - b) else none

/-- A number is not over the limit, if there is one. -/
def Within (limit : Option Nat) (n : Nat) : Prop := ∀ largest ∈ limit, n ≤ largest

instance (limit : Option Nat) (n : Nat) : Decidable (Within limit n) :=
  match limit with
  | none => isTrue fun _ h => nomatch h
  | some largest =>
      decidable_of_iff (n ≤ largest) ⟨fun h _ hmem => Option.some.inj hmem ▸ h, fun h => h _ rfl⟩

/-- The sum of two numbers, provided that it is not over the limit. -/
def plus (limit : Option Nat) (a b : Nat) : Option Nat :=
  if Within limit (a + b) then some (a + b) else none

/-- The limit on the size of a text: only half of the offsets can be the size of one. -/
def halved (limit : Option Nat) : Option Nat := limit.map (· / 2)

/-- A text with another at its end, provided that a text can be that large. -/
def joined (limit : Option Nat) (t more : Text) : Option Text :=
  if Within (halved limit) (t ++ more).size then some (t ++ more) else none

/-- The remainder of a division, provided that it is not by zero. -/
def remainder (a b : Nat) : Option Nat := if 0 < b then some (a % b) else none

/-- An item of a list, provided that it is there. -/
def itemAt (items : List α) (index : Nat) : Option α := items[index]?

/-- The list with another item, provided that there is one to take its place. -/
def setAt (items : List α) (index : Nat) (item : α) : Option (List α) :=
  if index < items.length then some (items.set index item) else none

/-- The list without an item, provided that it is there. -/
def eraseAt (items : List α) (index : Nat) : Option (List α) :=
  if index < items.length then some (items.eraseIdx index) else none

/-- The list with more items before one or at its end, provided that it is that long. -/
def insertAt (items : List α) (index : Nat) (more : List α) : Option (List α) :=
  if index ≤ items.length then some (insertItems items index more) else none

/-- The text up to byte `n`, provided that this is a boundary. -/
def front (line : Text) (n : Nat) : Option Text := line.slice? 0 n

/-- The text from byte `n` on, provided that this is a boundary. -/
def back (line : Text) (n : Nat) : Option Text := line.slice? n line.size

/-- Without a limit no number is over it. -/
@[simp] theorem within_none (n : Nat) : Within none n := fun _ h => nomatch h

/-- A number is within a limit that there is if it is no larger. -/
@[simp] theorem within_some {largest n : Nat} : Within (some largest) n ↔ n ≤ largest :=
  ⟨fun h => h largest rfl, fun h _ hmem => Option.some.inj hmem ▸ h⟩

/-- Zero is within every limit. -/
theorem within_zero (limit : Option Nat) : Within limit 0 := fun _ _ => Nat.zero_le _

/-- What is no larger than a number within the limit is within it. -/
theorem Within.mono {limit : Option Nat} {m n : Nat} (h : Within limit n) (hle : m ≤ n) :
    Within limit m := fun largest hmem => Nat.le_trans hle (h largest hmem)

/-- A sum within the limit is the sum. -/
@[simp] theorem plus_of_within {limit : Option Nat} {a b : Nat} (h : Within limit (a + b)) :
    plus limit a b = some (a + b) := if_pos h

/-- A sum over the limit has no value. -/
theorem plus_of_not_within {limit : Option Nat} {a b : Nat} (h : ¬ Within limit (a + b)) :
    plus limit a b = none := if_neg h

/-- A text within the limit on texts is put together. -/
theorem joined_of_within {limit : Option Nat} {t more : Text}
    (h : Within (halved limit) (t ++ more).size) : joined limit t more = some (t ++ more) :=
  if_pos h

/-- A difference is there if what is taken away is not the larger. -/
@[simp] theorem minus_of_le {a b : Nat} (h : b ≤ a) : minus a b = some (a - b) := if_pos h

/-- A remainder is there if the divisor is not zero. -/
@[simp] theorem remainder_of_pos {a b : Nat} (h : 0 < b) : remainder a b = some (a % b) := if_pos h

/-- An item is there at an index below the length. -/
@[simp] theorem itemAt_of_lt (h : index < items.length) : itemAt items index = some items[index] :=
  List.getElem?_eq_getElem h

/-- An item can be changed at an index below the length. -/
@[simp] theorem setAt_of_lt (h : index < items.length) (item : α) :
    setAt items index item = some (items.set index item) := if_pos h

/-- An item can be removed at an index below the length. -/
@[simp] theorem eraseAt_of_lt (h : index < items.length) :
    eraseAt items index = some (items.eraseIdx index) := if_pos h

/-- Items can be put in up to the end of a list. -/
@[simp] theorem insertAt_of_le (h : index ≤ items.length) (more : List α) :
    insertAt items index more = some (insertItems items index more) := if_pos h

/-- A text can be cut at a boundary, which gives its front part. -/
@[simp] theorem front_of_isBoundary (h : line.isBoundary n = true) :
    front line n = some (line.before n) := by
  simp [front, Text.slice?, h, Text.between]

/-- A text can be cut at a boundary, which gives its back part. -/
@[simp] theorem back_of_isBoundary (h : line.isBoundary n = true) :
    back line n = some (line.after n) := by
  have hsize := Text.floor_add_size_after line n
  have hrest : Text.between line n line.size = line.after n := by
    rw [Text.between, ← hsize, Nat.add_sub_cancel_left, Text.before_size]
  simp [back, Text.slice?, h, Text.le_size_of_isBoundary h, hrest]

/-- Steps that all stay in range, one for each item of a list. -/
theorem mapM_eq_some {β : Type} {f : α → Option β} {g : α → β}
    (h : ∀ item ∈ items, f item = some (g item)) : items.mapM f = some (items.map g) := by
  induction items with
  | nil => rfl
  | cons item items ih =>
      rw [List.mapM_cons, h item (List.mem_cons_self ..),
        ih fun other hmem => h other (List.mem_cons_of_mem _ hmem)]
      rfl

/-- Steps that all stay in range, one after the other. -/
theorem foldlM_eq_some {β : Type} {f : β → α → Option β} {g : β → α → β}
    (h : ∀ state, ∀ item ∈ items, f state item = some (g state item)) (state : β) :
    items.foldlM f state = some (items.foldl g state) := by
  induction items generalizing state with
  | nil => rfl
  | cons item items ih =>
      rw [List.foldlM_cons, h state item (List.mem_cons_self ..), List.foldl_cons]
      exact ih (fun state other hmem => h state other (List.mem_cons_of_mem _ hmem)) _

/-- The first boundary at or below byte `n`, looked for one byte at a time. -/
def floorFrom (line : Text) : Nat → Option Nat
  | 0 => if line.isBoundary 0 then some 0 else none
  | n + 1 => if line.isBoundary (n + 1) then some (n + 1) else floorFrom line n

/-- The last boundary at or before byte `n`. -/
def floor (line : Text) (n : Nat) : Option Nat :=
  if line.size ≤ n then some line.size else floorFrom line n

/-- No boundary lies between the floor of an offset and the offset. -/
theorem floor_succ (h : line.isBoundary (n + 1) = false) : line.floor (n + 1) = line.floor n := by
  have hne : line.floor (n + 1) ≠ n + 1 := fun heq => by
    rw [Text.isBoundary, heq, beq_self_eq_true] at h
    exact Bool.noConfusion h
  have hle := Text.floor_le line (n + 1)
  have hup : line.floor n ≤ line.floor (n + 1) := Text.floor_le_floor (Nat.le_succ n)
  have hdown : line.floor (line.floor (n + 1)) ≤ line.floor n := Text.floor_le_floor (by omega)
  rw [Text.floor_floor] at hdown
  omega

/-- The search for a boundary downwards from an offset ends at its floor, at the start of the text
at the latest. -/
theorem floorFrom_eq (line : Text) (n : Nat) : floorFrom line n = some (line.floor n) := by
  induction n with
  | zero => rw [floorFrom, if_pos (Text.isBoundary_zero line), Text.floor_zero]
  | succ n ih =>
      by_cases h : line.isBoundary (n + 1) = true
      · rw [floorFrom, if_pos h, Text.floor_eq_of_isBoundary h]
      · rw [floorFrom, if_neg h, ih, floor_succ (by simpa using h)]

/-- Every offset has a floor. -/
@[simp] theorem floor_eq (line : Text) (n : Nat) : floor line n = some (line.floor n) := by
  unfold floor
  split
  · next hle => rw [Text.floor_of_size_le hle]
  · exact floorFrom_eq line n

end TextEditor.Guarded
