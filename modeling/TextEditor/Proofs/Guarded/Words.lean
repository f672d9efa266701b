import TextEditor.Proofs.Guarded.Basic
import TextEditor.Proofs.Text.Spacing
import TextEditor.Typing.WordJump

/-!
# Word jumps within range

Word jumps go through the bytes of a line, not its characters. A space or a tab is a byte of its
own, and no other character has such a byte.

Main statements: `isBlankByte_of_mem`, and `stepBack_run` and `stepOn_run`, where going over a run
of bytes ends.
-/

namespace TextEditor.Guarded

/-- The UTF-8 encoding of a text. -/
def bytes (t : Text) : List UInt8 := t.flatMap String.utf8EncodeChar

/-- Space or tab. -/
def isBlankByte (b : UInt8) : Bool := b == 32 || b == 9

/-- The place reached by going back from `n` over bytes of a kind. -/
def stepBack (bytes : List UInt8) (kind : UInt8 → Bool) : Nat → Option Nat
  | 0 => some 0
  | n + 1 => do
      if kind (← itemAt bytes n) then stepBack bytes kind n else some (n + 1)

/-- The place reached by going on from `n` over bytes of a kind. -/
def stepOn (bytes : List UInt8) (kind : UInt8 → Bool) (n : Nat) : Option Nat :=
  if n < bytes.length then do
    if kind (← itemAt bytes n) then stepOn bytes kind (n + 1) else some n
  else some n
termination_by bytes.length - n

/-- The start of the word before byte `n`. -/
def previousWordStart (line : Text) (n : Nat) : Option Nat := do
  let bytes := bytes line
  stepBack bytes (!isBlankByte ·) (← stepBack bytes isBlankByte (min n bytes.length))

/-- The end of the word after byte `n`. -/
def nextWordEnd (line : Text) (n : Nat) : Option Nat := do
  let bytes := bytes line
  stepOn bytes (!isBlankByte ·) (← stepOn bytes isBlankByte (min n bytes.length))

/-! ## Bytes of characters -/

/-- The bytes of two texts in a row are those of the one and then those of the other. -/
theorem bytes_append (s t : Text) : bytes (s ++ t) = bytes s ++ bytes t := List.flatMap_append

/-- A text has as many bytes as its size says. -/
@[simp] theorem length_bytes (t : Text) : (bytes t).length = t.size := by
  induction t with
  | nil => rfl
  | cons c t ih =>
      have hcons : bytes (c :: t) = String.utf8EncodeChar c ++ bytes t := rfl
      rw [hcons, List.length_append, String.length_utf8EncodeChar, ih, Text.size_cons]

/-- The bytes of a character outside ASCII are outside ASCII. -/
theorem le_toNat_of_mem {c : Char} {b : UInt8} (hc : ¬ c.toNat ≤ 0x7f)
    (hb : b ∈ String.utf8EncodeChar c) : 0x80 ≤ b.toNat := by
  have hc : ¬ c.val.toNat ≤ 0x7f := hc
  have hmem : ∃ n, b = UInt8.ofNat n ∧ 0x80 ≤ n ∧ n < 0x100 := by
    simp only [String.utf8EncodeChar, hc, if_false] at hb
    split at hb
    · simp only [List.mem_cons, List.not_mem_nil, or_false] at hb
      rcases hb with hb | hb
      all_goals exact ⟨_, hb, by omega, by omega⟩
    · split at hb
      · simp only [List.mem_cons, List.not_mem_nil, or_false] at hb
        rcases hb with hb | hb | hb
        all_goals exact ⟨_, hb, by omega, by omega⟩
      · simp only [List.mem_cons, List.not_mem_nil, or_false] at hb
        rcases hb with hb | hb | hb | hb
        all_goals exact ⟨_, hb, by omega, by omega⟩
  obtain ⟨n, rfl, hlow, hhigh⟩ := hmem
  rw [UInt8.toNat_ofNat']
  omega

/-- An ASCII character is its only byte. -/
theorem utf8EncodeChar_of_le {c : Char} (hc : c.toNat ≤ 0x7f) :
    String.utf8EncodeChar c = [UInt8.ofNat c.toNat] := by
  have hc : c.val.toNat ≤ 0x7f := hc
  rw [String.utf8EncodeChar, if_pos hc]
  rfl

/-- The bytes of a space or tab are blank, those of any other character are not. -/
theorem isBlankByte_of_mem {c : Char} {b : UInt8} (hb : b ∈ String.utf8EncodeChar c) :
    isBlankByte b = isIndentChar c := by
  by_cases hc : c.toNat ≤ 0x7f
  · rw [utf8EncodeChar_of_le hc, List.mem_singleton] at hb
    have hbyte (n : Nat) (hn : n < 256) : b = UInt8.ofNat n ↔ c.toNat = n := by
      rw [hb, ← UInt8.toNat_inj, UInt8.toNat_ofNat', UInt8.toNat_ofNat']
      omega
    have hchar (d : Char) : c.toNat = d.toNat ↔ c = d := Char.toNat_inj
    rw [Bool.eq_iff_iff, isBlankByte, isIndentChar]
    simp only [Bool.or_eq_true, beq_iff_eq]
    exact or_congr ((hbyte 32 (by decide)).trans (hchar ' '))
      ((hbyte 9 (by decide)).trans (hchar '\t'))
  · have hhigh := le_toNat_of_mem hc hb
    have hbyte : isBlankByte b = false := by
      rw [isBlankByte, Bool.or_eq_false_iff, beq_eq_false_iff_ne, beq_eq_false_iff_ne]
      constructor
      all_goals
        rintro rfl
        exact absurd hhigh (by decide)
    have hchar : isIndentChar c = false := by
      rw [isIndentChar, Bool.or_eq_false_iff, beq_eq_false_iff_ne, beq_eq_false_iff_ne]
      constructor
      all_goals
        rintro rfl
        exact absurd (show _ ≤ 0x7f by decide) hc
    rw [hbyte, hchar]

/-! ## Steps over bytes -/

/-- Stepping back over bytes of a kind leaves what is before the last run of them. -/
theorem stepBack_eq {bytes : List UInt8} (kind : UInt8 → Bool) {n : Nat} (h : n ≤ bytes.length) :
    stepBack bytes kind n = some ((bytes.take n).reverse.dropWhile kind).length := by
  induction n with
  | zero => rfl
  | succ n ih =>
      have hlast : (bytes.take (n + 1)).reverse = bytes[n] :: (bytes.take n).reverse := by
        rw [List.take_add_one, List.getElem?_eq_getElem h, List.reverse_append]
        rfl
      rw [stepBack, itemAt_of_lt h, Option.bind_eq_bind, Option.bind_some, hlast]
      by_cases hkind : kind bytes[n] = true
      · rw [if_pos hkind, List.dropWhile_cons_of_pos hkind, ih (by omega)]
      · rw [if_neg hkind, List.dropWhile_cons_of_neg hkind, List.length_cons, List.length_reverse,
          List.length_take, Nat.min_eq_left (by omega)]

/-- Stepping on over bytes of a kind ends where the first run of them does. -/
theorem stepOn_eq {bytes : List UInt8} (kind : UInt8 → Bool) {n : Nat} (h : n ≤ bytes.length) :
    stepOn bytes kind n = some (bytes.length - ((bytes.drop n).dropWhile kind).length) := by
  fun_induction stepOn bytes kind n with
  | case1 n hlt ih =>
      have hdrop := List.drop_eq_getElem_cons hlt
      rw [itemAt_of_lt hlt, Option.bind_eq_bind, Option.bind_some, hdrop]
      by_cases hkind : kind bytes[n] = true
      · rw [if_pos hkind, List.dropWhile_cons_of_pos hkind, ih (by omega)]
      · rw [if_neg hkind, List.dropWhile_cons_of_neg hkind, ← hdrop, List.length_drop,
          Nat.sub_sub_self h]
  | case2 n hge =>
      rw [List.drop_eq_nil_of_le (Nat.not_lt.1 hge), List.dropWhile_nil, List.length_nil]
      exact congrArg some (Nat.le_antisymm h (Nat.not_lt.1 hge))

/-- Going back over a run of bytes of a kind ends where the run begins. -/
theorem stepBack_run {bytes front run : List UInt8} {kind : UInt8 → Bool} {n : Nat}
    (h : n ≤ bytes.length) (htake : bytes.take n = front ++ run)
    (hrun : ∀ b ∈ run, kind b = true) (hfront : ∀ b ∈ front.getLast?, kind b = false) :
    stepBack bytes kind n = some front.length := by
  rw [stepBack_eq kind h, htake, List.reverse_append, Text.dropWhile_append_stop,
    List.length_reverse]
  · exact fun b hb => hrun b (List.mem_reverse.1 hb)
  · rwa [List.head?_reverse]

/-- Going on over a run of bytes of a kind ends where the run ends. -/
theorem stepOn_run {bytes run rest : List UInt8} {kind : UInt8 → Bool} {n : Nat}
    (h : n ≤ bytes.length) (hdrop : bytes.drop n = run ++ rest)
    (hrun : ∀ b ∈ run, kind b = true) (hrest : ∀ b ∈ rest.head?, kind b = false) :
    stepOn bytes kind n = some (n + run.length) := by
  have hlength := congrArg List.length hdrop
  rw [List.length_drop, List.length_append] at hlength
  rw [stepOn_eq kind h, hdrop, Text.dropWhile_append_stop hrun hrest]
  congr 1
  omega

end TextEditor.Guarded
