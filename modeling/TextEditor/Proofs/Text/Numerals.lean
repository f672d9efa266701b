import Mathlib.Data.List.Induction
import Mathlib.Data.Nat.Digits.Defs
import TextEditor.Offset
import TextEditor.Text

/-!
# Numbers written in decimal digits

An offset is written in decimal digits, as many as may be, with or without a plus sign before them.
Reading a text gives the number written in it just if that is an offset; a larger number is never
cut down to one.

Main statement: `offset?_eq_some_iff`.
-/

namespace TextEditor

namespace Text

/-- A text writes a number in decimal digits, with or without a plus sign before them. -/
def Writes (t : Text) (n : Nat) : Prop :=
  ∃ digits : List Nat, digits ≠ [] ∧ (∀ d ∈ digits, d < 10) ∧
    Nat.ofDigits 10 digits.reverse = n ∧
    (t = digits.map Nat.digitChar ∨ t = '+' :: digits.map Nat.digitChar)

end Text

/-! ## Digits -/

/-- A digit is the character for a number below ten. -/
theorem exists_digitChar_eq {c : Char} (h : c.isDigit = true) : ∃ d < 10, c = Nat.digitChar d := by
  obtain ⟨hle, hlt⟩ := Char.isDigit_iff_toNat.1 h
  have hle : 48 ≤ c.toNat := hle
  have hlt : c.toNat ≤ 57 := hlt
  refine ⟨c.toNat - 48, by omega, Char.toNat_inj.1 ?_⟩
  rw [Nat.toNat_digitChar_of_lt_ten (by omega)]
  omega

/-- Characters that are digits write a list of digits. -/
theorem exists_map_digitChar_eq {t : Text} (h : ∀ c ∈ t, c.isDigit = true) :
    ∃ digits : List Nat, (∀ d ∈ digits, d < 10) ∧ t = digits.map Nat.digitChar := by
  induction t with
  | nil => exact ⟨[], nofun, rfl⟩
  | cons c t ih =>
      obtain ⟨hc, ht⟩ := List.forall_mem_cons.1 h
      obtain ⟨d, hd, rfl⟩ := exists_digitChar_eq hc
      obtain ⟨digits, hdigits, rfl⟩ := ih ht
      exact ⟨d :: digits, List.forall_mem_cons.2 ⟨hd, hdigits⟩, rfl⟩

/-- Reading digits from the front gives the number that they write. -/
theorem foldl_digits {digits : List Nat} (h : ∀ d ∈ digits, d < 10) :
    (digits.map Nat.digitChar).foldl (fun n c => n * 10 + (c.toNat - '0'.toNat)) 0 =
      Nat.ofDigits 10 digits.reverse := by
  induction digits using List.reverseRecOn with
  | nil => rfl
  | append_singleton digits d ih =>
      obtain ⟨hdigits, hd⟩ := List.forall_mem_append.1 h
      have hvalue : (Nat.digitChar d).toNat - '0'.toNat = d :=
        Nat.toNat_digitChar_sub_48_of_lt_ten (hd d (List.mem_singleton_self d))
      rw [List.map_append, List.foldl_append, ih hdigits, List.reverse_append,
        List.reverse_singleton, List.singleton_append, Nat.ofDigits_cons]
      show Nat.ofDigits 10 digits.reverse * 10 + ((Nat.digitChar d).toNat - '0'.toNat) = _
      rw [hvalue]
      omega

/-! ## Offsets -/

variable {t : Text} {n : Nat}

/-- The number that a text writes in digits alone, provided that it is an offset. -/
def unsigned? (t : Text) : Option Nat :=
  if t.isEmpty || !t.all Char.isDigit then none
  else
    let n := t.foldl (fun n c => n * 10 + (c.toNat - '0'.toNat)) 0
    if n ≤ maxOffset then some n else none

/-- A sign before a number makes no difference. -/
theorem offset?_plus (t : Text) : offset? ('+' :: t) = unsigned? t := rfl

/-- Without a sign an offset is read as a number. -/
theorem offset?_of_ne_plus (h : t.head? ≠ some '+') : offset? t = unsigned? t := by
  unfold offset?
  split
  · exact absurd rfl h
  · rfl

/-- A text is read as a number just if it is a row of digits, at least one, and the number is no
larger than offsets go. -/
theorem unsigned?_eq_some_iff : unsigned? t = some n ↔
    (∃ digits : List Nat, digits ≠ [] ∧ (∀ d ∈ digits, d < 10) ∧
      Nat.ofDigits 10 digits.reverse = n ∧ t = digits.map Nat.digitChar) ∧ n ≤ maxOffset := by
  constructor
  · intro h
    unfold unsigned? at h
    split at h
    · cases h
    · next hdigits =>
        simp only [Bool.or_eq_true, not_or, List.isEmpty_iff, Bool.not_eq_true', Bool.not_eq_false,
          List.all_eq_true] at hdigits
        obtain ⟨hne, hall⟩ := hdigits
        obtain ⟨digits, hlt, rfl⟩ := exists_map_digitChar_eq hall
        obtain ⟨hle, hn⟩ := Option.ite_none_right_eq_some.1 h
        rw [foldl_digits hlt] at hle hn
        obtain rfl := Option.some.inj hn
        exact ⟨⟨digits, fun hnil => hne (by rw [hnil]; rfl), hlt, rfl, rfl⟩, hle⟩
  · rintro ⟨⟨digits, hne, hlt, rfl, rfl⟩, hle⟩
    have hempty : (digits.map Nat.digitChar).isEmpty = false := by
      rw [List.isEmpty_eq_false_iff]
      exact fun hnil => hne (List.map_eq_nil_iff.1 hnil)
    have hall : (digits.map Nat.digitChar).all Char.isDigit = true := by
      simp only [List.all_eq_true, List.mem_map]
      rintro c ⟨d, hd, rfl⟩
      rw [Nat.isDigit_digitChar]
      exact decide_eq_true (hlt d hd)
    unfold unsigned?
    rw [hempty, hall, if_neg (by decide)]
    simp only [foldl_digits hlt]
    exact if_pos hle

/-- Reading gives the number that is written, just if it is an offset. -/
theorem offset?_eq_some_iff : offset? t = some n ↔ t.Writes n ∧ n ≤ maxOffset := by
  by_cases hplus : t.head? = some '+'
  · obtain ⟨rest, rfl⟩ := List.head?_eq_some_iff.1 hplus
    rw [offset?_plus, unsigned?_eq_some_iff]
    refine and_congr_left fun _ => exists_congr fun digits => ?_
    refine and_congr_right fun hne => and_congr_right fun hlt => and_congr_right fun _ => ?_
    -- no digit is a plus sign, so the sign has to be taken off
    have hother : ('+' :: rest : Text) ≠ digits.map Nat.digitChar := by
      intro heq
      obtain ⟨d, hd, hchar⟩ := List.mem_map.1 (heq ▸ List.mem_cons_self : '+' ∈ digits.map _)
      have hdigit := Nat.isDigit_digitChar (n := d)
      rw [hchar, decide_eq_true (hlt d hd)] at hdigit
      exact absurd hdigit (by decide)
    constructor
    · exact fun heq => .inr (congrArg ('+' :: ·) heq)
    · exact fun hor => (List.cons.inj (hor.resolve_left hother)).2
  · rw [offset?_of_ne_plus hplus, unsigned?_eq_some_iff]
    refine and_congr_left fun _ => exists_congr fun digits => ?_
    refine and_congr_right fun _ => and_congr_right fun _ => and_congr_right fun _ => ?_
    constructor
    · exact .inl
    · rintro (heq | rfl)
      · exact heq
      · exact absurd rfl hplus

end TextEditor
