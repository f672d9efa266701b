import TextEditor.Text.Decoding

/-!
# Decoding around ASCII

Bytes below 0x80 stand for themselves, whatever stands around them: such a byte never continues a
character, and bytes from 0x80 on never make one of the first 128 characters. Text can therefore be
cut at line feeds and carriage returns before it is decoded as well as after.

Main statements: `ofBytes_append_cons`, which takes a decoded text apart at an ASCII byte,
`exists_byte_of_mem_ofBytes`, and `getLast?_of_getLast?_ofBytes`, on the byte behind a last
character.
-/

namespace TextEditor

/-- What holds of a state inside a character: the next byte is none below 0x80, and the bits read so
far and those of the bytes to come make more than 0x7F. -/
def DecodeState.Wide : DecodeState → Prop
  | .boundary => True
  | .inside missing low high value =>
      0x80 ≤ low ∧ high ≤ 0xBF ∧ (missing ≤ 1 → 2 ≤ value) ∧ (2 ≤ missing → 1 ≤ value ∨ 0x90 ≤ low)

/-- Between characters no byte is awaited, so that none is out of range. -/
theorem wide_boundary : DecodeState.boundary.Wide := trivial

/-- A character is one of the first 128, and not the very first. -/
def isAsciiMark (c : Char) : Prop := 0 < c.toNat ∧ c.toNat < 0x80

variable {state : DecodeState} {b : Nat} {c : Char}

/-! ## One byte -/

/-- The number of a character made from a number is that number, or zero. -/
theorem toNat_ofNat_eq_or (n : Nat) : (Char.ofNat n).toNat = n ∨ (Char.ofNat n).toNat = 0 := by
  by_cases hvalid : n.isValidChar
  · left
    rw [Char.ofNat, dif_pos hvalid]
    rfl
  · right
    rw [Char.ofNat, dif_neg hvalid]
    rfl

/-- A number that stands for a mark is that of the mark. -/
theorem eq_of_isAsciiMark_ofNat (h : isAsciiMark (Char.ofNat b)) : b = (Char.ofNat b).toNat := by
  rcases toNat_ofNat_eq_or b with hb | hb
  · exact hb.symm
  · exact absurd h.1 (by omega)

/-- What is put for broken bytes is no mark. -/
theorem not_isAsciiMark_replacementChar : ¬ isAsciiMark replacementChar := by
  intro h
  exact absurd h.2 (by decide)

/-- A byte of ASCII is decoded as its character. -/
theorem decodeFirst_of_lt (h : b < 0x80) :
    decodeFirst b = (some (Char.ofNat b), .boundary) := if_pos h

/-- A byte from 0x80 on begins a character or is none. -/
theorem decodeFirst_of_ge (h : 0x80 ≤ b) :
    decodeFirst b = (some replacementChar, .boundary) ∨
      ∃ next, decodeFirst b = (none, next) ∧ next ≠ .boundary ∧ next.Wide := by
  unfold decodeFirst
  rw [if_neg (Nat.not_lt.2 h)]
  repeat' split
  all_goals first
    | exact .inl rfl
    | refine .inr ⟨_, rfl, DecodeState.noConfusion, ?_⟩
      simp only [DecodeState.Wide]
      omega

/-- What one byte completes and leaves begun. -/
structure Decodes (b : Nat) (step : Text × DecodeState) : Prop where
  wide : step.2.Wide
  mark : ∀ c ∈ step.1, isAsciiMark c → b = c.toNat
  begun : step.1 = [] → step.2 ≠ .boundary

/-- The first byte of a character shows a mark only if it is that mark. -/
theorem decodes_decodeFirst (b : Nat) :
    Decodes b ((decodeFirst b).1.toList, (decodeFirst b).2) := by
  by_cases h : b < 0x80
  · rw [decodeFirst_of_lt h]
    refine ⟨trivial, fun c hc hmark => ?_, fun hnil => nomatch hnil⟩
    obtain rfl := List.mem_singleton.1 hc
    exact eq_of_isAsciiMark_ofNat hmark
  · rcases decodeFirst_of_ge (Nat.le_of_not_lt h) with hfirst | ⟨next, hfirst, hnext, hwide⟩
    · rw [hfirst]
      refine ⟨trivial, fun c hc hmark => ?_, fun hnil => nomatch hnil⟩
      obtain rfl := List.mem_singleton.1 hc
      exact absurd hmark not_isAsciiMark_replacementChar
    · rw [hfirst]
      exact ⟨hwide, fun _ hc => absurd hc List.not_mem_nil, fun _ => hnext⟩

/-- A byte that ends a character before its time completes a replacement character as well. -/
theorem Decodes.broken {step : Text × DecodeState} (h : Decodes b step) :
    Decodes b (replacementChar :: step.1, step.2) := by
  refine ⟨h.wide, fun c hc hmark => ?_, fun hnil => nomatch hnil⟩
  rcases List.mem_cons.1 hc with rfl | hc
  · exact absurd hmark not_isAsciiMark_replacementChar
  · exact h.mark c hc hmark

/-- Any byte shows a mark only if it is that mark, wherever it comes. -/
theorem decodes_decodeByte (h : state.Wide) (b : Nat) : Decodes b (decodeByte state b) := by
  cases state with
  | boundary => exact decodes_decodeFirst b
  | inside missing low high value =>
      obtain ⟨hlow, hhigh, hlast, hmore⟩ := h
      unfold decodeByte
      simp only
      split
      · next hb =>
          split
          · next hmissing =>
              -- the character is complete, and its number is above 0x7F
              have htwo := hlast hmissing
              refine ⟨trivial, fun c hc hmark => ?_, fun hnil => nomatch hnil⟩
              obtain rfl := List.mem_singleton.1 hc
              have := eq_of_isAsciiMark_ofNat hmark
              have := hmark.2
              omega
          · next hmissing =>
              refine ⟨?_, fun _ hc => absurd hc List.not_mem_nil, fun _ => DecodeState.noConfusion⟩
              show 0x80 ≤ 0x80 ∧ 0xBF ≤ 0xBF ∧ (missing - 1 ≤ 1 → 2 ≤ value * 0x40 + b % 0x40) ∧
                (2 ≤ missing - 1 → 1 ≤ value * 0x40 + b % 0x40 ∨ 0x90 ≤ 0x80)
              have := hmore (by omega)
              omega
      · exact (decodes_decodeFirst b).broken

/-- A byte below 0x80 ends what was begun and stands for itself. -/
theorem decodeByte_of_lt (h : state.Wide) (hb : b < 0x80) :
    decodeByte state b = (decodeFrom state [] ++ [Char.ofNat b], .boundary) := by
  cases state with
  | boundary =>
      show ((decodeFirst b).1.toList, (decodeFirst b).2) = _
      rw [decodeFirst_of_lt hb]
      rfl
  | inside missing low high value =>
      have hlow : ¬ (low ≤ b ∧ b ≤ high) := by
        have := h.1
        omega
      simp only [decodeByte, if_neg hlow, decodeFirst_of_lt hb]
      rfl

/-! ## Sequences of bytes -/

/-- Bytes are decoded one after the other. -/
theorem decodeFrom_cons (state : DecodeState) (b : UInt8) (bytes : List UInt8) :
    decodeFrom state (b :: bytes) =
      (decodeByte state b.toNat).1 ++ decodeFrom (decodeByte state b.toNat).2 bytes := by
  cases state <;> rfl

/-- Decoding goes through an ASCII byte as through an end of text. -/
theorem decodeFrom_append_cons (h : state.Wide) (bytes rest : List UInt8) {b : UInt8}
    (hb : b.toNat < 0x80) :
    decodeFrom state (bytes ++ b :: rest) =
      decodeFrom state bytes ++ Char.ofNat b.toNat :: Text.ofBytes rest := by
  induction bytes generalizing state with
  | nil =>
      rw [List.nil_append, decodeFrom_cons, decodeByte_of_lt h hb, List.append_assoc]
      rfl
  | cons first bytes ih =>
      rw [List.cons_append, decodeFrom_cons, decodeFrom_cons,
        ih (decodes_decodeByte h first.toNat).wide, List.append_assoc]

/-- Each ASCII character of a decoded text was a byte of its own. -/
theorem exists_byte_of_mem_decodeFrom (h : state.Wide) {bytes : List UInt8}
    (hc : c ∈ decodeFrom state bytes) (hmark : isAsciiMark c) : ∃ b ∈ bytes, b.toNat = c.toNat := by
  induction bytes generalizing state with
  | nil =>
      cases state with
      | boundary => exact absurd hc List.not_mem_nil
      | inside missing low high value =>
          obtain rfl := List.mem_singleton.1 hc
          exact absurd hmark not_isAsciiMark_replacementChar
  | cons b bytes ih =>
      have hstep := decodes_decodeByte h b.toNat
      rw [decodeFrom_cons] at hc
      rcases List.mem_append.1 hc with hc | hc
      · exact ⟨b, List.mem_cons_self .., hstep.mark c hc hmark⟩
      · obtain ⟨other, hmem, heq⟩ := ih hstep.wide hc
        exact ⟨other, List.mem_cons_of_mem _ hmem, heq⟩

/-- Nothing decodes to the empty text but nothing. -/
theorem eq_nil_of_decodeFrom_eq_nil (h : state.Wide) {bytes : List UInt8}
    (hnil : decodeFrom state bytes = []) : state = .boundary ∧ bytes = [] := by
  induction bytes generalizing state with
  | nil =>
      cases state with
      | boundary => exact ⟨rfl, rfl⟩
      | inside missing low high value => cases hnil
  | cons b bytes ih =>
      have hstep := decodes_decodeByte h b.toNat
      rw [decodeFrom_cons, List.append_eq_nil_iff] at hnil
      exact absurd (ih hstep.wide hnil.2).1 (hstep.begun hnil.1)

namespace Text

/-- No bytes are no text. -/
@[simp] theorem ofBytes_nil : ofBytes [] = [] := rfl

/-- Any bytes are some text, if only what is put for broken ones. -/
theorem ofBytes_eq_nil_iff {bytes : List UInt8} : ofBytes bytes = [] ↔ bytes = [] := by
  constructor
  · intro h
    exact (eq_nil_of_decodeFrom_eq_nil wide_boundary h).2
  · rintro rfl
    rfl

/-- A byte of ASCII cuts the decoding in two. -/
theorem ofBytes_append_cons (bytes rest : List UInt8) {b : UInt8} (hb : b.toNat < 0x80) :
    ofBytes (bytes ++ b :: rest) = ofBytes bytes ++ Char.ofNat b.toNat :: ofBytes rest :=
  decodeFrom_append_cons wide_boundary bytes rest hb

/-- A mark in a text comes from its byte. -/
theorem exists_byte_of_mem_ofBytes {bytes : List UInt8} (hc : c ∈ ofBytes bytes)
    (hmark : isAsciiMark c) : ∃ b ∈ bytes, b.toNat = c.toNat :=
  exists_byte_of_mem_decodeFrom wide_boundary hc hmark

/-- Bytes without the one that stands for an ASCII character decode to a text without it. -/
theorem not_mem_ofBytes {bytes : List UInt8} {b : UInt8} (hmark : isAsciiMark c)
    (hb : b.toNat = c.toNat) (h : b ∉ bytes) : c ∉ ofBytes bytes := by
  intro hc
  obtain ⟨other, hmem, heq⟩ := exists_byte_of_mem_ofBytes hc hmark
  obtain rfl : other = b := UInt8.toNat_inj.1 (heq.trans hb.symm)
  exact h hmem

/-- A text that ends with an ASCII character comes from bytes that end with its byte. -/
theorem getLast?_of_getLast?_ofBytes {bytes : List UInt8} {b : UInt8} (hmark : isAsciiMark c)
    (hb : b.toNat = c.toNat) (h : (ofBytes bytes).getLast? = some c) :
    bytes.getLast? = some b := by
  induction hn : bytes.length using Nat.strongRecOn generalizing bytes with
  | ind n ih =>
      by_cases hmem : b ∈ bytes
      · obtain ⟨front, rest, rfl, hfront⟩ := List.eq_append_cons_of_mem hmem
        rw [ofBytes_append_cons front rest (by have := hmark.2; omega)] at h
        by_cases hrest : rest = []
        · rw [hrest, List.getLast?_concat]
        · -- the last character is one of the rest, which is shorter
          obtain ⟨last, hlast⟩ : ∃ last, (ofBytes rest).getLast? = some last := by
            rw [List.getLast?_eq_some_getLast (mt ofBytes_eq_nil_iff.1 hrest)]
            exact ⟨_, rfl⟩
          rw [List.getLast?_append, List.getLast?_cons, hlast] at h
          obtain rfl : last = c := Option.some.inj h
          have hrest_last : rest.getLast? = some b := by
            refine ih rest.length ?_ hlast rfl
            rw [← hn, List.length_append, List.length_cons]
            omega
          rw [List.getLast?_append, List.getLast?_cons, hrest_last]
          rfl
      · exact absurd (List.mem_of_getLast? h) (not_mem_ofBytes hmark hb hmem)

end Text

end TextEditor
