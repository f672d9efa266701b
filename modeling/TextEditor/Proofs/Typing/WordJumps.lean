import TextEditor.Proofs.Guarded.Words

/-!
# Where word jumps land

A jump goes over blanks and then over a word, up to the next blank or the end of the line. Seen by
bytes it may begin anywhere, also inside a character or behind the end, and it ends between two
characters all the same: a blank is one byte, so what stands next to it begins or ends there.

Main statements: `exists_skips` for either direction, `previousWordStart_lands` and
`nextWordEnd_lands`, and `word_jumps_land`.
-/

namespace TextEditor.Text

open Guarded (bytes isBlankByte)

variable {t s line blanks word rest : Text} {n : Nat} {c : Char}

/-! ## Blanks, then a word -/

/-- Blanks are followed by a word, which goes on to the next blank or as far as the text does. There
is a word unless the text ends with the blanks. -/
structure Skips (blanks word rest : Text) : Prop where
  blank : ∀ c ∈ blanks, isIndentChar c = true
  solid : ∀ c ∈ word, isIndentChar c = false
  edge : ∀ c ∈ rest.head?, isIndentChar c = true
  ended : word = [] → rest = []

/-- Going over blanks and then over a word leaves what comes behind both. -/
theorem exists_skips (t : Text) : ∃ blanks word rest, t = blanks ++ (word ++ rest) ∧
    (t.dropWhile isIndentChar).dropWhile (!isIndentChar ·) = rest ∧ Skips blanks word rest := by
  refine ⟨t.takeWhile isIndentChar, (t.dropWhile isIndentChar).takeWhile (!isIndentChar ·), _, ?_,
    rfl, ?_, ?_, ?_, ?_⟩
  · rw [List.takeWhile_append_dropWhile, List.takeWhile_append_dropWhile]
  · exact fun c hc => List.all_eq_true.1 List.all_takeWhile c hc
  · intro c hc
    simpa using List.all_eq_true.1 List.all_takeWhile c hc
  · intro c hc
    have hstop := List.head?_dropWhile_not (!isIndentChar ·) (t.dropWhile isIndentChar)
    rw [Option.mem_def.1 hc] at hstop
    simpa using hstop
  · intro hword
    cases hbehind : t.dropWhile isIndentChar with
    | nil => rfl
    | cons c behind =>
        have hstop := List.head?_dropWhile_not isIndentChar t
        rw [hbehind] at hword hstop
        rw [List.takeWhile_cons_of_pos (by simpa using hstop)] at hword
        cases hword

/-! ## What has begun before a byte -/

/-- The characters that begin before an offset are a front part of the line and reach to the
offset. -/
theorem exists_append_begunBefore (line : Text) (n : Nat) :
    ∃ behind, line = begunBefore line n ++ behind ∧
      min n line.size ≤ size (begunBefore line n) := by
  induction line generalizing n with
  | nil => exact ⟨[], rfl, by simp⟩
  | cons c line ih =>
      rw [begunBefore]
      split
      · obtain ⟨behind, hline, hle⟩ := ih (n - c.utf8Size)
        refine ⟨behind, by rw [List.cons_append, ← hline], ?_⟩
        rw [size_cons, size_cons]
        omega
      · exact ⟨c :: line, rfl, by omega⟩

/-- A character that has begun before byte `n` begins before byte `n`. -/
theorem size_lt_of_begunBefore (h : begunBefore line n = s ++ c :: rest) : size s < n := by
  induction line generalizing n s with
  | nil => simp [begunBefore] at h
  | cons d line ih =>
      rw [begunBefore] at h
      split at h
      · cases s with
        | nil => assumption
        | cons e s =>
            obtain ⟨rfl, hrest⟩ := List.cons.inj h
            have := ih hrest
            rw [size_cons]
            omega
      · simp at h

/-- A character that has not ended at byte `n` ends behind byte `n`. -/
theorem lt_floor_add_of_after (h : after line n = c :: rest) : n < floor line n + c.utf8Size := by
  induction line generalizing n with
  | nil => cases h
  | cons d line ih =>
      by_cases hd : d.utf8Size ≤ n
      · rw [after, if_pos hd] at h
        have := ih h
        simp only [floor, before, if_pos hd, size_cons] at this ⊢
        omega
      · rw [after, if_neg hd] at h
        obtain ⟨rfl, -⟩ := List.cons.inj h
        omega

/-! ## Which pieces a jump goes over -/

/-- A jump to the left goes over blanks and a word in front of them, and the byte that it begins at
is behind the start of these and not behind their end. -/
theorem exists_previousWordStart (line : Text) (n : Nat) : ∃ front word blanks behind,
    line = front ++ (word ++ (blanks ++ behind)) ∧ previousWordStart line n = size front ∧
      Skips blanks.reverse word.reverse front.reverse ∧
      min n line.size ≤ size front + (size word + size blanks) ∧
      (min n line.size = 0 ∧ front = [] ∨ size front < min n line.size) := by
  obtain ⟨behind, hbegun, hle⟩ := exists_append_begunBefore line n
  obtain ⟨blanks, word, rest, hpieces, hrest, hskips⟩ := exists_skips (begunBefore line n).reverse
  have hfront : begunBefore line n = rest.reverse ++ (word.reverse ++ blanks.reverse) := by
    rw [← List.reverse_reverse (begunBefore line n), hpieces]
    simp
  have hline : line = rest.reverse ++ (word.reverse ++ (blanks.reverse ++ behind)) := by
    rw [hfront] at hbegun
    simpa using hbegun
  refine ⟨rest.reverse, word.reverse, blanks.reverse, behind, hline, ?_, by simpa using hskips,
    ?_, ?_⟩
  · rw [previousWordStart, hrest, size_reverse]
  · rw [hfront] at hle
    simpa using hle
  · cases hrun : word.reverse ++ blanks.reverse with
    | nil =>
        obtain ⟨hword, hblanks⟩ := List.append_eq_nil_iff.1 hrun
        have hnone := hskips.ended (List.reverse_eq_nil_iff.1 hword)
        rw [hfront, hrun, hnone] at hle
        exact .inl ⟨Nat.le_zero.1 hle, List.reverse_eq_nil_iff.2 hnone⟩
    | cons d run =>
        have hlt := size_lt_of_begunBefore (hfront.trans (by rw [hrun]))
        have hsize := congrArg size hline
        rw [← List.append_assoc word.reverse, hrun, size_append, size_append, size_cons] at hsize
        have hd := Char.utf8Size_pos d
        omega

/-- A jump to the right goes over blanks and a word behind them, and the byte that it begins at is
not before the start of these and before their end. -/
theorem exists_nextWordEnd (line : Text) (n : Nat) : ∃ front blanks word rest,
    line = front ++ (blanks ++ (word ++ rest)) ∧
      nextWordEnd line n = size front + (size blanks + size word) ∧ Skips blanks word rest ∧
      size front ≤ min n line.size ∧
      (min n line.size = line.size ∧ rest = [] ∨
        min n line.size < size front + (size blanks + size word)) := by
  obtain ⟨blanks, word, rest, hpieces, hrest, hskips⟩ := exists_skips (after line n)
  have hline := before_append_after line n
  rw [hpieces] at hline
  have hsize := congrArg size hline
  simp only [size_append] at hsize
  refine ⟨before line n, blanks, word, rest, hline.symm, ?_, hskips, ?_, ?_⟩
  · rw [nextWordEnd, hrest]
    omega
  · have hfloor := floor_le line n
    have hfloor_size := floor_le_size line n
    rw [floor] at hfloor hfloor_size
    omega
  · cases hrun : blanks ++ word with
    | nil =>
        obtain ⟨rfl, rfl⟩ := List.append_eq_nil_iff.1 hrun
        have hfloor := floor_le line n
        rw [hskips.ended rfl] at hsize
        rw [floor] at hfloor
        simp only [size_nil] at hsize
        exact .inl ⟨by omega, hskips.ended rfl⟩
    | cons d run =>
        rw [← List.append_assoc, hrun] at hpieces
        have hlt := lt_floor_add_of_after hpieces
        have hsum := congrArg size hrun
        rw [size_append, size_cons] at hsum
        rw [floor] at hlt
        omega

/-! ## Bytes -/

/-- Only an empty text has no bytes. -/
theorem bytes_eq_nil_iff : bytes t = [] ↔ t = [] := by
  rw [← List.length_eq_zero_iff, Guarded.length_bytes, size_eq_zero_iff]

/-- The bytes of blanks are blank and those of words are not. -/
theorem isBlankByte_of_mem_bytes {kind : Bool} (h : ∀ c ∈ t, isIndentChar c = kind) :
    ∀ b ∈ bytes t, isBlankByte b = kind := by
  intro b hb
  obtain ⟨c, hc, hb⟩ := List.mem_flatMap.1 hb
  rw [Guarded.isBlankByte_of_mem hb, h c hc]

/-- A blank is one byte. -/
theorem exists_utf8EncodeChar_of_isIndentChar (h : isIndentChar c = true) :
    ∃ b, String.utf8EncodeChar c = [b] ∧ isBlankByte b = true := by
  rw [isIndentChar, Bool.or_eq_true, beq_iff_eq, beq_iff_eq] at h
  rcases h with rfl | rfl
  · exact ⟨32, by decide, rfl⟩
  · exact ⟨9, by decide, rfl⟩

/-- Blanks are a byte each. -/
theorem utf8Size_of_isIndentChar (h : isIndentChar c = true) : c.utf8Size = 1 := by
  obtain ⟨b, hbytes, -⟩ := exists_utf8EncodeChar_of_isIndentChar h
  rw [← String.length_utf8EncodeChar, hbytes, List.length_singleton]

/-- Where a blank begins there is a blank byte. -/
theorem getElem?_bytes_of_isIndentChar (h : isIndentChar c = true) (front rest : Text) :
    ∃ b, (bytes (front ++ c :: rest))[front.size]? = some b ∧ isBlankByte b = true := by
  obtain ⟨b, hbytes, hb⟩ := exists_utf8EncodeChar_of_isIndentChar h
  have hline : bytes (front ++ c :: rest) = bytes front ++ b :: bytes rest := by
    rw [Guarded.bytes_append]
    simp only [bytes, List.flatMap_cons, hbytes, List.singleton_append]
  refine ⟨b, ?_, hb⟩
  rw [hline, ← Guarded.length_bytes, List.getElem?_append_right (Nat.le_refl _), Nat.sub_self,
    List.getElem?_cons_zero]

/-- The first bytes of two texts after some other. -/
theorem drop_take_bytes {front u v behind : Text} {k : Nat} (hk : k ≤ size u + size v) :
    ((bytes (front ++ (u ++ (v ++ behind)))).take (size front + k)).drop (size front) =
      (bytes u).take k ++ (bytes v).take (k - size u) := by
  have hlength : k ≤ (bytes u ++ bytes v).length := by simpa using hk
  simp only [Guarded.bytes_append]
  rw [List.drop_take, List.drop_left' (Guarded.length_bytes front), Nat.add_sub_cancel_left,
    ← List.append_assoc, List.take_append_of_le_length hlength, List.take_append,
    Guarded.length_bytes]

/-- The last bytes of two texts after some other. -/
theorem take_drop_bytes (front u v rest : Text) (k : Nat) :
    ((bytes (front ++ (u ++ (v ++ rest)))).take (size front + (size u + size v))).drop
      (size front + k) = (bytes u).drop k ++ (bytes v).drop (k - size u) := by
  have htake : (bytes (front ++ (u ++ (v ++ rest)))).take (size front + (size u + size v)) =
      bytes front ++ (bytes u ++ bytes v) := by
    have hlength : (bytes front ++ (bytes u ++ bytes v)).length =
        size front + (size u + size v) := by simp
    rw [← hlength, Guarded.bytes_append, Guarded.bytes_append, Guarded.bytes_append,
      ← List.append_assoc, ← List.append_assoc, ← List.append_assoc, List.take_left',
      List.append_assoc]
    simp
  rw [htake, ← List.drop_drop, List.drop_left' (Guarded.length_bytes front), List.drop_append,
    Guarded.length_bytes]

/-! ## Landing -/

/-- From byte `c` of a line a jump to the left lands on byte `p`, between two characters and before
`c`, unless `c` is the start of the line. The bytes between them are those of a word and then
blanks, and before them comes a blank or nothing. -/
structure LandsLeft (line : Text) (c p : Nat) : Prop where
  boundary : line.isBoundary p = true
  le : p ≤ c
  progress : c = 0 ∨ p < c
  run : ∃ word blanks, ((bytes line).take c).drop p = word ++ blanks ∧
    (∀ b ∈ word, isBlankByte b = false) ∧ (∀ b ∈ blanks, isBlankByte b = true) ∧
    (word = [] → p = 0)
  edge : p = 0 ∨ ∃ b, (bytes line)[p - 1]? = some b ∧ isBlankByte b = true

/-- From byte `c` of a line a jump to the right lands on byte `e`, between two characters and behind
`c`, unless `c` is the end of the line. The bytes between them are blanks and then those of a word,
and behind them comes a blank or nothing. -/
structure LandsRight (line : Text) (c e : Nat) : Prop where
  boundary : line.isBoundary e = true
  le : c ≤ e
  progress : c = line.size ∨ c < e
  run : ∃ blanks word, ((bytes line).take e).drop c = blanks ++ word ∧
    (∀ b ∈ blanks, isBlankByte b = true) ∧ (∀ b ∈ word, isBlankByte b = false) ∧
    (word = [] → e = line.size)
  edge : e = line.size ∨ ∃ b, (bytes line)[e]? = some b ∧ isBlankByte b = true

/-- A jump to the left lands where it should from every offset. -/
theorem previousWordStart_lands (line : Text) (n : Nat) :
    LandsLeft line (min n line.size) (line.previousWordStart n) := by
  obtain ⟨front, word, blanks, behind, hline, hstart, hskips, hle, hprogress⟩ :=
    exists_previousWordStart line n
  have hfront : min n line.size = 0 → front = [] := by
    intro hzero
    rcases hprogress with ⟨-, hnone⟩ | hlt
    · exact hnone
    · omega
  obtain ⟨k, hk⟩ : ∃ k, min n line.size = size front + k := by
    refine ⟨min n line.size - size front, ?_⟩
    rcases hprogress with ⟨-, rfl⟩ | hlt
    · simp
    · omega
  rw [hstart]
  refine ⟨isBoundary_iff.2 ⟨front, _, hline, rfl⟩, by omega, by omega, ?_, ?_⟩
  · refine ⟨(bytes word).take k, (bytes blanks).take (k - size word), ?_, ?_, ?_, ?_⟩
    · rw [hk, hline]
      exact drop_take_bytes (by omega)
    · intro b hb
      exact isBlankByte_of_mem_bytes (fun c hc => hskips.solid c (List.mem_reverse.2 hc)) b
        (List.mem_of_mem_take hb)
    · intro b hb
      exact isBlankByte_of_mem_bytes (fun c hc => hskips.blank c (List.mem_reverse.2 hc)) b
        (List.mem_of_mem_take hb)
    · intro hnone
      rcases List.take_eq_nil_iff.1 hnone with rfl | hnone
      · have hempty := hfront (by omega)
        rw [hempty, size_nil]
      · have hword : word.reverse = [] := List.reverse_eq_nil_iff.2 (bytes_eq_nil_iff.1 hnone)
        rw [List.reverse_eq_nil_iff.1 (hskips.ended hword), size_nil]
  · rcases List.eq_nil_or_concat front with rfl | ⟨front, d, rfl⟩
    · exact .inl rfl
    · rw [List.concat_eq_append] at hline hskips ⊢
      have hd : isIndentChar d = true := hskips.edge d (by simp)
      obtain ⟨b, hbyte, hb⟩ := getElem?_bytes_of_isIndentChar hd front (word ++ (blanks ++ behind))
      refine .inr ⟨b, ?_, hb⟩
      rw [hline, size_append, size_cons, utf8Size_of_isIndentChar hd, size_nil,
        Nat.add_sub_cancel, List.append_assoc, List.singleton_append]
      exact hbyte

/-- A jump to the right lands where it should from every offset. -/
theorem nextWordEnd_lands (line : Text) (n : Nat) :
    LandsRight line (min n line.size) (line.nextWordEnd n) := by
  obtain ⟨front, blanks, word, rest, hline, hend, hskips, hle, hprogress⟩ :=
    exists_nextWordEnd line n
  have hsize := congrArg size hline
  simp only [size_append] at hsize
  have hrest : rest = [] → size front + (size blanks + size word) = line.size := by
    rintro rfl
    rw [size_nil] at hsize
    omega
  have hreach : min n line.size ≤ size front + (size blanks + size word) := by
    rcases hprogress with ⟨hall, hnone⟩ | hlt
    · exact Nat.le_of_eq (hall.trans (hrest hnone).symm)
    · exact Nat.le_of_lt hlt
  obtain ⟨k, hk⟩ : ∃ k, min n line.size = size front + k := ⟨min n line.size - size front, by omega⟩
  rw [hend]
  refine ⟨?_, hreach, hprogress.imp_left And.left, ?_, ?_⟩
  · refine isBoundary_iff.2 ⟨front ++ (blanks ++ word), rest, ?_, by simp⟩
    rw [hline, List.append_assoc, List.append_assoc]
  · refine ⟨(bytes blanks).drop k, (bytes word).drop (k - size blanks), ?_, ?_, ?_, ?_⟩
    · rw [hk, hline]
      exact take_drop_bytes front blanks word rest k
    · intro b hb
      exact isBlankByte_of_mem_bytes hskips.blank b (List.mem_of_mem_drop hb)
    · intro b hb
      exact isBlankByte_of_mem_bytes hskips.solid b (List.mem_of_mem_drop hb)
    · intro hnone
      rw [List.drop_eq_nil_iff, Guarded.length_bytes] at hnone
      rcases hprogress with ⟨-, hnone⟩ | hlt
      · exact hrest hnone
      · -- none of the word is left out, so it has no bytes
        have hword : word = [] := size_eq_zero_iff.1 (by omega)
        exact hrest (hskips.ended hword)
  · cases rest with
    | nil => exact .inl (hrest rfl)
    | cons d rest =>
        have hd : isIndentChar d = true := hskips.edge d rfl
        obtain ⟨b, hbyte, hb⟩ := getElem?_bytes_of_isIndentChar hd (front ++ (blanks ++ word)) rest
        refine .inr ⟨b, ?_, hb⟩
        rw [size_append, size_append] at hbyte
        rw [← hbyte, hline, List.append_assoc, List.append_assoc]

/-! ## Going byte by byte -/

/-- Where a jump to the left lands is where going back over blank bytes and then over others
ends. -/
theorem LandsLeft.stepBack_eq {c p : Nat} (h : LandsLeft line c p) (hc : c ≤ line.size) :
    (Guarded.stepBack (bytes line) isBlankByte c).bind
      (Guarded.stepBack (bytes line) (!isBlankByte ·)) = some p := by
  obtain ⟨word, blanks, hrun, hword, hblanks, hended⟩ := h.run
  have hlength : c ≤ (bytes line).length := by rwa [Guarded.length_bytes]
  have htake : (bytes line).take c = (bytes line).take p ++ word ++ blanks := by
    have hsplit := List.take_append_drop p ((bytes line).take c)
    rw [List.take_take, Nat.min_eq_left h.le, hrun] at hsplit
    rw [← hsplit, List.append_assoc]
  have hplace : ((bytes line).take p ++ word).length ≤ c := by
    have hsum := congrArg List.length htake
    rw [List.length_take, Nat.min_eq_left hlength, List.length_append] at hsum
    omega
  have hedge : ∀ b ∈ ((bytes line).take p).getLast?, isBlankByte b = true := by
    intro b hb
    rw [List.getLast?_take] at hb
    split at hb
    · cases hb
    · next hp =>
        obtain ⟨d, hd, hblank⟩ := h.edge.resolve_left hp
        rw [hd] at hb
        obtain rfl : d = b := by simpa using hb
        exact hblank
  have hfirst : ∀ b ∈ ((bytes line).take p ++ word).getLast?, isBlankByte b = false := by
    intro b hb
    rw [List.getLast?_append] at hb
    cases hlast : word.getLast? with
    | none =>
        rw [hended (List.getLast?_eq_none_iff.1 hlast)] at hb
        simp [hlast] at hb
    | some d =>
        rw [hlast] at hb
        obtain rfl : d = b := by simpa using hb
        exact hword d (List.mem_of_getLast? hlast)
  rw [Guarded.stepBack_run hlength htake hblanks hfirst, Option.bind_some]
  have hagain : (bytes line).take ((bytes line).take p ++ word).length =
      (bytes line).take p ++ word := by
    have hsplit := congrArg (List.take ((bytes line).take p ++ word).length) htake
    rwa [List.take_take, Nat.min_eq_left hplace, List.take_left] at hsplit
  rw [Guarded.stepBack_run (Nat.le_trans hplace hlength) hagain (by simpa using hword)
    (by simpa using hedge), List.length_take, Nat.min_eq_left (Nat.le_trans h.le hlength)]

/-- Where a jump to the right lands is where going on over blank bytes and then over others ends. -/
theorem LandsRight.stepOn_eq {c e : Nat} (h : LandsRight line c e) (he : e ≤ line.size) :
    (Guarded.stepOn (bytes line) isBlankByte c).bind
      (Guarded.stepOn (bytes line) (!isBlankByte ·)) = some e := by
  obtain ⟨blanks, word, hrun, hblanks, hword, hended⟩ := h.run
  have hlength : e ≤ (bytes line).length := by rwa [Guarded.length_bytes]
  have htaken : ((bytes line).take e).length = e := by
    rw [List.length_take, Nat.min_eq_left hlength]
  have hplace : c + blanks.length + word.length = e := by
    have hsum := congrArg List.length hrun
    rw [List.length_drop, htaken, List.length_append] at hsum
    have hle := h.le
    omega
  have hdrop : (bytes line).drop c = blanks ++ (word ++ (bytes line).drop e) := by
    have hsplit := congrArg (List.drop c) (List.take_append_drop e (bytes line))
    rw [List.drop_append_of_le_length (by rw [htaken]; exact h.le), hrun,
      List.append_assoc] at hsplit
    exact hsplit.symm
  have hedge : ∀ b ∈ ((bytes line).drop e).head?, isBlankByte b = true := by
    intro b hb
    rw [List.head?_drop] at hb
    rcases h.edge with rfl | ⟨d, hd, hblank⟩
    · rw [List.getElem?_eq_none (Nat.le_of_eq (Guarded.length_bytes line))] at hb
      cases hb
    · rw [hd] at hb
      obtain rfl : d = b := by simpa using hb
      exact hblank
  have hfirst : ∀ b ∈ (word ++ (bytes line).drop e).head?, isBlankByte b = false := by
    intro b hb
    cases word with
    | nil =>
        rw [hended rfl, List.nil_append,
          List.drop_eq_nil_of_le (Nat.le_of_eq (Guarded.length_bytes line))] at hb
        cases hb
    | cons d word =>
        obtain rfl : d = b := by simpa using hb
        exact hword d (List.mem_cons_self ..)
  rw [Guarded.stepOn_run (Nat.le_trans h.le hlength) hdrop hblanks hfirst, Option.bind_some]
  have hagain : (bytes line).drop (c + blanks.length) = word ++ (bytes line).drop e := by
    rw [← List.drop_drop, hdrop, List.drop_left]
  rw [Guarded.stepOn_run (by omega) hagain (by simpa using hword) (by simpa using hedge), hplace]

end TextEditor.Text

namespace TextEditor.Guarded

/-- Going byte by byte, from any byte, ends where a jump to the left does. -/
theorem previousWordStart_eq (line : Text) (n : Nat) :
    previousWordStart line n = some (line.previousWordStart n) := by
  have hlands := line.previousWordStart_lands n
  rw [previousWordStart, length_bytes]
  exact hlands.stepBack_eq (Nat.min_le_right _ _)

/-- Going byte by byte, from any byte, ends where a jump to the right does. -/
theorem nextWordEnd_eq (line : Text) (n : Nat) :
    nextWordEnd line n = some (line.nextWordEnd n) := by
  have hlands := line.nextWordEnd_lands n
  rw [nextWordEnd, length_bytes]
  exact hlands.stepOn_eq (Text.le_size_of_isBoundary hlands.boundary)

end TextEditor.Guarded

/-- Where jumps over words land, from any byte of a line, also from one inside a character or behind
the end. Both land between two characters, and further on than they began, unless they began at
the end that they go towards. To the left a jump goes over a word and then blanks, read from left
to right, and lands at the start of the line or behind a blank; to the right it goes over blanks
and then a word, and lands at the end of the line or before a blank. Going over the bytes one by
one ends at the same places. -/
theorem TextEditor.Text.word_jumps_land (line : Text) (n : Nat) :
    (line.LandsLeft (min n line.size) (line.previousWordStart n) ∧
      Guarded.previousWordStart line n = some (line.previousWordStart n)) ∧
    line.LandsRight (min n line.size) (line.nextWordEnd n) ∧
      Guarded.nextWordEnd line n = some (line.nextWordEnd n) :=
  ⟨⟨line.previousWordStart_lands n, Guarded.previousWordStart_eq line n⟩,
    line.nextWordEnd_lands n, Guarded.nextWordEnd_eq line n⟩
