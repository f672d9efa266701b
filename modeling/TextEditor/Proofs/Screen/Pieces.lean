import TextEditor.Proofs.Pattern.Pieces
import TextEditor.Screen.Segments

/-!
# The pieces of a line on the screen

The pieces that a line is painted in follow one another from its start to its end and cut no
character, whatever the tokens are: a token that lies somewhere else is cut to what is left of the
line or passed over. If the tokens are in order, a piece has a token exactly where the token stands.

Main statements: `cover_piecesFrom`, `token_eq_some_iff` and `edge_of_mem_piecesFrom`.
-/

namespace TextEditor

variable {line : Text} {tokens : List Token} {n : Nat}

/-- Pieces follow one another from byte `n` to the end of a line. -/
def Piece.Cover (line : Text) : Nat → List Piece → Prop
  | n, [] => n = line.size
  | n, piece :: pieces =>
      piece.span.start = n ∧ piece.span.Piece line ∧ Cover line piece.span.stop pieces

namespace Piece

/-- Each piece of a cover is one of the line, and none begins before the cover does. -/
theorem Cover.of_mem {pieces : List Piece} (h : Cover line n pieces) {piece : Piece}
    (hmem : piece ∈ pieces) : piece.span.Piece line ∧ n ≤ piece.span.start := by
  induction pieces generalizing n with
  | nil => exact absurd hmem List.not_mem_nil
  | cons first pieces ih =>
      obtain ⟨rfl, hfirst, hrest⟩ := h
      rcases List.mem_cons.1 hmem with rfl | hmem
      · exact ⟨hfirst, Nat.le_refl _⟩
      · obtain ⟨hpiece, hle⟩ := ih hrest hmem
        exact ⟨hpiece, Nat.le_trans (Nat.le_of_lt hfirst.start_lt_stop) hle⟩

/-- Every byte from the first piece on stands in one of the pieces. -/
theorem Cover.exists_mem {pieces : List Piece} (h : Cover line n pieces) {m : Nat} (hle : n ≤ m)
    (hlt : m < line.size) : ∃ piece ∈ pieces, piece.span.start ≤ m ∧ m < piece.span.stop := by
  induction pieces generalizing n with
  | nil =>
      obtain rfl : n = line.size := h
      omega
  | cons first pieces ih =>
      obtain ⟨rfl, -, hrest⟩ := h
      by_cases hfirst : m < first.span.stop
      · exact ⟨first, List.mem_cons_self .., hle, hfirst⟩
      · obtain ⟨piece, hmem, hpiece⟩ := ih hrest (Nat.le_of_not_lt hfirst)
        exact ⟨piece, List.mem_cons_of_mem _ hmem, hpiece⟩

end Piece

/-- The span from one boundary to a later one is a piece of the line. -/
theorem Span.piece_of_lt {start stop : Nat} (hstart : line.isBoundary start = true)
    (hstop : line.isBoundary stop = true) (hlt : start < stop) : Span.Piece ⟨start, stop⟩ line :=
  Cuts.piece ⟨Nat.le_of_lt hlt, hstart, hstop⟩ hlt

/-- The pieces from a boundary on cover the rest of the line, whatever the tokens are. -/
theorem cover_piecesFrom (hn : line.isBoundary n = true) (tokens : List Token) :
    Piece.Cover line n (piecesFrom line n tokens) := by
  induction tokens generalizing n with
  | nil =>
      unfold piecesFrom
      split
      · next hlt => exact ⟨rfl, Span.piece_of_lt hn (Text.isBoundary_size line) hlt, rfl⟩
      · next hge => exact Nat.le_antisymm (Text.le_size_of_isBoundary hn) (Nat.le_of_not_lt hge)
  | cons token tokens ih =>
      unfold piecesFrom
      simp only
      split
      · next hguard =>
          simp only [Bool.and_eq_true, decide_eq_true_eq] at hguard
          obtain ⟨⟨hlt, hstart⟩, hstop⟩ := hguard
          have hpiece := Span.piece_of_lt hstart hstop hlt
          split
          · next hgap =>
              exact ⟨rfl, Span.piece_of_lt hn hstart hgap, rfl, hpiece, ih hstop⟩
          · next hgap =>
              have hle : n ≤ max token.span.start n := Nat.le_max_right _ _
              exact ⟨Nat.le_antisymm (Nat.le_of_not_lt hgap) hle, hpiece, ih hstop⟩
      · exact ih hn

/-! ## Tokens in order -/

/-- A span holds a byte. -/
def Span.Holds (span : Span) (n : Nat) : Prop := span.start ≤ n ∧ n < span.stop

/-- Tokens are inside a line and cut no character, are sorted by start and share no byte. -/
structure Token.Ordered (tokens : List Token) (line : Text) : Prop where
  cuts : ∀ token ∈ tokens, token.span.Cuts line
  sorted : tokens.Pairwise fun a b => a.span.start ≤ b.span.start
  disjoint : tokens.Pairwise fun a b => ∀ n, ¬ (a.span.Holds n ∧ b.span.Holds n)

namespace Token.Ordered

variable {token : Token}

/-- No tokens are in order. -/
theorem nil (line : Text) : Ordered [] line := ⟨by simp, .nil, .nil⟩

/-- One token is in order if it is a piece of the line. -/
theorem singleton (h : token.span.Cuts line) : Ordered [token] line :=
  ⟨by simpa using h, List.pairwise_singleton .., List.pairwise_singleton ..⟩

/-- Without the first one, tokens in order are in order. -/
theorem tail (h : Ordered (token :: tokens) line) : Ordered tokens line where
  cuts := fun other hmem => h.cuts other (List.mem_cons_of_mem _ hmem)
  sorted := (List.pairwise_cons.1 h.sorted).2
  disjoint := (List.pairwise_cons.1 h.disjoint).2

/-- A token that holds a byte stands behind the first one. -/
theorem stop_le_start (h : Ordered (token :: tokens) line) {other : Token} (hmem : other ∈ tokens)
    (hother : other.span.start < other.span.stop) :
    token.span.stop ≤ other.span.start := by
  have hsorted := (List.pairwise_cons.1 h.sorted).1 other hmem
  have hdisjoint := (List.pairwise_cons.1 h.disjoint).1 other hmem
  refine Nat.le_of_not_lt fun hlt => ?_
  exact hdisjoint other.span.start ⟨⟨hsorted, hlt⟩, Nat.le_refl _, hother⟩

end Token.Ordered

/-- The pieces from byte `n` on, of tokens in order that hold no byte before: the first token that
holds a byte follows the gap before it. -/
theorem piecesFrom_cons_of_lt {token : Token} (h : Token.Ordered (token :: tokens) line)
    (hn : n ≤ token.span.start) (hlt : token.span.start < token.span.stop) :
    piecesFrom line n (token :: tokens) =
      (if n < token.span.start then [⟨⟨n, token.span.start⟩, none⟩] else []) ++
        ⟨token.span, some token⟩ :: piecesFrom line token.span.stop tokens := by
  have hcuts := h.cuts token (List.mem_cons_self ..)
  have hstop := Nat.min_eq_left (Text.le_size_of_isBoundary hcuts.stop_boundary)
  rw [piecesFrom, Nat.max_eq_left hn, hstop, hcuts.start_boundary, hcuts.stop_boundary]
  simp [hlt]

/-- A token that holds no byte is passed over. -/
theorem piecesFrom_cons_of_le {token : Token} (hle : token.span.stop ≤ token.span.start) :
    piecesFrom line n (token :: tokens) = piecesFrom line n tokens := by
  have hnot : ¬ max token.span.start n < min token.span.stop line.size := by omega
  simp [piecesFrom, hnot]

/-- Of tokens that hold a byte, one that does not can be left out. -/
theorem mem_cons_and_holds_iff {first token : Token} {m : Nat} (h : ¬ first.span.Holds m) :
    token ∈ first :: tokens ∧ token.span.Holds m ↔ token ∈ tokens ∧ token.span.Holds m := by
  rw [List.mem_cons]
  refine and_congr_left fun hholds => ⟨fun hmem => hmem.resolve_left ?_, .inr⟩
  rintro rfl
  exact h hholds

/-- A piece has the token that holds its bytes, and none if no token does. -/
theorem token_eq_some_iff (h : Token.Ordered tokens line) (hn : line.isBoundary n = true)
    (hfrom : ∀ token ∈ tokens, token.span.start < token.span.stop → n ≤ token.span.start)
    {piece : Piece} (hpiece : piece ∈ piecesFrom line n tokens) {m : Nat}
    (hm : piece.span.Holds m) {token : Token} :
    piece.token = some token ↔ token ∈ tokens ∧ token.span.Holds m := by
  induction tokens generalizing n with
  | nil =>
      unfold piecesFrom at hpiece
      split at hpiece
      · obtain rfl := List.mem_singleton.1 hpiece
        simp
      · exact absurd hpiece List.not_mem_nil
  | cons first tokens ih =>
      have hsorted := (List.pairwise_cons.1 h.sorted).1
      by_cases hlt : first.span.start < first.span.stop
      · have hstop := (h.cuts first (List.mem_cons_self ..)).stop_boundary
        rw [piecesFrom_cons_of_lt h (hfrom first (List.mem_cons_self ..) hlt) hlt] at hpiece
        rcases List.mem_append.1 hpiece with hgap | hpiece
        · -- the gap before the first token, with all tokens behind it
          split at hgap
          · obtain rfl := List.mem_singleton.1 hgap
            have hbefore : m < first.span.start := hm.2
            refine ⟨fun hnone => (by cases hnone), fun ⟨hmem, hholds⟩ => ?_⟩
            have hle : first.span.start ≤ token.span.start := by
              rcases List.mem_cons.1 hmem with rfl | hmem
              · exact Nat.le_refl _
              · exact hsorted token hmem
            have := hholds.1
            omega
          · exact absurd hgap List.not_mem_nil
        · rcases List.mem_cons.1 hpiece with rfl | hpiece
          · -- the first token itself
            refine ⟨fun hsome => ?_, fun ⟨hmem, hholds⟩ => ?_⟩
            · obtain rfl := Option.some.inj hsome
              exact ⟨List.mem_cons_self .., hm⟩
            · rcases List.mem_cons.1 hmem with rfl | hmem
              · rfl
              · exact absurd ⟨hm, hholds⟩ ((List.pairwise_cons.1 h.disjoint).1 token hmem m)
          · -- behind the first token
            have hcover := cover_piecesFrom hstop tokens
            have hbehind := Nat.le_trans (hcover.of_mem hpiece).2 hm.1
            have hfirst : ¬ first.span.Holds m := fun hholds => Nat.not_le_of_lt hholds.2 hbehind
            rw [mem_cons_and_holds_iff hfirst]
            exact ih h.tail hstop (fun other hmem => h.stop_le_start hmem) hpiece
      · have hfirst : ¬ first.span.Holds m :=
          fun hholds => hlt (Nat.lt_of_le_of_lt hholds.1 hholds.2)
        rw [piecesFrom_cons_of_le (Nat.le_of_not_lt hlt)] at hpiece
        rw [mem_cons_and_holds_iff hfirst]
        exact ih h.tail hn (fun other hmem => hfrom other (List.mem_cons_of_mem _ hmem)) hpiece

/-- The token of all bytes of a span, or none if no token holds any of them. -/
def Span.HasToken (span : Span) (tokens : List Token) (found : Option Token) : Prop :=
  ∀ n, span.Holds n → ∀ token, found = some token ↔ token ∈ tokens ∧ token.span.Holds n

/-- Inside a piece of a line all bytes have the token of the piece. -/
theorem Token.Ordered.hasToken (h : Token.Ordered tokens line) {piece : Piece}
    (hpiece : piece ∈ piecesFrom line 0 tokens) {span : Span}
    (hstart : piece.span.start ≤ span.start) (hstop : span.stop ≤ piece.span.stop) :
    span.HasToken tokens piece.token := by
  intro n hholds token
  have hinside : piece.span.Holds n :=
    ⟨Nat.le_trans hstart hholds.1, Nat.lt_of_lt_of_le hholds.2 hstop⟩
  exact token_eq_some_iff h (Text.isBoundary_zero line) (fun _ _ _ => Nat.zero_le _) hpiece hinside

/-- A piece ends with the line, or where a token that holds a byte begins or ends. -/
theorem edge_of_mem_piecesFrom {piece : Piece} (hpiece : piece ∈ piecesFrom line n tokens) :
    piece.span.stop = line.size ∨ ∃ token ∈ tokens, token.span.start < token.span.stop ∧
      (piece.span.stop = token.span.start ∨ piece.span.stop = token.span.stop) := by
  induction tokens generalizing n with
  | nil =>
      unfold piecesFrom at hpiece
      split at hpiece
      · obtain rfl := List.mem_singleton.1 hpiece
        exact .inl rfl
      · exact absurd hpiece List.not_mem_nil
  | cons first tokens ih =>
      have hlater {n : Nat} (hpiece : piece ∈ piecesFrom line n tokens) :=
        (ih hpiece).imp_right fun ⟨token, hmem, hedge⟩ =>
          (⟨token, List.mem_cons_of_mem first hmem, hedge⟩ : ∃ token ∈ first :: tokens,
            token.span.start < token.span.stop ∧
              (piece.span.stop = token.span.start ∨ piece.span.stop = token.span.stop))
      unfold piecesFrom at hpiece
      simp only at hpiece
      split at hpiece
      · next hguard =>
          simp only [Bool.and_eq_true, decide_eq_true_eq] at hguard
          obtain ⟨⟨hlt, -⟩, -⟩ := hguard
          rcases List.mem_append.1 hpiece with hgap | hpiece
          · split at hgap
            · next hgaplt =>
                obtain rfl := List.mem_singleton.1 hgap
                refine .inr ⟨first, List.mem_cons_self .., by omega, .inl ?_⟩
                show max first.span.start n = first.span.start
                omega
            · exact absurd hgap List.not_mem_nil
          · rcases List.mem_cons.1 hpiece with rfl | hpiece
            · by_cases hinside : first.span.stop ≤ line.size
              · refine .inr ⟨first, List.mem_cons_self .., by omega, .inr ?_⟩
                exact Nat.min_eq_left hinside
              · exact .inl (Nat.min_eq_right (Nat.le_of_not_le hinside))
            · exact hlater hpiece
      · exact hlater hpiece

/-- The piece of a byte reaches as far as no token begins or ends. -/
theorem Token.Ordered.le_stop_iff (h : Token.Ordered tokens line) {piece : Piece}
    (hpiece : piece ∈ piecesFrom line 0 tokens) {m : Nat} (hm : piece.span.Holds m)
    (hn : n ≤ line.size) :
    n ≤ piece.span.stop ↔
      ∀ token ∈ tokens, ∀ k, m ≤ k → k < n → (token.span.Holds k ↔ token.span.Holds m) := by
  have htoken {k : Nat} (hk : piece.span.Holds k) {token : Token} (hmem : token ∈ tokens) :
      piece.token = some token ↔ token.span.Holds k := by
    rw [token_eq_some_iff h (Text.isBoundary_zero line) (fun _ _ _ => Nat.zero_le _) hpiece hk,
      and_iff_right hmem]
  constructor
  · intro hle token hmem k hmk hkn
    have hk : piece.span.Holds k := ⟨Nat.le_trans hm.1 hmk, Nat.lt_of_lt_of_le hkn hle⟩
    rw [← htoken hk hmem, htoken hm hmem]
  · intro hall
    refine Nat.le_of_not_lt fun hlt => ?_
    have hbehind := hm.2
    rcases edge_of_mem_piecesFrom hpiece with hsize | ⟨token, hmem, hnonempty, hedge | hedge⟩
    · omega
    · -- the token begins behind the byte and holds the first byte behind the piece
      have hfirst := (hall token hmem piece.span.stop (by omega) hlt).1 ⟨by omega, by omega⟩
      have := hfirst.1
      omega
    · -- the token holds the last byte of the piece and not the next one
      have hlast := (hall token hmem (piece.span.stop - 1) (by omega) (by omega)).1
        ⟨by omega, by omega⟩
      have hnext := (hall token hmem piece.span.stop (by omega) hlt).2 hlast
      have := hnext.2
      omega

end TextEditor
