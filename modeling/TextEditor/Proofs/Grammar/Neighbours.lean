import Mathlib.Order.CompletePartialOrder
import Mathlib.Order.Interval.Set.Disjoint
import TextEditor.Grammar.Claims
import TextEditor.Proofs.Pattern.Pieces

/-!
# Looking at one neighbour

Whether a candidate touches a claimed token is decided by looking at one token only, the last that
starts before the end of the candidate. This is enough because the tokens are not empty and come one
after the other: all that start before that one end before it starts, and all others start behind
the candidate. A candidate that touches none has one place among the tokens, and put there it keeps
them in order. Nothing is asked of the spans that are offered.

Main statements: `InOrder.admits_iff` and `InOrder.exists_insert` for one candidate, `perm_claimAll`
and `InOrder.claimAll` for any number of them, and `claim_apart_from_all`.
-/

namespace TextEditor

namespace Span

variable {s t : Span}

/-- The bytes that a span holds. -/
def bytes (span : Span) : Set Nat := Set.Ico span.start span.stop

/-- A span holds a byte just when it ends behind its start. -/
theorem nonempty_bytes_iff : s.bytes.Nonempty ↔ s.start < s.stop := Set.nonempty_Ico

/-- Spans that are not empty are apart if they share no byte. -/
theorem disjoint_bytes_iff (hs : s.start < s.stop) (ht : t.start < t.stop) :
    Disjoint s.bytes t.bytes ↔ s.Apart t := by
  rw [bytes, bytes, Set.Ico_disjoint_Ico, Apart]
  omega

end Span

namespace Claims

variable {token : Token} {tokens : List Token} {claims : Claims} {candidate : Candidate}
  {offered : List Candidate}

/-- Tokens are not empty and come one after the other. -/
structure InOrder (tokens : List Token) : Prop where
  start_lt_stop : ∀ token ∈ tokens, token.span.start < token.span.stop
  ordered : tokens.Pairwise fun a b => a.span.Precedes b.span

/-- No tokens are in order. -/
theorem inOrder_nil : InOrder [] := ⟨nofun, .nil⟩

/-- Tokens are in order if the first is not empty and ends before the others, which are in order. -/
theorem inOrder_cons_iff {first : Token} : InOrder (first :: tokens) ↔
    first.span.start < first.span.stop ∧ (∀ token ∈ tokens, first.span.Precedes token.span) ∧
      InOrder tokens := by
  constructor
  · rintro ⟨hpieces, hordered⟩
    obtain ⟨hfirst, hpieces⟩ := List.forall_mem_cons.1 hpieces
    obtain ⟨hprecedes, hordered⟩ := List.pairwise_cons.1 hordered
    exact ⟨hfirst, hprecedes, hpieces, hordered⟩
  · rintro ⟨hfirst, hprecedes, hpieces, hordered⟩
    exact ⟨List.forall_mem_cons.2 ⟨hfirst, hpieces⟩, List.pairwise_cons.2 ⟨hprecedes, hordered⟩⟩

/-! ## Admission -/

/-- If the last of some ordered tokens that start before byte `n` ends at or before byte `m`, then
so do all of them. -/
theorem InOrder.stop_le_of_lastBefore {m n : Nat} (h : InOrder tokens)
    (hlast : ((tokens.takeWhile (·.span.start < n)).getLast?).all (·.span.stop ≤ m) = true) :
    ∀ token ∈ tokens, token.span.start < n → token.span.stop ≤ m := by
  induction tokens with
  | nil => exact fun _ h => absurd h List.not_mem_nil
  | cons first tokens ih =>
      obtain ⟨-, hfirst, htail⟩ := inOrder_cons_iff.1 h
      intro token hmem hlt
      by_cases hn : first.span.start < n
      · rw [List.takeWhile_cons_of_pos (by simpa using hn), List.getLast?_cons] at hlast
        cases hrest : (tokens.takeWhile (·.span.start < n)).getLast? with
        | none =>
            -- nothing else starts before byte `n`, so the token is the first one
            rw [hrest] at hlast
            have hstop : first.span.stop ≤ m := by simpa using hlast
            rcases List.mem_cons.1 hmem with rfl | hmem
            · exact hstop
            · exact ih htail (by rw [hrest]; rfl) token hmem hlt
        | some last =>
            rw [hrest] at hlast
            have hstop : last.span.stop ≤ m := by simpa using hlast
            have hin : last ∈ tokens := List.takeWhile_subset _ (List.mem_of_getLast? hrest)
            rcases List.mem_cons.1 hmem with rfl | hmem
            · have hprecedes : token.span.stop ≤ last.span.start := hfirst last hin
              have := htail.start_lt_stop last hin
              omega
            · exact ih htail (by rw [hrest]; simpa using hstop) token hmem hlt
      · rcases List.mem_cons.1 hmem with rfl | hmem
        · exact absurd hlt hn
        · have hstart := h.start_lt_stop first (List.mem_cons_self ..)
          have hprecedes : first.span.stop ≤ token.span.start := hfirst token hmem
          omega

/-- A span is admitted exactly if it is not empty and apart from all tokens. -/
theorem InOrder.admits_iff (h : InOrder claims.tokens) (span : Span) :
    claims.admits span = true ↔
      span.start < span.stop ∧ ∀ token ∈ claims.tokens, token.span.Apart span := by
  unfold admits lastBefore?
  rw [Bool.and_eq_true, Bool.not_eq_true', Span.isEmpty_eq_false_iff]
  refine and_congr_right fun hlt => ⟨fun hlast token hmem => ?_, fun hapart => ?_⟩
  · by_cases hstart : token.span.start < span.stop
    · exact .inl (h.stop_le_of_lastBefore hlast token hmem hstart)
    · exact .inr (Nat.le_of_not_lt hstart)
  · cases hfound : (claims.tokens.takeWhile (·.span.start < span.stop)).getLast? with
    | none => rfl
    | some last =>
        have hmem := List.mem_of_getLast? hfound
        have hstart : last.span.start < span.stop := by
          simpa using List.all_eq_true.1 List.all_takeWhile last hmem
        rcases hapart last (List.takeWhile_subset _ hmem) with hstop | hstop
        · simpa using hstop
        · omega

/-! ## Insertion -/

/-- A token that is apart from all others is put between those before it and those behind it, and
takes the place of none. -/
theorem InOrder.exists_insert (h : InOrder tokens) (htoken : token.span.start < token.span.stop)
    (hapart : ∀ other ∈ tokens, other.span.Apart token.span) :
    ∃ front rest, tokens = front ++ rest ∧ insert token tokens = front ++ token :: rest ∧
      (∀ other ∈ front, other.span.Precedes token.span) ∧
      ∀ other ∈ rest, token.span.Precedes other.span := by
  induction tokens with
  | nil => exact ⟨[], [], rfl, rfl, nofun, nofun⟩
  | cons first tokens ih =>
      obtain ⟨hfirst, hprecedes, htail⟩ := inOrder_cons_iff.1 h
      obtain ⟨hfirst_apart, htail_apart⟩ := List.forall_mem_cons.1 hapart
      unfold insert
      split
      · next hlt =>
          obtain ⟨front, rest, rfl, hinsert, hfront, hrest⟩ := ih htail htail_apart
          refine ⟨first :: front, rest, rfl, by rw [hinsert, List.cons_append], ?_, hrest⟩
          exact List.forall_mem_cons.2 ⟨hfirst_apart.precedes htoken (Nat.le_of_lt hlt), hfront⟩
      · next hge =>
          have hbefore : token.span.stop ≤ first.span.start :=
            hfirst_apart.symm.precedes hfirst (Nat.le_of_not_lt hge)
          rw [if_neg (by omega)]
          refine ⟨[], first :: tokens, rfl, rfl, nofun, ?_⟩
          refine List.forall_mem_cons.2 ⟨hbefore, fun other hmem => ?_⟩
          have hnext : first.span.stop ≤ other.span.start := hprecedes other hmem
          show token.span.stop ≤ other.span.start
          omega

/-- A token that touches none of those in order is put in at its place. -/
theorem InOrder.insert (h : InOrder tokens) (htoken : token.span.start < token.span.stop)
    (hapart : ∀ other ∈ tokens, other.span.Apart token.span) : InOrder (insert token tokens) := by
  obtain ⟨front, rest, rfl, hinsert, hfront, hrest⟩ := h.exists_insert htoken hapart
  obtain ⟨hordered_front, hordered_rest, hacross⟩ := List.pairwise_append.1 h.ordered
  rw [hinsert]
  constructor
  · intro other hmem
    rcases List.mem_append.1 hmem with hmem | hmem
    · exact h.start_lt_stop other (List.mem_append_left _ hmem)
    · rcases List.mem_cons.1 hmem with rfl | hmem
      · exact htoken
      · exact h.start_lt_stop other (List.mem_append_right _ hmem)
  · refine List.pairwise_append.2 ⟨hordered_front, List.pairwise_cons.2 ⟨hrest, hordered_rest⟩, ?_⟩
    intro other hother next hnext
    rcases List.mem_cons.1 hnext with rfl | hnext
    · exact hfront other hother
    · exact hacross other hother next hnext

/-! ## Claiming one candidate -/

/-- A claim that is admitted adds its token. -/
theorem claim_of_admits (h : claims.admits candidate.span = true) :
    claims.claim candidate = (true, { claims with
      tokens := insert ⟨candidate.kind, candidate.span, claims.language⟩ claims.tokens }) :=
  if_pos h

/-- A claim that is not admitted changes nothing. -/
theorem claim_of_not_admits (h : ¬ claims.admits candidate.span = true) :
    claims.claim candidate = (false, claims) := if_neg h

/-- A claim tells whether it has been admitted. -/
theorem fst_claim (claims : Claims) (candidate : Candidate) :
    (claims.claim candidate).1 = claims.admits candidate.span := by
  unfold claim
  split
  · next h => exact h.symm
  · next h => exact (Bool.eq_false_iff.2 h).symm

/-- A claim leaves the language of the tokens. -/
theorem claim_language (claims : Claims) (candidate : Candidate) :
    (claims.claim candidate).2.language = claims.language := by
  unfold claim
  split <;> rfl

/-- An accepted candidate becomes a token between those that are there. -/
theorem InOrder.exists_claim (h : InOrder claims.tokens)
    (hadmits : claims.admits candidate.span = true) :
    ∃ front rest, claims.tokens = front ++ rest ∧ (claims.claim candidate).2.tokens =
      front ++ ⟨candidate.kind, candidate.span, claims.language⟩ :: rest := by
  obtain ⟨hlt, hapart⟩ := (h.admits_iff candidate.span).1 hadmits
  have htoken : (⟨candidate.kind, candidate.span, claims.language⟩ : Token).span.start <
      candidate.span.stop := hlt
  obtain ⟨front, rest, htokens, hinsert, -, -⟩ := h.exists_insert htoken hapart
  rw [claim_of_admits hadmits]
  exact ⟨front, rest, htokens, hinsert⟩

/-- Claiming a candidate adds its token if it is admitted, and takes none away. -/
theorem InOrder.mem_claim_iff (h : InOrder claims.tokens) :
    token ∈ (claims.claim candidate).2.tokens ↔ token ∈ claims.tokens ∨
      claims.admits candidate.span = true ∧
        token = ⟨candidate.kind, candidate.span, claims.language⟩ := by
  by_cases hadmits : claims.admits candidate.span = true
  · obtain ⟨front, rest, htokens, hclaim⟩ := h.exists_claim hadmits
    rw [hclaim, htokens, and_iff_right hadmits, List.mem_append, List.mem_append, List.mem_cons]
    exact or_left_comm.trans or_comm
  · rw [claim_of_not_admits hadmits]
    exact (or_iff_left fun hnew => hadmits hnew.1).symm

/-- Tokens stay in order whatever is claimed. -/
theorem InOrder.claim (h : InOrder claims.tokens) (candidate : Candidate) :
    InOrder (claims.claim candidate).2.tokens := by
  by_cases hadmits : claims.admits candidate.span = true
  · obtain ⟨hlt, hapart⟩ := (h.admits_iff candidate.span).1 hadmits
    rw [claim_of_admits hadmits]
    exact h.insert hlt hapart
  · rw [claim_of_not_admits hadmits]
    exact h

/-! ## Claiming one candidate after the other -/

/-- The candidates that are accepted when they are offered in order. -/
def accepted (claims : Claims) : List Candidate → List Candidate
  | [] => []
  | candidate :: offered =>
      let (isAccepted, next) := claims.claim candidate
      if isAccepted then candidate :: next.accepted offered else next.accepted offered

example : ((empty .plainText).accepted
    [⟨.string, ⟨4, 8⟩⟩, ⟨.comment, ⟨12, 20⟩⟩, ⟨.number, ⟨7, 10⟩⟩, ⟨.number, ⟨0, 30⟩⟩,
      ⟨.number, ⟨3, 3⟩⟩, ⟨.number, ⟨8, 12⟩⟩]).map (·.span) = [⟨4, 8⟩, ⟨12, 20⟩, ⟨8, 12⟩] := by
  decide

/-- Of several claims the first is made first. -/
theorem claimAll_cons (claims : Claims) (candidate : Candidate) (offered : List Candidate) :
    claims.claimAll (candidate :: offered) = (claims.claim candidate).2.claimAll offered := rfl

/-- Claims leave the language of the tokens, however many there are. -/
theorem claimAll_language (claims : Claims) (candidates : List Candidate) :
    (claims.claimAll candidates).language = claims.language := by
  unfold claimAll
  refine List.foldlRecOn candidates _
    (motive := fun claims' : Claims => claims'.language = claims.language) rfl ?_
  intro claims' h candidate _
  rw [claim_language, h]

/-- Tokens stay in order whatever is claimed, however much it is. -/
theorem InOrder.claimAll (h : InOrder claims.tokens) (offered : List Candidate) :
    InOrder (claims.claimAll offered).tokens := by
  unfold Claims.claimAll
  refine List.foldlRecOn offered _ (motive := fun claims' : Claims => InOrder claims'.tokens) h ?_
  intro claims' h' candidate _
  exact h'.claim candidate

/-- The tokens are those that were there and those of the accepted candidates, no more and no
fewer. -/
theorem perm_claimAll (h : InOrder claims.tokens) (offered : List Candidate) :
    (claims.claimAll offered).tokens.Perm (claims.tokens ++
      (claims.accepted offered).map fun candidate =>
        ⟨candidate.kind, candidate.span, claims.language⟩) := by
  induction offered generalizing claims with
  | nil => simp [Claims.claimAll, accepted]
  | cons candidate offered ih =>
      have hnext := ih (h.claim candidate)
      rw [claim_language] at hnext
      rw [claimAll_cons]
      refine hnext.trans ?_
      simp only [accepted, fst_claim]
      by_cases hadmits : claims.admits candidate.span = true
      · obtain ⟨front, rest, htokens, hclaim⟩ := h.exists_claim hadmits
        rw [if_pos hadmits, hclaim, htokens, List.map_cons]
        -- the new token moves from its place behind all those that were there
        refine List.Perm.trans ?_ List.perm_middle.symm
        rw [List.append_assoc, List.cons_append, List.append_assoc]
        exact List.perm_middle
      · rw [if_neg hadmits, claim_of_not_admits hadmits]

/-- Tokens that are not empty, share no byte with one another, and start and end further and further
right. -/
structure Tidy (tokens : List Token) : Prop where
  nonempty : ∀ token ∈ tokens, token.span.bytes.Nonempty
  disjoint : tokens.Pairwise fun a b => Disjoint a.span.bytes b.span.bytes
  starts : tokens.Pairwise fun a b => a.span.start < b.span.start
  stops : tokens.Pairwise fun a b => a.span.stop < b.span.stop

/-- Tokens in order are not empty, share no byte, and have their starts and ends in order. -/
theorem InOrder.tidy (h : InOrder tokens) : Tidy tokens where
  nonempty := fun token hmem => Span.nonempty_bytes_iff.2 (h.start_lt_stop token hmem)
  disjoint := h.ordered.imp_of_mem fun ha hb hab =>
    (Span.disjoint_bytes_iff (h.start_lt_stop _ ha) (h.start_lt_stop _ hb)).2 hab.apart
  starts := h.ordered.imp_of_mem fun ha _ hab => Nat.lt_of_lt_of_le (h.start_lt_stop _ ha) hab
  stops := h.ordered.imp_of_mem fun _ hb hab => Nat.lt_of_le_of_lt hab (h.start_lt_stop _ hb)

/-- What becomes of a candidate after any candidates have been offered before it, whatever their
spans. The tokens claimed before are those of the candidates accepted before. The candidate is
accepted exactly if it is not empty and shares no byte with any of them. If it is, its token stands
among them, and all of them are still there; if it is not, nothing has changed. And the tokens are
then not empty, share no byte, and have ascending starts and ends. -/
theorem claim_apart_from_all (language : Language) (offered : List Candidate)
    (candidate : Candidate) :
    let claims := (empty language).claimAll offered
    let token : Candidate → Token := fun candidate => ⟨candidate.kind, candidate.span, language⟩
    claims.tokens.Perm (((empty language).accepted offered).map token) ∧
      Tidy claims.tokens ∧ Tidy (claims.claim candidate).2.tokens ∧
      ((claims.claim candidate).1 = true ↔ candidate.span.bytes.Nonempty ∧
        ∀ other ∈ claims.tokens, Disjoint other.span.bytes candidate.span.bytes) ∧
      ((claims.claim candidate).1 = true → ∃ front rest, claims.tokens = front ++ rest ∧
        (claims.claim candidate).2.tokens = front ++ token candidate :: rest) ∧
      ((claims.claim candidate).1 = false → (claims.claim candidate).2 = claims) := by
  intro claims token
  have hlanguage : claims.language = language := claimAll_language (empty language) offered
  have h : InOrder claims.tokens := InOrder.claimAll inOrder_nil offered
  refine ⟨perm_claimAll inOrder_nil offered, h.tidy, (h.claim candidate).tidy, ?_, ?_, ?_⟩
  · rw [fst_claim, h.admits_iff, Span.nonempty_bytes_iff]
    refine and_congr_right fun hlt => forall₂_congr fun other hmem => ?_
    exact (Span.disjoint_bytes_iff (h.start_lt_stop other hmem) hlt).symm
  · intro haccepted
    rw [fst_claim] at haccepted
    obtain ⟨front, rest, htokens, hclaim⟩ := h.exists_claim haccepted
    rw [hlanguage] at hclaim
    exact ⟨front, rest, htokens, hclaim⟩
  · intro hrejected
    rw [fst_claim] at hrejected
    rw [claim_of_not_admits (Bool.eq_false_iff.1 hrejected)]

end Claims

end TextEditor
