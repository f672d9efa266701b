import Mathlib.Data.List.Induction
import TextEditor.Proofs.Text.Clusters

/-!
# Where clusters end

Whether a character belongs to the cluster before it depends on all that stands before it. Mostly
its neighbour decides; but a consonant joins another one across a row of signs with a linker in it,
a pictograph joins another one across marks and a joiner, and a flag letter joins an odd number of
flag letters. `Text.Continues` states this of a text as a whole.

The walk that finds the clusters remembers nothing of the clusters behind it. This is enough, since
no cluster ends inside a row of signs, of marks, or between the two letters of a flag: where one
ends, `next` remembers no more than `start` does. So a text can be cut wherever a cluster ends, and
each part has the clusters that it has in the whole.

Main statements: `isClusterBoundary_iff`, `clusters_of_append`, from these `nextCluster_eq` and
`previousCluster_eq`, and `isCluster_iff`, which says by the rules alone what a cluster is.
-/

namespace TextEditor

open Unicode

variable {c : Char} {s t front begun : Text} {scan : ClusterScan}

/-! ## Classes of pictographs, consonants and linkers -/

namespace CharRanges

variable {a b ranges : CharRanges}

/-- Whether no code point lies in a range of both lists. -/
def apart (a b : CharRanges) : Bool :=
  a.all fun r => b.all fun s => Nat.blt r.2 s.1 || Nat.blt s.2 r.1

/-- A character of a list of ranges is in one of them. -/
theorem exists_of_has (h : ranges.has c = true) : ∃ r ∈ ranges, r.1 ≤ c.toNat ∧ c.toNat ≤ r.2 := by
  unfold has at h
  induction ranges with
  | nil => cases h
  | cons r ranges ih =>
      rw [mem] at h
      split at h
      · cases h
      · next hfirst =>
          split at h
          · next hlast => exact ⟨r, List.mem_cons_self, Nat.not_lt.1 hfirst, hlast⟩
          · obtain ⟨s, hs, hin⟩ := ih h
            exact ⟨s, List.mem_cons_of_mem r hs, hin⟩

/-- A character of a list of ranges is in no range of a list apart from it. -/
theorem not_between_of_apart (h : apart a b = true) (hc : a.has c = true) {r : Nat × Nat}
    (hr : r ∈ b) : ¬ (r.1 ≤ c.toNat ∧ c.toNat ≤ r.2) := by
  rintro ⟨hfirst, hlast⟩
  obtain ⟨s, hs, hsfirst, hslast⟩ := exists_of_has hc
  have hapart := List.all_eq_true.1 (List.all_eq_true.1 h s hs) r hr
  rw [Bool.or_eq_true, Nat.blt_eq, Nat.blt_eq] at hapart
  omega

end CharRanges

/-- The classes that no cluster goes on after, a line feed after a carriage return apart. -/
def EndsCluster (kind : ClusterClass) : Prop :=
  kind = .carriageReturn ∨ kind = .lineFeed ∨ kind = .control

/-- The code points that have one of these classes, and the joiner. -/
def endingRanges : CharRanges := [(0x0A, 0x0A), (0x0D, 0x0D), (0x200D, 0x200D)] ++ controlRanges

/-- A class that ends clusters, or that of the joiner, comes of a code point in the list. -/
theorem exists_of_endsCluster : EndsCluster (clusterClass c) ∨ clusterClass c = .joiner →
    ∃ r ∈ endingRanges, r.1 ≤ c.toNat ∧ c.toNat ≤ r.2 := by
  let listed (kind : ClusterClass) : Prop := EndsCluster kind ∨ kind = .joiner →
    ∃ r ∈ endingRanges, r.1 ≤ c.toNat ∧ c.toNat ≤ r.2
  have hsingle (n : Nat) (hn : (n, n) ∈ endingRanges) {kind : ClusterClass} (hc : c.toNat = n) :
      listed kind :=
    fun _ => ⟨(n, n), hn, Nat.le_of_eq hc.symm, Nat.le_of_eq hc⟩
  have hother {kind : ClusterClass} (hkind : ¬ (EndsCluster kind ∨ kind = .joiner)) :
      listed kind := fun h => absurd h hkind
  have hcontrol {kind : ClusterClass} (hc : controlRanges.has c = true) : listed kind := by
    obtain ⟨r, hr, hin⟩ := CharRanges.exists_of_has hc
    exact fun _ => ⟨r, List.mem_append_right _ hr, hin⟩
  show listed (clusterClass c)
  unfold clusterClass
  refine iteInduction (motive := listed) (hsingle 0x0D (by decide)) fun _ => ?_
  refine iteInduction (motive := listed) (hsingle 0x0A (by decide)) fun _ => ?_
  refine iteInduction (motive := listed) (fun _ => hother (by simp [EndsCluster])) fun _ => ?_
  refine iteInduction (motive := listed) (hsingle 0x200D (by decide)) fun _ => ?_
  refine iteInduction (motive := listed) (fun _ => hother (by simp [EndsCluster])) fun _ => ?_
  refine iteInduction (motive := listed) (fun _ => ?_) fun _ => ?_
  · refine iteInduction (motive := listed) (fun _ => ?_) fun _ => ?_
    all_goals exact hother (by simp [EndsCluster])
  refine iteInduction (motive := listed) (fun _ => hother (by simp [EndsCluster])) fun _ => ?_
  refine iteInduction (motive := listed) (fun _ => hother (by simp [EndsCluster])) fun _ => ?_
  refine iteInduction (motive := listed) hcontrol fun _ => ?_
  iterate 4
    refine iteInduction (motive := listed) (fun _ => hother (by simp [EndsCluster])) fun _ => ?_
  exact hother (by simp [EndsCluster])

/-- The characters of ranges apart from the ending ones neither end a cluster nor join it. -/
theorem not_endsCluster_of_apart {ranges : CharRanges}
    (h : CharRanges.apart ranges endingRanges = true) (hc : ranges.has c = true) :
    ¬ EndsCluster (clusterClass c) ∧ clusterClass c ≠ .joiner := by
  rw [← not_or]
  intro hends
  obtain ⟨r, hr, hin⟩ := exists_of_endsCluster hends
  exact CharRanges.not_between_of_apart h hc hr hin

/-- Pictographs neither end a cluster nor join it. -/
theorem not_endsCluster_of_isPictograph (h : isPictograph c = true) :
    ¬ EndsCluster (clusterClass c) ∧ clusterClass c ≠ .joiner :=
  not_endsCluster_of_apart (by decide +kernel) h

/-- Consonants of conjuncts end no cluster. -/
theorem not_endsCluster_of_isConjunctConsonant (h : isConjunctConsonant c = true) :
    ¬ EndsCluster (clusterClass c) :=
  (not_endsCluster_of_apart (by decide +kernel) h).1

/-- The linkers of conjuncts extend a cluster. -/
theorem clusterClass_of_isConjunctLinker (h : isConjunctLinker c = true) :
    clusterClass c = .extending := by
  have hall : ∀ r ∈ conjunctLinkerRanges,
      r.1 = r.2 ∧ clusterClass (Char.ofNat r.1) = .extending := by decide +kernel
  obtain ⟨r, hr, hfirst, hlast⟩ := CharRanges.exists_of_has h
  obtain ⟨hsame, hclass⟩ := hall r hr
  have hcode : r.1 = c.toNat := by omega
  rwa [hcode, Char.ofNat_toNat] at hclass

/-- Linkers and fillers of conjuncts extend a cluster or join it. -/
theorem clusterClass_of_isConjunctLinker_or (h : isConjunctLinker c = true ∨
    isConjunctFiller c = true) : clusterClass c = .extending ∨ clusterClass c = .joiner := by
  rcases h with hlinker | hfiller
  · exact .inl (clusterClass_of_isConjunctLinker hlinker)
  · rw [isConjunctFiller, Bool.and_eq_true, Bool.or_eq_true, beq_iff_eq, beq_iff_eq] at hfiller
    exact hfiller.2

/-! ## What may stand behind a character of some kind -/

namespace Text

/-- A text ends in a character of one kind with any number of another kind behind it, where the
first kind may depend on what stands before. -/
def EndsIn (head : Text → Char → Prop) (tail : Char → Prop) (t : Text) : Prop :=
  ∃ front c rest, t = front ++ c :: rest ∧ head front c ∧ ∀ d ∈ rest, tail d

/-- Whether a text ends in such a row is seen from its last character and the text before that. -/
theorem endsIn_concat {head : Text → Char → Prop} {tail : Char → Prop} :
    EndsIn head tail (t ++ [c]) ↔ head t c ∨ tail c ∧ EndsIn head tail t := by
  constructor
  · rintro ⟨front, d, rest, heq, hhead, htail⟩
    rcases List.eq_nil_or_concat rest with rfl | ⟨rest, last, rfl⟩
    · obtain ⟨rfl, hsame⟩ := List.append_inj' heq rfl
      obtain rfl := List.singleton_inj.1 hsame
      exact .inl hhead
    · have hlast : t ++ [c] = (front ++ d :: rest) ++ [last] := by simpa using heq
      obtain ⟨rfl, hsame⟩ := List.append_inj' hlast rfl
      obtain rfl := List.singleton_inj.1 hsame
      exact .inr ⟨htail c (by simp), front, d, rest, rfl, hhead,
        fun e he => htail e (by simp [he])⟩
  · rintro (hhead | ⟨htail, front, d, rest, rfl, hhead, hrest⟩)
    · exact ⟨t, c, [], rfl, hhead, nofun⟩
    · refine ⟨front, d, rest ++ [c], by simp, hhead, fun e he => ?_⟩
      rcases List.mem_append.1 he with he | he
      · exact hrest e he
      · rw [List.mem_singleton.1 he]
        exact htail

/-- The last character of such a text is of one of the two kinds. -/
theorem EndsIn.getLast? {head : Text → Char → Prop} {tail : Char → Prop} (h : EndsIn head tail t) :
    ∃ last, t.getLast? = some last ∧ ((∃ front, head front last) ∨ tail last) := by
  obtain ⟨front, c, rest, rfl, hhead, htail⟩ := h
  refine ⟨(c :: rest).getLast (by simp), ?_, ?_⟩
  · rw [List.getLast?_append, List.getLast?_eq_some_getLast (List.cons_ne_nil c rest)]
    rfl
  · rcases List.mem_cons.1 (List.getLast_mem (List.cons_ne_nil c rest)) with hfirst | hrest
    · rw [hfirst]
      exact .inl ⟨front, hhead⟩
    · exact .inr (htail _ hrest)

/-- An empty text ends in no row. -/
theorem not_endsIn_nil {head : Text → Char → Prop} {tail : Char → Prop} :
    ¬ EndsIn head tail [] := by
  rintro ⟨front, d, rest, heq, -⟩
  simp at heq

/-- The signs that may stand between two consonants that are joined. -/
def IsConjunctSign (c : Char) : Prop :=
  isConjunctConsonant c = false ∧ (isConjunctLinker c = true ∨ isConjunctFiller c = true)

/-- A consonant, and signs behind it. -/
def EndsInConsonant : Text → Prop := EndsIn (fun _ c => isConjunctConsonant c = true) IsConjunctSign

/-- A consonant, and signs behind it one of which links it to the next one. -/
def EndsLinked : Text → Prop :=
  EndsIn (fun front c => EndsInConsonant front ∧ isConjunctConsonant c = false ∧
    isConjunctLinker c = true) IsConjunctSign

/-- A pictograph, and marks behind it. -/
def EndsInPictograph : Text → Prop :=
  EndsIn (fun _ c => isPictograph c = true) (clusterClass · = .extending)

/-- A pictograph, marks, and a joiner. -/
def EndsJoined (t : Text) : Prop :=
  ∃ front c, t = front ++ [c] ∧ EndsInPictograph front ∧ clusterClass c = .joiner

/-- An odd number of flag letters, and no more before them. -/
def EndsInHalfFlag (t : Text) : Prop :=
  (t.reverse.takeWhile (clusterClass · == .regional)).length % 2 = 1

/-- A character belongs to the cluster in which a text ends: either the last character decides it
or, if that does not, those before it. -/
def Continues (t : Text) (c : Char) : Prop :=
  ∃ last, t.getLast? = some last ∧
    match ClusterScan.neighbours? (clusterClass last) (clusterClass c) with
    | some together => together = true
    | none => EndsLinked t ∧ isConjunctConsonant c = true ∨ EndsJoined t ∧ isPictograph c = true ∨
        EndsInHalfFlag t ∧ clusterClass c = .regional

/-- No cluster goes on across byte `n` of a text, looked at from its start. -/
def IsClusterBoundary (t : Text) (n : Nat) : Prop :=
  t.isBoundary n = true ∧ ∀ c, (t.after n).head? = some c → ¬ Continues (t.before n) c

/-- A text ends joined if a joiner follows on a pictograph. -/
theorem endsJoined_concat : EndsJoined (t ++ [c]) ↔
    EndsInPictograph t ∧ clusterClass c = .joiner := by
  constructor
  · rintro ⟨front, d, heq, hfront, hjoiner⟩
    obtain ⟨rfl, hsame⟩ := List.append_inj' heq rfl
    obtain rfl := List.singleton_inj.1 hsame
    exact ⟨hfront, hjoiner⟩
  · rintro ⟨hfront, hjoiner⟩
    exact ⟨t, c, rfl, hfront, hjoiner⟩

/-- A regional sign makes half a flag just if it does not complete one. -/
theorem endsInHalfFlag_concat : EndsInHalfFlag (t ++ [c]) ↔
    clusterClass c = .regional ∧ ¬ EndsInHalfFlag t := by
  unfold EndsInHalfFlag
  rw [List.reverse_append, List.reverse_singleton, List.singleton_append]
  by_cases hflag : clusterClass c = .regional
  · rw [List.takeWhile_cons_of_pos (by simpa using hflag), List.length_cons]
    simp only [hflag, true_and]
    omega
  · rw [List.takeWhile_cons_of_neg (by simpa using hflag)]
    simp [hflag]

/-- Half a flag is a regional sign. -/
theorem EndsInHalfFlag.getLast? (h : EndsInHalfFlag t) :
    ∃ last, t.getLast? = some last ∧ clusterClass last = .regional := by
  rcases List.eq_nil_or_concat t with rfl | ⟨front, last, rfl⟩
  · simp [EndsInHalfFlag] at h
  · rw [List.concat_eq_append] at h ⊢
    exact ⟨last, List.getLast?_concat, (endsInHalfFlag_concat.1 h).1⟩

/-- Nothing continues an empty text. -/
theorem not_continues_nil : ¬ Continues [] c := by
  rintro ⟨last, hlast, -⟩
  cases hlast

end Text

/-! ## What the scan remembers -/

namespace ClusterScan

/-- The scan before any character. -/
def blank : ClusterScan := ⟨.other, .none, .none, false⟩

/-- A scan remembers of a text what may make it go on with the next character. -/
structure Remembers (scan : ClusterScan) (t : Text) : Prop where
  last : ∀ c, t.getLast? = some c → scan.last = clusterClass c
  pictograph : scan.pictograph = .pictograph ↔ t.EndsInPictograph
  joined : scan.pictograph = .joined ↔ t.EndsJoined
  consonant : scan.conjunct ≠ .none ↔ t.EndsInConsonant
  linked : scan.conjunct = .linked ↔ t.EndsLinked
  halfFlag : scan.halfFlag = true ↔ t.EndsInHalfFlag

/-- Before a text begins nothing has to be remembered. -/
theorem remembers_blank : blank.Remembers [] where
  last := nofun
  pictograph := by simp [blank, Text.EndsInPictograph, Text.not_endsIn_nil]
  joined := by
    simp only [blank, reduceCtorEq, false_iff]
    rintro ⟨front, c, heq, -⟩
    simp at heq
  consonant := by simp [blank, Text.EndsInConsonant, Text.not_endsIn_nil]
  linked := by simp [blank, Text.EndsLinked, Text.not_endsIn_nil]
  halfFlag := by simp [blank, Text.EndsInHalfFlag]

/-- What a scan remembers of pictographs after one more character. -/
theorem pictograph_next (scan : ClusterScan) (c : Char) :
    ((scan.next c).pictograph = .pictograph ↔
      isPictograph c = true ∨ clusterClass c = .extending ∧ scan.pictograph = .pictograph) ∧
    ((scan.next c).pictograph = .joined ↔
      scan.pictograph = .pictograph ∧ clusterClass c = .joiner) := by
  have hjoiner := @not_endsCluster_of_isPictograph c
  simp only [next]
  cases hpictograph : isPictograph c with
  | true => simp [(hjoiner hpictograph).2]
  | false =>
      cases hclass : clusterClass c
      all_goals simp
      all_goals split
      all_goals simp_all

/-- What a scan remembers of conjuncts after one more character. -/
theorem conjunct_next (scan : ClusterScan) (c : Char) :
    ((scan.next c).conjunct ≠ .none ↔
      isConjunctConsonant c = true ∨ Text.IsConjunctSign c ∧ scan.conjunct ≠ .none) ∧
    ((scan.next c).conjunct = .linked ↔
      (scan.conjunct ≠ .none ∧ isConjunctConsonant c = false ∧ isConjunctLinker c = true) ∨
        Text.IsConjunctSign c ∧ scan.conjunct = .linked) := by
  simp only [next, Text.IsConjunctSign]
  cases isConjunctConsonant c <;> cases isConjunctLinker c <;> cases isConjunctFiller c <;>
    cases scan.conjunct <;> simp

/-- A scan that remembers a text remembers it with one more character. -/
theorem Remembers.next (h : scan.Remembers t) (c : Char) : (scan.next c).Remembers (t ++ [c]) where
  last := by
    intro d hd
    rw [List.getLast?_concat] at hd
    rw [← Option.some.inj hd]
    rfl
  pictograph := by
    rw [Text.EndsInPictograph, Text.endsIn_concat, (scan.pictograph_next c).1, h.pictograph]
    rfl
  joined := by
    rw [Text.endsJoined_concat, (scan.pictograph_next c).2, h.pictograph]
  consonant := by
    rw [Text.EndsInConsonant, Text.endsIn_concat, (scan.conjunct_next c).1, h.consonant]
    rfl
  linked := by
    rw [Text.EndsLinked, Text.endsIn_concat, (scan.conjunct_next c).2, h.consonant, h.linked]
    rfl
  halfFlag := by
    rw [Text.endsInHalfFlag_concat, ← h.halfFlag]
    simp [ClusterScan.next]

/-- A scan that starts with a character remembers it. -/
theorem remembers_start (c : Char) : (start c).Remembers [c] := by
  have hstart : blank.next c = start c := by
    simp only [ClusterScan.next, start, blank, ClusterScan.mk.injEq, true_and]
    cases clusterClass c <;> simp
  rw [← hstart]
  exact remembers_blank.next c

/-! ## What becomes of it where a cluster ends -/

/-- What a scan remembers is enough to tell whether a character continues the text. -/
theorem joins_iff (h : scan.Remembers t) (ht : t ≠ []) :
    scan.joins c = true ↔ t.Continues c := by
  have hlast : t.getLast? = some (t.getLast ht) := List.getLast?_eq_some_getLast ht
  simp only [joins, Text.Continues, hlast, h.last _ hlast, Option.some.injEq, exists_eq_left']
  cases neighbours? (clusterClass (t.getLast ht)) (clusterClass c) with
  | some together => rfl
  | none => simp [h.linked, h.joined, h.halfFlag, or_assoc]

/-- Marks join whatever does not end a cluster. -/
theorem joins_of_mark (hlast : ¬ EndsCluster scan.last)
    (hc : clusterClass c = .extending ∨ clusterClass c = .joiner) : scan.joins c = true := by
  rw [joins]
  rcases hc with hc | hc <;> rw [hc] <;> revert hlast <;>
    cases scan.last <;> simp [EndsCluster, neighbours?]

/-- In the middle of a pictograph or a conjunct no cluster ends. -/
theorem Remembers.not_endsCluster (h : scan.Remembers t)
    (hmid : scan.pictograph = .pictograph ∨ scan.conjunct ≠ .none) : ¬ EndsCluster scan.last := by
  have hmark {d : Char} (hd : clusterClass d = .extending ∨ clusterClass d = .joiner) :
      ¬ EndsCluster (clusterClass d) := by
    rcases hd with hd | hd <;> rw [hd] <;> simp [EndsCluster]
  rcases hmid with hmid | hmid
  · obtain ⟨last, hlast, ⟨-, hfirst⟩ | htail⟩ := (h.pictograph.1 hmid).getLast?
    · rw [h.last last hlast]
      exact (not_endsCluster_of_isPictograph hfirst).1
    · rw [h.last last hlast]
      exact hmark (.inl htail)
  · obtain ⟨last, hlast, ⟨-, hfirst⟩ | htail⟩ := (h.consonant.1 hmid).getLast?
    · rw [h.last last hlast]
      exact not_endsCluster_of_isConjunctConsonant hfirst
    · rw [h.last last hlast]
      exact hmark (clusterClass_of_isConjunctLinker_or htail.2)

/-- Where a cluster ends, nothing that was remembered matters any more. -/
theorem Remembers.next_eq_start (h : scan.Remembers t) (hjoins : ¬ scan.joins c = true) :
    scan.next c = start c := by
  have hmark (hmid : scan.pictograph = .pictograph ∨ scan.conjunct ≠ .none) :
      clusterClass c ≠ .extending ∧ clusterClass c ≠ .joiner := by
    rw [← not_or]
    exact fun hc => hjoins (joins_of_mark (h.not_endsCluster hmid) hc)
  have hhalf : scan.halfFlag = true → clusterClass c ≠ .regional := by
    intro hhalf hc
    obtain ⟨last, hlast, hregional⟩ := (h.halfFlag.1 hhalf).getLast?
    rw [joins, h.last last hlast, hregional, hc] at hjoins
    simp [neighbours?, hhalf] at hjoins
  simp only [ClusterScan.next, start, ClusterScan.mk.injEq, true_and]
  refine ⟨?_, ?_, ?_⟩
  · cases hpictograph : scan.pictograph with
    | pictograph =>
        obtain ⟨hextending, hjoiner⟩ := hmark (.inl hpictograph)
        split
        · rfl
        · cases hclass : clusterClass c <;> simp_all
    | none | joined => cases clusterClass c <;> rfl
  · cases hconjunct : scan.conjunct with
    | none => rfl
    | consonant | linked =>
        have hother := hmark (.inr (by rw [hconjunct]; nofun))
        have hsign : ¬ (isConjunctLinker c = true ∨ isConjunctFiller c = true) :=
          fun hsign => not_or.2 hother (clusterClass_of_isConjunctLinker_or hsign)
        rw [not_or, Bool.not_eq_true, Bool.not_eq_true] at hsign
        simp [hsign]
  · cases hhalfFlag : scan.halfFlag with
    | false => simp
    | true => simp [hhalf hhalfFlag]

end ClusterScan

namespace Text

open ClusterScan

/-- Where a cluster may end, the clusters behind are found as if the text began there. -/
theorem clustersFrom_append (h : scan.Remembers t) (ht : t ≠ [])
    (hbreak : ¬ Continues (t ++ s) c) (rest : Text) :
    clustersFrom scan begun (s ++ c :: rest) =
      clustersFrom scan begun s ++ clusters (c :: rest) := by
  induction s generalizing scan begun t with
  | nil =>
      have hjoins : ¬ scan.joins c = true := by
        rw [joins_iff h ht, ← List.append_nil t]
        exact hbreak
      rw [List.nil_append, clustersFrom.eq_2, if_neg hjoins]
      rfl
  | cons d s ih =>
      have hnext : (scan.next d).Remembers (t ++ [d]) := h.next d
      rw [List.append_cons] at hbreak
      by_cases hjoins : scan.joins d = true
      · rw [List.cons_append, clustersFrom, clustersFrom, if_pos hjoins, if_pos hjoins]
        exact ih hnext (by simp) hbreak
      · rw [h.next_eq_start hjoins] at hnext
        rw [List.cons_append, clustersFrom, clustersFrom, if_neg hjoins, if_neg hjoins,
          ih hnext (by simp) hbreak, List.cons_append]

/-- Behind each cluster that is found a cluster may end. -/
theorem not_continues_of_clustersFrom (h : scan.Remembers (front ++ begun)) (hbegun : begun ≠ [])
    {lefts rights : List Text} (hcut : clustersFrom scan begun t = lefts ++ rights)
    (hlefts : lefts ≠ []) (hc : rights.flatten.head? = some c) :
    ¬ Continues (front ++ lefts.flatten) c := by
  induction t generalizing scan front begun lefts with
  | nil =>
      obtain ⟨cluster, lefts, rfl⟩ := List.exists_cons_of_ne_nil hlefts
      obtain ⟨-, hnil⟩ := List.cons.inj hcut
      rw [(List.append_eq_nil_iff.1 hnil.symm).2] at hc
      cases hc
  | cons d t ih =>
      have hnext : (scan.next d).Remembers (front ++ begun ++ [d]) := h.next d
      rw [clustersFrom] at hcut
      split at hcut
      · rw [List.append_assoc] at hnext
        exact ih hnext (by simp) hcut hlefts
      · next hjoins =>
          obtain ⟨cluster, lefts, rfl⟩ := List.exists_cons_of_ne_nil hlefts
          rw [List.cons_append, List.cons.injEq] at hcut
          obtain ⟨rfl, hrest⟩ := hcut
          rw [List.flatten_cons, ← List.append_assoc]
          by_cases hmore : lefts = []
          · obtain rfl := hmore
            rw [List.nil_append] at hrest
            rw [← hrest, flatten_clustersFrom] at hc
            obtain rfl := Option.some.inj hc
            rw [List.flatten_nil, List.append_nil, ← joins_iff h (by simp [hbegun])]
            exact hjoins
          · rw [h.next_eq_start hjoins] at hnext
            exact ih hnext (by simp) hrest hmore

/-- Where no cluster goes on across, a text has the clusters of its two parts. -/
theorem clusters_append (hbreak : ∀ c, t.head? = some c → ¬ Continues s c) :
    clusters (s ++ t) = clusters s ++ clusters t := by
  cases s with
  | nil => rfl
  | cons d s =>
      cases t with
      | nil => simp [clusters]
      | cons c t => exact clustersFrom_append (remembers_start d) (by simp) (hbreak c rfl) t

/-- No cluster goes on across the end of one of the clusters of a text. -/
theorem not_continues_of_clusters {lefts rights : List Text}
    (hcut : clusters t = lefts ++ rights) (hc : rights.flatten.head? = some c) :
    ¬ Continues lefts.flatten c := by
  by_cases hlefts : lefts = []
  · rw [hlefts]
    exact not_continues_nil
  · cases t with
    | nil => exact absurd (List.append_eq_nil_iff.1 hcut.symm).1 hlefts
    | cons d t =>
        have hstart : (start d).Remembers ([] ++ [d]) := remembers_start d
        exact not_continues_of_clustersFrom hstart (by simp) hcut hlefts hc

/-- The ends of clusters are where the rules let none go on. -/
theorem isClusterBoundary_iff {n : Nat} : t.IsClusterBoundary n ↔
    ∃ lefts rights, clusters t = lefts ++ rights ∧ size lefts.flatten = n := by
  constructor
  · rintro ⟨hn, hbreak⟩
    refine ⟨clusters (before t n), clusters (after t n), ?_, ?_⟩
    · rw [← clusters_append hbreak, before_append_after]
    · rw [flatten_clusters]
      exact floor_eq_of_isBoundary hn
  · rintro ⟨lefts, rights, hcut, rfl⟩
    have ht : t = lefts.flatten ++ rights.flatten := by
      rw [← List.flatten_append, ← hcut, flatten_clusters]
    have hbreak (c : Char) (hc : rights.flatten.head? = some c) : ¬ Continues lefts.flatten c :=
      not_continues_of_clusters hcut hc
    rw [ht, IsClusterBoundary, before_append_size, after_append_size]
    exact ⟨isBoundary_append_size _ _, hbreak⟩

/-- Two lists of clusters that begin a third one and join to the same text are the same. -/
theorem eq_of_flatten_eq {lefts rights lefts' rights' : List Text}
    (h : lefts ++ rights = lefts' ++ rights') (hflatten : lefts.flatten = lefts'.flatten)
    (hne : ∀ cluster ∈ lefts ++ rights, cluster ≠ []) : lefts = lefts' ∧ rights = rights' := by
  have hnil {between : List Text} (hempty : between.flatten = [])
      (hsub : ∀ cluster ∈ between, cluster ≠ []) : between = [] :=
    List.eq_nil_iff_forall_not_mem.2 fun cluster hmem =>
      hsub cluster hmem (List.flatten_eq_nil_iff.1 hempty cluster hmem)
  rcases List.append_eq_append_iff.1 h with ⟨between, rfl, rfl⟩ | ⟨between, rfl, rfl⟩
  · obtain rfl : between = [] :=
      hnil (by simpa using hflatten.symm) fun cluster hmem => hne cluster (by simp [hmem])
    simp
  · obtain rfl : between = [] :=
      hnil (by simpa using hflatten) fun cluster hmem => hne cluster (by simp [hmem])
    simp

/-- Either part of a text that is cut where a cluster ends keeps its clusters. -/
theorem clusters_of_append {lefts rights : List Text} (hcut : clusters t = lefts ++ rights) :
    clusters lefts.flatten = lefts ∧ clusters rights.flatten = rights := by
  have ht : t = lefts.flatten ++ rights.flatten := by
    rw [← List.flatten_append, ← hcut, flatten_clusters]
  have happend : clusters lefts.flatten ++ clusters rights.flatten = lefts ++ rights := by
    rw [← clusters_append (fun _ => not_continues_of_clusters hcut), ← ht, hcut]
  refine eq_of_flatten_eq happend (flatten_clusters _) fun cluster hmem => ?_
  rw [happend, ← hcut] at hmem
  exact ne_nil_of_mem_clusters t cluster hmem

/-- No cluster is empty. -/
theorem ne_nil_of_clusters {lefts rights : List Text} {cluster : Text}
    (hcut : clusters t = lefts ++ cluster :: rights) : cluster ≠ [] := by
  refine ne_nil_of_mem_clusters t cluster ?_
  rw [hcut]
  exact List.mem_append_right _ List.mem_cons_self

/-- From the start of a cluster the next step goes to its end. -/
theorem nextCluster_eq {lefts rights : List Text} {cluster : Text}
    (hcut : clusters t = lefts ++ cluster :: rights) :
    nextCluster t (size lefts.flatten) = size lefts.flatten + size cluster := by
  have ht : t = lefts.flatten ++ (cluster :: rights).flatten := by
    rw [← List.flatten_append, ← hcut, flatten_clusters]
  rw [nextCluster, ht, after_append_size, (clusters_of_append hcut).2,
    floor_eq_of_isBoundary (isBoundary_append_size _ _)]

/-- From the end of a cluster the step back goes to its start. -/
theorem previousCluster_eq {lefts rights : List Text} {cluster : Text}
    (hcut : clusters t = lefts ++ cluster :: rights) :
    previousCluster t (size lefts.flatten + size cluster) = size lefts.flatten := by
  have hcut' : clusters t = (lefts ++ [cluster]) ++ rights := by simp [hcut]
  have ht : t = (lefts ++ [cluster]).flatten ++ rights.flatten := by
    rw [← List.flatten_append, ← hcut', flatten_clusters]
  have hsize : size lefts.flatten + size cluster = size (lefts ++ [cluster]).flatten := by simp
  rw [hsize, previousCluster, ht, before_append_size, (clusters_of_append hcut').1,
    List.dropLast_concat]

/-! ## Clusters between their boundaries -/

/-- Of a line, `cluster` is a cluster: the rules let one end before it and behind it, and none
inside. -/
structure IsCluster (before cluster behind : Text) : Prop where
  ne_nil : cluster ≠ []
  start : (before ++ (cluster ++ behind)).IsClusterBoundary before.size
  stop : (before ++ (cluster ++ behind)).IsClusterBoundary (before.size + cluster.size)
  inside : ∀ n, before.size < n → n < before.size + cluster.size →
    ¬ (before ++ (cluster ++ behind)).IsClusterBoundary n

/-- A text that is cut at a boundary of its clusters is cut between them. -/
theorem exists_clusters_of_isClusterBoundary (h : (s ++ t).IsClusterBoundary s.size) :
    ∃ lefts rights, clusters (s ++ t) = lefts ++ rights ∧ lefts.flatten = s ∧
      rights.flatten = t := by
  obtain ⟨lefts, rights, hcut, hsize⟩ := isClusterBoundary_iff.1 h
  have htext : lefts.flatten ++ rights.flatten = s ++ t := by
    rw [← List.flatten_append, ← hcut, flatten_clusters]
  have hbefore := congrArg (before · s.size) htext
  rw [before_append_size, ← hsize, before_append_size] at hbefore
  rw [hbefore] at htext
  exact ⟨lefts, rights, hcut, hbefore, List.append_cancel_left htext⟩

/-- No boundary of clusters lies inside a cluster. -/
theorem le_or_le_of_isClusterBoundary {lefts rights : List Text} {cluster : Text} {n : Nat}
    (hcut : clusters t = lefts ++ cluster :: rights) (h : t.IsClusterBoundary n) :
    n ≤ size lefts.flatten ∨ size lefts.flatten + size cluster ≤ n := by
  obtain ⟨lefts', rights', hcut', rfl⟩ := isClusterBoundary_iff.1 h
  rcases List.append_eq_append_iff.1 (hcut.symm.trans hcut') with
    ⟨between, rfl, hrest⟩ | ⟨between, rfl, -⟩
  · cases between with
    | nil => exact .inl (by simp)
    | cons first between =>
        obtain ⟨rfl, -⟩ := List.cons.inj hrest
        exact .inr (by simp)
  · exact .inl (by simp)

/-- Two texts of one size that begin the same text are the same. -/
theorem eq_of_append_eq_append {u v : Text} (h : s ++ t = u ++ v) (hsize : s.size = u.size) :
    s = u ∧ t = v := by
  obtain ⟨w, rfl, rfl⟩ := exists_of_append_eq_append h (Nat.le_of_eq hsize)
  rw [size_append] at hsize
  obtain rfl : w = [] := size_eq_zero_iff.1 (by omega)
  exact ⟨(List.append_nil s).symm, rfl⟩

/-- The clusters between boundaries are those that a walk over the text finds. -/
theorem isCluster_iff {before cluster behind : Text} : IsCluster before cluster behind ↔
    ∃ lefts rights, clusters (before ++ (cluster ++ behind)) = lefts ++ cluster :: rights ∧
      lefts.flatten = before ∧ rights.flatten = behind := by
  constructor
  · rintro ⟨hne, hstart, hstop, hinside⟩
    obtain ⟨lefts, rights, hcut, rfl, hrights⟩ := exists_clusters_of_isClusterBoundary hstart
    have hpos : 0 < cluster.size := Nat.pos_of_ne_zero (mt size_eq_zero_iff.1 hne)
    cases rights with
    | nil => exact absurd (List.append_eq_nil_iff.1 hrights.symm).1 hne
    | cons first rights =>
        have hfirst : 0 < first.size :=
          Nat.pos_of_ne_zero (mt size_eq_zero_iff.1 (ne_nil_of_clusters hcut))
        -- the first cluster behind ends no later than `cluster`, and no earlier
        have hle : first.size ≤ cluster.size := by
          rcases le_or_le_of_isClusterBoundary hcut hstop with hlt | hle
          · omega
          · omega
        have hend : IsClusterBoundary (lefts.flatten ++ (cluster ++ behind))
            (size lefts.flatten + first.size) :=
          isClusterBoundary_iff.2 ⟨lefts ++ [first], rights, by simp [hcut], by simp⟩
        have hge : cluster.size ≤ first.size := Nat.le_of_not_lt fun hlt =>
          hinside _ (Nat.lt_add_of_pos_right hfirst) (Nat.add_lt_add_left hlt _) hend
        obtain ⟨rfl, rfl⟩ :=
          eq_of_append_eq_append (by simpa using hrights) (Nat.le_antisymm hle hge)
        exact ⟨lefts, rights, hcut, rfl, rfl⟩
  · rintro ⟨lefts, rights, hcut, rfl, rfl⟩
    refine ⟨ne_nil_of_clusters hcut, isClusterBoundary_iff.2 ⟨lefts, _, hcut, rfl⟩,
      isClusterBoundary_iff.2 ⟨lefts ++ [cluster], rights, by simp [hcut], by simp⟩,
      fun n hlt hgt hboundary => ?_⟩
    rcases le_or_le_of_isClusterBoundary hcut hboundary with hle | hle
    · omega
    · omega

end Text

end TextEditor
