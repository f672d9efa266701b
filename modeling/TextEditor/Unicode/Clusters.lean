import TextEditor.Text
import TextEditor.Unicode.ClusterClasses

/-!
# Clusters

A cluster is what a reader takes for one character: a letter with its marks, a Hangul block, a flag,
an emoji put together from several. Clusters of a text are found in one walk; `ClusterScan` is what
the walk remembers of the cluster it is in. The cursor moves, and deletes, by clusters.

Main statements: `flatten_clusters` says the clusters of a text join to the text, and
`ne_nil_of_mem_clusters` that none of them is empty.
-/

namespace TextEditor

open Unicode

/-- How far a pictograph that a joiner may continue has been read. -/
inductive PictographScan where
  | none
  | pictograph
  | joined
  deriving DecidableEq, Repr

/-- How far a conjunct of consonants has been read. -/
inductive ConjunctScan where
  | none
  | consonant
  | linked
  deriving DecidableEq, Repr

/-- What the walk remembers of the characters of the current cluster. -/
structure ClusterScan where
  last : ClusterClass
  pictograph : PictographScan
  conjunct : ConjunctScan
  /-- Whether the cluster ends in a flag letter that still lacks its partner. -/
  halfFlag : Bool
  deriving Repr

namespace ClusterScan

/-- The scan of a cluster that begins with `c`. -/
def start (c : Char) : ClusterScan where
  last := clusterClass c
  pictograph := if isPictograph c then .pictograph else .none
  conjunct := if isConjunctConsonant c then .consonant else .none
  halfFlag := clusterClass c == .regional

/-- Whether two neighbouring classes always stay together or always break, if they decide it. -/
def neighbours? : ClusterClass → ClusterClass → Option Bool
  | .carriageReturn, .lineFeed => some true
  | .carriageReturn, _ | .lineFeed, _ | .control, _ => some false
  | _, .carriageReturn | _, .lineFeed | _, .control => some false
  | .leadingJamo, .leadingJamo | .leadingJamo, .vowelJamo
  | .leadingJamo, .openSyllable | .leadingJamo, .closedSyllable => some true
  | .openSyllable, .vowelJamo | .openSyllable, .trailingJamo
  | .vowelJamo, .vowelJamo | .vowelJamo, .trailingJamo => some true
  | .closedSyllable, .trailingJamo | .trailingJamo, .trailingJamo => some true
  | _, .extending | _, .joiner | _, .spacing => some true
  | .prepended, _ => some true
  | _, _ => none

/-- Whether `c` belongs to the cluster read so far. -/
def joins (scan : ClusterScan) (c : Char) : Bool :=
  match neighbours? scan.last (clusterClass c) with
  | some together => together
  | none =>
      (scan.conjunct == .linked && isConjunctConsonant c) ||
      (scan.pictograph == .joined && isPictograph c) ||
      (scan.halfFlag && clusterClass c == .regional)

/-- The scan after `c` has joined the cluster. -/
def next (scan : ClusterScan) (c : Char) : ClusterScan where
  last := clusterClass c
  pictograph :=
    if isPictograph c then .pictograph
    else match clusterClass c with
      | .extending => if scan.pictograph == .pictograph then .pictograph else .none
      | .joiner => if scan.pictograph == .pictograph then .joined else .none
      | _ => .none
  conjunct :=
    if isConjunctConsonant c then .consonant
    else if scan.conjunct == .none then .none
    else if isConjunctLinker c then .linked
    else if isConjunctFiller c then scan.conjunct
    else .none
  halfFlag := clusterClass c == .regional && !scan.halfFlag

end ClusterScan

namespace Text

/-- The clusters of `open ++ t`, where `scan` has read `open`, the cluster begun so far. -/
def clustersFrom (scan : ClusterScan) (begun : Text) : Text → List Text
  | [] => [begun]
  | c :: t =>
      if scan.joins c then clustersFrom (scan.next c) (begun ++ [c]) t
      else begun :: clustersFrom (.start c) [c] t

/-- The clusters of a text, in order. -/
def clusters : Text → List Text
  | [] => []
  | c :: t => clustersFrom (.start c) [c] t

/-- The offset after the cluster that begins at the floor of `n`; at the end, the size of the
text. -/
def nextCluster (t : Text) (n : Nat) : Nat :=
  match clusters (after t n) with
  | [] => size t
  | cluster :: _ => floor t n + size cluster

/-- The offset of the last cluster of what stands before the floor of `n`; zero at the start. -/
def previousCluster (t : Text) (n : Nat) : Nat :=
  size (clusters (before t n)).dropLast.flatten

/-- Clusters are pieces of the text, with nothing left out. -/
theorem flatten_clustersFrom (scan : ClusterScan) (begun t : Text) :
    (clustersFrom scan begun t).flatten = begun ++ t := by
  induction t generalizing scan begun with
  | nil => simp [clustersFrom]
  | cons c t ih =>
      by_cases h : scan.joins c
      · simp [clustersFrom, h, ih]
      · simp [clustersFrom, h, ih]

/-- The clusters of a text join to the text. -/
theorem flatten_clusters (t : Text) : (clusters t).flatten = t := by
  cases t with
  | nil => rfl
  | cons c t => simpa [clusters] using flatten_clustersFrom (.start c) [c] t

/-- No cluster is empty. -/
theorem ne_nil_of_mem_clustersFrom (scan : ClusterScan) (begun t : Text) (hbegun : begun ≠ []) :
    ∀ cluster ∈ clustersFrom scan begun t, cluster ≠ [] := by
  induction t generalizing scan begun with
  | nil => simpa [clustersFrom] using hbegun
  | cons c t ih =>
      by_cases h : scan.joins c
      · simpa [clustersFrom, h] using ih (scan.next c) (begun ++ [c]) (by simp)
      · simpa [clustersFrom, h, hbegun] using ih (.start c) [c] (by simp)

/-- No cluster is empty. -/
theorem ne_nil_of_mem_clusters (t : Text) : ∀ cluster ∈ clusters t, cluster ≠ [] := by
  cases t with
  | nil => simp [clusters]
  | cons c t => exact ne_nil_of_mem_clustersFrom (.start c) [c] t (by simp)

end Text

end TextEditor
