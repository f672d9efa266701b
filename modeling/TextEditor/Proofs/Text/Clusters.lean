import TextEditor.Proofs.Text.Cuts
import TextEditor.Unicode.Clusters

/-!
# Going by clusters

The end of the cluster at an offset and the start of the one before it are character boundaries, and
there is at least one character between them and the offset.

Main statements: `previousCluster_lt`, `isBoundary_nextCluster` and `lt_nextCluster`.
-/

namespace TextEditor.Text

variable {t : Text} {n : Nat}

/-- A text that is not empty takes at least a byte. -/
theorem size_pos (h : t ≠ []) : 0 < size t := Nat.pos_of_ne_zero (mt size_eq_zero_iff.1 h)

/-- Behind the start of a text there is a cluster to go back over. -/
theorem previousCluster_lt (h : 0 < floor t n) : previousCluster t n < floor t n := by
  have hflatten := flatten_clusters (before t n)
  have hne : clusters (before t n) ≠ [] := by
    intro hnil
    rw [hnil, List.flatten_nil] at hflatten
    rw [floor, ← hflatten, size_nil] at h
    exact Nat.lt_irrefl 0 h
  have hlast : (clusters (before t n)).getLast hne ≠ [] :=
    ne_nil_of_mem_clusters _ _ (List.getLast_mem hne)
  have hpos := size_pos hlast
  rw [← List.dropLast_concat_getLast hne, List.flatten_append, List.flatten_singleton] at hflatten
  have hsize := congrArg size hflatten
  rw [size_append] at hsize
  unfold previousCluster floor
  omega

/-- Before the end of a text there is a cluster to go on over. -/
theorem exists_nextCluster (h : after t n ≠ []) :
    ∃ cluster rest, cluster ≠ [] ∧ t = before t n ++ cluster ++ rest ∧
      nextCluster t n = floor t n + size cluster := by
  have hflatten := flatten_clusters (after t n)
  cases hclusters : clusters (after t n) with
  | nil =>
      rw [hclusters] at hflatten
      exact absurd hflatten.symm h
  | cons cluster others =>
      refine ⟨cluster, others.flatten, ?_, ?_, ?_⟩
      · apply ne_nil_of_mem_clusters (after t n)
        rw [hclusters]
        exact List.mem_cons_self
      · rw [hclusters, List.flatten_cons] at hflatten
        rw [List.append_assoc, hflatten, before_append_after]
      · rw [nextCluster, hclusters]

/-- A step to the next cluster ends at a boundary. -/
theorem isBoundary_nextCluster (t : Text) (n : Nat) : t.isBoundary (nextCluster t n) = true := by
  by_cases h : after t n = []
  · rw [nextCluster, h]
    exact isBoundary_size t
  · obtain ⟨cluster, rest, -, ht, hnext⟩ := exists_nextCluster h
    refine isBoundary_iff.2 ⟨before t n ++ cluster, rest, ht, ?_⟩
    rw [hnext, size_append]
    rfl

/-- A step to the next cluster gets further, unless it starts at the end. -/
theorem lt_nextCluster (h : floor t n < size t) : floor t n < nextCluster t n := by
  have hafter : after t n ≠ [] := by
    intro hnil
    have hsize := floor_add_size_after t n
    rw [hnil, size_nil] at hsize
    omega
  obtain ⟨cluster, rest, hcluster, -, hnext⟩ := exists_nextCluster hafter
  have hpos := size_pos hcluster
  omega

end TextEditor.Text
