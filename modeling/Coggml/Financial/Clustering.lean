import Coggml.Financial
import Mathlib.Algebra.Order.BigOperators.Ring.Finset
/-!
# k-means clustering of account embeddings

`ggml_financial_cluster_accounts` starts from random centroid rows and runs ten rounds of Lloyd's
iteration over the account embeddings, row `a` at offset `a * GGML_FINANCIAL_EMBEDDING_DIM`: each
account joins the first nearest centroid, and each row with members becomes their mean, a row
with none staying zero. No round raises the k-means cost (`clusteringCost_clusterRound_le`),
since a mean is the point closest to its members (`sum_mul_self_sub_mean_le`) and the nearest
centroid is the closest choice (`nearestCluster_le`), and rows from `num_clusters` on are never
written (`iterate_clusterRound_frame`). The embeddings are an input; offsets are natural numbers,
which the `uint32_t` products equal for tensors of fewer than `2^32` floats.
-/

namespace Coggml

open Finset

/-- `GGML_FINANCIAL_EMBEDDING_DIM`. -/
def ggmlFinancialEmbeddingDim : Nat := 64

/-- `(data + row * GGML_FINANCIAL_EMBEDDING_DIM)[i]`: coordinate `i` of a row. -/
def rowEntry (data : Nat → ℚ) (row i : Nat) : ℚ := data (row * ggmlFinancialEmbeddingDim + i)

/-- The innermost loop of the assignment, `dist += diff * diff` over the coordinates of
account `a`'s embedding and centroid `c`. -/
def squaredDistance (embeddings centroids : Nat → ℚ) (a c : Nat) : ℚ :=
  ∑ i in range ggmlFinancialEmbeddingDim,
    (rowEntry embeddings a i - rowEntry centroids c i) *
      (rowEntry embeddings a i - rowEntry centroids c i)

/-- One turn of the search over clusters; `INFINITY` is `none`, and only a strictly smaller
distance replaces the best so far. -/
def nearestStep (dist : Nat → ℚ) (best : Option ℚ × Nat) (c : Nat) : Option ℚ × Nat :=
  match best.1 with
  | none => (some (dist c), c)
  | some minDist => if dist c < minDist then (some (dist c), c) else best

/-- `best_cluster` after the search over clusters `0 .. num_clusters - 1`, starting at 0. -/
def nearestCluster (numClusters : Nat) (dist : Nat → ℚ) : Nat :=
  ((List.range numClusters).foldl (nearestStep dist) (none, 0)).2

/-- One turn of the accumulation loop: account `a`'s embedding is added into the row of its
cluster, and the cluster counted. -/
def accumulateAccount (embeddings : Nat → ℚ) (assignments : Nat → Nat)
    (acc : (Nat → ℚ) × (Nat → Nat)) (a : Nat) : (Nat → ℚ) × (Nat → Nat) :=
  (fun j => if j / ggmlFinancialEmbeddingDim = assignments a then
      acc.1 j + rowEntry embeddings a (j % ggmlFinancialEmbeddingDim)
    else acc.1 j,
    Function.update acc.2 (assignments a) (acc.2 (assignments a) + 1))

/-- One iteration of the k-means loop over accounts `0 .. accountCount - 1`: assignment,
`memset` of the first `num_clusters` rows, accumulation, and division of the rows of clusters
with members by their counts. -/
def clusterRound (accountCount numClusters : Nat) (embeddings centroids : Nat → ℚ) :
    Nat → ℚ :=
  let assignments := fun a => nearestCluster numClusters (squaredDistance embeddings centroids a)
  let cleared := fun j => if j / ggmlFinancialEmbeddingDim < numClusters then 0 else centroids j
  let accumulated := (List.range accountCount).foldl (accumulateAccount embeddings assignments)
    (cleared, fun _ => 0)
  fun j =>
    if j / ggmlFinancialEmbeddingDim < numClusters ∧
        0 < accumulated.2 (j / ggmlFinancialEmbeddingDim) then
      accumulated.1 j / accumulated.2 (j / ggmlFinancialEmbeddingDim)
    else accumulated.1 j

/-- The initialization loop: `(float)rand() / RAND_MAX * 0.1f - 0.05f` in every float of the
first `num_clusters` rows, drawn in row-major order from position `pos`. -/
def initCentroids (numClusters : Nat) (rand : Nat → Nat) (pos : Nat) (centroids : Nat → ℚ) :
    Nat → ℚ :=
  fun j => if j / ggmlFinancialEmbeddingDim < numClusters then
      (rand (pos + j) : ℚ) / randMax * 0.1 - 0.05
    else centroids j

/-- `ggml_financial_cluster_accounts` — nothing for `num_clusters` 0 or above 8; otherwise the
centroid data after the initialization and ten rounds, and the next `rand()` position. -/
def ggmlFinancialClusterAccounts (system : FinancialSystem) (embeddings centroids : Nat → ℚ)
    (numClusters : Nat) (rand : Nat → Nat) (pos : Nat) : (Nat → ℚ) × Nat :=
  if numClusters = 0 ∨ 8 < numClusters then (centroids, pos)
  else
    ((clusterRound system.accounts.length numClusters embeddings)^[10]
        (initCentroids numClusters rand pos centroids),
      pos + numClusters * ggmlFinancialEmbeddingDim)

/-- The k-means cost of centroid data: the squared distance of every account to the centroid
the assignment loop picks for it. -/
def clusteringCost (accountCount numClusters : Nat) (embeddings centroids : Nat → ℚ) : ℚ :=
  ∑ a in range accountCount,
    squaredDistance embeddings centroids a
      (nearestCluster numClusters (squaredDistance embeddings centroids a))

/-! ## The assignment -/

section Assignment

variable {dist : Nat → ℚ}

/-- After the clusters `0 .. m`, the search holds the distance of a cluster among them that is
at least as close as all of them. -/
theorem foldl_nearestStep (dist : Nat → ℚ) (m : Nat) :
    ∃ b ≤ m, (List.range (m + 1)).foldl (nearestStep dist) (none, 0) = (some (dist b), b) ∧
      ∀ c ≤ m, dist b ≤ dist c := by
  induction m with
  | zero => exact ⟨0, le_rfl, rfl, fun c le => by rw [Nat.le_zero.1 le]⟩
  | succ m ih =>
    obtain ⟨b, le, found, least⟩ := ih
    rw [List.range_succ, List.foldl_append, found, List.foldl_cons, List.foldl_nil]
    by_cases closer : dist (m + 1) < dist b
    · refine ⟨m + 1, le_rfl, by simp [nearestStep, closer], fun c le' => ?_⟩
      rcases Nat.lt_or_eq_of_le le' with lt | rfl
      · exact closer.le.trans (least c (Nat.lt_succ_iff.1 lt))
      · exact le_rfl
    · refine ⟨b, le.trans (Nat.le_succ m), by simp [nearestStep, closer], fun c le' => ?_⟩
      rcases Nat.lt_or_eq_of_le le' with lt | rfl
      · exact least c (Nat.lt_succ_iff.1 lt)
      · exact not_lt.1 closer

/-- The assignment picks one of the `num_clusters` clusters. -/
theorem nearestCluster_lt {numClusters : Nat} (positive : 0 < numClusters) :
    nearestCluster numClusters dist < numClusters := by
  obtain ⟨m, rfl⟩ : ∃ m, numClusters = m + 1 := ⟨numClusters - 1, by omega⟩
  obtain ⟨b, le, found, -⟩ := foldl_nearestStep dist m
  rw [nearestCluster, found]
  exact Nat.lt_succ_of_le le

/-- The assigned cluster is at least as close as every cluster searched. -/
theorem nearestCluster_le {numClusters c : Nat} (searched : c < numClusters) :
    dist (nearestCluster numClusters dist) ≤ dist c := by
  obtain ⟨m, rfl⟩ : ∃ m, numClusters = m + 1 := ⟨numClusters - 1, by omega⟩
  obtain ⟨b, -, found, least⟩ := foldl_nearestStep dist m
  rw [nearestCluster, found]
  exact least c (Nat.lt_succ_iff.1 searched)

end Assignment

/-! ## The accumulation -/

section Accumulation

variable (embeddings : Nat → ℚ) (assignments : Nat → Nat)

/-- The accounts among the first `n` that are assigned cluster `c`. -/
def members (n c : Nat) : Finset Nat := (range n).filter fun a => assignments a = c

/-- After the first `n` accounts, each row holds what it held plus the embeddings of the
accounts assigned to it, and each count the number of them. -/
theorem foldl_accumulateAccount (start : (Nat → ℚ) × (Nat → Nat)) (n : Nat) :
    (List.range n).foldl (accumulateAccount embeddings assignments) start =
      (fun j => start.1 j + ∑ a in members assignments n (j / ggmlFinancialEmbeddingDim),
          rowEntry embeddings a (j % ggmlFinancialEmbeddingDim),
        fun c => start.2 c + (members assignments n c).card) := by
  induction n with
  | zero => simp [members]
  | succ n ih =>
    rw [List.range_succ, List.foldl_append, ih]
    simp only [List.foldl_cons, List.foldl_nil, accumulateAccount, members, range_succ,
      filter_insert, Prod.mk.injEq]
    constructor
    · funext j
      by_cases mine : j / ggmlFinancialEmbeddingDim = assignments n
      · rw [if_pos mine, if_pos mine.symm, sum_insert (by simp)]
        ring
      · simp [mine, Ne.symm mine]
    · funext c
      by_cases mine : c = assignments n
      · subst mine
        simp [Function.update, add_assoc]
      · simp [Function.update, mine, Ne.symm mine]

end Accumulation

/-! ## One round -/

/-- Row `c` of a round, for one of the `num_clusters` clusters: the mean of the embeddings of
its members, or zero when it has none. -/
theorem rowEntry_clusterRound {accountCount numClusters c i : Nat} (row : c < numClusters)
    (coordinate : i < ggmlFinancialEmbeddingDim) (embeddings centroids : Nat → ℚ) :
    rowEntry (clusterRound accountCount numClusters embeddings centroids) c i =
      if 0 < (members (fun a => nearestCluster numClusters (squaredDistance embeddings centroids a))
          accountCount c).card then
        (∑ a in members (fun a => nearestCluster numClusters (squaredDistance embeddings centroids a))
            accountCount c, rowEntry embeddings a i) /
          (members (fun a => nearestCluster numClusters (squaredDistance embeddings centroids a))
            accountCount c).card
      else 0 := by
  have div : (c * ggmlFinancialEmbeddingDim + i) / ggmlFinancialEmbeddingDim = c := by
    unfold ggmlFinancialEmbeddingDim at *; omega
  have mod : (c * ggmlFinancialEmbeddingDim + i) % ggmlFinancialEmbeddingDim = i := by
    unfold ggmlFinancialEmbeddingDim at *; omega
  simp only [rowEntry, clusterRound, foldl_accumulateAccount, div, mod, row, if_true, zero_add,
    true_and]
  split_ifs <;> simp_all

/-- Rows from `num_clusters` on are left as they were by a round. -/
theorem clusterRound_frame {accountCount numClusters j : Nat} (positive : 0 < numClusters)
    (beyond : numClusters ≤ j / ggmlFinancialEmbeddingDim) (embeddings centroids : Nat → ℚ) :
    clusterRound accountCount numClusters embeddings centroids j = centroids j := by
  have empty : members (fun a => nearestCluster numClusters (squaredDistance embeddings centroids a))
      accountCount (j / ggmlFinancialEmbeddingDim) = ∅ :=
    filter_eq_empty_iff.2 fun _ _ => (lt_of_lt_of_le (nearestCluster_lt positive) beyond).ne
  simp [clusterRound, foldl_accumulateAccount, empty, not_lt.2 beyond]

/-- A cluster's mean is the point closest to its members in squared distance: the sum of
squared deviations from any other point exceeds it by the size times the squared offset. -/
theorem sum_mul_self_sub_mean_le {s : Finset Nat} (nonempty : 0 < s.card) (x : Nat → ℚ)
    (y : ℚ) :
    ∑ a in s, (x a - (∑ b in s, x b) / s.card) * (x a - (∑ b in s, x b) / s.card) ≤
      ∑ a in s, (x a - y) * (x a - y) := by
  set mean := (∑ b in s, x b) / s.card
  have centered : ∑ a in s, (x a - mean) = 0 := by
    rw [sum_sub_distrib, sum_const, nsmul_eq_mul,
      mul_div_cancel₀ _ (Nat.cast_ne_zero.2 nonempty.ne'), sub_self]
  have split : ∑ a in s, (x a - y) * (x a - y) =
      ∑ a in s, (x a - mean) * (x a - mean) + s.card * ((mean - y) * (mean - y)) := by
    calc ∑ a in s, (x a - y) * (x a - y)
        = ∑ a in s, ((x a - mean) * (x a - mean) + 2 * (mean - y) * (x a - mean) +
            (mean - y) * (mean - y)) := sum_congr rfl fun a _ => by ring
      _ = _ := by
        rw [sum_add_distrib, sum_add_distrib, ← mul_sum, centered, sum_const, nsmul_eq_mul]
        ring
  rw [split]
  exact le_add_of_nonneg_right (mul_nonneg (Nat.cast_nonneg _) (mul_self_nonneg _))

/-! ## The cost never grows -/

section Cost

variable {accountCount numClusters : Nat} (embeddings : Nat → ℚ)

/-- The squared distances of the accounts to the centroids of their clusters, regrouped by
coordinate and cluster. -/
theorem sum_squaredDistance_fiberwise {assignments : Nat → Nat}
    (bounded : ∀ a, assignments a < numClusters) (centroids : Nat → ℚ) :
    ∑ a in range accountCount, squaredDistance embeddings centroids a (assignments a) =
      ∑ i in range ggmlFinancialEmbeddingDim, ∑ c in range numClusters,
        ∑ a in members assignments accountCount c,
          (rowEntry embeddings a i - rowEntry centroids c i) *
            (rowEntry embeddings a i - rowEntry centroids c i) := by
  unfold squaredDistance
  rw [sum_comm]
  refine sum_congr rfl fun i _ => ?_
  rw [← sum_fiberwise_of_maps_to (g := assignments) fun a _ => mem_range.2 (bounded a)]
  refine sum_congr rfl fun c _ => sum_congr rfl fun a mem => ?_
  rw [(mem_filter.1 mem).2]

/-- Within each cluster and coordinate, the new centroid is at least as close to the members
as the old one. -/
theorem members_closer_to_clusterRound {c i : Nat} (row : c < numClusters)
    (coordinate : i < ggmlFinancialEmbeddingDim) (centroids : Nat → ℚ) :
    ∑ a in members (fun a => nearestCluster numClusters (squaredDistance embeddings centroids a))
        accountCount c,
      (rowEntry embeddings a i -
          rowEntry (clusterRound accountCount numClusters embeddings centroids) c i) *
        (rowEntry embeddings a i -
          rowEntry (clusterRound accountCount numClusters embeddings centroids) c i) ≤
    ∑ a in members (fun a => nearestCluster numClusters (squaredDistance embeddings centroids a))
        accountCount c,
      (rowEntry embeddings a i - rowEntry centroids c i) *
        (rowEntry embeddings a i - rowEntry centroids c i) := by
  rw [rowEntry_clusterRound row coordinate]
  split_ifs with nonempty
  · exact sum_mul_self_sub_mean_le nonempty _ _
  · rw [card_eq_zero.1 (Nat.eq_zero_of_not_pos nonempty), sum_empty, sum_empty]

/-- A round never raises the k-means cost. -/
theorem clusteringCost_clusterRound_le (positive : 0 < numClusters) (centroids : Nat → ℚ) :
    clusteringCost accountCount numClusters embeddings
        (clusterRound accountCount numClusters embeddings centroids) ≤
      clusteringCost accountCount numClusters embeddings centroids := by
  have bounded : ∀ a, nearestCluster numClusters (squaredDistance embeddings centroids a) <
      numClusters := fun _ => nearestCluster_lt positive
  calc clusteringCost accountCount numClusters embeddings
          (clusterRound accountCount numClusters embeddings centroids)
      ≤ ∑ a in range accountCount,
          squaredDistance embeddings (clusterRound accountCount numClusters embeddings centroids) a
            (nearestCluster numClusters (squaredDistance embeddings centroids a)) :=
        sum_le_sum fun a _ => nearestCluster_le (bounded a)
    _ ≤ ∑ a in range accountCount, squaredDistance embeddings centroids a
          (nearestCluster numClusters (squaredDistance embeddings centroids a)) := by
        rw [sum_squaredDistance_fiberwise embeddings bounded,
          sum_squaredDistance_fiberwise embeddings bounded]
        exact sum_le_sum fun i coordinate => sum_le_sum fun c row =>
          members_closer_to_clusterRound embeddings (mem_range.1 row) (mem_range.1 coordinate) _

/-- The k-means cost never grows from one round to the next, whatever the embeddings, the
number of accounts and the centroids the rounds start from. -/
theorem clusteringCost_iterate_antitone (positive : 0 < numClusters) (centroids : Nat → ℚ) :
    Antitone fun rounds => clusteringCost accountCount numClusters embeddings
      ((clusterRound accountCount numClusters embeddings)^[rounds] centroids) :=
  antitone_nat_of_succ_le fun rounds => by
    simp only [Function.iterate_succ_apply']
    exact clusteringCost_clusterRound_le embeddings positive _

/-- Embeddings whose row `a` has every coordinate equal to `a`. -/
def rampEmbeddings : Nat → ℚ := fun j => (j / ggmlFinancialEmbeddingDim : Nat)

/-- Rounds never write rows from `num_clusters` on. -/
theorem iterate_clusterRound_frame {accountCount numClusters j : Nat} (positive : 0 < numClusters)
    (beyond : numClusters ≤ j / ggmlFinancialEmbeddingDim) (centroids : Nat → ℚ) :
    ∀ rounds, (clusterRound accountCount numClusters embeddings)^[rounds] centroids j = centroids j
  | 0 => rfl
  | rounds + 1 => by
    rw [Function.iterate_succ_apply', clusterRound_frame positive beyond,
      iterate_clusterRound_frame positive beyond centroids rounds]

/-- For `num_clusters` from 1 to 8, in `ggml_financial_cluster_accounts` no round of the
k-means loop raises the cost of the centroids, whatever the embeddings, so the returned
centroids cost at most the random ones the loop starts from; the rows from `num_clusters` on
are left as they were, and one `rand()` value is consumed per float of the first
`num_clusters` rows. -/
theorem cluster_rounds_never_raise_cost {system : FinancialSystem} {numClusters : Nat}
    (valid : 0 < numClusters ∧ numClusters ≤ 8) (centroids : Nat → ℚ) (rand : Nat → Nat)
    (pos : Nat) :
    (Antitone fun rounds => clusteringCost system.accounts.length numClusters embeddings
      ((clusterRound system.accounts.length numClusters embeddings)^[rounds]
        (initCentroids numClusters rand pos centroids))) ∧
    clusteringCost system.accounts.length numClusters embeddings
        (ggmlFinancialClusterAccounts system embeddings centroids numClusters rand pos).1 ≤
      clusteringCost system.accounts.length numClusters embeddings
        (initCentroids numClusters rand pos centroids) ∧
    (∀ j, numClusters ≤ j / ggmlFinancialEmbeddingDim →
      (ggmlFinancialClusterAccounts system embeddings centroids numClusters rand pos).1 j =
        centroids j) ∧
    (ggmlFinancialClusterAccounts system embeddings centroids numClusters rand pos).2 =
      pos + numClusters * ggmlFinancialEmbeddingDim := by
  have run : ¬(numClusters = 0 ∨ 8 < numClusters) := by omega
  have rounds := @clusteringCost_iterate_antitone system.accounts.length numClusters
    embeddings valid.1 (initCentroids numClusters rand pos centroids)
  have improves := rounds (Nat.zero_le 10)
  simp only [Function.iterate_zero_apply] at improves
  rw [ggmlFinancialClusterAccounts, if_neg run]
  refine ⟨rounds, improves, fun j beyond => ?_, rfl⟩
  dsimp only
  rw [iterate_clusterRound_frame embeddings valid.1 beyond]
  simp [initCentroids, not_lt.2 beyond]

end Cost

/-- On the small bank, no clustering round raises the cost, and the result leaves the unused
centroids zero. -/
theorem smallBank_rounds_never_raise_cost :
    (0 < 2 ∧ 2 ≤ 8) ∧
    (Antitone fun rounds => clusteringCost smallBank.accounts.length 2 rampEmbeddings
      ((clusterRound smallBank.accounts.length 2 rampEmbeddings)^[rounds]
        (initCentroids 2 (fun _ => 0) 0 fun _ => 0))) ∧
    clusteringCost smallBank.accounts.length 2 rampEmbeddings
        (ggmlFinancialClusterAccounts smallBank rampEmbeddings (fun _ => 0) 2 (fun _ => 0) 0).1 ≤
      clusteringCost smallBank.accounts.length 2 rampEmbeddings
        (initCentroids 2 (fun _ => 0) 0 fun _ => 0) ∧
    (∀ j, 2 ≤ j / ggmlFinancialEmbeddingDim →
      (ggmlFinancialClusterAccounts smallBank rampEmbeddings (fun _ => 0) 2 (fun _ => 0) 0).1 j =
        0) ∧
    (ggmlFinancialClusterAccounts smallBank rampEmbeddings (fun _ => 0) 2 (fun _ => 0) 0).2 =
      0 + 2 * ggmlFinancialEmbeddingDim :=
  ⟨by decide, cluster_rounds_never_raise_cost rampEmbeddings (by decide) _ _ _⟩

end Coggml
