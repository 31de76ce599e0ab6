import Mathlib.Data.Multiset.Filter
import Mathlib.Data.List.Nodup

/-!
# Pages of ordered rows

The pages of a list are cut by offset, and each page may be cut from another arrangement of
the same rows.  Arrangements that agree with an order agree on a page where no rows that are
tied in the order lie on both sides of one of its ends.
-/

namespace InfinityRadius.Paging

variable {α : Type*}

/-- The page with the index. -/
def page (rows : List α) (size index : ℕ) : List α := (rows.drop (index * size)).take size

theorem take_succ_page (rows : List α) (size index : ℕ) :
    rows.take ((index + 1) * size) = rows.take (index * size) ++ page rows size index := by
  rw [Nat.add_mul, Nat.one_mul, List.take_add]
  rfl

section Positions

open Classical

variable (le : α → α → Prop)

/-- How many rows come before the row in every arrangement. -/
noncomputable def below (rows : Multiset α) (row : α) : ℕ :=
  rows.countP fun other => ¬le row other

/-- How many rows do not come after the row in every arrangement. -/
noncomputable def upTo (rows : Multiset α) (row : α) : ℕ :=
  rows.countP fun other => le other row

/-- Rows that are tied with one another are on one page. -/
def Separated (rows : Multiset α) (size : ℕ) : Prop :=
  ∀ row ∈ rows, below le rows row / size = (upTo le rows row - 1) / size

variable {le} {rows front back : List α} {row : α} {size : ℕ}

theorem below_le (hrefl : ∀ a, le a a) (h : (front ++ row :: back).Pairwise le) :
    below le ↑(front ++ row :: back) row ≤ front.length := by
  have hback : back.countP (fun other => ¬le row other) = 0 := by
    rw [List.countP_eq_zero]
    intro other hother
    have hle := (List.pairwise_cons.mp (List.pairwise_append.mp h).2.1).1 other hother
    simpa using hle
  rw [below, Multiset.coe_countP, List.countP_append, List.countP_cons, hback]
  simpa [hrefl row] using List.countP_le_length

theorem lt_upTo (hrefl : ∀ a, le a a) (h : (front ++ row :: back).Pairwise le) :
    front.length < upTo le ↑(front ++ row :: back) row := by
  have hfront : front.countP (fun other => le other row) = front.length := by
    rw [List.countP_eq_length]
    intro other hother
    simpa using (List.pairwise_append.mp h).2.2 other hother row List.mem_cons_self
  rw [upTo, Multiset.coe_countP, List.countP_append, List.countP_cons, hfront]
  simp only [hrefl row, decide_true, if_true]
  omega

theorem upTo_le_card (rows : Multiset α) (row : α) : upTo le rows row ≤ rows.card :=
  Multiset.countP_le_card _ _

theorem below_eq_zero {all : Multiset α} (h : ∀ other ∈ all, le row other) :
    below le all row = 0 :=
  Multiset.countP_eq_zero.mpr fun other hother hnot => hnot (h other hother)

theorem upTo_eq_card {all : Multiset α} (h : ∀ other ∈ all, le other row) :
    upTo le all row = all.card :=
  Multiset.countP_eq_card.mpr h

theorem below_lt_upTo (hrefl : ∀ a, le a a) (h : rows.Pairwise le) (hrow : row ∈ rows) :
    below le ↑rows row < upTo le ↑rows row := by
  obtain ⟨front, back, rfl⟩ := List.append_of_mem hrow
  exact (below_le hrefl h).trans_lt (lt_upTo hrefl h)

/-- Tied rows are on one page exactly where no end of a page divides them. -/
theorem div_eq_div_iff {low high : ℕ} (hsize : 0 < size) (h : low < high) :
    low / size = (high - 1) / size ↔ ∀ index, ¬(low < index * size ∧ index * size < high) := by
  constructor
  · intro heq index ⟨hlow, hhigh⟩
    have hless : low / size < index := (Nat.div_lt_iff_lt_mul hsize).mpr hlow
    have hmore : index ≤ (high - 1) / size := (Nat.le_div_iff_mul_le hsize).mpr (by omega)
    omega
  · intro hnone
    apply le_antisymm
    · exact Nat.div_le_div_right (by omega)
    · by_contra hmore
      have hleast : low / size + 1 ≤ (high - 1) / size := by omega
      have hhigh := (Nat.le_div_iff_mul_le hsize).mp hleast
      have hlow := (Nat.div_lt_iff_lt_mul hsize).mp (Nat.lt_succ_self (low / size))
      exact hnone (low / size + 1) ⟨hlow, by omega⟩

/-- Where no end of a page divides tied rows, the rows before it are the same in every
arrangement. -/
theorem take_eq_filter (hrefl : ∀ a, le a a) (h : rows.Pairwise le) {place : ℕ}
    (hapart : ∀ row ∈ rows, ¬(below le ↑rows row < place ∧ place < upTo le ↑rows row)) :
    (rows.take place : Multiset α) =
      (rows : Multiset α).filter fun row => upTo le ↑rows row ≤ place := by
  have hbefore : ∀ row ∈ rows.take place, upTo le ↑rows row ≤ place := by
    intro row hrow
    obtain ⟨front, back, hsplit⟩ := List.append_of_mem hrow
    have hrows : rows = front ++ row :: (back ++ rows.drop place) := by
      calc rows = rows.take place ++ rows.drop place := (List.take_append_drop _ _).symm
        _ = front ++ row :: (back ++ rows.drop place) := by rw [hsplit]; simp
    have hlength : front.length < place := by
      have htake := congrArg List.length hsplit
      rw [List.length_take, List.length_append, List.length_cons] at htake
      omega
    by_contra hmore
    refine hapart row (List.mem_of_mem_take hrow) ⟨?_, not_le.mp hmore⟩
    rw [hrows] at h ⊢
    exact (below_le hrefl h).trans_lt hlength
  have hafter : ∀ row ∈ rows.drop place, ¬upTo le ↑rows row ≤ place := by
    intro row hrow
    obtain ⟨front, back, hsplit⟩ := List.append_of_mem hrow
    have hrows : rows = (rows.take place ++ front) ++ row :: back := by
      calc rows = rows.take place ++ rows.drop place := (List.take_append_drop _ _).symm
        _ = (rows.take place ++ front) ++ row :: back := by rw [hsplit]; simp
    have hplace : place ≤ (rows.take place).length := by
      have hdrop := congrArg List.length hsplit
      rw [List.length_drop, List.length_append, List.length_cons] at hdrop
      rw [List.length_take]
      omega
    have hless : (rows.take place ++ front).length < upTo le ↑rows row := by
      have hsorted := h
      rw [hrows] at hsorted
      have hlt := lt_upTo hrefl hsorted
      rw [← hrows] at hlt
      exact hlt
    rw [List.length_append] at hless
    omega
  rw [Multiset.filter_coe, Multiset.coe_eq_coe]
  have hsplit : rows.filter (fun row => upTo le ↑rows row ≤ place) =
      (rows.take place).filter (fun row => upTo le ↑rows row ≤ place) ++
        (rows.drop place).filter (fun row => upTo le ↑rows row ≤ place) := by
    rw [← List.filter_append, List.take_append_drop]
  rw [hsplit, List.filter_eq_self.mpr (by simpa using hbefore),
    List.filter_eq_nil_iff.mpr (by simpa using hafter), List.append_nil]

/-! ## Partitions -/

/-- Where tied rows are on one page, the pages cut from any arrangements have each row once. -/
theorem partition_of_separated {all : Multiset α} (hrefl : ∀ a, le a a)
    (hsize : 0 < size) (hseparated : Separated le all size) {arranged : ℕ → List α}
    (hrows : ∀ index, (arranged index : Multiset α) = all)
    (hsorted : ∀ index, (arranged index).Pairwise le) {pages : ℕ}
    (hpages : all.card ≤ pages * size) :
    (((List.range pages).flatMap fun index => page (arranged index) size index : List α) :
      Multiset α) = all := by
  have htake : ∀ index place, (arranged index).take (place * size) =
      all.filter fun row => upTo le all row ≤ place * size := by
    intro index place
    rw [← hrows index]
    apply take_eq_filter hrefl (hsorted index)
    intro row hrow
    have heq := hseparated row (hrows index ▸ hrow)
    have hless := below_lt_upTo hrefl (hsorted index) hrow
    rw [hrows index] at hless ⊢
    exact (div_eq_div_iff hsize hless).mp heq place
  have hsofar : ∀ count, (((List.range count).flatMap fun index =>
      page (arranged index) size index : List α) : Multiset α) =
        all.filter fun row => upTo le all row ≤ count * size := by
    intro count
    induction count with
    | zero =>
      rw [← htake 0 0, Nat.zero_mul]
      rfl
    | succ count ih =>
      calc (((List.range (count + 1)).flatMap fun index =>
            page (arranged index) size index : List α) : Multiset α)
          = (((List.range count).flatMap fun index =>
              page (arranged index) size index : List α) : Multiset α) +
            page (arranged count) size count := by
              rw [List.range_succ, List.flatMap_append, Multiset.coe_add]
              simp
        _ = ((arranged count).take (count * size) : Multiset α) +
            page (arranged count) size count := by rw [ih, htake]
        _ = ((arranged count).take ((count + 1) * size) : Multiset α) := by
              rw [take_succ_page, Multiset.coe_add]
        _ = _ := htake count (count + 1)
  rw [hsofar, Multiset.filter_eq_self]
  exact fun row _ => (upTo_le_card all row).trans hpages

/-- Rows that are tied and lie on both sides of a place can change sides. -/
theorem exists_swapped (htotal : ∀ a b, le a b ∨ le b a)
    (htrans : ∀ a b c, le a b → le b c → le a c) (h : rows.Pairwise le) {place : ℕ}
    (hbelow : below le ↑rows row < place) (hupTo : place < upTo le ↑rows row) :
    ∃ front back first second, rows = front ++ first :: second :: back ∧
      front.length + 1 = place ∧ (front ++ second :: first :: back).Pairwise le := by
  have hplace : place < rows.length := hupTo.trans_le (upTo_le_card _ row)
  obtain ⟨front, first, hfront⟩ : ∃ front first, rows.take place = front ++ [first] := by
    have hne : rows.take place ≠ [] := by
      rw [← List.length_pos_iff, List.length_take]
      omega
    exact ⟨_, _, (List.dropLast_append_getLast hne).symm⟩
  obtain ⟨second, back, hback⟩ : ∃ second back, rows.drop place = second :: back := by
    rw [← List.length_pos_iff_exists_cons, List.length_drop]
    omega
  have hrows : rows = front ++ first :: second :: back := by
    calc rows = rows.take place ++ rows.drop place := (List.take_append_drop _ _).symm
      _ = front ++ first :: second :: back := by rw [hfront, hback]; simp
  have hlength : front.length + 1 = place := by
    have htake := congrArg List.length hfront
    rw [List.length_take, List.length_append, List.length_singleton] at htake
    omega
  have hrefl : ∀ a, le a a := fun a => (htotal a a).elim id id
  have hfirst : le row first := by
    by_contra hnot
    have hall : ∀ other ∈ front ++ [first], ¬le row other := by
      intro other hother hle
      rw [hrows] at h
      rcases List.mem_append.mp hother with hmem | hmem
      · exact hnot (htrans _ _ _ hle
          ((List.pairwise_append.mp h).2.2 other hmem first List.mem_cons_self))
      · exact hnot (List.mem_singleton.mp hmem ▸ hle)
    have hcount : place ≤ below le ↑rows row := by
      have hsplit : rows = (front ++ [first]) ++ (second :: back) := by rw [hrows]; simp
      rw [below, Multiset.coe_countP, hsplit, List.countP_append,
        List.countP_eq_length.mpr (by simpa using hall), List.length_append,
        List.length_singleton]
      omega
    omega
  have hsecond : le second row := by
    by_contra hnot
    have hall : ∀ other ∈ second :: back, ¬le other row := by
      intro other hother hle
      rw [hrows] at h
      rcases List.mem_cons.mp hother with rfl | hmem
      · exact hnot hle
      · have hcons := (List.pairwise_cons.mp (List.pairwise_append.mp h).2.1).2
        exact hnot (htrans _ _ _ ((List.pairwise_cons.mp hcons).1 other hmem) hle)
    have hcount : upTo le ↑rows row ≤ place := by
      have hsplit : rows = (front ++ [first]) ++ (second :: back) := by rw [hrows]; simp
      have hzero : (second :: back).countP (fun other => le other row) = 0 := by
        rw [List.countP_eq_zero]
        simpa using hall
      rw [upTo, Multiset.coe_countP, hsplit, List.countP_append, hzero, Nat.add_zero]
      refine List.countP_le_length.trans ?_
      rw [List.length_append, List.length_singleton, hlength]
    omega
  refine ⟨front, back, first, second, hrows, hlength, ?_⟩
  rw [hrows] at h
  obtain ⟨hfronts, hrest, hcross⟩ := List.pairwise_append.mp h
  obtain ⟨hfirsts, hseconds⟩ := List.pairwise_cons.mp hrest
  rw [List.pairwise_append, List.pairwise_cons, List.pairwise_cons]
  refine ⟨hfronts, ⟨?_, ?_, (List.pairwise_cons.mp hseconds).2⟩, ?_⟩
  · intro other hother
    cases List.mem_cons.mp hother with
    | inl heq => exact heq ▸ htrans _ _ _ hsecond hfirst
    | inr hmem => exact (List.pairwise_cons.mp hseconds).1 other hmem
  · exact fun other hother => hfirsts other (List.mem_cons_of_mem _ hother)
  · intro other hother other' hother'
    apply hcross other hother other'
    simp only [List.mem_cons] at hother' ⊢
    tauto

/-- A row that has changed sides is on two pages. -/
theorem not_partition_of_swapped {all : Multiset α} (hnodup : all.Nodup) {first second : α}
    {arranged : ℕ → List α} {index pages : ℕ} (hsize : 0 < size) (hindex : index + 1 < pages)
    (hplace : front.length + 1 = (index + 1) * size)
    (hbefore : arranged index = front ++ first :: second :: back)
    (hafter : arranged (index + 1) = front ++ second :: first :: back) :
    (((List.range pages).flatMap fun index => page (arranged index) size index : List α) :
      Multiset α) ≠ all := by
  intro heq
  rw [Nat.add_mul, Nat.one_mul] at hplace
  have hmem : first ∈ page (arranged index) size index := by
    obtain ⟨rest, hrest⟩ : ∃ rest, page (arranged index) size index =
        front.drop (index * size) ++ first :: rest := by
      have hdrop : (arranged index).drop (index * size) =
          front.drop (index * size) ++ first :: second :: back := by
        rw [hbefore, List.drop_append_of_le_length (by omega)]
      have hlength : size = (front.drop (index * size)).length + 1 := by
        rw [List.length_drop]
        omega
      use []
      rw [page, hdrop]
      generalize front.drop (index * size) = kept at hlength
      subst hlength
      simp [List.take_append, List.take_of_length_le]
    rw [hrest]
    simp
  have hmem' : first ∈ page (arranged (index + 1)) size (index + 1) := by
    have hdrop : (arranged (index + 1)).drop ((index + 1) * size) = first :: back := by
      have hsplit : arranged (index + 1) = (front ++ [second]) ++ first :: back := by
        rw [hafter]
        simp
      rw [hsplit, Nat.add_mul, Nat.one_mul, List.drop_left']
      rw [List.length_append, List.length_singleton]
      omega
    rw [page, hdrop]
    cases size with
    | zero => cases hsize
    | succ size => exact List.mem_cons_self
  have hpages : ((List.range pages).flatMap fun index =>
      page (arranged index) size index).Nodup := by
    rw [← Multiset.coe_nodup, heq]
    exact hnodup
  have hpairwise := (List.nodup_flatMap.mp hpages).2
  have hdisjoint := List.pairwise_iff_getElem.mp hpairwise index (index + 1)
    (by rw [List.length_range]; omega) (by rw [List.length_range]; omega) (Nat.lt_succ_self _)
  simp only [List.getElem_range] at hdisjoint
  exact hdisjoint hmem hmem'

end Positions

end InfinityRadius.Paging
