import Mathlib.Data.Finset.Card
import Mathlib.Tactic.Common

/-!
# Drawing until enough are new

A loop that draws values one after the other, passes over those it already knows, and stops
when it has as many as it wants or has drawn as often as it may.
-/

namespace InfinityRadius.Rejection

variable {α : Type} [DecidableEq α]

/-- The draws that are kept, of those that are made at most. -/
def pick : (wanted : ℕ) → (known draws : List α) → List α
  | 0, _, _ => []
  | _ + 1, _, [] => []
  | wanted + 1, known, draw :: draws =>
    if draw ∈ known then pick (wanted + 1) known draws
    else draw :: pick wanted (draw :: known) draws

/-- The values that were not known before the first draw. -/
def fresh (known draws : List α) : Finset α := draws.toFinset \ known.toFinset

variable {wanted : ℕ} {known draws : List α} {draw : α}

@[simp]
theorem pick_zero : pick 0 known draws = [] := by
  cases draws <;> rfl

@[simp]
theorem pick_nil : pick wanted known [] = [] := by
  cases wanted <;> rfl

theorem pick_cons_of_mem (h : draw ∈ known) :
    pick wanted known (draw :: draws) = pick wanted known draws := by
  cases wanted with
  | zero => simp
  | succ wanted => rw [pick, if_pos h]

theorem pick_cons_of_not_mem (h : draw ∉ known) :
    pick (wanted + 1) known (draw :: draws) = draw :: pick wanted (draw :: known) draws := by
  rw [pick, if_neg h]

/-- Only what is known matters, not in which order. -/
theorem pick_congr {known' : List α} (h : ∀ value, value ∈ known ↔ value ∈ known') :
    pick wanted known draws = pick wanted known' draws := by
  induction draws generalizing wanted known known' with
  | nil => simp
  | cons draw draws ih =>
    cases wanted with
    | zero => simp
    | succ wanted =>
      by_cases hknown : draw ∈ known
      · rw [pick_cons_of_mem hknown, pick_cons_of_mem ((h draw).mp hknown), ih h]
      · have hknown' : draw ∉ known' := fun hin => hknown ((h draw).mpr hin)
        rw [pick_cons_of_not_mem hknown, pick_cons_of_not_mem hknown']
        congr 1
        apply ih
        intro value
        rw [List.mem_cons, List.mem_cons, h value]

/-- What is kept was drawn, was not known, and is kept once. -/
theorem pick_spec (wanted : ℕ) (known draws : List α) :
    (pick wanted known draws).Nodup ∧
      ∀ value ∈ pick wanted known draws, value ∈ draws ∧ value ∉ known := by
  induction draws generalizing wanted known with
  | nil => simp
  | cons draw draws ih =>
    cases wanted with
    | zero => simp
    | succ wanted =>
      by_cases h : draw ∈ known
      · rw [pick_cons_of_mem h]
        obtain ⟨hnodup, hmem⟩ := ih (wanted + 1) known
        exact ⟨hnodup, fun value hvalue =>
          ⟨List.mem_cons_of_mem _ (hmem value hvalue).1, (hmem value hvalue).2⟩⟩
      · rw [pick_cons_of_not_mem h]
        obtain ⟨hnodup, hmem⟩ := ih wanted (draw :: known)
        constructor
        · exact List.nodup_cons.mpr
            ⟨fun hin => (hmem draw hin).2 List.mem_cons_self, hnodup⟩
        · intro value hvalue
          cases List.mem_cons.mp hvalue with
          | inl heq =>
            rw [heq]
            exact ⟨List.mem_cons_self, h⟩
          | inr hin =>
            obtain ⟨hdrawn, hnew⟩ := hmem value hin
            exact ⟨List.mem_cons_of_mem _ hdrawn, fun hknown =>
              hnew (List.mem_cons_of_mem _ hknown)⟩

theorem fresh_cons_of_mem (h : draw ∈ known) : fresh known (draw :: draws) = fresh known draws := by
  ext value
  simp only [fresh, Finset.mem_sdiff, List.mem_toFinset, List.mem_cons]
  constructor
  · rintro ⟨rfl | hdrawn, hnew⟩
    · exact absurd h hnew
    · exact ⟨hdrawn, hnew⟩
  · rintro ⟨hdrawn, hnew⟩
    exact ⟨Or.inr hdrawn, hnew⟩

theorem card_fresh_cons_of_not_mem (h : draw ∉ known) :
    (fresh known (draw :: draws)).card = (fresh (draw :: known) draws).card + 1 := by
  have hinsert : fresh known (draw :: draws) = insert draw (fresh (draw :: known) draws) := by
    ext value
    simp only [fresh, Finset.mem_insert, Finset.mem_sdiff, List.mem_toFinset, List.mem_cons]
    by_cases heq : value = draw
    · simp [heq, h]
    · simp [heq]
  rw [hinsert, Finset.card_insert_of_notMem]
  simp [fresh]

/-- As many are kept as are wanted, or as were drawn anew. -/
theorem length_pick (wanted : ℕ) (known draws : List α) :
    (pick wanted known draws).length = min wanted (fresh known draws).card := by
  induction draws generalizing wanted known with
  | nil => simp [fresh]
  | cons draw draws ih =>
    by_cases h : draw ∈ known
    · rw [pick_cons_of_mem h, fresh_cons_of_mem h, ih]
    · cases wanted with
      | zero => simp
      | succ wanted =>
        rw [pick_cons_of_not_mem h, card_fresh_cons_of_not_mem h, List.length_cons, ih]
        omega

end InfinityRadius.Rejection
