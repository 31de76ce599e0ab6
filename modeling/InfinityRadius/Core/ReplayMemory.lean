import Mathlib.Algebra.Order.Floor.Ring
import Mathlib.Tactic.Linarith
import Mathlib.Tactic.Common

/-!
# Memories of claimed keys

A key is claimed at some time and remembered for as long as it lives; until then it is refused.
Together with a clock that only accepts what is fresh, such a memory refuses replays as long as
a key lives longer than a message stays fresh.
-/

namespace InfinityRadius.ReplayMemory

section Memory

variable {Key Time : Type} [DecidableEq Key] [LinearOrder Time]

/-- Every key with the time it is forgotten at. -/
abbrev Memory (Key Time : Type) := List (Key × Time)

/-- What is not forgotten yet. -/
def live (now : Time) (memory : Memory Key Time) : Memory Key Time :=
  memory.filter fun entry => now < entry.2

def remembers (key : Key) (memory : Memory Key Time) : Bool :=
  memory.any fun entry => entry.1 = key

/-- The key is refused where it is remembered, and remembered from now on otherwise. -/
def claim [Add Time] (ttl now : Time) (key : Key) (memory : Memory Key Time) :
    Bool × Memory Key Time :=
  if remembers key (live now memory) then (false, live now memory)
  else (true, live now memory ++ [(key, now + ttl)])

variable {ttl now later expiry : Time} {key other : Key} {memory : Memory Key Time}

omit [DecidableEq Key] in
theorem mem_live {entry : Key × Time} : entry ∈ live now memory ↔ entry ∈ memory ∧ now < entry.2 := by
  simp [live]

omit [LinearOrder Time] in
theorem remembers_iff : remembers key memory = true ↔ ∃ expiry, (key, expiry) ∈ memory := by
  simp [remembers]

omit [DecidableEq Key] in
theorem live_self {now : Time} (h : expiry ≤ now) : live now [(key, expiry)] = [] := by
  simp [live, not_lt.mpr h]

section Claim

variable [Add Time]

theorem claim_accepted_iff : (claim ttl now key memory).1 = true ↔
    ∀ expiry, (key, expiry) ∈ memory → expiry ≤ now := by
  rw [claim]
  split
  · rename_i hremembers
    obtain ⟨expiry, hexpiry⟩ := remembers_iff.mp hremembers
    obtain ⟨hmem, hlater⟩ := mem_live.mp hexpiry
    constructor
    · intro hcontra
      cases hcontra
    · exact fun h => absurd hlater (not_lt.mpr (h expiry hmem))
  · rename_i hremembers
    constructor
    · intro _ expiry hmem
      by_contra hlater
      exact hremembers (remembers_iff.mpr ⟨expiry, mem_live.mpr ⟨hmem, not_le.mp hlater⟩⟩)
    · exact fun _ => rfl

/-- A key that is claimed is remembered from then on. -/
theorem mem_claim (h : (claim ttl now key memory).1 = true) :
    (key, now + ttl) ∈ (claim ttl now key memory).2 := by
  rw [claim] at h ⊢
  split at h
  · cases h
  · rename_i hremembers
    rw [if_neg hremembers]
    exact List.mem_append_right _ List.mem_cons_self

/-- Nothing is forgotten before its time. -/
theorem mem_claim_of_lt (h : (key, expiry) ∈ memory) (hlater : now < expiry) :
    (key, expiry) ∈ (claim ttl now other memory).2 := by
  have hlive : (key, expiry) ∈ live now memory := mem_live.mpr ⟨h, hlater⟩
  rw [claim]
  split
  · exact hlive
  · exact List.mem_append_left _ hlive

/-- What is remembered was so before, or has just been claimed. -/
theorem mem_of_mem_claim (h : (key, expiry) ∈ (claim ttl now other memory).2) :
    (key, expiry) ∈ memory ∨ (claim ttl now other memory).1 = true ∧ key = other := by
  rw [claim] at h ⊢
  split at h
  · exact .inl (mem_live.mp h).1
  · rename_i hremembers
    rw [if_neg hremembers]
    cases List.mem_append.mp h with
    | inl hlive => exact .inl (mem_live.mp hlive).1
    | inr hnew => exact .inr ⟨rfl, (Prod.mk.inj (List.mem_singleton.mp hnew)).1⟩

end Claim

end Memory

/-! ## Freshness -/

section Clock

variable {K : Type} [Field K] [LinearOrder K] [IsStrictOrderedRing K] [FloorRing K]

/-- `int` of a number of seconds, which drops the fraction. -/
def truncate (time : K) : ℤ := if 0 ≤ time then ⌊time⌋ else ⌈time⌉

theorem truncate_lt (time : K) : (truncate time : K) - 1 < time := by
  rw [truncate]
  split
  · linarith [Int.floor_le time]
  · linarith [Int.ceil_lt_add_one time]

theorem lt_truncate (time : K) : time < (truncate time : K) + 1 := by
  rw [truncate]
  split
  · exact Int.lt_floor_add_one time
  · linarith [Int.le_ceil time]

/-- The time read off a clock is that close to the time of a message. -/
def Fresh (skew : ℤ) (time : K) (stamp : ℤ) : Prop := |truncate time - stamp| ≤ skew

instance (skew : ℤ) (time : K) (stamp : ℤ) : Decidable (Fresh skew time stamp) :=
  inferInstanceAs (Decidable (_ ≤ _))

/-- A message is fresh for less than two seconds more than twice the skew. -/
theorem Fresh.sub_lt {skew stamp : ℤ} {first second : K} (hfirst : Fresh skew first stamp)
    (hsecond : Fresh skew second stamp) : second - first < 2 * skew + 2 := by
  obtain ⟨hfirst, -⟩ := abs_le.mp hfirst
  obtain ⟨-, hsecond⟩ := abs_le.mp hsecond
  have hlower : (stamp : K) - skew ≤ truncate first := by
    have hcast : stamp - skew ≤ truncate first := by linarith
    exact_mod_cast hcast
  have hupper : (truncate second : K) ≤ stamp + skew := by
    have hcast : truncate second ≤ stamp + skew := by linarith
    exact_mod_cast hcast
  linarith [truncate_lt first, lt_truncate second]

end Clock

end InfinityRadius.ReplayMemory
