import Mathlib.Algebra.Order.Group.Defs
import Mathlib.Data.Int.Order.Basic
import Mathlib.Logic.Function.Basic
import Mathlib.Tactic.Common

/-!
# Counters that expire

What Redis offers a fixed-window limiter: `INCR`, which starts at one, and `EXPIRE`, which lets a
key end after some time.  A counter whose first hit gave it a whole window to live still counts
at the end of the window that hit was in.
-/

namespace InfinityRadius.ExpiringCounters

variable {Key Time : Type} [LinearOrder Time]

structure Counter (Time : Type) where
  value : ℤ
  expiresAt : Option Time

abbrev Store (Key Time : Type) := Key → Option (Counter Time)

def Counter.Live (now : Time) (counter : Counter Time) : Prop :=
  ∀ expiry, counter.expiresAt = some expiry → now < expiry

instance (now : Time) (counter : Counter Time) : Decidable (counter.Live now) :=
  match h : counter.expiresAt with
  | none => isTrue fun _ heq => by rw [h] at heq; cases heq
  | some expiry => decidable_of_iff (now < expiry) (by simp [Counter.Live, h])

/-- The counter under a key, unless it expired, and a new one otherwise. -/
def get (now : Time) (key : Key) (store : Store Key Time) : Counter Time :=
  match store key with
  | none => ⟨0, none⟩
  | some counter => if counter.Live now then counter else ⟨0, none⟩

/-- The value the next hit finds. -/
def count (now : Time) (key : Key) (store : Store Key Time) : ℤ := (get now key store).value

/-- The counter has counted at least so many hits, and lives until then. -/
def Tallies (store : Store Key Time) (key : Key) (tally : ℤ) (finish : Time) : Prop :=
  match store key with
  | none => tally ≤ 0
  | some counter => 1 ≤ counter.value ∧ tally ≤ counter.value ∧
      ∃ expiry, counter.expiresAt = some expiry ∧ finish ≤ expiry

theorem live_get (now : Time) (key : Key) (store : Store Key Time) : (get now key store).Live now := by
  unfold get
  split
  · nofun
  · split
    · assumption
    · nofun

section Tallies

variable {now finish : Time} {key : Key} {store store' : Store Key Time} {tally tally' : ℤ}

theorem get_congr (h : store' key = store key) : get now key store' = get now key store := by
  unfold get
  rw [h]

theorem count_congr (h : store' key = store key) : count now key store' = count now key store :=
  congrArg Counter.value (get_congr h)

theorem Tallies.congr (h : Tallies store key tally finish) (heq : store' key = store key) :
    Tallies store' key tally finish := by
  unfold Tallies at h ⊢
  rwa [heq]

theorem Tallies.mono (h : Tallies store key tally finish) (hle : tally' ≤ tally) :
    Tallies store key tally' finish := by
  unfold Tallies at h ⊢
  cases hstore : store key with
  | none =>
    rw [hstore] at h
    exact hle.trans h
  | some counter =>
    rw [hstore] at h
    exact ⟨h.1, hle.trans h.2.1, h.2.2⟩

/-- Until then the counter is new, or is found as it was left. -/
theorem Tallies.get (h : Tallies store key tally finish) (hnow : now < finish) :
    tally ≤ 0 ∧ get now key store = ⟨0, none⟩ ∨
      tally ≤ (get now key store).value ∧ 1 ≤ (get now key store).value ∧
        ∃ expiry, (get now key store).expiresAt = some expiry ∧ finish ≤ expiry := by
  unfold Tallies at h
  unfold ExpiringCounters.get
  cases hstore : store key with
  | none =>
    rw [hstore] at h
    exact Or.inl ⟨h, rfl⟩
  | some counter =>
    rw [hstore] at h
    obtain ⟨hone, hle, expiry, hexpiry, hfinish⟩ := h
    have hlive : counter.Live now := by
      intro other hother
      obtain rfl := Option.some.inj (hexpiry.symm.trans hother)
      exact hnow.trans_le hfinish
    right
    simp only [if_pos hlive]
    exact ⟨hle, hone, expiry, hexpiry, hfinish⟩

theorem Tallies.le_count (h : Tallies store key tally finish) (hnow : now < finish) :
    tally ≤ count now key store := by
  unfold count
  rcases h.get hnow with ⟨hle, hget⟩ | ⟨hle, -⟩
  · rw [hget]
    exact hle
  · exact hle

end Tallies

/-! ## Hits -/

variable [DecidableEq Key]

/-- `INCR`, which keeps the time the key ends at. -/
def incr (now : Time) (key : Key) (store : Store Key Time) : ℤ × Store Key Time :=
  let counter := get now key store
  (counter.value + 1, Function.update store key (some { counter with value := counter.value + 1 }))

variable [AddZeroClass Time]

/-- `EXPIRE`, which deletes the key where there is no time left. -/
def expire (now : Time) (key : Key) (ttl : Time) (store : Store Key Time) : Store Key Time :=
  Function.update store key <|
    if ttl ≤ 0 then none
    else (store key).bind fun counter =>
      if counter.Live now then some { counter with expiresAt := some (now + ttl) } else none

/-- One hit: the first one sets the time the key ends at. -/
def hit (limit : ℤ) (ttl now : Time) (key : Key) (store : Store Key Time) :
    Bool × Store Key Time :=
  let (value, counted) := incr now key store
  (decide (value ≤ limit), if value = 1 then expire now key ttl counted else counted)

section Hit

variable {limit : ℤ} {ttl now finish : Time} {key other : Key} {store store' : Store Key Time}
  {tally : ℤ}

/-- A hit counts where the value it finds is below the limit. -/
theorem hit_fst : (hit limit ttl now key store).1 = true ↔ count now key store < limit := by
  rw [hit, incr, decide_eq_true_iff]
  exact Int.add_one_le_iff

/-- A hit concerns its own key. -/
theorem hit_other (hne : other ≠ key) : (hit limit ttl now key store).2 other = store other := by
  unfold hit incr expire
  simp only
  split
  · rw [Function.update_of_ne hne, Function.update_of_ne hne]
  · rw [Function.update_of_ne hne]

theorem hit_self (httl : 0 < ttl) : (hit limit ttl now key store).2 key =
    some ⟨count now key store + 1, if count now key store + 1 = 1 then some (now + ttl)
      else (get now key store).expiresAt⟩ := by
  unfold hit incr expire count
  simp only
  split
  · have hlive : ∀ value, Counter.Live now ⟨value, (get now key store).expiresAt⟩ :=
      fun _ => live_get now key store
    rw [Function.update_self, if_neg (not_le.mpr httl), Function.update_self, Option.bind_some,
      if_pos (hlive _)]
  · rw [Function.update_self]

theorem hit_self_congr (httl : 0 < ttl) (h : store' key = store key) :
    (hit limit ttl now key store').2 key = (hit limit ttl now key store).2 key := by
  rw [hit_self httl, hit_self httl, count_congr h, get_congr h]

/-- A hit within the window adds to the tally. -/
theorem Tallies.hit (h : Tallies store key tally finish) (hnow : now < finish)
    (hfinish : finish ≤ now + ttl) (httl : 0 < ttl) :
    Tallies (hit limit ttl now key store).2 key (tally + 1) finish := by
  unfold Tallies
  rw [hit_self httl]
  unfold count
  rcases h.get hnow with ⟨hle, hget⟩ | ⟨hle, hone, expiry, hexpiry, hlate⟩
  · rw [hget]
    exact ⟨le_refl _, Int.add_le_add_right hle 1, now + ttl, rfl, hfinish⟩
  · rw [if_neg (by omega)]
    refine ⟨?_, Int.add_le_add_right hle 1, expiry, hexpiry, hlate⟩
    exact hone.trans (Int.le_add_one (le_refl _))

end Hit

end InfinityRadius.ExpiringCounters
