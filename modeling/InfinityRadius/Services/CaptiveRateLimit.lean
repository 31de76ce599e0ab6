import InfinityRadius.Core.ExpiringCounters
import InfinityRadius.Core.Runs
import Mathlib.Algebra.Order.Floor.Ring
import Mathlib.Data.List.Find
import Mathlib.Data.Rat.Floor
import Mathlib.Tactic.Linarith

/-!
# The captive rate limiter

`services/captive_rate_limit.py` while Redis answers.  Every check counts against three fixed
windows, the narrowest first, and stops at the first one that is used up.
-/

namespace InfinityRadius.Services.CaptiveRateLimiter

open ExpiringCounters

inductive Dimension
  | session | phone | router
deriving DecidableEq

def Dimension.text : Dimension → String
  | session => "session"
  | phone => "phone"
  | router => "router"

/-- `captive_rate_limit_*`. -/
structure Settings where
  windowSeconds : ℤ
  perSession : ℤ
  perPhone : ℤ
  perRouter : ℤ

def Settings.limit (settings : Settings) : Dimension → ℤ
  | .session => settings.perSession
  | .phone => settings.perPhone
  | .router => settings.perRouter

def Settings.window (settings : Settings) : ℚ := settings.windowSeconds

/-- The arguments of a check, and the time of the clock. -/
structure Attempt where
  sessionId : String
  phone : String
  routerId : String
  now : ℚ

def Attempt.value (attempt : Attempt) : Dimension → String
  | .session => attempt.sessionId
  | .phone => attempt.phone
  | .router => attempt.routerId

structure RateLimitDecision where
  allowed : Bool
  dimension : Option Dimension := none
deriving DecidableEq

/-- The aligned window a time is in. -/
def bucket (settings : Settings) (now : ℚ) : ℤ :=
  if settings.windowSeconds ≤ 0 then 0 else ⌊now / settings.window⌋

def key (dimension : Dimension) (value : String) (bucket : ℤ) : String :=
  "captive:rl:" ++ dimension.text ++ ":" ++ value ++ ":" ++ toString bucket

def Attempt.key (settings : Settings) (attempt : Attempt) (dimension : Dimension) : String :=
  CaptiveRateLimiter.key dimension (attempt.value dimension) (bucket settings attempt.now)

/-- The loop over the dimensions. -/
def checkFrom (settings : Settings) (attempt : Attempt) :
    List Dimension → Store String ℚ → RateLimitDecision × Store String ℚ
  | [], store => ({ allowed := true }, store)
  | dimension :: dimensions, store =>
    if settings.limit dimension ≤ 0 then checkFrom settings attempt dimensions store
    else
      match hit (settings.limit dimension) settings.window attempt.now
        (attempt.key settings dimension) store with
      | (true, counted) => checkFrom settings attempt dimensions counted
      | (false, counted) => ({ allowed := false, dimension := some dimension }, counted)

def check (settings : Settings) (attempt : Attempt) (store : Store String ℚ) :
    RateLimitDecision × Store String ℚ :=
  checkFrom settings attempt [.session, .phone, .router] store

/-! ## Keys -/

section Keys

theorem repr_injective : Function.Injective Nat.repr := by
  intro left right h
  have hdigits := congrArg String.toList h
  rw [Nat.toList_repr, Nat.toList_repr] at hdigits
  rw [← @Nat.ofDigitChars_ten_toDigits left, hdigits, Nat.ofDigitChars_ten_toDigits]

theorem not_mem_repr {char : Char} (h : char.isDigit = false) (n : ℕ) : char ∉ n.repr.toList := by
  intro hmem
  rw [Nat.toList_repr] at hmem
  have hdigit := Nat.isDigit_of_mem_toDigits (by decide) (by decide) hmem
  rw [h] at hdigit
  cases hdigit

/-- A numeral starts with a digit, a negative one with a sign. -/
theorem repr_ne_minus (n : ℕ) (text : String) : n.repr ≠ "-" ++ text := by
  intro h
  apply @not_mem_repr '-' rfl n
  rw [h, String.toList_append]
  exact List.mem_append_left _ (List.mem_singleton.mpr rfl)

theorem toString_injective : Function.Injective (toString : ℤ → String) := by
  intro left right h
  cases left with
  | ofNat left =>
    cases right with
    | ofNat right => exact congrArg Int.ofNat (repr_injective h)
    | negSucc right => exact absurd h (repr_ne_minus left _)
  | negSucc left =>
    cases right with
    | ofNat right => exact absurd h.symm (repr_ne_minus right _)
    | negSucc right =>
      have hrepr := (String.append_right_inj "-").mp h
      exact congrArg Int.negSucc (Nat.succ.inj (repr_injective hrepr))

theorem colon_not_mem_toString (n : ℤ) : ':' ∉ (toString n).toList := by
  cases n with
  | ofNat n => exact not_mem_repr rfl n
  | negSucc n =>
    intro hmem
    have hmem : ':' ∈ ("-" ++ (n + 1).repr).toList := hmem
    rw [String.toList_append] at hmem
    rcases List.mem_append.mp hmem with hmem | hmem
    · simp at hmem
    · exact not_mem_repr rfl _ hmem

/-- What follows the last mark can be told from what is before it. -/
theorem append_cons_injective {α : Type} {mark : α} {left left' right right' : List α}
    (hright : mark ∉ right) (hright' : mark ∉ right')
    (h : left ++ mark :: right = left' ++ mark :: right') : left = left' ∧ right = right' := by
  rcases List.append_eq_append_iff.mp h with ⟨middle, rfl, hmiddle⟩ | ⟨middle, rfl, hmiddle⟩
  · cases middle with
    | nil => exact ⟨(List.append_nil _).symm, (List.cons.inj hmiddle).2⟩
    | cons first middle =>
      rw [(List.cons.inj hmiddle).2] at hright
      exact absurd (List.mem_append_right _ List.mem_cons_self) hright
  · cases middle with
    | nil => exact ⟨List.append_nil _, (List.cons.inj hmiddle).2.symm⟩
    | cons first middle =>
      rw [(List.cons.inj hmiddle).2] at hright'
      exact absurd (List.mem_append_right _ List.mem_cons_self) hright'

/-- The text of a key after its dimension. -/
theorem toList_key (dimension : Dimension) (value : String) (index : ℤ) :
    (key dimension value index).toList = "captive:rl:".toList ++ (dimension.text.toList ++
      ':' :: (value.toList ++ ':' :: (toString index).toList)) := by
  simp [key, String.toList_append]

/-- Different windows, of whatever dimension, have different keys. -/
theorem key_injective {dimension dimension' : Dimension} {value value' : String}
    {index index' : ℤ} (h : key dimension value index = key dimension' value' index') :
    dimension = dimension' ∧ value = value' ∧ index = index' := by
  have hlist := congrArg String.toList h
  rw [toList_key, toList_key] at hlist
  have hrest := List.append_cancel_left hlist
  have hdimension : dimension = dimension' := by
    cases dimension <;> cases dimension' <;> simp [Dimension.text] at hrest <;> rfl
  subst hdimension
  have hvalue := (List.cons.inj (List.append_cancel_left hrest)).2
  obtain ⟨hvalue, hindex⟩ := append_cons_injective (colon_not_mem_toString index)
    (colon_not_mem_toString index') hvalue
  exact ⟨rfl, String.toList_inj.mp hvalue, toString_injective (String.toList_inj.mp hindex)⟩

end Keys

/-! ## One check -/

section Check

variable {settings : Settings} {attempt : Attempt} {store : Store String ℚ}
  {dimensions : List Dimension} {dimension : Dimension}

/-- The limit of a dimension is on, and its window is used up. -/
def Exhausted (settings : Settings) (attempt : Attempt) (store : Store String ℚ)
    (dimension : Dimension) : Prop :=
  0 < settings.limit dimension ∧
    settings.limit dimension ≤ count attempt.now (attempt.key settings dimension) store

instance : Decidable (Exhausted settings attempt store dimension) :=
  inferInstanceAs (Decidable (_ ∧ _))

/-- The decision that names the first dimension, if any. -/
def decisionOf : Option Dimension → RateLimitDecision
  | none => { allowed := true }
  | some dimension => { allowed := false, dimension := some dimension }

theorem key_ne_of_ne {other : Dimension} (h : other ≠ dimension) :
    attempt.key settings other ≠ attempt.key settings dimension :=
  fun heq => h (key_injective heq).1

/-- A check is decided by the first dimension that is used up. -/
theorem checkFrom_fst (hnodup : dimensions.Nodup) :
    (checkFrom settings attempt dimensions store).1 =
      decisionOf (dimensions.find? fun dimension => Exhausted settings attempt store dimension) := by
  induction dimensions generalizing store with
  | nil => rfl
  | cons dimension dimensions ih =>
    obtain ⟨hnot, hnodup⟩ := List.nodup_cons.mp hnodup
    rw [checkFrom]
    by_cases hoff : settings.limit dimension ≤ 0
    · have hopen : ¬Exhausted settings attempt store dimension := fun h => absurd h.1 (by omega)
      rw [if_pos hoff, ih hnodup, List.find?_cons_of_neg (by simpa using hopen)]
    · rw [if_neg hoff]
      generalize hhit : hit (settings.limit dimension) settings.window attempt.now
        (attempt.key settings dimension) store = result
      obtain ⟨within, counted⟩ := result
      have hfst := @hit_fst _ _ _ _ _ (settings.limit dimension) settings.window attempt.now
        (attempt.key settings dimension) store
      rw [hhit] at hfst
      cases within with
      | true =>
        have hopen : ¬Exhausted settings attempt store dimension :=
          fun h => absurd (hfst.mp rfl) (not_lt.mpr h.2)
        simp only
        rw [ih hnodup, List.find?_cons_of_neg (by simpa using hopen)]
        congr 1
        apply List.find?_congr
        intro other hother
        have hne : other ≠ dimension := fun heq => hnot (heq ▸ hother)
        have hsame : counted (attempt.key settings other) = store (attempt.key settings other) := by
          have h := @hit_other _ _ _ _ _ (settings.limit dimension) settings.window attempt.now
            (attempt.key settings dimension) (attempt.key settings other) store (key_ne_of_ne hne)
          rwa [hhit] at h
        apply decide_eq_decide.mpr
        unfold Exhausted
        rw [count_congr hsame]
      | false =>
        have hlimit : Exhausted settings attempt store dimension :=
          ⟨by omega, not_lt.mp fun h => absurd (hfst.mpr h) Bool.false_ne_true⟩
        rw [List.find?_cons_of_pos (by simpa using hlimit)]
        rfl

theorem decisionOf_allowed {found : Option Dimension} :
    (decisionOf found).allowed = true ↔ found = none := by
  cases found <;> simp [decisionOf]

/-- A check is allowed where no dimension is used up. -/
theorem checkFrom_allowed (hnodup : dimensions.Nodup) :
    (checkFrom settings attempt dimensions store).1.allowed = true ↔
      ∀ dimension ∈ dimensions, ¬Exhausted settings attempt store dimension := by
  rw [checkFrom_fst hnodup, decisionOf_allowed, List.find?_eq_none]
  simp

/-- A check leaves a window alone or hits it once; and a check that is allowed hits the window of
every dimension whose limit is on. -/
theorem checkFrom_snd (hnodup : dimensions.Nodup) (hwindow : 0 < settings.window) (text : String) :
    ((checkFrom settings attempt dimensions store).2 text = store text ∧
      ((checkFrom settings attempt dimensions store).1.allowed = true →
        ∀ dimension ∈ dimensions, 0 < settings.limit dimension →
          attempt.key settings dimension ≠ text)) ∨
    ∃ dimension ∈ dimensions, 0 < settings.limit dimension ∧
      attempt.key settings dimension = text ∧
      (checkFrom settings attempt dimensions store).2 text =
        (hit (settings.limit dimension) settings.window attempt.now text store).2 text := by
  induction dimensions generalizing store with
  | nil => exact Or.inl ⟨rfl, fun _ _ h => by cases h⟩
  | cons dimension dimensions ih =>
    obtain ⟨hnot, hnodup⟩ := List.nodup_cons.mp hnodup
    rw [checkFrom]
    by_cases hoff : settings.limit dimension ≤ 0
    · rw [if_pos hoff]
      rcases @ih store hnodup with ⟨hsame, hall⟩ | ⟨other, hother, hrest⟩
      · refine Or.inl ⟨hsame, fun hallowed => ?_⟩
        intro other hother hon
        rcases List.mem_cons.mp hother with rfl | hother
        · omega
        · exact hall hallowed other hother hon
      · exact Or.inr ⟨other, List.mem_cons_of_mem _ hother, hrest⟩
    · have hon : 0 < settings.limit dimension := by omega
      rw [if_neg hoff]
      generalize hhit : hit (settings.limit dimension) settings.window attempt.now
        (attempt.key settings dimension) store = result
      obtain ⟨within, counted⟩ := result
      have hcounted : counted = (hit (settings.limit dimension) settings.window attempt.now
        (attempt.key settings dimension) store).2 := by rw [hhit]
      by_cases hkey : attempt.key settings dimension = text
      · -- The head is the one dimension with this key.
        right
        refine ⟨dimension, List.mem_cons_self, hon, hkey, ?_⟩
        rw [← hkey, ← hcounted]
        cases within with
        | false => rfl
        | true =>
          rcases @ih counted hnodup with ⟨hsame, -⟩ | ⟨other, hother, -, hother', -⟩
          · rw [hkey]
            exact hsame
          · have heq := (key_injective (hother'.trans hkey.symm)).1
            exact absurd (heq ▸ hother) hnot
      · have hsame : counted text = store text := by
          rw [hcounted]
          exact hit_other fun heq => hkey heq.symm
        cases within with
        | false => exact Or.inl ⟨hsame, fun hallowed => by cases hallowed⟩
        | true =>
          rcases @ih counted hnodup with ⟨hrest, hall⟩ | ⟨other, hother, hlimit, hother', hrest⟩
          · refine Or.inl ⟨hrest.trans hsame, fun hallowed => ?_⟩
            intro other hother hon
            rcases List.mem_cons.mp hother with rfl | hother
            · exact hkey
            · exact hall hallowed other hother hon
          · refine Or.inr ⟨other, List.mem_cons_of_mem _ hother, hlimit, hother', ?_⟩
            exact hrest.trans (hit_self_congr hwindow hsame)

end Check

/-! ## Windows -/

section Windows

variable {settings : Settings} {now : ℚ} {index : ℤ}

/-- The end of an aligned window. -/
def finish (settings : Settings) (index : ℤ) : ℚ := (index + 1) * settings.window

theorem window_pos (h : 0 < settings.windowSeconds) : 0 < settings.window := by
  unfold Settings.window
  exact_mod_cast h

theorem bucket_eq (h : 0 < settings.windowSeconds) : bucket settings now = ⌊now / settings.window⌋ :=
  if_neg (not_le.mpr h)

/-- A key that is first used within a window and lives as long as one lasts until its end. -/
theorem finish_of_bucket (h : 0 < settings.windowSeconds) (hindex : bucket settings now = index) :
    now < finish settings index ∧ finish settings index ≤ now + settings.window := by
  have hpos := window_pos h
  rw [bucket_eq h] at hindex
  obtain ⟨hlow, hhigh⟩ := Int.floor_eq_iff.mp hindex
  rw [le_div_iff₀ hpos] at hlow
  rw [div_lt_iff₀ hpos] at hhigh
  unfold finish
  constructor
  · exact hhigh
  · linarith

/-- An interval as long as a window meets two of them at most. -/
theorem bucket_of_interval (h : 0 < settings.windowSeconds) {start : ℚ} (hstart : start ≤ now)
    (hnow : now ≤ start + settings.window) :
    bucket settings now = bucket settings start ∨
      bucket settings now = bucket settings start + 1 := by
  have hpos := window_pos h
  rw [bucket_eq h, bucket_eq h]
  have hlow : ⌊start / settings.window⌋ ≤ ⌊now / settings.window⌋ :=
    Int.floor_le_floor (div_le_div_of_nonneg_right hstart hpos.le)
  have hhigh : ⌊now / settings.window⌋ ≤ ⌊start / settings.window⌋ + 1 := by
    rw [← Int.floor_add_one]
    apply Int.floor_le_floor
    rw [div_le_iff₀ hpos, add_mul, div_mul_cancel₀ _ hpos.ne']
    linarith
  omega

end Windows

/-! ## Runs of checks -/

/-- The state of Redis after a check. -/
def next (settings : Settings) (attempt : Attempt) (store : Store String ℚ) : Store String ℚ :=
  (check settings attempt store).2

/-- The checks of a run, with their decisions. -/
def decisions (settings : Settings) :
    List Attempt → Store String ℚ → List (Attempt × RateLimitDecision)
  | [], _ => []
  | attempt :: attempts, store =>
    (attempt, (check settings attempt store).1) ::
      decisions settings attempts (next settings attempt store)

/-- How many checks of one session, phone or router were allowed at such times. -/
def allowed (settings : Settings) (attempts : List Attempt) (store : Store String ℚ)
    (dimension : Dimension) (value : String) (during : ℚ → Bool) : ℕ :=
  (decisions settings attempts store).countP fun decided =>
    decided.2.allowed && decided.1.value dimension == value && during decided.1.now

section Runs

variable {settings : Settings} {attempts : List Attempt} {store : Store String ℚ}
  {dimension : Dimension} {value : String} {index tally : ℤ}

/-- What one check does to the tally of a window. -/
theorem tallies_check (hwindow : 0 < settings.windowSeconds) (hlimit : 0 < settings.limit dimension)
    (attempt : Attempt)
    (h : Tallies store (key dimension value index) tally (finish settings index)) :
    Tallies (next settings attempt store) (key dimension value index) tally
      (finish settings index) ∧
    ((check settings attempt store).1.allowed = true → attempt.value dimension = value →
      bucket settings attempt.now = index →
      tally < settings.limit dimension ∧
        Tallies (next settings attempt store) (key dimension value index) (tally + 1)
          (finish settings index)) := by
  have hpos := window_pos hwindow
  have hnodup : [Dimension.session, .phone, .router].Nodup := by decide
  have hmem : dimension ∈ [Dimension.session, .phone, .router] := by cases dimension <;> decide
  rcases @checkFrom_snd settings attempt store _ hnodup hpos (key dimension value index) with
    ⟨hsame, hall⟩ | ⟨other, -, -, hkey, hcounted⟩
  · refine ⟨h.congr hsame, ?_⟩
    rintro hallowed rfl rfl
    exact absurd rfl (hall hallowed dimension hmem hlimit)
  · obtain ⟨rfl, rfl, hindex⟩ := key_injective hkey
    obtain ⟨hnow, hfinish⟩ := finish_of_bucket hwindow hindex
    have hnext : Tallies (next settings attempt store)
        (key other (attempt.value other) index) (tally + 1) (finish settings index) := by
      exact Tallies.congr (h.hit hnow hfinish hpos) hcounted
    refine ⟨hnext.mono (by omega), fun hallowed _ _ => ⟨?_, hnext⟩⟩
    have hopen := (checkFrom_allowed hnodup).mp hallowed other hmem
    have hle := h.le_count hnow
    rw [← hkey] at hle
    by_contra hfull
    exact hopen ⟨hlimit, by omega⟩

theorem allowed_le_limit (hwindow : 0 < settings.windowSeconds)
    (hlimit : 0 < settings.limit dimension) (htally : tally ≤ settings.limit dimension)
    (h : Tallies store (key dimension value index) tally (finish settings index)) :
    tally + allowed settings attempts store dimension value
      (fun now => bucket settings now == index) ≤ settings.limit dimension := by
  induction attempts generalizing store tally with
  | nil => simpa [allowed, decisions] using htally
  | cons attempt attempts ih =>
    obtain ⟨hkept, hadded⟩ := tallies_check hwindow hlimit attempt h
    unfold allowed at ih ⊢
    rw [decisions, List.countP_cons]
    by_cases hcounts : ((check settings attempt store).1.allowed &&
        attempt.value dimension == value && bucket settings attempt.now == index) = true
    · rw [if_pos hcounts]
      simp only [Bool.and_eq_true, beq_iff_eq] at hcounts
      obtain ⟨⟨hallowed, hvalue⟩, hindex⟩ := hcounts
      obtain ⟨hless, hnext⟩ := hadded hallowed hvalue hindex
      have hrest := @ih (next settings attempt store) (tally + 1) (by omega) hnext
      push_cast
      linarith
    · rw [if_neg hcounts]
      exact ih htally hkept

theorem allowed_mono {during during' : ℚ → Bool} (h : ∀ now, during now = true → during' now = true) :
    allowed settings attempts store dimension value during ≤
      allowed settings attempts store dimension value during' := by
  apply List.countP_mono_left
  intro decided _ hdecided
  rw [Bool.and_eq_true] at hdecided ⊢
  exact ⟨hdecided.1, h _ hdecided.2⟩

theorem countP_or_le {α : Type} (p q r : α → Bool) (rows : List α) :
    rows.countP (fun row => p row && (q row || r row)) ≤
      rows.countP (fun row => p row && q row) + rows.countP (fun row => p row && r row) := by
  induction rows with
  | nil => exact le_refl 0
  | cons row rows ih =>
    have hrow : (if (p row && (q row || r row)) = true then 1 else 0) ≤
        (if (p row && q row) = true then 1 else 0) +
          (if (p row && r row) = true then 1 else 0) := by
      cases p row <;> cases q row <;> cases r row <;> decide
    rw [List.countP_cons, List.countP_cons, List.countP_cons]
    omega

theorem allowed_or_le (during during' : ℚ → Bool) :
    allowed settings attempts store dimension value (fun now => during now || during' now) ≤
      allowed settings attempts store dimension value during +
        allowed settings attempts store dimension value during' :=
  countP_or_le (fun decided : Attempt × RateLimitDecision =>
    decided.2.allowed && decided.1.value dimension == value)
    (fun decided => during decided.1.now) (fun decided => during' decided.1.now) _

/-- The order the dimensions are checked in. -/
def Dimension.rank : Dimension → ℕ
  | session => 0
  | phone => 1
  | router => 2

/-- A decision names the first dimension that is used up, and no dimension whose limit is off. -/
structure Decides (settings : Settings) (attempt : Attempt) (store : Store String ℚ) : Prop where
  allows : (check settings attempt store).1 = { allowed := true } ↔
    ∀ dimension, ¬Exhausted settings attempt store dimension
  rejects : ∀ dimension,
    (check settings attempt store).1 = { allowed := false, dimension := some dimension } ↔
      Exhausted settings attempt store dimension ∧
        ∀ other, other.rank < dimension.rank → ¬Exhausted settings attempt store other
  either : (check settings attempt store).1 = { allowed := true } ∨
    ∃ dimension, (check settings attempt store).1 = { allowed := false, dimension := some dimension }
  disabled : ∀ dimension, settings.limit dimension ≤ 0 →
    (check settings attempt store).1.dimension ≠ some dimension

/-- The first of the three dimensions with a property. -/
theorem find?_dimension (P : Dimension → Prop) [DecidablePred P] (dimension : Dimension) :
    [Dimension.session, .phone, .router].find? (fun dimension => P dimension) = some dimension ↔
      P dimension ∧ ∀ other : Dimension, other.rank < dimension.rank → ¬P other := by
  have hall : ∀ {Q : Dimension → Prop},
      (∀ dimension, Q dimension) ↔ Q .session ∧ Q .phone ∧ Q .router := by
    intro Q
    exact ⟨fun h => ⟨h _, h _, h _⟩, fun h dimension => by cases dimension <;> simp [h]⟩
  rw [hall]
  by_cases hsession : P .session <;> by_cases hphone : P .phone <;>
    by_cases hrouter : P .router <;> cases dimension <;>
    simp [List.find?, Dimension.rank, hsession, hphone, hrouter]

theorem decisionOf_injective : Function.Injective decisionOf := by
  intro left right h
  cases left <;> cases right <;> simp_all [decisionOf]

theorem decides (attempt : Attempt) : Decides settings attempt store := by
  have hdecision : (check settings attempt store).1 =
      decisionOf ([Dimension.session, .phone, .router].find? fun dimension =>
        Exhausted settings attempt store dimension) := checkFrom_fst (by decide)
  have hmem : ∀ dimension, dimension ∈ [Dimension.session, .phone, .router] := by
    intro dimension
    cases dimension <;> decide
  constructor
  · rw [hdecision, show ({ allowed := true } : RateLimitDecision) = decisionOf none from rfl,
      decisionOf_injective.eq_iff, List.find?_eq_none]
    simp [hmem]
  · intro dimension
    rw [hdecision, ← find?_dimension (Exhausted settings attempt store)]
    have hiff : ∀ found, decisionOf found = decisionOf (some dimension) ↔ found = some dimension :=
      fun found => decisionOf_injective.eq_iff
    exact hiff _
  · rw [hdecision]
    cases [Dimension.session, .phone, .router].find? fun dimension =>
        Exhausted settings attempt store dimension with
    | none => exact Or.inl rfl
    | some dimension => exact Or.inr ⟨dimension, rfl⟩
  · intro dimension hoff hnamed
    rw [hdecision] at hnamed
    cases hfind : [Dimension.session, .phone, .router].find? fun dimension =>
        Exhausted settings attempt store dimension with
    | none =>
      rw [hfind] at hnamed
      cases hnamed
    | some found =>
      rw [hfind] at hnamed
      obtain rfl := Option.some.inj hnamed
      have hexhausted := ((find?_dimension (Exhausted settings attempt store) found).mp hfind).1
      exact absurd hexhausted.1 (not_lt.mpr hoff)

/-- From an empty Redis, every run of checks allows at most as many of one session, phone or
router in an aligned window as the limit says, and twice as many in an interval as long. -/
theorem check_limits (hwindow : 0 < settings.windowSeconds) (attempts : List Attempt) :
    (∀ dimension, 0 < settings.limit dimension → ∀ value,
      (∀ index, allowed settings attempts (fun _ => none) dimension value
        (fun now => bucket settings now == index) ≤ settings.limit dimension) ∧
      ∀ start, allowed settings attempts (fun _ => none) dimension value
        (fun now => decide (start ≤ now ∧ now ≤ start + settings.window)) ≤
          2 * settings.limit dimension) ∧
    Runs.All (next settings) (Decides settings) attempts fun _ => none := by
  constructor
  · intro dimension hlimit value
    have hbucket : ∀ index, (allowed settings attempts (fun _ => none) dimension value
        fun now => bucket settings now == index : ℤ) ≤ settings.limit dimension := by
      intro index
      have h := @allowed_le_limit settings attempts (fun _ => none) dimension value index 0 hwindow
        hlimit hlimit.le (le_refl 0)
      omega
    refine ⟨hbucket, fun start => ?_⟩
    have hcover := @allowed_mono settings attempts (fun _ => none) dimension value
      (fun now => decide (start ≤ now ∧ now ≤ start + settings.window))
      (fun now => bucket settings now == bucket settings start ||
        bucket settings now == bucket settings start + 1) (by
          intro now hnow
          obtain ⟨hstart, hend⟩ := of_decide_eq_true hnow
          simpa using bucket_of_interval hwindow hstart hend)
    have hsum := @allowed_or_le settings attempts (fun _ => none) dimension value
      (fun now => bucket settings now == bucket settings start)
      (fun now => bucket settings now == bucket settings start + 1)
    have hfirst := hbucket (bucket settings start)
    have hsecond := hbucket (bucket settings start + 1)
    omega
  · exact Runs.All.of_forall (fun attempt _ store => decides attempt) _

end Runs

/-! ## A window of ten seconds -/

def sampleSettings : Settings := { windowSeconds := 10, perSession := 1, perPhone := 1, perRouter := 0 }

def sampleAttempts : List Attempt :=
  [⟨"s", "255712345678", "r", 9⟩, ⟨"s", "255712345678", "r", 9⟩, ⟨"t", "255712345678", "r", 11⟩]

/-- Two attempts of one phone within two seconds, in two windows. -/
theorem check_limits_acrossWindows :
    (∀ dimension, 0 < sampleSettings.limit dimension → ∀ value,
      (∀ index, allowed sampleSettings sampleAttempts (fun _ => none) dimension value
        (fun now => bucket sampleSettings now == index) ≤ sampleSettings.limit dimension) ∧
      ∀ start, allowed sampleSettings sampleAttempts (fun _ => none) dimension value
        (fun now => decide (start ≤ now ∧ now ≤ start + sampleSettings.window)) ≤
          2 * sampleSettings.limit dimension) ∧
    Runs.All (next sampleSettings) (Decides sampleSettings) sampleAttempts fun _ => none :=
  check_limits (by decide) sampleAttempts

end InfinityRadius.Services.CaptiveRateLimiter
