import InfinityRadius.Core.Phone

/-!
# One form for one handset

`core/phone.py` promises the canonical `255XXXXXXXXX` of twelve digits, and its callers take
equality of results as identity of a handset.  `\d` matches the decimal digits of every script
and the result keeps them as they were typed, so the promise is kept exactly where the subscriber
number is typed in ASCII digits.
-/

namespace InfinityRadius.Phone

open Payload

/-! ## What the callers expect -/

/-- `6` or `7` and eight ASCII digits. -/
def isAsciiSubscriber : List Char → Bool
  | first :: rest => ['6', '7'].contains first && rest.length == 8 && rest.all Char.isDigit
  | [] => false

/-- Whitespace, hyphens and parentheses, which a number may be typed with. -/
def isSeparator (c : Char) : Bool := isSpace c || ['-', '(', ')'].contains c

/-- What is left of a text without its separators. -/
def deleted (raw : String) : List Char := raw.toList.filter fun c => !isSeparator c

/-- The text is, up to separators, `0` or an optional `+` and `255`, and a subscriber number. -/
def Acceptable (raw : String) : Prop :=
  ∃ subscriber, isAsciiSubscriber subscriber = true ∧
    (deleted raw = '0' :: subscriber ∨ deleted raw = '2' :: '5' :: '5' :: subscriber ∨
      deleted raw = '+' :: '2' :: '5' :: '5' :: subscriber)

/-- The normal form of one text is what the callers expect of it. -/
structure Canonical (raw : String) : Prop where
  form : ∀ phone, normalizeTzPhone raw = some phone →
    ∃ subscriber, isAsciiSubscriber subscriber = true ∧
      phone = "255" ++ String.ofList subscriber
  accepts : (normalizeTzPhone raw).isSome = true ↔ Acceptable raw
  idempotent : ∀ phone, normalizeTzPhone raw = some phone → normalizeTzPhone phone = some phone

/-- The nine digits of the subscriber number an accepted text denotes. -/
def subscriberNumber (raw : String) : Option (List (Option ℕ)) :=
  ((subscriberOf (deleted raw)).filter isSubscriber).map fun subscriber => subscriber.map digit

/-- Two accepted texts have one normal form exactly when they denote one subscriber number. -/
def SameHandset (first second : String) : Prop :=
  ∀ phone phone', normalizeTzPhone first = some phone → normalizeTzPhone second = some phone' →
    (phone = phone' ↔ subscriberNumber first = subscriberNumber second)

/-- A subscriber number follows one of the three prefixes, with a digit outside ASCII. -/
def Foreign (raw : String) : Prop :=
  ∃ subscriber, subscriberOf (deleted raw) = some subscriber ∧ isSubscriber subscriber = true ∧
    ∃ c ∈ subscriber, c.isDigit = false

/-! ## Cleaning -/

theorem filter_dropWhile {p q : Char → Bool} (h : ∀ c, q c = true → p c = false)
    (chars : List Char) : (chars.dropWhile q).filter p = chars.filter p := by
  induction chars with
  | nil => rfl
  | cons c rest ih =>
    by_cases hc : q c = true
    · rw [List.dropWhile_cons_of_pos hc, ih, List.filter_cons_of_neg (by simp [h c hc])]
    · rw [List.dropWhile_cons_of_neg hc]

theorem filter_stripChars {p : Char → Bool} (h : ∀ c, isSpace c = true → p c = false)
    (chars : List Char) : (stripChars chars).filter p = chars.filter p := by
  rw [stripChars, List.filter_reverse, filter_dropWhile h, List.filter_reverse,
    List.reverse_reverse, filter_dropWhile h]

/-- Stripping first changes nothing, since whitespace goes anyway. -/
theorem cleaned_eq_deleted (raw : String) : cleaned raw = deleted raw := by
  apply filter_stripChars
  intro c hc
  simp [hc]

theorem normalizeTzPhone_eq_some {raw phone : String} :
    normalizeTzPhone raw = some phone ↔
      ∃ subscriber, subscriberOf (deleted raw) = some subscriber ∧
        isSubscriber subscriber = true ∧ phone = "255" ++ String.ofList subscriber := by
  rw [normalizeTzPhone, cleaned_eq_deleted, Option.map_eq_some_iff]
  constructor
  · intro ⟨subscriber, hsubscriber, hphone⟩
    have hboth := Option.filter_eq_some_iff.mp hsubscriber
    exact ⟨subscriber, hboth.1, hboth.2, hphone.symm⟩
  · intro ⟨subscriber, hsubscriber, hvalid, hphone⟩
    exact ⟨subscriber, Option.filter_eq_some_iff.mpr ⟨hsubscriber, hvalid⟩, hphone.symm⟩

theorem subscriberNumber_of_subscriberOf {raw : String} {subscriber : List Char}
    (hsubscriber : subscriberOf (deleted raw) = some subscriber)
    (hvalid : isSubscriber subscriber = true) :
    subscriberNumber raw = some (subscriber.map digit) := by
  rw [subscriberNumber, hsubscriber, Option.filter_some, if_pos hvalid, Option.map_some]

theorem subscriberOf_eq_some {chars subscriber : List Char} :
    subscriberOf chars = some subscriber ↔
      chars = '0' :: subscriber ∨ chars = '2' :: '5' :: '5' :: subscriber ∨
        chars = '+' :: '2' :: '5' :: '5' :: subscriber := by
  constructor
  · intro h
    revert h
    fun_cases subscriberOf chars
    all_goals simp
  · rintro (rfl | rfl | rfl) <;> rfl

/-! ## ASCII digits -/

/-- On ASCII digits, the value tells the digit. -/
theorem eq_of_digit_eq {c d : Char} (hc : c.isDigit = true) (hd : d.isDigit = true)
    (h : digit c = digit d) : c = d := by
  rw [digit_of_isDigit hc, digit_of_isDigit hd, Option.some.injEq] at h
  have hc' := isDigit_bounds hc
  have hd' := isDigit_bounds hd
  apply Char.toNat_inj.mp
  omega

theorem eq_of_map_digit_eq {first second : List Char} (hfirst : ∀ c ∈ first, c.isDigit = true)
    (hsecond : ∀ c ∈ second, c.isDigit = true) (h : first.map digit = second.map digit) :
    first = second := by
  induction first generalizing second with
  | nil => exact (List.map_eq_nil_iff.mp h.symm).symm
  | cons c rest ih =>
    cases second with
    | nil => cases h
    | cons d rest' =>
      rw [List.map_cons, List.map_cons, List.cons.injEq] at h
      rw [eq_of_digit_eq (hfirst c List.mem_cons_self) (hsecond d List.mem_cons_self) h.1,
        ih (fun e he => hfirst e (List.mem_cons_of_mem _ he))
          (fun e he => hsecond e (List.mem_cons_of_mem _ he)) h.2]

/-- The ASCII subscriber numbers are those `[67]\d{8}` accepts whose digits are all ASCII. -/
theorem isAsciiSubscriber_iff {subscriber : List Char} :
    isAsciiSubscriber subscriber = true ↔
      isSubscriber subscriber = true ∧ ∀ c ∈ subscriber, c.isDigit = true := by
  cases subscriber with
  | nil => simp [isAsciiSubscriber, isSubscriber]
  | cons first rest =>
    simp only [isAsciiSubscriber, isSubscriber, Bool.and_eq_true, List.all_eq_true,
      List.forall_mem_cons]
    constructor
    · rintro ⟨hfirst, hrest⟩
      refine ⟨⟨hfirst, fun c hc => by rw [digit_of_isDigit (hrest c hc)]; rfl⟩, ?_, hrest⟩
      have hmem := List.contains_iff_mem.mp hfirst.1
      rcases List.mem_pair.mp hmem with rfl | rfl <;> rfl
    · rintro ⟨hboth, -, hrest⟩
      exact ⟨hboth.1, hrest⟩

theorem isAsciiSubscriber_of_not_foreign {raw : String} {subscriber : List Char}
    (h : ¬Foreign raw) (hsubscriber : subscriberOf (deleted raw) = some subscriber)
    (hvalid : isSubscriber subscriber = true) : isAsciiSubscriber subscriber = true := by
  apply isAsciiSubscriber_iff.mpr
  refine ⟨hvalid, fun c hc => ?_⟩
  by_contra hnot
  exact h ⟨subscriber, hsubscriber, hvalid, c, hc, Bool.eq_false_iff.mpr hnot⟩

theorem not_isSeparator_of_isDigit {c : Char} (h : c.isDigit = true) : isSeparator c = false := by
  have hseparators : ['-', '(', ')'].contains c = false := by
    apply Bool.eq_false_iff.mpr
    intro hmem
    rw [List.contains_iff_mem] at hmem
    simp only [List.mem_cons, List.not_mem_nil, or_false] at hmem
    rcases hmem with rfl | rfl | rfl <;> exact absurd h (by decide)
  rw [isSeparator, isSpace_of_isDigit h, hseparators]
  rfl

/-- A canonical form has nothing to delete. -/
theorem deleted_canonical {subscriber : List Char} (h : isAsciiSubscriber subscriber = true) :
    deleted ("255" ++ String.ofList subscriber) = '2' :: '5' :: '5' :: subscriber := by
  have hdigits := (isAsciiSubscriber_iff.mp h).2
  have hchars : ("255" ++ String.ofList subscriber).toList = '2' :: '5' :: '5' :: subscriber := by
    rw [String.toList_append, String.toList_ofList]
    simp
  rw [deleted, hchars, List.filter_eq_self]
  have hall : ∀ c ∈ '2' :: '5' :: '5' :: subscriber, c.isDigit = true := by
    simp only [List.forall_mem_cons]
    exact ⟨rfl, rfl, rfl, hdigits⟩
  intro c hc
  rw [not_isSeparator_of_isDigit (hall c hc)]
  rfl

/-! ## Where the promise is kept -/

theorem not_canonical_of_foreign {raw : String} (h : Foreign raw) : ¬Canonical raw := by
  intro hcanonical
  obtain ⟨subscriber, hsubscriber, hvalid, c, hc, hforeign⟩ := h
  obtain ⟨ascii, hascii, hphone⟩ :=
    hcanonical.form _ (normalizeTzPhone_eq_some.mpr ⟨subscriber, hsubscriber, hvalid, rfl⟩)
  have hsame : subscriber = ascii := by
    exact String.ofList_injective (by simpa using hphone)
  have hdigit := (isAsciiSubscriber_iff.mp hascii).2 c (hsame ▸ hc)
  rw [hforeign] at hdigit
  cases hdigit

theorem canonical_of_not_foreign {raw : String} (h : ¬Foreign raw) : Canonical raw where
  form phone hphone := by
    obtain ⟨subscriber, hsubscriber, hvalid, rfl⟩ := normalizeTzPhone_eq_some.mp hphone
    exact ⟨subscriber, isAsciiSubscriber_of_not_foreign h hsubscriber hvalid, rfl⟩
  accepts := by
    rw [Option.isSome_iff_exists]
    constructor
    · intro ⟨phone, hphone⟩
      obtain ⟨subscriber, hsubscriber, hvalid, -⟩ := normalizeTzPhone_eq_some.mp hphone
      exact ⟨subscriber, isAsciiSubscriber_of_not_foreign h hsubscriber hvalid,
        subscriberOf_eq_some.mp hsubscriber⟩
    · intro ⟨subscriber, hascii, hprefix⟩
      exact ⟨_, normalizeTzPhone_eq_some.mpr ⟨subscriber, subscriberOf_eq_some.mpr hprefix,
        (isAsciiSubscriber_iff.mp hascii).1, rfl⟩⟩
  idempotent phone hphone := by
    obtain ⟨subscriber, hsubscriber, hvalid, rfl⟩ := normalizeTzPhone_eq_some.mp hphone
    have hascii := isAsciiSubscriber_of_not_foreign h hsubscriber hvalid
    apply normalizeTzPhone_eq_some.mpr
    refine ⟨subscriber, ?_, hvalid, rfl⟩
    rw [deleted_canonical hascii]
    rfl

theorem sameHandset_of_not_foreign {first second : String} (hfirst : ¬Foreign first)
    (hsecond : ¬Foreign second) : SameHandset first second := by
  intro phone phone' hphone hphone'
  obtain ⟨subscriber, hsubscriber, hvalid, rfl⟩ := normalizeTzPhone_eq_some.mp hphone
  obtain ⟨subscriber', hsubscriber', hvalid', rfl⟩ := normalizeTzPhone_eq_some.mp hphone'
  have hascii := isAsciiSubscriber_of_not_foreign hfirst hsubscriber hvalid
  have hascii' := isAsciiSubscriber_of_not_foreign hsecond hsubscriber' hvalid'
  rw [subscriberNumber_of_subscriberOf hsubscriber hvalid,
    subscriberNumber_of_subscriberOf hsubscriber' hvalid', Option.some.injEq]
  constructor
  · intro hsame
    have hchars : subscriber = subscriber' := by
      exact String.ofList_injective (by simpa using hsame)
    rw [hchars]
  · intro hnumbers
    rw [eq_of_map_digit_eq (isAsciiSubscriber_iff.mp hascii).2
      (isAsciiSubscriber_iff.mp hascii').2 hnumbers]

end InfinityRadius.Phone
