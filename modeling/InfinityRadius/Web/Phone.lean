import InfinityRadius.Core.CanonicalPhone

/-!
# Mobile numbers in the browser

`lib/collections/phone.ts` states that it mirrors `core/phone.py` exactly.  Its patterns are
the same text, read by another engine: `\d` matches ASCII digits only, and `\s` and `trim` have
another white space.
-/

namespace InfinityRadius.Web

open Payload Phone

/-! ## The form -/

/-- `\s`, and what `trim` takes off: `WhiteSpace` and `LineTerminator`. -/
def isWhiteSpace (c : Char) : Bool :=
  [0x9, 0xa, 0xb, 0xc, 0xd, 0x20, 0xa0, 0x1680, 0x2000, 0x2001, 0x2002, 0x2003, 0x2004,
    0x2005, 0x2006, 0x2007, 0x2008, 0x2009, 0x200a, 0x2028, 0x2029, 0x202f, 0x205f, 0x3000,
    0xfeff].contains c.toNat

def trim (chars : List Char) : List Char :=
  ((chars.dropWhile isWhiteSpace).reverse.dropWhile isWhiteSpace).reverse

def clean (raw : String) : List Char :=
  (trim raw.toList).filter fun c => !(isWhiteSpace c || ['-', '(', ')'].contains c)

/-- `[67]\d{8}`. -/
def isSubscriber : List Char → Bool
  | first :: rest => ['6', '7'].contains first && rest.length == 8 && rest.all Char.isDigit
  | [] => false

/-- `LOCAL.exec`, and the group it captures. -/
def execLocal : List Char → Option (List Char)
  | '0' :: rest => if isSubscriber rest then some rest else none
  | _ => none

/-- `INTERNATIONAL.exec`, and the group it captures. -/
def execInternational (cleaned : List Char) : Option (List Char) :=
  match if cleaned.head? = some '+' then cleaned.tail else cleaned with
  | '2' :: '5' :: '5' :: rest => if isSubscriber rest then some rest else none
  | _ => none

/-- The canonical form, or the reason the form shows. -/
def normalizeTzPhone (raw : String) : Except String String :=
  let cleaned := clean raw
  if cleaned = [] then .error "Enter the customer's phone number."
  else
    match execLocal cleaned with
    | some subscriber => .ok ("255" ++ String.ofList subscriber)
    | none =>
      match execInternational cleaned with
      | some subscriber => .ok ("255" ++ String.ofList subscriber)
      | none =>
        .error "Enter a valid Tanzanian mobile number, e.g. 0762474101 or +255762474101."

example : normalizeTzPhone "+255 (762) 474-101" = .ok "255762474101" := by decide +kernel

/-! ## Agreement -/

/-- Browser and server accept the text with the same value, or both refuse it. -/
def Agrees (raw : String) : Prop :=
  (normalizeTzPhone raw).toOption = Phone.normalizeTzPhone raw

/-- What is left of a text without the separators of either engine. -/
def essential (raw : String) : List Char :=
  raw.toList.filter fun c => !(isWhiteSpace c || isSeparator c)

/-- The text is a number when the white space of either engine is deleted and digits of every
script are taken. -/
def Readable (raw : String) : Prop :=
  ∃ subscriber, subscriberOf (essential raw) = some subscriber ∧
    Phone.isSubscriber subscriber = true

/-- The text has white space that only the browser takes for such. -/
def HasWebSpace (raw : String) : Prop :=
  ∃ c ∈ raw.toList, isWhiteSpace c = true ∧ isSpace c = false

/-- The text has white space or a digit that only the server takes for such. -/
def HasServerCharacter (raw : String) : Prop :=
  ∃ c ∈ raw.toList, (isSpace c = true ∧ isWhiteSpace c = false) ∨
    ((digit c).isSome = true ∧ c.isDigit = false)

/-! ## Characters -/

/-- What an accepted text consists of, but for separators. -/
def isPhoneCharacter (c : Char) : Bool := c == '+' || (digit c).isSome

theorem digit_eq_none {c : Char} {numbers : List ℕ} (hc : numbers.contains c.toNat = true)
    (h : ∀ n ∈ numbers, (digitZeros.find? fun base => base ≤ n && n < base + 10) = none) :
    digit c = none := by
  rw [digit, h c.toNat (List.contains_iff_mem.mp hc)]
  rfl

theorem not_isSpace_of_phone {c : Char} (h : isPhoneCharacter c = true) : isSpace c = false := by
  rw [Bool.eq_false_iff]
  intro hspace
  cases (Bool.or_eq_true_iff.mp h) with
  | inl hplus =>
    rw [beq_iff_eq.mp hplus] at hspace
    exact absurd hspace (by decide)
  | inr hdigit =>
    rw [digit_eq_none hspace (by decide)] at hdigit
    cases hdigit

theorem not_isWhiteSpace_of_phone {c : Char} (h : isPhoneCharacter c = true) :
    isWhiteSpace c = false := by
  rw [Bool.eq_false_iff]
  intro hspace
  cases (Bool.or_eq_true_iff.mp h) with
  | inl hplus =>
    rw [beq_iff_eq.mp hplus] at hspace
    exact absurd hspace (by decide)
  | inr hdigit =>
    rw [digit_eq_none hspace (by decide)] at hdigit
    cases hdigit

theorem isPhoneCharacter_of_accepted {chars subscriber : List Char}
    (hsub : subscriberOf chars = some subscriber)
    (hsubscriber : Phone.isSubscriber subscriber = true) :
    ∀ c ∈ chars, isPhoneCharacter c = true := by
  have hdigits : ∀ c ∈ subscriber, isPhoneCharacter c = true := by
    cases subscriber with
    | nil => cases hsubscriber
    | cons first rest =>
      simp only [Phone.isSubscriber, Bool.and_eq_true, List.all_eq_true] at hsubscriber
      obtain ⟨⟨hfirst, -⟩, hrest⟩ := hsubscriber
      intro c hc
      cases List.mem_cons.mp hc with
      | inl heq =>
        subst heq
        rcases List.mem_pair.mp (List.contains_iff_mem.mp hfirst) with rfl | rfl <;> decide
      | inr hmem => simp [isPhoneCharacter, hrest c hmem]
  have hplus : isPhoneCharacter '+' = true := by decide
  have hzero : isPhoneCharacter '0' = true := by decide
  have htwo : isPhoneCharacter '2' = true := by decide
  have hfive : isPhoneCharacter '5' = true := by decide
  rcases subscriberOf_eq_some.mp hsub with rfl | rfl | rfl
  · simpa [hzero] using hdigits
  · simpa [htwo, hfive] using hdigits
  · simpa [hplus, htwo, hfive] using hdigits

/-! ## What each side accepts -/

/-- What is left of a text without what the browser takes for separators. -/
def webDeleted (raw : String) : List Char :=
  raw.toList.filter fun c => !(isWhiteSpace c || ['-', '(', ')'].contains c)

theorem clean_eq_webDeleted (raw : String) : clean raw = webDeleted raw := by
  have hspace : ∀ c, isWhiteSpace c = true →
      (!(isWhiteSpace c || ['-', '(', ')'].contains c)) = false := by
    intro c hc
    simp [hc]
  rw [clean, trim, List.filter_reverse, filter_dropWhile hspace, List.filter_reverse,
    List.reverse_reverse, filter_dropWhile hspace]
  rfl

theorem isSubscriber_eq (chars : List Char) : isSubscriber chars = isAsciiSubscriber chars := by
  cases chars <;> rfl

/-- The two patterns, one after the other, accept what follows one of the three prefixes. -/
theorem exec_eq (chars : List Char) :
    (execLocal chars).or (execInternational chars) =
      (subscriberOf chars).filter isSubscriber := by
  fun_cases subscriberOf chars with
  | case1 rest =>
    cases h : isSubscriber rest <;> simp [execLocal, execInternational, Option.filter_some, h]
  | case2 rest =>
    cases h : isSubscriber rest <;> simp [execLocal, execInternational, Option.filter_some, h]
  | case3 rest =>
    cases h : isSubscriber rest <;> simp [execLocal, execInternational, Option.filter_some, h]
  | case4 chars hlocal hplus hplain =>
    have hlocal : execLocal chars = none := by
      unfold execLocal
      split
      · exact absurd rfl (hlocal _)
      · rfl
    have hinternational : execInternational chars = none := by
      unfold execInternational
      split
      · rename_i rest hrest
        split at hrest
        · rename_i hhead
          cases chars with
          | nil => cases hhead
          | cons first tail =>
            obtain rfl := Option.some.inj hhead
            exact absurd (congrArg ('+' :: ·) hrest) (hplus _)
        · exact absurd hrest (hplain _)
      · rfl
    rw [hlocal, hinternational]
    rfl

theorem normalizeTzPhone_eq_ok {raw phone : String} :
    (normalizeTzPhone raw).toOption = some phone ↔
      ∃ subscriber, subscriberOf (webDeleted raw) = some subscriber ∧
        isAsciiSubscriber subscriber = true ∧ phone = "255" ++ String.ofList subscriber := by
  have hoption : (normalizeTzPhone raw).toOption =
      ((subscriberOf (webDeleted raw)).filter isSubscriber).map fun subscriber =>
        "255" ++ String.ofList subscriber := by
    rw [← exec_eq, ← clean_eq_webDeleted]
    unfold normalizeTzPhone
    dsimp only
    split
    · rename_i hempty
      rw [hempty]
      rfl
    · cases execLocal (clean raw) with
      | some subscriber => rfl
      | none => cases execInternational (clean raw) <;> rfl
  rw [hoption, Option.map_eq_some_iff]
  constructor
  · intro ⟨subscriber, hsubscriber, hphone⟩
    have hboth := Option.filter_eq_some_iff.mp hsubscriber
    exact ⟨subscriber, hboth.1, (isSubscriber_eq _).symm.trans hboth.2, hphone.symm⟩
  · intro ⟨subscriber, hsub, hascii, hphone⟩
    exact ⟨subscriber, Option.filter_eq_some_iff.mpr
      ⟨hsub, (isSubscriber_eq _).trans hascii⟩, hphone.symm⟩

/-- A phone character is no separator of either engine. -/
theorem not_separator_of_phone {c : Char} (h : isPhoneCharacter c = true) :
    (isWhiteSpace c || isSeparator c) = false := by
  have hsymbol : ['-', '(', ')'].contains c = false := by
    rw [Bool.eq_false_iff]
    intro hmem
    simp only [List.contains_iff_mem, List.mem_cons, List.not_mem_nil, or_false] at hmem
    rcases hmem with rfl | rfl | rfl <;> exact absurd h (by decide)
  rw [isSeparator, not_isWhiteSpace_of_phone h, not_isSpace_of_phone h, hsymbol]
  rfl

/-- Where one side leaves only phone characters, the other would not delete more of them. -/
theorem essential_eq {raw : String} {p : Char → Bool}
    (hkeeps : ∀ c, (isWhiteSpace c || isSeparator c) = false → p c = true)
    (h : ∀ c ∈ raw.toList.filter p, isPhoneCharacter c = true) :
    essential raw = raw.toList.filter p := by
  apply List.filter_congr
  intro c hc
  cases hp : p c with
  | true => rw [not_separator_of_phone (h c (List.mem_filter.mpr ⟨hc, hp⟩)), Bool.not_false]
  | false =>
    rw [Bool.not_eq_false']
    by_contra hnot
    rw [hkeeps c (by simpa using hnot)] at hp
    cases hp

theorem isSome_digit_of_mem {subscriber : List Char} {c : Char}
    (h : Phone.isSubscriber subscriber = true) (hc : c ∈ subscriber) :
    (digit c).isSome = true := by
  cases subscriber with
  | nil => cases hc
  | cons first rest =>
    simp only [Phone.isSubscriber, Bool.and_eq_true, List.all_eq_true] at h
    cases List.mem_cons.mp hc with
    | inl heq =>
      subst heq
      rcases List.mem_pair.mp (List.contains_iff_mem.mp h.1.1) with rfl | rfl <;> decide
    | inr hrest => exact h.2 c hrest

/-- White space is kept by the side that does not take it for such. -/
theorem not_symbol_of_space {c : Char} (h : isSpace c = true ∨ isWhiteSpace c = true) :
    ['-', '(', ')'].contains c = false := by
  rw [Bool.eq_false_iff]
  intro hmem
  simp only [List.contains_iff_mem, List.mem_cons, List.not_mem_nil, or_false] at hmem
  rcases hmem with rfl | rfl | rfl <;> exact absurd h (by decide)

/-- The server accepts what is readable, unless it has white space of the browser only. -/
theorem server_accepts_iff {raw : String} {subscriber : List Char} :
    (subscriberOf (deleted raw) = some subscriber ∧ Phone.isSubscriber subscriber = true) ↔
      subscriberOf (essential raw) = some subscriber ∧
        Phone.isSubscriber subscriber = true ∧ ¬HasWebSpace raw := by
  constructor
  · rintro ⟨hsub, hsubscriber⟩
    have hphone := isPhoneCharacter_of_accepted hsub hsubscriber
    have hsame : essential raw = deleted raw :=
      essential_eq (fun c hc => by simp [(Bool.or_eq_false_iff.mp hc).2]) hphone
    refine ⟨hsame ▸ hsub, hsubscriber, ?_⟩
    rintro ⟨c, hc, hweb, hserver⟩
    have hleft : c ∈ deleted raw := by
      apply List.mem_filter.mpr
      rw [isSeparator, hserver, not_symbol_of_space (Or.inr hweb)]
      exact ⟨hc, rfl⟩
    rw [not_isWhiteSpace_of_phone (hphone c hleft)] at hweb
    cases hweb
  · rintro ⟨hsub, hsubscriber, hnone⟩
    have hsame : deleted raw = essential raw := by
      apply List.filter_congr
      intro c hc
      cases hweb : isWhiteSpace c with
      | false => rw [Bool.false_or]
      | true =>
        have hspace : isSpace c = true := by
          by_contra hnot
          exact hnone ⟨c, hc, hweb, by simpa using hnot⟩
        rw [isSeparator, hspace]
        rfl
    exact ⟨hsame ▸ hsub, hsubscriber⟩

/-- The browser accepts what is readable, unless it has white space or digits of the server
only. -/
theorem web_accepts_iff {raw : String} {subscriber : List Char} :
    (subscriberOf (webDeleted raw) = some subscriber ∧ isAsciiSubscriber subscriber = true) ↔
      subscriberOf (essential raw) = some subscriber ∧
        Phone.isSubscriber subscriber = true ∧ ¬HasServerCharacter raw := by
  constructor
  · rintro ⟨hsub, hascii⟩
    obtain ⟨hsubscriber, hdigits⟩ := isAsciiSubscriber_iff.mp hascii
    have hphone := isPhoneCharacter_of_accepted hsub hsubscriber
    have hsame : essential raw = webDeleted raw := by
      refine essential_eq (fun c hc => ?_) hphone
      simp only [isSeparator, Bool.or_eq_false_iff] at hc
      rw [hc.1, hc.2.2]
      rfl
    refine ⟨hsame ▸ hsub, hsubscriber, ?_⟩
    rintro ⟨c, hc, hserver⟩
    rcases hserver with ⟨hspace, hweb⟩ | ⟨hdigit, hforeign⟩
    · have hleft : c ∈ webDeleted raw := by
        apply List.mem_filter.mpr
        rw [hweb, not_symbol_of_space (Or.inl hspace)]
        exact ⟨hc, rfl⟩
      rw [not_isSpace_of_phone (hphone c hleft)] at hspace
      cases hspace
    · have hseparator := not_separator_of_phone (c := c) (by simp [isPhoneCharacter, hdigit])
      have hleft : c ∈ webDeleted raw := by
        apply List.mem_filter.mpr
        simp only [isSeparator, Bool.or_eq_false_iff] at hseparator
        rw [hseparator.1, hseparator.2.2]
        exact ⟨hc, rfl⟩
      have hmem : c ∈ subscriber ∨ c = '+' ∨ c = '0' ∨ c = '2' ∨ c = '5' := by
        rcases subscriberOf_eq_some.mp hsub with h | h | h
        all_goals
          rw [h] at hleft
          simp only [List.mem_cons] at hleft
          tauto
      rcases hmem with hmem | rfl | rfl | rfl | rfl
      · rw [hdigits c hmem] at hforeign
        cases hforeign
      · exact absurd hdigit (by decide)
      · exact absurd hforeign (by decide)
      · exact absurd hforeign (by decide)
      · exact absurd hforeign (by decide)
  · rintro ⟨hsub, hsubscriber, hnone⟩
    have hsame : webDeleted raw = essential raw := by
      apply List.filter_congr
      intro c hc
      cases hspace : isSpace c with
      | false => rw [isSeparator, hspace, Bool.false_or]
      | true =>
        have hweb : isWhiteSpace c = true := by
          by_contra hnot
          exact hnone ⟨c, hc, Or.inl ⟨hspace, by simpa using hnot⟩⟩
        rw [hweb]
        rfl
    refine ⟨hsame ▸ hsub, isAsciiSubscriber_iff.mpr ⟨hsubscriber, fun c hc => ?_⟩⟩
    by_contra hforeign
    have hmem : c ∈ essential raw := by
      rcases subscriberOf_eq_some.mp hsub with h | h | h <;> rw [h] <;> simp [hc]
    exact hnone ⟨c, List.mem_of_mem_filter hmem,
      Or.inr ⟨isSome_digit_of_mem hsubscriber hc, by simpa using hforeign⟩⟩

/-! ## Where both sides agree -/

end InfinityRadius.Web
