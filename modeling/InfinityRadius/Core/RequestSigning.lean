import InfinityRadius.Core.Payload
import InfinityRadius.Core.ReplayMemory

/-!
# Signed requests

What both signing schemes share: the digests of `hashlib` and `hmac`, the message they cover,
and the texts of Python's integers.  The message joins its fields with newlines, so that it
names them as long as no field but the last two can hold one.
-/

namespace InfinityRadius.RequestSigning

open Payload ReplayMemory

/-! ## Integers in texts -/

/-- The digits of `int(text)`, two of which a single underscore may part. -/
def intDigits : List Char → Option (List ℕ)
  | [] => none
  | [c] => (digit c).map fun d => [d]
  | c :: '_' :: rest => (digit c).bind fun d => (intDigits rest).map fun digits => d :: digits
  | c :: next :: rest =>
    (digit c).bind fun d => (intDigits (next :: rest)).map fun digits => d :: digits

/-- The number of digits Python converts between texts and integers. -/
def maxStrDigits : ℕ := 4300

/-- The sign a number starts with, and what it is the sign of. -/
def signOf : List Char → ℤ × List Char
  | '+' :: body => (1, body)
  | '-' :: body => (-1, body)
  | body => (1, body)

/-- `int(text)`, nothing where it raises `ValueError`. -/
def int (text : String) : Option ℤ :=
  let (sign, body) := signOf (stripChars text.toList)
  (intDigits body).bind fun digits =>
    if digits.length ≤ maxStrDigits then some (sign * ofDigits digits) else none

/-- `str(value)` of an integer, nothing where it raises `ValueError`. -/
def str (value : ℤ) : Option String :=
  if value.natAbs.repr.length ≤ maxStrDigits then some (toString value) else none

theorem intDigits_of_isDigit {chars : List Char} (hne : chars ≠ [])
    (h : ∀ c ∈ chars, c.isDigit = true) :
    intDigits chars = some (chars.map fun c => c.toNat - 48) := by
  induction chars with
  | nil => exact absurd rfl hne
  | cons c rest ih =>
    have hdigit := digit_of_isDigit (h c List.mem_cons_self)
    cases rest with
    | nil => simp [intDigits, hdigit]
    | cons next rest =>
      have hrest := ih (List.cons_ne_nil _ _) fun other hother => h other (List.mem_cons_of_mem _ hother)
      have hnext : next ≠ '_' := by
        rintro rfl
        exact absurd (h '_' (List.mem_cons_of_mem _ List.mem_cons_self)) (by decide)
      rw [intDigits, hdigit, hrest]
      · rfl
      · simpa using hnext

theorem stripChars_of_forall {chars : List Char} (h : ∀ c ∈ chars, isSpace c = false) :
    stripChars chars = chars := by
  have hdrop : ∀ chars : List Char, (∀ c ∈ chars, isSpace c = false) →
      chars.dropWhile isSpace = chars := by
    intro chars hchars
    cases chars with
    | nil => rfl
    | cons c rest => rw [List.dropWhile_cons_of_neg (by simp [hchars c List.mem_cons_self])]
  rw [stripChars, hdrop chars h, hdrop _ fun c hc => h c (List.mem_reverse.mp hc),
    List.reverse_reverse]

/-- Decimal digits read back as the number they were written from. -/
theorem ofDigits_toDigits (n : ℕ) :
    ofDigits ((Nat.toDigits 10 n).map fun c => c.toNat - 48) = n := by
  have hread := Nat.ofDigitChars_ten_toDigits (n := n)
  rw [Nat.ofDigitChars_eq_foldl] at hread
  rw [ofDigits, List.foldl_map]
  exact hread

theorem toDigits_isDigit {n : ℕ} : ∀ c ∈ Nat.toDigits 10 n, c.isDigit = true :=
  fun _ hmem => Nat.isDigit_of_mem_toDigits (by decide) (by decide) hmem

theorem intDigits_toDigits (n : ℕ) :
    intDigits (Nat.toDigits 10 n) = some ((Nat.toDigits 10 n).map fun c => c.toNat - 48) :=
  intDigits_of_isDigit Nat.toDigits_ne_nil toDigits_isDigit

theorem isSpace_toDigits {n : ℕ} : ∀ c ∈ Nat.toDigits 10 n, isSpace c = false :=
  fun c hmem => isSpace_of_isDigit (toDigits_isDigit c hmem)

theorem signOf_toDigits (n : ℕ) : signOf (Nat.toDigits 10 n) = (1, Nat.toDigits 10 n) := by
  cases hdigits : Nat.toDigits 10 n with
  | nil => rfl
  | cons c rest =>
    have hdigit : c.isDigit = true := toDigits_isDigit (n := n) c (by simp [hdigits])
    rw [signOf]
    · rintro body hcons
      rw [List.cons.injEq] at hcons
      exact absurd (hcons.1 ▸ hdigit) (by decide)
    · rintro body hcons
      rw [List.cons.injEq] at hcons
      exact absurd (hcons.1 ▸ hdigit) (by decide)

/-- An integer is read back from its text. -/
theorem int_of_str {value : ℤ} {text : String} (h : str value = some text) :
    int text = some value := by
  rw [str] at h
  split at h
  · rename_i hlength
    rw [← Option.some.inj h, Int.toString_eq_repr]
    have hread : ∀ n : ℕ, n.repr.length ≤ maxStrDigits →
        ∀ sign : ℤ, ((intDigits (Nat.toDigits 10 n)).bind fun digits =>
          if digits.length ≤ maxStrDigits then some (sign * ofDigits digits) else none) =
            some (sign * n) := by
      intro n hn sign
      rw [intDigits_toDigits, Option.bind_some, if_pos, ofDigits_toDigits]
      rw [List.length_map]
      simpa [← String.length_toList] using hn
    cases value with
    | ofNat n =>
      have hchars : (Int.ofNat n).repr.toList = Nat.toDigits 10 n := Nat.toList_repr
      rw [int, hchars, stripChars_of_forall isSpace_toDigits, signOf_toDigits]
      simpa using hread n hlength 1
    | negSucc n =>
      have hchars : (Int.negSucc n).repr.toList = '-' :: Nat.toDigits 10 (n + 1) := by
        rw [Int.repr, String.toList_append, ← Nat.toList_repr]
        rfl
      have hstrip : stripChars ('-' :: Nat.toDigits 10 (n + 1)) = '-' :: Nat.toDigits 10 (n + 1) := by
        apply stripChars_of_forall
        intro c hmem
        cases List.mem_cons.mp hmem with
        | inl hc => exact hc ▸ by decide
        | inr hmem => exact isSpace_toDigits c hmem
      rw [int, hchars, hstrip]
      simpa [signOf, Int.negSucc_eq] using hread (n + 1) hlength (-1)
  · cases h

/-- An integer's text has no line break. -/
theorem newline_notMem_str {value : ℤ} {text : String} (h : str value = some text) :
    '\n' ∉ text.toList := by
  rw [str] at h
  split at h
  · rw [← Option.some.inj h, Int.toString_eq_repr]
    have hdigits : ∀ n : ℕ, '\n' ∉ Nat.toDigits 10 n :=
      fun n hmem => absurd (toDigits_isDigit _ hmem) (by decide)
    cases value with
    | ofNat n =>
      have hchars : (Int.ofNat n).repr.toList = Nat.toDigits 10 n := Nat.toList_repr
      exact hchars ▸ hdigits n
    | negSucc n =>
      rw [Int.repr, String.toList_append, Nat.toList_repr]
      intro hmem
      cases List.mem_append.mp hmem with
      | inl hsign => exact absurd hsign (by decide)
      | inr hmem => exact hdigits _ hmem
  · cases h

theorem str_ne_empty {value : ℤ} {text : String} (h : str value = some text) : text ≠ "" := by
  rintro rfl
  have hread := int_of_str h
  have hempty : int "" = none := by decide
  rw [hempty] at hread
  cases hread

/-! ## Digests -/

/-- The hexadecimal text of some bytes. -/
def hexdigest (bytes : List UInt8) : String :=
  String.ofList (bytes.flatMap fun byte => hexByte byte.toNat)

theorem hexdigest_isHex {bytes : List UInt8} {c : Char} (h : c ∈ (hexdigest bytes).toList) :
    c ∈ "0123456789abcdef".toList := by
  rw [hexdigest, String.toList_ofList, List.mem_flatMap] at h
  obtain ⟨byte, -, hmem⟩ := h
  have hnibble : ∀ n : Fin 16, Nat.digitChar n ∈ "0123456789abcdef".toList := by decide
  have hbyte := byte.toNat_lt
  rw [hexByte, List.mem_cons, List.mem_singleton] at hmem
  cases hmem with
  | inl hc => exact hc ▸ hnibble ⟨byte.toNat / 16, by omega⟩
  | inr hc => exact hc ▸ hnibble ⟨byte.toNat % 16, by omega⟩

theorem hexByte_injective {first second : UInt8}
    (h : hexByte first.toNat = hexByte second.toNat) : first = second := by
  have hnibble : ∀ m n : Fin 16, Nat.digitChar m = Nat.digitChar n → m = n := by decide
  have hfirst := first.toNat_lt
  have hsecond := second.toNat_lt
  rw [hexByte, hexByte, List.cons.injEq, List.cons.injEq] at h
  have hhigh := hnibble ⟨first.toNat / 16, by omega⟩ ⟨second.toNat / 16, by omega⟩ h.1
  have hlow := hnibble ⟨first.toNat % 16, by omega⟩ ⟨second.toNat % 16, by omega⟩ h.2.1
  rw [Fin.mk.injEq] at hhigh hlow
  apply UInt8.toNat_inj.mp
  omega

theorem hexdigest_injective : Function.Injective hexdigest := by
  intro first second h
  have hchars := String.ofList_injective h
  induction first generalizing second with
  | nil =>
    cases second with
    | nil => rfl
    | cons byte second => cases hchars
  | cons byte first ih =>
    cases second with
    | nil => cases hchars
    | cons byte' second =>
      rw [List.flatMap_cons, List.flatMap_cons] at hchars
      obtain ⟨hbyte, hrest⟩ := List.append_inj hchars rfl
      rw [hexByte_injective hbyte, ih (congrArg String.ofList hrest) hrest]

theorem newline_notMem_hexdigest (bytes : List UInt8) : '\n' ∉ (hexdigest bytes).toList :=
  fun hmem => absurd (hexdigest_isHex hmem) (by decide)

/-- `hashlib.sha256(bytes)` and `hmac.new(key, bytes, hashlib.sha256)`. -/
structure Digests where
  sha256 : List UInt8 → List UInt8
  hmac : List UInt8 → List UInt8 → List UInt8
  hmac_length : ∀ key message, (hmac key message).length = 32

/-- Digests that keep the start of what they are taken of. -/
def plainDigests : Digests where
  sha256 body := (body ++ List.replicate 32 0).take 32
  hmac key message := (key ++ message ++ List.replicate 32 0).take 32
  hmac_length key message := by
    rw [List.length_take, List.length_append, List.length_replicate]
    omega

/-- `text.encode("utf-8")`. -/
def encode (text : String) : List UInt8 := text.toUTF8.data.toList

/-- `hmac.compare_digest` of two texts, nothing where it raises `TypeError`. -/
def compareDigest (first second : String) : Option Bool :=
  if first.toList.all Char.isAscii && second.toList.all Char.isAscii then some (first = second)
  else none

/-- `secrets.token_hex(16)` of the bytes drawn. -/
def tokenHex (drawn : Fin 16 → UInt8) : String := hexdigest (List.ofFn drawn)

theorem encode_injective : Function.Injective encode := by
  intro first second h
  apply String.toByteArray_inj.mp
  apply ByteArray.ext
  exact Array.toList_inj.mp h

theorem isAscii_hexdigest {bytes : List UInt8} : ∀ c ∈ (hexdigest bytes).toList, c.isAscii = true := by
  intro c hmem
  have hascii : "0123456789abcdef".toList.all Char.isAscii = true := by decide
  exact List.all_eq_true.mp hascii c (hexdigest_isHex hmem)

theorem compareDigest_hexdigest (first second : List UInt8) :
    compareDigest (hexdigest first) (hexdigest second) =
      some (decide (hexdigest first = hexdigest second)) := by
  have hascii : ∀ bytes, (hexdigest bytes).toList.all Char.isAscii = true :=
    fun bytes => List.all_eq_true.mpr isAscii_hexdigest
  rw [compareDigest, hascii, hascii]
  rfl

theorem eq_of_compareDigest {first second : String} (h : compareDigest first second = some true) :
    first = second := by
  rw [compareDigest] at h
  split at h
  · exact of_decide_eq_true (Option.some.inj h)
  · cases h

/-! ## The message -/

/-- `_canonical_message`. -/
def canonicalMessage (digests : Digests) (timestamp nonce method path : String)
    (body : List UInt8) : String :=
  timestamp ++ "\n" ++ nonce ++ "\n" ++ upper method ++ "\n" ++ path ++ "\n" ++
    hexdigest (digests.sha256 body)

/-- Two texts that are parted at the first of a kind of character. -/
theorem append_cons_inj_left {α : Type} {separator : α} {first second rest rest' : List α}
    (hfirst : separator ∉ first) (hsecond : separator ∉ second)
    (h : first ++ separator :: rest = second ++ separator :: rest') :
    first = second ∧ rest = rest' := by
  induction first generalizing second with
  | nil =>
    cases second with
    | nil => exact ⟨rfl, (List.cons.inj h).2⟩
    | cons c second => exact absurd (List.mem_cons.mpr (.inl (List.cons.inj h).1)) hsecond
  | cons c first ih =>
    cases second with
    | nil => exact absurd (List.mem_cons.mpr (.inl (List.cons.inj h).1.symm)) hfirst
    | cons c' second =>
      obtain ⟨rfl, htail⟩ := List.cons.inj h
      obtain ⟨rfl, hrest⟩ := ih (fun hmem => hfirst (List.mem_cons_of_mem _ hmem))
        (fun hmem => hsecond (List.mem_cons_of_mem _ hmem)) htail
      exact ⟨rfl, hrest⟩

/-- Two texts that are parted at the last of a kind of character. -/
theorem append_cons_inj_right {α : Type} {separator : α} {first second rest rest' : List α}
    (hrest : separator ∉ rest) (hrest' : separator ∉ rest')
    (h : first ++ separator :: rest = second ++ separator :: rest') :
    first = second ∧ rest = rest' := by
  have hreverse := congrArg List.reverse h
  simp only [List.reverse_append, List.reverse_cons, List.append_assoc, List.singleton_append]
    at hreverse
  obtain ⟨hrest, hfirst⟩ := append_cons_inj_left (fun hmem => hrest (List.mem_reverse.mp hmem))
    (fun hmem => hrest' (List.mem_reverse.mp hmem)) hreverse
  exact ⟨List.reverse_injective hfirst, List.reverse_injective hrest⟩

section Message

variable {digests : Digests} {timestamp nonce method path : String} {body : List UInt8}
  {timestamp' nonce' method' path' : String} {body' : List UInt8}

/-- The message names what it covers where neither the headers nor the paths break the line. -/
theorem canonicalMessage_inj
    (htimestamp : '\n' ∉ timestamp.toList) (htimestamp' : '\n' ∉ timestamp'.toList)
    (hnonce : '\n' ∉ nonce.toList) (hnonce' : '\n' ∉ nonce'.toList)
    (hpath : '\n' ∉ path.toList) (hpath' : '\n' ∉ path'.toList)
    (h : canonicalMessage digests timestamp nonce method path body =
      canonicalMessage digests timestamp' nonce' method' path' body') :
    timestamp = timestamp' ∧ nonce = nonce' ∧ upper method = upper method' ∧ path = path' ∧
      digests.sha256 body = digests.sha256 body' := by
  have hbreak : "\n".toList = ['\n'] := rfl
  have hchars := congrArg String.toList h
  simp only [canonicalMessage, String.toList_append, List.append_assoc, hbreak,
    List.singleton_append] at hchars
  obtain ⟨hstamps, hchars⟩ := append_cons_inj_left htimestamp htimestamp' hchars
  obtain ⟨hnonces, hchars⟩ := append_cons_inj_left hnonce hnonce' hchars
  -- The method is what the last two breaks leave.
  have hpaths : ((upper method).toList ++ '\n' :: path.toList) ++
        '\n' :: (hexdigest (digests.sha256 body)).toList =
      ((upper method').toList ++ '\n' :: path'.toList) ++
        '\n' :: (hexdigest (digests.sha256 body')).toList := by
    simpa using hchars
  obtain ⟨hmethods, hdigests⟩ := append_cons_inj_right (newline_notMem_hexdigest _)
    (newline_notMem_hexdigest _) hpaths
  obtain ⟨hmethods, hpaths⟩ := append_cons_inj_right hpath hpath' hmethods
  exact ⟨String.toList_injective hstamps, String.toList_injective hnonces,
    String.toList_injective hmethods, String.toList_injective hpaths,
    hexdigest_injective (String.toList_injective hdigests)⟩

end Message

/-! ## Signing -/

structure SignedRequestHeaders where
  timestamp : String
  nonce : String
  signature : String

section Signing

variable {K : Type} [Field K] [LinearOrder K] [FloorRing K]

/-- `hmac.new(key.encode("utf-8"), message, hashlib.sha256).hexdigest()`. -/
def sign (digests : Digests) (key message : String) : String :=
  hexdigest (digests.hmac (encode key) (encode message))

/-- The headers of a request signed at that time with the nonce drawn, nothing where the time
has no text. -/
def signedHeaders (digests : Digests) (key method path : String) (body : List UInt8) (now : K)
    (drawn : Fin 16 → UInt8) : Option SignedRequestHeaders :=
  (str (truncate now)).map fun timestamp =>
    { timestamp, nonce := tokenHex drawn,
      signature := sign digests key
        (canonicalMessage digests timestamp (tokenHex drawn) method path body) }

theorem sign_ne_empty (digests : Digests) (key message : String) : sign digests key message ≠ "" := by
  intro h
  have hlength := digests.hmac_length (encode key) (encode message)
  cases hbytes : digests.hmac (encode key) (encode message) with
  | nil => simp [hbytes] at hlength
  | cons byte bytes =>
    rw [sign, hbytes] at h
    have hchars := congrArg String.toList h
    simp [hexdigest, hexByte] at hchars

theorem tokenHex_ne_empty (drawn : Fin 16 → UInt8) : tokenHex drawn ≠ "" := by
  intro h
  have hchars := congrArg String.toList h
  simp [tokenHex, hexdigest, hexByte, List.ofFn_succ] at hchars

variable {digests : Digests} {key method path : String} {body : List UInt8} {now : K}
  {drawn : Fin 16 → UInt8} {headers : SignedRequestHeaders}

theorem signedHeaders_timestamp
    (h : signedHeaders digests key method path body now drawn = some headers) :
    str (truncate now) = some headers.timestamp := by
  obtain ⟨timestamp, htimestamp, rfl⟩ := Option.map_eq_some_iff.mp h
  exact htimestamp

theorem signedHeaders_nonce
    (h : signedHeaders digests key method path body now drawn = some headers) :
    headers.nonce = tokenHex drawn := by
  obtain ⟨timestamp, -, rfl⟩ := Option.map_eq_some_iff.mp h
  rfl

theorem signedHeaders_signature
    (h : signedHeaders digests key method path body now drawn = some headers) :
    headers.signature = sign digests key
      (canonicalMessage digests headers.timestamp headers.nonce method path body) := by
  obtain ⟨timestamp, -, rfl⟩ := Option.map_eq_some_iff.mp h
  rfl

end Signing

end InfinityRadius.RequestSigning
