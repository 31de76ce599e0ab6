import InfinityRadius.Core.Amounts
import Mathlib.Tactic.Common

/-!
# Texts and JSON answers

The parts of Python's `str`, of `json` values and of pydantic's lax validators
that decide what a provider's answer is taken for.
-/

namespace InfinityRadius.Payload

open Amounts

/-! ## Texts -/

/-- `str.isspace` of one character. -/
def isSpace (c : Char) : Bool :=
  [0x9, 0xa, 0xb, 0xc, 0xd, 0x1c, 0x1d, 0x1e, 0x1f, 0x20, 0x85, 0xa0, 0x1680,
    0x2000, 0x2001, 0x2002, 0x2003, 0x2004, 0x2005, 0x2006, 0x2007, 0x2008,
    0x2009, 0x200a, 0x2028, 0x2029, 0x202f, 0x205f, 0x3000].contains c.toNat

def stripChars (chars : List Char) : List Char :=
  ((chars.dropWhile isSpace).reverse.dropWhile isSpace).reverse

/-- `str.strip()`. -/
@[irreducible]
def strip (text : String) : String := String.ofList (stripChars text.toList)

/-- `str.upper()` of one character.  Characters outside ASCII are listed only
where their upper case is ASCII text. -/
def upperChar (c : Char) : List Char :=
  if c = 'ß' then ['S', 'S']
  else if c = 'ı' then ['I']
  else if c = 'ſ' then ['S']
  else if c = 'ﬀ' then ['F', 'F']
  else if c = 'ﬁ' then ['F', 'I']
  else if c = 'ﬂ' then ['F', 'L']
  else if c = 'ﬃ' then ['F', 'F', 'I']
  else if c = 'ﬄ' then ['F', 'F', 'L']
  else if c = 'ﬅ' then ['S', 'T']
  else if c = 'ﬆ' then ['S', 'T']
  else [c.toUpper]

/-- `str.upper()`, as far as it can reach an ASCII text. -/
def upper (text : String) : String := String.ofList (text.toList.flatMap upperChar)

/-- PostgreSQL stores no text with a NUL character. -/
def storable (text : String) : Bool := !text.toList.contains (Char.ofNat 0)

def storableOpt (text : Option String) : Bool := text.all storable

/-- Python truth of an optional text: neither `None` nor empty. -/
def given (text : Option String) : Bool := text.any fun t => !t.isEmpty

/-- `first or second` on optional texts. -/
def orElse (first second : Option String) : Option String :=
  if given first then first else second

@[simp]
theorem storableOpt_none : storableOpt none = true := rfl

@[simp]
theorem storableOpt_some (text : String) : storableOpt (some text) = storable text := rfl

theorem storable_append (left right : String) :
    storable (left ++ right) = (storable left && storable right) := by
  simp [storable, String.toList_append]

theorem storableOpt_orElse {first second : Option String} (hfirst : storableOpt first = true)
    (hsecond : storableOpt second = true) : storableOpt (orElse first second) = true := by
  unfold orElse
  split
  · exact hfirst
  · exact hsecond

theorem storable_getD {text : Option String} {default : String}
    (htext : storableOpt text = true) (hdefault : storable default = true) :
    storable (text.getD default) = true := by
  cases text with
  | none => exact hdefault
  | some text => exact htext

theorem storable_toString (n : ℕ) : storable (toString n) = true := by
  rw [storable, Bool.not_eq_true', ← Bool.not_eq_true, List.contains_iff_mem]
  intro hmem
  rw [Nat.toString_eq_repr, Nat.toList_repr] at hmem
  exact absurd (Nat.isDigit_of_mem_toDigits (by decide) (by decide) hmem) (by decide)

theorem stripChars_subset {chars : List Char} {c : Char} (h : c ∈ stripChars chars) :
    c ∈ chars := by
  have hdrop := List.mem_reverse.mp h
  have hmiddle := List.mem_reverse.mp ((List.dropWhile_sublist _).subset hdrop)
  exact (List.dropWhile_sublist _).subset hmiddle

theorem storable_strip {text : String} (h : storable text = true) :
    storable (strip text) = true := by
  rw [storable, Bool.not_eq_true', ← Bool.not_eq_true, List.contains_iff_mem] at h ⊢
  rw [strip, String.toList_ofList]
  exact fun hmem => h (stripChars_subset hmem)

/-! ### `repr` -/

/-- The lower-case hexadecimal digits of a code below 256. -/
def hexByte (n : ℕ) : List Char :=
  [Nat.digitChar (n / 16), Nat.digitChar (n % 16)]

def backslash : Char := Char.ofNat 0x5c

/-- One character inside `repr(text)`.  Beyond Latin-1 every character is taken to be
printable. -/
def reprChar (quote c : Char) : List Char :=
  if c = quote ∨ c = backslash then [backslash, c]
  else if c.toNat = 0x0a then [backslash, 'n']
  else if c.toNat = 0x0d then [backslash, 'r']
  else if c.toNat = 0x09 then [backslash, 't']
  else if c.toNat < 0x20 ∨ (0x7f ≤ c.toNat ∧ c.toNat ≤ 0xa0) ∨ c.toNat = 0xad then
    backslash :: 'x' :: hexByte c.toNat
  else [c]

/-- `repr(text)`: in single quotes, or in double quotes where the text holds a single
quote and no double one. -/
def reprText (text : String) : String :=
  let single := Char.ofNat 0x27
  let double := Char.ofNat 0x22
  let quote := if text.toList.contains single && !text.toList.contains double then double
    else single
  String.ofList (quote :: (text.toList.flatMap (reprChar quote) ++ [quote]))

theorem digitChar_ne_nul (n : ℕ) : Nat.digitChar n ≠ Char.ofNat 0 := by
  have hdigits : ∀ n < 16, Nat.digitChar n ≠ Char.ofNat 0 := by decide
  rcases Nat.lt_or_ge n 16 with hlt | hge
  · exact hdigits n hlt
  · rw [Nat.digitChar_eq_star.mpr hge]
    decide

theorem nul_notMem_reprChar {quote c : Char} (hquote : quote ≠ Char.ofNat 0) :
    Char.ofNat 0 ∉ reprChar quote c := by
  rw [reprChar]
  split_ifs with hescaped _ _ _ hcoded
  · have hne : c ≠ Char.ofNat 0 := by
      rcases hescaped with rfl | rfl
      · exact hquote
      · decide
    rw [List.mem_cons, List.mem_singleton]
    rintro (heq | heq)
    · exact absurd heq (by decide)
    · exact hne heq.symm
  · decide
  · decide
  · decide
  · rw [hexByte]
    simp only [List.mem_cons, List.not_mem_nil, or_false]
    rintro (heq | heq | heq | heq)
    · exact absurd heq (by decide)
    · exact absurd heq (by decide)
    · exact digitChar_ne_nul _ heq.symm
    · exact digitChar_ne_nul _ heq.symm
  · rw [List.mem_singleton]
    rintro rfl
    exact hcoded (Or.inl (by decide))

theorem nul_notMem_quoted {quote : Char} (hquote : quote ≠ Char.ofNat 0) (chars : List Char) :
    Char.ofNat 0 ∉ quote :: (chars.flatMap (reprChar quote) ++ [quote]) := by
  rw [List.mem_cons, List.mem_append, List.mem_singleton, List.mem_flatMap]
  rintro (heq | ⟨c, -, hc⟩ | heq)
  · exact hquote heq.symm
  · exact nul_notMem_reprChar hquote hc
  · exact hquote heq.symm

/-- What `repr` writes can be stored, whatever the text. -/
theorem storable_reprText (text : String) : storable (reprText text) = true := by
  rw [storable, Bool.not_eq_true', ← Bool.not_eq_true, List.contains_iff_mem, reprText,
    String.toList_ofList]
  apply nul_notMem_quoted
  split <;> decide

/-! ### Base64 -/

def base64Digit (n : ℕ) : Char :=
  "ABCDEFGHIJKLMNOPQRSTUVWXYZabcdefghijklmnopqrstuvwxyz0123456789+/".toList.getD n '='

def base64Chars : List ℕ → List Char
  | [] => []
  | [a] => [base64Digit (a / 4), base64Digit (a % 4 * 16), '=', '=']
  | [a, b] =>
    [base64Digit (a / 4), base64Digit (a % 4 * 16 + b / 16), base64Digit (b % 16 * 4), '=']
  | a :: b :: c :: rest =>
    base64Digit (a / 4) :: base64Digit (a % 4 * 16 + b / 16) ::
      base64Digit (b % 16 * 4 + c / 64) :: base64Digit (c % 64) :: base64Chars rest

/-- `base64.b64encode(text.encode("utf-8"))`. -/
def base64 (text : String) : String :=
  String.ofList (base64Chars (text.toUTF8.toList.map UInt8.toNat))

/-! ## JSON values -/

/-- The value `response.json()` returns.  A float is given by the exact value of
its shortest decimal form, which is what `Decimal(str(x))` reads. -/
inductive Json
  | null
  | bool (b : Bool)
  | int (n : ℤ)
  | float (value : ℚ)
  | nonFinite
  | str (text : String)
  | arr (items : List Json)
  | obj (fields : List (String × Json))

mutual

/-- A `JSONB` column takes neither NUL characters nor `NaN` and infinities. -/
def Json.storable : Json → Bool
  | .nonFinite => false
  | .str text => Payload.storable text
  | .arr items => storableItems items
  | .obj fields => storableFields fields
  | _ => true

def storableItems : List Json → Bool
  | [] => true
  | item :: rest => item.storable && storableItems rest

def storableFields : List (String × Json) → Bool
  | [] => true
  | (key, value) :: rest =>
    Payload.storable key && value.storable && storableFields rest

end

/-- Python truth of a value. -/
def Json.truthy : Json → Bool
  | .null => false
  | .bool b => b
  | .int n => n != 0
  | .float value => value != 0
  | .nonFinite => true
  | .str text => !text.isEmpty
  | .arr items => !items.isEmpty
  | .obj fields => !fields.isEmpty

/-- The value under a key: the last one, when the key is repeated. -/
def lookup (fields : List (String × Json)) (key : String) : Option Json :=
  (fields.reverse.find? fun field => field.1 == key).map Prod.snd

/-! ### Numbers in texts -/

/-- The zeros of the Unicode decimal digits. -/
def digitZeros : List ℕ :=
  [0x30, 0x660, 0x6f0, 0x7c0, 0x966, 0x9e6, 0xa66, 0xae6, 0xb66, 0xbe6, 0xc66,
    0xce6, 0xd66, 0xde6, 0xe50, 0xed0, 0xf20, 0x1040, 0x1090, 0x17e0, 0x1810,
    0x1946, 0x19d0, 0x1a80, 0x1a90, 0x1b50, 0x1bb0, 0x1c40, 0x1c50, 0xa620,
    0xa8d0, 0xa900, 0xa9d0, 0xa9f0, 0xaa50, 0xabf0, 0xff10, 0x104a0, 0x10d30,
    0x11066, 0x110f0, 0x11136, 0x111d0, 0x112f0, 0x11450, 0x114d0, 0x11650,
    0x116c0, 0x11730, 0x118e0, 0x11950, 0x11c50, 0x11d50, 0x11da0, 0x16a60,
    0x16ac0, 0x16b50, 0x1d7ce, 0x1d7d8, 0x1d7e2, 0x1d7ec, 0x1d7f6, 0x1e140,
    0x1e2f0, 0x1e950, 0x1fbf0]

def digit (c : Char) : Option ℕ :=
  (digitZeros.find? fun base => base ≤ c.toNat && c.toNat < base + 10).map
    fun base => c.toNat - base

theorem isDigit_bounds {c : Char} (h : c.isDigit = true) : 48 ≤ c.toNat ∧ c.toNat ≤ 57 := by
  rw [Char.isDigit, Bool.and_eq_true, decide_eq_true_iff, decide_eq_true_iff] at h
  exact h

theorem digit_of_isDigit {c : Char} (h : c.isDigit = true) : digit c = some (c.toNat - 48) := by
  have hbounds := isDigit_bounds h
  have hzero : (0x30 ≤ c.toNat && c.toNat < 0x30 + 10) = true := by
    simp only [Bool.and_eq_true, decide_eq_true_iff]
    omega
  rw [digit, digitZeros, List.find?_cons, hzero]
  rfl

theorem isSpace_of_isDigit {c : Char} (h : c.isDigit = true) : isSpace c = false := by
  have hbounds := isDigit_bounds h
  rw [isSpace, Bool.eq_false_iff]
  intro hmem
  rw [List.contains_iff_mem] at hmem
  simp only [List.mem_cons, List.not_mem_nil, or_false] at hmem
  omega

/-- The digits a text starts with, and the rest of it. -/
def takeDigits : List Char → List ℕ × List Char
  | [] => ([], [])
  | c :: rest =>
    match digit c with
    | some d => ((d :: (takeDigits rest).1), (takeDigits rest).2)
    | none => ([], c :: rest)

def ofDigits (digits : List ℕ) : ℕ := digits.foldl (fun value d => 10 * value + d) 0

/-- An exponent part `e12`, `E+12` or `e-12`, or nothing; `none` for anything
else after the digits. -/
def exponent : List Char → Option ℤ
  | [] => some 0
  | marker :: rest =>
    if marker = 'e' ∨ marker = 'E' then
      let (sign, body) : ℤ × List Char :=
        match rest with
        | '+' :: body => (1, body)
        | '-' :: body => (-1, body)
        | body => (1, body)
      match takeDigits body with
      | (d :: digits, []) => some (sign * ofDigits (d :: digits))
      | _ => none
    else none

/-- `Decimal(text)` where it is a finite number: optional sign, digits around an
optional point, optional exponent, with outer spaces and underscores dropped. -/
def decimalOfText (text : String) : Option ℚ :=
  let chars := (stripChars text.toList).filter (· ≠ '_')
  let (sign, body) : ℚ × List Char :=
    match chars with
    | '+' :: body => (1, body)
    | '-' :: body => (-1, body)
    | body => (1, body)
  let (whole, afterWhole) := takeDigits body
  let (fraction, rest) : List ℕ × List Char :=
    match afterWhole with
    | '.' :: tail => takeDigits tail
    | tail => ([], tail)
  if whole = [] ∧ fraction = [] then none
  else
    (exponent rest).map fun power =>
      sign * ofDigits (whole ++ fraction) * (10 : ℚ) ^ (power - fraction.length : ℤ)

/-! ### Validators

A validator returns `none` where pydantic raises `ValidationError`. -/

abbrev Validator (α : Type) := Json → Option α

/-- A field of a model: the value under the first of its names that is present,
or the default where none is. -/
def field {α : Type} (fields : List (String × Json)) (names : List String)
    (default : α) (validator : Validator α) : Option α :=
  match names.findSome? (lookup fields) with
  | none => some default
  | some value => validator value

/-- A field without default. -/
def required {α : Type} (fields : List (String × Json)) (name : String)
    (validator : Validator α) : Option α :=
  (lookup fields name).bind validator

/-- `str | None`. -/
def optStr : Validator (Option String)
  | .null => some none
  | .str text => some (some text)
  | _ => none

/-- `Decimal | None`: a finite number, or a text that reads as one. -/
def optDecimal : Validator (Option Decimal)
  | .null => some none
  | .int n => some (some n)
  | .float value => some (some value)
  | .str text => (decimalOfText text).map some
  | _ => none

/-- `bool` in lax mode. -/
def bool : Validator Bool
  | .bool b => some b
  | .int n => if n = 0 then some false else if n = 1 then some true else none
  | .float value => if value = 0 then some false else if value = 1 then some true else none
  | .str text =>
    let lower := String.ofList (text.toList.map Char.toLower)
    if ["0", "off", "f", "false", "n", "no"].contains lower then some false
    else if ["1", "on", "t", "true", "y", "yes"].contains lower then some true
    else none
  | _ => none

/-- `list[Any]`. -/
def anyList : Validator (List Json)
  | .arr items => some items
  | _ => none

/-- `Model | None`. -/
def optModel {α : Type} (model : List (String × Json) → Option α) : Validator (Option α)
  | .null => some none
  | .obj fields => (model fields).map some
  | _ => none

/-- `Model.model_validate(body)`. -/
def modelValidate {α : Type} (model : List (String × Json) → Option α) : Validator α
  | .obj fields => model fields
  | _ => none

end InfinityRadius.Payload
