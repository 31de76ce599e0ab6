import InfinityRadius.Core.SectionedLines

/-!
# Configurations with braces

The language of FreeRADIUS' files: sections in braces, named by a word and sometimes labelled by
a second one, lines `name = value`, and comments from a hash sign on.  A word is bare, or quoted
and then within one line.
-/

namespace InfinityRadius.Braces

open SectionedLines (isBlank)

inductive Lexeme
  | word (text : String)
  | equals | opening | closing | newline
deriving DecidableEq

/-! ## From characters to tokens -/

inductive Quote
  | single | double
deriving DecidableEq

def Quote.mark : Quote → Char
  | single => '\''
  | double => '"'

/-- Where the reader is; words in progress are kept backwards. -/
inductive Place
  | between
  | bare (read : List Char)
  | quoted (quote : Quote) (read : List Char)
  | escaped (quote : Quote) (read : List Char)
  | comment
deriving DecidableEq

/-- The sign a character is by itself. -/
def sign : Char → Option Lexeme
  | '\n' => some .newline
  | '=' => some .equals
  | '{' => some .opening
  | '}' => some .closing
  | _ => none

def wordOf (read : List Char) : Lexeme := .word (String.ofList read.reverse)

/-- A character no word is in progress at. -/
def fresh (char : Char) : List Lexeme × Place :=
  match sign char with
  | some token => ([token], .between)
  | none =>
    if isBlank char then ([], .between)
    else if char = '#' then ([], .comment)
    else if char = Quote.double.mark then ([], .quoted .double [])
    else if char = Quote.single.mark then ([], .quoted .single [])
    else ([], .bare [char])

/-- Bare words end at blanks, signs and comments. -/
def endsWord (char : Char) : Bool := (sign char).isSome || isBlank char || char == '#'

/-- One character; a quoted word is refused that the line ends in. -/
def step : Place → Char → Option (List Lexeme × Place)
  | .between, char => some (fresh char)
  | .bare read, char =>
    if endsWord char then some (wordOf read :: (fresh char).1, (fresh char).2)
    else some ([], .bare (char :: read))
  | .quoted quote read, char =>
    if char = '\n' then none
    else if char = '\\' then some ([], .escaped quote (char :: read))
    else if char = quote.mark then some ([wordOf read], .between)
    else some ([], .quoted quote (char :: read))
  | .escaped quote read, char =>
    if char = '\n' then none else some ([], .quoted quote (char :: read))
  | .comment, char => if char = '\n' then some ([.newline], .between) else some ([], .comment)

/-- The tokens of a text, and the place its end is at. -/
def scan : Place → List Char → Option (List Lexeme × Place)
  | place, [] => some ([], place)
  | place, char :: text => do
    let first ← step place char
    let rest ← scan first.2 text
    some (first.1 ++ rest.1, rest.2)

/-- The token the end of a text completes. -/
def finish : Place → Option (List Lexeme)
  | .bare read => some [wordOf read]
  | .quoted .. | .escaped .. => none
  | .between | .comment => some []

def tokens (text : List Char) : Option (List Lexeme) := do
  let scanned ← scan .between text
  let last ← finish scanned.2
  some (scanned.1 ++ last)

/-! ## From tokens to sections -/

inductive Item
  | setting (name value : String)
  | sect (name : String) (label : Option String) (items : List Item)

/-- A section that is not closed yet, and the items before it. -/
structure Frame where
  before : List Item
  name : String
  label : Option String

def parse : List Lexeme → List Frame → List Item → Option (List Item)
  | [], [], items => some items
  | [], _ :: _, _ => none
  | .newline :: rest, frames, items => parse rest frames items
  | .word name :: .equals :: .word value :: .newline :: rest, frames, items =>
    parse rest frames (items ++ [.setting name value])
  | .word name :: .opening :: rest, frames, items => parse rest (⟨items, name, none⟩ :: frames) []
  | .word name :: .word label :: .opening :: rest, frames, items =>
    parse rest (⟨items, name, some label⟩ :: frames) []
  | .closing :: rest, frame :: frames, items =>
    parse rest frames (frame.before ++ [.sect frame.name frame.label items])
  | _, _, _ => none

/-- The items of a configuration. -/
def read (text : List Char) : Option (List Item) := do
  let tokens ← tokens text
  parse tokens [] []

/-! ## Scanning -/

section Scanning

variable {place : Place} {text : List Char} {scanned : List Lexeme}

theorem scan_append (place : Place) (before after : List Char) :
    scan place (before ++ after) = (do
      let first ← scan place before
      let rest ← scan first.2 after
      some (first.1 ++ rest.1, rest.2)) := by
  induction before generalizing place with
  | nil =>
    cases hafter : scan place after with
    | none => simp [scan, hafter]
    | some rest => simp [scan, hafter]
  | cons char before ih =>
    simp only [List.cons_append, scan, Option.bind_eq_bind]
    cases step place char with
    | none => rfl
    | some first =>
      simp only [Option.bind_some, ih, Option.bind_eq_bind]
      cases scan first.2 before with
      | none => rfl
      | some middle =>
        simp only [Option.bind_some]
        cases scan middle.2 after with
        | none => rfl
        | some rest => simp only [Option.bind_some, List.append_assoc]

/-- A text goes on from where its first part ends. -/
theorem scan_append_of {place' : Place} {before : List Char} (after : List Char)
    (h : scan place before = some (scanned, place')) :
    scan place (before ++ after) =
      (scan place' after).map fun rest => (scanned ++ rest.1, rest.2) := by
  rw [scan_append, h]
  cases hafter : scan place' after <;> simp [hafter]

/-- Characters a bare word is made of. -/
def inWord (char : Char) : Bool :=
  !endsWord char && char != Quote.double.mark && char != Quote.single.mark

theorem scan_bare {read : List Char} (h : ∀ char ∈ text, endsWord char = false) :
    scan (.bare read) text = some ([], .bare (text.reverse ++ read)) := by
  induction text generalizing read with
  | nil => rfl
  | cons char text ih =>
    have hchar := h char List.mem_cons_self
    rw [scan, step, hchar]
    simp [ih fun other hother => h other (List.mem_cons_of_mem _ hother)]

/-- A bare word, up to its last character. -/
theorem scan_word (hne : text ≠ []) (h : ∀ char ∈ text, inWord char = true) :
    scan .between text = some ([], .bare text.reverse) := by
  cases text with
  | nil => exact absurd rfl hne
  | cons char text =>
    have hends : ∀ other ∈ char :: text, endsWord other = false := by
      intro other hother
      have hword := h other hother
      simp only [inWord, Bool.and_eq_true, Bool.not_eq_true'] at hword
      exact hword.1.1
    have hchar := h char List.mem_cons_self
    have hfresh : fresh char = ([], .bare [char]) := by
      simp only [inWord, endsWord, Bool.and_eq_true, Bool.not_eq_true', Bool.or_eq_false_iff,
        Option.isSome_eq_false_iff, Option.isNone_iff_eq_none, bne_iff_ne, ne_eq,
        beq_eq_false_iff_ne] at hchar
      obtain ⟨⟨⟨⟨hsign, hblank⟩, hhash⟩, hdouble⟩, hsingle⟩ := hchar
      simp [fresh, hsign, hblank, hhash, hdouble, hsingle]
    rw [scan, step, hfresh]
    simp [scan_bare fun other hother => hends other (List.mem_cons_of_mem _ hother)]

/-- The same with the line break after it. -/
theorem scan_word_line (hne : text ≠ []) (h : ∀ char ∈ text, inWord char = true) :
    scan .between (text ++ ['\n']) = some ([.word (String.ofList text), .newline], .between) := by
  rw [scan_append, scan_word hne h]
  simp [scan, step, endsWord, sign, fresh, wordOf]

/-- A line break is a token, unless it is refused. -/
theorem newline_mem_of_scan {place' : Place} (h : scan place text = some (scanned, place'))
    (hmem : '\n' ∈ text) : .newline ∈ scanned := by
  induction text generalizing place scanned with
  | nil => cases hmem
  | cons char text ih =>
    rw [scan] at h
    cases hstep : step place char with
    | none =>
      rw [hstep] at h
      cases h
    | some first =>
      cases hrest : scan first.2 text with
      | none =>
        rw [hstep] at h
        simp only [Option.bind_eq_bind, Option.bind_some, hrest] at h
        cases h
      | some rest =>
        rw [hstep] at h
        simp only [Option.bind_eq_bind, Option.bind_some, hrest, Option.some.injEq,
          Prod.mk.injEq] at h
        obtain ⟨rfl, rfl⟩ := h
        rcases List.mem_cons.mp hmem with rfl | hmem
        · apply List.mem_append_left
          cases place <;> simp [step, fresh, sign, endsWord] at hstep <;> simp [← hstep]
        · exact List.mem_append_right _ (ih hrest hmem)

/-- A blank leaves a quoted word open; elsewhere a line break in its place ends the line. -/
theorem step_blank {place' : Place} (h : step place ' ' = some (scanned, place')) :
    (∃ quote read, place' = .quoted quote read) ∨
      ((place' = .between ∨ place' = .comment) ∧
        step place '\n' = some (scanned ++ [.newline], .between)) := by
  cases place with
  | between =>
    simp [step, fresh, sign, isBlank] at h
    simp [step, fresh, sign, ← h.1, ← h.2]
  | bare read =>
    simp [step, fresh, sign, isBlank, endsWord] at h
    simp [step, fresh, sign, endsWord, ← h.1, ← h.2]
  | quoted quote read => cases quote <;> simp [step, Quote.mark] at h <;> simp [← h.2]
  | escaped quote read =>
    simp [step] at h
    simp [← h.2]
  | comment =>
    simp [step] at h
    simp [step, ← h.1, ← h.2]

theorem scan_blank {place' : Place} (h : scan place (text ++ [' ']) = some (scanned, place')) :
    (∃ quote read, place' = .quoted quote read) ∨
      ((place' = .between ∨ place' = .comment) ∧
        scan place (text ++ ['\n']) = some (scanned ++ [.newline], .between)) := by
  rw [scan_append] at h ⊢
  cases htext : scan place text with
  | none =>
    rw [htext] at h
    cases h
  | some first =>
    rw [htext] at h
    simp only [scan, Option.bind_eq_bind, Option.bind_some] at h ⊢
    cases hstep : step first.2 ' ' with
    | none =>
      rw [hstep] at h
      cases h
    | some last =>
      rw [hstep] at h
      simp only [Option.bind_some, List.append_nil, Option.some.injEq, Prod.mk.injEq] at h
      obtain ⟨rfl, rfl⟩ := h
      rcases step_blank hstep with hquoted | ⟨hplace, hline⟩
      · exact Or.inl hquoted
      · rw [hline]
        simp [hplace]

/-- A text that is one word, bare or quoted, with blanks around it. -/
def oneWord (text : List Char) : Option String :=
  match scan .between (text ++ [' ']) with
  | some ([.word text], .between) => some text
  | _ => none

theorem oneWord_eq_some {word : String} :
    oneWord text = some word ↔ scan .between (text ++ [' ']) = some ([.word word], .between) := by
  unfold oneWord
  split
  · rename_i other h
    rw [h]
    simp
  · rename_i hne
    simp only [reduceCtorEq, false_iff]
    exact hne word

theorem not_newline_mem_of_oneWord {word : String} (h : oneWord text = some word) :
    '\n' ∉ text := by
  intro hmem
  have hnewline := newline_mem_of_scan (oneWord_eq_some.mp h) (List.mem_append_left _ hmem)
  simp at hnewline

end Scanning

/-! ## What is read can be told from the tokens -/

mutual

def Item.tokens : Item → List Lexeme
  | .setting name value => [.word name, .equals, .word value]
  | .sect name label items =>
    .word name :: (label.toList.map Lexeme.word ++ .opening :: (spell items ++ [.closing]))

/-- The tokens of items, apart from line breaks. -/
def spell : List Item → List Lexeme
  | [] => []
  | item :: items => item.tokens ++ spell items

end

/-- The tokens of sections that are not closed yet. -/
def spellOpen : List Frame → List Lexeme
  | [] => []
  | frame :: frames =>
    spellOpen frames ++ spell frame.before ++
      .word frame.name :: (frame.label.toList.map Lexeme.word ++ [.opening])

def solid (tokens : List Lexeme) : List Lexeme := tokens.filter fun token => token != .newline

theorem spell_append (items others : List Item) :
    spell (items ++ others) = spell items ++ spell others := by
  induction items with
  | nil => rfl
  | cons item items ih => rw [List.cons_append, spell, spell, ih, List.append_assoc]

theorem spell_of_parse {tokens : List Lexeme} {frames : List Frame} {items result : List Item}
    (h : parse tokens frames items = some result) :
    spellOpen frames ++ spell items ++ solid tokens = spell result := by
  fun_induction parse tokens frames items with
  | case1 items =>
    obtain rfl := Option.some.inj h
    exact List.append_nil _
  | case2 => cases h
  | case3 frames items rest ih =>
    rw [← ih h]
    rfl
  | case4 frames items name value rest ih =>
    rw [← ih h, spell_append]
    simp [solid, spell, Item.tokens]
  | case5 frames items name rest ih =>
    rw [← ih h]
    simp [solid, spell, spellOpen]
  | case6 frames items name label rest ih =>
    rw [← ih h]
    simp [solid, spell, spellOpen]
  | case7 items rest frame frames ih =>
    rw [← ih h, spell_append]
    simp [solid, spell, spellOpen, Item.tokens]
  | case8 => cases h

end InfinityRadius.Braces
