import Mathlib.Data.Bool.AllAny
import Mathlib.Data.List.Basic
import Mathlib.Data.List.TakeWhile
import Mathlib.Tactic.Common

/-!
# Configurations of sectioned lines

The language `wg-quick` reads: lines, comments from a hash sign on, `[Section]` headers and
`Key = Value`.  As in `wg`, blanks count nowhere in a line.
-/

namespace InfinityRadius.SectionedLines

/-- What `isspace` accepts, apart from the line feed. -/
def isBlank (char : Char) : Bool :=
  [' ', '\t', '\r', Char.ofNat 11, Char.ofNat 12].contains char

/-- A line without its comment and its blanks. -/
def clean (line : List Char) : List Char :=
  (line.takeWhile fun char => char != '#').filter fun char => !isBlank char

inductive Item
  | header (name : String)
  | setting (key value : String)
deriving DecidableEq

/-- What a clean line says; `none` where it says nothing the language has. -/
def readLine : List Char → Option (List Item)
  | [] => some []
  | '[' :: rest =>
    if rest.getLast? = some ']' then some [.header (String.ofList rest.dropLast)] else none
  | line =>
    if '=' ∈ line then
      some [.setting (String.ofList (line.takeWhile fun char => char != '='))
        (String.ofList (line.dropWhile fun char => char != '=').tail)]
    else none

/-- The items of a text, line by line. -/
def items (text : List Char) : Option (List Item) :=
  ((text.splitOn '\n').mapM fun line => readLine (clean line)).map List.flatten

structure Section where
  name : String
  settings : List (String × String)
deriving DecidableEq

/-- The settings before the first header, and the sections. -/
def gather : List Item → List (String × String) × List Section
  | [] => ([], [])
  | .header name :: items => ([], ⟨name, (gather items).1⟩ :: (gather items).2)
  | .setting key value :: items => ((key, value) :: (gather items).1, (gather items).2)

/-- The sections of a configuration; no setting stands before them. -/
def read (text : List Char) : Option (List Section) := do
  let items ← items text
  let gathered := gather items
  if gathered.1.isEmpty then some gathered.2 else none

/-! ## The lines of a text -/

section Items

variable {line before after : List Char} {parts : List Item}

/-- A line break ends a line. -/
theorem items_append_line (before after : List Char) :
    items (before ++ '\n' :: after) = (do
      let first ← items before
      let rest ← items after
      some (first ++ rest)) := by
  unfold items
  rw [List.splitOn_append_cons_self, List.mapM_append]
  cases (before.splitOn '\n').mapM fun line => readLine (clean line) with
  | none => rfl
  | some first =>
    cases (after.splitOn '\n').mapM fun line => readLine (clean line) with
    | none => rfl
    | some rest => simp

theorem items_of_line (h : '\n' ∉ line) : items line = readLine (clean line) := by
  unfold items
  rw [List.splitOn_eq_singleton h, List.mapM_cons, List.mapM_nil]
  cases readLine (clean line) with
  | none => rfl
  | some parts => simp

/-- A character that stands for itself in a key or a value. -/
def plain (char : Char) : Bool := char != '\n' && char != '#' && !isBlank char

theorem plain_iff {char : Char} :
    plain char = true ↔ char ≠ '\n' ∧ char ≠ '#' ∧ isBlank char = false := by
  simp [plain, and_assoc]

theorem clean_of_plain (h : ∀ char ∈ line, plain char = true) : clean line = line := by
  have hwhole : (line.takeWhile fun char => char != '#') = line :=
    List.takeWhile_eq_self_iff.mpr fun char hchar =>
      bne_iff_ne.mpr (plain_iff.mp (h char hchar)).2.1
  rw [clean, hwhole, List.filter_eq_self]
  intro char hchar
  rw [(plain_iff.mp (h char hchar)).2.2]
  rfl

theorem clean_append (h : ∀ char ∈ before, char ≠ '#') :
    clean (before ++ after) = clean before ++ clean after := by
  have hbefore : ∀ char ∈ before, (char != '#') = true :=
    fun char hchar => bne_iff_ne.mpr (h char hchar)
  rw [clean, clean, clean, List.takeWhile_append_of_pos hbefore, List.filter_append,
    List.takeWhile_eq_self_iff.mpr hbefore]

/-- A plain key and a plain value. -/
theorem items_setting {key value : List Char} (hne : key ≠ [])
    (hkey : ∀ char ∈ key, plain char = true ∧ char ≠ '=' ∧ char ≠ '[')
    (hvalue : ∀ char ∈ value, plain char = true) :
    items (key ++ [' ', '=', ' '] ++ value) =
      some [.setting (String.ofList key) (String.ofList value)] := by
  have hclean : clean (key ++ [' ', '=', ' '] ++ value) = key ++ '=' :: value := by
    rw [clean_append, clean_append, clean_of_plain fun char hchar => (hkey char hchar).1,
      clean_of_plain hvalue, List.append_assoc]
    · rfl
    · exact fun char hchar => (plain_iff.mp (hkey char hchar).1).2.1
    · intro char hchar
      rcases List.mem_append.mp hchar with hchar | hchar
      · exact (plain_iff.mp (hkey char hchar).1).2.1
      · have hsigns : ∀ sign ∈ [' ', '=', ' '], sign ≠ '#' :=
          List.all_iff_forall_prop.mp (by decide)
        exact hsigns char hchar
  have hline : '\n' ∉ key ++ [' ', '=', ' '] ++ value := by
    intro hmem
    rcases List.mem_append.mp hmem with hmem | hmem
    · rcases List.mem_append.mp hmem with hmem | hmem
      · exact (plain_iff.mp (hkey _ hmem).1).1 rfl
      · simp at hmem
    · exact (plain_iff.mp (hvalue _ hmem)).1 rfl
  have hbefore : ∀ char ∈ key, (char != '=') = true :=
    fun char hchar => bne_iff_ne.mpr (hkey char hchar).2.1
  have htake : ((key ++ '=' :: value).takeWhile fun char => char != '=') = key := by
    rw [List.takeWhile_append_of_pos hbefore]
    simp
  have hdrop : ((key ++ '=' :: value).dropWhile fun char => char != '=') = '=' :: value := by
    rw [List.dropWhile_append_of_pos hbefore]
    simp
  rw [items_of_line hline, hclean]
  unfold readLine
  split
  · simp at *
  · rename_i rest heq
    obtain ⟨char, tail, rfl⟩ := List.exists_cons_of_ne_nil hne
    exact absurd (List.cons.inj heq).1 (hkey char List.mem_cons_self).2.2
  · rw [if_pos (by simp), htake, hdrop, List.tail_cons]

/-- A line that begins with a hash sign says nothing. -/
theorem items_comment (h : '\n' ∉ line) : items ('#' :: line) = some [] := by
  rw [items_of_line (by simpa using h)]
  rfl

end Items

/-! ## The sections of a list of items -/

/-- The items sections are made of. -/
def Section.items (sect : Section) : List Item :=
  .header sect.name :: sect.settings.map fun setting => .setting setting.1 setting.2

theorem items_gather (parts : List Item) :
    ((gather parts).1.map fun setting => Item.setting setting.1 setting.2) ++
      (gather parts).2.flatMap Section.items = parts := by
  induction parts with
  | nil => rfl
  | cons part parts ih =>
    cases part with
    | header name =>
      simp only [gather, List.map_nil, List.nil_append, List.flatMap_cons, Section.items,
        List.cons_append, ih]
    | setting key value =>
      simp only [gather, List.map_cons, List.cons_append, ih]

/-- A text is read as its items say, and from what is read they can be told. -/
theorem items_of_read {text : List Char} {sections : List Section} (h : read text = some sections) :
    items text = some (sections.flatMap Section.items) := by
  unfold read at h
  cases hitems : items text with
  | none =>
    rw [hitems] at h
    cases h
  | some parts =>
    rw [hitems] at h
    simp only [Option.bind_eq_bind, Option.bind_some] at h
    split at h
    · rename_i hempty
      have hgather := items_gather parts
      rw [List.isEmpty_iff.mp hempty, List.map_nil, List.nil_append, Option.some.inj h] at hgather
      rw [hgather]
    · cases h

end InfinityRadius.SectionedLines
