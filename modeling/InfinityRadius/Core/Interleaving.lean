import InfinityRadius.Core.Runs
import InfinityRadius.Core.Sql

/-!
# Interleaved transactions

Sessions that share a database under `READ COMMITTED`, one statement of one session at a time.
A statement sees what is committed when it starts, under what its own transaction wrote.  A row
a transaction wrote or selected `FOR UPDATE` stays locked until the transaction ends; a
`FOR UPDATE` chooses its rows first, waits for them one by one, and replies with those that
still meet its condition.

A discipline says what a session may rely on while it holds its locks.  Where every program
keeps it, whatever the others commit in between, every interleaving keeps its invariant.
-/

namespace InfinityRadius.Interleaving

open Database Program Sql

variable {Table : Type} {Row : Table → Type} {Ask Request : Type} {Answer : Ask → Type}
  {Response : Type}

abbrev Tables (Row : Table → Type) := (t : Table) → List (Row t)

/-- A table and the key of one of its rows. -/
abbrev Key (Table : Type) := Table × ℕ

/-- What a transaction has of its own: the rows it wrote, the objects it loaded with the
attributes they were loaded with, and the keys it locked. -/
structure Own {Table : Type} (Row : Table → Type) where
  written : Tables Row := fun _ => []
  loaded : Tables Row := fun _ => []
  locked : List (Key Table) := []

/-- What the runtime and other systems answer a statement, and the key drawn for a new row. -/
structure Draw (Ask : Type) (Answer : Ask → Type) (Response : Type) where
  answer : (question : Ask) → Answer question
  response : Response
  id : ℕ

/-- What other transactions hold: their locked keys, and the rows they have not committed. -/
structure Held {Table : Type} (Row : Table → Type) where
  busy : Key Table → Bool
  pending : Tables Row

variable (schema : Schema Table Row)

/-- The committed rows under those a transaction wrote. -/
def overlay (committed written : Tables Row) : Tables Row := fun t =>
  (written t).foldl (fun rows row => storeRow schema t row rows) (committed t)

variable {schema} in
theorem overlay_of_unwritten {committed written : Tables Row} {t : Table}
    (h : written t = []) : overlay schema committed written t = committed t := by
  rw [overlay, h, List.foldl_nil]

variable {schema} in
theorem overlay_of_written {committed written : Tables Row} {t : Table} {row : Row t}
    (h : written t = [row]) :
    overlay schema committed written t = storeRow schema t row (committed t) := by
  rw [overlay, h, List.foldl_cons, List.foldl_nil]

namespace Own

variable [DecidableEq Table] (own : Own Row) (committed : Tables Row)

def lock (keys : List (Key Table)) : Own Row := { own with locked := own.locked ++ keys }

/-- The object the session has for a row, which an earlier load may have made. -/
def object (t : Table) (row : Row t) : Row t :=
  ((own.loaded t).find? fun old => schema.id t old == schema.id t row).getD row

/-- Rows read as objects. -/
def load (t : Table) (rows : List (Row t)) : List (Row t) × Own Row :=
  (rows.map (own.object schema t),
    { own with loaded := Function.update own.loaded t (own.loaded t ++ rows) })

/-- A row written and refreshed. -/
def write (t : Table) (row : Row t) : Own Row where
  written := Function.update own.written t (storeRow schema t row (own.written t))
  loaded := Function.update own.loaded t (storeRow schema t row (own.loaded t))
  locked := own.locked ++ [(t, schema.id t row)]

/-- The database refuses a row that breaks its column types or clashes with one that is
visible, and waits where it clashes with one that is not committed. -/
def tryWrite (held : Held Row) (t : Table) (row : Row t) : Option (Option (Row t) × Own Row) :=
  let visible := overlay schema committed own.written t
  if schema.valid t row = false ∨
      ∃ other ∈ visible, schema.id t other ≠ schema.id t row ∧ schema.conflict t other row then
    some (none, own)
  else if held.busy (t, schema.id t row) ∨
      ∃ other ∈ held.pending t, schema.conflict t other row then
    none
  else some (some row, own.write schema t row)

/-- The keys a statement locks before it replies. -/
def wanted : Stmt Table Row Ask Request → List (Key Table)
  | .selectForUpdate t p =>
    ((overlay schema committed own.written t).filter p).map fun row => (t, schema.id t row)
  | _ => []

/-- The reply of a statement that waited for `keys`, and what the transaction has afterwards;
nothing where it has to wait. -/
def reply (held : Held Row) (draw : Draw Ask Answer Response) (keys : List (Key Table)) :
    (s : Stmt Table Row Ask Request) → Option (Reply Answer Response s × Own Row)
  | .select t p => some (own.load schema t ((overlay schema committed own.written t).filter p))
  | .selectForUpdate t p =>
    some ((own.lock keys).load schema t ((overlay schema committed own.written t).filter
      fun row => keys.contains (t, schema.id t row) && p row))
  | .scan t p => some ((overlay schema committed own.written t).filter p, own)
  | .insert t build =>
    if schema.id t (build draw.id) = draw.id ∧
        ∀ row ∈ overlay schema committed own.written t, schema.id t row ≠ draw.id then
      own.tryWrite schema committed held t (build draw.id)
    else none
  | .update t id write =>
    match (overlay schema committed own.written t).find? fun row => schema.id t row == id with
    | none => some (none, own)
    | some old =>
      if schema.id t (write old) = id then own.tryWrite schema committed held t (write old)
      else some (none, own)
  | .ask question => some (draw.answer question, own)
  | .send _ => some (draw.response, own)

end Own

/-! ## Sessions -/

/-- A transaction that is open: what is left of its program, and, while a statement waits, the
keys it has still to lock and those it locked. -/
structure Session (schema : Schema Table Row) (Ask Request : Type) (Answer : Ask → Type)
    (Response ε α : Type) where
  program : Prog (Stmt Table Row Ask Request) (Reply Answer Response) ε α
  own : Own Row := {}
  waiting : Option (List (Key Table) × List (Key Table)) := none

variable {schema} {ε α : Type}

namespace Session

variable [DecidableEq Table]

/-- Every key the session holds. -/
def held (session : Session schema Ask Request Answer Response ε α) : List (Key Table) :=
  session.own.locked ++ (session.waiting.map Prod.snd).getD []

/-- The part of the system other sessions hold. -/
def others (sessions : List (Session schema Ask Request Answer Response ε α)) : Held Row where
  busy key := sessions.any fun session => session.held.contains key
  pending t := sessions.flatMap fun session => session.own.written t

/-- The session does the next of its work, where it does not have to wait. -/
def advance (committed : Tables Row) (held : Held Row) (draw : Draw Ask Answer Response)
    (session : Session schema Ask Request Answer Response ε α) :
    Session schema Ask Request Answer Response ε α :=
  match session.program with
  | .done _ => session
  | .step s next =>
    match session.waiting with
    | none => { session with waiting := some (session.own.wanted schema committed s, []) }
    | some (key :: rest, keys) =>
      if held.busy key then session else { session with waiting := some (rest, keys ++ [key]) }
    | some ([], keys) =>
      match session.own.reply schema committed held draw keys s with
      | none => session
      | some (reply, own) => ⟨next reply, own, none⟩

end Session

structure System (schema : Schema Table Row) (Ask Request : Type) (Answer : Ask → Type)
    (Response ε α : Type) where
  committed : Tables Row
  sessions : List (Session schema Ask Request Answer Response ε α) := []

/-- What can happen next: a call opens a session; a session does the next of its work, ends
its transaction as its program ended, or is aborted; some other program commits a table. -/
inductive Event {Table : Type} (Row : Table → Type) (Ask : Type) (Answer : Ask → Type)
    (Response Call : Type)
  | call (c : Call)
  | advance (index : ℕ) (draw : Draw Ask Answer Response)
  | finish (index : ℕ)
  | abort (index : ℕ)
  | elsewhere (t : Table) (rows : List (Row t))

section Next

/-- A program that returned is committed, one that raised is rolled back. -/
def Session.commit (committed : Tables Row)
    (session : Session schema Ask Request Answer Response ε α) : Tables Row :=
  match session.program with
  | .done (.ok _) => overlay schema committed session.own.written
  | _ => committed

theorem Session.commit_of_not_ok {committed : Tables Row}
    {session : Session schema Ask Request Answer Response ε α}
    (h : ∀ a, session.program ≠ .done (.ok a)) : session.commit committed = committed := by
  unfold Session.commit
  split
  · rename_i a hprogram
    exact absurd hprogram (h a)
  · rfl

variable [DecidableEq Table] {Call : Type}
  (program : Call → Prog (Stmt Table Row Ask Request) (Reply Answer Response) ε α)
  (shared : Table → Bool)

/-- The session has nothing left to do. -/
def Session.ended (session : Session schema Ask Request Answer Response ε α) : Bool :=
  match session.program with
  | .done _ => true
  | _ => false

/-- The system after the event; an event that cannot happen changes nothing. -/
def System.next (event : Event Row Ask Answer Response Call)
    (system : System schema Ask Request Answer Response ε α) :
    System schema Ask Request Answer Response ε α :=
  match event with
  | .call c => { system with sessions := system.sessions ++ [⟨program c, {}, none⟩] }
  | .advance index draw =>
    match system.sessions.drop index with
    | [] => system
    | session :: after =>
      let before := system.sessions.take index
      let session := session.advance system.committed (Session.others (before ++ after)) draw
      { system with sessions := before ++ session :: after }
  | .finish index =>
    match system.sessions.drop index with
    | [] => system
    | session :: after =>
      if session.ended then
        ⟨session.commit system.committed, system.sessions.take index ++ after⟩
      else system
  | .abort index => { system with sessions := system.sessions.eraseIdx index }
  | .elsewhere t rows =>
    if shared t then { system with committed := Function.update system.committed t rows }
    else system

end Next

/-! ## Disciplines -/

/-- What holds of the committed rows between transactions, and what a session that holds some
keys may rely on while others commit. -/
structure Discipline {Table : Type} (Row : Table → Type) where
  inv : Tables Row → Prop
  rely : List (Key Table) → Tables Row → Tables Row → Prop
  refl : ∀ locked committed, rely locked committed committed
  trans : ∀ {locked first second third}, rely locked first second → rely locked second third →
    rely locked first third
  mono : ∀ {locked locked' before after}, locked ⊆ locked' → rely locked' before after →
    rely locked before after

section Rules

variable [DecidableEq Table] (discipline : Discipline Row)

/-- Whatever is answered, and whatever others commit in between, the program raises, or returns
with its transaction meeting `returns`. -/
def Ensures (schema : Schema Table Row) (discipline : Discipline Row)
    (returns : α → Own Row → Tables Row → Prop) :
    Prog (Stmt Table Row Ask Request) (Reply Answer Response) ε α → Own Row → Tables Row → Prop
  | .done (.ok a), own, committed => ∀ committed', discipline.rely own.locked committed committed' →
    discipline.inv committed' → returns a own committed'
  | .done (.error _), _, _ => True
  | .step s next, own, committed => ∀ committed', discipline.rely own.locked committed committed' →
    discipline.inv committed' → ∀ (held : Held Row) (draw : Draw Ask Answer Response) keys reply
      own', own.reply schema committed' held draw keys s = some (reply, own') →
        Ensures schema discipline returns (next reply) own' committed'

/-- The transaction may be committed: the invariant is kept, and so is what any session may
rely on that holds none of its keys. -/
def Commits (schema : Schema Table Row) (discipline : Discipline Row) (own : Own Row)
    (committed : Tables Row) : Prop :=
  discipline.inv (overlay schema committed own.written) ∧
    ∀ locked, locked.Disjoint own.locked →
      discipline.rely locked committed (overlay schema committed own.written)

variable {discipline} {β : Type} {returns : α → Own Row → Tables Row → Prop}
  {x : Prog (Stmt Table Row Ask Request) (Reply Answer Response) ε α} {own : Own Row}
  {committed committed' : Tables Row}

/-- What a session ensures it still ensures after the others went on. -/
theorem Ensures.stable (h : Ensures schema discipline returns x own committed)
    (hrely : discipline.rely own.locked committed committed') :
    Ensures schema discipline returns x own committed' := by
  cases x with
  | done result =>
    cases result with
    | ok a =>
      intro later hlater
      exact h later (discipline.trans hrely hlater)
    | error e => trivial
  | step s next =>
    intro later hlater
    exact h later (discipline.trans hrely hlater)

theorem Ensures.mono {returns' : α → Own Row → Tables Row → Prop}
    (h : Ensures schema discipline returns x own committed)
    (himp : ∀ a own' later, returns a own' later → returns' a own' later) :
    Ensures schema discipline returns' x own committed := by
  induction x generalizing own committed with
  | done result =>
    cases result with
    | ok a =>
      intro later hrely hinv
      exact himp a own later (h later hrely hinv)
    | error e => trivial
  | step s next ih =>
    intro later hrely hinv held draw keys reply own' hreply
    exact ih reply (h later hrely hinv held draw keys reply own' hreply)

/-- The rule for `do let a ← x; f a`. -/
theorem Ensures.bind {returns' : β → Own Row → Tables Row → Prop}
    {f : α → Prog (Stmt Table Row Ask Request) (Reply Answer Response) ε β}
    (hinv : discipline.inv committed) (h : Ensures schema discipline returns x own committed)
    (hf : ∀ a own' later, discipline.inv later → returns a own' later →
      Ensures schema discipline returns' (f a) own' later) :
    Ensures schema discipline returns' (x >>= f) own committed := by
  induction x generalizing own committed with
  | done result =>
    cases result with
    | ok a => exact hf a own committed hinv (h committed (discipline.refl _ _) hinv)
    | error e => trivial
  | step s next ih =>
    intro later hrely hlater held draw keys reply own' hreply
    exact ih reply hlater (h later hrely hlater held draw keys reply own' hreply)

end Rules

/-! ## Statements -/

section Statements

/-- Nothing happened to the row with the key. -/
def SameAt (schema : Schema Table Row) (before after : Tables Row) (key : Key Table) : Prop :=
  ((after key.1).filter fun row => schema.id key.1 row == key.2) =
    (before key.1).filter fun row => schema.id key.1 row == key.2

variable {before after : Tables Row} {own : Own Row} {t : Table} {row : Row t}

theorem SameAt.mem (h : SameAt schema before after (t, schema.id t row)) :
    row ∈ after t ↔ row ∈ before t := by
  have hmem : row ∈ (after t).filter (fun other => schema.id t other == schema.id t row) ↔
      row ∈ (before t).filter fun other => schema.id t other == schema.id t row :=
    iff_of_eq (congrArg (row ∈ ·) h)
  simpa using hmem

/-- A key that is not in use is still not in use. -/
theorem SameAt.fresh {id : ℕ} (h : SameAt schema before after (t, id))
    (hfresh : ∀ row ∈ before t, schema.id t row ≠ id) : ∀ row ∈ after t, schema.id t row ≠ id := by
  intro row hrow hid
  subst hid
  exact hfresh row (h.mem.mp hrow) rfl

/-- Writing a row leaves the rows with other keys alone. -/
theorem filter_storeRow {rows : List (Row t)} {id : ℕ} (h : schema.id t row ≠ id) :
    (storeRow schema t row rows).filter (fun other => schema.id t other == id) =
      rows.filter fun other => schema.id t other == id := by
  unfold storeRow
  split
  · rw [replaceRow, List.filter_map]
    have hfilter : rows.filter ((fun other => schema.id t other == id) ∘ fun old =>
        if schema.id t old = schema.id t row then row else old) =
          rows.filter fun other => schema.id t other == id := by
      apply List.filter_congr
      intro old _
      by_cases hold : schema.id t old = schema.id t row
      · simp [hold]
      · simp [hold]
    rw [hfilter]
    refine (List.map_congr_left fun old hold => if_neg fun hid => ?_).trans (List.map_id' _)
    have hkey := (List.mem_filter.mp hold).2
    simp only [beq_iff_eq] at hkey
    exact h (hid.symm.trans hkey)
  · simp [h]

/-- A commit leaves alone what its transaction did not write. -/
theorem sameAt_overlay {committed written : Tables Row} {key : Key Table}
    (h : ∀ row ∈ written key.1, schema.id key.1 row ≠ key.2) :
    SameAt schema committed (overlay schema committed written) key := by
  have hfold : ∀ (rows : List (Row key.1)) (writes : List (Row key.1)),
      (∀ row ∈ writes, schema.id key.1 row ≠ key.2) →
        (writes.foldl (fun rows row => storeRow schema key.1 row rows) rows).filter
            (fun row => schema.id key.1 row == key.2) =
          rows.filter fun row => schema.id key.1 row == key.2 := by
    intro rows writes hwrites
    induction writes generalizing rows with
    | nil => rfl
    | cons first rest ih =>
      rw [List.foldl_cons, ih _ fun row hrow => hwrites row (List.mem_cons_of_mem _ hrow),
        filter_storeRow (hwrites first List.mem_cons_self)]
  exact hfold _ _ h

theorem storeRow_nil : storeRow schema t row [] = [row] :=
  storeRow_of_fresh (by simp)

theorem storeRow_singleton {old : Row t} (h : schema.id t old = schema.id t row) :
    storeRow schema t row [old] = [row] := by
  rw [storeRow_of_mem (List.mem_singleton_self old) h, replaceRow, List.map_singleton, if_pos h]

section Write

variable [DecidableEq Table]

theorem Own.written_write : (own.write schema t row).written t =
    storeRow schema t row (own.written t) := Function.update_self _ _ _

theorem Own.written_write_of_ne {t' : Table} (h : t' ≠ t) :
    (own.write schema t row).written t' = own.written t' := Function.update_of_ne h _ _

end Write

@[simp]
theorem Own.object_empty : ({} : Own Row).object schema t row = row := rfl

@[simp]
theorem Own.id_object : schema.id t (own.object schema t row) = schema.id t row := by
  unfold Own.object
  cases hfind : (own.loaded t).find? fun old => schema.id t old == schema.id t row with
  | none => rfl
  | some old => simpa using List.find?_some hfind

end Statements

/-! ## Every interleaving -/

section Interleavings

variable [DecidableEq Table] {discipline : Discipline Row} {own own' : Own Row}
  {committed : Tables Row} {held : Held Row} {draw : Draw Ask Answer Response}

/-- A write is refused, or it is the session's own from now on. -/
theorem Own.tryWrite_eq_some {t : Table} {row : Row t} {stored : Option (Row t)}
    (h : own.tryWrite schema committed held t row = some (stored, own')) :
    stored = none ∧ own' = own ∨
      stored = some row ∧ own' = own.write schema t row ∧ schema.valid t row = true ∧
        held.busy (t, schema.id t row) = false := by
  unfold Own.tryWrite at h
  simp only at h
  split at h
  · left
    simpa [eq_comm] using h
  · rename_i hadmitted
    split at h
    · cases h
    · rename_i hfree
      right
      simp only [not_or, Bool.not_eq_true, Bool.not_eq_false] at hadmitted hfree
      obtain ⟨hstored, hown⟩ := Prod.mk.inj (Option.some.inj h)
      exact ⟨hstored.symm, hown.symm, hadmitted.1, hfree.1⟩

/-- A statement locks what it waited for, and what nobody else holds. -/
theorem Own.reply_locked {s : Stmt Table Row Ask Request} {keys : List (Key Table)}
    {reply : Reply Answer Response s}
    (h : own.reply schema committed held draw keys s = some (reply, own')) :
    ∀ key ∈ own'.locked, key ∈ own.locked ++ keys ∨ held.busy key = false := by
  have hwrite : ∀ {t : Table} {row : Row t} {stored : Option (Row t)},
      own.tryWrite schema committed held t row = some (stored, own') →
        ∀ key ∈ own'.locked, key ∈ own.locked ++ keys ∨ held.busy key = false := by
    intro t row stored h key hkey
    rcases Own.tryWrite_eq_some h with ⟨-, rfl⟩ | ⟨-, rfl, -, hfree⟩
    · exact Or.inl (List.mem_append_left _ hkey)
    · rcases List.mem_append.mp hkey with hown | hnew
      · exact Or.inl (List.mem_append_left _ hown)
      · rw [List.mem_singleton.mp hnew]
        exact Or.inr hfree
  intro key hkey
  cases s with
  | select t p =>
    obtain ⟨-, rfl⟩ := Prod.mk.inj (Option.some.inj h)
    exact Or.inl (List.mem_append_left _ hkey)
  | selectForUpdate t p =>
    obtain ⟨-, rfl⟩ := Prod.mk.inj (Option.some.inj h)
    exact Or.inl hkey
  | scan t p =>
    obtain ⟨-, rfl⟩ := Prod.mk.inj (Option.some.inj h)
    exact Or.inl (List.mem_append_left _ hkey)
  | insert t build =>
    simp only [Own.reply] at h
    split at h
    · exact hwrite h key hkey
    · cases h
  | update t id write =>
    simp only [Own.reply] at h
    split at h
    · obtain ⟨-, rfl⟩ := Prod.mk.inj (Option.some.inj h)
      exact Or.inl (List.mem_append_left _ hkey)
    · split at h
      · exact hwrite h key hkey
      · obtain ⟨-, rfl⟩ := Prod.mk.inj (Option.some.inj h)
        exact Or.inl (List.mem_append_left _ hkey)
  | ask question =>
    obtain ⟨-, rfl⟩ := Prod.mk.inj (Option.some.inj h)
    exact Or.inl (List.mem_append_left _ hkey)
  | send request =>
    obtain ⟨-, rfl⟩ := Prod.mk.inj (Option.some.inj h)
    exact Or.inl (List.mem_append_left _ hkey)

variable {session : Session schema Ask Request Answer Response ε α}

/-- What a session that goes on holds, it held before or nobody else holds. -/
theorem Session.held_advance {key : Key Table}
    (h : key ∈ (session.advance committed held draw).held) :
    key ∈ session.held ∨ held.busy key = false := by
  unfold Session.advance at h
  split at h
  · exact Or.inl h
  · split at h
    · rename_i hwaiting
      left
      simpa [Session.held, hwaiting] using h
    · rename_i first rest keys hwaiting
      split at h
      · exact Or.inl h
      · rename_i hfree
        simp only [Session.held, Option.map_some, Option.getD_some, List.mem_append,
          List.mem_singleton, hwaiting] at h ⊢
        rcases h with hown | hkeys | rfl
        · exact Or.inl (Or.inl hown)
        · exact Or.inl (Or.inr hkeys)
        · exact Or.inr (by simpa using hfree)
    · rename_i keys hwaiting
      split at h
      · exact Or.inl h
      · rename_i reply own' hreply
        simp only [Session.held, Option.map_none, Option.getD_none, List.append_nil] at h
        rcases Own.reply_locked hreply key h with hheld | hfree
        · left
          simpa [Session.held, hwaiting] using hheld
        · exact Or.inr hfree

variable {returns : α → Own Row → Tables Row → Prop}

/-- A session that goes on still ensures what its program ensures. -/
theorem Session.ensures_advance (hinv : discipline.inv committed)
    (h : Ensures schema discipline returns session.program session.own committed) :
    Ensures schema discipline returns (session.advance committed held draw).program
      (session.advance committed held draw).own committed := by
  unfold Session.advance
  split
  · exact h
  · rename_i s next hprogram
    rw [hprogram] at h
    split
    · rw [hprogram]
      exact h
    · split
      · rw [hprogram]
        exact h
      · rw [hprogram]
        exact h
    · split
      · rw [hprogram]
        exact h
      · rename_i reply own' hreply
        exact h committed (discipline.refl _ _) hinv held draw _ reply own' hreply

/-- The committed rows are in order, every session ensures that its transaction may be
committed, and no two hold the same key. -/
structure System.Kept (discipline : Discipline Row)
    (system : System schema Ask Request Answer Response ε α) : Prop where
  inv : discipline.inv system.committed
  ensures : ∀ session ∈ system.sessions,
    Ensures schema discipline (fun _ own later => Commits schema discipline own later)
      session.program session.own system.committed
  disjoint : system.sessions.Pairwise fun left right => left.held.Disjoint right.held

variable {system : System schema Ask Request Answer Response ε α}

theorem Session.busy_others {sessions : List (Session schema Ask Request Answer Response ε α)}
    {key : Key Table} (h : (Session.others sessions).busy key = false)
    (hsession : session ∈ sessions) : key ∉ session.held := by
  have hnone := List.any_eq_false.mp h session hsession
  simpa using hnone

theorem System.Kept.advance (h : system.Kept discipline)
    {before after : List (Session schema Ask Request Answer Response ε α)}
    (hsessions : system.sessions = before ++ session :: after) :
    System.Kept discipline { system with
      sessions := before ++ session.advance system.committed
        (Session.others (before ++ after)) draw :: after } := by
  have hdisjoint := h.disjoint
  have hensures := h.ensures
  rw [hsessions] at hdisjoint hensures
  obtain ⟨hbefore, hrest, hacross⟩ := List.pairwise_append.mp hdisjoint
  obtain ⟨hafter, hpairwise⟩ := List.pairwise_cons.mp hrest
  -- whatever the session newly locked was free
  have hapart : ∀ other ∈ before ++ after, session.held.Disjoint other.held →
      (session.advance system.committed (Session.others (before ++ after)) draw).held.Disjoint
        other.held := by
    intro other hother hheld key hkey hkey'
    rcases Session.held_advance hkey with hold | hfree
    · exact hheld hold hkey'
    · exact Session.busy_others hfree hother hkey'
  constructor
  · exact h.inv
  · intro other hother
    rcases List.mem_append.mp hother with hother | hother
    · exact hensures other (List.mem_append_left _ hother)
    · rcases List.mem_cons.mp hother with rfl | hother
      · exact Session.ensures_advance h.inv
          (hensures session (List.mem_append_right _ List.mem_cons_self))
      · exact hensures other (List.mem_append_right _ (List.mem_cons_of_mem _ hother))
  · apply List.pairwise_append.mpr
    refine ⟨hbefore, List.pairwise_cons.mpr ⟨fun other hother => ?_, hpairwise⟩,
      fun other hother next hnext => ?_⟩
    · exact hapart other (List.mem_append_right _ hother) (hafter other hother)
    · rcases List.mem_cons.mp hnext with rfl | hnext
      · have hheld := hacross other hother session List.mem_cons_self
        exact List.disjoint_symm
          (hapart other (List.mem_append_left _ hother) (List.disjoint_symm hheld))
      · exact hacross other hother next (List.mem_cons_of_mem _ hnext)

/-- Closing a session leaves the others with what they rely on. -/
theorem System.Kept.close (h : system.Kept discipline) {committed : Tables Row}
    {sessions : List (Session schema Ask Request Answer Response ε α)}
    (hinv : discipline.inv committed) (hsublist : sessions.Sublist system.sessions)
    (hrely : ∀ session ∈ sessions, discipline.rely session.own.locked system.committed committed) :
    System.Kept discipline ⟨committed, sessions⟩ where
  inv := hinv
  ensures session hsession :=
    (h.ensures session (hsublist.subset hsession)).stable (hrely session hsession)
  disjoint := h.disjoint.sublist hsublist

theorem System.Kept.finish (h : system.Kept discipline)
    {before after : List (Session schema Ask Request Answer Response ε α)}
    (hsessions : system.sessions = before ++ session :: after) :
    System.Kept discipline ⟨session.commit system.committed, before ++ after⟩ := by
  have hmem : session ∈ system.sessions := by
    rw [hsessions]
    exact List.mem_append_right _ List.mem_cons_self
  have hsublist : (before ++ after).Sublist system.sessions := by
    rw [hsessions]
    exact (List.sublist_cons_self _ _).append_left _
  have hensures := h.ensures session hmem
  unfold Session.commit
  split
  · rename_i a hprogram
    rw [hprogram] at hensures
    obtain ⟨hinv, hrely⟩ := hensures system.committed (discipline.refl _ _) h.inv
    have hdisjoint := h.disjoint
    rw [hsessions] at hdisjoint
    obtain ⟨-, hrest, hacross⟩ := List.pairwise_append.mp hdisjoint
    obtain ⟨hafter, -⟩ := List.pairwise_cons.mp hrest
    refine h.close hinv hsublist fun other hother => hrely _ fun key hkey hkey' => ?_
    rcases List.mem_append.mp hother with hother | hother
    · exact hacross other hother session List.mem_cons_self
        (List.mem_append_left _ hkey) (List.mem_append_left _ hkey')
    · exact hafter other hother (List.mem_append_left _ hkey') (List.mem_append_left _ hkey)
  · exact h.close h.inv hsublist fun _ _ => discipline.refl _ _

variable {Call : Type}
  {program : Call → Prog (Stmt Table Row Ask Request) (Reply Answer Response) ε α}
  {shared : Table → Bool}

/-- Every program of the system may be committed, and what the rest of the world commits
concerns nobody. -/
structure Keeps (schema : Schema Table Row) (discipline : Discipline Row)
    (program : Call → Prog (Stmt Table Row Ask Request) (Reply Answer Response) ε α)
    (shared : Table → Bool) : Prop where
  call : ∀ c committed, discipline.inv committed →
    Ensures schema discipline (fun _ own later => Commits schema discipline own later)
      (program c) {} committed
  elsewhere : ∀ t rows committed, shared t = true → discipline.inv committed →
    discipline.inv (Function.update committed t rows) ∧
      ∀ locked, discipline.rely locked committed (Function.update committed t rows)

theorem System.Kept.next (hkeeps : Keeps schema discipline program shared)
    (h : system.Kept discipline) (event : Event Row Ask Answer Response Call) :
    (system.next program shared event).Kept discipline := by
  cases event with
  | call c =>
    constructor
    · exact h.inv
    · intro session hsession
      rcases List.mem_append.mp hsession with hsession | hsession
      · exact h.ensures session hsession
      · rw [List.mem_singleton.mp hsession]
        exact hkeeps.call c _ h.inv
    · apply List.pairwise_append.mpr
      refine ⟨h.disjoint, List.pairwise_singleton _ _, fun other _ session hsession => ?_⟩
      rw [List.mem_singleton.mp hsession]
      exact List.disjoint_nil_right _
  | advance index draw =>
    simp only [System.next]
    split
    · exact h
    · rename_i session after hdrop
      apply h.advance
      rw [← hdrop, List.take_append_drop]
  | finish index =>
    simp only [System.next]
    split
    · exact h
    · rename_i session after hdrop
      split
      · apply h.finish
        rw [← hdrop, List.take_append_drop]
      · exact h
  | abort index =>
    exact h.close h.inv (List.eraseIdx_sublist _ _) fun _ _ => discipline.refl _ _
  | elsewhere t rows =>
    simp only [System.next]
    split
    · rename_i hshared
      obtain ⟨hinv, hrely⟩ := hkeeps.elsewhere t rows system.committed hshared h.inv
      exact h.close hinv (List.Sublist.refl _) fun session _ => hrely session.own.locked
    · exact h

/-- Every interleaving keeps the invariant. -/
theorem inv_of_run (hkeeps : Keeps schema discipline program shared)
    (events : List (Event Row Ask Answer Response Call)) {committed : Tables Row}
    (hinv : discipline.inv committed) :
    discipline.inv (Runs.run (System.next program shared) events
      (⟨committed, []⟩ : System schema Ask Request Answer Response ε α)).committed := by
  have hkept : System.Kept discipline
      (⟨committed, []⟩ : System schema Ask Request Answer Response ε α) := by
    constructor
    · exact hinv
    · simp
    · simp
  exact (Runs.run_kept (System.Kept discipline) (fun event _ h => h.next hkeeps event)
    events hkept).inv

end Interleavings

end InfinityRadius.Interleaving
