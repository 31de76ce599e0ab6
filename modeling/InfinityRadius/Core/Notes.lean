import InfinityRadius.Core.Endings

/-!
# What a session has read

Sessions that take notes of the replies they get.  The notes are no part of the programs; they
say what a transaction went by, at a time when others may have changed it.
-/

namespace InfinityRadius.Interleaving

open Database Program Sql

variable {Table : Type} {Row : Table → Type} {Ask Request : Type} {Answer : Ask → Type}
  {Response ε α β G : Type} {schema : Schema Table Row} [DecidableEq Table]
  {note : (s : Stmt Table Row Ask Request) → Reply Answer Response s → G → G}
  {returns : α → Own Row → G → Prop}
  {x : Prog (Stmt Table Row Ask Request) (Reply Answer Response) ε α} {own own' : Own Row}
  {notes : G}

/-- The program raises, or returns with its own part and its notes meeting `returns`. -/
def NotesEnd (schema : Schema Table Row)
    (note : (s : Stmt Table Row Ask Request) → Reply Answer Response s → G → G)
    (returns : α → Own Row → G → Prop) :
    Prog (Stmt Table Row Ask Request) (Reply Answer Response) ε α → Own Row → G → Prop
  | .done (.ok a), own, notes => returns a own notes
  | .done (.error _), _, _ => True
  | .step s next, own, notes => ∀ committed (held : Held Row) (draw : Draw Ask Answer Response)
      keys reply own', own.reply schema committed held draw keys s = some (reply, own') →
        NotesEnd schema note returns (next reply) own' (note s reply notes)

theorem NotesEnd.mono {returns' : α → Own Row → G → Prop}
    (h : NotesEnd schema note returns x own notes)
    (himp : ∀ a own' notes', returns a own' notes' → returns' a own' notes') :
    NotesEnd schema note returns' x own notes := by
  induction x generalizing own notes with
  | done result =>
    cases result with
    | ok a => exact himp a own notes h
    | error e => trivial
  | step s next ih =>
    intro committed held draw keys reply own' hreply
    exact ih reply (h committed held draw keys reply own' hreply)

theorem NotesEnd.bind {returns' : β → Own Row → G → Prop}
    {f : α → Prog (Stmt Table Row Ask Request) (Reply Answer Response) ε β}
    (h : NotesEnd schema note returns x own notes)
    (hf : ∀ a own' notes', returns a own' notes' →
      NotesEnd schema note returns' (f a) own' notes') :
    NotesEnd schema note returns' (x >>= f) own notes := by
  induction x generalizing own notes with
  | done result =>
    cases result with
    | ok a => exact hf a own notes h
    | error e => trivial
  | step s next ih =>
    intro committed held draw keys reply own' hreply
    exact ih reply (h committed held draw keys reply own' hreply)

/-- Where nothing is noted, the program ends as it does without notes. -/
theorem EndsWith.notesEnd {returns : α → Own Row → Prop} (h : EndsWith schema returns x own)
    (hall : x.All fun s => ∀ reply notes, note s reply notes = notes) :
    NotesEnd schema note (fun a own' notes' => returns a own' ∧ notes' = notes) x own notes := by
  induction x generalizing own with
  | done result =>
    cases result with
    | ok a => exact ⟨h, rfl⟩
    | error e => trivial
  | step s next ih =>
    intro committed held draw keys reply own' hreply
    rw [hall.1 reply notes]
    exact ih reply (h committed held draw keys reply own' hreply) (hall.2 reply)

/-! ## Every interleaving -/

/-- What the session notes where it does the next of its work. -/
def Session.noted (note : (s : Stmt Table Row Ask Request) → Reply Answer Response s → G → G)
    (committed : Tables Row) (held : Held Row) (draw : Draw Ask Answer Response)
    (session : Session schema Ask Request Answer Response ε α) (notes : G) : G :=
  match session.program, session.waiting with
  | .step s _, some ([], keys) =>
    match session.own.reply schema committed held draw keys s with
    | none => notes
    | some (reply, _) => note s reply notes
  | _, _ => notes

/-- The sessions that are open, with their notes. -/
structure Noted (schema : Schema Table Row) (Ask Request : Type) (Answer : Ask → Type)
    (Response ε α G : Type) where
  committed : Tables Row
  parties : List (Session schema Ask Request Answer Response ε α × G) := []

namespace Noted

def system (state : Noted schema Ask Request Answer Response ε α G) :
    System schema Ask Request Answer Response ε α :=
  ⟨state.committed, state.parties.map Prod.fst⟩

variable {Call : Type}
  (program : Call → Prog (Stmt Table Row Ask Request) (Reply Answer Response) ε α)
  (opening : Call → G)
  (note : (s : Stmt Table Row Ask Request) → Reply Answer Response s → G → G)
  (shared : Table → Bool)

def next (event : Event Row Ask Answer Response Call)
    (state : Noted schema Ask Request Answer Response ε α G) :
    Noted schema Ask Request Answer Response ε α G :=
  match event with
  | .call c =>
    { state with parties := state.parties ++ [(⟨program c, {}, none⟩, opening c)] }
  | .advance index draw =>
    match state.parties.drop index with
    | [] => state
    | (session, notes) :: after =>
      let before := state.parties.take index
      let others := Session.others ((before ++ after).map Prod.fst)
      { state with
        parties := before ++ (session.advance state.committed others draw,
          session.noted note state.committed others draw notes) :: after }
  | .finish index =>
    match state.parties.drop index with
    | [] => state
    | (session, _) :: after =>
      if session.ended then
        ⟨session.commit state.committed, state.parties.take index ++ after⟩
      else state
  | .abort index => { state with parties := state.parties.eraseIdx index }
  | .elsewhere t rows =>
    if shared t then { state with committed := Function.update state.committed t rows }
    else state

/-- Notes change nothing. -/
theorem system_next (event : Event Row Ask Answer Response Call)
    (state : Noted schema Ask Request Answer Response ε α G) :
    (state.next program opening note shared event).system =
      state.system.next program shared event := by
  cases event with
  | call c => simp [next, system, System.next]
  | advance index draw =>
    simp only [next, System.next, system, ← List.map_drop, ← List.map_take]
    cases hdrop : state.parties.drop index with
    | nil => rfl
    | cons party after => simp
  | finish index =>
    simp only [next, System.next, system, ← List.map_drop, ← List.map_take]
    cases hdrop : state.parties.drop index with
    | nil => rfl
    | cons party after =>
      simp only [List.map_cons]
      split
      · simp
      · rfl
  | abort index => simp [next, System.next, system, List.eraseIdx_map]
  | elsewhere t rows =>
    simp only [next, System.next, system]
    split
    · rfl
    · rfl

end Noted

variable {session : Session schema Ask Request Answer Response ε α} {committed : Tables Row}
  {held : Held Row} {draw : Draw Ask Answer Response}

theorem Session.notesEnd_advance
    (h : NotesEnd schema note returns session.program session.own notes) :
    NotesEnd schema note returns (session.advance committed held draw).program
      (session.advance committed held draw).own
      (session.noted note committed held draw notes) := by
  cases hprogram : session.program with
  | done result =>
    simp only [Session.advance, Session.noted, hprogram]
    rw [hprogram] at h
    exact h
  | step s next =>
    cases hwaiting : session.waiting with
    | none =>
      simp only [Session.advance, Session.noted, hprogram, hwaiting]
      rw [hprogram] at h
      exact h
    | some waiting =>
      obtain ⟨todo, keys⟩ := waiting
      cases todo with
      | cons key rest =>
        simp only [Session.advance, Session.noted, hprogram, hwaiting]
        rw [hprogram] at h
        split
        · rw [hprogram]
          exact h
        · exact h
      | nil =>
        simp only [Session.advance, Session.noted, hprogram, hwaiting]
        rw [hprogram] at h
        cases hreply : session.own.reply schema committed held draw keys s with
        | none =>
          rw [hprogram]
          exact h
        | some replied => exact h committed held draw keys replied.1 replied.2 hreply

/-- Every session that is open ends so. -/
def Noted.AllEnd (note : (s : Stmt Table Row Ask Request) → Reply Answer Response s → G → G)
    (returns : α → Own Row → G → Prop)
    (state : Noted schema Ask Request Answer Response ε α G) : Prop :=
  ∀ party ∈ state.parties, NotesEnd schema note returns party.1.program party.1.own party.2

variable {Call : Type}
  {program : Call → Prog (Stmt Table Row Ask Request) (Reply Answer Response) ε α}
  {opening : Call → G} {shared : Table → Bool}
  {state : Noted schema Ask Request Answer Response ε α G}

theorem Noted.AllEnd.next
    (hcall : ∀ c, NotesEnd schema note returns (program c) {} (opening c))
    (h : state.AllEnd note returns) (event : Event Row Ask Answer Response Call) :
    (state.next program opening note shared event).AllEnd note returns := by
  cases event with
  | call c =>
    intro party hparty
    rcases List.mem_append.mp hparty with hopen | hnew
    · exact h party hopen
    · rw [List.mem_singleton.mp hnew]
      exact hcall c
  | advance index draw =>
    simp only [Noted.next]
    split
    · exact h
    · rename_i session notes after hdrop
      have hparties : state.parties = state.parties.take index ++ (session, notes) :: after := by
        rw [← hdrop, List.take_append_drop]
      intro other hother
      rcases List.mem_append.mp hother with hbefore | hafter
      · exact h other (List.mem_of_mem_take hbefore)
      · rcases List.mem_cons.mp hafter with rfl | hafter
        · apply Session.notesEnd_advance
          apply h (session, notes)
          rw [hparties]
          exact List.mem_append_right _ List.mem_cons_self
        · apply h other
          rw [hparties]
          exact List.mem_append_right _ (List.mem_cons_of_mem _ hafter)
  | finish index =>
    simp only [Noted.next]
    split
    · exact h
    · rename_i session notes after hdrop
      split
      · intro other hother
        have hparties : state.parties = state.parties.take index ++ (session, notes) :: after := by
          rw [← hdrop, List.take_append_drop]
        apply h other
        rw [hparties]
        rcases List.mem_append.mp hother with hbefore | hafter
        · exact List.mem_append_left _ hbefore
        · exact List.mem_append_right _ (List.mem_cons_of_mem _ hafter)
      · exact h
  | abort index =>
    intro party hparty
    exact h party ((List.eraseIdx_sublist _ _).subset hparty)
  | elsewhere t rows =>
    simp only [Noted.next]
    split
    · exact h
    · exact h

/-- The committed rows change where a transaction that returned is ended, or elsewhere. -/
theorem Noted.committed_next (event : Event Row Ask Answer Response Call) :
    (state.next program opening note shared event).committed = state.committed ∨
      (∃ index session notes a, event = .finish index ∧
        state.parties[index]? = some (session, notes) ∧ session.program = .done (.ok a) ∧
        (state.next program opening note shared event).committed =
          overlay schema state.committed session.own.written) ∨
      ∃ t rows, event = .elsewhere t rows ∧ shared t = true ∧
        (state.next program opening note shared event).committed =
          Function.update state.committed t rows := by
  have hcommitted : (state.next program opening note shared event).committed =
      (state.system.next program shared event).committed :=
    congrArg System.committed (Noted.system_next program opening note shared event state)
  rw [hcommitted]
  rcases System.committed_next event with hsame | ⟨index, session, a, hevent, hsession, hok, hnext⟩ |
    helsewhere
  · exact Or.inl hsame
  · obtain ⟨⟨session', notes⟩, hparty, rfl⟩ := Option.map_eq_some_iff.mp
      ((List.getElem?_map ..).symm.trans hsession)
    exact Or.inr (Or.inl ⟨index, session', notes, a, hevent, hparty, hok, hnext⟩)
  · exact Or.inr (Or.inr helsewhere)

/-! ## Programs that take notes -/

/-- The program, with what it notes returned beside its value. -/
def noting (note : (s : Stmt Table Row Ask Request) → Reply Answer Response s → G → G) :
    Prog (Stmt Table Row Ask Request) (Reply Answer Response) ε α → G →
      Prog (Stmt Table Row Ask Request) (Reply Answer Response) ε (α × G)
  | .done (.ok a), notes => .done (.ok (a, notes))
  | .done (.error e), _ => .done (.error e)
  | .step s next, notes => .step s fun reply => noting note (next reply) (note s reply notes)

section Noting

omit [DecidableEq Table]

theorem noting_bind
    (f : α → Prog (Stmt Table Row Ask Request) (Reply Answer Response) ε β) :
    noting note (x >>= f) notes =
      noting note x notes >>= fun noted => noting note (f noted.1) noted.2 := by
  induction x generalizing notes with
  | done result =>
    cases result with
    | ok a => rfl
    | error e => rfl
  | step s next ih =>
    apply congrArg (Prog.step s)
    funext reply
    exact ih reply

/-- Without its notes the program is as it was. -/
theorem forget_noting : (noting note x notes >>= fun noted => pure noted.1) = x := by
  induction x generalizing notes with
  | done result =>
    cases result with
    | ok a => rfl
    | error e => rfl
  | step s next ih =>
    apply congrArg (Prog.step s)
    funext reply
    exact ih reply

/-- A program that has nothing to add to the notes. -/
theorem noting_of_quiet (h : x.All fun s => ∀ reply, note s reply notes = notes) :
    noting note x notes = x >>= fun a => pure (a, notes) := by
  induction x generalizing notes with
  | done result =>
    cases result with
    | ok a => rfl
    | error e => rfl
  | step s next ih =>
    apply congrArg (Prog.step s)
    funext reply
    rw [h.1 reply]
    exact ih reply (h.2 reply)

end Noting

/-- The session of the same program without notes. -/
def Session.forget (session : Session schema Ask Request Answer Response ε (α × G)) :
    Session schema Ask Request Answer Response ε α :=
  ⟨session.program >>= fun noted => pure noted.1, session.own, session.waiting⟩

def System.forget (system : System schema Ask Request Answer Response ε (α × G)) :
    System schema Ask Request Answer Response ε α :=
  ⟨system.committed, system.sessions.map Session.forget⟩

theorem Session.forget_advance
    (session : Session schema Ask Request Answer Response ε (α × G)) :
    (session.advance committed held draw).forget =
      session.forget.advance committed held draw := by
  obtain ⟨program, own, waiting⟩ := session
  cases program with
  | done result =>
    cases result with
    | ok noted => rfl
    | error e => rfl
  | step s next =>
    cases waiting with
    | none => rfl
    | some waiting =>
      obtain ⟨todo, keys⟩ := waiting
      cases todo with
      | cons key rest =>
        simp only [Session.advance, Session.forget, Prog.step_bind]
        split
        · rfl
        · rfl
      | nil =>
        simp only [Session.advance, Session.forget, Prog.step_bind]
        cases own.reply schema committed held draw keys s with
        | none => rfl
        | some replied => rfl

theorem Session.others_forget
    (sessions : List (Session schema Ask Request Answer Response ε (α × G))) :
    Session.others (sessions.map Session.forget) = Session.others sessions := by
  simp only [Session.others, List.any_map, List.flatMap_map]
  rfl

omit [DecidableEq Table] in
theorem Session.commit_forget (session : Session schema Ask Request Answer Response ε (α × G)) :
    session.forget.commit committed = session.commit committed := by
  obtain ⟨program, own, waiting⟩ := session
  cases program with
  | done result =>
    cases result with
    | ok noted => rfl
    | error e => rfl
  | step s next => rfl

omit [DecidableEq Table] in
theorem Session.ended_forget (session : Session schema Ask Request Answer Response ε (α × G)) :
    session.forget.ended = session.ended := by
  obtain ⟨program, own, waiting⟩ := session
  cases program with
  | done result =>
    cases result with
    | ok noted => rfl
    | error e => rfl
  | step s next => rfl

/-- Programs that take notes do together what they do without. -/
theorem System.forget_next (system : System schema Ask Request Answer Response ε (α × G))
    (event : Event Row Ask Answer Response Call) :
    (system.next (fun c => noting note (program c) (opening c)) shared event).forget =
      system.forget.next program shared event := by
  cases event with
  | call c =>
    simp only [System.next, System.forget, List.map_append, List.map_singleton, Session.forget,
      forget_noting]
  | advance index draw =>
    simp only [System.next, System.forget, ← List.map_drop, ← List.map_take]
    cases hdrop : system.sessions.drop index with
    | nil => rfl
    | cons session after =>
      simp only [List.map_cons, List.map_append, Session.forget_advance]
      rw [← Session.others_forget, List.map_append]
  | finish index =>
    simp only [System.next, System.forget, ← List.map_drop, ← List.map_take]
    cases hdrop : system.sessions.drop index with
    | nil => rfl
    | cons session after =>
      simp only [List.map_cons, Session.ended_forget, Session.commit_forget]
      split
      · simp
      · rfl
  | abort index => simp [System.next, System.forget, List.eraseIdx_map]
  | elsewhere t rows =>
    simp only [System.next, System.forget]
    split
    · rfl
    · rfl

/-- So what is committed along a run is what the programs themselves commit. -/
theorem System.forget_run (events : List (Event Row Ask Answer Response Call))
    (system : System schema Ask Request Answer Response ε (α × G)) :
    (Runs.run (System.next (fun c => noting note (program c) (opening c)) shared) events
      system).forget = Runs.run (System.next program shared) events system.forget := by
  induction events generalizing system with
  | nil => rfl
  | cons event events ih =>
    rw [Runs.run_cons, Runs.run_cons, ih, System.forget_next]

end InfinityRadius.Interleaving
