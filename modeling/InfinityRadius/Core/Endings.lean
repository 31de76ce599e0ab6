import InfinityRadius.Core.Interleaving

/-!
# What a transaction wrote

What a session has written by the time its program returns, whatever it reads and whatever is
committed around it.  Of a commit this is enough wherever the rows written do not depend on
what others do.
-/

namespace InfinityRadius.Interleaving

open Database Program Sql

variable {Table : Type} {Row : Table → Type} {Ask Request : Type} {Answer : Ask → Type}
  {Response ε α β : Type} {schema : Schema Table Row} [DecidableEq Table]
  {returns : α → Own Row → Prop}
  {x : Prog (Stmt Table Row Ask Request) (Reply Answer Response) ε α} {own own' : Own Row}

/-- The program raises, or returns with its own part meeting `returns`. -/
def EndsWith (schema : Schema Table Row) (returns : α → Own Row → Prop) :
    Prog (Stmt Table Row Ask Request) (Reply Answer Response) ε α → Own Row → Prop
  | .done (.ok a), own => returns a own
  | .done (.error _), _ => True
  | .step s next, own => ∀ committed (held : Held Row) (draw : Draw Ask Answer Response) keys reply
      own', own.reply schema committed held draw keys s = some (reply, own') →
        EndsWith schema returns (next reply) own'

theorem EndsWith.mono {returns' : α → Own Row → Prop} (h : EndsWith schema returns x own)
    (himp : ∀ a own', returns a own' → returns' a own') : EndsWith schema returns' x own := by
  induction x generalizing own with
  | done result =>
    cases result with
    | ok a => exact himp a own h
    | error e => trivial
  | step s next ih =>
    intro committed held draw keys reply own' hreply
    exact ih reply (h committed held draw keys reply own' hreply)

theorem EndsWith.bind {returns' : β → Own Row → Prop}
    {f : α → Prog (Stmt Table Row Ask Request) (Reply Answer Response) ε β}
    (h : EndsWith schema returns x own)
    (hf : ∀ a own', returns a own' → EndsWith schema returns' (f a) own') :
    EndsWith schema returns' (x >>= f) own := by
  induction x generalizing own with
  | done result =>
    cases result with
    | ok a => exact hf a own h
    | error e => trivial
  | step s next ih =>
    intro committed held draw keys reply own' hreply
    exact ih reply (h committed held draw keys reply own' hreply)

theorem endsWith_trivial : EndsWith schema (fun _ _ => True) x own := by
  induction x generalizing own with
  | done result =>
    cases result with
    | ok a => trivial
    | error e => trivial
  | step s next ih => exact fun committed held draw keys reply own' _ => ih reply

/-! ## Statements -/

/-- Writes to every table but one. -/
def sparing (t : Table) : Footprint Table Row Request where
  inserts t' _ := t' ≠ t
  updates t' _ _ := t' ≠ t
  sends _ := True

variable {t : Table} {committed : Tables Row} {held : Held Row}
  {draw : Draw Ask Answer Response} {keys : List (Key Table)}

theorem Own.tryWrite_spares {t' : Table} {row : Row t'} {stored : Option (Row t')} (ht : t' ≠ t)
    (h : own.tryWrite schema committed held t' row = some (stored, own')) :
    own'.written t = own.written t := by
  rcases Own.tryWrite_eq_some h with ⟨-, rfl⟩ | ⟨-, rfl, -, -⟩
  · rfl
  · exact Own.written_write_of_ne ht.symm

theorem Own.reply_spares {s : Stmt Table Row Ask Request} {reply : Reply Answer Response s}
    (hs : (sparing t).Allows s) (h : own.reply schema committed held draw keys s = some (reply, own')) :
    own'.written t = own.written t := by
  cases s with
  | select t' p =>
    obtain ⟨-, rfl⟩ := Prod.mk.inj (Option.some.inj h)
    rfl
  | selectForUpdate t' p =>
    obtain ⟨-, rfl⟩ := Prod.mk.inj (Option.some.inj h)
    rfl
  | scan t' p =>
    obtain ⟨-, rfl⟩ := Prod.mk.inj (Option.some.inj h)
    rfl
  | insert t' build =>
    simp only [Own.reply] at h
    split at h
    · exact Own.tryWrite_spares (hs 0) h
    · cases h
  | update t' id write =>
    simp only [Own.reply] at h
    split at h
    · obtain ⟨-, rfl⟩ := Prod.mk.inj (Option.some.inj h)
      rfl
    · split at h
      · exact Own.tryWrite_spares hs h
      · obtain ⟨-, rfl⟩ := Prod.mk.inj (Option.some.inj h)
        rfl
  | ask question =>
    obtain ⟨-, rfl⟩ := Prod.mk.inj (Option.some.inj h)
    rfl
  | send request =>
    obtain ⟨-, rfl⟩ := Prod.mk.inj (Option.some.inj h)
    rfl

/-- A program that never writes a table ends with what was written of it before. -/
theorem endsWith_of_spares (hall : x.All (sparing t).Allows) :
    EndsWith schema (fun _ own' => own'.written t = own.written t) x own := by
  induction x generalizing own with
  | done result =>
    cases result with
    | ok a => rfl
    | error e => trivial
  | step s next ih =>
    intro committed held draw keys reply own' hreply
    have hwritten := Own.reply_spares hall.1 hreply
    apply (ih reply (hall.2 reply)).mono
    intro a last hlast
    exact hlast.trans hwritten

/-- A row that is changed has the key it is looked up by, and is read under what the transaction
wrote. -/
theorem Own.reply_update {id : ℕ} {write : Row t → Row t} {stored : Option (Row t)}
    (h : own.reply schema committed held draw keys
      (.update t id write : Stmt Table Row Ask Request) = some (stored, own')) :
    stored = none ∧ own' = own ∨
      ∃ old ∈ overlay schema committed own.written t, schema.id t old = id ∧
        schema.id t (write old) = id ∧ stored = some (write old) ∧
          own' = own.write schema t (write old) := by
  simp only [Own.reply] at h
  split at h
  · obtain ⟨rfl, rfl⟩ := Prod.mk.inj (Option.some.inj h)
    exact Or.inl ⟨rfl, rfl⟩
  · rename_i old hold
    have hid : schema.id t old = id := by simpa using List.find?_some hold
    split at h
    · rename_i hkept
      rcases Own.tryWrite_eq_some h with hrefused | ⟨hstored, hown, -, -⟩
      · exact Or.inl hrefused
      · exact Or.inr ⟨old, List.mem_of_find?_eq_some hold, hid, hkept, hstored, hown⟩
    · obtain ⟨rfl, rfl⟩ := Prod.mk.inj (Option.some.inj h)
      exact Or.inl ⟨rfl, rfl⟩

/-! ## Every interleaving -/

variable {session : Session schema Ask Request Answer Response ε α}
  {system : System schema Ask Request Answer Response ε α}

theorem Session.endsWith_advance (h : EndsWith schema returns session.program session.own) :
    EndsWith schema returns (session.advance committed held draw).program
      (session.advance committed held draw).own := by
  unfold Session.advance
  split
  · exact h
  · rename_i s next hprogram
    rw [hprogram] at h
    split
    · rw [hprogram]
      exact h
    · split
      · rw [hprogram]
        exact h
      · rw [hprogram]
        exact h
    · split
      · rw [hprogram]
        exact h
      · rename_i reply own' hreply
        exact h committed held draw _ reply own' hreply

/-- Every session that is open ends so. -/
def System.AllEnd (returns : α → Own Row → Prop)
    (system : System schema Ask Request Answer Response ε α) : Prop :=
  ∀ session ∈ system.sessions, EndsWith schema returns session.program session.own

variable {Call : Type}
  {program : Call → Prog (Stmt Table Row Ask Request) (Reply Answer Response) ε α}
  {shared : Table → Bool}

theorem System.AllEnd.next (hcall : ∀ c, EndsWith schema returns (program c) {})
    (h : system.AllEnd returns) (event : Event Row Ask Answer Response Call) :
    (system.next program shared event).AllEnd returns := by
  cases event with
  | call c =>
    intro session hsession
    rcases List.mem_append.mp hsession with hopen | hnew
    · exact h session hopen
    · rw [List.mem_singleton.mp hnew]
      exact hcall c
  | advance index draw =>
    simp only [System.next]
    split
    · exact h
    · rename_i session after hdrop
      have hsessions : system.sessions = system.sessions.take index ++ session :: after := by
        rw [← hdrop, List.take_append_drop]
      intro other hother
      rcases List.mem_append.mp hother with hbefore | hafter
      · exact h other (List.mem_of_mem_take hbefore)
      · rcases List.mem_cons.mp hafter with rfl | hafter
        · apply Session.endsWith_advance
          apply h session
          rw [hsessions]
          exact List.mem_append_right _ List.mem_cons_self
        · apply h other
          rw [hsessions]
          exact List.mem_append_right _ (List.mem_cons_of_mem _ hafter)
  | finish index =>
    simp only [System.next]
    split
    · exact h
    · rename_i session after hdrop
      split
      · intro other hother
        have hsessions : system.sessions = system.sessions.take index ++ session :: after := by
          rw [← hdrop, List.take_append_drop]
        apply h other
        rw [hsessions]
        rcases List.mem_append.mp hother with hbefore | hafter
        · exact List.mem_append_left _ hbefore
        · exact List.mem_append_right _ (List.mem_cons_of_mem _ hafter)
      · exact h
  | abort index =>
    intro session hsession
    exact h session ((List.eraseIdx_sublist _ _).subset hsession)
  | elsewhere t rows =>
    simp only [System.next]
    split
    · exact h
    · exact h

/-- The committed rows change where a transaction that returned is ended, or elsewhere. -/
theorem System.committed_next (event : Event Row Ask Answer Response Call) :
    (system.next program shared event).committed = system.committed ∨
      (∃ index session a, event = .finish index ∧ system.sessions[index]? = some session ∧
        session.program = .done (.ok a) ∧ (system.next program shared event).committed =
          overlay schema system.committed session.own.written) ∨
      ∃ t rows, event = .elsewhere t rows ∧ shared t = true ∧
        (system.next program shared event).committed =
          Function.update system.committed t rows := by
  cases event with
  | call c => exact Or.inl rfl
  | advance index draw =>
    left
    simp only [System.next]
    split
    · rfl
    · rfl
  | finish index =>
    simp only [System.next]
    split
    · exact Or.inl rfl
    · rename_i session after hdrop
      split
      · have hsession : system.sessions[index]? = some session := by
          rw [← List.head?_drop, hdrop, List.head?_cons]
        by_cases hreturns : ∃ a, session.program = .done (.ok a)
        · obtain ⟨a, hprogram⟩ := hreturns
          refine Or.inr (Or.inl ⟨index, session, a, rfl, hsession, hprogram, ?_⟩)
          simp only [Session.commit, hprogram]
        · left
          exact Session.commit_of_not_ok fun a hprogram => hreturns ⟨a, hprogram⟩
      · exact Or.inl rfl
  | abort index => exact Or.inl rfl
  | elsewhere t rows =>
    simp only [System.next]
    split
    · rename_i hshared
      exact Or.inr (Or.inr ⟨t, rows, rfl, hshared, rfl⟩)
    · exact Or.inl rfl

/-- Whatever the event, what is committed is what anyone may rely on, locks or not. -/
theorem System.Kept.rely_next {discipline : Discipline Row}
    (hkeeps : Keeps schema discipline program shared) (h : system.Kept discipline)
    (event : Event Row Ask Answer Response Call) :
    discipline.rely [] system.committed (system.next program shared event).committed := by
  have hcommitted : (system.next program shared event).committed = system.committed ∨ _ :=
    system.committed_next event
  rcases hcommitted with
    hsame | ⟨index, session, a, -, hsession, hprogram, hcommit⟩ | ⟨t, rows, -, ht, hcommit⟩
  · rw [hsame]
    exact discipline.refl _ _
  · have hensures := h.ensures session (List.mem_of_getElem? hsession)
    rw [hprogram] at hensures
    rw [hcommit]
    exact (hensures _ (discipline.refl _ _) h.inv).2 [] (List.disjoint_nil_left _)
  · rw [hcommit]
    exact (hkeeps.elsewhere t rows system.committed ht h.inv).2 []

end InfinityRadius.Interleaving
