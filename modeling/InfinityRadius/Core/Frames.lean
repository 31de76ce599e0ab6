import InfinityRadius.Core.Sql

/-!
# Frames

A program that neither reads nor writes a table leaves it as it was, and does on two databases
that differ in that table only the same thing.
-/

namespace InfinityRadius.Sql

open Database Program

variable {Table : Type} {Row : Table → Type} {Ask Request : Type} {Answer : Ask → Type}
  {Response : Type} {schema : Schema Table Row}

/-- The statement neither reads nor writes the table. -/
def Stmt.Avoids (apart : Table) : Stmt Table Row Ask Request → Prop
  | .select t _ => t ≠ apart
  | .selectForUpdate t _ => t ≠ apart
  | .scan t _ => t ≠ apart
  | .insert t _ => t ≠ apart
  | .update t _ _ => t ≠ apart
  | .ask _ => True
  | .send _ => True

/-- The databases differ in one table at most. -/
def AgreeOff (apart : Table) (db db' : Db schema) : Prop :=
  ∀ t, t ≠ apart → db.rows t = db'.rows t

/-- The states differ in one table at most. -/
structure StatesAgreeOff (apart : Table) (state state' : State schema Request Response) :
    Prop where
  db : AgreeOff apart state.db state'.db
  sent : state.sent = state'.sent
  tick : state.tick = state'.tick

variable [DecidableEq Table] {db db' : Db schema} {t apart : Table}

theorem store_congr (hrows : db.rows t = db'.rows t) (row : Row t) :
    (db.store t row).map (fun stored => stored.rows t) =
      (db'.store t row).map fun stored => stored.rows t := by
  have hadmits : db.admits t row = db'.admits t row := by
    rw [Db.admits, Db.admits, hrows]
  by_cases h : db.admits t row = true
  · rw [Db.store, Db.store, dif_pos h, dif_pos (hadmits ▸ h)]
    simp [hrows]
  · rw [Db.store, Db.store, dif_neg h, dif_neg (hadmits ▸ h)]

/-- Two results of a write, of databases that agree off a table, that are one. -/
def WritesAgree (apart : Table) : Option (Row t × Db schema) → Option (Row t × Db schema) → Prop
  | some (row, db), some (row', db') => row = row' ∧ AgreeOff apart db db'
  | none, none => True
  | _, _ => False

/-- A row stored in both databases. -/
theorem writesAgree_store (hagree : AgreeOff apart db db') (ht : t ≠ apart) (row : Row t) :
    WritesAgree apart ((db.store t row).map fun stored => (row, stored))
      ((db'.store t row).map fun stored => (row, stored)) := by
  have hcongr := store_congr (hagree t ht) row
  cases hstore : db.store t row with
  | none =>
    rw [hstore, Option.map_none, eq_comm, Option.map_eq_none_iff] at hcongr
    rw [hcongr]
    trivial
  | some stored =>
    cases hstore' : db'.store t row with
    | none =>
      rw [hstore, hstore'] at hcongr
      cases hcongr
    | some stored' =>
      rw [hstore, hstore', Option.map_some, Option.map_some, Option.some.injEq] at hcongr
      refine ⟨rfl, fun other hother => ?_⟩
      by_cases heq : other = t
      · exact heq ▸ hcongr
      · rw [(Db.store_eq_some hstore).2, (Db.store_eq_some hstore').2,
          Function.update_of_ne heq, Function.update_of_ne heq, hagree other hother]

theorem writesAgree_insert (hagree : AgreeOff apart db db') (ht : t ≠ apart)
    (build : ℕ → Row t) :
    WritesAgree apart (db.insert t build) (db'.insert t build) := by
  rw [Db.insert, Db.insert, hagree t ht]
  split
  · exact writesAgree_store hagree ht _
  · trivial

theorem writesAgree_update (hagree : AgreeOff apart db db') (ht : t ≠ apart) (id : ℕ)
    (write : Row t → Row t) :
    WritesAgree apart (db.update t id write) (db'.update t id write) := by
  have hfind : db.find t (fun row => schema.id t row == id) =
      db'.find t fun row => schema.id t row == id := by
    rw [Db.find, Db.find, hagree t ht]
  rw [Db.update, Db.update, hfind]
  cases db'.find t fun row => schema.id t row == id with
  | none => trivial
  | some old =>
    dsimp only
    split
    · exact writesAgree_store hagree ht _
    · trivial

/-- One statement that avoids the table replies the same and keeps the states in agreement. -/
theorem exec_agreeOff (env : Env Ask Answer Response) {s : Stmt Table Row Ask Request}
    (hs : s.Avoids apart) {state state' : State schema Request Response}
    (h : StatesAgreeOff apart state state') :
    (exec env s state).1 = (exec env s state').1 ∧
      StatesAgreeOff apart (exec env s state).2 (exec env s state').2 := by
  cases s with
  | select t p => exact ⟨by rw [exec, exec, h.db t hs], h⟩
  | selectForUpdate t p => exact ⟨by rw [exec, exec, h.db t hs], h⟩
  | scan t p => exact ⟨by rw [exec, exec, h.db t hs], h⟩
  | ask question =>
    refine ⟨by rw [exec, exec, h.tick], h.db, h.sent, ?_⟩
    rw [exec, exec, h.tick]
  | send request =>
    refine ⟨by simp only [exec, h.sent], h.db, ?_, h.tick⟩
    simp only [exec, h.sent]
  | insert t build =>
    have hwrites := writesAgree_insert h.db hs build
    cases hinsert : state.db.insert t build with
    | none =>
      cases hinsert' : state'.db.insert t build with
      | none => simpa [exec, hinsert, hinsert'] using h
      | some written => rw [hinsert, hinsert'] at hwrites; exact hwrites.elim
    | some written =>
      cases hinsert' : state'.db.insert t build with
      | none => rw [hinsert, hinsert'] at hwrites; exact hwrites.elim
      | some written' =>
        rw [hinsert, hinsert'] at hwrites
        simp only [exec, hinsert, hinsert']
        exact ⟨congrArg some hwrites.1, hwrites.2, h.sent, h.tick⟩
  | update t id write =>
    have hwrites := writesAgree_update h.db hs id write
    cases hupdate : state.db.update t id write with
    | none =>
      cases hupdate' : state'.db.update t id write with
      | none => simpa [exec, hupdate, hupdate'] using h
      | some written => rw [hupdate, hupdate'] at hwrites; exact hwrites.elim
    | some written =>
      cases hupdate' : state'.db.update t id write with
      | none => rw [hupdate, hupdate'] at hwrites; exact hwrites.elim
      | some written' =>
        rw [hupdate, hupdate'] at hwrites
        simp only [exec, hupdate, hupdate']
        exact ⟨congrArg some hwrites.1, hwrites.2, h.sent, h.tick⟩

/-- A program that avoids the table ends alike in states that differ only there. -/
theorem run_agreeOff (env : Env Ask Answer Response) {ε α : Type}
    {x : Prog (Stmt Table Row Ask Request) (Reply Answer Response) ε α}
    (hall : x.All (Stmt.Avoids apart)) {state state' : State schema Request Response}
    (h : StatesAgreeOff apart state state') :
    (run (exec env) x state).1 = (run (exec env) x state').1 ∧
      StatesAgreeOff apart (run (exec env) x state).2 (run (exec env) x state').2 := by
  induction x generalizing state state' with
  | done result => exact ⟨rfl, h⟩
  | step s next ih =>
    obtain ⟨hreply, hstates⟩ := exec_agreeOff env hall.1 h
    rw [run_step, run_step, hreply]
    exact ih _ (hall.2 _) hstates

/-- A program leaves the table it avoids as it was. -/
theorem run_rows_of_avoids (env : Env Ask Answer Response) {ε α : Type}
    {x : Prog (Stmt Table Row Ask Request) (Reply Answer Response) ε α}
    (hall : x.All (Stmt.Avoids apart)) (state : State schema Request Response) :
    (run (exec env) x state).2.db.rows apart = state.db.rows apart := by
  let Same : State schema Request Response → Prop := fun middle =>
    middle.db.rows apart = state.db.rows apart
  refine run_invariant (exec env) hall (fun s middle hs h => ?_) (show Same state from rfl)
  have h : middle.db.rows apart = state.db.rows apart := h
  change (exec env s middle).2.toWorld.db.rows apart = _
  rw [← h]
  cases (exec_yields env s middle).cases with
  | inl hsame => rw [hsame]
  | inr hwrites =>
    rcases hwrites with ⟨t, build, row, db, rfl, hinsert, hdb⟩ |
      ⟨t, id, write, row, db, rfl, hupdate, hdb⟩ | ⟨request, response, rfl, hdb⟩
    · rw [hdb]
      obtain ⟨-, -, -, happended⟩ := Db.insert_eq_some hinsert
      exact happended.rows_of_ne (Ne.symm hs)
    · rw [hdb]
      obtain ⟨-, -, -, -, -, -, hreplaced⟩ := Db.update_eq_some hupdate
      exact hreplaced.rows_of_ne (Ne.symm hs)
    · rw [hdb]

/-- How a program ends that is run after so many questions were asked. -/
def endsAs {ε α : Type} (env : Env Ask Answer Response)
    (x : Prog (Stmt Table Row Ask Request) (Reply Answer Response) ε α) (db : Db schema)
    (tick : ℕ) : Except ε α :=
  (run (exec env) x ⟨⟨db, []⟩, tick⟩).1

theorem endsAs_congr (env : Env Ask Answer Response) {ε α : Type}
    {x : Prog (Stmt Table Row Ask Request) (Reply Answer Response) ε α}
    (hall : x.All (Stmt.Avoids apart)) (hagree : AgreeOff apart db db') (tick : ℕ) :
    endsAs env x db tick = endsAs env x db' tick := by
  have hstates : StatesAgreeOff apart (⟨⟨db, []⟩, tick⟩ : State schema Request Response)
      ⟨⟨db', []⟩, tick⟩ := ⟨hagree, rfl, rfl⟩
  exact (run_agreeOff env hall hstates).1

end InfinityRadius.Sql
