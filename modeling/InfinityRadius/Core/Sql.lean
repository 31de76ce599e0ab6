import InfinityRadius.Core.Database
import InfinityRadius.Core.Program

/-!
# Transactions

The statements a session issues, their meaning on a database nobody else is
using, and the request transaction around them: it commits when the program
returns, rolls back when it raises, and in either case the requests already sent
to another system stay sent.
-/

namespace InfinityRadius.Sql

open Database Program

/-- `select` and `selectForUpdate` load rows as objects, `scan` reads columns
without loading an object, `update` writes columns of a loaded row and refreshes
it.  `ask` covers what the program takes from its runtime: the clock, random
values, settings.  `send` is a request to another system. -/
inductive Stmt (Table : Type) (Row : Table → Type) (Ask Request : Type) : Type
  | select (t : Table) (p : Row t → Bool)
  | selectForUpdate (t : Table) (p : Row t → Bool)
  | scan (t : Table) (p : Row t → Bool)
  | insert (t : Table) (build : ℕ → Row t)
  | update (t : Table) (id : ℕ) (write : Row t → Row t)
  | ask (question : Ask)
  | send (request : Request)

variable {Table : Type} {Row : Table → Type} {Ask Request : Type}
  {Answer : Ask → Type} {Response : Type}

/-- The type of a statement's reply.  An `INSERT` or `UPDATE` replies with the
row as stored, or with nothing when the database refuses it. -/
abbrev Reply (Answer : Ask → Type) (Response : Type) :
    Stmt Table Row Ask Request → Type
  | .select t _ => List (Row t)
  | .selectForUpdate t _ => List (Row t)
  | .scan t _ => List (Row t)
  | .insert t _ => Option (Row t)
  | .update t _ _ => Option (Row t)
  | .ask question => Answer question
  | .send _ => Response

/-- What the world outside the database answers during one operation: its
questions by their position among all questions, its requests by their position
among all requests. -/
structure Env (Ask : Type) (Answer : Ask → Type) (Response : Type) where
  answer : ℕ → (question : Ask) → Answer question
  respond : ℕ → Response

variable {schema : Schema Table Row}

/-- A database and the requests made to other systems, with the responses they
got. -/
structure World (schema : Schema Table Row) (Request Response : Type) where
  db : Db schema
  sent : List (Request × Response)

/-- Every request sent in between satisfies `P`. -/
def Sends (P : Request → Prop) (world world' : World schema Request Response) : Prop :=
  ∃ more, world'.sent = world.sent ++ more ∧ ∀ exchange ∈ more, P exchange.1

theorem Sends.refl {P : Request → Prop} {world world' : World schema Request Response}
    (h : world'.sent = world.sent) : Sends P world world' :=
  ⟨[], by rw [h, List.append_nil], by simp⟩

theorem Sends.concat {P : Request → Prop} {world world' : World schema Request Response}
    {request : Request} {response : Response} (h : Sends P world world') (hrequest : P request) :
    Sends P world { world' with sent := world'.sent ++ [(request, response)] } := by
  obtain ⟨more, hmore, hP⟩ := h
  use more ++ [(request, response)]
  constructor
  · rw [hmore, List.append_assoc]
  · intro exchange hexchange
    rcases List.mem_append.mp hexchange with hin | hlast
    · exact hP exchange hin
    · rw [List.mem_singleton.mp hlast]
      exact hrequest

theorem Sends.trans {P : Request → Prop} {world world' world'' : World schema Request Response}
    (h : Sends P world world') (h' : Sends P world' world'') : Sends P world world'' := by
  obtain ⟨more, hmore, hP⟩ := h
  obtain ⟨rest, hrest, hP'⟩ := h'
  use more ++ rest
  constructor
  · rw [hrest, hmore, List.append_assoc]
  · intro exchange hexchange
    rcases List.mem_append.mp hexchange with hin | hlater
    · exact hP exchange hin
    · exact hP' exchange hlater

/-- A session alone with its database. -/
structure State (schema : Schema Table Row) (Request Response : Type) extends
    World schema Request Response where
  tick : ℕ

variable [DecidableEq Table]

/-- The meaning of one statement. -/
def exec (env : Env Ask Answer Response) :
    (s : Stmt Table Row Ask Request) → State schema Request Response →
      Reply Answer Response s × State schema Request Response
  | .select t p, state => ((state.db.rows t).filter p, state)
  | .selectForUpdate t p, state => ((state.db.rows t).filter p, state)
  | .scan t p, state => ((state.db.rows t).filter p, state)
  | .insert t build, state =>
    match state.db.insert t build with
    | some (row, db) => (some row, { state with db })
    | none => (none, state)
  | .update t id write, state =>
    match state.db.update t id write with
    | some (row, db) => (some row, { state with db })
    | none => (none, state)
  | .ask question, state =>
    (env.answer state.tick question, { state with tick := state.tick + 1 })
  | .send request, state =>
    let response := env.respond state.sent.length
    (response, { state with sent := state.sent ++ [(request, response)] })

/-! ## Reasoning about every answer -/

/-- What a statement can reply and do to the world, the answers of the runtime
and of other systems being arbitrary.  Statements on the tables set `aside` are
not followed: their reply is arbitrary too. -/
def Yields (aside : Table → Bool) :
    (s : Stmt Table Row Ask Request) → World schema Request Response →
      Reply Answer Response s → World schema Request Response → Prop
  | .select t p, world, reply, world' =>
    (aside t = true ∨ reply = (world.db.rows t).filter p) ∧ world' = world
  | .selectForUpdate t p, world, reply, world' =>
    (aside t = true ∨ reply = (world.db.rows t).filter p) ∧ world' = world
  | .scan t p, world, reply, world' =>
    (aside t = true ∨ reply = (world.db.rows t).filter p) ∧ world' = world
  | .insert t build, world, reply, world' =>
    if aside t = true then world' = world
    else match world.db.insert t build with
      | some (row, db) => reply = some row ∧ world' = { world with db }
      | none => reply = none ∧ world' = world
  | .update t id write, world, reply, world' =>
    if aside t = true then world' = world
    else match world.db.update t id write with
      | some (row, db) => reply = some row ∧ world' = { world with db }
      | none => reply = none ∧ world' = world
  | .ask _, world, _, world' => world' = world
  | .send request, world, reply, world' =>
    world' = { world with sent := world.sent ++ [(request, reply)] }

section Always

variable {ε α β : Type} {aside : Table → Bool}
  {returns : α → World schema Request Response → Prop}
  {raises : ε → World schema Request Response → Prop}

/-- Whatever is answered, the program ends in a value and world meeting
`returns` or in a failure and world meeting `raises`. -/
def Always (aside : Table → Bool)
    (returns : α → World schema Request Response → Prop)
    (raises : ε → World schema Request Response → Prop) :
    Prog (Stmt Table Row Ask Request) (Reply Answer Response) ε α →
      World schema Request Response → Prop
  | .done (.ok a), world => returns a world
  | .done (.error e), world => raises e world
  | .step s next, world =>
    ∀ reply world', Yields aside s world reply world' →
      Always aside returns raises (next reply) world'

variable {x : Prog (Stmt Table Row Ask Request) (Reply Answer Response) ε α}
  {f : α → Prog (Stmt Table Row Ask Request) (Reply Answer Response) ε β}
  {world : World schema Request Response}

@[simp]
theorem always_pure {a : α} :
    Always aside returns raises
      (pure a : Prog (Stmt Table Row Ask Request) (Reply Answer Response) ε α) world ↔
      returns a world := Iff.rfl

@[simp]
theorem always_throw {e : ε} :
    Always aside returns raises
      (throw e : Prog (Stmt Table Row Ask Request) (Reply Answer Response) ε α) world ↔
      raises e world := Iff.rfl

theorem Always.mono {returns' : α → World schema Request Response → Prop}
    {raises' : ε → World schema Request Response → Prop}
    (h : Always aside returns raises x world)
    (hreturns : ∀ a world', returns a world' → returns' a world')
    (hraises : ∀ e world', raises e world' → raises' e world') :
    Always aside returns' raises' x world := by
  induction x generalizing world with
  | done result =>
    cases result with
    | ok a => exact hreturns a world h
    | error e => exact hraises e world h
  | step s next ih =>
    exact fun reply world' hyields => ih reply (h reply world' hyields)

/-- The rule for `do let a ← x; f a`. -/
theorem always_bind {returns : β → World schema Request Response → Prop} :
    Always aside returns raises (x >>= f) world ↔
      Always aside (fun a world' => Always aside returns raises (f a) world') raises
        x world := by
  induction x generalizing world with
  | done result =>
    cases result with
    | ok a => rfl
    | error e => rfl
  | step s next ih =>
    exact forall₂_congr fun reply world' => imp_congr_right fun _ => ih reply

/-- The same, with what is known of `x` given. -/
theorem Always.bind {returns' : β → World schema Request Response → Prop}
    {raises' : ε → World schema Request Response → Prop}
    (hx : Always aside returns raises x world)
    (hf : ∀ a world', returns a world' → Always aside returns' raises' (f a) world')
    (hraises : ∀ e world', raises e world' → raises' e world') :
    Always aside returns' raises' (x >>= f) world :=
  always_bind.mpr (hx.mono hf hraises)

/-- The rule for `try: x except: handler`. -/
theorem always_tryCatch
    {handler : ε → Prog (Stmt Table Row Ask Request) (Reply Answer Response) ε α} :
    Always aside returns raises (tryCatch x handler) world ↔
      Always aside returns (fun e world' => Always aside returns raises (handler e) world')
        x world := by
  induction x generalizing world with
  | done result =>
    cases result with
    | ok a => rfl
    | error e => rfl
  | step s next ih =>
    exact forall₂_congr fun reply world' => imp_congr_right fun _ => ih reply

theorem Always.and {returns' : α → World schema Request Response → Prop}
    {raises' : ε → World schema Request Response → Prop}
    (h : Always aside returns raises x world)
    (h' : Always aside returns' raises' x world) :
    Always aside (fun a world' => returns a world' ∧ returns' a world')
      (fun e world' => raises e world' ∧ raises' e world') x world := by
  induction x generalizing world with
  | done result =>
    cases result with
    | ok a => exact ⟨h, h'⟩
    | error e => exact ⟨h, h'⟩
  | step s next ih =>
    exact fun reply world' hyields => ih reply (h reply world' hyields) (h' reply world' hyields)

/-- What does not depend on how the program ends. -/
theorem always_of_forall (hreturns : ∀ a world', returns a world')
    (hraises : ∀ e world', raises e world') : Always aside returns raises x world := by
  induction x generalizing world with
  | done result =>
    cases result with
    | ok a => exact hreturns a world
    | error e => exact hraises e world
  | step s next ih => exact fun reply world' _ => ih reply

theorem always_require {returns : Unit → World schema Request Response → Prop}
    {condition : Prop} [Decidable condition] {failure : ε}
    (hreturns : condition → returns () world)
    (hraises : ¬condition → raises failure world) :
    Always aside returns raises
      (Prog.require condition failure :
        Prog (Stmt Table Row Ask Request) (Reply Answer Response) ε Unit) world := by
  by_cases hcondition : condition
  · rw [Prog.require_true hcondition]
    exact hreturns hcondition
  · rw [Prog.require_false hcondition]
    exact hraises hcondition

theorem always_orRaise {value : Option α} {failure : ε}
    (hreturns : ∀ a, value = some a → returns a world)
    (hraises : value = none → raises failure world) :
    Always aside returns raises
      (Prog.orRaise value failure :
        Prog (Stmt Table Row Ask Request) (Reply Answer Response) ε α) world := by
  cases value with
  | none => exact hraises rfl
  | some a => exact hreturns a rfl

end Always

/-! ### Statements -/

section Statements

variable {ε α : Type} {aside : Table → Bool}
  {returns : α → World schema Request Response → Prop}
  {raises : ε → World schema Request Response → Prop}
  {world : World schema Request Response}

theorem always_select {t : Table} {p : Row t → Bool}
    {next : List (Row t) →
      Prog (Stmt Table Row Ask Request) (Reply Answer Response) ε α}
    (ht : aside t = false)
    (h : Always aside returns raises (next ((world.db.rows t).filter p)) world) :
    Always aside returns raises (.step (.select t p) next) world := by
  rintro reply world' ⟨haside | rfl, rfl⟩
  · rw [ht] at haside
    cases haside
  · exact h

theorem always_selectForUpdate {t : Table} {p : Row t → Bool}
    {next : List (Row t) →
      Prog (Stmt Table Row Ask Request) (Reply Answer Response) ε α}
    (ht : aside t = false)
    (h : Always aside returns raises (next ((world.db.rows t).filter p)) world) :
    Always aside returns raises (.step (.selectForUpdate t p) next) world := by
  rintro reply world' ⟨haside | rfl, rfl⟩
  · rw [ht] at haside
    cases haside
  · exact h

theorem always_scan {t : Table} {p : Row t → Bool}
    {next : List (Row t) →
      Prog (Stmt Table Row Ask Request) (Reply Answer Response) ε α}
    (ht : aside t = false)
    (h : Always aside returns raises (next ((world.db.rows t).filter p)) world) :
    Always aside returns raises (.step (.scan t p) next) world := by
  rintro reply world' ⟨haside | rfl, rfl⟩
  · rw [ht] at haside
    cases haside
  · exact h

theorem always_insert {t : Table} {build : ℕ → Row t}
    {next : Option (Row t) →
      Prog (Stmt Table Row Ask Request) (Reply Answer Response) ε α}
    (ht : aside t = false)
    (hstored : ∀ row db, world.db.insert t build = some (row, db) →
      Always aside returns raises (next (some row)) { world with db })
    (hrefused : world.db.insert t build = none →
      Always aside returns raises (next none) world) :
    Always aside returns raises (.step (.insert t build) next) world := by
  intro reply world' hyields
  simp only [Yields, ht, Bool.false_eq_true, if_false] at hyields
  split at hyields
  · rename_i row db hinsert
    obtain ⟨rfl, rfl⟩ := hyields
    exact hstored row db hinsert
  · rename_i hinsert
    obtain ⟨rfl, rfl⟩ := hyields
    exact hrefused hinsert

theorem always_update {t : Table} {id : ℕ} {write : Row t → Row t}
    {next : Option (Row t) →
      Prog (Stmt Table Row Ask Request) (Reply Answer Response) ε α}
    (ht : aside t = false)
    (hstored : ∀ row db, world.db.update t id write = some (row, db) →
      Always aside returns raises (next (some row)) { world with db })
    (hrefused : world.db.update t id write = none →
      Always aside returns raises (next none) world) :
    Always aside returns raises (.step (.update t id write) next) world := by
  intro reply world' hyields
  simp only [Yields, ht, Bool.false_eq_true, if_false] at hyields
  split at hyields
  · rename_i row db hupdate
    obtain ⟨rfl, rfl⟩ := hyields
    exact hstored row db hupdate
  · rename_i hupdate
    obtain ⟨rfl, rfl⟩ := hyields
    exact hrefused hupdate

@[simp]
theorem always_ask {question : Ask}
    {next : Answer question →
      Prog (Stmt Table Row Ask Request) (Reply Answer Response) ε α} :
    Always aside returns raises (.step (.ask question) next) world ↔
      ∀ reply, Always aside returns raises (next reply) world :=
  ⟨fun h reply => h reply world rfl, fun h reply _ hyields => hyields ▸ h reply⟩

@[simp]
theorem always_send {request : Request}
    {next : Response →
      Prog (Stmt Table Row Ask Request) (Reply Answer Response) ε α} :
    Always aside returns raises (.step (.send request) next) world ↔
      ∀ reply, Always aside returns raises (next reply)
        { world with sent := world.sent ++ [(request, reply)] } :=
  ⟨fun h reply => h reply _ rfl, fun h reply _ hyields => hyields ▸ h reply⟩

end Statements

/-! ### Footprints -/

/-- What a program may do to the database and to other systems. -/
structure Footprint (Table : Type) (Row : Table → Type) (Request : Type) where
  inserts : (t : Table) → Row t → Prop
  updates : (t : Table) → ℕ → (Row t → Row t) → Prop
  sends : Request → Prop

namespace Footprint

/-- The statement stays within the footprint. -/
def Allows (footprint : Footprint Table Row Request) :
    Stmt Table Row Ask Request → Prop
  | .insert t build => ∀ id, footprint.inserts t (build id)
  | .update t id write => footprint.updates t id write
  | .send request => footprint.sends request
  | _ => True

/-- Writes to the given tables only, and no request. -/
def within (tables : Table → Prop) : Footprint Table Row Request where
  inserts t _ := tables t
  updates t _ _ := tables t
  sends _ := False

end Footprint

section Footprint

variable {ε α : Type} {aside : Table → Bool}
  {x : Prog (Stmt Table Row Ask Request) (Reply Answer Response) ε α}
  {world : World schema Request Response}

/-- What a statement yields is no change, one insert, one update or one request. -/
theorem Yields.cases {s : Stmt Table Row Ask Request}
    {reply : Reply Answer Response s} {world' : World schema Request Response}
    (h : Yields aside s world reply world') :
    world' = world ∨
    (∃ t build row db, s = .insert t build ∧ world.db.insert t build = some (row, db) ∧
      world' = { world with db }) ∨
    (∃ t id write row db, s = .update t id write ∧
      world.db.update t id write = some (row, db) ∧ world' = { world with db }) ∨
    (∃ request response, s = .send request ∧
      world' = { world with sent := world.sent ++ [(request, response)] }) := by
  cases s with
  | select t p => exact Or.inl h.2
  | selectForUpdate t p => exact Or.inl h.2
  | scan t p => exact Or.inl h.2
  | ask question => exact Or.inl h
  | send request => exact Or.inr (Or.inr (Or.inr ⟨request, reply, rfl, h⟩))
  | insert t build =>
    simp only [Yields] at h
    split at h
    · exact Or.inl h
    · split at h
      · rename_i row db hinsert
        exact Or.inr (Or.inl ⟨t, build, row, db, rfl, hinsert, h.2⟩)
      · exact Or.inl h.2
  | update t id write =>
    simp only [Yields] at h
    split at h
    · exact Or.inl h
    · split at h
      · rename_i row db hupdate
        exact Or.inr (Or.inr (Or.inl ⟨t, id, write, row, db, rfl, hupdate, h.2⟩))
      · exact Or.inl h.2

/-- A property of worlds kept by every statement the program can issue holds at
its end, whether it returned or raised. -/
theorem always_invariant {P : Stmt Table Row Ask Request → Prop}
    (Inv : World schema Request Response → Prop) (hall : x.All P)
    (hstep : ∀ (s : Stmt Table Row Ask Request) (world : World schema Request Response)
      (reply : Reply Answer Response s) world', P s →
      Yields aside s world reply world' → Inv world → Inv world')
    (hworld : Inv world) :
    Always aside (fun _ => Inv) (fun _ => Inv) x world := by
  induction x generalizing world with
  | done result =>
    cases result with
    | ok a => exact hworld
    | error e => exact hworld
  | step s next ih =>
    exact fun reply world' hyields =>
      ih reply (hall.2 reply) (hstep s world reply world' hall.1 hyields hworld)

/-- A property of databases that every insert and update within the footprint
keeps is kept by the whole program. -/
theorem always_db_invariant {footprint : Footprint Table Row Request}
    {Inv : Db schema → Prop}
    (hall : x.All footprint.Allows)
    (hinsert : ∀ (db db' : Db schema) t row, footprint.inserts t row →
      schema.id t row = freshId schema t (db.rows t) →
      Db.Appended t row db db' → Inv db → Inv db')
    (hupdate : ∀ (db db' : Db schema) t old id write, footprint.updates t id write →
      old ∈ db.rows t → schema.id t old = id → schema.id t (write old) = id →
      Db.Replaced t (write old) db db' → Inv db → Inv db')
    (hworld : Inv world.db) :
    Always aside (fun _ world' => Inv world'.db) (fun _ world' => Inv world'.db) x world := by
  refine always_invariant (fun world => Inv world.db) hall ?_ hworld
  intro s world reply world' hs hyields hinv
  rcases hyields.cases with rfl | ⟨t, build, row, db, rfl, h, rfl⟩ |
    ⟨t, id, write, row, db, rfl, h, rfl⟩ | ⟨request, response, rfl, rfl⟩
  · exact hinv
  · obtain ⟨hrow, hid, -, hrows⟩ := Db.insert_eq_some h
    exact hinsert world.db db t row (hrow ▸ hs _) hid hrows hinv
  · obtain ⟨old, hold, hid, rfl, hid', -, hrows⟩ := Db.update_eq_some h
    exact hupdate world.db db t old id write hs hold hid hid' hrows hinv
  · exact hinv

/-- The requests of a program extend the ones already sent, and all lie within
the footprint. -/
theorem always_sent {footprint : Footprint Table Row Request}
    (hall : x.All footprint.Allows) :
    Always aside
      (fun _ world' => ∃ more, world'.sent = world.sent ++ more ∧
        ∀ exchange ∈ more, footprint.sends exchange.1)
      (fun _ world' => ∃ more, world'.sent = world.sent ++ more ∧
        ∀ exchange ∈ more, footprint.sends exchange.1) x world := by
  refine always_invariant
    (fun world' => ∃ more, world'.sent = world.sent ++ more ∧
      ∀ exchange ∈ more, footprint.sends exchange.1) hall ?_
    ⟨[], (List.append_nil _).symm, by simp⟩
  rintro s middle reply world' hs hyields ⟨more, hmore, hsends⟩
  rcases hyields.cases with rfl | ⟨t, build, row, db, rfl, -, rfl⟩ |
    ⟨t, id, write, row, db, rfl, -, rfl⟩ | ⟨request, response, rfl, rfl⟩
  · exact ⟨more, hmore, hsends⟩
  · exact ⟨more, hmore, hsends⟩
  · exact ⟨more, hmore, hsends⟩
  · refine ⟨more ++ [(request, response)], by rw [hmore, List.append_assoc], ?_⟩
    intro exchange hexchange
    rcases List.mem_append.mp hexchange with h | h
    · exact hsends exchange h
    · rw [List.mem_singleton.mp h]
      exact hs

/-- Only the given tables changed, and nothing was sent. -/
def Within (tables : Table → Prop) (world world' : World schema Request Response) : Prop :=
  (∀ t, ¬tables t → world'.db.rows t = world.db.rows t) ∧ world'.sent = world.sent

theorem always_within {tables : Table → Prop}
    (hall : x.All (Footprint.within tables : Footprint Table Row Request).Allows) :
    Always aside (fun _ => Within tables world) (fun _ => Within tables world) x world := by
  refine always_invariant (Within tables world) hall ?_ ⟨fun _ _ => rfl, rfl⟩
  rintro s middle reply world' hs hyields ⟨hrows, hsent⟩
  rcases hyields.cases with rfl | ⟨t, build, row, db, rfl, h, rfl⟩ |
    ⟨t, id, write, row, db, rfl, h, rfl⟩ | ⟨request, response, rfl, rfl⟩
  · exact ⟨hrows, hsent⟩
  · obtain ⟨-, -, -, hrows'⟩ := Db.insert_eq_some h
    refine ⟨fun other hother => ?_, hsent⟩
    have hne : other ≠ t := fun heq => hother (heq ▸ hs 0)
    exact (hrows'.rows_of_ne hne).trans (hrows other hother)
  · obtain ⟨old, -, -, -, -, -, hrows'⟩ := Db.update_eq_some h
    refine ⟨fun other hother => ?_, hsent⟩
    have hne : other ≠ t := fun heq => hother (heq ▸ hs)
    exact (hrows'.rows_of_ne hne).trans (hrows other hother)
  · exact hs.elim

end Footprint

/-! ## Request transactions -/

section Transact

variable {ε α : Type} {env : Env Ask Answer Response}
  {x : Prog (Stmt Table Row Ask Request) (Reply Answer Response) ε α}

/-- One statement does what its meaning says it can. -/
theorem exec_yields (env : Env Ask Answer Response) (s : Stmt Table Row Ask Request)
    (state : State schema Request Response) :
    Yields (fun _ => false) s state.toWorld (exec env s state).1
      (exec env s state).2.toWorld := by
  cases s with
  | select t p => exact ⟨Or.inr rfl, rfl⟩
  | selectForUpdate t p => exact ⟨Or.inr rfl, rfl⟩
  | scan t p => exact ⟨Or.inr rfl, rfl⟩
  | ask question => rfl
  | send request => rfl
  | insert t build =>
    cases hinsert : state.db.insert t build with
    | none => simp [Yields, exec, hinsert]
    | some stored => simp [Yields, exec, hinsert]
  | update t id write =>
    cases hupdate : state.db.update t id write with
    | none => simp [Yields, exec, hupdate]
    | some stored => simp [Yields, exec, hupdate]

/-- What always holds at the end holds at the end of a run. -/
theorem Always.run (env : Env Ask Answer Response)
    {returns : α → World schema Request Response → Prop}
    {raises : ε → World schema Request Response → Prop}
    {state : State schema Request Response}
    (h : Always (fun _ => false) returns raises x state.toWorld) :
    match run (exec env) x state with
    | (.ok a, final) => returns a final.toWorld
    | (.error e, final) => raises e final.toWorld := by
  induction x generalizing state with
  | done result =>
    cases result with
    | ok a => exact h
    | error e => exact h
  | step s next ih => exact ih _ (h _ _ (exec_yields env s state))

variable (env) in
/-- From this state the program ends in a value and world meeting `returns` or in a failure and
world meeting `raises`.  Unlike `Always` it is about one environment, whose answers it sees. -/
def Concludes (returns : α → World schema Request Response → Prop)
    (raises : ε → World schema Request Response → Prop)
    (x : Prog (Stmt Table Row Ask Request) (Reply Answer Response) ε α)
    (state : State schema Request Response) : Prop :=
  match run (exec env) x state with
  | (.ok a, final) => returns a final.toWorld
  | (.error e, final) => raises e final.toWorld

section Concludes

variable {returns : α → World schema Request Response → Prop}
  {raises : ε → World schema Request Response → Prop}
  {state middle : State schema Request Response}

theorem Always.concludes (h : Always (fun _ => false) returns raises x state.toWorld) :
    Concludes env returns raises x state := h.run env

theorem Concludes.of_run {y : Prog (Stmt Table Row Ask Request) (Reply Answer Response) ε α}
    (hrun : run (exec env) x state = run (exec env) y middle)
    (h : Concludes env returns raises y middle) : Concludes env returns raises x state := by
  rw [Concludes, hrun]
  exact h

/-- The rule for `do let a ← x; f a` where `x` is known to return. -/
theorem Concludes.bind {x : Prog (Stmt Table Row Ask Request) (Reply Answer Response) ε β}
    {f : β → Prog (Stmt Table Row Ask Request) (Reply Answer Response) ε α} {b : β}
    (hrun : run (exec env) x state = (.ok b, middle))
    (h : Concludes env returns raises (f b) middle) :
    Concludes env returns raises (x >>= f) state :=
  .of_run (by rw [run_bind, hrun]) h

theorem Concludes.raised {x : Prog (Stmt Table Row Ask Request) (Reply Answer Response) ε β}
    {f : β → Prog (Stmt Table Row Ask Request) (Reply Answer Response) ε α} {e : ε}
    (hrun : run (exec env) x state = (.error e, middle)) (h : raises e middle.toWorld) :
    Concludes env returns raises (x >>= f) state :=
  .of_run (y := throw e) (by rw [run_bind, hrun]; rfl) h

theorem Concludes.require {condition : Prop} [Decidable condition] {failure : ε}
    {f : Unit → Prog (Stmt Table Row Ask Request) (Reply Answer Response) ε α}
    (hmet : condition → Concludes env returns raises (f ()) state)
    (hfailed : ¬condition → raises failure state.toWorld) :
    Concludes env returns raises (Prog.require condition failure >>= f) state := by
  by_cases hcondition : condition
  · rw [Prog.require_true hcondition]
    exact hmet hcondition
  · rw [Prog.require_false hcondition]
    exact hfailed hcondition

end Concludes

/-- One request: the program runs in a transaction of its own. -/
def transact (env : Env Ask Answer Response)
    (x : Prog (Stmt Table Row Ask Request) (Reply Answer Response) ε α)
    (world : World schema Request Response) :
    Except ε α × World schema Request Response :=
  match run (exec env) x ⟨⟨world.db, []⟩, 0⟩ with
  | (.ok a, final) => (.ok a, ⟨final.db, world.sent ++ final.sent⟩)
  | (.error e, final) => (.error e, ⟨world.db, world.sent ++ final.sent⟩)

/-- The requests one operation sends, with their responses. -/
def exchanges (env : Env Ask Answer Response)
    (x : Prog (Stmt Table Row Ask Request) (Reply Answer Response) ε α)
    (db : Db schema) : List (Request × Response) :=
  (run (exec env) x ⟨⟨db, []⟩, 0⟩).2.sent

/-- How an operation ends, and the database before it is committed or rolled back. -/
def uncommitted (env : Env Ask Answer Response)
    (x : Prog (Stmt Table Row Ask Request) (Reply Answer Response) ε α)
    (db : Db schema) : Except ε α × Db schema :=
  let ended := run (exec env) x ⟨⟨db, []⟩, 0⟩
  (ended.1, ended.2.db)

/-- The answer to each request of an operation is the one at its position. -/
theorem exchanges_respond {db : Db schema} {i : ℕ} {exchange : Request × Response}
    (h : (exchanges env x db)[i]? = some exchange) : exchange.2 = env.respond i := by
  have hall : x.All fun _ => True := by
    clear h
    induction x with
    | done result => trivial
    | step s next ih => exact ⟨trivial, ih⟩
  let Answered : State schema Request Response → Prop := fun state =>
    ∀ i exchange, state.sent[i]? = some exchange → exchange.2 = env.respond i
  refine run_invariant (exec env) hall ?_
    (show Answered ⟨⟨db, []⟩, 0⟩ from fun i exchange h => by cases h) i exchange h
  intro s state _ hanswered i exchange hi
  cases s with
  | send request =>
    have hi : (state.sent ++ [(request, env.respond state.sent.length)])[i]? =
      some exchange := hi
    rw [List.getElem?_append] at hi
    split at hi
    · exact hanswered i exchange hi
    · rw [List.getElem?_singleton] at hi
      split at hi
      · have hlength : i = state.sent.length := by omega
        rw [hlength, ← Option.some.inj hi]
      · cases hi
  | insert t build =>
    cases hinsert : state.db.insert t build with
    | none => exact hanswered i exchange (by simpa [exec, hinsert] using hi)
    | some stored => exact hanswered i exchange (by simpa [exec, hinsert] using hi)
  | update t id write =>
    cases hupdate : state.db.update t id write with
    | none => exact hanswered i exchange (by simpa [exec, hupdate] using hi)
    | some stored => exact hanswered i exchange (by simpa [exec, hupdate] using hi)
  | select t p => exact hanswered i exchange hi
  | selectForUpdate t p => exact hanswered i exchange hi
  | scan t p => exact hanswered i exchange hi
  | ask question => exact hanswered i exchange hi

theorem transact_sent (env : Env Ask Answer Response)
    (x : Prog (Stmt Table Row Ask Request) (Reply Answer Response) ε α)
    (world : World schema Request Response) :
    (transact env x world).2.sent = world.sent ++ exchanges env x world.db := by
  unfold transact exchanges
  rcases run (exec env) x ⟨⟨world.db, []⟩, 0⟩ with ⟨result, final⟩
  cases result with
  | ok a => rfl
  | error e => rfl

/-- A program whose result is left to the caller. -/
theorem run_discard (env : Env Ask Answer Response)
    (x : Prog (Stmt Table Row Ask Request) (Reply Answer Response) ε α)
    (state : State schema Request Response) :
    run (exec env) (do let _ ← x; pure () :
        Prog (Stmt Table Row Ask Request) (Reply Answer Response) ε Unit) state =
      ((run (exec env) x state).1.map fun _ => (), (run (exec env) x state).2) := by
  rw [run_bind]
  rcases run (exec env) x state with ⟨result, final⟩
  cases result with
  | ok a => rfl
  | error e => rfl

theorem transact_discard_eq (env : Env Ask Answer Response)
    (x : Prog (Stmt Table Row Ask Request) (Reply Answer Response) ε α)
    (world : World schema Request Response) :
    transact env (do let _ ← x; pure () :
        Prog (Stmt Table Row Ask Request) (Reply Answer Response) ε Unit) world =
      ((transact env x world).1.map fun _ => (), (transact env x world).2) := by
  unfold transact
  rw [run_discard]
  rcases run (exec env) x ⟨⟨world.db, []⟩, 0⟩ with ⟨result, final⟩
  cases result with
  | ok a => rfl
  | error e => rfl

/-- A request that raises leaves the committed database as it was. -/
theorem transact_db_of_error {world : World schema Request Response} {e : ε}
    (h : (transact env x world).1 = .error e) :
    (transact env x world).2.db = world.db := by
  unfold transact at h ⊢
  rcases hrun : run (exec env) x ⟨⟨world.db, []⟩, 0⟩ with ⟨result, final⟩
  cases result with
  | ok a => rw [hrun] at h; cases h
  | error e => rfl

/-- The two ways a request can end. -/
theorem transact_cases {returns : α → World schema Request Response → Prop}
    {raises : ε → World schema Request Response → Prop}
    {world : World schema Request Response}
    (h : Always (fun _ => false) returns raises x ⟨world.db, []⟩) :
    (∃ a db, transact env x world = (.ok a, ⟨db, world.sent ++ exchanges env x world.db⟩) ∧
      returns a ⟨db, exchanges env x world.db⟩) ∨
    (∃ e db, transact env x world =
        (.error e, ⟨world.db, world.sent ++ exchanges env x world.db⟩) ∧
      raises e ⟨db, exchanges env x world.db⟩) := by
  have hstart : Always (fun _ => false) returns raises x
      (⟨⟨world.db, []⟩, 0⟩ : State schema Request Response).toWorld := h
  have hrun := hstart.run env
  unfold transact exchanges
  rcases hend : run (exec env) x ⟨⟨world.db, []⟩, 0⟩ with ⟨result, final⟩
  rw [hend] at hrun
  cases result with
  | ok a => exact Or.inl ⟨a, final.db, rfl, hrun⟩
  | error e => exact Or.inr ⟨e, final.db, rfl, hrun⟩

/-- The same for what is known of this environment. -/
theorem transact_concludes {returns : α → World schema Request Response → Prop}
    {raises : ε → World schema Request Response → Prop}
    {world : World schema Request Response}
    (h : Concludes env returns raises x ⟨⟨world.db, []⟩, 0⟩) :
    (∃ a, (transact env x world).1 = .ok a ∧
      returns a ⟨(transact env x world).2.db, exchanges env x world.db⟩) ∨
    (∃ e db, (transact env x world).1 = .error e ∧ (transact env x world).2.db = world.db ∧
      raises e ⟨db, exchanges env x world.db⟩) := by
  unfold Concludes at h
  unfold transact exchanges
  rcases hend : run (exec env) x ⟨⟨world.db, []⟩, 0⟩ with ⟨result, final⟩
  rw [hend] at h
  cases result with
  | ok a => exact Or.inl ⟨a, rfl, h⟩
  | error e => exact Or.inr ⟨e, final.db, rfl, rfl, h⟩

/-- A request that only read. -/
theorem transact_idle {world : World schema Request Response} {result : Except ε α} {tick : ℕ}
    (hrun : run (exec env) x ⟨⟨world.db, []⟩, 0⟩ = (result, ⟨⟨world.db, []⟩, tick⟩)) :
    (transact env x world).2.db = world.db ∧ exchanges env x world.db = [] := by
  rw [transact, exchanges, hrun]
  cases result with
  | ok a => exact ⟨rfl, rfl⟩
  | error e => exact ⟨rfl, rfl⟩

/-- A request that only read until it came to `y`. -/
theorem transact_via {y : Prog (Stmt Table Row Ask Request) (Reply Answer Response) ε α}
    {returns : α → World schema Request Response → Prop}
    {raises : ε → World schema Request Response → Prop}
    {world : World schema Request Response} {tick : ℕ}
    (hrun : run (exec env) x ⟨⟨world.db, []⟩, 0⟩ = run (exec env) y ⟨⟨world.db, []⟩, tick⟩)
    (h : Always (fun _ => false) returns raises y ⟨world.db, []⟩) :
    (∃ a, returns a ⟨(transact env x world).2.db, exchanges env x world.db⟩) ∨
    ((transact env x world).2.db = world.db ∧
      ∃ e db, raises e ⟨db, exchanges env x world.db⟩) := by
  have hstart : Always (fun _ => false) returns raises y
      (⟨⟨world.db, []⟩, tick⟩ : State schema Request Response).toWorld := h
  have hend := hstart.run env
  rw [← hrun] at hend
  rw [transact, exchanges]
  rcases hended : run (exec env) x ⟨⟨world.db, []⟩, 0⟩ with ⟨result, final⟩
  rw [hended] at hend
  cases result with
  | ok a => exact Or.inl ⟨a, hend⟩
  | error e => exact Or.inr ⟨rfl, e, final.db, hend⟩

variable (env) in
/-- The two ways a request of a program can end, the database being what it committed. -/
theorem transact_ends {returns : α → World schema Request Response → Prop}
    {raises : ε → World schema Request Response → Prop}
    {world : World schema Request Response}
    (h : Always (fun _ => false) returns raises x ⟨world.db, []⟩) :
    (∃ a, (transact env x world).1 = .ok a ∧
      returns a ⟨(transact env x world).2.db, exchanges env x world.db⟩) ∨
    (∃ e db, (transact env x world).1 = .error e ∧ (transact env x world).2.db = world.db ∧
      raises e ⟨db, exchanges env x world.db⟩) := by
  rcases transact_cases h with ⟨a, db, heq, hreturns⟩ | ⟨e, db, heq, hraises⟩
  · left
    use a
    rw [heq]
    exact ⟨rfl, hreturns⟩
  · right
    use e, db
    rw [heq]
    exact ⟨rfl, rfl, hraises⟩

/-- What is left before the rollback of an operation that raised. -/
theorem uncommitted_error (env : Env Ask Answer Response) {db : Db schema}
    {returns : α → World schema Request Response → Prop}
    {raises : ε → World schema Request Response → Prop} {e : ε}
    (h : Always (fun _ => false) returns raises x ⟨db, []⟩)
    (herror : (uncommitted env x db).1 = .error e) :
    raises e ⟨(uncommitted env x db).2, exchanges env x db⟩ := by
  have hstart : Always (fun _ => false) returns raises x
      (⟨⟨db, []⟩, 0⟩ : State schema Request Response).toWorld := h
  have hrun := hstart.run env
  unfold uncommitted at herror ⊢
  unfold exchanges
  rcases hend : run (exec env) x ⟨⟨db, []⟩, 0⟩ with ⟨result, final⟩
  simp only [hend] at hrun herror
  rw [herror] at hrun
  exact hrun

/-- What the requests of an operation satisfy, whether it returns or raises. -/
theorem exchanges_of_always (env : Env Ask Answer Response)
    (P : List (Request × Response) → Prop) {db : Db schema}
    (h : Always (fun _ => false) (fun _ world' => P world'.sent) (fun _ world' => P world'.sent)
      x ⟨db, []⟩) : P (exchanges env x db) := by
  have hstart : Always (fun _ => false) (fun _ world' => P world'.sent)
      (fun _ world' => P world'.sent) x
      (⟨⟨db, []⟩, 0⟩ : State schema Request Response).toWorld := h
  have hrun := hstart.run env
  unfold exchanges
  rcases hend : run (exec env) x ⟨⟨db, []⟩, 0⟩ with ⟨result, final⟩
  rw [hend] at hrun
  cases result with
  | ok a => exact hrun
  | error e => exact hrun

/-- A request leaves what it returned, or nothing. -/
theorem transact_db (env : Env Ask Answer Response)
    {returns : α → World schema Request Response → Prop}
    {raises : ε → World schema Request Response → Prop}
    {world : World schema Request Response}
    (h : Always (fun _ => false) returns raises x ⟨world.db, []⟩) :
    (∃ a, returns a ⟨(transact env x world).2.db, exchanges env x world.db⟩) ∨
      (transact env x world).2.db = world.db := by
  rcases transact_cases h with ⟨a, db, heq, hreturns⟩ | ⟨e, db, heq, -⟩
  · exact Or.inl ⟨a, by rw [heq]; exact hreturns⟩
  · exact Or.inr (by rw [heq])

/-! ### Interrupted operations -/

/-- Requests are only ever added. -/
theorem sent_prefix_run (state : State schema Request Response) :
    state.sent <+: (run (exec env) x state).2.sent := by
  induction x generalizing state with
  | done result => exact List.prefix_refl _
  | step s next ih =>
    have hexec : state.sent <+: (exec env s state).2.sent := by
      cases s with
      | send request => exact List.prefix_append _ _
      | insert t build =>
        rw [exec]
        split <;> exact List.prefix_refl _
      | update t id write =>
        rw [exec]
        split <;> exact List.prefix_refl _
      | select t p => exact List.prefix_refl _
      | selectForUpdate t p => exact List.prefix_refl _
      | scan t p => exact List.prefix_refl _
      | ask question => exact List.prefix_refl _
    exact hexec.trans (ih _ _)

variable (env) in
/-- A program that is stopped ends as it would, or fails having sent no other requests. -/
theorem run_cut (failure : ε) (n : ℕ) (state : State schema Request Response) :
    run (exec env) (x.cut failure n) state = run (exec env) x state ∨
      ((run (exec env) (x.cut failure n) state).1 = .error failure ∧
        (run (exec env) (x.cut failure n) state).2.sent <+: (run (exec env) x state).2.sent) := by
  induction x generalizing n state with
  | done result => exact Or.inl (by rw [Prog.cut])
  | step s next ih =>
    cases n with
    | zero => exact Or.inr ⟨rfl, sent_prefix_run state⟩
    | succ n => exact ih _ n _

theorem transact_cut (failure : ε) (n : ℕ) (world : World schema Request Response) :
    (transact env (x.cut failure n) world = transact env x world ∧
      exchanges env (x.cut failure n) world.db = exchanges env x world.db) ∨
      ((transact env (x.cut failure n) world).1 = .error failure ∧
        (transact env (x.cut failure n) world).2.db = world.db ∧
        exchanges env (x.cut failure n) world.db <+: exchanges env x world.db) := by
  rcases run_cut env failure n ⟨⟨world.db, []⟩, 0⟩ with hsame | ⟨hfailed, hbefore⟩
  · left
    rw [transact, exchanges, hsame]
    exact ⟨rfl, rfl⟩
  · right
    have herror : (transact env (x.cut failure n) world).1 = .error failure := by
      rw [transact]
      rcases hend : run (exec env) (x.cut failure n) ⟨⟨world.db, []⟩, 0⟩ with ⟨result, final⟩
      rw [hend] at hfailed
      obtain rfl : result = .error failure := hfailed
      rfl
    exact ⟨herror, transact_db_of_error herror, hbefore⟩

end Transact

end InfinityRadius.Sql
