import Mathlib.Tactic.Common

/-!
# Object sessions

What a SQLAlchemy session made with `expire_on_commit=False` lets its caller see of the
objects it loaded.  A commit leaves their attributes alone.  A rollback expires the
attributes of every object, but only where a transaction was open.
-/

namespace InfinityRadius.Orm

structure Session (Key Row Entry : Type) where
  /-- whether a transaction is open -/
  begun : Bool
  /-- the attributes an object was loaded with, nothing where they are expired -/
  attributes : Key → Option Row
  /-- the rows added in the open transaction -/
  added : List Entry
  committed : List Entry

namespace Session

variable {Key Row Entry : Type}

/-- A session that has not been used. -/
def opened : Session Key Row Entry := ⟨false, fun _ => none, [], []⟩

variable (session : Session Key Row Entry)

/-- A statement that loads no object. -/
def query : Session Key Row Entry := { session with begun := true }

/-- A `SELECT` of objects, which leaves the attributes already loaded alone. -/
def load (found : Key → Option Row) : Session Key Row Entry :=
  { session with
    begun := true
    attributes := fun key => (session.attributes key).or (found key) }

def add (entry : Entry) : Session Key Row Entry :=
  { session with begun := true, added := session.added ++ [entry] }

def commit : Session Key Row Entry :=
  { session with begun := false, added := [], committed := session.committed ++ session.added }

def rollback : Session Key Row Entry :=
  if session.begun then
    { session with begun := false, attributes := fun _ => none, added := [] }
  else session

@[simp]
theorem query_begun : session.query.begun = true := rfl

@[simp]
theorem query_attributes : session.query.attributes = session.attributes := rfl

@[simp]
theorem load_begun (found : Key → Option Row) : (session.load found).begun = true := rfl

@[simp]
theorem load_opened_attributes (found : Key → Option Row) :
    (opened.load found : Session Key Row Entry).attributes = found := by
  funext key
  rfl

@[simp]
theorem add_attributes (entry : Entry) :
    (session.add entry).attributes = session.attributes := rfl

@[simp]
theorem commit_begun : session.commit.begun = false := rfl

@[simp]
theorem commit_attributes : session.commit.attributes = session.attributes := rfl

@[simp]
theorem commit_added : session.commit.added = [] := rfl

@[simp]
theorem commit_committed :
    session.commit.committed = session.committed ++ session.added := rfl

/-- A commit that has nothing to write ends the transaction. -/
theorem commit_of_nothing_added (h : session.added = []) :
    session.commit = { session with begun := false } := by
  rw [commit, h, List.append_nil]

/-- A rollback with no transaction open does nothing. -/
theorem rollback_of_closed (h : session.begun = false) : session.rollback = session :=
  if_neg (by rw [h]; decide)

/-- After the rollback of an open transaction no attribute can be read. -/
theorem rollback_attributes (h : session.begun = true) (key : Key) :
    session.rollback.attributes key = none := by
  rw [rollback, if_pos h]

end Session

end InfinityRadius.Orm
