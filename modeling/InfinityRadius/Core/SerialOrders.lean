import InfinityRadius.Core.Interleaving

/-!
# Serial orders

Programs that lock one row before they do anything else, interleaved.  Whoever holds the row
works as if alone, and nobody else has read or written anything by then, so whatever is committed,
sent and returned, some serial order of the same calls gives as well.
-/

namespace InfinityRadius.Interleaving

open Database Program Sql

variable {Table : Type} {Row : Table → Type} {Ask Request : Type} {Answer : Ask → Type}
  {Response ε α : Type} {schema : Schema Table Row}

/-! ## Columns -/

section Columns

variable {t : Table} {row : Row t} {rows : List (Row t)} {key : ℕ} {β : Type} {f : Row t → β}

/-- A column of the rows with a key. -/
def column (schema : Schema Table Row) (t : Table) (key : ℕ) (f : Row t → β)
    (rows : List (Row t)) : List β :=
  (rows.filter fun row => schema.id t row == key).map f

theorem mem_column (hrow : row ∈ rows) (hkey : schema.id t row = key) :
    f row ∈ column schema t key f rows :=
  List.mem_map_of_mem (List.mem_filter.mpr ⟨hrow, beq_iff_eq.mpr hkey⟩)

theorem exists_of_column_ne_nil (h : column schema t key f rows ≠ []) :
    ∃ row ∈ rows, schema.id t row = key := by
  obtain ⟨row, hrow⟩ := List.exists_mem_of_ne_nil _ fun hnil => h (List.map_eq_nil_iff.mpr hnil)
  obtain ⟨hmem, hkey⟩ := List.mem_filter.mp hrow
  exact ⟨row, hmem, beq_iff_eq.mp hkey⟩

/-- A row that is changed, but not in the column. -/
theorem column_storeRow
    (hstored : schema.id t row = key → ∃ old ∈ rows, schema.id t old = key)
    (hsame : ∀ old ∈ rows, schema.id t old = key → schema.id t row = key → f row = f old) :
    column schema t key f (storeRow schema t row rows) = column schema t key f rows := by
  by_cases hkey : schema.id t row = key
  · obtain ⟨old, hold, hid⟩ := hstored hkey
    rw [storeRow_of_mem hold (hid.trans hkey.symm), column, replaceRow, List.filter_map,
      List.map_map]
    have hfilter : rows.filter ((fun row => schema.id t row == key) ∘ fun old =>
        if schema.id t old = schema.id t row then row else old) =
          rows.filter fun row => schema.id t row == key := by
      apply List.filter_congr
      intro old _
      by_cases hold : schema.id t old = schema.id t row
      · simp [hold]
      · simp [hold]
    rw [hfilter]
    apply List.map_congr_left
    intro old hold
    obtain ⟨hmem, hid⟩ := List.mem_filter.mp hold
    have hid := beq_iff_eq.mp hid
    rw [Function.comp_apply, if_pos (hid.trans hkey.symm)]
    exact hsame old hmem hid hkey
  · rw [column, filter_storeRow hkey, column]

theorem mem_overlay {committed written : Tables Row}
    (h : row ∈ overlay schema committed written t) : row ∈ committed t ∨ row ∈ written t := by
  rw [overlay] at h
  generalize committed t = rows at h ⊢
  generalize written t = writes at h ⊢
  induction writes generalizing rows with
  | nil => exact Or.inl h
  | cons first rest ih =>
    rcases ih _ h with hstored | hrest
    · rcases mem_storeRow.mp hstored with rfl | ⟨hrows, -⟩
      · exact Or.inr List.mem_cons_self
      · exact Or.inl hrows
    · exact Or.inr (List.mem_cons_of_mem _ hrest)

end Columns

/-! ## One call after the other -/

variable [DecidableEq Table] {Call : Type}

/-- No other session is open. -/
def nobody : Held Row := ⟨fun _ => false, fun _ => []⟩

namespace Session

/-- The request the session sends where it does the next of its work. -/
def request (session : Session schema Ask Request Answer Response ε α) : List Request :=
  match session.program, session.waiting with
  | .step (.send request) _, some ([], _) => [request]
  | _, _ => []

def result (session : Session schema Ask Request Answer Response ε α) : Option (Except ε α) :=
  match session.program with
  | .done result => some result
  | _ => none

/-- A session that works while no other one is open, and what it sends. -/
def alone (committed : Tables Row) (draws : List (Draw Ask Answer Response))
    (session : Session schema Ask Request Answer Response ε α) :
    Session schema Ask Request Answer Response ε α × List Request :=
  draws.foldl (fun state draw =>
    (state.1.advance committed nobody draw, state.2 ++ state.1.request)) (session, [])

end Session

/-- One call of a serial order: what is drawn while it works, and whether its transaction is ended
or aborted then. -/
structure Turn (Ask : Type) (Answer : Ask → Type) (Response Call : Type) where
  call : Call
  draws : List (Draw Ask Answer Response)
  ends : Bool

/-- What has become of some calls: the rows committed, the requests sent, and what each call
returned or raised, unless it was aborted. -/
structure Outcome {Table : Type} (Row : Table → Type) (Request ε α Call : Type) where
  committed : Tables Row
  sent : List Request := []
  results : List (Call × Option (Except ε α)) := []

variable (program : Call → Prog (Stmt Table Row Ask Request) (Reply Answer Response) ε α)

/-- A session that is opened for a call. -/
def opened (schema : Schema Table Row) (c : Call) :
    Session schema Ask Request Answer Response ε α :=
  ⟨program c, {}, none⟩

def Outcome.turn (schema : Schema Table Row) (outcome : Outcome Row Request ε α Call)
    (turn : Turn Ask Answer Response Call) : Outcome Row Request ε α Call :=
  let worked := (opened program schema turn.call).alone outcome.committed turn.draws
  { committed :=
      if turn.ends then worked.1.commit outcome.committed else outcome.committed
    sent := outcome.sent ++ worked.2
    results := outcome.results ++ [(turn.call, if turn.ends then worked.1.result else none)] }

/-- The calls in a serial order. -/
def serial (schema : Schema Table Row) (turns : List (Turn Ask Answer Response Call))
    (committed : Tables Row) : Outcome Row Request ε α Call :=
  turns.foldl (Outcome.turn program schema) { committed }

/-! ## Calls side by side -/

/-- The sessions that are open, with the calls they are for, and what has become of the others. -/
structure Watched (schema : Schema Table Row) (Ask Request : Type) (Answer : Ask → Type)
    (Response ε α Call : Type) extends Outcome Row Request ε α Call where
  parties : List (Call × Session schema Ask Request Answer Response ε α) := []

namespace Watched

def system (state : Watched schema Ask Request Answer Response ε α Call) :
    System schema Ask Request Answer Response ε α :=
  ⟨state.committed, state.parties.map Prod.snd⟩

def next (event : Event Row Ask Answer Response Call)
    (state : Watched schema Ask Request Answer Response ε α Call) :
    Watched schema Ask Request Answer Response ε α Call :=
  match event with
  | .call c => { state with parties := state.parties ++ [(c, opened program schema c)] }
  | .advance index draw =>
    match state.parties.drop index with
    | [] => state
    | (c, session) :: after =>
      let before := state.parties.take index
      let others := Session.others ((before ++ after).map Prod.snd)
      { state with
        sent := state.sent ++ session.request
        parties := before ++ (c, session.advance state.committed others draw) :: after }
  | .finish index =>
    match state.parties.drop index with
    | [] => state
    | (c, session) :: after =>
      if session.ended then
        { committed := session.commit state.committed
          sent := state.sent
          results := state.results ++ [(c, session.result)]
          parties := state.parties.take index ++ after }
      else state
  | .abort index =>
    match state.parties.drop index with
    | [] => state
    | (c, _) :: after =>
      { state with
        results := state.results ++ [(c, none)]
        parties := state.parties.take index ++ after }
  | .elsewhere _ _ => state

/-- What is watched is the system itself. -/
theorem system_next (event : Event Row Ask Answer Response Call)
    (state : Watched schema Ask Request Answer Response ε α Call) :
    (state.next program event).system =
      state.system.next program (fun _ => false) event := by
  cases event with
  | call c => simp [next, system, System.next, opened]
  | advance index draw =>
    simp only [next, System.next, system, ← List.map_drop, ← List.map_take]
    cases hdrop : state.parties.drop index with
    | nil => rfl
    | cons party after => simp
  | finish index =>
    simp only [next, System.next, system, ← List.map_drop, ← List.map_take]
    cases hdrop : state.parties.drop index with
    | nil => rfl
    | cons party after =>
      simp only [List.map_cons]
      split
      · simp
      · rfl
  | abort index =>
    simp only [next, System.next, system]
    cases hdrop : state.parties.drop index with
    | nil => 
      have hlength := List.drop_eq_nil_iff.mp hdrop
      rw [List.eraseIdx_of_length_le (by simpa using hlength)]
    | cons party after =>
      rw [List.eraseIdx_eq_take_drop_succ, ← List.drop_drop, ← List.map_drop, hdrop]
      simp
  | elsewhere t rows => rfl

end Watched

/-! ## Whoever holds the row -/

section Locks

variable {program} {inv : Tables Row → Prop} {key : Key Table} {committed : Tables Row}
  {c : Call} {session : Session schema Ask Request Answer Response ε α}
  {draws : List (Draw Ask Answer Response)} {draw : Draw Ask Answer Response}
  {sent : List Request}

/-- Every program raises at once, or locks the row with the key before anything else and raises
where there is none; and what a call commits does not change which rows that are. -/
structure Locks (schema : Schema Table Row)
    (program : Call → Prog (Stmt Table Row Ask Request) (Reply Answer Response) ε α)
    (inv : Tables Row → Prop) (key : Key Table) : Prop where
  first : ∀ c, (∃ e, program c = .done (.error e)) ∨
    ∃ t p next keys, program c = .step (.selectForUpdate t p) next ∧
      (∃ e, next [] = .done (.error e)) ∧
      (∀ committed, inv committed → ({} : Own Row).wanted schema committed
        (.selectForUpdate t p : Stmt Table Row Ask Request) = keys) ∧ ∀ k ∈ keys, k = key
  kept : ∀ c draws committed, inv committed →
    inv (((opened program schema c).alone committed draws).1.commit committed)

theorem Session.alone_concat : session.alone committed (draws ++ [draw]) =
    ((session.alone committed draws).1.advance committed nobody draw,
      (session.alone committed draws).2 ++ (session.alone committed draws).1.request) := by
  rw [Session.alone, List.foldl_append]
  rfl

/-- What a program ensures, it ensures alone. -/
theorem Session.ensures_alone {discipline : Discipline Row}
    {returns : α → Own Row → Tables Row → Prop} (hinv : discipline.inv committed)
    (h : Ensures schema discipline returns session.program session.own committed) :
    Ensures schema discipline returns (session.alone committed draws).1.program
      (session.alone committed draws).1.own committed := by
  rw [Session.alone]
  generalize ([] : List Request) = sent
  induction draws generalizing session sent with
  | nil => exact h
  | cons draw draws ih => exact ih (Session.ensures_advance hinv h) _

/-- What may be committed after every call may be committed after a call that works alone. -/
theorem Session.inv_alone {discipline : Discipline Row} (hinv : discipline.inv committed)
    (h : Ensures schema discipline
      (fun _ own later => discipline.inv (overlay schema later own.written)) session.program
      session.own committed) :
    discipline.inv ((session.alone committed draws).1.commit committed) := by
  have hensures := @Session.ensures_alone _ _ _ _ _ _ _ _ _ _ _ _ draws _ _ hinv h
  unfold Session.commit
  split
  · rename_i a hprogram
    rw [hprogram] at hensures
    exact hensures committed (discipline.refl _ _) hinv
  · exact hinv

/-- A session that has not got the row: it has only begun, it waits for the row, or there is no
such row.  It came that far whatever was committed in between. -/
inductive Outside (program : Call → Prog (Stmt Table Row Ask Request) (Reply Answer Response) ε α)
    (inv : Tables Row → Prop) (c : Call) :
    Session schema Ask Request Answer Response ε α → Prop
  | starting : Outside program inv c (opened program schema c)
  | waiting {t : Table} {p : Row t → Bool} {next} {keys : List (Key Table)}
      (hprogram : program c = .step (.selectForUpdate t p) next)
      (hkeys : ∀ committed, inv committed → ({} : Own Row).wanted schema committed
        (.selectForUpdate t p : Stmt Table Row Ask Request) = keys) :
      Outside program inv c ⟨program c, {}, some (keys, [])⟩
  | raised {session : Session schema Ask Request Answer Response ε α} {e : ε}
      {draws : List (Draw Ask Answer Response)} (hprogram : session.program = .done (.error e))
      (hheld : session.held = []) (hwritten : ∀ t, session.own.written t = [])
      (halone : ∀ committed, inv committed →
        (opened program schema c).alone committed draws = (session, [])) :
      Outside program inv c session

/-- The session that has the row: as if it had worked alone from what is committed. -/
structure Inside (program : Call → Prog (Stmt Table Row Ask Request) (Reply Answer Response) ε α)
    (key : Key Table) (committed : Tables Row) (c : Call)
    (session : Session schema Ask Request Answer Response ε α) (sent : List Request) : Prop where
  alone : ∃ draws, (opened program schema c).alone committed draws = (session, sent)
  holds : key ∈ session.own.locked ∨
    ∃ todo keys, session = ⟨program c, {}, some (todo, keys)⟩ ∧ key ∈ keys

namespace Outside

theorem held (h : Outside program inv c session) : session.held = [] := by
  cases h with
  | starting => rfl
  | waiting hprogram hkeys => rfl
  | raised hprogram hheld hwritten halone => exact hheld

theorem written (h : Outside program inv c session) (t : Table) :
    session.own.written t = [] := by
  cases h with
  | starting => rfl
  | waiting hprogram hkeys => rfl
  | raised hprogram hheld hwritten halone => exact hwritten t

theorem request (hlocks : Locks schema program inv key) (h : Outside program inv c session) :
    session.request = [] := by
  cases h with
  | starting =>
    rcases hlocks.first c with ⟨e, hprogram⟩ | ⟨t, p, next, keys, hprogram, -⟩
    · rw [Session.request, opened, hprogram]
    · rw [Session.request, opened, hprogram]
  | waiting hprogram hkeys => rw [Session.request, hprogram]
  | raised hprogram hheld hwritten halone => rw [Session.request, hprogram]

/-- Where it has ended, it raised, and it would have done so alone. -/
theorem ended (hlocks : Locks schema program inv key) (h : Outside program inv c session)
    (hended : session.ended = true) :
    session.commit committed = committed ∧ ∃ draws, ∀ committed, inv committed →
      (opened program schema c).alone committed draws = (session, []) := by
  cases h with
  | starting =>
    constructor
    · rcases hlocks.first c with ⟨e, hprogram⟩ | ⟨t, p, next, keys, hprogram, -⟩
      · rw [Session.commit, opened, hprogram]
      · rw [Session.ended, opened, hprogram] at hended
        cases hended
    · exact ⟨[], fun _ _ => rfl⟩
  | waiting hprogram hkeys =>
    rw [Session.ended, hprogram] at hended
    cases hended
  | raised hprogram hheld hwritten halone =>
    constructor
    · rw [Session.commit, hprogram]
    · exact ⟨_, halone⟩

/-- It goes on outside, or takes the row where nobody has it. -/
theorem advance (hlocks : Locks schema program inv key) (h : Outside program inv c session)
    (hinv : inv committed) (held : Held Row) (draw : Draw Ask Answer Response) :
    Outside program inv c (session.advance committed held draw) ∨
      held.busy key = false ∧
        Inside program key committed c (session.advance committed held draw) [] := by
  cases h with
  | starting =>
    left
    rcases hlocks.first c with ⟨e, hprogram⟩ | ⟨t, p, next, keys, hprogram, -, hkeys, -⟩
    · have hstill : (opened program schema c).advance committed held draw =
          opened program schema c := by
        simp only [Session.advance, opened, hprogram]
      rw [hstill]
      exact starting
    · have hwaits : (opened program schema c).advance committed held draw =
          ⟨program c, {}, some (keys, [])⟩ := by
        simp only [Session.advance, opened, hprogram]
        rw [hkeys committed hinv]
      rw [hwaits]
      exact waiting hprogram hkeys
  | @waiting t p next keys hprogram hkeys =>
    -- what it does alone before it comes here
    have hwaits : ∀ committed, inv committed →
        (opened program schema c).advance committed nobody draw =
          ⟨program c, {}, some (keys, [])⟩ := by
      intro committed hinv
      simp only [Session.advance, opened, hprogram]
      rw [hkeys committed hinv]
    have hquiet : (opened program schema c).request = [] := by
      rw [Session.request, opened, hprogram]
    rcases hlocks.first c with ⟨e, hother⟩ | ⟨t', p', next', keys', hother, ⟨e, hnone⟩, hkeys', hall⟩
    · rw [hprogram] at hother
      cases hother
    rw [hprogram] at hother
    cases hother
    obtain rfl : keys = keys' := (hkeys committed hinv).symm.trans (hkeys' committed hinv)
    have hquiet' : Session.request (⟨program c, {}, some (keys, [])⟩ :
        Session schema Ask Request Answer Response ε α) = [] := by
      rw [Session.request, hprogram]
    cases keys with
    | nil =>
      left
      have hfilter : ∀ rows : List (Row t), rows.filter (fun row =>
          ([] : List (Key Table)).contains (t, schema.id t row) && p row) = [] := by
        intro rows
        simp
      have hreply : ∀ committed held, Session.advance committed held draw
          (⟨program c, {}, some ([], [])⟩ : Session schema Ask Request Answer Response ε α) =
            ⟨next [], ((({} : Own Row).lock []).load schema t []).2, none⟩ := by
        intro committed held
        simp only [Session.advance, hprogram, Own.reply, hfilter]
        rfl
      rw [hreply]
      apply raised hnone rfl (fun _ => rfl)
      intro committed hinv
      have halone : (opened program schema c).alone committed ([draw] ++ [draw]) =
          (⟨next [], ((({} : Own Row).lock []).load schema t []).2, none⟩, [] ++ []) := by
        rw [Session.alone_concat, ← List.nil_append [draw], Session.alone_concat]
        simp only [Session.alone, List.foldl_nil, hwaits committed hinv, hreply, hquiet, hquiet',
          List.append_nil]
      exact halone
    | cons k rest =>
      obtain rfl : k = key := hall k List.mem_cons_self
      cases hbusy : held.busy k with
      | true =>
        left
        have hstill : Session.advance committed held draw
            (⟨program c, {}, some (k :: rest, [])⟩ :
              Session schema Ask Request Answer Response ε α) =
                ⟨program c, {}, some (k :: rest, [])⟩ := by
          simp only [Session.advance, hprogram, hbusy, if_true]
        rw [hstill]
        exact waiting hprogram hkeys
      | false =>
        right
        have htakes : ∀ held : Held Row, held.busy k = false →
            Session.advance committed held draw (⟨program c, {}, some (k :: rest, [])⟩ :
              Session schema Ask Request Answer Response ε α) =
                ⟨program c, {}, some (rest, [k])⟩ := by
          intro held hfree
          simp only [Session.advance, hprogram, hfree, Bool.false_eq_true, if_false,
            List.nil_append]
        rw [htakes held hbusy]
        refine ⟨rfl, ⟨[draw] ++ [draw], ?_⟩, Or.inr ⟨rest, [k], rfl, List.mem_singleton_self k⟩⟩
        rw [Session.alone_concat, ← List.nil_append [draw], Session.alone_concat]
        simp only [Session.alone, List.foldl_nil, hwaits committed hinv, htakes nobody rfl, hquiet,
          hquiet', List.append_nil]
  | raised hprogram hheld hwritten halone =>
    left
    have hstill : session.advance committed held draw = session := by
      rw [Session.advance, hprogram]
    rw [hstill]
    exact raised hprogram hheld hwritten halone

end Outside

/-- What a transaction has locked stays locked. -/
theorem Own.locked_reply {own own' : Own Row} {held : Held Row} {keys : List (Key Table)}
    {s : Stmt Table Row Ask Request} {reply : Reply Answer Response s}
    (h : own.reply schema committed held draw keys s = some (reply, own')) :
    own.locked ⊆ own'.locked := by
  have hwrite : ∀ {t : Table} {row : Row t} {stored : Option (Row t)},
      own.tryWrite schema committed held t row = some (stored, own') →
        own.locked ⊆ own'.locked := by
    intro t row stored h
    rcases Own.tryWrite_eq_some h with ⟨-, rfl⟩ | ⟨-, rfl, -, -⟩
    · exact List.Subset.refl _
    · exact List.subset_append_left _ _
  cases s with
  | select t p =>
    obtain ⟨-, rfl⟩ := Prod.mk.inj (Option.some.inj h)
    exact List.Subset.refl _
  | selectForUpdate t p =>
    obtain ⟨-, rfl⟩ := Prod.mk.inj (Option.some.inj h)
    exact List.subset_append_left _ _
  | scan t p =>
    obtain ⟨-, rfl⟩ := Prod.mk.inj (Option.some.inj h)
    exact List.Subset.refl _
  | insert t build =>
    simp only [Own.reply] at h
    split at h
    · exact hwrite h
    · cases h
  | update t id write =>
    simp only [Own.reply] at h
    split at h
    · obtain ⟨-, rfl⟩ := Prod.mk.inj (Option.some.inj h)
      exact List.Subset.refl _
    · split at h
      · exact hwrite h
      · obtain ⟨-, rfl⟩ := Prod.mk.inj (Option.some.inj h)
        exact List.Subset.refl _
  | ask question =>
    obtain ⟨-, rfl⟩ := Prod.mk.inj (Option.some.inj h)
    exact List.Subset.refl _
  | send request =>
    obtain ⟨-, rfl⟩ := Prod.mk.inj (Option.some.inj h)
    exact List.Subset.refl _

theorem Session.locked_advance {held : Held Row} :
    session.own.locked ⊆ (session.advance committed held draw).own.locked := by
  unfold Session.advance
  split
  · exact List.Subset.refl _
  · split
    · exact List.Subset.refl _
    · split
      · exact List.Subset.refl _
      · exact List.Subset.refl _
    · split
      · exact List.Subset.refl _
      · rename_i reply own' hreply
        exact Own.locked_reply hreply

namespace Inside

theorem held (h : Inside program key committed c session sent) : key ∈ session.held := by
  rcases h.holds with hlocked | ⟨todo, keys, rfl, hkey⟩
  · exact List.mem_append_left _ hlocked
  · exact List.mem_append_right _ hkey

theorem not_outside (h : Inside program key committed c session sent) :
    ¬Outside program inv c session := by
  intro houtside
  have hkey := h.held
  rw [houtside.held] at hkey
  cases hkey

/-- While nobody else has locked or written anything, it works as if alone. -/
theorem advance (hlocks : Locks schema program inv key)
    (h : Inside program key committed c session sent) (draw : Draw Ask Answer Response) :
    Inside program key committed c (session.advance committed nobody draw)
      (sent ++ session.request) := by
  constructor
  · obtain ⟨draws, halone⟩ := h.alone
    use draws ++ [draw]
    rw [Session.alone_concat, halone]
  · rcases h.holds with hlocked | ⟨todo, keys, rfl, hkey⟩
    · exact Or.inl (Session.locked_advance hlocked)
    · rcases hlocks.first c with ⟨e, hprogram⟩ | ⟨t, p, next, wanted, hprogram, -⟩
      · right
        refine ⟨todo, keys, ?_, hkey⟩
        simp only [Session.advance, hprogram]
      · cases todo with
        | nil =>
          left
          simp only [Session.advance, hprogram, Own.reply, Own.load, Own.lock]
          exact List.mem_append_right _ hkey
        | cons k rest =>
          right
          refine ⟨rest, keys ++ [k], ?_, List.mem_append_left _ hkey⟩
          simp only [Session.advance, hprogram, nobody, Bool.false_eq_true, if_false]

end Inside

/-! ## Every interleaving is some serial order -/

variable {parties parties' : List (Call × Session schema Ask Request Answer Response ε α)}
  {more : List Request}

/-- At most one of the open sessions has the row, and what it sent is what the closed ones leave
of the requests. -/
structure Working (program : Call → Prog (Stmt Table Row Ask Request) (Reply Answer Response) ε α)
    (inv : Tables Row → Prop) (key : Key Table) (committed : Tables Row)
    (parties : List (Call × Session schema Ask Request Answer Response ε α))
    (more : List Request) : Prop where
  each : ∀ party ∈ parties, Outside program inv party.1 party.2 ∨
    Inside program key committed party.1 party.2 more
  one : parties.Pairwise fun left right =>
    Outside program inv left.1 left.2 ∨ Outside program inv right.1 right.2
  idle : (∀ party ∈ parties, Outside program inv party.1 party.2) → more = []

theorem Session.others_of_outside
    (h : ∀ party ∈ parties, Outside program inv party.1 party.2) :
    Session.others (parties.map Prod.snd) = nobody := by
  have hbusy : ∀ k, ((parties.map Prod.snd).any fun session => session.held.contains k) =
      false := by
    intro k
    rw [List.any_map, List.any_eq_false]
    intro party hparty
    simp [(h party hparty).held]
  have hpending : ∀ t, ((parties.map Prod.snd).flatMap fun session => session.own.written t) =
      [] := by
    intro t
    rw [List.flatMap_map, List.flatMap_eq_nil_iff]
    exact fun party hparty => (h party hparty).written t
  rw [Session.others, nobody]
  congr 1
  · exact funext hbusy
  · exact funext hpending

namespace Working

theorem perm (h : Working program inv key committed parties more)
    (hperm : parties.Perm parties') : Working program inv key committed parties' more where
  each party hparty := h.each party (hperm.mem_iff.mpr hparty)
  one := (hperm.pairwise_iff fun hor => hor.symm).mp h.one
  idle hall := h.idle fun party hparty => hall party (hperm.mem_iff.mp hparty)

theorem of_outside (h : ∀ party ∈ parties, Outside program inv party.1 party.2) :
    Working program inv key committed parties [] where
  each party hparty := Or.inl (h party hparty)
  one := List.pairwise_of_forall_mem_list fun party hparty _ _ => Or.inl (h party hparty)
  idle _ := rfl

theorem cons_outside (h : Working program inv key committed parties more)
    (hsession : Outside program inv c session) :
    Working program inv key committed ((c, session) :: parties) more where
  each := List.forall_mem_cons.mpr ⟨Or.inl hsession, h.each⟩
  one := List.pairwise_cons.mpr ⟨fun _ _ => Or.inl hsession, h.one⟩
  idle hall := h.idle (List.forall_mem_cons.mp hall).2

theorem cons_inside (h : ∀ party ∈ parties, Outside program inv party.1 party.2)
    (hsession : Inside program key committed c session more) :
    Working program inv key committed ((c, session) :: parties) more where
  each := List.forall_mem_cons.mpr ⟨Or.inr hsession, fun party hparty => Or.inl (h party hparty)⟩
  one := List.pairwise_cons.mpr ⟨fun party hparty => Or.inr (h party hparty),
    List.pairwise_of_forall_mem_list fun party hparty _ _ => Or.inl (h party hparty)⟩
  idle hall := absurd (List.forall_mem_cons.mp hall).1 hsession.not_outside

/-- One of the sessions has not got the row, or is the only one that has. -/
theorem of_cons (h : Working program inv key committed ((c, session) :: parties) more) :
    Outside program inv c session ∧ Working program inv key committed parties more ∨
      Inside program key committed c session more ∧
        ∀ party ∈ parties, Outside program inv party.1 party.2 := by
  obtain ⟨hfirst, hrest⟩ := List.forall_mem_cons.mp h.each
  obtain ⟨hacross, hone⟩ := List.pairwise_cons.mp h.one
  by_cases hsession : Outside program inv c session
  · exact Or.inl ⟨hsession, hrest, hone, fun hall =>
      h.idle (List.forall_mem_cons.mpr ⟨hsession, hall⟩)⟩
  · exact Or.inr ⟨hfirst.resolve_left hsession, fun party hparty =>
      (hacross party hparty).resolve_left hsession⟩

end Working

variable {start : Tables Row}

theorem serial_concat {turns : List (Turn Ask Answer Response Call)}
    {turn : Turn Ask Answer Response Call} :
    serial program schema (turns ++ [turn]) start =
      (serial program schema turns start).turn program schema turn := by
  rw [serial, List.foldl_append]
  rfl

/-- The calls that are closed have gone as in some serial order, and one of the others at most
has come further than to wait. -/
structure Serialised
    (program : Call → Prog (Stmt Table Row Ask Request) (Reply Answer Response) ε α)
    (inv : Tables Row → Prop) (key : Key Table) (start : Tables Row)
    (state : Watched schema Ask Request Answer Response ε α Call) : Prop where
  keeps : inv state.committed
  order : ∃ turns sent more, serial program schema turns start =
      ⟨state.committed, sent, state.results⟩ ∧ state.sent = sent ++ more ∧
    Working program inv key state.committed state.parties more

variable {state : Watched schema Ask Request Answer Response ε α Call}

namespace Serialised

/-- A session goes on. -/
theorem advance (hlocks : Locks schema program inv key)
    (h : Serialised program inv key start state)
    {before after : List (Call × Session schema Ask Request Answer Response ε α)}
    (hparties : state.parties = before ++ (c, session) :: after) :
    Serialised program inv key start
      { state with
        sent := state.sent ++ session.request
        parties := before ++ (c, session.advance state.committed
          (Session.others ((before ++ after).map Prod.snd)) draw) :: after } := by
  obtain ⟨turns, sent, more, hserial, hsent, hworking⟩ := h.order
  rw [hparties] at hworking
  have hsplit := (hworking.perm List.perm_middle).of_cons
  refine ⟨h.keeps, ?_⟩
  rcases hsplit with ⟨houtside, hrest⟩ | ⟨hinside, hrest⟩
  · rcases houtside.advance hlocks h.keeps (Session.others ((before ++ after).map Prod.snd)) draw with
      hstill | ⟨hfree, htakes⟩
    · refine ⟨turns, sent, more, hserial, ?_, ?_⟩
      · simp only [houtside.request hlocks, List.append_nil, hsent]
      · exact (hrest.cons_outside hstill).perm List.perm_middle.symm
    · have hall : ∀ party ∈ before ++ after, Outside program inv party.1 party.2 := by
        intro party hparty
        apply (hrest.each party hparty).resolve_right
        intro hother
        exact Session.busy_others hfree (List.mem_map_of_mem hparty) hother.held
      refine ⟨turns, sent, [], hserial, ?_, ?_⟩
      · simp only [houtside.request hlocks, List.append_nil, hsent, hrest.idle hall]
      · exact (Working.cons_inside hall htakes).perm List.perm_middle.symm
  · refine ⟨turns, sent, more ++ session.request, hserial, ?_, ?_⟩
    · simp only [hsent, List.append_assoc]
    · rw [Session.others_of_outside hrest]
      exact (Working.cons_inside hrest (hinside.advance hlocks draw)).perm List.perm_middle.symm

/-- A session ends its transaction. -/
theorem finish (hlocks : Locks schema program inv key)
    (h : Serialised program inv key start state)
    {before after : List (Call × Session schema Ask Request Answer Response ε α)}
    (hparties : state.parties = before ++ (c, session) :: after) (hended : session.ended = true) :
    Serialised program inv key start
      { committed := session.commit state.committed
        sent := state.sent
        results := state.results ++ [(c, session.result)]
        parties := before ++ after } := by
  obtain ⟨turns, sent, more, hserial, hsent, hworking⟩ := h.order
  rw [hparties] at hworking
  rcases (hworking.perm List.perm_middle).of_cons with ⟨houtside, hrest⟩ | ⟨hinside, hrest⟩
  · obtain ⟨hcommit, draws, halone⟩ := houtside.ended hlocks hended
    refine ⟨hcommit.symm ▸ h.keeps, turns ++ [⟨c, draws, true⟩], sent, more, ?_, hsent, ?_⟩
    · rw [serial_concat, hserial, Outcome.turn]
      simp only [halone _ h.keeps, if_true, List.append_nil]
    · rw [hcommit]
      exact hrest
  · obtain ⟨draws, halone⟩ := hinside.alone
    have hkept := hlocks.kept c draws state.committed h.keeps
    rw [halone] at hkept
    refine ⟨hkept, turns ++ [⟨c, draws, true⟩], sent ++ more, [], ?_, ?_, ?_⟩
    · rw [serial_concat, hserial, Outcome.turn]
      simp only [halone, if_true]
    · rw [hsent, List.append_nil]
    · exact Working.of_outside hrest

/-- A session is aborted. -/
theorem abort (h : Serialised program inv key start state)
    {before after : List (Call × Session schema Ask Request Answer Response ε α)}
    (hparties : state.parties = before ++ (c, session) :: after) :
    Serialised program inv key start
      { state with
        results := state.results ++ [(c, none)]
        parties := before ++ after } := by
  obtain ⟨turns, sent, more, hserial, hsent, hworking⟩ := h.order
  rw [hparties] at hworking
  refine ⟨h.keeps, ?_⟩
  rcases (hworking.perm List.perm_middle).of_cons with ⟨-, hrest⟩ | ⟨hinside, hrest⟩
  · refine ⟨turns ++ [⟨c, [], false⟩], sent, more, ?_, hsent, hrest⟩
    rw [serial_concat, hserial, Outcome.turn]
    simp [Session.alone]
  · obtain ⟨draws, halone⟩ := hinside.alone
    refine ⟨turns ++ [⟨c, draws, false⟩], sent ++ more, [], ?_, ?_, Working.of_outside hrest⟩
    · rw [serial_concat, hserial, Outcome.turn]
      simp [halone]
    · rw [hsent, List.append_nil]

theorem next (hlocks : Locks schema program inv key)
    (h : Serialised program inv key start state)
    (event : Event Row Ask Answer Response Call) :
    Serialised program inv key start (state.next program event) := by
  cases event with
  | call c =>
    obtain ⟨turns, sent, more, hserial, hsent, hworking⟩ := h.order
    refine ⟨h.keeps, turns, sent, more, hserial, hsent, ?_⟩
    exact (hworking.cons_outside Outside.starting).perm (List.perm_append_singleton _ _).symm
  | advance index draw =>
    simp only [Watched.next]
    split
    · exact h
    · rename_i c session after hdrop
      apply h.advance hlocks
      rw [← hdrop, List.take_append_drop]
  | finish index =>
    simp only [Watched.next]
    split
    · exact h
    · rename_i c session after hdrop
      split
      · rename_i hended
        apply h.finish hlocks _ hended
        rw [← hdrop, List.take_append_drop]
      · exact h
  | abort index =>
    simp only [Watched.next]
    split
    · exact h
    · rename_i c session after hdrop
      apply h.abort
      rw [← hdrop, List.take_append_drop]
  | elsewhere t rows => exact h

end Serialised

/-- The calls that are still open could all be aborted, one after another. -/
theorem Working.aborted (h : Working program inv key committed parties more)
    (sent : List Request) (results : List (Call × Option (Except ε α))) :
    ∃ turns : List (Turn Ask Answer Response Call),
      turns.foldl (Outcome.turn program schema) ⟨committed, sent, results⟩ =
        ⟨committed, sent ++ more, results ++ parties.map fun party => (party.1, none)⟩ := by
  induction parties generalizing sent results more with
  | nil =>
    use []
    rw [h.idle (by simp), List.foldl_nil, List.append_nil, List.map_nil, List.append_nil]
  | cons party rest ih =>
    obtain ⟨c, session⟩ := party
    rcases h.of_cons with ⟨-, hrest⟩ | ⟨hinside, hrest⟩
    · obtain ⟨turns, hturns⟩ := ih hrest sent (results ++ [(c, none)])
      use ⟨c, [], false⟩ :: turns
      rw [List.foldl_cons, Outcome.turn]
      simp only [Session.alone, List.foldl_nil, Bool.false_eq_true, if_false, List.append_nil,
        hturns, List.map_cons, List.append_assoc, List.cons_append, List.nil_append]
    · obtain ⟨draws, halone⟩ := hinside.alone
      obtain ⟨turns, hturns⟩ := ih (of_outside hrest) (sent ++ more) (results ++ [(c, none)])
      use ⟨c, draws, false⟩ :: turns
      rw [List.foldl_cons, Outcome.turn]
      simp only [halone, Bool.false_eq_true, if_false, hturns, List.append_nil, List.map_cons,
        List.append_assoc, List.cons_append, List.nil_append]

theorem Outcome.calls_turns {turns : List (Turn Ask Answer Response Call)}
    {outcome : Outcome Row Request ε α Call} :
    (turns.foldl (Outcome.turn program schema) outcome).results.map Prod.fst =
      outcome.results.map Prod.fst ++ turns.map Turn.call := by
  induction turns generalizing outcome with
  | nil => rw [List.foldl_nil, List.map_nil, List.append_nil]
  | cons turn turns ih =>
    rw [List.foldl_cons, ih, Outcome.turn, List.map_append, List.append_assoc]
    rfl

/-- The call that begins with an event. -/
def Event.begun : Event Row Ask Answer Response Call → Option Call
  | .call c => some c
  | _ => none

def Watched.calls (state : Watched schema Ask Request Answer Response ε α Call) : List Call :=
  state.results.map Prod.fst ++ state.parties.map Prod.fst

/-- No call is lost or made twice. -/
theorem Watched.calls_next (event : Event Row Ask Answer Response Call) :
    (state.next program event).calls.Perm (state.calls ++ event.begun.toList) := by
  have hcalls : ∀ {index c session after}, state.parties.drop index = (c, session) :: after →
      state.calls = state.results.map Prod.fst ++
        (state.parties.take index ++ (c, session) :: after).map Prod.fst := by
    intro index c session after hdrop
    rw [← hdrop, List.take_append_drop, Watched.calls]
  have hclosed : ∀ {index c session after}, state.parties.drop index = (c, session) :: after →
      ∀ result : Option (Except ε α), ((state.results ++ [(c, result)]).map Prod.fst ++
        (state.parties.take index ++ after).map Prod.fst).Perm state.calls := by
    intro index c session after hdrop result
    rw [hcalls hdrop]
    simp only [List.map_append, List.map_cons, List.map_nil, List.append_assoc,
      List.singleton_append]
    exact List.Perm.append_left _ List.perm_middle.symm
  cases event with
  | call c => simp [Watched.calls, Watched.next, Event.begun]
  | advance index draw =>
    simp only [Watched.next, Event.begun, Option.toList_none, List.append_nil]
    split
    · exact List.Perm.refl _
    · rename_i c session after hdrop
      rw [hcalls hdrop, Watched.calls]
      simp only [List.map_append, List.map_cons]
      exact List.Perm.refl _
  | finish index =>
    simp only [Watched.next, Event.begun, Option.toList_none, List.append_nil]
    split
    · exact List.Perm.refl _
    · rename_i c session after hdrop
      split
      · exact hclosed hdrop _
      · exact List.Perm.refl _
  | abort index =>
    simp only [Watched.next, Event.begun, Option.toList_none, List.append_nil]
    split
    · exact List.Perm.refl _
    · rename_i c session after hdrop
      exact hclosed hdrop _
  | elsewhere t rows =>
    simp only [Watched.next, Event.begun, Option.toList_none, List.append_nil]
    exact List.Perm.refl _

theorem Watched.calls_run (events : List (Event Row Ask Answer Response Call)) :
    (Runs.run (Watched.next program) events state).calls.Perm
      (state.calls ++ events.filterMap Event.begun) := by
  induction events generalizing state with
  | nil => simp
  | cons event events ih =>
    rw [Runs.run_cons]
    apply (@ih (state.next program event)).trans
    apply ((Watched.calls_next event).append_right _).trans
    cases hbegun : event.begun with
    | none => simp [hbegun]
    | some c => simp [hbegun]

/-- Whatever the calls have done by any time, they have done in some serial order, the ones that
are still open being aborted. -/
theorem exists_serial (hlocks : Locks schema program inv key) (hstart : inv start)
    (events : List (Event Row Ask Answer Response Call)) :
    let state : Watched schema Ask Request Answer Response ε α Call :=
      Runs.run (Watched.next program) events { committed := start }
    ∃ turns, (turns.map Turn.call).Perm (events.filterMap Event.begun) ∧
      serial program schema turns start = ⟨state.committed, state.sent,
        state.results ++ state.parties.map fun party => (party.1, none)⟩ := by
  intro state
  have hbegin : Serialised program inv key start
      ({ committed := start } : Watched schema Ask Request Answer Response ε α Call) := by
    refine ⟨hstart, [], [], [], rfl, rfl, Working.of_outside ?_⟩
    intro party hparty
    cases hparty
  have hserialised : Serialised program inv key start state :=
    Runs.run_kept (Serialised program inv key start) (fun event _ h => h.next hlocks event)
      events hbegin
  obtain ⟨turns, sent, more, hserial, hsent, hworking⟩ := hserialised.order
  obtain ⟨rest, hopen⟩ := hworking.aborted sent state.results
  have hall : serial program schema (turns ++ rest) start = ⟨state.committed, state.sent,
      state.results ++ state.parties.map fun party => (party.1, none)⟩ := by
    rw [serial, List.foldl_append, ← serial, hserial, hopen, hsent]
  refine ⟨turns ++ rest, ?_, hall⟩
  have hcalls : (turns ++ rest).map Turn.call = state.calls := by
    have hresults := congrArg (fun outcome => outcome.results.map Prod.fst) hall
    simp only [serial, Outcome.calls_turns] at hresults
    simpa [Watched.calls, Function.comp_def] using hresults
  rw [hcalls]
  exact Watched.calls_run events

end Locks

end InfinityRadius.Interleaving
