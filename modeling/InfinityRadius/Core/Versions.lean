import InfinityRadius.Core.UniqueIndexes
import Mathlib.Data.List.Nodup

/-!
# Versions

A table where a value is never edited: its owner's current version is retired and a new one is
stored.  A unique index allows every owner one version in force, and that alone puts the versions
of concurrent transactions in one order, each following the one it retired.
-/

namespace InfinityRadius.Interleaving

open Database Program Sql

variable {Table : Type} {Row : Table → Type} {schema : Schema Table Row} {t : Table} {α : Type}

/-- How the rows of a table are read as versions of a value. -/
structure Versioning (schema : Schema Table Row) (t : Table) (α : Type) where
  owner : Row t → ℕ
  value : Row t → α
  active : Row t → Bool
  retire : Row t → Row t
  id_retire : ∀ row, schema.id t (retire row) = schema.id t row
  owner_retire : ∀ row, owner (retire row) = owner row
  value_retire : ∀ row, value (retire row) = value row
  active_retire : ∀ row, active (retire row) = false
  exclusive : ∀ {left right}, owner left = owner right → active left = true →
    active right = true → schema.conflict t left right = true

namespace Versioning

variable (v : Versioning schema t α) (rows : List (Row t)) (owner : ℕ)

/-- The versions of an owner, oldest first. -/
def history : List (Row t) := rows.filter fun row => v.owner row == owner

def values : List α := (v.history rows owner).map v.value

/-- What of a version is never changed. -/
def labels : List (ℕ × α) := (v.history rows owner).map fun row => (schema.id t row, v.value row)

/-- The last version of every owner is in force, and no other. -/
def InOrder : Prop :=
  ∀ owner, (∀ row ∈ (v.history rows owner).dropLast, v.active row = false) ∧
    ∀ row ∈ (v.history rows owner).getLast?, v.active row = true

variable {v rows owner} {row new : Row t} {change : Row t → Row t}

theorem mem_history : row ∈ v.history rows owner ↔ row ∈ rows ∧ v.owner row = owner := by
  simp [history]

theorem map_snd_labels : (v.labels rows owner).map Prod.snd = v.values rows owner := by
  rw [labels, values, List.map_map]
  rfl

/-- A version keeps its label as long as its row is there. -/
theorem exists_of_mem_labels {label : ℕ × α} (h : label ∈ v.labels rows owner) :
    ∃ row ∈ rows, v.owner row = owner ∧ (schema.id t row, v.value row) = label := by
  obtain ⟨row, hrow, hlabel⟩ := List.mem_map.mp h
  obtain ⟨hmem, howner⟩ := mem_history.mp hrow
  exact ⟨row, hmem, howner, hlabel⟩

theorem mem_labels (hrow : row ∈ rows) :
    (schema.id t row, v.value row) ∈ v.labels rows (v.owner row) :=
  List.mem_map_of_mem (mem_history.mpr ⟨hrow, rfl⟩)

/-! ## A new version -/

/-- The rows of an owner are changed in nothing but whether they are in force. -/
structure Retires (v : Versioning schema t α) (owner : ℕ) (rows : List (Row t))
    (change : Row t → Row t) : Prop where
  sameId : ∀ row, schema.id t (change row) = schema.id t row
  sameOwner : ∀ row, v.owner (change row) = v.owner row
  sameValue : ∀ row, v.value (change row) = v.value row
  others : ∀ row ∈ rows, v.owner row ≠ owner → change row = row

theorem Retires.history_append (h : v.Retires owner rows change) (other : ℕ) :
    v.history (rows.map change ++ [new]) other =
      (v.history rows other).map change ++ if v.owner new = other then [new] else [] := by
  have hsame : (fun row => v.owner row == other) ∘ change = fun row => v.owner row == other := by
    funext row
    rw [Function.comp_apply, h.sameOwner]
  have hlast : [new].filter (fun row => v.owner row == other) =
      if v.owner new = other then [new] else [] := by
    by_cases hnew : v.owner new = other
    · simp [hnew]
    · simp [hnew]
  rw [history, List.filter_append, List.filter_map, hsame, hlast, history]

theorem Retires.labels_append (h : v.Retires owner rows change) (other : ℕ) :
    v.labels (rows.map change ++ [new]) other = v.labels rows other ++
      if v.owner new = other then [(schema.id t new, v.value new)] else [] := by
  rw [labels, h.history_append, List.map_append, List.map_map, labels]
  congr 1
  · apply List.map_congr_left
    intro row _
    rw [Function.comp_apply, h.sameId, h.sameValue]
  · split
    · rfl
    · rfl

/-- Where no two rows clash, the new version is the only one in force. -/
theorem Retires.inactive (h : v.Retires owner rows change)
    (hapart : (rows.map change ++ [new]).Pairwise (schema.Apart t))
    (howner : v.owner new = owner) (hactive : v.active new = true) :
    ∀ row ∈ v.history rows owner, v.active (change row) = false := by
  intro row hrow
  obtain ⟨hmem, hrow⟩ := mem_history.mp hrow
  obtain ⟨-, -, hacross⟩ := List.pairwise_append.mp hapart
  have hclear := (hacross (change row) (List.mem_map_of_mem hmem) new
    (List.mem_singleton_self _)).2
  apply Bool.eq_false_iff.mpr
  intro hchanged
  have hclash : schema.conflict t (change row) new = true := by
    apply v.exclusive _ hchanged hactive
    rw [h.sameOwner, hrow, howner]
  rw [hclear] at hclash
  cases hclash

theorem Retires.inOrder (h : v.Retires owner rows change) (horder : v.InOrder rows)
    (hapart : (rows.map change ++ [new]).Pairwise (schema.Apart t))
    (howner : v.owner new = owner) (hactive : v.active new = true) :
    v.InOrder (rows.map change ++ [new]) := by
  intro other
  rw [h.history_append]
  by_cases hother : v.owner new = other
  · rw [if_pos hother, List.dropLast_concat, List.getLast?_concat]
    constructor
    · intro row hrow
      obtain ⟨old, hold, rfl⟩ := List.mem_map.mp hrow
      rw [← hother, howner] at hold
      exact h.inactive hapart howner hactive old hold
    · rintro row hrow
      rw [← Option.some.inj hrow]
      exact hactive
  · have hsame : (v.history rows other).map change = v.history rows other := by
      conv_rhs => rw [← List.map_id (v.history rows other)]
      apply List.map_congr_left
      intro row hrow
      obtain ⟨hmem, hrow⟩ := mem_history.mp hrow
      apply h.others row hmem
      rw [hrow, ← howner]
      exact fun heq => hother heq.symm
    rw [if_neg hother, List.append_nil, hsame]
    exact horder other

/-- The version in force before is one that was changed. -/
theorem Retires.changed (h : v.Retires owner rows change) (horder : v.InOrder rows)
    (hapart : (rows.map change ++ [new]).Pairwise (schema.Apart t))
    (howner : v.owner new = owner) (hactive : v.active new = true) (last : Row t)
    (hlast : last ∈ (v.history rows owner).getLast?) : change last ≠ last := by
  intro hsame
  have hinactive := h.inactive hapart howner hactive last (List.mem_of_getLast? hlast)
  rw [hsame, (horder owner).2 last hlast] at hinactive
  cases hinactive

/-! ## A transaction under way -/

variable {retired added : Option (Row t)} {own own' : Own Row} {committed later : Tables Row}
  {old : Row t}

/-- A new key is the key of no committed row, replaced or not. -/
theorem fresh_of_overlay {written : Tables Row} {id : ℕ}
    (h : ∀ row ∈ overlay schema committed written t, schema.id t row ≠ id) :
    ∀ old ∈ committed t, schema.id t old ≠ id := by
  rw [overlay] at h
  generalize committed t = rows at h ⊢
  generalize written t = writes at h
  induction writes generalizing rows with
  | nil => exact h
  | cons first rest ih =>
    intro old hold hid
    have hstored := ih _ h
    by_cases hfirst : schema.id t old = schema.id t first
    · exact hstored first (mem_storeRow.mpr (Or.inl rfl)) (hfirst.symm.trans hid)
    · exact hstored old (mem_storeRow.mpr (Or.inr ⟨hold, hfirst⟩)) hid

/-- What a transaction has written of the versions of an owner: the version it retired, and the
one it stored. -/
structure Draft (v : Versioning schema t α) (owner : ℕ) (retired added : Option (Row t))
    (own : Own Row) (committed : Tables Row) : Prop where
  written : own.written t = (retired.map v.retire).toList ++ added.toList
  retired : ∀ row ∈ retired, row ∈ committed t ∧ v.owner row = owner ∧
    (t, schema.id t row) ∈ own.locked
  added : ∀ row ∈ added, v.owner row = owner ∧ v.active row = true ∧
    (t, schema.id t row) ∈ own.locked ∧ ∀ old ∈ committed t, schema.id t old ≠ schema.id t row

theorem Draft.stable (h : v.Draft owner retired added own committed)
    (hsame : ∀ key ∈ own.locked, key.1 = t → SameAt schema committed later key) :
    v.Draft owner retired added own later where
  written := h.written
  retired row hrow := by
    obtain ⟨hmem, howner, hlocked⟩ := h.retired row hrow
    exact ⟨(hsame _ hlocked rfl).mem.mpr hmem, howner, hlocked⟩
  added row hrow := by
    obtain ⟨howner, hactive, hlocked, hfresh⟩ := h.added row hrow
    exact ⟨howner, hactive, hlocked, (hsame _ hlocked rfl).fresh hfresh⟩

theorem Draft.of_own (h : v.Draft owner retired added own committed)
    (hwritten : own'.written t = own.written t) (hlocked : own.locked ⊆ own'.locked) :
    v.Draft owner retired added own' committed where
  written := hwritten.trans h.written
  retired row hrow := by
    obtain ⟨hmem, howner, hkey⟩ := h.retired row hrow
    exact ⟨hmem, howner, hlocked hkey⟩
  added row hrow := by
    obtain ⟨howner, hactive, hkey, hfresh⟩ := h.added row hrow
    exact ⟨howner, hactive, hlocked hkey, hfresh⟩

theorem draft_of_unwritten (h : own.written t = []) : v.Draft owner none none own committed where
  written := h
  retired _ hrow := by cases hrow
  added _ hrow := by cases hrow

/-- The version with the key is retired. -/
def retiring (v : Versioning schema t α) (retired : Option (Row t)) (row : Row t) : Row t :=
  if retired.map (schema.id t) = some (schema.id t row) then v.retire row else row

theorem Draft.retires (h : v.Draft owner retired added own committed)
    (hkeys : ((committed t).map (schema.id t)).Nodup) :
    v.Retires owner (committed t) (v.retiring retired) where
  sameId row := by
    unfold retiring
    split
    · exact v.id_retire row
    · rfl
  sameOwner row := by
    unfold retiring
    split
    · exact v.owner_retire row
    · rfl
  sameValue row := by
    unfold retiring
    split
    · exact v.value_retire row
    · rfl
  others row hrow hother := by
    apply if_neg
    intro hkey
    cases retired with
    | none => cases hkey
    | some old =>
      obtain ⟨hold, howner, -⟩ := h.retired old rfl
      have heq : old = row :=
        List.inj_on_of_nodup_map hkeys hold hrow (Option.some.inj hkey)
      rw [heq] at howner
      exact hother howner

theorem Draft.overlay_eq (h : v.Draft owner retired (some new) own committed)
    (hkeys : ((committed t).map (schema.id t)).Nodup) :
    overlay schema committed own.written t =
      (committed t).map (v.retiring retired) ++ [new] := by
  obtain ⟨-, -, -, hfresh⟩ := h.added new rfl
  have hretired : (retired.map v.retire).toList.foldl
      (fun rows row => storeRow schema t row rows) (committed t) =
        (committed t).map (v.retiring retired) := by
    cases retired with
    | none =>
      have hsame : v.retiring none = id := by
        funext row
        exact if_neg (by simp)
      rw [hsame, List.map_id]
      rfl
    | some old =>
      obtain ⟨hold, -, -⟩ := h.retired old rfl
      rw [Option.map_some, Option.toList_some, List.foldl_cons, List.foldl_nil,
        storeRow_of_mem hold (v.id_retire old).symm, replaceRow]
      apply List.map_congr_left
      intro row hrow
      rw [v.id_retire, retiring, Option.map_some]
      by_cases hid : schema.id t row = schema.id t old
      · have heq : row = old := List.inj_on_of_nodup_map hkeys hrow hold hid
        rw [if_pos hid, if_pos (by rw [hid]), heq]
      · rw [if_neg hid, if_neg fun heq => hid (Option.some.inj heq).symm]
  have hnew : ∀ row ∈ (committed t).map (v.retiring retired),
      schema.id t row ≠ schema.id t new := by
    intro row hrow
    obtain ⟨old, hold, rfl⟩ := List.mem_map.mp hrow
    rw [(h.retires hkeys).sameId]
    exact hfresh old hold
  rw [overlay, h.written, List.foldl_append, hretired]
  exact storeRow_of_fresh hnew

/-- The versions once the transaction is committed: the new one follows the one it retired. -/
theorem Draft.commit (h : v.Draft owner retired (some new) own committed)
    (horder : v.InOrder (committed t)) (hkeys : ((committed t).map (schema.id t)).Nodup)
    (hadmitted : own.Admitted schema t committed) :
    v.InOrder (overlay schema committed own.written t) ∧
      (∀ other, v.labels (overlay schema committed own.written t) other =
        v.labels (committed t) other ++
          if owner = other then [(schema.id t new, v.value new)] else []) ∧
        (v.history (committed t) owner).getLast? = retired := by
  have hretires := h.retires hkeys
  have hapart := hadmitted.visible
  obtain ⟨howner, hactive, -, -⟩ := h.added new rfl
  rw [h.overlay_eq hkeys] at hapart ⊢
  refine ⟨hretires.inOrder horder hapart howner hactive, fun other => ?_, ?_⟩
  · rw [hretires.labels_append, howner]
  · cases hlast : (v.history (committed t) owner).getLast? with
    | none =>
      cases retired with
      | none => rfl
      | some old =>
        obtain ⟨hold, howner, -⟩ := h.retired old rfl
        have hmem : old ∈ v.history (committed t) owner := mem_history.mpr ⟨hold, howner⟩
        rw [List.getLast?_eq_none_iff.mp hlast] at hmem
        cases hmem
    | some last =>
      have hchanged := hretires.changed horder hapart howner hactive last hlast
      have hkey : retired.map (schema.id t) = some (schema.id t last) := by
        by_contra hkey
        exact hchanged (if_neg hkey)
      cases retired with
      | none => cases hkey
      | some old =>
        obtain ⟨hold, -, -⟩ := h.retired old rfl
        obtain ⟨hmem, -⟩ := mem_history.mp (List.mem_of_getLast? hlast)
        have heq : old = last :=
          List.inj_on_of_nodup_map hkeys hold hmem (Option.some.inj hkey)
        rw [heq]

/-- The same where the transaction may have left the versions alone. -/
theorem Draft.commit_whole (h : v.Draft owner retired added own committed)
    (hwhole : added = none → retired = none) (horder : v.InOrder (committed t))
    (hkeys : ((committed t).map (schema.id t)).Nodup)
    (hadmitted : own.Admitted schema t committed) :
    v.InOrder (overlay schema committed own.written t) ∧
      (∀ other, v.labels (overlay schema committed own.written t) other =
        v.labels (committed t) other ++ if owner = other then
          added.toList.map fun row => (schema.id t row, v.value row) else []) ∧
        (added.isSome = true → (v.history (committed t) owner).getLast? = retired) := by
  cases added with
  | none =>
    have hwritten := h.written
    rw [hwhole rfl] at hwritten
    rw [overlay_of_unwritten hwritten]
    refine ⟨horder, fun other => ?_, fun hsome => ?_⟩
    · simp
    · cases hsome
  | some new =>
    obtain ⟨horder', hlabels, hlast⟩ := h.commit horder hkeys hadmitted
    exact ⟨horder', hlabels, fun _ => hlast⟩

/-! ## Statements on versions -/

variable {Ask Request : Type} {Answer : Ask → Type} {Response ε : Type}
  {discipline : Discipline Row} {P : Own Row → Tables Row → Prop} {row : Row t}

/-- The label of the row, which may be read from an earlier object, is that of a committed row. -/
def Known (v : Versioning schema t α) (committed : Tables Row) (row : Row t) : Prop :=
  (schema.id t row, v.value row) ∈ v.labels (committed t) (v.owner row)

/-- Whoever keeps the discipline keeps every label, and every row somebody holds. -/
structure TrackedBy (v : Versioning schema t α) (discipline : Discipline Row) : Prop where
  keys : ∀ tables, discipline.inv tables → ((tables t).map (schema.id t)).Nodup
  same : ∀ {locked before after}, discipline.rely locked before after →
    ∀ key ∈ locked, key.1 = t → SameAt schema before after key
  labels : ∀ {locked before after}, discipline.rely locked before after →
    ∀ owner, v.labels (before t) owner <+: v.labels (after t) owner

theorem Known.stable (h : v.Known committed row) (htracked : v.TrackedBy discipline)
    {locked : List (Key Table)} (hrely : discipline.rely locked committed later) :
    v.Known later row :=
  (htracked.labels hrely _).subset h

/-- An object has the label of the row it stands for. -/
theorem known_object (hkeys : ((committed t).map (schema.id t)).Nodup)
    (hloaded : ∀ row ∈ own.loaded t, v.Known committed row) (hrow : row ∈ committed t) :
    v.Known committed (own.object schema t row) ∧
      v.owner (own.object schema t row) = v.owner row := by
  unfold Own.object
  cases hfind : (own.loaded t).find? fun old => schema.id t old == schema.id t row with
  | none => exact ⟨mem_labels hrow, rfl⟩
  | some old =>
    have hid : schema.id t old = schema.id t row := by simpa using List.find?_some hfind
    have hknown := hloaded old (List.mem_of_find?_eq_some hfind)
    obtain ⟨stored, hstored, howner, hlabel⟩ := exists_of_mem_labels hknown
    have heq : stored = row :=
      List.inj_on_of_nodup_map hkeys hstored hrow ((Prod.mk.inj hlabel).1.trans hid)
    rw [heq] at howner
    exact ⟨hknown, howner.symm⟩

variable [DecidableEq Table]

theorem Draft.retire (h : v.Draft owner none none own committed) (hold : old ∈ committed t)
    (howner : v.owner old = owner) :
    v.Draft owner (some old) none (own.write schema t (v.retire old)) committed where
  written := by
    rw [Own.written_write, h.written]
    exact storeRow_nil
  retired row hrow := by
    obtain rfl := Option.some.inj hrow
    refine ⟨hold, howner, List.mem_append_right _ ?_⟩
    rw [List.mem_singleton, v.id_retire]
  added _ hrow := by cases hrow

theorem Draft.store (h : v.Draft owner retired none own committed)
    (hfresh : ∀ row ∈ overlay schema committed own.written t, schema.id t row ≠ schema.id t new)
    (howner : v.owner new = owner) (hactive : v.active new = true) :
    v.Draft owner retired (some new) (own.write schema t new) committed where
  written := by
    rw [Own.written_write, h.written]
    have hretired : ∀ row ∈ (retired.map v.retire).toList, schema.id t row ≠ schema.id t new := by
      intro row hrow
      cases retired with
      | none => cases hrow
      | some old =>
        obtain rfl := List.mem_singleton.mp hrow
        obtain ⟨hmem, -, -⟩ := h.retired old rfl
        rw [v.id_retire]
        exact fresh_of_overlay hfresh old hmem
    rw [Option.toList_none, List.append_nil]
    exact storeRow_of_fresh hretired
  retired row hrow := by
    obtain ⟨hmem, howner, hkey⟩ := h.retired row hrow
    exact ⟨hmem, howner, List.mem_append_left _ hkey⟩
  added row hrow := by
    obtain rfl := Option.some.inj hrow
    exact ⟨howner, hactive, List.mem_append_right _ (List.mem_singleton_self _),
      fresh_of_overlay hfresh⟩

/-- A version is retired, whatever has become of it since it was read. -/
theorem Draft.ensures_retire (h : v.Draft owner none none own committed) (hP : P own committed)
    (htracked : v.TrackedBy discipline)
    (hstable : ∀ {own before after}, P own before → discipline.rely own.locked before after →
      P own after)
    (hwrite : ∀ {own later} row, P own later → P (own.write schema t row) later)
    {current : Row t} (hcurrent : v.Known committed current) (howner : v.owner current = owner) :
    Ensures schema discipline (fun stored own' later => stored = none ∨
        ∃ old, v.value old = v.value current ∧ v.Draft owner (some old) none own' later ∧
          P own' later)
      (Prog.issue (.update t (schema.id t current) v.retire) :
        Prog (Stmt Table Row Ask Request) (Reply Answer Response) ε _) own committed := by
  intro later hrely hinv held draw keys stored own' hreply
  have hlater := h.stable (htracked.same hrely)
  rcases Own.reply_update hreply with ⟨rfl, -⟩ | ⟨old, hold, hid, -, rfl, rfl⟩
  · exact fun _ _ _ => Or.inl rfl
  · rw [overlay_of_unwritten hlater.written] at hold
    obtain ⟨row, hrow, hrowner, hlabel⟩ := exists_of_mem_labels (hcurrent.stable htracked hrely)
    obtain ⟨hrid, hvalue⟩ := Prod.mk.inj hlabel
    obtain rfl : row = old :=
      List.inj_on_of_nodup_map (htracked.keys later hinv) hrow hold (hrid.trans hid.symm)
    have hdraft := hlater.retire hold (hrowner.trans howner)
    intro last hlast _
    exact Or.inr ⟨row, hvalue, hdraft.stable (htracked.same hlast),
      hstable (hwrite _ (hstable hP hrely)) hlast⟩

/-- A new version is stored. -/
theorem Draft.ensures_store (h : v.Draft owner retired none own committed) (hP : P own committed)
    (htracked : v.TrackedBy discipline)
    (hstable : ∀ {own before after}, P own before → discipline.rely own.locked before after →
      P own after)
    (hwrite : ∀ {own later} row, P own later → P (own.write schema t row) later)
    {build : ℕ → Row t} (howner : ∀ id, v.owner (build id) = owner)
    (hactive : ∀ id, v.active (build id) = true) :
    Ensures schema discipline (fun stored own' later => stored = none ∨
        ∃ id, v.Draft owner retired (some (build id)) own' later ∧ P own' later)
      (Prog.issue (.insert t build) : Prog (Stmt Table Row Ask Request) (Reply Answer Response)
        ε _) own committed := by
  intro later hrely _ held draw keys stored own' hreply
  have hlater := h.stable (htracked.same hrely)
  simp only [Own.reply] at hreply
  split at hreply
  · rename_i hfresh
    obtain ⟨hid, hfresh⟩ := hfresh
    rcases Own.tryWrite_eq_some hreply with ⟨rfl, -⟩ | ⟨rfl, rfl, -, -⟩
    · exact fun _ _ _ => Or.inl rfl
    · have hdraft := hlater.store (fun row hrow => by rw [hid]; exact hfresh row hrow)
        (howner draw.id) (hactive draw.id)
      intro last hlast _
      exact Or.inr ⟨draw.id, hdraft.stable (htracked.same hlast),
        hstable (hwrite _ (hstable hP hrely)) hlast⟩
  · cases hreply

end Versioning

end InfinityRadius.Interleaving
