import InfinityRadius.Core.Endings

/-!
# Unique indexes

A write is refused by a row that is visible and clashes with it, and waits for one that is not
committed.  So no order in which transactions end brings two rows together that clash, and a
transaction may go by its unique indexes where it locked nothing.
-/

namespace InfinityRadius.Interleaving

open Database Program Sql

variable {Table : Type} {Row : Table → Type} {Ask Request : Type} {Answer : Ask → Type}
  {Response ε α : Type} {schema : Schema Table Row} {t : Table} {row other : Row t}
  {rows : List (Row t)} {committed written : Tables Row}

/-! ## Rows written over rows -/

theorem pairwise_apart_iff : rows.Pairwise (schema.Apart t) ↔
    (rows.map (schema.id t)).Nodup ∧ ∀ row ∈ rows, ∀ other ∈ rows,
      schema.id t row ≠ schema.id t other → schema.conflict t row other = false := by
  constructor
  · intro h
    constructor
    · rw [List.Nodup, List.pairwise_map]
      exact h.imp And.left
    · intro row hrow other hother hne
      have : Std.Symm (schema.Apart t) := ⟨fun _ _ hapart => hapart.symm⟩
      have hapart := h.forall hrow hother (ne_of_apply_ne _ hne)
      exact hapart.2
  · rintro ⟨hnodup, hclear⟩
    rw [List.Nodup, List.pairwise_map] at hnodup
    apply hnodup.imp_of_mem
    intro row other hrow hother hne
    exact ⟨hne, hclear row hrow other hother hne⟩

theorem filter_key_of_mem (h : (rows.map (schema.id t)).Nodup) (hrow : row ∈ rows) :
    (rows.filter fun other => schema.id t other == schema.id t row) = [row] := by
  induction rows with
  | nil => cases hrow
  | cons first rest ih =>
    rw [List.map_cons, List.nodup_cons] at h
    rcases List.mem_cons.mp hrow with rfl | hrest
    · have hrest : rest.filter (fun other => schema.id t other == schema.id t row) = [] := by
        apply List.filter_eq_nil_iff.mpr
        intro other hother
        rw [beq_iff_eq]
        exact fun heq => h.1 (List.mem_map.mpr ⟨other, hother, heq⟩)
      simp [hrest]
    · rw [List.filter_cons_of_neg, ih h.2 hrest]
      rw [beq_iff_eq]
      exact fun heq => h.1 (List.mem_map.mpr ⟨row, hrest, heq.symm⟩)

theorem nodup_storeRow (h : (rows.map (schema.id t)).Nodup) :
    ((storeRow schema t row rows).map (schema.id t)).Nodup := by
  by_cases hstored : ∃ old ∈ rows, schema.id t old = schema.id t row
  · obtain ⟨old, hold, hid⟩ := hstored
    have hkeys : (storeRow schema t row rows).map (schema.id t) = rows.map (schema.id t) := by
      rw [storeRow_of_mem hold hid, replaceRow, List.map_map]
      apply List.map_congr_left
      intro other _
      rw [Function.comp_apply]
      split
      · rename_i heq
        exact heq.symm
      · rfl
    rw [hkeys]
    exact h
  · have hfresh : ∀ old ∈ rows, schema.id t old ≠ schema.id t row :=
      fun old hold hid => hstored ⟨old, hold, hid⟩
    rw [storeRow_of_fresh hfresh, List.map_append, List.map_singleton]
    apply List.nodup_append.mpr
    refine ⟨h, List.pairwise_singleton _ _, fun key hkey key' hkey' => ?_⟩
    obtain ⟨old, hold, rfl⟩ := List.mem_map.mp hkey
    rw [List.mem_singleton.mp hkey']
    exact hfresh old hold

theorem nodup_overlay (h : ((committed t).map (schema.id t)).Nodup) :
    ((overlay schema committed written t).map (schema.id t)).Nodup := by
  rw [overlay]
  generalize committed t = rows at h ⊢
  generalize written t = writes
  induction writes generalizing rows with
  | nil => exact h
  | cons first rest ih => exact ih _ (nodup_storeRow h)

/-- What is visible is what was written, and what is committed of the rest. -/
theorem mem_overlay_iff (h : ((written t).map (schema.id t)).Nodup) :
    row ∈ overlay schema committed written t ↔ row ∈ written t ∨
      row ∈ committed t ∧ ∀ other ∈ written t, schema.id t row ≠ schema.id t other := by
  rw [overlay]
  generalize committed t = rows
  generalize written t = writes at h ⊢
  induction writes generalizing rows with
  | nil => simp
  | cons first rest ih =>
    rw [List.map_cons, List.nodup_cons] at h
    have hfirst : ∀ other ∈ rest, schema.id t first ≠ schema.id t other :=
      fun other hother heq => h.1 (List.mem_map.mpr ⟨other, hother, heq.symm⟩)
    rw [List.foldl_cons, ih _ h.2, mem_storeRow, List.forall_mem_cons, List.mem_cons]
    constructor
    · rintro (hrest | ⟨rfl | ⟨hrow, hne⟩, hothers⟩)
      · exact Or.inl (Or.inr hrest)
      · exact Or.inl (Or.inl rfl)
      · exact Or.inr ⟨hrow, hne, hothers⟩
    · rintro ((rfl | hrest) | ⟨hrow, hne, hothers⟩)
      · exact Or.inr ⟨Or.inl rfl, hfirst⟩
      · exact Or.inl hrest
      · exact Or.inr ⟨Or.inr ⟨hrow, hne⟩, hothers⟩

/-- Written over rows that stand apart, rows that stand apart from each other and from those
they do not replace. -/
theorem apart_overlay (hcommitted : (committed t).Pairwise (schema.Apart t))
    (hwritten : (written t).Pairwise (schema.Apart t))
    (hbetween : ∀ row ∈ written t, ∀ other ∈ committed t,
      (∀ own ∈ written t, schema.id t other ≠ schema.id t own) →
        schema.conflict t row other = false) :
    (overlay schema committed written t).Pairwise (schema.Apart t) := by
  obtain ⟨hkeys, hclear⟩ := pairwise_apart_iff.mp hcommitted
  obtain ⟨hkeys', hclear'⟩ := pairwise_apart_iff.mp hwritten
  apply pairwise_apart_iff.mpr
  refine ⟨nodup_overlay hkeys, fun row hrow other hother hne => ?_⟩
  rcases (mem_overlay_iff hkeys').mp hrow with hrow | ⟨hrow, hkept⟩
  · rcases (mem_overlay_iff hkeys').mp hother with hother | ⟨hother, hkept'⟩
    · exact hclear' row hrow other hother hne
    · exact hbetween row hrow other hother hkept'
  · rcases (mem_overlay_iff hkeys').mp hother with hother | ⟨hother, -⟩
    · rw [schema.conflict_comm]
      exact hbetween other hother row hrow hkept
    · exact hclear row hrow other hother hne

/-! ## What one transaction wrote -/

variable {own own' : Own Row}

/-- The transaction holds every row it wrote of the table, and sees no two rows that clash. -/
structure Own.Admitted (schema : Schema Table Row) (t : Table) (committed : Tables Row)
    (own : Own Row) : Prop where
  locked : ∀ row ∈ own.written t, (t, schema.id t row) ∈ own.locked
  written : (own.written t).Pairwise (schema.Apart t)
  visible : (overlay schema committed own.written t).Pairwise (schema.Apart t)

theorem Own.Admitted.of_written (h : own.Admitted schema t committed)
    (hwritten : own'.written t = own.written t) (hlocked : own.locked ⊆ own'.locked) :
    own'.Admitted schema t committed where
  locked row hrow := hlocked (h.locked row (hwritten ▸ hrow))
  written := by
    rw [hwritten]
    exact h.written
  visible := by
    have hvisible := h.visible
    rw [overlay] at hvisible ⊢
    rwa [hwritten]

/-- Others that wrote apart from the transaction have committed. -/
theorem Own.Admitted.after (h : own.Admitted schema t committed)
    (hcommitted : (overlay schema committed written t).Pairwise (schema.Apart t))
    (hkeys : ((written t).map (schema.id t)).Nodup)
    (hbetween : ∀ row ∈ own.written t, ∀ other ∈ written t, schema.Apart t row other) :
    own.Admitted schema t (overlay schema committed written) where
  locked := h.locked
  written := h.written
  visible := by
    apply apart_overlay hcommitted h.written
    intro row hrow other hother hkept
    rcases (mem_overlay_iff hkeys).mp hother with hother | ⟨hother, -⟩
    · exact (hbetween row hrow other hother).2
    · obtain ⟨hkeys', -⟩ := pairwise_apart_iff.mp h.written
      have hclear := (pairwise_apart_iff.mp h.visible).2
      apply hclear row ((mem_overlay_iff hkeys').mpr (Or.inl hrow)) other
        ((mem_overlay_iff hkeys').mpr (Or.inr ⟨hother, hkept⟩))
      exact (hkept row hrow).symm

theorem Own.Admitted.congr {committed' : Tables Row} (h : own.Admitted schema t committed)
    (hsame : committed' t = committed t) : own.Admitted schema t committed' where
  locked := h.locked
  written := h.written
  visible := by
    rw [overlay, hsame]
    exact h.visible

theorem Own.admitted_empty (h : (committed t).Pairwise (schema.Apart t)) :
    ({} : Own Row).Admitted schema t committed where
  locked _ hrow := by cases hrow
  written := List.Pairwise.nil
  visible := h

variable [DecidableEq Table] {held : Held Row} {draw : Draw Ask Answer Response}
  {keys : List (Key Table)}

/-- The row clashes with nothing the transaction sees, and with nothing others hold. -/
structure Own.Fits (schema : Schema Table Row) (committed : Tables Row) (held : Held Row)
    (own : Own Row) (row : Row t) : Prop where
  visible : ∀ other ∈ overlay schema committed own.written t,
    schema.id t other ≠ schema.id t row → schema.conflict t other row = false
  free : held.busy (t, schema.id t row) = false
  pending : ∀ other ∈ held.pending t, schema.conflict t other row = false

theorem Own.loaded_write :
    (own.write schema t row).loaded t = storeRow schema t row (own.loaded t) :=
  Function.update_self _ _ _

omit [DecidableEq Table] in
theorem Own.object_of_loaded {old : Row t} (h : own.loaded t = [old])
    (hid : schema.id t old = schema.id t row) : own.object schema t row = old := by
  simp [Own.object, h, hid]

/-- A statement gives up no lock. -/
theorem Own.locked_subset {s : Stmt Table Row Ask Request} {reply : Reply Answer Response s}
    (h : own.reply schema committed held draw keys s = some (reply, own')) :
    own.locked ⊆ own'.locked := by
  cases s with
  | insert t build =>
    simp only [Own.reply] at h
    split at h
    · rcases Own.tryWrite_eq_some h with ⟨-, rfl⟩ | ⟨-, rfl, -, -⟩
      · exact List.Subset.refl _
      · exact List.subset_append_left _ _
    · cases h
  | update t id write =>
    rcases Own.reply_update h with ⟨-, rfl⟩ | ⟨old, -, -, -, -, rfl⟩
    · exact List.Subset.refl _
    · exact List.subset_append_left _ _
  | selectForUpdate t p =>
    obtain ⟨-, rfl⟩ := Prod.mk.inj (Option.some.inj h)
    exact List.subset_append_left _ _
  | _ =>
    obtain ⟨-, rfl⟩ := Prod.mk.inj (Option.some.inj h)
    exact List.Subset.refl _

/-- Objects are of rows a statement read, unless it wrote them. -/
theorem Own.mem_loaded_reply {s : Stmt Table Row Ask Request}
    {reply : Reply Answer Response s} (hs : (sparing t).Allows s)
    (h : own.reply schema committed held draw keys s = some (reply, own'))
    (hrow : row ∈ own'.loaded t) :
    row ∈ own.loaded t ∨ row ∈ overlay schema committed own.written t := by
  have hload : ∀ {t' : Table} {rows : List (Row t')},
      rows ⊆ overlay schema committed own.written t' →
        row ∈ Function.update own.loaded t' (own.loaded t' ++ rows) t →
          row ∈ own.loaded t ∨ row ∈ overlay schema committed own.written t := by
    intro t' rows hsub hrow
    by_cases ht : t = t'
    · subst ht
      rw [Function.update_self] at hrow
      rcases List.mem_append.mp hrow with hrow | hrow
      · exact Or.inl hrow
      · exact Or.inr (hsub hrow)
    · rw [Function.update_of_ne ht] at hrow
      exact Or.inl hrow
  have hwrite : ∀ {t' : Table} {new : Row t'}, t' ≠ t →
      row ∈ (own.write schema t' new).loaded t → row ∈ own.loaded t := by
    intro t' new ht hrow
    have hsame : (own.write schema t' new).loaded t = own.loaded t :=
      Function.update_of_ne ht.symm _ _
    rwa [hsame] at hrow
  cases s with
  | select t' p =>
    obtain ⟨-, rfl⟩ := Prod.mk.inj (Option.some.inj h)
    exact hload (List.filter_subset_self _) hrow
  | selectForUpdate t' p =>
    obtain ⟨-, rfl⟩ := Prod.mk.inj (Option.some.inj h)
    exact hload (List.filter_subset_self _) hrow
  | insert t' build =>
    simp only [Own.reply] at h
    split at h
    · rcases Own.tryWrite_eq_some h with ⟨-, rfl⟩ | ⟨-, rfl, -, -⟩
      · exact Or.inl hrow
      · exact Or.inl (hwrite (hs 0) hrow)
    · cases h
  | update t' id write =>
    rcases Own.reply_update h with ⟨-, rfl⟩ | ⟨old, -, -, -, -, rfl⟩
    · exact Or.inl hrow
    · exact Or.inl (hwrite hs hrow)
  | _ =>
    obtain ⟨-, rfl⟩ := Prod.mk.inj (Option.some.inj h)
    exact Or.inl hrow

theorem Own.tryWrite_fits {stored : Option (Row t)}
    (h : own.tryWrite schema committed held t row = some (stored, own')) :
    own' = own ∨ own' = own.write schema t row ∧ own.Fits schema committed held row := by
  unfold Own.tryWrite at h
  simp only at h
  split at h
  · obtain ⟨-, rfl⟩ := Prod.mk.inj (Option.some.inj h)
    exact Or.inl rfl
  · rename_i hadmitted
    split at h
    · cases h
    · rename_i hfree
      obtain ⟨-, rfl⟩ := Prod.mk.inj (Option.some.inj h)
      rw [not_or] at hadmitted hfree
      refine Or.inr ⟨rfl, fun other hother hne => ?_, ?_, fun other hother => ?_⟩
      · exact Bool.eq_false_iff.mpr fun hclash => hadmitted.2 ⟨other, hother, hne, hclash⟩
      · exact Bool.eq_false_iff.mpr hfree.1
      · exact Bool.eq_false_iff.mpr fun hclash => hfree.2 ⟨other, hother, hclash⟩

/-- A statement leaves the table to the transaction as it was, or writes a row of it that fits. -/
theorem Own.reply_fits {s : Stmt Table Row Ask Request} {reply : Reply Answer Response s}
    (h : own.reply schema committed held draw keys s = some (reply, own')) (t : Table) :
    own'.written t = own.written t ∧ own.locked ⊆ own'.locked ∨
      ∃ row : Row t, own' = own.write schema t row ∧ own.Fits schema committed held row := by
  have hwrite : ∀ {t' : Table} {row : Row t'} {stored : Option (Row t')},
      own.tryWrite schema committed held t' row = some (stored, own') →
        own'.written t = own.written t ∧ own.locked ⊆ own'.locked ∨
          ∃ row : Row t, own' = own.write schema t row ∧ own.Fits schema committed held row := by
    intro t' row stored h
    rcases Own.tryWrite_fits h with rfl | ⟨rfl, hfits⟩
    · exact Or.inl ⟨rfl, List.Subset.refl _⟩
    · by_cases ht : t = t'
      · subst ht
        exact Or.inr ⟨row, rfl, hfits⟩
      · exact Or.inl ⟨Own.written_write_of_ne ht, List.subset_append_left _ _⟩
  cases s with
  | select t' p =>
    obtain ⟨-, rfl⟩ := Prod.mk.inj (Option.some.inj h)
    exact Or.inl ⟨rfl, List.Subset.refl _⟩
  | selectForUpdate t' p =>
    obtain ⟨-, rfl⟩ := Prod.mk.inj (Option.some.inj h)
    exact Or.inl ⟨rfl, List.subset_append_left _ _⟩
  | scan t' p =>
    obtain ⟨-, rfl⟩ := Prod.mk.inj (Option.some.inj h)
    exact Or.inl ⟨rfl, List.Subset.refl _⟩
  | insert t' build =>
    simp only [Own.reply] at h
    split at h
    · exact hwrite h
    · cases h
  | update t' id write =>
    simp only [Own.reply] at h
    split at h
    · obtain ⟨-, rfl⟩ := Prod.mk.inj (Option.some.inj h)
      exact Or.inl ⟨rfl, List.Subset.refl _⟩
    · split at h
      · exact hwrite h
      · obtain ⟨-, rfl⟩ := Prod.mk.inj (Option.some.inj h)
        exact Or.inl ⟨rfl, List.Subset.refl _⟩
  | ask question =>
    obtain ⟨-, rfl⟩ := Prod.mk.inj (Option.some.inj h)
    exact Or.inl ⟨rfl, List.Subset.refl _⟩
  | send request =>
    obtain ⟨-, rfl⟩ := Prod.mk.inj (Option.some.inj h)
    exact Or.inl ⟨rfl, List.Subset.refl _⟩

theorem Own.Admitted.write (h : own.Admitted schema t committed)
    (hcommitted : (committed t).Pairwise (schema.Apart t))
    (hfits : own.Fits schema committed held row) :
    (own.write schema t row).Admitted schema t committed := by
  obtain ⟨hkeys, hclear⟩ := pairwise_apart_iff.mp h.written
  have hvisible : ∀ other, other ∈ overlay schema committed own.written t ↔ _ :=
    fun other => mem_overlay_iff hkeys
  have hwritten : ((own.write schema t row).written t).Pairwise (schema.Apart t) := by
    rw [Own.written_write]
    apply pairwise_apart_iff.mpr
    refine ⟨nodup_storeRow hkeys, fun left hleft right hright hne => ?_⟩
    rcases mem_storeRow.mp hleft with hnew | ⟨hleft, -⟩
    · rcases mem_storeRow.mp hright with hnew' | ⟨hright, hright'⟩
      · rw [hnew, hnew'] at hne
        exact absurd rfl hne
      · rw [schema.conflict_comm, hnew]
        exact hfits.visible right ((hvisible right).mpr (Or.inl hright)) hright'
    · rcases mem_storeRow.mp hright with hnew | ⟨hright, -⟩
      · rw [hnew] at hne ⊢
        exact hfits.visible left ((hvisible left).mpr (Or.inl hleft)) hne
      · exact hclear left hleft right hright hne
  refine ⟨fun other hother => ?_, hwritten, apart_overlay hcommitted hwritten ?_⟩
  · rw [Own.written_write] at hother
    rcases mem_storeRow.mp hother with rfl | ⟨hother, -⟩
    · exact List.mem_append_right _ (List.mem_singleton_self _)
    · exact List.mem_append_left _ (h.locked other hother)
  · intro left hleft right hright hkept
    rw [Own.written_write] at hleft hkept
    have hne : schema.id t right ≠ schema.id t row :=
      hkept row (mem_storeRow.mpr (Or.inl rfl))
    -- what the transaction did not write it sees as it is committed
    have hseen : right ∈ overlay schema committed own.written t := by
      refine (hvisible right).mpr (Or.inr ⟨hright, fun other hother heq => ?_⟩)
      apply hkept other (mem_storeRow.mpr (Or.inr ⟨hother, ?_⟩)) heq
      rwa [← heq]
    rcases mem_storeRow.mp hleft with rfl | ⟨hleft, -⟩
    · rw [schema.conflict_comm]
      exact hfits.visible right hseen hne
    · have hclear' := (pairwise_apart_iff.mp h.visible).2
      apply hclear' left ((hvisible left).mpr (Or.inl hleft)) right hseen
      intro heq
      by_cases hleft' : schema.id t left = schema.id t row
      · exact hne (heq.symm.trans hleft')
      · exact hkept left (mem_storeRow.mpr (Or.inr ⟨hleft, hleft'⟩)) heq.symm

/-! ## Every interleaving -/

variable {session : Session schema Ask Request Answer Response ε α}
  {system : System schema Ask Request Answer Response ε α}

/-- No two rows of the table clash, whether they are committed or not. -/
structure System.Admitted (t : Table) (system : System schema Ask Request Answer Response ε α) :
    Prop where
  committed : (system.committed t).Pairwise (schema.Apart t)
  own : ∀ session ∈ system.sessions, session.own.Admitted schema t system.committed
  between : system.sessions.Pairwise fun left right =>
    ∀ row ∈ left.own.written t, ∀ other ∈ right.own.written t, schema.Apart t row other

theorem Session.admitted_advance (held : Held Row) (draw : Draw Ask Answer Response)
    (h : session.own.Admitted schema t committed)
    (hcommitted : (committed t).Pairwise (schema.Apart t)) :
    (session.advance committed held draw).own.Admitted schema t committed ∧
      ∀ row ∈ (session.advance committed held draw).own.written t,
        row ∈ session.own.written t ∨ held.busy (t, schema.id t row) = false ∧
          ∀ other ∈ held.pending t, schema.conflict t other row = false := by
  unfold Session.advance
  split
  · exact ⟨h, fun _ => Or.inl⟩
  · split
    · exact ⟨h, fun _ => Or.inl⟩
    · split
      · exact ⟨h, fun _ => Or.inl⟩
      · exact ⟨h, fun _ => Or.inl⟩
    · split
      · exact ⟨h, fun _ => Or.inl⟩
      · rename_i reply own' hreply
        rcases Own.reply_fits hreply t with ⟨hwritten, hlocked⟩ | ⟨row, rfl, hfits⟩
        · refine ⟨h.of_written hwritten hlocked, fun row hrow => Or.inl ?_⟩
          rw [← hwritten]
          exact hrow
        · refine ⟨h.write hcommitted hfits, fun other hother => ?_⟩
          rw [Own.written_write] at hother
          rcases mem_storeRow.mp hother with rfl | ⟨hother, -⟩
          · exact Or.inr ⟨hfits.free, hfits.pending⟩
          · exact Or.inl hother

theorem System.Admitted.advance (h : system.Admitted t)
    {before after : List (Session schema Ask Request Answer Response ε α)}
    (hsessions : system.sessions = before ++ session :: after) :
    System.Admitted t { system with
      sessions := before ++ session.advance system.committed
        (Session.others (before ++ after)) draw :: after } := by
  have hbetween := h.between
  have hown := h.own
  rw [hsessions] at hbetween hown
  have hsession : session.own.Admitted schema t system.committed :=
    hown session (List.mem_append_right _ List.mem_cons_self)
  have hadvance :=
    Session.admitted_advance (Session.others (before ++ after)) draw hsession h.committed
  -- a new row is apart from whatever the others hold
  have happart : ∀ other ∈ before ++ after,
      (∀ row ∈ session.own.written t, ∀ row' ∈ other.own.written t, schema.Apart t row row') →
        ∀ row ∈ (session.advance system.committed (Session.others (before ++ after))
          draw).own.written t, ∀ row' ∈ other.own.written t, schema.Apart t row row' := by
    intro other hother hold row hrow row' hrow'
    rcases hadvance.2 row hrow with hrow | ⟨hfree, hclear⟩
    · exact hold row hrow row' hrow'
    · have hmem : other ∈ before ++ session :: after := by
        rcases List.mem_append.mp hother with hother | hother
        · exact List.mem_append_left _ hother
        · exact List.mem_append_right _ (List.mem_cons_of_mem _ hother)
      have hlocked := (hown other hmem).locked row' hrow'
      refine ⟨fun heq => ?_, ?_⟩
      · rw [heq] at hfree
        exact Session.busy_others hfree hother (List.mem_append_left _ hlocked)
      · rw [schema.conflict_comm]
        exact hclear row' (List.mem_flatMap.mpr ⟨other, hother, hrow'⟩)
  constructor
  · exact h.committed
  · intro other hother
    rcases List.mem_append.mp hother with hother | hother
    · exact hown other (List.mem_append_left _ hother)
    · rcases List.mem_cons.mp hother with rfl | hother
      · exact hadvance.1
      · exact hown other (List.mem_append_right _ (List.mem_cons_of_mem _ hother))
  · obtain ⟨hbefore, hrest, hacross⟩ := List.pairwise_append.mp hbetween
    obtain ⟨hafter, hpairwise⟩ := List.pairwise_cons.mp hrest
    apply List.pairwise_append.mpr
    refine ⟨hbefore, List.pairwise_cons.mpr ⟨fun other hother => ?_, hpairwise⟩,
      fun other hother next hnext => ?_⟩
    · exact happart other (List.mem_append_right _ hother) (hafter other hother)
    · rcases List.mem_cons.mp hnext with rfl | hnext
      · intro row hrow row' hrow'
        have hold := hacross other hother session List.mem_cons_self
        apply Schema.Apart.symm
        apply happart other (List.mem_append_left _ hother) _ row' hrow' row hrow
        exact fun left hleft right hright => (hold right hright left hleft).symm
      · exact hacross other hother next (List.mem_cons_of_mem _ hnext)

omit [DecidableEq Table] in
/-- A transaction ends, and what it wrote is committed. -/
theorem System.Admitted.finish (h : system.Admitted t)
    {before after : List (Session schema Ask Request Answer Response ε α)}
    (hsessions : system.sessions = before ++ session :: after) :
    System.Admitted t ⟨session.commit system.committed, before ++ after⟩ := by
  have hbetween := h.between
  have hown := h.own
  rw [hsessions] at hbetween hown
  obtain ⟨hbefore, hrest, hacross⟩ := List.pairwise_append.mp hbetween
  obtain ⟨hafter, hpairwise⟩ := List.pairwise_cons.mp hrest
  have hothers : (before ++ after).Pairwise fun left right =>
      ∀ row ∈ left.own.written t, ∀ other ∈ right.own.written t, schema.Apart t row other :=
    List.pairwise_append.mpr ⟨hbefore, hpairwise, fun other hother next hnext =>
      hacross other hother next (List.mem_cons_of_mem _ hnext)⟩
  have hmem : ∀ other ∈ before ++ after, other.own.Admitted schema t system.committed := by
    intro other hother
    rcases List.mem_append.mp hother with hother | hother
    · exact hown other (List.mem_append_left _ hother)
    · exact hown other (List.mem_append_right _ (List.mem_cons_of_mem _ hother))
  have hsession : session.own.Admitted schema t system.committed :=
    hown session (List.mem_append_right _ List.mem_cons_self)
  unfold Session.commit
  split
  · refine ⟨hsession.visible, fun other hother => ?_, hothers⟩
    apply (hmem other hother).after hsession.visible (pairwise_apart_iff.mp hsession.written).1
    rcases List.mem_append.mp hother with hother | hother
    · exact hacross other hother session List.mem_cons_self
    · exact fun row hrow row' hrow' => (hafter other hother row' hrow' row hrow).symm
  · exact ⟨h.committed, hmem, hothers⟩

variable {Call : Type}
  {program : Call → Prog (Stmt Table Row Ask Request) (Reply Answer Response) ε α}
  {shared : Table → Bool}

/-- Whatever the programs are, no two rows come together that clash. -/
theorem System.Admitted.next (h : system.Admitted t) (ht : shared t = false)
    (event : Event Row Ask Answer Response Call) :
    (system.next program shared event).Admitted t := by
  cases event with
  | call c =>
    refine ⟨h.committed, fun session hsession => ?_, ?_⟩
    · rcases List.mem_append.mp hsession with hsession | hsession
      · exact h.own session hsession
      · rw [List.mem_singleton.mp hsession]
        exact Own.admitted_empty h.committed
    · apply List.pairwise_append.mpr
      refine ⟨h.between, List.pairwise_singleton _ _, fun other _ session hsession => ?_⟩
      rw [List.mem_singleton.mp hsession]
      intro _ _ row hrow
      cases hrow
  | advance index draw =>
    simp only [System.next]
    split
    · exact h
    · rename_i session after hdrop
      apply h.advance
      rw [← hdrop, List.take_append_drop]
  | finish index =>
    simp only [System.next]
    split
    · exact h
    · rename_i session after hdrop
      split
      · apply h.finish
        rw [← hdrop, List.take_append_drop]
      · exact h
  | abort index =>
    have hsublist := List.eraseIdx_sublist system.sessions index
    exact ⟨h.committed, fun session hsession => h.own session (hsublist.subset hsession),
      h.between.sublist hsublist⟩
  | elsewhere t' rows =>
    simp only [System.next]
    split
    · rename_i hshared
      have hne : t ≠ t' := by
        rintro rfl
        rw [ht] at hshared
        cases hshared
      have hsame : Function.update system.committed t' rows t = system.committed t :=
        Function.update_of_ne hne _ _
      refine ⟨?_, fun session hsession => (h.own session hsession).congr hsame, h.between⟩
      show (Function.update system.committed t' rows t).Pairwise (schema.Apart t)
      rw [hsame]
      exact h.committed
    · exact h

/-! ## Transactions that go by their unique indexes -/

/-- Nothing is relied on, so that every program keeps it. -/
def free : Discipline Row where
  inv _ := True
  rely _ _ _ := True
  refl _ _ := trivial
  trans _ _ := trivial
  mono _ _ := trivial

theorem keeps_free : Keeps schema free program shared where
  call c committed _ := by
    generalize program c = x
    generalize ({} : Own Row) = own
    induction x generalizing own committed with
    | done result =>
      cases result with
      | ok a => exact fun _ _ _ => ⟨trivial, fun _ _ => trivial⟩
      | error e => trivial
    | step s next ih => exact fun later _ _ held draw keys reply own' _ => ih reply later trivial own'
  elsewhere _ _ _ _ _ := ⟨trivial, fun _ => trivial⟩

variable {discipline : Discipline Row}

/-- What others leave alone and every statement keeps holds where the program returns. -/
theorem Ensures.kept {P : Own Row → Tables Row → Prop} {Q : Stmt Table Row Ask Request → Prop}
    {x : Prog (Stmt Table Row Ask Request) (Reply Answer Response) ε α}
    (hstable : ∀ {own before after}, P own before → discipline.rely own.locked before after →
      P own after)
    (hreply : ∀ {own own' committed held draw keys} {s : Stmt Table Row Ask Request}
      {reply : Reply Answer Response s}, Q s → discipline.inv committed → P own committed →
        own.reply schema committed held draw keys s = some (reply, own') → P own' committed)
    (hall : x.All Q) (h : P own committed) :
    Ensures schema discipline (fun _ own' later => P own' later) x own committed := by
  induction x generalizing own committed with
  | done result =>
    cases result with
    | ok a => exact fun later hrely _ => hstable h hrely
    | error e => trivial
  | step s next ih =>
    intro later hrely hinv held draw keys reply own' hstep
    exact ih reply (hall.2 reply) (hreply hall.1 hinv (hstable h hrely) hstep)

theorem Ensures.required {condition : Prop} [Decidable condition] {failure : ε}
    {f : Unit → Prog (Stmt Table Row Ask Request) (Reply Answer Response) ε α}
    {returns : α → Own Row → Tables Row → Prop}
    (h : condition → Ensures schema discipline returns (f ()) own committed) :
    Ensures schema discipline returns (Prog.require condition failure >>= f) own committed := by
  by_cases hcondition : condition
  · rw [Prog.require_true hcondition]
    exact h hcondition
  · rw [Prog.require_false hcondition]
    trivial

/-- What the programs return with and the rest of the world keeps: a transaction may be committed
where no two rows clash in the tables that only the programs write. -/
structure KeepsIndexed (schema : Schema Table Row) (discipline : Discipline Row)
    (returns : α → Own Row → Tables Row → Prop)
    (program : Call → Prog (Stmt Table Row Ask Request) (Reply Answer Response) ε α)
    (shared : Table → Bool) : Prop where
  call : ∀ c committed, discipline.inv committed →
    Ensures schema discipline returns (program c) {} committed
  commits : ∀ a own committed, discipline.inv committed → returns a own committed →
    (∀ t, shared t = false → own.Admitted schema t committed) →
      Commits schema discipline own committed
  elsewhere : ∀ t rows committed, shared t = true → discipline.inv committed →
    discipline.inv (Function.update committed t rows) ∧
      ∀ locked, discipline.rely locked committed (Function.update committed t rows)

variable {returns : α → Own Row → Tables Row → Prop}

/-- Between events: the committed rows are in order, no rows clash, and every session returns as
its program does. -/
structure System.Indexed (discipline : Discipline Row)
    (returns : α → Own Row → Tables Row → Prop) (shared : Table → Bool)
    (system : System schema Ask Request Answer Response ε α) : Prop where
  inv : discipline.inv system.committed
  ensures : ∀ session ∈ system.sessions,
    Ensures schema discipline returns session.program session.own system.committed
  admitted : ∀ t, shared t = false → system.Admitted t
  held : system.Kept free

/-- A session that returned did so as its program does, and none of its rows clash. -/
theorem System.Indexed.returned (h : system.Indexed discipline returns shared)
    (hsession : session ∈ system.sessions) {a : α} (hprogram : session.program = .done (.ok a)) :
    returns a session.own system.committed ∧
      ∀ t, shared t = false → session.own.Admitted schema t system.committed := by
  have hensures := h.ensures session hsession
  rw [hprogram] at hensures
  exact ⟨hensures system.committed (discipline.refl _ _) h.inv,
    fun t ht => (h.admitted t ht).own session hsession⟩

/-- The transaction of a session that returned may be committed. -/
theorem System.Indexed.commits (h : system.Indexed discipline returns shared)
    (hkeeps : KeepsIndexed schema discipline returns program shared)
    (hsession : session ∈ system.sessions) {a : α} (hprogram : session.program = .done (.ok a)) :
    Commits schema discipline session.own system.committed := by
  obtain ⟨hreturns, hadmitted⟩ := h.returned hsession hprogram
  exact hkeeps.commits a session.own system.committed h.inv hreturns hadmitted

theorem System.Indexed.finish (h : system.Indexed discipline returns shared)
    (hkeeps : KeepsIndexed schema discipline returns program shared)
    {before after : List (Session schema Ask Request Answer Response ε α)}
    (hsessions : system.sessions = before ++ session :: after) :
    discipline.inv (session.commit system.committed) ∧ ∀ other ∈ before ++ after,
      discipline.rely other.own.locked system.committed (session.commit system.committed) := by
  have hmem : session ∈ system.sessions := by
    rw [hsessions]
    exact List.mem_append_right _ List.mem_cons_self
  unfold Session.commit
  split
  · rename_i a hprogram
    obtain ⟨hinv, hrely⟩ := h.commits hkeeps hmem hprogram
    have hdisjoint := h.held.disjoint
    rw [hsessions] at hdisjoint
    obtain ⟨-, hrest, hacross⟩ := List.pairwise_append.mp hdisjoint
    obtain ⟨hafter, -⟩ := List.pairwise_cons.mp hrest
    refine ⟨hinv, fun other hother => hrely _ fun key hkey hkey' => ?_⟩
    rcases List.mem_append.mp hother with hother | hother
    · exact hacross other hother session List.mem_cons_self
        (List.mem_append_left _ hkey) (List.mem_append_left _ hkey')
    · exact hafter other hother (List.mem_append_left _ hkey') (List.mem_append_left _ hkey)
  · exact ⟨h.inv, fun _ _ => discipline.refl _ _⟩

theorem System.Indexed.next (hkeeps : KeepsIndexed schema discipline returns program shared)
    (h : system.Indexed discipline returns shared) (event : Event Row Ask Answer Response Call) :
    (system.next program shared event).Indexed discipline returns shared := by
  have hadmitted : ∀ t, shared t = false → (system.next program shared event).Admitted t :=
    fun t ht => (h.admitted t ht).next ht event
  have hheld : (system.next program shared event).Kept free := h.held.next keeps_free event
  suffices hnext : discipline.inv (system.next program shared event).committed ∧
      ∀ session ∈ (system.next program shared event).sessions,
        Ensures schema discipline returns session.program session.own
          (system.next program shared event).committed from
    ⟨hnext.1, hnext.2, hadmitted, hheld⟩
  clear hadmitted hheld
  cases event with
  | call c =>
    refine ⟨h.inv, fun session hsession => ?_⟩
    rcases List.mem_append.mp hsession with hsession | hsession
    · exact h.ensures session hsession
    · rw [List.mem_singleton.mp hsession]
      exact hkeeps.call c _ h.inv
  | advance index draw =>
    simp only [System.next]
    split
    · exact ⟨h.inv, h.ensures⟩
    · rename_i session after hdrop
      have hsessions : system.sessions = system.sessions.take index ++ session :: after := by
        rw [← hdrop, List.take_append_drop]
      have hensures := h.ensures
      rw [hsessions] at hensures
      refine ⟨h.inv, fun other hother => ?_⟩
      rcases List.mem_append.mp hother with hother | hother
      · exact hensures other (List.mem_append_left _ hother)
      · rcases List.mem_cons.mp hother with rfl | hother
        · exact Session.ensures_advance h.inv
            (hensures session (List.mem_append_right _ List.mem_cons_self))
        · exact hensures other (List.mem_append_right _ (List.mem_cons_of_mem _ hother))
  | finish index =>
    simp only [System.next]
    split
    · exact ⟨h.inv, h.ensures⟩
    · rename_i session after hdrop
      split
      · have hsessions : system.sessions = system.sessions.take index ++ session :: after := by
          rw [← hdrop, List.take_append_drop]
        obtain ⟨hinv, hrely⟩ := h.finish hkeeps hsessions
        refine ⟨hinv, fun other hother => (h.ensures other ?_).stable (hrely other hother)⟩
        rw [hsessions]
        exact ((List.sublist_cons_self _ _).append_left _).subset hother
      · exact ⟨h.inv, h.ensures⟩
  | abort index =>
    exact ⟨h.inv, fun session hsession =>
      h.ensures session ((List.eraseIdx_sublist _ _).subset hsession)⟩
  | elsewhere t rows =>
    simp only [System.next]
    split
    · rename_i hshared
      obtain ⟨hinv, hrely⟩ := hkeeps.elsewhere t rows system.committed hshared h.inv
      exact ⟨hinv, fun session hsession =>
        (h.ensures session hsession).stable (hrely session.own.locked)⟩
    · exact ⟨h.inv, h.ensures⟩

/-- Whatever happens next, anyone may rely on it, locks or not. -/
theorem System.Indexed.rely_next (hkeeps : KeepsIndexed schema discipline returns program shared)
    (h : system.Indexed discipline returns shared) (event : Event Row Ask Answer Response Call) :
    discipline.rely [] system.committed (system.next program shared event).committed := by
  have hcommitted : (system.next program shared event).committed = system.committed ∨ _ :=
    system.committed_next event
  rcases hcommitted with
    hsame | ⟨index, session, a, -, hsession, hprogram, hcommit⟩ | ⟨t, rows, -, ht, hcommit⟩
  · rw [hsame]
    exact discipline.refl _ _
  · rw [hcommit]
    exact (h.commits hkeeps (List.mem_of_getElem? hsession) hprogram).2 [] (List.disjoint_nil_left _)
  · rw [hcommit]
    exact (hkeeps.elsewhere t rows system.committed ht h.inv).2 []

/-- The system before anyone opens a session. -/
theorem System.indexed_start (hinv : discipline.inv committed)
    (hcommitted : ∀ t, shared t = false → (committed t).Pairwise (schema.Apart t)) :
    System.Indexed discipline returns shared
      (⟨committed, []⟩ : System schema Ask Request Answer Response ε α) where
  inv := hinv
  ensures _ hsession := by cases hsession
  admitted t ht := ⟨hcommitted t ht, by simp, by simp⟩
  held := ⟨trivial, by simp, by simp⟩

/-! ## What is committed, one transaction after another -/

omit [DecidableEq Table] in
/-- What the program returned, if it did. -/
def Session.value (session : Session schema Ask Request Answer Response ε α) : Option α :=
  match session.program with
  | .done (.ok a) => some a
  | _ => none

/-- What the transaction returned that is committed next. -/
def System.returned (event : Event Row Ask Answer Response Call)
    (system : System schema Ask Request Answer Response ε α) : Option α :=
  match event with
  | .finish index => system.sessions[index]?.bind Session.value
  | _ => none

/-- What the transactions of a run returned, in the order they were committed. -/
def System.values (program : Call → Prog (Stmt Table Row Ask Request) (Reply Answer Response) ε α)
    (shared : Table → Bool) : List (Event Row Ask Answer Response Call) →
      System schema Ask Request Answer Response ε α → List α
  | [], _ => []
  | event :: events, system =>
    (system.returned event).toList ++
      System.values program shared events (system.next program shared event)

/-- What every program returns with is so of what is committed along a run. -/
theorem System.Indexed.values_run {P : α → Prop}
    (hkeeps : KeepsIndexed schema discipline returns program shared)
    (hreturns : ∀ a own committed, returns a own committed → P a)
    (events : List (Event Row Ask Answer Response Call))
    (h : system.Indexed discipline returns shared) :
    ∀ a ∈ System.values program shared events system, P a := by
  induction events generalizing system with
  | nil => simp [System.values]
  | cons event events ih =>
    intro a ha
    rcases List.mem_append.mp ha with hevent | hrest
    · cases event with
      | finish index =>
        rw [Option.mem_toList] at hevent
        obtain ⟨session, hsession, hvalue⟩ := Option.bind_eq_some_iff.mp hevent
        cases hprogram : session.program with
        | step s next => simp [Session.value, hprogram] at hvalue
        | done result =>
          cases result with
          | error e => simp [Session.value, hprogram] at hvalue
          | ok b =>
            have hreturned := h.returned (List.mem_of_getElem? hsession) hprogram
            rw [Session.value, hprogram] at hvalue
            rw [← Option.some.inj hvalue]
            exact hreturns b session.own system.committed hreturned.1
      | _ => simp [System.returned] at hevent
    · exact ih (h.next hkeeps event) a hrest

section View

variable {V : Type} {view : Tables Row → V} {land : V → α → V}

/-- The view of the tables that only what the programs return bears on. -/
theorem System.Indexed.view_next (h : system.Indexed discipline returns shared)
    (hland : ∀ a own committed, discipline.inv committed → returns a own committed →
      (∀ t, shared t = false → own.Admitted schema t committed) →
        view (overlay schema committed own.written) = land (view committed) a)
    (helsewhere : ∀ t rows committed, shared t = true →
      view (Function.update committed t rows) = view committed)
    (event : Event Row Ask Answer Response Call) :
    view (system.next program shared event).committed =
      (system.returned event).toList.foldl land (view system.committed) := by
  cases event with
  | call c => rfl
  | advance index draw =>
    simp only [System.next]
    split
    · rfl
    · rfl
  | finish index =>
    simp only [System.next, System.returned]
    split
    · rename_i hdrop
      have hnone : system.sessions[index]? = none := by
        rw [← List.head?_drop, hdrop, List.head?_nil]
      rw [hnone]
      rfl
    · rename_i session after hdrop
      have hsession : system.sessions[index]? = some session := by
        rw [← List.head?_drop, hdrop, List.head?_cons]
      have hmem : session ∈ system.sessions := List.mem_of_getElem? hsession
      rw [hsession, Option.bind_some]
      cases hprogram : session.program with
      | step s next => simp [Session.ended, Session.value, hprogram]
      | done result =>
        cases result with
        | error e => simp [Session.ended, Session.commit, Session.value, hprogram]
        | ok a =>
          obtain ⟨hreturns, hadmitted⟩ := h.returned hmem hprogram
          simp only [Session.ended, Session.commit, Session.value, hprogram, if_true]
          exact hland a session.own system.committed h.inv hreturns hadmitted
  | abort index => rfl
  | elsewhere t rows =>
    simp only [System.next]
    split
    · rename_i hshared
      exact helsewhere t rows system.committed hshared
    · rfl

/-- However the transactions meet, the view is what they returned does to it, one transaction
after another. -/
theorem System.Indexed.view_run
    (hkeeps : KeepsIndexed schema discipline returns program shared)
    (hland : ∀ a own committed, discipline.inv committed → returns a own committed →
      (∀ t, shared t = false → own.Admitted schema t committed) →
        view (overlay schema committed own.written) = land (view committed) a)
    (helsewhere : ∀ t rows committed, shared t = true →
      view (Function.update committed t rows) = view committed)
    (events : List (Event Row Ask Answer Response Call))
    (h : system.Indexed discipline returns shared) :
    view (Runs.run (System.next program shared) events system).committed =
      (System.values program shared events system).foldl land (view system.committed) := by
  induction events generalizing system with
  | nil => rfl
  | cons event events ih =>
    rw [Runs.run_cons, ih (h.next hkeeps event), h.view_next hland helsewhere event,
      System.values, List.foldl_append]

end View

end InfinityRadius.Interleaving
