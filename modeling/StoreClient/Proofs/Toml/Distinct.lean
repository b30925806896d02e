import StoreClient.Toml.Document

/-!
# Keys of documents

No document defines a key twice: what is read from a text is a table with distinct keys, and so are
the tables right in it, however they are written.

## Main definitions

* `DistinctKeys` — the keys of entries are distinct.
* `Value.Keyed`, `Draft.Keyed` — a value that is a table has distinct keys.
* `Table.Distinct`, `DraftTable.Distinct` — a table has distinct keys, and so have the tables in it.
-/

namespace StoreClient

namespace Text

variable {α : Type} {item : Reader α} {P : α → Prop}

/-- What holds of every item that is read holds of all that are read one after the other. -/
theorem forall_mem_many (h : ∀ cs a rest, item cs = some (a, rest) → P a) (cs : List Char) :
    ∀ a ∈ (many item cs).1, P a := by
  fun_induction many item cs with
  | case1 => simp
  | case2 cs a rest hitem shorter more last hmore ih =>
      rw [hmore] at ih
      rintro b (_ | ⟨_, hb⟩)
      · exact h cs a rest hitem
      · exact ih b hb
  | case3 => simp

end Text

namespace Toml

open Text

/-- The keys of entries are distinct. -/
def DistinctKeys {α : Type} (entries : List (String × α)) : Prop := (entries.map Prod.fst).Nodup

theorem distinctKeys_nil {α : Type} : DistinctKeys ([] : List (String × α)) := List.nodup_nil

/-- A value that is a table has distinct keys. -/
def Value.Keyed : Value → Prop
  | .table entries => DistinctKeys entries
  | _ => True

/-- A table has distinct keys, and so have the tables in it. -/
structure Table.Distinct (t : Table) : Prop where
  /-- The keys of the table itself. -/
  keys : DistinctKeys t
  /-- The keys of the tables in it. -/
  keyed : ∀ e ∈ t, e.2.Keyed

/-! ## Tables under construction -/

/-- What stands under a key has distinct keys if it is a table. -/
def Draft.Keyed : Draft → Prop
  | .value v => v.Keyed
  | .table _ entries => DistinctKeys entries
  | .tables _ => True

namespace DraftTable

/-- An unfinished table has distinct keys, and so have the tables in it. -/
structure Distinct (es : DraftTable) : Prop where
  /-- The keys of the table itself. -/
  keys : DistinctKeys es
  /-- The keys of the tables in it. -/
  keyed : ∀ e ∈ es, e.2.Keyed

theorem distinct_nil : Distinct [] := ⟨distinctKeys_nil, by simp⟩

variable {name : String} {f : Option Draft → Option Draft} {es es' : DraftTable}

/-- A change adds its key behind the others unless it is there. -/
theorem keys_alter (h : alter name f es = some es') :
    es'.map Prod.fst =
      if name ∈ es.map Prod.fst then es.map Prod.fst else es.map Prod.fst ++ [name] := by
  induction es generalizing es' with
  | nil =>
      obtain ⟨d, -, rfl⟩ := Option.map_eq_some_iff.1 h
      rfl
  | cons e es ih =>
      obtain ⟨n, d⟩ := e
      rw [alter] at h
      by_cases hn : n = name
      · rw [if_pos hn] at h
        obtain ⟨d', -, rfl⟩ := Option.map_eq_some_iff.1 h
        simp [hn]
      · rw [if_neg hn] at h
        obtain ⟨rest, hrest, rfl⟩ := Option.map_eq_some_iff.1 h
        have hkeys := ih hrest
        by_cases hmem : name ∈ es.map Prod.fst
        · rw [if_pos hmem] at hkeys
          have hold : name ∈ ((n, d) :: es).map Prod.fst := List.mem_cons_of_mem _ hmem
          rw [if_pos hold]
          simp [hkeys]
        · rw [if_neg hmem] at hkeys
          have hnew : name ∉ ((n, d) :: es).map Prod.fst := by
            rw [List.map_cons, List.mem_cons, not_or]
            exact ⟨fun heq => hn heq.symm, hmem⟩
          rw [if_neg hnew]
          simp [hkeys]

/-- What a change leaves was there before, or the change has put it there. -/
theorem mem_of_alter (h : alter name f es = some es') {e : String × Draft} (he : e ∈ es') :
    e ∈ es ∨ ∃ old, f old = some e.2 ∧ ∀ d, old = some d → (name, d) ∈ es := by
  induction es generalizing es' with
  | nil =>
      obtain ⟨d, hd, rfl⟩ := Option.map_eq_some_iff.1 h
      obtain rfl := List.mem_singleton.1 he
      exact .inr ⟨none, hd, by simp⟩
  | cons first es ih =>
      obtain ⟨n, d⟩ := first
      rw [alter] at h
      by_cases hn : n = name
      · rw [if_pos hn] at h
        obtain ⟨d', hd', rfl⟩ := Option.map_eq_some_iff.1 h
        rcases List.mem_cons.1 he with rfl | he
        · exact .inr ⟨some d, hd', by simp [hn]⟩
        · exact .inl (List.mem_cons_of_mem _ he)
      · rw [if_neg hn] at h
        obtain ⟨rest, hrest, rfl⟩ := Option.map_eq_some_iff.1 h
        rcases List.mem_cons.1 he with rfl | he
        · exact .inl List.mem_cons_self
        · rcases ih hrest he with hold | ⟨old, hf, hold⟩
          · exact .inl (List.mem_cons_of_mem _ hold)
          · exact .inr ⟨old, hf, fun d hd => List.mem_cons_of_mem _ (hold d hd)⟩

theorem distinctKeys_alter (hkeys : DistinctKeys es) (h : alter name f es = some es') :
    DistinctKeys es' := by
  rw [DistinctKeys, keys_alter h]
  split
  next => exact hkeys
  next hnew =>
    refine List.nodup_append.2 ⟨hkeys, by simp, fun n hn other hother => ?_⟩
    obtain rfl := List.mem_singleton.1 hother
    exact fun heq => hnew (heq ▸ hn)

theorem Distinct.alter (hes : Distinct es)
    (hf : ∀ old new, (∀ d, old = some d → d.Keyed) → f old = some new → new.Keyed)
    (h : alter name f es = some es') : Distinct es' := by
  refine ⟨distinctKeys_alter hes.keys h, fun e he => ?_⟩
  rcases mem_of_alter h he with hold | ⟨old, hnew, hold⟩
  · exact hes.keyed e hold
  · exact hf old e.2 (fun d hd => hes.keyed _ (hold d hd)) hnew

/-! ### Values under keys -/

variable {path : List String} {v : Value} {assignments : List (Key × Value)}

theorem distinctKeys_assign (hkeys : DistinctKeys es) (h : assign path name v es = some es') :
    DistinctKeys es' := by
  cases path <;> exact distinctKeys_alter hkeys h

theorem Distinct.assign (hes : Distinct es) (hv : v.Keyed) (h : assign path name v es = some es') :
    Distinct es' := by
  cases path with
  | nil =>
      refine hes.alter (fun old new _ hnew => ?_) h
      split at hnew
      · contradiction
      · obtain rfl := Option.some.inj hnew
        exact hv
  | cons n path =>
      refine hes.alter (fun old new hold hnew => ?_) h
      split at hnew
      · obtain ⟨sub, hsub, rfl⟩ := Option.map_eq_some_iff.1 hnew
        exact distinctKeys_assign distinctKeys_nil hsub
      · split at hnew
        · obtain ⟨sub, hsub, rfl⟩ := Option.map_eq_some_iff.1 hnew
          exact distinctKeys_assign (hold _ rfl) hsub
        · contradiction
      · split at hnew
        · obtain ⟨ts, -, rfl⟩ := Option.map_eq_some_iff.1 hnew
          exact trivial
        · contradiction
      · contradiction

theorem distinctKeys_assignAll (hkeys : DistinctKeys es)
    (h : assignAll es assignments = some es') : DistinctKeys es' := by
  induction assignments generalizing es with
  | nil =>
      obtain rfl := Option.some.inj h
      exact hkeys
  | cons a assignments ih =>
      obtain ⟨next, hnext, hrest⟩ := Option.bind_eq_some_iff.1 h
      exact ih (distinctKeys_assign hkeys hnext) hrest

theorem Distinct.assignAll (hes : Distinct es) (hassignments : ∀ a ∈ assignments, a.2.Keyed)
    (h : assignAll es assignments = some es') : Distinct es' := by
  induction assignments generalizing es with
  | nil =>
      obtain rfl := Option.some.inj h
      exact hes
  | cons a assignments ih =>
      obtain ⟨next, hnext, hrest⟩ := Option.bind_eq_some_iff.1 h
      have hlater : ∀ b ∈ assignments, b.2.Keyed :=
        fun b hb => hassignments b (List.mem_cons_of_mem _ hb)
      exact ih (hes.assign (hassignments a List.mem_cons_self) hnext) hlater hrest

/-! ### Tables under headers -/

/-- A table that is defined takes over what was implied of it, and stands at the end. -/
theorem of_define (h : define name assignments es = some es') :
    ∃ earlier sub, (earlier = [] ∨ (name, .table .implied earlier) ∈ es) ∧
      assignAll earlier assignments = some sub ∧
      es' = es.filter (·.1 ≠ name) ++ [(name, .table .explicit sub)] := by
  have hrest {earlier : DraftTable} (hsub : ((assignAll earlier assignments).bind fun sub =>
      some (es.filter (·.1 ≠ name) ++ [(name, .table .explicit sub)])) = some es') :
      ∃ sub, assignAll earlier assignments = some sub ∧
        es' = es.filter (·.1 ≠ name) ++ [(name, .table .explicit sub)] := by
    obtain ⟨sub, hsub, heq⟩ := Option.bind_eq_some_iff.1 hsub
    exact ⟨sub, hsub, (Option.some.inj heq).symm⟩
  rw [define] at h
  split at h
  · obtain ⟨sub, hsub, heq⟩ := hrest h
    exact ⟨[], sub, .inl rfl, hsub, heq⟩
  next earlier hlookup =>
    obtain ⟨sub, hsub, heq⟩ := hrest h
    obtain ⟨front, back, hsplit, -⟩ := List.lookup_eq_some_iff.1 hlookup
    exact ⟨earlier, sub, .inr (by simp [hsplit]), hsub, heq⟩
  · contradiction

theorem distinctKeys_define (hkeys : DistinctKeys es)
    (h : define name assignments es = some es') : DistinctKeys es' := by
  obtain ⟨earlier, sub, -, -, rfl⟩ := of_define h
  rw [DistinctKeys, List.map_append]
  refine List.nodup_append.2 ⟨hkeys.sublist (List.filter_sublist.map _), by simp, ?_⟩
  simp only [List.mem_map, List.mem_filter, decide_eq_true_eq, List.map_cons, List.map_nil,
    List.mem_singleton]
  rintro _ ⟨e, ⟨-, hne⟩, rfl⟩ _ rfl
  exact hne

theorem Distinct.define (hes : Distinct es) (h : define name assignments es = some es') :
    Distinct es' := by
  refine ⟨distinctKeys_define hes.keys h, fun e he => ?_⟩
  obtain ⟨earlier, sub, hearlier, hsub, rfl⟩ := of_define h
  rcases List.mem_append.1 he with he | he
  · exact hes.keyed e (List.mem_filter.1 he).1
  · obtain rfl := List.mem_singleton.1 he
    rcases hearlier with rfl | hmem
    · exact distinctKeys_assignAll distinctKeys_nil hsub
    · exact distinctKeys_assignAll (hes.keyed _ hmem) hsub

theorem distinctKeys_push (hkeys : DistinctKeys es) (h : push name assignments es = some es') :
    DistinctKeys es' := by
  obtain ⟨sub, -, halter⟩ := Option.bind_eq_some_iff.1 h
  exact distinctKeys_alter hkeys halter

theorem Distinct.push (hes : Distinct es) (h : push name assignments es = some es') :
    Distinct es' := by
  obtain ⟨sub, -, halter⟩ := Option.bind_eq_some_iff.1 h
  refine hes.alter (fun old new _ hnew => ?_) halter
  split at hnew
  · obtain rfl := Option.some.inj hnew
    exact trivial
  · obtain rfl := Option.some.inj hnew
    exact trivial
  · contradiction

section Descend

variable {change : DraftTable → Option DraftTable}

theorem distinctKeys_descend
    (hchange : ∀ es es', DistinctKeys es → change es = some es' → DistinctKeys es')
    (hkeys : DistinctKeys es) (h : descend change path es = some es') : DistinctKeys es' := by
  cases path with
  | nil => exact hchange es es' hkeys h
  | cons n path => exact distinctKeys_alter hkeys h

theorem Distinct.descend
    (hkeys : ∀ es es', DistinctKeys es → change es = some es' → DistinctKeys es')
    (hchange : ∀ es es', Distinct es → change es = some es' → Distinct es')
    (hes : Distinct es) (h : descend change path es = some es') : Distinct es' := by
  cases path with
  | nil => exact hchange es es' hes h
  | cons n path =>
      refine hes.alter (fun old new hold hnew => ?_) h
      split at hnew
      · obtain ⟨sub, hsub, rfl⟩ := Option.map_eq_some_iff.1 hnew
        exact distinctKeys_descend hkeys distinctKeys_nil hsub
      · obtain ⟨sub, hsub, rfl⟩ := Option.map_eq_some_iff.1 hnew
        exact distinctKeys_descend hkeys (hold _ rfl) hsub
      · obtain ⟨ts, -, rfl⟩ := Option.map_eq_some_iff.1 hnew
        exact trivial
      · contradiction

end Descend

end DraftTable

/-! ## Finished tables -/

theorem keys_finishEntries (es : DraftTable) :
    (Draft.finishEntries es).map Prod.fst = es.map Prod.fst := by
  induction es with
  | nil => simp [Draft.finishEntries]
  | cons e es ih => simp [Draft.finishEntries, ih]

theorem DistinctKeys.finishEntries {es : DraftTable} (h : DistinctKeys es) :
    DistinctKeys (Draft.finishEntries es) := by
  rw [DistinctKeys, keys_finishEntries]
  exact h

theorem Draft.Keyed.finish {d : Draft} (h : d.Keyed) : d.finish.Keyed := by
  cases d with
  | value v =>
      rw [Draft.finish]
      exact h
  | table origin es =>
      rw [Draft.finish]
      exact DistinctKeys.finishEntries h
  | tables ts =>
      rw [Draft.finish]
      exact trivial

theorem DraftTable.Distinct.finishEntries {es : DraftTable} (h : es.Distinct) :
    Table.Distinct (Draft.finishEntries es) := by
  refine ⟨h.keys.finishEntries, ?_⟩
  have hkeyed := h.keyed
  clear h
  induction es with
  | nil => simp [Draft.finishEntries]
  | cons e es ih =>
      rw [Draft.finishEntries]
      rintro _ (_ | ⟨_, he⟩)
      · exact (hkeyed e List.mem_cons_self).finish
      · exact ih (fun e he => hkeyed e (List.mem_cons_of_mem _ he)) _ he

/-! ## What is read -/

theorem keyed_of_scalar? {cs rest : List Char} {v : Value} (h : scalar? cs = some (v, rest)) :
    v.Keyed := by
  simp only [scalar?, Option.orElse_eq_orElse, Option.orElse_eq_or, Option.or_eq_some_iff,
    Option.map_eq_some_iff, Prod.mk.injEq] at h
  -- strings, truth values, dates and times, floating-point numbers and integers are no tables
  rcases h with ⟨_, _, rfl, _⟩ | ⟨_, h⟩
  · exact trivial
  rcases h with ⟨_, _, rfl, _⟩ | ⟨_, h⟩
  · exact trivial
  rcases h with ⟨_, _, rfl, _⟩ | ⟨_, h⟩
  · exact trivial
  rcases h with ⟨_, _, rfl, _⟩ | ⟨_, _, _, rfl, _⟩
  · exact trivial
  · exact trivial

theorem keyed_of_entries? {value : Reader Value} {cs rest : List Char} {es : Table}
    (h : entries? value cs = some (es, rest)) : DistinctKeys es := by
  simp only [entries?, Option.bind_eq_bind, Option.pure_def, Option.bind_eq_some_iff,
    Option.some_inj, Prod.mk.injEq] at h
  obtain ⟨_, _, draft, hdraft, rfl, _⟩ := h
  exact (DraftTable.distinctKeys_assignAll distinctKeys_nil hdraft).finishEntries

/-- Every value that is read has distinct keys if it is a table. -/
theorem keyed_of_value? {cs rest : List Char} {v : Value} (h : value? cs = some (v, rest)) :
    v.Keyed := by
  rw [value?, maxDepth] at h
  unfold valueWithin? at h
  split at h
  · simp only [Option.map_eq_some_iff, Prod.mk.injEq] at h
    obtain ⟨_, _, rfl, _⟩ := h
    exact trivial
  · simp only [Option.map_eq_some_iff, Prod.mk.injEq] at h
    obtain ⟨_, hentries, rfl, _⟩ := h
    exact keyed_of_entries? hentries
  · exact keyed_of_scalar? h

/-- The value of a line has distinct keys if it is a table. -/
def Line.Keyed : Line → Prop
  | .assignment _ v => v.Keyed
  | _ => True

theorem keyed_of_content? {cs rest : List Char} {line : Line}
    (h : content? cs = some (line, rest)) : line.Keyed := by
  unfold content? at h
  split at h
  · simp only [Option.map_eq_some_iff, Prod.mk.injEq] at h
    obtain ⟨_, _, rfl, _⟩ := h
    exact trivial
  · simp only [Option.map_eq_some_iff, Prod.mk.injEq] at h
    obtain ⟨_, _, rfl, _⟩ := h
    exact trivial
  · simp only [Option.map_eq_some_iff, Prod.mk.injEq, assignment?, Option.bind_eq_bind,
      Option.pure_def, Option.bind_eq_some_iff, Option.some_inj] at h
    obtain ⟨_, ⟨_, _, _, _, _, hvalue, rfl⟩, rfl, _⟩ := h
    exact keyed_of_value? hvalue

theorem keyed_of_line? (cs : List Char) (line : Line) (rest : List Char)
    (h : line? cs = some (line, rest)) : line.Keyed := by
  simp only [line?] at h
  split at h
  · contradiction
  · split at h
    · simp only [Option.some_inj, Prod.mk.injEq] at h
      obtain ⟨rfl, -⟩ := h
      exact trivial
    · simp only [Option.bind_eq_bind, Option.pure_def, Option.bind_eq_some_iff, Option.some_inj,
        Prod.mk.injEq] at h
      obtain ⟨⟨content, after⟩, hcontent, _, -, rfl, -⟩ := h
      exact keyed_of_content? hcontent

theorem keyed_of_lines? {cs : List Char} {lines : List Line} (h : lines? cs = some lines) :
    ∀ line ∈ lines, line.Keyed := by
  simp only [lines?] at h
  split at h
  · obtain rfl := Option.some.inj h
    exact forall_mem_many keyed_of_line? _
  · contradiction

/-- The values in the sections of a document are those of its lines. -/
theorem keyed_sections {lines : List Line} (h : ∀ line ∈ lines, line.Keyed) :
    (∀ a ∈ (sections lines).1, a.2.Keyed) ∧
      ∀ s ∈ (sections lines).2, ∀ a ∈ s.assignments, a.2.Keyed := by
  induction lines with
  | nil => simp [sections]
  | cons line lines ih =>
      have hline := h line List.mem_cons_self
      obtain ⟨hfirst, hrest⟩ := ih fun line hmem => h line (List.mem_cons_of_mem _ hmem)
      cases line with
      | blank => exact ⟨hfirst, hrest⟩
      | assignment key v =>
          refine ⟨?_, hrest⟩
          rintro a (_ | ⟨_, ha⟩)
          · exact hline
          · exact hfirst a ha
      | table key | element key =>
          refine ⟨by simp [sections], ?_⟩
          rintro s (_ | ⟨_, hs⟩)
          · exact hfirst
          · exact hrest s hs

theorem DraftTable.Distinct.build {s : Section} {es es' : DraftTable} (hes : es.Distinct)
    (h : s.build es = some es') : es'.Distinct := by
  refine hes.descend (fun d d' hd hchange => ?_) (fun d d' hd hchange => ?_) h
  · split at hchange
    · exact distinctKeys_push hd hchange
    · exact distinctKeys_define hd hchange
  · split at hchange
    · exact hd.push hchange
    · exact hd.define hchange

theorem DraftTable.Distinct.buildAll {sections : List Section} {es es' : DraftTable}
    (hes : es.Distinct) (h : sections.foldlM (fun d s => s.build d) es = some es') :
    es'.Distinct := by
  induction sections generalizing es with
  | nil =>
      obtain rfl := Option.some.inj h
      exact hes
  | cons s rest ih =>
      obtain ⟨next, hnext, hrest⟩ := Option.bind_eq_some_iff.1 h
      exact ih (hes.build hnext) hrest

/-- **No key is defined twice.** The table that a text denotes has distinct keys, and so have the
tables in it. -/
theorem distinct_of_document? {text : String} {t : Table} (h : document? text = some t) :
    t.Distinct := by
  obtain ⟨lines, hlines, htable⟩ := Option.bind_eq_some_iff.1 h
  have hkeyed := keyed_of_lines? hlines
  obtain ⟨hfirst, -⟩ := keyed_sections hkeyed
  simp only [tableOfLines?, Option.bind_eq_bind, Option.pure_def, Option.bind_eq_some_iff,
    Option.some_inj] at htable
  obtain ⟨draft, hdraft, whole, hwhole, rfl⟩ := htable
  have hstart := DraftTable.distinct_nil.assignAll hfirst hdraft
  exact (hstart.buildAll hwhole).finishEntries

end Toml

end StoreClient
