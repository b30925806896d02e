import Mathlib
import StoreClient.Config.Loading
import StoreClient.Proofs.Config.Settings
import StoreClient.Proofs.Toml.Distinct

/-!
# Documents setting by setting

Decoding a document takes what it holds for settings in the order in which it stands there, and does
nothing else. It ends with the first value that its setting does not accept; if there is none, every
setting is what the document holds for it, or keeps its default. So entries of other names do not
count, and the order counts only for which of several unusable values is reported.

## Main definitions

* `Setting.find?` — what a document holds for a setting.
* `Toml.Table.Plain` — the sections of a document are tables, and a log format is none.
* `Toml.Table.settings`, `Toml.Table.faults` — what a document holds for settings, and the reports
  of what is not accepted, in its order.
* `Toml.Permuted`, `Toml.Extended` — documents that differ by order or by other names alone.
-/

namespace StoreClient

namespace Setting

/-- What a document holds for a setting, if its section is a table. -/
def find? (document : Toml.Table) (k : Setting) : Option Toml.Value :=
  match document.lookup k.sectionName with
  | some (.table entries) => entries.lookup k.key
  | _ => none

end Setting

namespace Toml

/-- The settings that the entries of a section hold. -/
def entrySettings (name : String) (entries : Table) : List (Setting × Value) :=
  entries.filterMap fun (key, v) => (Setting.ofNames? name key).map (·, v)

/-- The settings that an entry of a document holds. -/
def sectionSettings : String × Value → List (Setting × Value)
  | (name, .table entries) => entrySettings name entries
  | _ => []

/-- What a document holds for settings, in its order. -/
def Table.settings (document : Table) : List (Setting × Value) := document.flatMap sectionSettings

/-- The report of a value, if its setting does not accept it. -/
def fault? : Setting × Value → Option DecodeError
  | (k, v) => if k.kind.Accepts v then none else some (k.kind.error v)

/-- The reports of the values of a document that are not accepted, in its order. -/
def Table.faults (document : Table) : List DecodeError := document.settings.filterMap fault?

/-- An entry of a document is a table if it is a section. -/
def IsTable (e : String × Value) : Prop :=
  (∃ k : Setting, k.sectionName = e.1) → ∃ entries, e.2 = .table entries

/-- The sections of a document are tables, and a log format is none. -/
structure Table.Plain (document : Table) : Prop where
  /-- The sections. -/
  sections : ∀ e ∈ document, IsTable e
  /-- The log format. -/
  format : ∀ t, Setting.logFormat.find? document ≠ some (.table t)

end Toml

/-! ## One setting after the other -/

namespace Config

open Toml

/-- The entries of a section may as well stand in tables of their own. -/
theorem setSection_table (name : String) (c : Config) (entries : Table) :
    setSection c name (.table entries) =
      entries.foldlM (fun c e => setSection c name (.table [e])) c := by
  by_cases htoken : name = "token_cache"
  · subst htoken
    exact tokenCache_sectionAt.setSection_eq_foldlM c entries
  by_cases hretry : name = "occ_retry"
  · subst hretry
    exact occRetry_sectionAt.setSection_eq_foldlM c entries
  by_cases hobservability : name = "observability"
  · subst hobservability
    exact observability_sectionAt.setSection_eq_foldlM c entries
  have hunknown (k : Setting) : k.sectionName ≠ name := by
    intro heq
    have hname := k.sectionName_mem
    simp [heq, htoken, hretry, hobservability] at hname
  have hskip (c : Config) (v : Value) : setSection c name v = pure c :=
    Setting.setSection_of_unknown_section hunknown c v
  rw [hskip]
  simp only [hskip]
  induction entries with
  | nil => rfl
  | cons e entries ih => exact ih

/-- A section takes its settings one by one. -/
theorem setSection_eq_foldlM (name : String) (c : Config) (entries : Table) :
    setSection c name (.table entries) =
      (entrySettings name entries).foldlM (fun c e => Setting.put c e.1 e.2) c := by
  rw [setSection_table, entrySettings, List.foldlM_filterMap]
  congr 1
  funext c e
  obtain ⟨key, v⟩ := e
  cases hnames : Setting.ofNames? name key with
  | none =>
      simp only [hnames, Option.map_none]
      exact Setting.setSection_of_unknown (Setting.ofNames?_eq_none_iff.1 hnames) c v
  | some k =>
      simp only [hnames, Option.map_some]
      obtain ⟨rfl, rfl⟩ := Setting.ofNames?_eq_some_iff.1 hnames
      rfl

theorem entrySettings_of_unknown {name : String} (h : ∀ k : Setting, k.sectionName ≠ name)
    (entries : Table) : entrySettings name entries = [] := by
  rw [entrySettings, List.filterMap_eq_nil_iff]
  intro e _
  have hnone : Setting.ofNames? name e.1 = none :=
    Setting.ofNames?_eq_none_iff.2 fun k hname => absurd hname (h k)
  simp only [hnone, Option.map_none]

theorem sectionSettings_of_unknown {name : String} (h : ∀ k : Setting, k.sectionName ≠ name)
    (v : Value) : sectionSettings (name, v) = [] := by
  cases v with
  | table entries => exact entrySettings_of_unknown h entries
  | _ => rfl

/-- A document takes its settings one by one. -/
theorem setAll_eq_foldlM {document : Table} (h : ∀ e ∈ document, IsTable e) (c : Config) :
    setAll setSection c document =
      document.settings.foldlM (fun c e => Setting.put c e.1 e.2) c := by
  induction document generalizing c with
  | nil => rfl
  | cons e document ih =>
      obtain ⟨name, v⟩ := e
      have hfirst : setSection c name v =
          (sectionSettings (name, v)).foldlM (fun c e => Setting.put c e.1 e.2) c := by
        by_cases hknown : ∃ k : Setting, k.sectionName = name
        · obtain ⟨entries, rfl⟩ : ∃ entries, v = .table entries :=
            h (name, v) List.mem_cons_self hknown
          exact setSection_eq_foldlM name c entries
        · have hunknown : ∀ k : Setting, k.sectionName ≠ name := not_exists.1 hknown
          rw [sectionSettings_of_unknown hunknown]
          exact Setting.setSection_of_unknown_section hunknown c v
      have hrest := ih fun e he => h e (List.mem_cons_of_mem _ he)
      have hcons : setAll setSection c ((name, v) :: document) =
          (setSection c name v).bind fun c => setAll setSection c document := rfl
      rw [hcons, hfirst, Table.settings, List.flatMap_cons, List.foldlM_append]
      exact congrArg _ (funext hrest)

variable {l : List (Setting × Value)}

/-- If all values are accepted, every setting that is held is what it is taken for, and the others
stay. -/
theorem foldlM_put_of_accepts (haccepts : ∀ e ∈ l, e.1.kind.Accepts e.2)
    (hunique : ∀ k v w, (k, v) ∈ l → (k, w) ∈ l → v = w) (c : Config) :
    ∃ c', l.foldlM (fun c e => Setting.put c e.1 e.2) c = .ok c' ∧ ∀ k : Setting,
      (∀ v, (k, v) ∈ l → k.value c' = k.kind.taken v) ∧
      ((∀ v, (k, v) ∉ l) → k.value c' = k.value c) := by
  induction l generalizing c with
  | nil => exact ⟨c, rfl, by simp⟩
  | cons e l ih =>
      obtain ⟨j, w⟩ := e
      obtain ⟨next, hput, hnext⟩ := j.lawful.accepted c (haccepts (j, w) List.mem_cons_self)
      obtain ⟨c', hrest, hvalue⟩ := ih (fun e he => haccepts e (List.mem_cons_of_mem _ he))
        (fun k v u hv hu => hunique k v u (List.mem_cons_of_mem _ hv) (List.mem_cons_of_mem _ hu))
        next
      refine ⟨c', ?_, ?_⟩
      · rw [List.foldlM_cons, hput]
        exact hrest
      · intro k
        constructor
        · intro v hv
          by_cases hlater : ∃ u, (k, u) ∈ l
          · obtain ⟨u, hu⟩ := hlater
            rw [hunique k v u hv (List.mem_cons_of_mem _ hu)]
            exact (hvalue k).1 u hu
          · rw [(hvalue k).2 (not_exists.1 hlater), hnext]
            rcases List.mem_cons.1 hv with heq | hv
            · obtain ⟨rfl, rfl⟩ := Prod.mk.inj heq
              rw [if_pos rfl]
            · exact absurd ⟨v, hv⟩ hlater
        · intro hnone
          have hne : k ≠ j := by
            intro heq
            exact hnone w (heq ▸ List.mem_cons_self)
          rw [(hvalue k).2 fun v hv => hnone v (List.mem_cons_of_mem _ hv), hnext, if_neg hne]

/-- The first value that is not accepted is reported. -/
theorem foldlM_put_of_fault {e : DecodeError} (hformat : ∀ t, (Setting.logFormat, .table t) ∉ l)
    (h : (l.filterMap fault?).head? = some e) (c : Config) :
    l.foldlM (fun c e => Setting.put c e.1 e.2) c = .error e := by
  induction l generalizing c with
  | nil => contradiction
  | cons first l ih =>
      obtain ⟨k, v⟩ := first
      rw [List.foldlM_cons]
      by_cases haccepts : k.kind.Accepts v
      · have hnone : fault? (k, v) = none := if_pos haccepts
        rw [List.filterMap_cons_none hnone] at h
        obtain ⟨next, hput, -⟩ := k.lawful.accepted c haccepts
        rw [hput]
        exact ih (fun t ht => hformat t (List.mem_cons_of_mem _ ht)) h next
      · have hsome : fault? (k, v) = some (k.kind.error v) := if_neg haccepts
        rw [List.filterMap_cons_some hsome, List.head?_cons] at h
        obtain rfl := Option.some.inj h
        have htable (hk : k = .logFormat) (t : Table) : v ≠ .table t := by
          rintro rfl
          exact hformat t (hk ▸ List.mem_cons_self)
        rw [k.lawful.rejected c haccepts htable]
        rfl

end Config

/-! ## What a document holds -/

namespace Toml

/-- Where no key comes twice, what stands under a key is found. -/
theorem DistinctKeys.lookup_eq_some_iff {α : Type} {entries : List (String × α)}
    (h : DistinctKeys entries) {key : String} {v : α} :
    entries.lookup key = some v ↔ (key, v) ∈ entries := by
  induction entries with
  | nil => simp
  | cons e entries ih =>
      obtain ⟨other, w⟩ := e
      obtain ⟨hnew, hrest⟩ := List.nodup_cons.1 h
      by_cases hkey : key = other
      · subst hkey
        have hfresh : (key, v) ∉ entries := fun hmem => hnew (List.mem_map.2 ⟨_, hmem, rfl⟩)
        rw [List.lookup_cons_self, List.mem_cons]
        simp [hfresh, eq_comm]
      · have hbeq : (key == other) = false := beq_eq_false_iff_ne.2 hkey
        rw [List.lookup_cons, hbeq]
        simp [ih hrest, hkey]

variable {document document' : Table} {k : Setting} {v w : Value}

theorem mem_entrySettings {name : String} {entries : Table} :
    (k, v) ∈ entrySettings name entries ↔ k.sectionName = name ∧ (k.key, v) ∈ entries := by
  rw [entrySettings, List.mem_filterMap]
  constructor
  · rintro ⟨⟨key, u⟩, hmem, hfound⟩
    obtain ⟨j, hj, heq⟩ := Option.map_eq_some_iff.1 hfound
    obtain ⟨rfl, rfl⟩ := Prod.mk.inj heq
    obtain ⟨hname, hkey⟩ := Setting.ofNames?_eq_some_iff.1 hj
    exact ⟨hname, hkey ▸ hmem⟩
  · rintro ⟨rfl, hmem⟩
    refine ⟨(k.key, v), hmem, ?_⟩
    have hnames : Setting.ofNames? k.sectionName k.key = some k :=
      Setting.ofNames?_eq_some_iff.2 ⟨rfl, rfl⟩
    simp only [hnames, Option.map_some]

theorem mem_sectionSettings {e : String × Value} :
    (k, v) ∈ sectionSettings e ↔
      ∃ entries, e = (k.sectionName, .table entries) ∧ (k.key, v) ∈ entries := by
  obtain ⟨name, content⟩ := e
  cases content with
  | table entries =>
      rw [sectionSettings, mem_entrySettings]
      constructor
      · rintro ⟨rfl, hmem⟩
        exact ⟨entries, rfl, hmem⟩
      · rintro ⟨_, heq, hmem⟩
        obtain ⟨rfl, hentries⟩ := Prod.mk.inj heq
        obtain rfl := Value.table.inj hentries
        exact ⟨rfl, hmem⟩
  | _ => simp [sectionSettings]

/-- A document holds a value for a setting if and only if it is found there. -/
theorem Table.Distinct.mem_settings (h : document.Distinct) :
    (k, v) ∈ document.settings ↔ k.find? document = some v := by
  rw [Table.settings, List.mem_flatMap, Setting.find?]
  constructor
  · rintro ⟨e, he, hv⟩
    obtain ⟨entries, rfl, hentry⟩ := mem_sectionSettings.1 hv
    have hkeys : DistinctKeys entries := h.keyed _ he
    rw [h.keys.lookup_eq_some_iff.2 he]
    exact hkeys.lookup_eq_some_iff.2 hentry
  · intro hfound
    split at hfound
    next entries hsection =>
      have he := h.keys.lookup_eq_some_iff.1 hsection
      have hkeys : DistinctKeys entries := h.keyed _ he
      exact ⟨_, he, mem_sectionSettings.2 ⟨entries, rfl, hkeys.lookup_eq_some_iff.1 hfound⟩⟩
    · contradiction

theorem Table.Distinct.eq_of_mem_settings (h : document.Distinct) (hv : (k, v) ∈ document.settings)
    (hw : (k, w) ∈ document.settings) : v = w := by
  rw [h.mem_settings] at hv hw
  exact Option.some.inj (hv.symm.trans hw)

theorem Table.mem_faults {e : DecodeError} :
    e ∈ document.faults ↔
      ∃ k v, (k, v) ∈ document.settings ∧ ¬ k.kind.Accepts v ∧ e = k.kind.error v := by
  rw [Table.faults, List.mem_filterMap]
  constructor
  · rintro ⟨⟨k, v⟩, hmem, hfault⟩
    by_cases haccepts : k.kind.Accepts v
    · rw [fault?, if_pos haccepts] at hfault
      contradiction
    · rw [fault?, if_neg haccepts] at hfault
      exact ⟨k, v, hmem, haccepts, (Option.some.inj hfault).symm⟩
  · rintro ⟨k, v, hmem, haccepts, rfl⟩
    exact ⟨(k, v), hmem, if_neg haccepts⟩

/-! ## Other documents -/

/-- The sections of a document, or the keys of one of them, in another order. -/
inductive Permuted : Table → Table → Prop
  /-- The sections. -/
  | sections {document document' : Table} (h : document.Perm document') :
      Permuted document document'
  /-- The keys of a section. -/
  | keys (front back : Table) (name : String) {entries entries' : Table}
      (h : entries.Perm entries') :
      Permuted (front ++ (name, .table entries) :: back) (front ++ (name, .table entries') :: back)

/-- A document with one more entry, of a name that no setting has. -/
inductive Extended : Table → Table → Prop
  /-- Beside the sections. -/
  | root (front back : Table) (name : String) (v : Value)
      (h : ∀ k : Setting, k.sectionName ≠ name) :
      Extended (front ++ back) (front ++ (name, v) :: back)
  /-- In a section. -/
  | inside (front back : Table) (name : String) (before after : Table) (key : String) (v : Value)
      (h : ∀ k : Setting, k.sectionName = name → k.key ≠ key) :
      Extended (front ++ (name, .table (before ++ after)) :: back)
        (front ++ (name, .table (before ++ (key, v) :: after)) :: back)

theorem Permuted.settings_perm (h : Permuted document document') :
    document.settings.Perm document'.settings := by
  cases h with
  | sections h => exact h.flatMap_right _
  | keys front back name h =>
      simp only [Table.settings, List.flatMap_append, List.flatMap_cons, sectionSettings]
      exact ((h.filterMap _).append_right _).append_left _

theorem Extended.settings_eq (h : Extended document document') :
    document.settings = document'.settings := by
  cases h with
  | root front back name v h =>
      simp only [Table.settings, List.flatMap_append, List.flatMap_cons,
        Config.sectionSettings_of_unknown h, List.nil_append]
  | inside front back name before after key v h =>
      have hnone : Setting.ofNames? name key = none := Setting.ofNames?_eq_none_iff.2 h
      simp only [Table.settings, List.flatMap_append, List.flatMap_cons, sectionSettings,
        entrySettings, List.filterMap_append, List.filterMap_cons, hnone, Option.map_none]

theorem Permuted.isTable_iff (h : Permuted document document') :
    (∀ e ∈ document, IsTable e) ↔ ∀ e ∈ document', IsTable e := by
  cases h with
  | sections h => simp only [h.mem_iff]
  | keys front back name h =>
      have htable (entries : Table) : IsTable (name, .table entries) := fun _ => ⟨entries, rfl⟩
      simp only [List.forall_mem_append, List.forall_mem_cons, htable, true_and]

theorem Extended.isTable_iff (h : Extended document document') :
    (∀ e ∈ document, IsTable e) ↔ ∀ e ∈ document', IsTable e := by
  cases h with
  | root front back name v h =>
      have hother : IsTable (name, v) := fun ⟨k, hk⟩ => absurd hk (h k)
      simp only [List.forall_mem_append, List.forall_mem_cons, hother, true_and]
  | inside front back name before after key v h =>
      have htable (entries : Table) : IsTable (name, .table entries) := fun _ => ⟨entries, rfl⟩
      simp only [List.forall_mem_append, List.forall_mem_cons, htable, true_and]

/-- Documents that hold the same settings, perhaps in another order, and have the same sections. -/
structure Alike (document document' : Table) : Prop where
  /-- The settings. -/
  settings : document.settings.Perm document'.settings
  /-- The sections. -/
  isTable_iff : (∀ e ∈ document, IsTable e) ↔ ∀ e ∈ document', IsTable e

/-- Documents that differ by order and by other names hold the same settings. -/
theorem alike_of_eqvGen
    (h : Relation.EqvGen (fun d d' => Permuted d d' ∨ Extended d d') document document') :
    Alike document document' := by
  induction h with
  | rel _ _ h =>
      rcases h with h | h
      · exact ⟨h.settings_perm, h.isTable_iff⟩
      · exact ⟨.of_eq h.settings_eq, h.isTable_iff⟩
  | refl _ => exact ⟨.refl _, Iff.rfl⟩
  | symm _ _ _ ih => exact ⟨ih.settings.symm, ih.isTable_iff.symm⟩
  | trans _ _ _ _ _ ih ih' =>
      exact ⟨ih.settings.trans ih'.settings, ih.isTable_iff.trans ih'.isTable_iff⟩

/-- Documents that differ by other names alone hold the same settings in the same order. -/
theorem settings_eq_of_eqvGen (h : Relation.EqvGen Extended document document') :
    document.settings = document'.settings := by
  induction h with
  | rel _ _ h => exact h.settings_eq
  | refl _ => rfl
  | symm _ _ _ ih => exact ih.symm
  | trans _ _ _ _ _ ih ih' => exact ih.trans ih'

theorem Alike.plain (h : Alike document document') (hplain : document.Plain)
    (hdistinct : document.Distinct) (hdistinct' : document'.Distinct) : document'.Plain := by
  refine ⟨h.isTable_iff.1 hplain.sections, ?_⟩
  intro t ht
  rw [← hdistinct'.mem_settings, ← h.settings.mem_iff, hdistinct.mem_settings] at ht
  exact hplain.format t ht

end Toml

/-! ## What is decoded -/

namespace Config

open Toml

variable {document document' : Table}

/-- A configuration is what a document describes: its values, and defaults for the rest. -/
def DescribedBy (c : Config) (document : Table) : Prop :=
  ∀ k : Setting, k.value c = ((k.find? document).map k.kind.taken).getD (k.value {})

theorem DescribedBy.eq {c c' : Config} (h : c.DescribedBy document) (h' : c'.DescribedBy document')
    (hfind : ∀ k : Setting, k.find? document = k.find? document') : c = c' := by
  refine Setting.config_ext fun k => ?_
  rw [h k, h' k, hfind k]

/-- A document without faults describes a configuration. -/
theorem decode_of_accepts (hdistinct : document.Distinct) (hplain : document.Plain)
    (h : ∀ k v, Setting.find? document k = some v → k.kind.Accepts v) :
    ∃ c, decode document = .ok c ∧ c.DescribedBy document := by
  have haccepts : ∀ e ∈ document.settings, e.1.kind.Accepts e.2 :=
    fun e he => h e.1 e.2 (hdistinct.mem_settings.1 he)
  obtain ⟨c, hfold, hvalue⟩ :=
    foldlM_put_of_accepts haccepts (fun k v w hv hw => hdistinct.eq_of_mem_settings hv hw) {}
  refine ⟨c, ?_, ?_⟩
  · rw [decode, setAll_eq_foldlM hplain.sections, hfold]
  · intro k
    cases hfound : k.find? document with
    | some v => exact (hvalue k).1 v (hdistinct.mem_settings.2 hfound)
    | none =>
        refine (hvalue k).2 fun v hv => ?_
        rw [hdistinct.mem_settings, hfound] at hv
        contradiction

/-- The first fault of a document is reported. -/
theorem decode_of_fault {e : DecodeError} (hdistinct : document.Distinct) (hplain : document.Plain)
    (h : document.faults.head? = some e) : decode document = .error e := by
  rw [decode, setAll_eq_foldlM hplain.sections]
  refine foldlM_put_of_fault (fun t ht => ?_) h {}
  exact hplain.format t (hdistinct.mem_settings.1 ht)

/-- A value that is not accepted makes a fault, and only such a value does. -/
theorem exists_fault_iff (hdistinct : document.Distinct) :
    (∃ e, document.faults.head? = some e) ↔
      ∃ k v, Setting.find? document k = some v ∧ ¬ k.kind.Accepts v := by
  constructor
  · rintro ⟨e, he⟩
    obtain ⟨k, v, hmem, haccepts, -⟩ := Table.mem_faults.1 (List.mem_of_head? he)
    exact ⟨k, v, hdistinct.mem_settings.1 hmem, haccepts⟩
  · rintro ⟨k, v, hfound, haccepts⟩
    have hmem : k.kind.error v ∈ document.faults :=
      Table.mem_faults.2 ⟨k, v, hdistinct.mem_settings.2 hfound, haccepts, rfl⟩
    exact ⟨_, List.head?_eq_some_head (List.ne_nil_of_mem hmem)⟩

/-- An answer reports a value that a document holds for a setting and that is not accepted. -/
structure Refuses (document : Table) (k : Setting) (v : Value) (answer : Except LoadError Config) :
    Prop where
  /-- The document holds the value. -/
  found : k.find? document = some v
  /-- It is not accepted. -/
  rejected : ¬ k.kind.Accepts v
  /-- It is reported. -/
  reported : answer = .error (.undecodable (k.kind.error v))

/-- What becomes of a document: its first fault is reported, or it describes a configuration, which
is validated. -/
theorem ofDocument_cases (hdistinct : document.Distinct) (hplain : document.Plain) :
    (∃ (k : Setting) (v : Value), Refuses document k v (ofDocument document) ∧
        document.faults.head? = some (k.kind.error v)) ∨
      (∀ k v, Setting.find? document k = some v → k.kind.Accepts v) ∧
        ∃ c : Config, ofDocument document = c.validate ∧ c.DescribedBy document := by
  by_cases hfault : ∃ e, document.faults.head? = some e
  · left
    obtain ⟨e, he⟩ := hfault
    obtain ⟨k, v, hmem, hrejected, rfl⟩ := Table.mem_faults.1 (List.mem_of_head? he)
    refine ⟨k, v, ⟨hdistinct.mem_settings.1 hmem, hrejected, ?_⟩, he⟩
    rw [ofDocument, decode_of_fault hdistinct hplain he]
  · right
    have haccepts : ∀ k v, Setting.find? document k = some v → k.kind.Accepts v := by
      intro k v hfound
      refine Decidable.byContradiction fun hrejected => ?_
      exact hfault ((exists_fault_iff hdistinct).2 ⟨k, v, hfound, hrejected⟩)
    obtain ⟨c, hdecode, hdescribed⟩ := decode_of_accepts hdistinct hplain haccepts
    refine ⟨haccepts, c, ?_, hdescribed⟩
    rw [ofDocument, hdecode]

theorem validate_ne_undecodable (c : Config) (e : DecodeError) :
    c.validate ≠ .error (.undecodable e) := by
  rw [validate]
  split <;> simp

end Config

namespace Toml

theorem Alike.find?_eq {document document' : Table} (h : Alike document document')
    (hdistinct : document.Distinct) (hdistinct' : document'.Distinct) (k : Setting) :
    k.find? document = k.find? document' := by
  refine Option.ext fun v => ?_
  rw [← hdistinct.mem_settings, ← hdistinct'.mem_settings, h.settings.mem_iff]

end Toml

namespace Config

open Toml

variable {document document' : Table}

/-- Documents that differ by order and by other names have the same answer, or different ones of
their values are reported. -/
theorem ofDocument_of_alike (hdistinct : document.Distinct) (hdistinct' : document'.Distinct)
    (hplain : document.Plain) (h : Alike document document') :
    ofDocument document' = ofDocument document ∨ ∃ (j k : Setting) (v w : Value), j ≠ k ∧
      Refuses document j v (ofDocument document) ∧ Refuses document k w (ofDocument document') := by
  have hfind := h.find?_eq hdistinct hdistinct'
  have hplain' := h.plain hplain hdistinct hdistinct'
  rcases ofDocument_cases hdistinct hplain with
    ⟨j, v, hrefuses, -⟩ | ⟨haccepts, c, hanswer, hc⟩
  · rcases ofDocument_cases hdistinct' hplain' with ⟨k, w, hrefuses', -⟩ | ⟨haccepts', -⟩
    · have hfound : k.find? document = some w := (hfind k).trans hrefuses'.found
      by_cases hne : j = k
      · subst hne
        left
        rw [hrefuses.found] at hfound
        obtain rfl := Option.some.inj hfound
        rw [hrefuses.reported, hrefuses'.reported]
      · right
        exact ⟨j, k, v, w, hne, hrefuses, hfound, hrefuses'.rejected, hrefuses'.reported⟩
    · exact absurd (haccepts' j v ((hfind j).symm.trans hrefuses.found)) hrefuses.rejected
  · rcases ofDocument_cases hdistinct' hplain' with ⟨k, w, hrefuses', -⟩ | ⟨-, c', hanswer', hc'⟩
    · exact absurd (haccepts k w ((hfind k).trans hrefuses'.found)) hrefuses'.rejected
    · left
      rw [hanswer, hanswer', hc.eq hc' hfind]

/-- Documents that differ by other names alone have the same answer. -/
theorem ofDocument_of_extended (hdistinct : document.Distinct) (hdistinct' : document'.Distinct)
    (hplain : document.Plain) (h : Relation.EqvGen Extended document document') :
    ofDocument document' = ofDocument document := by
  have halike := alike_of_eqvGen (h.mono fun _ _ h => .inr h)
  have hplain' := halike.plain hplain hdistinct hdistinct'
  have hdecode : decode document' = decode document := by
    rw [decode, decode, setAll_eq_foldlM hplain.sections, setAll_eq_foldlM hplain'.sections,
      settings_eq_of_eqvGen h]
  rw [ofDocument, ofDocument, hdecode]

/-- **Settings one by one.** A text whose sections are tables cannot be decoded if and only if it
holds a value that its setting does not accept, and then the first such value is reported.
Otherwise the configuration that is validated has the values of the text, and defaults for the
rest. Other names never count, and the order counts for nothing but which of several unusable values
is reported. -/
theorem parse_fieldwise {text : String} {document : Table} (hread : document? text = some document)
    (hplain : document.Plain) :
    ((∃ e, parse text = .error (.undecodable e)) ↔
      ∃ k v, Setting.find? document k = some v ∧ ¬ k.kind.Accepts v) ∧
    (∀ e, parse text = .error (.undecodable e) → document.faults.head? = some e) ∧
    ((∀ k v, Setting.find? document k = some v → k.kind.Accepts v) →
      ∃ c : Config, parse text = c.validate ∧
        ∀ k : Setting, k.value c = ((k.find? document).map k.kind.taken).getD (k.value {})) ∧
    ∀ text' document', document? text' = some document' →
      (Relation.EqvGen Extended document document' → parse text' = parse text) ∧
      (Relation.EqvGen (fun d d' => Permuted d d' ∨ Extended d d') document document' →
        parse text' = parse text ∨ ∃ (j k : Setting) (v w : Value), j ≠ k ∧
          Refuses document j v (parse text) ∧ Refuses document k w (parse text')) := by
  have hdistinct := distinct_of_document? hread
  have hparse : parse text = ofDocument document := by
    rw [parse, hread]
  rw [hparse]
  have hcases := ofDocument_cases hdistinct hplain
  refine ⟨?_, ?_, ?_, ?_⟩
  · constructor
    · rintro ⟨e, he⟩
      rcases hcases with ⟨k, v, hrefuses, -⟩ | ⟨-, c, hanswer, -⟩
      · exact ⟨k, v, hrefuses.found, hrefuses.rejected⟩
      · exact absurd (hanswer.symm.trans he) (validate_ne_undecodable c e)
    · rintro ⟨k, v, hv, hrejected⟩
      rcases hcases with ⟨j, w, hrefuses, -⟩ | ⟨haccepts, -⟩
      · exact ⟨_, hrefuses.reported⟩
      · exact absurd (haccepts k v hv) hrejected
  · intro e he
    rcases hcases with ⟨k, v, hrefuses, hfirst⟩ | ⟨-, c, hanswer, -⟩
    · obtain rfl : e = k.kind.error v := by
        simpa using he.symm.trans hrefuses.reported
      exact hfirst
    · exact absurd (hanswer.symm.trans he) (validate_ne_undecodable c e)
  · intro haccepts
    rcases hcases with ⟨k, v, hrefuses, -⟩ | ⟨-, hdescribed⟩
    · exact absurd (haccepts k v hrefuses.found) hrefuses.rejected
    · exact hdescribed
  · intro text' document' hread'
    have hdistinct' := distinct_of_document? hread'
    have hparse' : parse text' = ofDocument document' := by
      rw [parse, hread']
    rw [hparse']
    constructor
    · intro hextended
      exact ofDocument_of_extended hdistinct hdistinct' hplain hextended
    · intro hvaried
      exact ofDocument_of_alike hdistinct hdistinct' hplain (alike_of_eqvGen hvaried)

/-- Two settings are read, an integer as a floating-point number, and the others are not there. -/
theorem parse_two_settings :
    let text := "title = 0\n[occ_retry]\nmultiplier = 3\nmax_retries = 7\nx = true\n"
    ∃ (document : Table) (c : Config), document? text = some document ∧ document.Plain ∧
      (∀ k v, Setting.find? document k = some v → k.kind.Accepts v) ∧ parse text = c.validate ∧
      Setting.maxRetries.value c = .integer 7 ∧ Setting.multiplier.value c = .float (.ofInt 3) ∧
      Setting.initialWait.value c = .integer 100 := by
  intro text
  let document : Table := [("title", .integer 0), ("occ_retry",
    .table [("multiplier", .integer 3), ("max_retries", .integer 7), ("x", .boolean true)])]
  have hread : document? text = some document := by cbv
  have hplain : document.Plain := by
    refine ⟨?_, ?_⟩
    · intro e he
      rcases List.mem_cons.1 he with rfl | he
      · rintro ⟨k, hk⟩
        cases k <;> simp [Setting.sectionName] at hk
      · obtain rfl := List.mem_singleton.1 he
        exact fun _ => ⟨_, rfl⟩
    · intro t
      simp [document, Setting.find?, Setting.sectionName, List.lookup]
  have haccepts : ∀ k v, Setting.find? document k = some v → k.kind.Accepts v := by
    intro k v hv
    cases k <;> simp [document, Setting.find?, Setting.sectionName, Setting.key, List.lookup] at hv
    all_goals subst hv
    · exact by decide
    · exact trivial
  obtain ⟨c, hanswer, hvalue⟩ := (parse_fieldwise hread hplain).2.2.1 haccepts
  exact ⟨document, c, hread, hplain, haccepts, hanswer, hvalue .maxRetries, hvalue .multiplier,
    hvalue .initialWait⟩

/-- Of two values that are not accepted, the first in the text is reported. -/
theorem parse_reported_in_order :
    let text := "[occ_retry]\nmax_retries = \"a\"\nmultiplier = \"b\"\n"
    let text' := "[occ_retry]\nmultiplier = \"b\"\nmax_retries = \"a\"\n"
    ∃ document document' : Table, document? text = some document ∧
      document? text' = some document' ∧ document.Plain ∧ Permuted document document' ∧
      parse text = .error (.undecodable (.wrongKind (.string "a") .uint32)) ∧
      parse text' = .error (.undecodable (.wrongKind (.string "b") .float)) ∧
      parse text' ≠ parse text := by
  intro text text'
  let entries : Table := [("max_retries", .string "a"), ("multiplier", .string "b")]
  let entries' : Table := [("multiplier", .string "b"), ("max_retries", .string "a")]
  have hread : document? text = some [("occ_retry", .table entries)] := by cbv
  have hread' : document? text' = some [("occ_retry", .table entries')] := by cbv
  have hplain : Table.Plain [("occ_retry", .table entries)] := by
    refine ⟨?_, ?_⟩
    · intro e he
      obtain rfl := List.mem_singleton.1 he
      exact fun _ => ⟨_, rfl⟩
    · intro t
      simp [Setting.find?, Setting.sectionName, List.lookup]
  have hpermuted : Permuted [("occ_retry", .table entries)] [("occ_retry", .table entries')] :=
    .keys [] [] "occ_retry" (.swap _ _ _)
  have hanswer : parse text = .error (.undecodable (.wrongKind (.string "a") .uint32)) := by
    rw [parse, hread]
    rfl
  have hanswer' : parse text' = .error (.undecodable (.wrongKind (.string "b") .float)) := by
    rw [parse, hread']
    rfl
  refine ⟨_, _, hread, hread', hplain, hpermuted, hanswer, hanswer', ?_⟩
  rw [hanswer, hanswer']
  simp

end Config

end StoreClient
