import StoreClient.Proofs.Toml.Distinct
import StoreClient.Proofs.Toml.Scalars

/-!
# Plain documents

A plain document is a sequence of tables, each with a header of its own and with one line for every
entry. Line by line it is read as it is written, and if no name comes twice, it denotes these tables
with their entries in order.

## Main definitions

* `Toml.Written` — a text is read as lines, whatever follows.
* `Toml.IsBare` — a name that needs no quotes.
* `Toml.Table.section` — a header and the entries below it.
-/

namespace StoreClient.Toml

open Text

variable {c e : Char} {cs name after rest : List Char}

/-! ## Names -/

/-- A name that needs no quotes. -/
structure IsBare (name : List Char) : Prop where
  /-- There is something. -/
  nonempty : name ≠ []
  /-- There are letters, digits, hyphens and underscores only. -/
  chars : ∀ c ∈ name, isBareKeyChar c = true

theorem ne_of_isBareKeyChar (hc : isBareKeyChar c = true) {other : Char}
    (hother : isBareKeyChar other = false) : c ≠ other := by
  rintro rfl
  rw [hc] at hother
  contradiction

theorem isBlank_of_isBareKeyChar (hc : isBareKeyChar c = true) : isBlank c = false := by
  have hspace : c ≠ ' ' := ne_of_isBareKeyChar hc (by decide)
  have htab : c ≠ '\t' := ne_of_isBareKeyChar hc (by decide)
  simp [isBlank, hspace, htab]

theorem IsBare.skipBlanks (hname : IsBare name) : skipBlanks (name ++ rest) = name ++ rest := by
  cases name with
  | nil => exact absurd rfl hname.nonempty
  | cons c cs => exact skipBlanks_cons (isBlank_of_isBareKeyChar (hname.chars c List.mem_cons_self))

theorem name?_of_isBare (hname : IsBare name) (hc : isBareKeyChar c = false) :
    name? (name ++ c :: rest) = some (String.ofList name, c :: rest) := by
  have hrun : run? isBareKeyChar (name ++ c :: rest) = some (name, c :: rest) :=
    run?_append hname.chars hname.nonempty hc
  cases name with
  | nil => exact absurd rfl hname.nonempty
  | cons d ds =>
      have hbare := hname.chars d List.mem_cons_self
      have hdouble : d ≠ '"' := ne_of_isBareKeyChar hbare (by decide)
      have hsingle : d ≠ '\'' := ne_of_isBareKeyChar hbare (by decide)
      unfold name?
      split
      next heq => exact absurd (List.cons.inj heq).1 hdouble
      next heq => exact absurd (List.cons.inj heq).1 hsingle
      next => rw [hrun]; rfl

/-- A bare name is a key if no dot follows it. -/
theorem key?_of_isBare (hname : IsBare name) (hc : isBareKeyChar c = false)
    (hskip : skipBlanks (c :: rest) = e :: after) (he : e ≠ '.') :
    key? (name ++ c :: rest) = some (⟨[], String.ofList name⟩, e :: after) := by
  let spacedName : Reader String := fun cs =>
    (name? (skipBlanks cs)).bind fun front => some (front.1, skipBlanks front.2)
  have hspaced : spacedName (name ++ c :: rest) = some (String.ofList name, e :: after) := by
    show (name? (skipBlanks (name ++ c :: rest))).bind _ = _
    rw [hname.skipBlanks, name?_of_isBare hname hc, Option.bind_some]
    exact congrArg (fun cs => some (String.ofList name, cs)) hskip
  have hmore : many (fun cs => (char? '.' cs).bind spacedName) (e :: after) = ([], e :: after) := by
    apply many_of_eq_none
    rw [char?_of_ne he]
    rfl
  have hseparated : separated spacedName '.' (name ++ c :: rest) =
      some ([String.ofList name], e :: after) := by
    rw [separated, hspaced]
    simp only [Option.bind_eq_bind, Option.bind_some, hmore, Option.pure_def]
  show (separated spacedName '.' (name ++ c :: rest)).bind _ = _
  rw [hseparated]
  rfl

/-! ## Lines -/

/-- What begins with none of the characters that end a line does not end it. -/
theorem lineEnd?_eq_none (hblank : isBlank c = false) (hcomment : c ≠ '#') (hfeed : c ≠ '\n')
    (hreturn : c ≠ '\r') : lineEnd? (c :: rest) = none := by
  have hskip : skipComment (c :: rest) = c :: rest := by
    rw [skipComment]
    intro cs heq
    exact hcomment (List.cons.inj heq).1
  rw [lineEnd?, skipBlanks_cons hblank, hskip]
  show newline? (c :: rest) = none
  rw [newline?]
  · intro cs heq
    exact hfeed (List.cons.inj heq).1
  · intro cs heq
    exact hreturn (List.cons.inj heq).1

theorem lineEnd?_lineFeed : lineEnd? ('\n' :: rest) = some rest := rfl

/-- A line is what stands in it, if it does not end at once. -/
theorem line?_of_content? {line : Line} (hblank : isBlank c = false) (hcomment : c ≠ '#')
    (hfeed : c ≠ '\n') (hreturn : c ≠ '\r')
    (h : content? (c :: cs) = some (line, '\n' :: rest)) : line? (c :: cs) = some (line, rest) := by
  have hnonempty : ¬ (c :: cs).isEmpty = true := by simp
  rw [line?]
  simp only [skipBlanks_cons hblank, if_neg hnonempty,
    lineEnd?_eq_none hblank hcomment hfeed hreturn, h, Option.bind_eq_bind, Option.bind_some,
    lineEnd?_lineFeed, Option.pure_def]

/-- A header on a line of its own. -/
theorem line?_header (hname : IsBare name) :
    line? ('[' :: name ++ ']' :: '\n' :: rest) =
      some (.table ⟨[], String.ofList name⟩, rest) := by
  refine line?_of_content? (by decide) (by decide) (by decide) (by decide) ?_
  have hkey : key? (name ++ ']' :: '\n' :: rest) =
      some (⟨[], String.ofList name⟩, ']' :: '\n' :: rest) :=
    key?_of_isBare hname (by decide) (skipBlanks_cons (by decide)) (by decide)
  have hheader : header? ['['] [']'] ('[' :: name ++ ']' :: '\n' :: rest) =
      some (⟨[], String.ofList name⟩, '\n' :: rest) := by
    show (key? (name ++ ']' :: '\n' :: rest)).bind _ = _
    rw [hkey]
    rfl
  cases name with
  | nil => exact absurd rfl hname.nonempty
  | cons d ds =>
      have hd : d ≠ '[' := ne_of_isBareKeyChar (hname.chars d List.mem_cons_self) (by decide)
      show content? ('[' :: (d :: ds ++ ']' :: '\n' :: rest)) = _
      unfold content?
      split
      next heq => exact absurd (List.cons.inj (List.cons.inj heq).2).1 hd
      next =>
        show (header? ['['] [']'] ('[' :: (d :: ds) ++ ']' :: '\n' :: rest)).map _ = _
        rw [hheader]
        rfl
      next hother => exact absurd rfl (hother _)

/-- A value under a key on a line of its own. -/
theorem line?_assignment {v : Value} (hname : IsBare name) (hv : Denotes cs v) :
    line? (name ++ ' ' :: '=' :: ' ' :: (cs ++ '\n' :: rest)) =
      some (.assignment ⟨[], String.ofList name⟩ v, rest) := by
  have hkey : key? (name ++ ' ' :: '=' :: ' ' :: (cs ++ '\n' :: rest)) =
      some (⟨[], String.ofList name⟩, '=' :: ' ' :: (cs ++ '\n' :: rest)) :=
    key?_of_isBare hname (by decide) rfl (by decide)
  have hvalue : value? (skipBlanks (' ' :: (cs ++ '\n' :: rest))) = some (v, '\n' :: rest) :=
    hv rest
  have hassignment : assignment? value? (name ++ ' ' :: '=' :: ' ' :: (cs ++ '\n' :: rest)) =
      some ((⟨[], String.ofList name⟩, v), '\n' :: rest) := by
    simp only [assignment?, hkey, Option.bind_eq_bind, Option.bind_some, char?_self, hvalue,
      Option.pure_def]
  cases name with
  | nil => exact absurd rfl hname.nonempty
  | cons d ds =>
      have hbare := hname.chars d List.mem_cons_self
      refine line?_of_content? (isBlank_of_isBareKeyChar hbare)
        (ne_of_isBareKeyChar hbare (by decide)) (ne_of_isBareKeyChar hbare (by decide))
        (ne_of_isBareKeyChar hbare (by decide)) ?_
      have hd : d ≠ '[' := ne_of_isBareKeyChar hbare (by decide)
      unfold content?
      split
      next heq => exact absurd (List.cons.inj heq).1 hd
      next heq => exact absurd (List.cons.inj heq).1 hd
      next =>
        show (assignment? value? (d :: ds ++ ' ' :: '=' :: ' ' :: (cs ++ '\n' :: rest))).map _ = _
        rw [hassignment]
        rfl

theorem line?_blank : line? ('\n' :: rest) = some (.blank, rest) := rfl

/-! ## Lines one after the other -/

/-- A text is read as lines, whatever follows. -/
def Written (cs : List Char) (lines : List Line) : Prop :=
  ∀ rest, many line? (cs ++ rest) = (lines ++ (many line? rest).1, (many line? rest).2)

theorem Written.append {cs' : List Char} {lines lines' : List Line} (h : Written cs lines)
    (h' : Written cs' lines') : Written (cs ++ cs') (lines ++ lines') := by
  intro rest
  rw [List.append_assoc, h, h']
  simp

theorem written_of_line? {line : Line} (hne : cs ≠ [])
    (h : ∀ rest, line? (cs ++ rest) = some (line, rest)) : Written cs [line] := by
  intro rest
  have hshorter : rest.length < (cs ++ rest).length := by
    have hpos := List.length_pos_iff.2 hne
    rw [List.length_append]
    omega
  rw [many_of_eq_some (h rest) hshorter]
  rfl

theorem written_blank : Written ['\n'] [.blank] := written_of_line? (by simp) fun _ => line?_blank

theorem written_header (hname : IsBare name) :
    Written ('[' :: name ++ [']', '\n']) [.table ⟨[], String.ofList name⟩] := by
  refine written_of_line? (by simp) fun rest => ?_
  have hsplit : '[' :: name ++ [']', '\n'] ++ rest = '[' :: name ++ ']' :: '\n' :: rest := by simp
  rw [hsplit]
  exact line?_header hname

theorem written_assignment {v : Value} (hname : IsBare name) (hv : Denotes cs v) :
    Written (name ++ ' ' :: '=' :: ' ' :: (cs ++ ['\n']))
      [.assignment ⟨[], String.ofList name⟩ v] := by
  refine written_of_line? (by simp) fun rest => ?_
  have hsplit : name ++ ' ' :: '=' :: ' ' :: (cs ++ ['\n']) ++ rest =
      name ++ ' ' :: '=' :: ' ' :: (cs ++ '\n' :: rest) := by simp
  rw [hsplit]
  exact line?_assignment hname hv

/-- No line begins with a mark of the byte order. -/
theorem line?_mark : line? ('\ufeff' :: rest) = none := rfl

/-- A text that is read as lines is these lines. -/
theorem Written.lines? {lines : List Line} (h : Written cs lines) (hne : lines ≠ []) :
    lines? cs = some lines := by
  have hend : many line? [] = ([], []) := many_of_eq_none rfl
  have hmany : many line? cs = (lines, []) := by
    have hall := h []
    rwa [List.append_nil, hend, List.append_nil] at hall
  have hfront : (char? '\ufeff' cs).getD cs = cs := by
    cases cs with
    | nil => rfl
    | cons c cs =>
        have hmark : c ≠ '\ufeff' := by
          rintro rfl
          rw [many_of_eq_none line?_mark] at hmany
          exact hne (Prod.mk.inj hmany).1.symm
        rw [char?_of_ne hmark]
        rfl
  rw [Toml.lines?]
  simp only [hfront, hmany]
  rfl

/-! ## Tables of a document -/

/-- A header and the entries below it. -/
def Table.section (table : String × Table) : Section :=
  ⟨⟨[], table.1⟩, false, table.2.map fun entry => (⟨[], entry.1⟩, entry.2)⟩

/-- A table under construction with all its entries. -/
def Table.draft (table : String × Table) : String × Draft :=
  (table.1, .table .explicit (table.2.map fun entry => (entry.1, .value entry.2)))

theorem finishEntries_values (entries : Table) :
    Draft.finishEntries (entries.map fun entry => (entry.1, .value entry.2)) = entries := by
  induction entries with
  | nil => simp [Draft.finishEntries]
  | cons entry entries ih => simp [Draft.finishEntries, Draft.finish, ih]

theorem finishEntries_drafts (tables : List (String × Table)) :
    Draft.finishEntries (tables.map Table.draft) =
      tables.map fun table => (table.1, .table table.2) := by
  induction tables with
  | nil => simp [Draft.finishEntries]
  | cons table tables ih =>
      simp [Draft.finishEntries, Draft.finish, Table.draft, finishEntries_values, ih]

namespace DraftTable

/-- A new name comes behind the others. -/
theorem alter_of_notMem {name : String} {f : Option Draft → Option Draft} {es : DraftTable}
    (h : name ∉ es.map Prod.fst) :
    alter name f es = (f none).map fun d => es ++ [(name, d)] := by
  induction es with
  | nil => rfl
  | cons entry es ih =>
      obtain ⟨n, d⟩ := entry
      simp only [List.map_cons, List.mem_cons, not_or] at h
      rw [alter, if_neg (Ne.symm h.1), ih h.2, Option.map_map]
      rfl

theorem assignAll_of_distinct {entries : Table} {es : DraftTable}
    (h : (es.map Prod.fst ++ entries.map Prod.fst).Nodup) :
    assignAll es (entries.map fun entry => (⟨[], entry.1⟩, entry.2)) =
      some (es ++ entries.map fun entry => (entry.1, .value entry.2)) := by
  induction entries generalizing es with
  | nil => exact congrArg some (List.append_nil es).symm
  | cons entry entries ih =>
      obtain ⟨key, v⟩ := entry
      have hnew : key ∉ es.map Prod.fst := by
        intro hmem
        exact (List.nodup_append.1 h).2.2 key hmem key List.mem_cons_self rfl
      have hassign : assign [] key v es = some (es ++ [(key, .value v)]) := by
        rw [assign, alter_of_notMem hnew]
        rfl
      have hrest : ((es ++ [(key, Draft.value v)]).map Prod.fst ++ entries.map Prod.fst).Nodup := by
        simpa using h
      have hcons : assignAll es (((key, v) :: entries).map fun entry => (⟨[], entry.1⟩, entry.2)) =
          (assign [] key v es).bind fun es =>
            assignAll es (entries.map fun entry => (⟨[], entry.1⟩, entry.2)) := rfl
      rw [hcons, hassign, Option.bind_some, ih hrest]
      simp

end DraftTable

/-- A section of a new name comes behind the others. -/
theorem build_of_notMem {table : String × Table} {document : DraftTable}
    (hname : table.1 ∉ document.map Prod.fst) (hkeys : DistinctKeys table.2) :
    (Table.section table).build document = some (document ++ [Table.draft table]) := by
  have hother : ∀ entry ∈ document, entry.1 ≠ table.1 := by
    intro entry hentry heq
    exact hname (heq ▸ List.mem_map_of_mem hentry)
  have hlookup : document.lookup table.1 = none := by
    rw [List.lookup_eq_none_iff]
    intro entry hentry
    exact bne_iff_ne.2 (hother entry hentry).symm
  have hfilter : document.filter (fun entry => entry.1 ≠ table.1) = document := by
    rw [List.filter_eq_self]
    intro entry hentry
    exact decide_eq_true (hother entry hentry)
  have hassign : DraftTable.assignAll [] (Table.section table).assignments =
      some (table.2.map fun entry => (entry.1, .value entry.2)) :=
    DraftTable.assignAll_of_distinct hkeys
  show DraftTable.define table.1 (Table.section table).assignments document = _
  rw [DraftTable.define, hlookup]
  simp only [Option.bind_eq_bind, Option.bind_some, hassign, hfilter, Option.pure_def]
  rfl

theorem buildAll_of_distinct {tables : List (String × Table)} {document : DraftTable}
    (hnames : (document.map Prod.fst ++ tables.map Prod.fst).Nodup)
    (hkeys : ∀ table ∈ tables, DistinctKeys table.2) :
    (tables.map Table.section).foldlM (fun d s => s.build d) document =
      some (document ++ tables.map Table.draft) := by
  induction tables generalizing document with
  | nil => exact congrArg some (List.append_nil document).symm
  | cons table tables ih =>
      have hnew : table.1 ∉ document.map Prod.fst := by
        intro hmem
        exact (List.nodup_append.1 hnames).2.2 _ hmem _ List.mem_cons_self rfl
      have hrest : ((document ++ [Table.draft table]).map Prod.fst ++
          tables.map Prod.fst).Nodup := by
        rw [List.map_append, List.append_assoc]
        exact hnames
      have hlater : ∀ table ∈ tables, DistinctKeys table.2 :=
        fun other hmem => hkeys other (List.mem_cons_of_mem _ hmem)
      rw [List.map_cons, List.foldlM_cons, build_of_notMem hnew (hkeys table List.mem_cons_self)]
      show (tables.map Table.section).foldlM (fun d s => s.build d) _ = _
      rw [ih hrest hlater, List.map_cons, List.append_assoc]
      rfl

/-- Lines that are sections of distinct names with distinct keys denote their tables. -/
theorem tableOfLines?_of_sections {lines : List Line} {tables : List (String × Table)}
    (h : sections lines = ([], tables.map Table.section)) (hnames : DistinctKeys tables)
    (hkeys : ∀ table ∈ tables, DistinctKeys table.2) :
    tableOfLines? lines = some (tables.map fun table => (table.1, .table table.2)) := by
  have hbuild : (tables.map Table.section).foldlM (fun d s => s.build d) [] =
      some (tables.map Table.draft) := buildAll_of_distinct hnames hkeys
  have hassign : DraftTable.assignAll [] [] = some [] := rfl
  rw [tableOfLines?, h]
  simp only [Option.bind_eq_bind, hassign, Option.bind_some, hbuild, finishEntries_drafts,
    Option.pure_def]

/-! ## Documents -/

/-- The lines of a table. -/
def Table.lines (table : String × Table) : List Line :=
  .table ⟨[], table.1⟩ :: table.2.map fun entry => .assignment ⟨[], entry.1⟩ entry.2

/-- **Plain documents are read as they are written.** Lines that make sections of distinct names
with distinct keys denote their tables. -/
theorem document?_of_written {text : String} {lines : List Line} {tables : List (String × Table)}
    (hwritten : Written text.toList lines) (hne : lines ≠ [])
    (hsections : sections lines = ([], tables.map Table.section)) (hnames : DistinctKeys tables)
    (hkeys : ∀ table ∈ tables, DistinctKeys table.2) :
    document? text = some (tables.map fun table => (table.1, .table table.2)) := by
  rw [document?, hwritten.lines? hne]
  exact tableOfLines?_of_sections hsections hnames hkeys

end StoreClient.Toml
