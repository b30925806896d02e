import StoreClient.Config.Printer
import StoreClient.Toml.Literal
import StoreClient.Proofs.Binary64.Numeral
import StoreClient.Proofs.Text.Readers

/-!
# Values on one line

A text, a truth value, an integer or a floating-point number that stands alone up to the end of its
line is read as what it denotes, whatever follows: the readers that are tried before the right one
decline it.

## Main definitions

* `Toml.Denotes` — a text up to the end of its line is read as a value.
-/

namespace StoreClient

namespace Toml

open Text Decimal

variable {c : Char} {ds rest : List Char}

/-! ## Digits -/

theorem digits?_append (hds : ∀ d ∈ ds, isDigit 10 d = true) (hne : ds ≠ [])
    (hc : isDigit 10 c = false) (hunderscore : c ≠ '_') :
    digits? 10 (ds ++ c :: rest) = some (ds, c :: rest) := by
  have hmore : many (fun cs => (char? '_' cs).bind (run? (isDigit 10))) (c :: rest) =
      ([], c :: rest) := by
    apply many_of_eq_none
    rw [char?_of_ne hunderscore]
    rfl
  simp only [digits?, run?_append hds hne hc, Option.bind_eq_bind, Option.bind_some, hmore,
    List.flatten_nil, List.append_nil, Option.pure_def]

theorem whole?_append (hds : IsWhole ds) (hc : isDigit 10 c = false) (hunderscore : c ≠ '_') :
    whole? (ds ++ c :: rest) = some (ds, c :: rest) := by
  rcases hds.front with rfl | hfront
  · rfl
  · cases ds with
    | nil => exact absurd rfl hds.nonempty
    | cons d ds =>
        have hd : d ≠ '0' := fun heq => hfront (congrArg some heq)
        have hwhole : whole? (d :: ds ++ c :: rest) = digits? 10 (d :: ds ++ c :: rest) := by
          rw [List.cons_append, whole?]
          intro cs heq
          exact hd (List.cons.inj heq).1
        rw [hwhole]
        exact digits?_append hds.digits hds.nonempty hc hunderscore

/-- Digits do not begin with a sign. -/
theorem sign_append (hds : ∀ d ∈ ds, isDigit 10 d = true) (hne : ds ≠ []) :
    sign (ds ++ rest) = (false, ds ++ rest) := by
  cases ds with
  | nil => exact absurd rfl hne
  | cons d ds =>
      have hdigit := hds d List.mem_cons_self
      have hminus : d ≠ '-' := ne_of_isDigit hdigit (by decide)
      have hplus : d ≠ '+' := ne_of_isDigit hdigit (by decide)
      rw [List.cons_append, sign]
      · intro cs heq
        exact hminus (List.cons.inj heq).1
      · intro cs heq
        exact hplus (List.cons.inj heq).1

/-! ## Readers that decline -/

theorem string?_eq_none (hdouble : c ≠ '"') (hsingle : c ≠ '\'') : string? (c :: rest) = none := by
  unfold string?
  split
  next heq => exact absurd (List.cons.inj heq).1 hdouble
  next heq => exact absurd (List.cons.inj heq).1 hdouble
  next heq => exact absurd (List.cons.inj heq).1 hsingle
  next => rw [literalString?, char?_of_ne hsingle]; rfl

theorem boolean?_eq_none (htrue : c ≠ 't') (hfalse : c ≠ 'f') : boolean? (c :: rest) = none := by
  rw [boolean?, word?_of_ne htrue, word?_of_ne hfalse]
  rfl

/-- A field of a date lies within the digits at the front. -/
theorem of_field? {count least greatest n : Nat} {cs : List Char} (hc : isDigit 10 c = false)
    (h : field? count least greatest (ds ++ c :: rest) = some (n, cs)) :
    count ≤ ds.length ∧ cs = ds.drop count ++ c :: rest := by
  simp only [field?] at h
  split at h
  next hfield =>
    obtain ⟨-, rfl⟩ := Prod.mk.inj (Option.some.inj h)
    simp only [Bool.and_eq_true, List.all_eq_true, decide_eq_true_eq] at hfield
    obtain ⟨⟨⟨hlength, hdigits⟩, -⟩, -⟩ := hfield
    have hle : count ≤ ds.length := by
      refine Nat.le_of_not_lt fun hlt => ?_
      have hmem : c ∈ (ds ++ c :: rest).take count := by
        rw [List.take_append, List.mem_append]
        right
        obtain ⟨k, hk⟩ : ∃ k, count - ds.length = k + 1 := ⟨count - ds.length - 1, by omega⟩
        rw [hk, List.take_succ_cons]
        exact List.mem_cons_self
      rw [hdigits c hmem] at hc
      contradiction
    exact ⟨hle, List.drop_append_of_le_length hle⟩
  next => contradiction

/-- Digits and what follows them do not begin with another character. -/
theorem char?_append_of_ne {expected : Char} (hds : ∀ d ∈ ds, isDigit 10 d = true)
    (hexpected : isDigit 10 expected = false) (hc : c ≠ expected) :
    char? expected (ds ++ c :: rest) = none := by
  cases ds with
  | nil => exact char?_of_ne hc
  | cons d ds => exact char?_of_ne (ne_of_isDigit (hds d List.mem_cons_self) hexpected)

/-- Digits are no date or time unless a hyphen or a colon follows them. -/
theorem datetime?_eq_none (hds : ∀ d ∈ ds, isDigit 10 d = true) (hc : isDigit 10 c = false)
    (hother : ds ≠ [] → c ≠ '-' ∧ c ≠ ':') : datetime? (ds ++ c :: rest) = none := by
  have hstop {count least greatest n : Nat} {cs : List Char} (hpos : count ≠ 0)
      (h : field? count least greatest (ds ++ c :: rest) = some (n, cs)) :
      char? '-' cs = none ∧ char? ':' cs = none := by
    obtain ⟨hle, rfl⟩ := of_field? hc h
    have hne : ds ≠ [] := by
      rintro rfl
      exact hpos (Nat.le_zero.1 hle)
    have hdrop : ∀ d ∈ ds.drop count, isDigit 10 d = true :=
      fun d hd => hds d (List.mem_of_mem_drop hd)
    exact ⟨char?_append_of_ne hdrop (by decide) (hother hne).1,
      char?_append_of_ne hdrop (by decide) (hother hne).2⟩
  have hdate : date? (ds ++ c :: rest) = none := by
    rw [date?]
    cases hyear : field? 4 0 9999 (ds ++ c :: rest) with
    | none => rfl
    | some year =>
        obtain ⟨year, cs⟩ := year
        simp only [Option.bind_eq_bind, Option.bind_some, (hstop (by decide) hyear).1,
          Option.bind_none]
  have htime : time? (ds ++ c :: rest) = none := by
    rw [time?]
    cases hhour : field? 2 0 23 (ds ++ c :: rest) with
    | none => rfl
    | some hour =>
        obtain ⟨hour, cs⟩ := hour
        simp only [Option.bind_eq_bind, Option.bind_some, (hstop (by decide) hhour).2,
          Option.bind_none]
  rw [datetime?, hdate, htime]
  rfl

theorem datetime?_of_head (hc : isDigit 10 c = false) : datetime? (c :: rest) = none := by
  have hnone : ∀ d ∈ ([] : List Char), isDigit 10 d = true := by simp
  exact datetime?_eq_none hnone hc (by simp)

theorem specialFloat?_eq_none {negative : Bool} (hinf : c ≠ 'i') (hnan : c ≠ 'n') :
    specialFloat? negative (c :: rest) = none := by
  rw [specialFloat?, word?_of_ne hinf, word?_of_ne hnan]
  rfl

/-! ## Numbers -/

variable {negative : Bool}

theorem exponent?_lineFeed : exponent? ('\n' :: rest) = none := rfl

/-- Digits without a point are no floating-point number. -/
theorem decimalFloat?_of_isWhole (hds : IsWhole ds) :
    decimalFloat? negative (ds ++ '\n' :: rest) = none := by
  have hfraction : optional fraction? ('\n' :: rest) = (none, '\n' :: rest) :=
    optional_of_eq_none rfl
  have hexponent : optional exponent? ('\n' :: rest) = (none, '\n' :: rest) :=
    optional_of_eq_none exponent?_lineFeed
  rw [decimalFloat?, whole?_append hds (by decide) (by decide)]
  simp only [Option.bind_eq_bind, Option.bind_some, hfraction, hexponent]
  rfl

/-- Digits around a point are the number that they are nearest to. -/
theorem decimalFloat?_of_isNumeral {cs whole fraction : List Char} {m : Binary64.Magnitude}
    (h : IsNumeral cs whole fraction m) :
    decimalFloat? negative (cs ++ '\n' :: rest) = some (.finite negative m, '\n' :: rest) := by
  have hfraction : optional fraction? ('.' :: fraction ++ '\n' :: rest) =
      (some fraction, '\n' :: rest) := by
    apply optional_of_eq_some
    exact digits?_append h.digits h.nonempty (by decide) (by decide)
  have hexponent : optional exponent? ('\n' :: rest) = (none, '\n' :: rest) :=
    optional_of_eq_none exponent?_lineFeed
  have hvalue : Binary64.ofDecimal negative (ofParts whole fraction 0) = .finite negative m :=
    Binary64.ofDecimal_eq_finite_iff.2 h.readsAs
  have hfinite : Binary64.finite negative m ≠ .infinite false := by simp
  have hsplit : cs ++ '\n' :: rest = whole ++ '.' :: (fraction ++ '\n' :: rest) := by
    rw [h.eq, List.append_assoc, List.cons_append]
  rw [hsplit, decimalFloat?, whole?_append h.isWhole (by decide) (by decide)]
  simp only [Option.bind_eq_bind, Option.bind_some, ← List.cons_append, hfraction, hexponent,
    Option.getD_some, Option.getD_none, hvalue, if_neg hfinite]
  rfl

theorem int64?_natCast {n : Nat} (h : n < 2 ^ 63) : int64? (n : Int) = some (n : Int) := by
  have hlt : (n : Int) < 2 ^ 63 := by omega
  have hle : -2 ^ 63 ≤ (n : Int) := by omega
  exact if_pos ⟨hle, hlt⟩

/-- Digits without a point are an integer, if 64 bits hold it. -/
theorem decimalInteger?_of_isWhole (hds : IsWhole ds) (h : value ds < 2 ^ 63) :
    decimalInteger? (ds ++ '\n' :: rest) = some ((value ds : Int), '\n' :: rest) := by
  have hwhole : whole? (ds ++ '\n' :: rest) = some (ds, '\n' :: rest) :=
    whole?_append hds (by decide) (by decide)
  rw [decimalInteger?, sign_append hds.digits hds.nonempty]
  refine Option.bind_eq_some_iff.2 ⟨(ds, '\n' :: rest), hwhole, ?_⟩
  exact Option.bind_eq_some_iff.2 ⟨value ds, int64?_natCast h, rfl⟩

theorem integer?_of_isWhole (hds : IsWhole ds) (h : value ds < 2 ^ 63) :
    integer? (ds ++ '\n' :: rest) = some ((value ds : Int), '\n' :: rest) := by
  have hdecimal :
      decimalInteger? (ds ++ '\n' :: rest) = some ((value ds : Int), '\n' :: rest) :=
    decimalInteger?_of_isWhole hds h
  rcases hds.front with rfl | hfront
  · exact hdecimal
  · cases ds with
    | nil => exact absurd rfl hds.nonempty
    | cons d ds =>
        have hd : d ≠ '0' := fun heq => hfront (congrArg some heq)
        rw [← hdecimal, List.cons_append, integer?]
        all_goals
          intro cs heq
          exact hd (List.cons.inj heq).1

/-! ## Values up to the end of their line -/

/-- A text up to the end of its line is read as a value. -/
def Denotes (cs : List Char) (v : Value) : Prop :=
  ∀ rest, value? (skipBlanks (cs ++ '\n' :: rest)) = some (v, '\n' :: rest)

theorem skipBlanks_cons (hc : isBlank c = false) : skipBlanks (c :: rest) = c :: rest := by
  rw [skipBlanks, List.dropWhile_cons, hc]
  rfl

theorem value?_eq_scalar? (hbracket : c ≠ '[') (hbrace : c ≠ '\x7b') :
    value? (c :: rest) = scalar? (c :: rest) := by
  rw [value?, maxDepth, valueWithin?]
  · intro cs heq
    exact hbracket (List.cons.inj heq).1
  · intro cs heq
    exact hbrace (List.cons.inj heq).1

/-- A text that does not begin as something else denotes what its scalar is. -/
theorem denotes_of_scalar? {cs : List Char} {v : Value} (hblank : isBlank c = false)
    (hbracket : c ≠ '[') (hbrace : c ≠ '\x7b')
    (h : ∀ rest, scalar? (c :: cs ++ '\n' :: rest) = some (v, '\n' :: rest)) :
    Denotes (c :: cs) v := by
  intro rest
  rw [List.cons_append, skipBlanks_cons hblank, value?_eq_scalar? hbracket hbrace]
  exact h rest

/-- A character with which neither a blank nor a string, a truth value, an array or a table
begins. -/
structure IsNumberFront (c : Char) : Prop where
  /-- No blank. -/
  blank : isBlank c = false
  /-- No array and no table. -/
  brackets : c ≠ '[' ∧ c ≠ '\x7b'
  /-- No string. -/
  quotes : c ≠ '"' ∧ c ≠ '\''
  /-- No truth value. -/
  letters : c ≠ 't' ∧ c ≠ 'f'

theorem isNumberFront_of_isDigit (hc : isDigit 10 c = true) : IsNumberFront c := by
  have hne {other : Char} (hother : isDigit 10 other = false) : c ≠ other := ne_of_isDigit hc hother
  refine ⟨?_, ⟨hne (by decide), hne (by decide)⟩, ⟨hne (by decide), hne (by decide)⟩,
    ⟨hne (by decide), hne (by decide)⟩⟩
  have hspace : c ≠ ' ' := hne (by decide)
  have htab : c ≠ '\t' := hne (by decide)
  simp [isBlank, hspace, htab]

variable {cs : List Char} {n : Nat}

/-- What begins like a number is one, if it is no date. -/
theorem IsNumberFront.denotes {v : Value} (hc : IsNumberFront c)
    (hdatetime : ∀ rest, datetime? (c :: cs ++ '\n' :: rest) = none)
    (h : ∀ rest, (((float? (c :: cs ++ '\n' :: rest)).map fun (x, cs) => (Value.float x, cs)) <|>
      ((integer? (c :: cs ++ '\n' :: rest)).map fun (n, cs) => (Value.integer n, cs))) =
        some (v, '\n' :: rest)) :
    Denotes (c :: cs) v := by
  refine denotes_of_scalar? hc.blank hc.brackets.1 hc.brackets.2 fun rest => ?_
  have hstring : string? (c :: cs ++ '\n' :: rest) = none :=
    string?_eq_none hc.quotes.1 hc.quotes.2
  have hboolean : boolean? (c :: cs ++ '\n' :: rest) = none :=
    boolean?_eq_none hc.letters.1 hc.letters.2
  rw [scalar?, hstring, hboolean, hdatetime]
  exact h rest

/-- Digits, and digits around a point, are no dates. -/
theorem datetime?_of_isWhole (hds : IsWhole ds) (hc : isDigit 10 c = false)
    (hother : c ≠ '-' ∧ c ≠ ':') : datetime? (ds ++ c :: rest) = none :=
  datetime?_eq_none hds.digits hc fun _ => hother

/-- The digits of a natural number denote it. -/
theorem denotes_integer (h : n < 2 ^ 63) : Denotes (digitChars n) (.integer n) := by
  have hwhole := isWhole_digitChars n
  have hvalue := value_digitChars n
  generalize digitChars n = ds at hwhole hvalue
  subst hvalue
  have hfloat (rest : List Char) : float? (ds ++ '\n' :: rest) = none := by
    rw [float?, sign_append hwhole.digits hwhole.nonempty]
    simp only [decimalFloat?_of_isWhole hwhole]
    cases ds with
    | nil => exact absurd rfl hwhole.nonempty
    | cons d ds =>
        have hdigit := hwhole.digits d List.mem_cons_self
        exact specialFloat?_eq_none (ne_of_isDigit hdigit (by decide))
          (ne_of_isDigit hdigit (by decide))
  have hinteger (rest : List Char) :
      integer? (ds ++ '\n' :: rest) = some ((value ds : Int), '\n' :: rest) :=
    integer?_of_isWhole hwhole h
  have hdatetime (rest : List Char) : datetime? (ds ++ '\n' :: rest) = none :=
    datetime?_of_isWhole hwhole (by decide) (by decide)
  cases ds with
  | nil => exact absurd rfl hwhole.nonempty
  | cons d ds =>
      refine (isNumberFront_of_isDigit (hwhole.digits d List.mem_cons_self)).denotes hdatetime ?_
      intro rest
      rw [hfloat, hinteger]
      rfl

section

variable {whole fraction : List Char} {m : Binary64.Magnitude}

/-- Digits around a point denote the number that they are nearest to. -/
theorem denotes_of_isNumeral (h : IsNumeral cs whole fraction m) :
    Denotes cs (.float (.finite false m)) := by
  have hsplit (rest : List Char) :
      cs ++ '\n' :: rest = whole ++ '.' :: (fraction ++ '\n' :: rest) := by
    rw [h.eq, List.append_assoc, List.cons_append]
  have hfloat (rest : List Char) :
      float? (cs ++ '\n' :: rest) = some (.finite false m, '\n' :: rest) := by
    have hsign : sign (cs ++ '\n' :: rest) = (false, cs ++ '\n' :: rest) := by
      rw [hsplit]
      exact sign_append h.isWhole.digits h.isWhole.nonempty
    rw [float?, hsign]
    simp only [decimalFloat?_of_isNumeral h]
    rfl
  have hdatetime (rest : List Char) : datetime? (cs ++ '\n' :: rest) = none := by
    rw [hsplit]
    exact datetime?_of_isWhole h.isWhole (by decide) (by decide)
  obtain ⟨d, ds, hdigit, rfl⟩ : ∃ d ds, isDigit 10 d = true ∧ cs = d :: ds := by
    cases whole with
    | nil => exact absurd rfl h.isWhole.nonempty
    | cons d ds => exact ⟨d, _, h.isWhole.digits d List.mem_cons_self, h.eq⟩
  refine (isNumberFront_of_isDigit hdigit).denotes hdatetime ?_
  intro rest
  rw [hfloat]
  rfl

/-- A minus makes the number negative. -/
theorem denotes_minus_of_isNumeral (h : IsNumeral cs whole fraction m) :
    Denotes ('-' :: cs) (.float (.finite true m)) := by
  have hminus : IsNumberFront '-' := ⟨by decide, by decide, by decide, by decide⟩
  have hfloat (rest : List Char) :
      float? ('-' :: cs ++ '\n' :: rest) = some (.finite true m, '\n' :: rest) := by
    rw [List.cons_append, float?, sign]
    simp only [decimalFloat?_of_isNumeral h]
    rfl
  refine hminus.denotes (fun rest => datetime?_of_head (by decide)) ?_
  intro rest
  rw [hfloat]
  rfl

end

/-- A number as documents write it denotes it. -/
theorem denotes_float (x : Binary64) :
    Denotes (Binary64.Layout.document.write x).toList (.float x) := by
  have hspecial {c : Char} {cs : List Char} {x : Binary64} (hc : IsNumberFront c)
      (hdigit : isDigit 10 c = false)
      (hfloat : ∀ rest, float? (c :: cs ++ '\n' :: rest) = some (x, '\n' :: rest)) :
      Denotes (c :: cs) (.float x) := by
    refine hc.denotes (fun rest => datetime?_of_head hdigit) fun rest => ?_
    rw [hfloat]
    rfl
  cases x with
  | nan => exact hspecial ⟨by decide, by decide, by decide, by decide⟩ (by decide) fun _ => rfl
  | infinite negative =>
      cases negative with
      | false =>
          exact hspecial ⟨by decide, by decide, by decide, by decide⟩ (by decide) fun _ => rfl
      | true =>
          exact hspecial ⟨by decide, by decide, by decide, by decide⟩ (by decide) fun _ => rfl
  | finite negative m =>
      obtain ⟨whole, fraction, hnumeral⟩ := exists_isNumeral m
      cases negative with
      | false =>
          show Denotes (String.ofList (Binary64.Layout.document.magnitude m)).toList _
          rw [String.toList_ofList]
          exact denotes_of_isNumeral hnumeral
      | true =>
          show Denotes (String.ofList ('-' :: Binary64.Layout.document.magnitude m)).toList _
          rw [String.toList_ofList]
          exact denotes_minus_of_isNumeral hnumeral

/-- A truth value denotes itself. -/
theorem denotes_boolean (b : Bool) : Denotes (Config.boolean b).toList (.boolean b) := by
  cases b with
  | false => exact denotes_of_scalar? (by decide) (by decide) (by decide) fun _ => rfl
  | true => exact denotes_of_scalar? (by decide) (by decide) (by decide) fun _ => rfl

/-! ## Strings -/

/-- The parts of a string between quotes are read character by character up to the closing
quote. -/
theorem many_quotedChar (hcs : ∀ c ∈ cs, isUnescaped c = true) :
    let part : Reader (List Char) := fun cs => run? isUnescaped cs <|> escaped? cs
    (many part (cs.flatMap Config.quotedChar ++ '"' :: rest)).1.flatten = cs ∧
      (many part (cs.flatMap Config.quotedChar ++ '"' :: rest)).2 = '"' :: rest := by
  intro part
  induction cs with
  | nil =>
      have hend : many part ('"' :: rest) = ([], '"' :: rest) := many_of_eq_none rfl
      rw [List.flatMap_nil, List.nil_append, hend]
      exact ⟨rfl, rfl⟩
  | cons c cs ih =>
      obtain ⟨hflatten, hrest⟩ := ih fun d hd => hcs d (List.mem_cons_of_mem c hd)
      rw [List.flatMap_cons, List.append_assoc, Config.quotedChar]
      generalize cs.flatMap Config.quotedChar ++ '"' :: rest = text at hflatten hrest ⊢
      by_cases htab : c = '\t'
      · have hpart : part ('\\' :: 't' :: text) = some (['\t'], text) := rfl
        have hmany := many_of_eq_some hpart (Nat.lt_add_of_pos_right Nat.two_pos)
        rw [if_pos htab, htab, List.cons_append, List.cons_append, List.nil_append, hmany,
          List.flatten_cons, hflatten]
        exact ⟨rfl, hrest⟩
      · obtain ⟨hchar, hmore⟩ :
            (many part (c :: text)).1.flatten = c :: (many part text).1.flatten ∧
              (many part (c :: text)).2 = (many part text).2 :=
          many_run?_cons (hcs c List.mem_cons_self) text
        rw [if_neg htab, List.cons_append, List.nil_append, hchar, hmore, hflatten]
        exact ⟨rfl, hrest⟩

theorem basicString?_quotedChar (hcs : ∀ c ∈ cs, isUnescaped c = true) :
    basicString? ('"' :: (cs.flatMap Config.quotedChar ++ '"' :: rest)) =
      some (String.ofList cs, rest) := by
  let part : Reader (List Char) := fun cs => run? isUnescaped cs <|> escaped? cs
  obtain ⟨hflatten, hrest⟩ :
      (many part (cs.flatMap Config.quotedChar ++ '"' :: rest)).1.flatten = cs ∧
        (many part (cs.flatMap Config.quotedChar ++ '"' :: rest)).2 = '"' :: rest :=
    many_quotedChar hcs
  rw [basicString?, char?_self]
  simp only [Option.bind_eq_bind, Option.bind_some]
  show (char? '"' (many part (cs.flatMap Config.quotedChar ++ '"' :: rest)).2).bind _ = _
  rw [hrest, hflatten, char?_self]
  rfl

/-- A string that ends on its line and does not begin with a quote is no string of several lines. -/
theorem string?_eq_basicString? (h : cs.head? ≠ some '"') :
    string? ('"' :: (cs ++ '"' :: '\n' :: rest)) =
      basicString? ('"' :: (cs ++ '"' :: '\n' :: rest)) := by
  cases cs with
  | nil => rfl
  | cons c cs =>
      have hc : c ≠ '"' := by
        rintro rfl
        exact h rfl
      unfold string?
      split
      next heq => exact absurd (List.cons.inj (List.cons.inj heq).2).1 hc
      next => rfl
      next heq => exact absurd (List.cons.inj heq).1 (by decide)
      next hquote _ => exact absurd rfl (hquote _)

/-- What stands between the quotes does not begin with one. -/
theorem head?_quotedChar (hcs : ∀ c ∈ cs, isUnescaped c = true) :
    (cs.flatMap Config.quotedChar).head? ≠ some '"' := by
  cases cs with
  | nil => simp
  | cons c cs =>
      have hc := hcs c List.mem_cons_self
      rw [List.flatMap_cons, Config.quotedChar]
      by_cases htab : c = '\t'
      · simp [htab]
      · intro heq
        obtain rfl : c = '"' := by simpa [htab] using heq
        contradiction

/-- A string between quotes denotes it if its characters stand for themselves. -/
theorem denotes_quoted {s : String} (hs : ∀ c ∈ s.toList, isUnescaped c = true) :
    Denotes (Config.quoted s).toList (.string s) := by
  have htext : (Config.quoted s).toList =
      '"' :: (s.toList.flatMap Config.quotedChar ++ ['"']) := by
    simp only [Config.quoted, String.toList_append, String.toList_ofList]
    rfl
  rw [htext]
  refine denotes_of_scalar? (by decide) (by decide) (by decide) fun rest => ?_
  have hstring : string? ('"' :: (s.toList.flatMap Config.quotedChar ++ '"' :: '\n' :: rest)) =
      some (s, '\n' :: rest) := by
    rw [string?_eq_basicString? (head?_quotedChar hs), basicString?_quotedChar hs,
      String.ofList_toList]
  have hsplit : '"' :: (s.toList.flatMap Config.quotedChar ++ ['"']) ++ '\n' :: rest =
      '"' :: (s.toList.flatMap Config.quotedChar ++ '"' :: '\n' :: rest) := by simp
  rw [hsplit, scalar?, hstring]
  rfl

end Toml

end StoreClient
