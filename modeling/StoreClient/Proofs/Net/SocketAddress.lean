import StoreClient.Net.SocketAddress
import StoreClient.Proofs.Text.Readers

/-!
# How socket addresses are written

The rules below say which texts spell an address, and of which host and port, without a word on how
a text is read. The reader takes the longest match at each place and never goes back, yet it finds
the address in exactly the texts that spell one: after each part stands a character that cannot
continue it.

## Main definitions

* `Numeral.Spells` — digits spell a number.
* `Octets`, `Groups`, `SixteenBytes` — a text spells a host, or a part of one.
* `Spells` — a text spells an address.
-/

namespace StoreClient.Net.SocketAddress

open Text

/-! ## The rules -/

/-- Digits spell a number of some kind. -/
structure Numeral.Spells (f : Numeral) (ds : List Char) (n : Nat) : Prop where
  /-- There is a digit. -/
  nonempty : ds ≠ []
  /-- There is nothing but digits. -/
  digits : ∀ d ∈ ds, isDigit f.radix d = true
  /-- There are not too many. -/
  length_le : ∀ k, f.maxDigits = some k → ds.length ≤ k
  /-- A zero stands in front of other digits only where that is allowed. -/
  plain : f.leadingZeros = false → ds.head? = some '0' → ds.length = 1
  /-- They are the digits of the number. -/
  value : number f.radix ds = n
  /-- The number is not too great. -/
  lt_bound : n < f.bound

/-- Four octets with dots between them. -/
inductive Octets : List Char → List Nat → Prop
  /-- One after the other. -/
  | dotted {a b c d : List Char} {i j k l : Nat} (first : Numeral.octet.Spells a i)
      (second : Numeral.octet.Spells b j) (third : Numeral.octet.Spells c k)
      (fourth : Numeral.octet.Spells d l) :
      Octets (a ++ '.' :: (b ++ '.' :: (c ++ '.' :: d))) [i, j, k, l]

/-- One or more groups with colons between them. The flag says whether octets stand for the last
two. -/
inductive Groups : Bool → List Char → List Nat → Prop
  /-- A group alone. -/
  | single {ds : List Char} {g : Nat} (group : Numeral.group.Spells ds g) : Groups false ds [g]
  /-- Octets for two groups. -/
  | octets {cs : List Char} {a b c d : Nat} (octets : Octets cs [a, b, c, d]) :
      Groups true cs [a * 256 + b, c * 256 + d]
  /-- A group in front of others. -/
  | cons {dotted : Bool} {ds cs : List Char} {g : Nat} {gs : List Nat}
      (group : Numeral.group.Spells ds g) (rest : Groups dotted cs gs) :
      Groups dotted (ds ++ ':' :: cs) (g :: gs)

/-- Groups, or none at all. -/
inductive GroupsOrNone : Bool → List Char → List Nat → Prop
  /-- None. -/
  | none : GroupsOrNone false [] []
  /-- Some. -/
  | some {dotted : Bool} {cs : List Char} {gs : List Nat} (groups : Groups dotted cs gs) :
      GroupsOrNone dotted cs gs

/-- Eight groups, or fewer around two colons that stand for the missing ones. -/
inductive SixteenBytes : List Char → List Nat → Prop
  /-- All groups are written. -/
  | full {dotted : Bool} {cs : List Char} {gs : List Nat} (groups : Groups dotted cs gs)
      (eight : gs.length = 8) : SixteenBytes cs gs
  /-- Groups of zeros are left out; octets do not stand in front of these. -/
  | gap {dotted : Bool} {front back : List Char} {fs bs : List Nat}
      (before : GroupsOrNone false front fs) (after : GroupsOrNone dotted back bs)
      (missing : fs.length + bs.length < 8) :
      SixteenBytes (front ++ ':' :: ':' :: back)
        (fs ++ List.replicate (8 - fs.length - bs.length) 0 ++ bs)

/-- The scope of a host; one that is not written is zero. -/
inductive Scope : List Char → Nat → Prop
  /-- It is not written. -/
  | none : Scope [] 0
  /-- It stands behind a percent sign. -/
  | some {ds : List Char} {s : Nat} (scope : Numeral.scope.Spells ds s) : Scope ('%' :: ds) s

/-- A text spells an address. -/
inductive Spells : List Char → SocketAddress → Prop
  /-- Octets and a port. -/
  | v4 {cs ds : List Char} {os : List Nat} {p : Nat} (host : Octets cs os)
      (port : Numeral.port.Spells ds p) : Spells (cs ++ ':' :: ds) (.v4 os p)
  /-- Groups and a scope in brackets, and a port. -/
  | v6 {cs ss ds : List Char} {gs : List Nat} {s p : Nat} (host : SixteenBytes cs gs)
      (scope : Scope ss s) (port : Numeral.port.Spells ds p) :
      Spells ('[' :: (cs ++ (ss ++ ']' :: ':' :: ds))) (.v6 gs s p)

variable {cs ds rest : List Char} {n p : Nat} {os gs : List Nat} {f : Numeral} {first dotted : Bool}

/-! ## Numbers and octets -/

/-- The rules for a number are the tests of its reader. -/
theorem Numeral.spells_iff : f.Spells ds n ↔ (∀ d ∈ ds, isDigit f.radix d = true) ∧
    number f.radix ds = n ∧ ¬ (ds.isEmpty || f.maxDigits.any (· < ds.length) || f.bound ≤ n
      || (!f.leadingZeros && ds.head? == some '0' && ds.length != 1)) = true := by
  simp only [Bool.or_eq_true, not_or, List.isEmpty_iff, Option.any_eq_true, decide_eq_true_eq,
    not_exists, not_and, Nat.not_lt, Nat.not_le, Bool.and_eq_true, Bool.not_eq_true', beq_iff_eq,
    bne_iff_ne, Decidable.not_not, and_imp]
  constructor
  · intro h
    exact ⟨h.digits, h.value, ⟨⟨h.nonempty, h.length_le⟩, h.lt_bound⟩, h.plain⟩
  · rintro ⟨digits, value, ⟨⟨nonempty, length_le⟩, lt_bound⟩, plain⟩
    exact ⟨nonempty, digits, length_le, plain, value, lt_bound⟩

/-- A number is read where digits spell it and no further digit follows. -/
theorem number?_eq_some_iff : number? f cs = some (n, rest) ↔
    ∃ ds, cs = ds ++ rest ∧ f.Spells ds n ∧ Ended (isDigit f.radix) rest := by
  constructor
  · intro h
    simp only [number?] at h
    split at h
    · contradiction
    next hfine =>
      obtain ⟨rfl, rfl⟩ := by simpa using h
      have hdigits : ∀ d ∈ cs.takeWhile (isDigit f.radix), isDigit f.radix d = true :=
        List.all_eq_true.1 List.all_takeWhile
      exact ⟨_, List.takeWhile_append_dropWhile.symm, Numeral.spells_iff.2 ⟨hdigits, rfl, hfine⟩,
        ended_dropWhile cs⟩
  · rintro ⟨ds, rfl, h, hended⟩
    obtain ⟨hdigits, hvalue, hfine⟩ := Numeral.spells_iff.1 h
    simp only [number?, takeWhile_append_of_ended hdigits hended,
      dropWhile_append_of_ended hdigits hended, hvalue]
    exact if_neg hfine

theorem number?_append (h : f.Spells ds n) (hended : Ended (isDigit f.radix) rest) :
    number? f (ds ++ rest) = some (n, rest) :=
  number?_eq_some_iff.2 ⟨ds, rfl, h, hended⟩

theorem number?_eq_none (h : Ended (isDigit f.radix) cs) : number? f cs = none := by
  have hnone : cs.takeWhile (isDigit f.radix) = [] := by
    rw [← cs.nil_append]
    exact takeWhile_append_of_ended (by simp) h
  simp [number?, hnone]

/-- Four octets are read where a text spells them and no further digit follows. -/
theorem octets?_eq_some_iff : octets? cs = some (os, rest) ↔
    ∃ ds, cs = ds ++ rest ∧ Octets ds os ∧ Ended (isDigit 10) rest := by
  constructor
  · intro h
    simp only [octets?, Option.bind_eq_bind, Option.bind_eq_some_iff, Prod.exists,
      number?_eq_some_iff, char?_eq_some_iff, Option.pure_def, Option.some.injEq,
      Prod.mk.injEq] at h
    obtain ⟨i, _, ⟨a, rfl, ha, -⟩, _, rfl, j, _, ⟨b, rfl, hb, -⟩, _, rfl, k, _, ⟨c, rfl, hc, -⟩,
      _, rfl, l, _, ⟨d, rfl, hd, hended⟩, rfl, rfl⟩ := h
    exact ⟨_, by simp, .dotted ha hb hc hd, hended⟩
  · rintro ⟨_, rfl, ⟨ha, hb, hc, hd⟩, hended⟩
    have hdot {t : List Char} : Ended (isDigit 10) ('.' :: t) := ended_cons (by decide)
    simp [octets?, number?_append ha hdot, number?_append hb hdot, number?_append hc hdot,
      number?_append hd hended, char?_self]

theorem octets?_eq_none (h : Ended (isDigit 10) cs) : octets? cs = none := by
  have hfirst : number? .octet cs = none := number?_eq_none h
  rw [octets?, hfirst]
  rfl

/-- Digits of a group that no dot follows are no octets. -/
theorem octets?_of_digits (hds : ∀ d ∈ ds, isDigit 16 d = true) (hended : Ended (isDigit 16) rest)
    (hdot : rest.head? ≠ some '.') : octets? (ds ++ rest) = none := by
  rw [Option.eq_none_iff_forall_ne_some]
  rintro ⟨os, back⟩ h
  obtain ⟨_, heq, ⟨ha, -, -, -⟩, -⟩ := octets?_eq_some_iff.1 h
  rw [List.append_assoc, List.cons_append] at heq
  -- Octets begin with digits up to a dot, and the digits of a text end at one place only.
  have hoctet (d : Char) (hd : d ∈ _) : isDigit 16 d = true :=
    isDigit_mono (by decide) (ha.digits d hd)
  have hrest := congrArg (List.dropWhile (isDigit 16)) heq
  rw [dropWhile_append_of_ended hds hended,
    dropWhile_append_of_ended hoctet (ended_cons (by decide))] at hrest
  rw [hrest] at hdot
  exact hdot rfl

/-! ## Groups -/

/-- The colon that parts a group from the one before it. -/
def lead (first : Bool) : List Char := if first then [] else [':']

theorem separator?_eq_some_iff : separator? first cs = some rest ↔ cs = lead first ++ rest := by
  cases first with
  | true => simp [separator?, lead]
  | false => exact char?_eq_some_iff

theorem separator?_lead (first : Bool) (cs : List Char) :
    separator? first (lead first ++ cs) = some cs :=
  separator?_eq_some_iff.2 rfl

/-- No group follows: there is no digit of one, no dot, and no colon before such a digit. -/
structure Stops (rest : List Char) : Prop where
  /-- There is no digit. -/
  ended : Ended (isDigit 16) rest
  /-- There is no dot. -/
  no_dot : rest.head? ≠ some '.'
  /-- There is no colon before a digit. -/
  no_group : ∀ t, rest = ':' :: t → Ended (isDigit 16) t

theorem groups_of_octets {a b c d : Nat} (room : Nat) (first : Bool)
    (h : octets? cs = some ([a, b, c, d], rest)) :
    groups (room + 2) first (lead first ++ cs) = ([a * 256 + b, c * 256 + d], true, rest) := by
  rw [groups]
  simp [separator?_lead, h]

theorem groups_of_group {g : Nat} (room : Nat) (first : Bool) (hoctets : octets? cs = none)
    (h : number? .group cs = some (g, rest)) : groups (room + 1) first (lead first ++ cs) =
      (g :: (groups room false rest).1, (groups room false rest).2) := by
  rw [groups]
  simp [separator?_lead, hoctets, h]

/-- Where no group follows, none is read. -/
theorem Stops.groups_eq (h : Stops rest) (room : Nat) (first : Bool) :
    groups room first rest = ([], false, rest) := by
  cases room with
  | zero => rfl
  | succ room =>
      cases hseparator : separator? first rest with
      | none => simp [groups, hseparator]
      | some t =>
          have hended : Ended (isDigit 16) t := by
            rw [separator?_eq_some_iff] at hseparator
            cases first with
            | true =>
                obtain rfl : rest = t := hseparator
                exact h.ended
            | false => exact h.no_group t hseparator
          have hoctets : octets? t = none := octets?_eq_none hended.decimal
          have hnumber : number? .group t = none := number?_eq_none hended
          simp [groups, hseparator, hoctets, hnumber]

/-- The reader takes all groups up to where none follows. -/
theorem Groups.groups_eq (h : Groups dotted cs gs) (hstops : Stops rest) {room : Nat}
    (hroom : gs.length ≤ room) (first : Bool) :
    groups room first (lead first ++ (cs ++ rest)) = (gs, dotted, rest) := by
  induction h generalizing room first with
  | single group =>
      cases room with
      | zero => simp at hroom
      | succ room =>
          rw [groups_of_group room first
            (octets?_of_digits group.digits hstops.ended hstops.no_dot)
            (number?_append group hstops.ended), hstops.groups_eq]
  | octets octets =>
      obtain ⟨room, rfl⟩ := Nat.exists_eq_add_of_le' hroom
      exact groups_of_octets room first
        (octets?_eq_some_iff.2 ⟨_, rfl, octets, hstops.ended.decimal⟩)
  | @cons dotted ds cs g gs group _ ih =>
      cases room with
      | zero => simp at hroom
      | succ room =>
          have hcolon : Ended (isDigit 16) (':' :: (cs ++ rest)) := ended_cons (by decide)
          have hrest : groups room false (':' :: (cs ++ rest)) = (gs, dotted, rest) :=
            ih (by simpa using hroom) false
          rw [List.append_assoc, List.cons_append,
            groups_of_group room first (octets?_of_digits group.digits hcolon (by simp))
              (number?_append group hcolon), hrest]

/-- What the reader takes is groups, as many as there is room for, or nothing. -/
theorem of_groups {room : Nat} (h : groups room first cs = (gs, dotted, rest)) :
    gs.length ≤ room ∧ (gs = [] ∧ dotted = false ∧ rest = cs ∨
      ∃ front, cs = lead first ++ (front ++ rest) ∧ Groups dotted front gs) := by
  induction room generalizing first cs gs with
  | zero =>
      obtain ⟨rfl, rfl, rfl⟩ := by simpa [groups] using h
      exact ⟨Nat.le_refl 0, .inl ⟨rfl, rfl, rfl⟩⟩
  | succ room ih =>
      simp only [groups] at h
      split at h
      next a b c d back hdotted =>
        obtain ⟨rfl, rfl, rfl⟩ := by simpa using h
        split at hdotted
        · contradiction
        next hroom =>
          obtain ⟨t, hseparator, hoctets⟩ := Option.bind_eq_some_iff.1 hdotted
          obtain ⟨front, rfl, octets, -⟩ := octets?_eq_some_iff.1 hoctets
          have hlength : 2 ≤ room + 1 := by omega
          exact ⟨hlength, .inr ⟨front, separator?_eq_some_iff.1 hseparator, .octets octets⟩⟩
      next =>
        split at h
        next hnone =>
          obtain ⟨rfl, rfl, rfl⟩ := by simpa using h
          exact ⟨Nat.zero_le _, .inl ⟨rfl, rfl, rfl⟩⟩
        next g back hgroup =>
          obtain ⟨t, hseparator, hnumber⟩ := Option.bind_eq_some_iff.1 hgroup
          obtain ⟨ds, rfl, group, -⟩ := number?_eq_some_iff.1 hnumber
          have hcs := separator?_eq_some_iff.1 hseparator
          rcases hmore : groups room false back with ⟨more, ends, last⟩
          obtain ⟨rfl, rfl, rfl⟩ := by simpa [hmore] using h
          obtain ⟨hlength, ⟨rfl, rfl, rfl⟩ | ⟨front, rfl, groups⟩⟩ := ih hmore
          · exact ⟨Nat.succ_le_succ hlength, .inr ⟨ds, hcs, .single group⟩⟩
          · refine ⟨Nat.succ_le_succ hlength, .inr ⟨ds ++ ':' :: front, ?_, .cons group groups⟩⟩
            rw [hcs, List.append_assoc]
            rfl

/-- At the front of a text the reader takes groups or none. -/
theorem groupsOrNone_of_groups {room : Nat} (h : groups room true cs = (gs, dotted, rest)) :
    gs.length ≤ room ∧ ∃ front, cs = front ++ rest ∧ GroupsOrNone dotted front gs := by
  obtain ⟨hlength, ⟨rfl, rfl, rfl⟩ | ⟨front, hcs, groups⟩⟩ := of_groups h
  · exact ⟨hlength, [], rfl, .none⟩
  · exact ⟨hlength, front, hcs, .some groups⟩

theorem GroupsOrNone.groups_eq (h : GroupsOrNone dotted cs gs) (hstops : Stops rest) {room : Nat}
    (hroom : gs.length ≤ room) : groups room true (cs ++ rest) = (gs, dotted, rest) := by
  cases h with
  | none => exact hstops.groups_eq room true
  | some groups => exact groups.groups_eq hstops hroom true

/-! ## Hosts and addresses -/

/-- Groups stop before two colons. -/
theorem stops_colons : Stops (':' :: ':' :: cs) where
  ended := ended_cons (by decide)
  no_dot := by simp
  no_group := by
    intro t ht
    obtain rfl : ':' :: cs = t := by simpa using ht
    exact ended_cons (by decide)

/-- Groups stop before a character that is not found among them. -/
theorem stops_cons {c : Char} (hdigit : isDigit 16 c = false) (hdot : c ≠ '.') (hcolon : c ≠ ':') :
    Stops (c :: cs) where
  ended := ended_cons hdigit
  no_dot := by simpa using hdot
  no_group := by
    intro t ht
    exact absurd (List.cons.inj ht).1 hcolon

/-- After eight groups nothing more is read. -/
theorem sixteenBytes?_of_eight (h : groups 8 true cs = (gs, dotted, rest)) (eight : gs.length = 8) :
    sixteenBytes? cs = some (gs, rest) := by
  simp [sixteenBytes?, h, eight]

/-- After fewer groups, of which none are octets, two colons and more groups are read. -/
theorem sixteenBytes?_of_fewer (h : groups 8 true cs = (gs, dotted, rest))
    (fewer : gs.length ≠ 8) : sixteenBytes? cs = if dotted then none else
      ((char? ':' rest).bind (char? ':')).map fun t =>
        let (more, _, t) := groups (7 - gs.length) true t
        (gs ++ List.replicate (8 - gs.length - more.length) 0 ++ more, t) := by
  cases dotted with
  | true => simp [sixteenBytes?, h, fewer, failure]
  | false =>
      simp only [sixteenBytes?, h, fewer, Bool.false_eq_true, if_false, Option.bind_eq_bind,
        Option.map_eq_bind, Option.bind_assoc]
      rfl

/-- Sixteen bytes are read where a text spells them and no group follows. -/
theorem SixteenBytes.sixteenBytes?_eq (h : SixteenBytes cs gs) (hstops : Stops rest) :
    sixteenBytes? (cs ++ rest) = some (gs, rest) := by
  cases h with
  | full groups eight =>
      exact sixteenBytes?_of_eight (groups.groups_eq hstops (Nat.le_of_eq eight) true) eight
  | @gap dotted front back fs bs before after missing =>
      have hcs : front ++ ':' :: ':' :: back ++ rest = front ++ ':' :: ':' :: (back ++ rest) := by
        simp
      have hfront : groups 8 true (front ++ ':' :: ':' :: (back ++ rest)) =
          (fs, false, ':' :: ':' :: (back ++ rest)) :=
        before.groups_eq stops_colons (by omega)
      have hback : groups (7 - fs.length) true (back ++ rest) = (bs, dotted, rest) :=
        after.groups_eq hstops (by omega)
      rw [hcs, sixteenBytes?_of_fewer hfront (by omega)]
      simp [char?_self, hback]

theorem of_sixteenBytes? (h : sixteenBytes? cs = some (gs, rest)) :
    ∃ front, cs = front ++ rest ∧ SixteenBytes front gs := by
  rcases hfront : groups 8 true cs with ⟨fs, ends, t⟩
  obtain ⟨hlength, front, rfl, before⟩ := groupsOrNone_of_groups hfront
  by_cases eight : fs.length = 8
  · obtain ⟨rfl, rfl⟩ := by simpa [sixteenBytes?_of_eight hfront eight] using h
    cases before with
    | none => simp at eight
    | some groups => exact ⟨front, rfl, .full groups eight⟩
  · rw [sixteenBytes?_of_fewer hfront eight] at h
    cases ends with
    | true => simp at h
    | false =>
        obtain ⟨u, hcolons, hback⟩ := Option.map_eq_some_iff.1 h
        obtain ⟨_, hcolon, hu⟩ := Option.bind_eq_some_iff.1 hcolons
        obtain rfl := char?_eq_some_iff.1 hu
        obtain rfl := char?_eq_some_iff.1 hcolon
        rcases hmore : groups (7 - fs.length) true u with ⟨bs, dotted, last⟩
        obtain ⟨hroom, back, rfl, after⟩ := groupsOrNone_of_groups hmore
        obtain ⟨rfl, rfl⟩ := by simpa [hmore] using hback
        have missing : fs.length + bs.length < 8 := by omega
        refine ⟨front ++ ':' :: ':' :: back, by simp, ?_⟩
        have hgap := SixteenBytes.gap before after missing
        rwa [List.append_assoc] at hgap

theorem port?_eq_some_iff : port? cs = some (p, rest) ↔ ∃ ds, cs = ':' :: (ds ++ rest) ∧
    Numeral.port.Spells ds p ∧ Ended (isDigit 10) rest := by
  constructor
  · intro h
    obtain ⟨t, hcolon, hnumber⟩ := Option.bind_eq_some_iff.1 h
    obtain ⟨ds, rfl, port, hended⟩ := number?_eq_some_iff.1 hnumber
    exact ⟨ds, char?_eq_some_iff.1 hcolon, port, hended⟩
  · rintro ⟨ds, rfl, port, hended⟩
    rw [port?, char?_self]
    exact number?_append port hended

theorem v4?_of_octets {host : List Char} (octets : Octets host os)
    (port : Numeral.port.Spells ds p) : v4? (host ++ ':' :: ds) = some (.v4 os p, []) := by
  have hoctets : octets? (host ++ ':' :: ds) = some (os, ':' :: ds) :=
    octets?_eq_some_iff.2 ⟨host, rfl, octets, ended_cons (by decide)⟩
  have hport : port? (':' :: ds) = some (p, []) :=
    port?_eq_some_iff.2 ⟨ds, by simp, port, ended_nil⟩
  simp [v4?, hoctets, hport]

theorem spells_of_v4? {address : SocketAddress} (h : v4? cs = some (address, [])) :
    Spells cs address := by
  simp only [v4?, Option.bind_eq_bind, Option.bind_eq_some_iff, Prod.exists, Option.pure_def,
    Option.some.injEq, Prod.mk.injEq] at h
  obtain ⟨os, _, hoctets, p, _, hport, rfl, rfl⟩ := h
  obtain ⟨host, rfl, octets, -⟩ := octets?_eq_some_iff.1 hoctets
  obtain ⟨ds, rfl, port, -⟩ := port?_eq_some_iff.1 hport
  rw [List.append_nil]
  exact .v4 octets port

/-- The short form does not begin with a bracket. -/
theorem v4?_bracket : v4? ('[' :: cs) = none := by
  have hoctets : octets? ('[' :: cs) = none := octets?_eq_none (ended_cons (by decide))
  simp [v4?, hoctets]

theorem v6?_of_sixteenBytes {host ss : List Char} {s : Nat} (bytes : SixteenBytes host gs)
    (scope : Scope ss s) (port : Numeral.port.Spells ds p) :
    v6? ('[' :: (host ++ (ss ++ ']' :: ':' :: ds))) = some (.v6 gs s p, []) := by
  have hport : port? (':' :: ds) = some (p, []) :=
    port?_eq_some_iff.2 ⟨ds, by simp, port, ended_nil⟩
  cases scope with
  | none =>
      have hbytes : sixteenBytes? (host ++ ']' :: ':' :: ds) = some (gs, ']' :: ':' :: ds) :=
        bytes.sixteenBytes?_eq (stops_cons (by decide) (by decide) (by decide))
      have hpercent : char? '%' (']' :: ':' :: ds) = none := char?_of_ne (by decide)
      simp [v6?, char?_self, hbytes, hpercent, hport]
  | @some digits _ scope =>
      have hbytes : sixteenBytes? (host ++ '%' :: (digits ++ ']' :: ':' :: ds)) =
          some (gs, '%' :: (digits ++ ']' :: ':' :: ds)) :=
        bytes.sixteenBytes?_eq (stops_cons (by decide) (by decide) (by decide))
      have hscope : number? .scope (digits ++ ']' :: ':' :: ds) = some (s, ']' :: ':' :: ds) :=
        number?_append scope (ended_cons (by decide))
      simp [v6?, char?_self, hbytes, hscope, hport]

/-- Where no scope can be read, none is written. -/
theorem exists_scope (cs : List Char) :
    ∃ ss s, cs = ss ++ (((char? '%' cs).bind (number? .scope)).getD (0, cs)).2 ∧
      Scope ss s ∧ (((char? '%' cs).bind (number? .scope)).getD (0, cs)).1 = s := by
  cases hscope : (char? '%' cs).bind (number? .scope) with
  | none => exact ⟨[], 0, rfl, .none, rfl⟩
  | some read =>
      obtain ⟨t, hpercent, hnumber⟩ := Option.bind_eq_some_iff.1 hscope
      obtain ⟨ds, rfl, scope, -⟩ := number?_eq_some_iff.1 hnumber
      exact ⟨'%' :: ds, _, char?_eq_some_iff.1 hpercent, .some scope, rfl⟩

theorem spells_of_v6? {address : SocketAddress} (h : v6? cs = some (address, [])) :
    Spells cs address := by
  simp only [v6?, Option.bind_eq_bind, Option.bind_eq_some_iff, Prod.exists, char?_eq_some_iff,
    Option.pure_def, Option.some.injEq, Prod.mk.injEq] at h
  obtain ⟨_, rfl, gs, t, hbytes, _, hbracket, p, _, hport, rfl, rfl⟩ := h
  obtain ⟨host, rfl, bytes⟩ := of_sixteenBytes? hbytes
  obtain ⟨ss, s, ht, scope, hs⟩ := exists_scope t
  obtain ⟨ds, rfl, port, -⟩ := port?_eq_some_iff.1 hport
  rw [hbracket, List.append_nil] at ht
  rw [hs, ht]
  exact .v6 bytes scope port

/-! ## The reader -/

/-- A text is read as an address if and only if it spells it. -/
theorem ofText?_eq_some_iff {text : String} {address : SocketAddress} :
    ofText? text = some address ↔ Spells text.toList address := by
  unfold ofText?
  generalize text.toList = cs
  constructor
  · intro h
    split at h
    next hread =>
      obtain rfl := Option.some.inj h
      cases hv4 : v4? cs with
      | some read =>
          rw [hv4] at hread
          exact spells_of_v4? (hv4.trans hread)
      | none =>
          rw [hv4] at hread
          exact spells_of_v6? hread
    next => contradiction
  · intro h
    cases h with
    | v4 host port => simp [v4?_of_octets host port]
    | v6 host scope port => simp [v4?_bracket, v6?_of_sixteenBytes host scope port]

/-- Zeros stand in front of groups, scopes and ports, but not of octets. -/
example : (ofText? "[0001::10.0.0.1%007]:09090").isSome ∧ ofText? "10.0.0.01:9090" = none := by
  decide +kernel

end StoreClient.Net.SocketAddress
