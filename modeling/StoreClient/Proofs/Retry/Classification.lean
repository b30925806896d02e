import StoreClient.Retry.Conflict

/-!
# What makes a failure a conflict

A failure with a code is judged by the code alone. A failure without one is a conflict when one of
the two conflict codes of the store occurs in its message or in that of any failure behind it,
wherever it stands there. So nothing that is put around a failure without a code hides a conflict.

## Main definitions

* `Mentions` — one text occurs in another.
* `Failure.Conflicting` — a failure is a conflict, by its code or by some message.
* `Failure.behind`, `Failure.wrapped` — a failure as the source of others without a code.
-/

namespace StoreClient.Retry

/-! ## Texts in texts -/

/-- One text occurs in another, with any texts before it and after it. -/
def Mentions (message name : String) : Prop := ∃ before after, message = before ++ name ++ after

/-- The search tries every place, so overlapping occurrences make no difference. -/
theorem occursIn_iff {needle hay : List Char} : occursIn needle hay = true ↔ needle <:+: hay := by
  induction hay with
  | nil => rw [occursIn, List.isEmpty_iff, List.infix_nil]
  | cons c cs ih =>
      rw [occursIn, Bool.or_eq_true, List.isPrefixOf_iff_prefix, ih, List.infix_cons_iff]

theorem mentions_iff {message name : String} :
    Mentions message name ↔ name.toList <:+: message.toList := by
  constructor
  · rintro ⟨before, after, rfl⟩
    refine ⟨before.toList, after.toList, ?_⟩
    rw [String.toList_append, String.toList_append]
  · rintro ⟨before, after, hmessage⟩
    refine ⟨String.ofList before, String.ofList after, String.toList_inj.1 ?_⟩
    rw [String.toList_append, String.toList_append, String.toList_ofList, String.toList_ofList,
      hmessage]

theorem namesConflict_iff {message : String} :
    namesConflict message = true ↔ Mentions message "OC000" ∨ Mentions message "OC001" := by
  rw [namesConflict, Bool.or_eq_true, occursIn_iff, occursIn_iff, mentions_iff, mentions_iff]
  rfl

theorem isConflictCode_iff {code : String} :
    isConflictCode code = true ↔ code = "OC000" ∨ code = "OC001" ∨ code = "40001" := by
  rw [isConflictCode, Bool.or_eq_true, Bool.or_eq_true, beq_iff_eq, beq_iff_eq, beq_iff_eq,
    or_assoc]
  rfl

/-! ## Conflicts -/

namespace Failure

/-- What makes a failure a conflict. -/
inductive Conflicting (f : Failure) : Prop
  /-- It has the code of a conflict. -/
  | code {code : String} (present : f.code = some code)
      (known : code = "OC000" ∨ code = "OC001" ∨ code = "40001")
  /-- It has no code, and one of the messages from its own on mentions that of a conflict. -/
  | text {message : String} (absent : f.code = none) (mem : message ∈ f.message :: f.sources)
      (named : Mentions message "OC000" ∨ Mentions message "OC001")

variable {f : Failure} {code : String}

/-- The decision is exact. -/
theorem isConflict_iff : f.isConflict = true ↔ f.Conflicting := by
  rw [isConflict]
  cases hcode : f.code with
  | some code =>
      rw [isConflictCode_iff]
      constructor
      · intro known
        exact .code hcode known
      · rintro (⟨present, known⟩ | ⟨absent⟩)
        · obtain rfl := Option.some.inj (hcode.symm.trans present)
          exact known
        · exact absurd (hcode.symm.trans absent) (by simp)
  | none =>
      rw [List.any_eq_true]
      constructor
      · rintro ⟨message, mem, named⟩
        exact .text hcode mem (namesConflict_iff.1 named)
      · rintro (⟨present⟩ | ⟨-, mem, named⟩)
        · exact absurd (hcode.symm.trans present) (by simp)
        · exact ⟨_, mem, namesConflict_iff.2 named⟩

/-- A code that is not that of a conflict settles the matter. -/
theorem isConflict_of_code (present : f.code = some code)
    (other : ¬ (code = "OC000" ∨ code = "OC001" ∨ code = "40001")) : f.isConflict = false := by
  rw [Bool.eq_false_iff, Ne, isConflict_iff]
  rintro (⟨present', known⟩ | ⟨absent⟩)
  · obtain rfl := Option.some.inj (present.symm.trans present')
    exact other known
  · exact absurd (present.symm.trans absent) (by simp)

/-! ## Failures around failures -/

/-- A failure without a code whose source is this one. -/
def behind (f : Failure) (message : String) : Failure where
  code := none
  message := message
  sources := f.message :: f.sources

/-- A failure inside any number of failures without a code, the outermost first. -/
def wrapped (f : Failure) (messages : List String) : Failure :=
  messages.foldr (fun message inner => inner.behind message) f

theorem code_wrapped (absent : f.code = none) (messages : List String) :
    (f.wrapped messages).code = none := by
  cases messages with
  | nil => exact absent
  | cons => rfl

/-- One failure around a conflict without a code is a conflict. -/
theorem Conflicting.behind (h : f.Conflicting) (absent : f.code = none) (message : String) :
    (f.behind message).Conflicting := by
  cases h with
  | code present => exact absurd (absent.symm.trans present) (by simp)
  | text _ mem named => exact .text rfl (List.mem_cons_of_mem message mem) named

/-- Any number of failures around a conflict without a code are a conflict. -/
theorem Conflicting.wrapped (h : f.Conflicting) (absent : f.code = none) (messages : List String) :
    (f.wrapped messages).Conflicting := by
  induction messages with
  | nil => exact h
  | cons message messages ih => exact ih.behind (code_wrapped absent messages) message

end Failure

/-! ## Verdicts -/

section

variable {ε α : Type} [Reported ε] {result : Except ε α} {value : α} {e : ε}

theorem classify_eq_success : classify result = .success value ↔ result = .ok value := by
  cases result with
  | ok => simp [classify]
  | error e => cases h : (failure e).isConflict <;> simp [classify, h]

theorem classify_eq_conflict :
    classify result = .conflict e ↔ result = .error e ∧ (failure e).Conflicting := by
  cases result with
  | ok => simp [classify]
  | error other =>
      rw [classify]
      by_cases h : (failure other).isConflict = true
      · rw [if_pos h]
        constructor
        · rintro ⟨⟩
          exact ⟨rfl, Failure.isConflict_iff.1 h⟩
        · rintro ⟨⟨⟩, -⟩
          rfl
      · rw [if_neg h]
        constructor
        · intro hverdict
          contradiction
        · rintro ⟨⟨⟩, hconflict⟩
          exact absurd (Failure.isConflict_iff.2 hconflict) h

theorem classify_eq_fatal :
    classify result = .fatal e ↔ result = .error e ∧ ¬ (failure e).Conflicting := by
  cases result with
  | ok => simp [classify]
  | error other =>
      rw [classify]
      by_cases h : (failure other).isConflict = true
      · rw [if_pos h]
        constructor
        · intro hverdict
          contradiction
        · rintro ⟨⟨⟩, hother⟩
          exact absurd (Failure.isConflict_iff.1 h) hother
      · rw [if_neg h]
        constructor
        · rintro ⟨⟩
          exact ⟨rfl, fun hconflict => h (Failure.isConflict_iff.2 hconflict)⟩
        · rintro ⟨⟨⟩, -⟩
          rfl

end

/-- **Exact classification.** A failure counts as a conflict if and only if it is one by its code
or, without a code, by a message of its chain. So a conflict without a code stays a conflict inside
any number of failures without a code, and beside a code of another kind no message counts. A result
is judged accordingly, and its value or error is passed on. -/
theorem classified_exactly {ε α : Type} [Reported ε] :
    (∀ f : Failure, f.isConflict = true ↔ f.Conflicting) ∧
    (∀ (f : Failure) (messages : List String), f.code = none → f.isConflict = true →
      (f.wrapped messages).isConflict = true) ∧
    (∀ (f : Failure) (code : String), f.code = some code →
      ¬ (code = "OC000" ∨ code = "OC001" ∨ code = "40001") → ∀ message sources,
      ({ f with message, sources } : Failure).isConflict = false) ∧
    (∀ (result : Except ε α) (value : α), classify result = .success value ↔ result = .ok value) ∧
    (∀ (result : Except ε α) (e : ε),
      classify result = .conflict e ↔ result = .error e ∧ (failure e).Conflicting) ∧
    ∀ (result : Except ε α) (e : ε),
      classify result = .fatal e ↔ result = .error e ∧ ¬ (failure e).Conflicting := by
  refine ⟨fun f => f.isConflict_iff, ?_, ?_, fun _ _ => classify_eq_success,
    fun _ _ => classify_eq_conflict, fun _ _ => classify_eq_fatal⟩
  · intro f messages absent conflict
    exact Failure.isConflict_iff.2 ((Failure.isConflict_iff.1 conflict).wrapped absent messages)
  · intro f code present other message sources
    exact Failure.isConflict_of_code present other

/-- A conflict stays one inside two failures, and a table with the name of a conflict code in it
does not make one of a failure with another code. -/
theorem classified_inside_and_beside :
    let conflict : Failure := { code := none, message := "change conflicts (OC000)" }
    let missing : Failure := { code := some "42P01", message := "no table" }
    (conflict.wrapped ["job failed", "transfer failed"]).isConflict = true ∧
      ({ missing with message := "no table OC000_audit" } : Failure).isConflict = false := by
  intro conflict missing
  obtain ⟨-, hwrapped, hcode, -⟩ := classified_exactly (ε := Failure) (α := Unit)
  exact ⟨hwrapped conflict _ rfl (by decide), hcode missing "42P01" rfl (by decide) _ _⟩

end StoreClient.Retry
