/-!
# Readers

A reader takes what it recognises from the front of a text and returns what it means together with
the text after it, or declines. Repetition ends with the first step that declines or takes nothing,
so it needs no promise from the step.
-/

namespace StoreClient.Text

/-- Recognises something at the front of a text. -/
abbrev Reader (α : Type) := List Char → Option (α × List Char)

/-- Reads one given character. -/
def char? (expected : Char) : List Char → Option (List Char)
  | c :: cs => if c = expected then some cs else none
  | [] => none

/-- Reads the given characters. -/
def word? : (expected : List Char) → List Char → Option (List Char)
  | [], cs => some cs
  | e :: es, cs => (char? e cs).bind (word? es)

/-- Reads the characters at the front that satisfy a test; there is at least one. -/
def run? (test : Char → Bool) (cs : List Char) : Option (List Char × List Char) :=
  match cs.takeWhile test with
  | [] => none
  | run => some (run, cs.dropWhile test)

/-- Reads one character that satisfies a test. -/
def charOf? (test : Char → Bool) : Reader Char
  | c :: cs => if test c then some (c, cs) else none
  | [] => none

variable {α : Type}

/-- Reads something that need not be there. -/
def optional (item : Reader α) (cs : List Char) : Option α × List Char :=
  match item cs with
  | some (a, rest) => (some a, rest)
  | none => (none, cs)

/-- Reads items as long as there are any. -/
def many (item : Reader α) (cs : List Char) : List α × List Char :=
  match item cs with
  | none => ([], cs)
  | some (a, rest) =>
    if rest.length < cs.length then
      let (more, rest) := many item rest
      (a :: more, rest)
    else ([], cs)
termination_by cs.length

/-- Nothing is read where the item is declined. -/
theorem many_of_eq_none {item : Reader α} {cs : List Char} (h : item cs = none) :
    many item cs = ([], cs) := by
  rw [many, h]

/-- An item that takes something comes before all that follow it. -/
theorem many_of_eq_some {item : Reader α} {cs rest : List Char} {a : α}
    (h : item cs = some (a, rest)) (shorter : rest.length < cs.length) :
    many item cs = (a :: (many item rest).1, (many item rest).2) := by
  rw [many, h]
  simp [shorter]

/-- Reads one or more items with a separator between any two. -/
def separated (item : Reader α) (separator : Char) (cs : List Char) :
    Option (List α × List Char) := do
  let (first, cs) ← item cs
  let (more, cs) := many (fun cs => (char? separator cs).bind item) cs
  return (first :: more, cs)

end StoreClient.Text
