import StoreClient.Text.Digit
import StoreClient.Text.Pattern.Cursor

/-!
# Backslashes in patterns

After a backslash a sign stands for itself, and a letter for a character, a class of characters or a
place. Digits and the other letters may not stand there.
-/

namespace StoreClient.Text.Pattern

/-- What a part of a pattern without further parts stands for. -/
inductive Atom where
  /-- A character. -/
  | char (c : Char)
  /-- A class of characters. -/
  | set (test : Char → Bool)
  /-- A place. -/
  | place (p : Place)

/-- Whether a character stands for itself after a backslash. -/
def isEscapable (c : Char) : Bool := isAscii c && !c.isAlphanum && c != '<' && c != '>'

/-- The character that a letter after a backslash stands for. -/
def letterChar? : Char → Option Char
  | 'a' => some '\x07'
  | 'f' => some '\x0c'
  | 'n' => some '\n'
  | 'r' => some '\r'
  | 't' => some '\t'
  | 'v' => some '\x0b'
  | _ => none

/-- The edges of words that a character after a backslash stands for. -/
def wordPlace? : Char → Option Place
  | 'b' => some .wordEdge
  | 'B' => some .noWordEdge
  | '<' => some .wordStart
  | '>' => some .wordFinish
  | _ => none

namespace Scan

/-- Reads so many hexadecimal digits as a number. -/
def hexadecimal : (count : Nat) → (soFar : Nat) → Scan Nat
  | 0, n => return n
  | count + 1, n => do
    skip
    match digit? 16 (← char) with
    | some d => hexadecimal count (16 * n + d)
    | none => failure

/-- Reads a character by its code point of so many digits. One of two digits is a byte and has to be
ASCII where classes hold ASCII only. -/
def codePoint (count : Nat) : Scan Atom := do
  let n ← hexadecimal count 0
  if count = 2 && 0x80 ≤ n && !(← switches).allScripts then failure
  if h : n.isValidChar then return .char (.ofNatAux n h) else failure

/-- Reads a backslash and what stands after it. Edges of words and classes that a letter names are
those of ASCII, and can be written only where classes hold ASCII only. -/
def escape : Scan Atom := do
  sign '\\'
  let c ← char
  if c = 'x' then codePoint 2
  else if c = 'u' then codePoint 4
  else if c = 'U' then codePoint 8
  else if c = 'A' then return .place .start
  else if c = 'z' then return .place .finish
  else if isEscapable c then return .char c
  else if let some d := letterChar? c then return .char d
  else
    if (← switches).allScripts then failure
    match wordPlace? c, letterClass? c with
    | some p, _ => return .place p
    | none, some test => return .set test
    | none, none => failure

end Scan

end StoreClient.Text.Pattern
