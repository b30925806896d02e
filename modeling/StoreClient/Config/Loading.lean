import StoreClient.Config.Decoding
import StoreClient.Config.Validation
import StoreClient.Toml.Document

/-!
# Loading configurations

A configuration is read from a text in three stages: the text is a document, the document describes
a configuration, and the configuration is usable. Each stage has its own errors.
-/

namespace StoreClient

/-- Why a file gives no text. -/
inductive FileError where
  /-- There is no such file. -/
  | missing
  /-- It is a directory. -/
  | directory
  /-- Its bytes are no text. -/
  | notText
deriving DecidableEq, Repr

/-- The text of an error. -/
def FileError.message : FileError → String
  | .missing => "IO error: No such file or directory (os error 2)"
  | .directory => "IO error: Is a directory (os error 21)"
  | .notText => "IO error: stream did not contain valid UTF-8"

/-- What is found under a path. -/
inductive File where
  /-- Nothing. -/
  | missing
  /-- A directory. -/
  | directory
  /-- A file with these bytes. -/
  | bytes (content : ByteArray)

/-- The text of a file, whose encoding is UTF-8. -/
def File.text : File → Except FileError String
  | .missing => .error .missing
  | .directory => .error .directory
  | .bytes content =>
    match String.fromUTF8? content with
    | some text => .ok text
    | none => .error .notText

/-- Why no configuration was loaded. -/
inductive LoadError where
  /-- There is no text. -/
  | file (e : FileError)
  /-- The text is no document. -/
  | malformed
  /-- The document describes no configuration. -/
  | undecodable (e : DecodeError)
  /-- The configuration is not usable. -/
  | unusable (problems : List Problem)

namespace Config

/-- The configuration, if it is usable. -/
def validate (c : Config) : Except LoadError Config :=
  if c.problems.isEmpty then .ok c else .error (.unusable c.problems)

/-- The usable configuration that a document describes. -/
def ofDocument (document : Toml.Table) : Except LoadError Config :=
  match decode document with
  | .ok c => c.validate
  | .error e => .error (.undecodable e)

/-- The usable configuration that a text describes. -/
def parse (text : String) : Except LoadError Config :=
  match Toml.document? text with
  | some document => ofDocument document
  | none => .error .malformed

/-- The usable configuration that a file describes. -/
def load (file : File) : Except LoadError Config :=
  match file.text with
  | .ok text => parse text
  | .error e => .error (.file e)

end Config

end StoreClient
