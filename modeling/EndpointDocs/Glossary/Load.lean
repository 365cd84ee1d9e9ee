import EndpointDocs.Files.Tree
import EndpointDocs.Glossary.Basic
import EndpointDocs.Glossary.Csv
import EndpointDocs.Log

/-!
Glossary sources: files with a term and its definition in the first two cells of each row. Rows
without a term, and rows whose term starts with a number sign, are skipped. A source that cannot be
read to its end leaves the terms of the rows that were handed on before: where a byte cannot be
decoded, those that end in an earlier chunk of the file.
-/
namespace EndpointDocs.Glossary

/-- Why a source could not be read to its end. -/
inductive LoadError where
  | file (error : FileError)
  | undecodable (fault : Text.Utf8.Fault)
  | oversizedCell
  deriving DecidableEq, Repr

def LoadError.message : LoadError → String
  | .file error => error.message
  | .undecodable fault => fault.message
  | .oversizedCell => "field larger than field limit (" ++ toString Csv.maxCell ++ ")"

def LoadError.refusal? : LoadError → Option FileError
  | .file error => error.refusal?
  | .undecodable _ | .oversizedCell => none

/-- The term and definition of a row, if it has a term. -/
def entryOf? (row : List String) : Option (String × String) :=
  match row with
  | [] => none
  | first :: rest =>
    let term := Text.trim first
    if term.isEmpty || term.toList.head? = some '#' then none
    else some (term, (rest.head?.map Text.trim).getD "")

def entriesOf (reading : Csv.Reading) : List (String × String) :=
  reading.rows.reverse.filterMap entryOf?

/-- The part of a text whose lines are known to be complete while more of it may come: a carriage
return at the very end may still be joined by a line feed. -/
def completeLines (text : List Char) : List Char :=
  let text := if text.getLast? = some '\r' then text.dropLast else text
  (text.reverse.dropWhile fun c => c != '\n' && c != '\r').reverse

/-- The entries of a source and what ended its reading early. -/
def readSource (bytes : List UInt8) : List (String × String) × Option LoadError :=
  match Text.Utf8.decodeStream bytes with
  | (text, none) =>
    let reading := (Csv.read text).close
    (entriesOf reading, if reading.oversized then some .oversizedCell else none)
  | (text, some fault) =>
    -- only the complete lines of the chunks before the fault have become rows
    let reading := Csv.read (completeLines text)
    (entriesOf reading, some (if reading.oversized then .oversizedCell else .undecodable fault))

/-- Adds the entries of the source at `path`; the number of entries, or what ended the reading. -/
def load (glossary : Glossary) (tree : Tree) (path : Path) : Glossary × Except LoadError Nat :=
  match tree.read path with
  | .error error => (glossary, .error (.file error))
  | .ok bytes =>
    let (entries, failure) := readSource bytes
    (glossary.addAll entries,
      match failure with
      | none => .ok entries.length
      | some error => .error error)

/-- Adds the entries of sources in order. The sources that failed come back, and the log tells of
each source; a path that is refused before the system is asked ends the loading. -/
def loadAll (glossary : Glossary) (tree : Tree) :
    List Path → Glossary × Log × Except FileError (List Path)
  | [] => (glossary, [], .ok [])
  | path :: rest =>
    match glossary.load tree path with
    | (loaded, .error error) =>
      match error.refusal? with
      | some refusal => (loaded, [], .error refusal)
      | none =>
        let entry := LogEntry.error
          (Wide.ofString "Error loading glossary " ++ path.text ++ ": " ++ error.message)
        let (final, log, failed) := loaded.loadAll tree rest
        (final, entry :: log, failed.map (path :: ·))
    | (loaded, .ok count) =>
      let entry := LogEntry.info
        (Wide.ofString ("loaded " ++ toString count ++ " glossary terms from ") ++ path.text)
      let (final, log, failed) := loaded.loadAll tree rest
      (final, entry :: log, failed)

end EndpointDocs.Glossary
