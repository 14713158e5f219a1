import CtxRemote.Library.Keyed
import CtxRemote.Library.Lines
import CtxRemote.Turso.DedupeKey

/-! The configuration file: `parse_toml_subset`, which reads it, and the two editors, each of which sets
one key: `set_toml_bool` for `set_daemon_enabled`, and `set_toml_section_value` for `set_auto_mode`.
-/

namespace CtxRemote.Config
open CtxRemote.Library
open CtxRemote.Turso (trim splitOnce)

-----------------------------------------------------------------------------------------
-- Comments
-----------------------------------------------------------------------------------------

/-- Where the loop of `strip_comment` stands: outside of quotes, or inside of single or double ones,
there perhaps behind a backslash.
-/
inductive Quoting where
  | plain
  | single
  | double (escaped : Bool)

def Quoting.next : Quoting → Char → Quoting
  | .double true, _ => .double false
  | .double false, c =>
      if c = '\\' then .double true else if c = '"' then .plain else .double false
  | .single, c => if c = '\'' then .plain else .single
  | .plain, c => if c = '"' then .double false else if c = '\'' then .single else .plain

/-- The loop of `strip_comment`. -/
def stripCommentFrom (quoting : Quoting) : List Char → List Char
  | [] => []
  | c :: line =>
      match quoting, c with
      | .plain, '#' => []
      | _, _ => c :: stripCommentFrom (quoting.next c) line

/-- `strip_comment`. -/
def stripComment (line : List Char) : List Char := stripCommentFrom .plain line

/-- A section header, which stands in brackets. -/
def isHeader (line : List Char) : Bool := line.head? = some '[' && line.getLast? = some ']'

/-- What a section header has in its brackets. -/
def headerName (line : List Char) : List Char := trim line.tail.dropLast

-----------------------------------------------------------------------------------------
-- Reading
-----------------------------------------------------------------------------------------

/-- `ConfigValue`. -/
structure ConfigValue where
  raw : List Char
  line : Nat

abbrev ConfigValues : Type := Keyed (List Char × ConfigValue) Prod.fst

/-- The section and the values behind some lines. -/
structure Parsing where
  sectionName : List Char := []
  values : ConfigValues := .empty

def fullKey (sectionName key : List Char) : List Char :=
  if sectionName.isEmpty then key else sectionName ++ '.' :: key

/-- The body of the loop of `parse_toml_subset`. -/
def parseLine (parsing : Parsing) (lineNumber : Nat) (rawLine : List Char) : Except String Parsing :=
  let line := trim (stripComment rawLine)
  if line.isEmpty then .ok parsing
  else if line.head? = some '[' then
    if line.getLast? ≠ some ']' then
      .error ("invalid config section header at line " ++ lineNumber.repr ++ ": " ++ String.ofList line)
    else if (headerName line).isEmpty then
      .error ("empty config section header at line " ++ lineNumber.repr)
    else .ok { parsing with sectionName := headerName line }
  else
    match splitOnce '=' line with
    | none =>
        .error ("invalid config line " ++ lineNumber.repr ++ ": expected `[section]` or `key = value`")
    | some (key, value) =>
        if (trim key).isEmpty then .error ("empty config key at line " ++ lineNumber.repr)
        else
          let fullKey := fullKey parsing.sectionName (trim key)
          match parsing.values.find? fullKey with
          | some (_, previous) =>
              .error ("duplicate config key `" ++ String.ofList fullKey ++ "` at line " ++ lineNumber.repr
                ++ "; first set at line " ++ previous.line.repr)
          | none =>
              .ok { parsing with values := parsing.values.put (fullKey, ⟨trim value, lineNumber⟩) }

/-- The loop of `parse_toml_subset`. -/
def parseLines (lineNumber : Nat) (parsing : Parsing) : List (List Char) → Except String Parsing
  | [] => .ok parsing
  | rawLine :: rest => do parseLines (lineNumber + 1) (← parseLine parsing lineNumber rawLine) rest

/-- `parse_toml_subset`. -/
def parseTomlSubset (text : List Char) : Except String ConfigValues :=
  (parseLines 1 {} (lines text)).map (·.values)

-----------------------------------------------------------------------------------------
-- Setting a switch
-----------------------------------------------------------------------------------------

/-- The line of a key with its value. -/
def keyLine (key value : List Char) : List Char := key ++ " = ".toList ++ value

def headerLine (sectionName : List Char) : List Char := '[' :: sectionName ++ [']']

/-- `bool` as text. -/
def boolText (enabled : Bool) : List Char := if enabled then "true".toList else "false".toList

/-- What the loop of `set_toml_bool` keeps in mind from line to line. -/
structure BoolScan where
  currentSection : List Char
  sectionStart : Option Nat
  insertBefore : Nat

/-- A line sets the key. -/
def setsKey (key line : List Char) : Bool :=
  (splitOnce '=' line).any fun (candidate, _) => trim candidate = key

/-- The loop of `set_toml_bool` from a line on: the index of the line that sets the key, if it comes to
one, or else where it has come to the end of the section.
-/
def scanBool (sectionName key : List Char) (length : Nat)
    : Nat → BoolScan → List (List Char) → Option Nat × BoolScan
  | _, scan, [] => (none, scan)
  | index, scan, rawLine :: rest =>
      let line := trim (stripComment rawLine)
      if isHeader line then
        if scan.sectionStart.isSome && scan.currentSection = sectionName then
          (none, { scan with insertBefore := index })
        else if headerName line = sectionName then
          scanBool sectionName key length (index + 1) ⟨headerName line, some index, length⟩ rest
        else
          scanBool sectionName key length (index + 1) { scan with currentSection := headerName line } rest
      else if scan.currentSection = sectionName && setsKey key line then (some index, scan)
      else scanBool sectionName key length (index + 1) scan rest

/-- The lines that `set_toml_bool` joins. -/
def boolLines (sectionName key : List Char) (enabled : Bool) (all : List (List Char)) : List (List Char) :=
  let rendered := keyLine key (boolText enabled)
  match scanBool sectionName key all.length 0 ⟨[], none, all.length⟩ all with
  | (some index, _) => all.set index rendered
  | (none, scan) =>
      match scan.sectionStart with
      | some start => all.insertIdx (max scan.insertBefore (start + 1)) rendered
      | none =>
          (if all.getLast?.any fun line => !(trim line).isEmpty then all ++ [[]] else all)
            ++ [headerLine sectionName, rendered]

/-- `ensure_trailing_newline`. -/
def ensureTrailingNewline (text : List Char) : List Char :=
  if text.getLast? = some '\n' then text else text ++ ['\n']

/-- `set_toml_bool`. -/
def setTomlBool (text sectionName key : List Char) (enabled : Bool) : List Char :=
  ensureTrailingNewline (joinLines (boolLines sectionName key enabled (lines text)))

/-- The edit of `set_daemon_enabled`. -/
def setDaemonEnabled (enabled : Bool) (text : List Char) : List Char :=
  setTomlBool text "daemon".toList "enabled".toList enabled

-----------------------------------------------------------------------------------------
-- Setting a value
-----------------------------------------------------------------------------------------

/-- What the loop of `set_toml_section_value` keeps in mind from line to line. -/
structure SectionEdit where
  lines : List (List Char) := []
  inSection : Bool := false
  sawSection : Bool := false
  wroteKey : Bool := false

/-- The editor takes a line for one that sets the key. -/
def startsWithKey (key trimmed : List Char) : Bool :=
  (key ++ [' ']).isPrefixOf trimmed || (key ++ ['=']).isPrefixOf trimmed

/-- The body of the loop of `set_toml_section_value`. -/
def SectionEdit.step (sectionName key value : List Char) (edit : SectionEdit) (raw : List Char)
    : SectionEdit :=
  let trimmed := trim raw
  if isHeader trimmed then
    let edit :=
      if edit.inSection && !edit.wroteKey then
        { edit with lines := edit.lines ++ [keyLine key value], wroteKey := true }
      else edit
    let inSection := decide (trimmed = headerLine sectionName)
    { edit with
      lines := edit.lines ++ [raw]
      inSection := inSection
      sawSection := edit.sawSection || inSection }
  else if edit.inSection && startsWithKey key trimmed then
    { edit with lines := edit.lines ++ [keyLine key value], wroteKey := true }
  else { edit with lines := edit.lines ++ [raw] }

/-- The lines that `set_toml_section_value` joins. -/
def sectionLines (sectionName key value : List Char) (all : List (List Char)) : List (List Char) :=
  let edit := all.foldl (SectionEdit.step sectionName key value) {}
  if edit.sawSection then
    if edit.inSection && !edit.wroteKey then edit.lines ++ [keyLine key value] else edit.lines
  else
    (if edit.lines.getLast?.any fun line => !line.isEmpty then edit.lines ++ [[]] else edit.lines)
      ++ [headerLine sectionName, keyLine key value]

/-- `set_toml_section_value`. -/
def setTomlSectionValue (input sectionName key value : List Char) : List Char :=
  joinLines (sectionLines sectionName key value (lines input)) ++ ['\n']

/-- The edit of `set_auto_mode`. -/
def setAutoMode (mode : String) (existing : List Char) : List Char :=
  setTomlSectionValue existing "upgrade".toList "auto".toList ('"' :: mode.toList ++ ['"'])

end CtxRemote.Config
