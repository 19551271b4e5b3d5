import Mathlib.Data.List.DropRight
import WeaponDetection.Foundations.OrderedDict
import WeaponDetection.Foundations.Python

/-!
# Configuration files

Python's `configparser` with its defaults: a strict reader with the delimiters `=` and `:`, the
comment prefixes `#` and `;` on lines of their own, values that go on over indented lines, and the
`DEFAULT` section behind every other.  Text is a list of characters; the function that normalises
option names is a parameter, as it is an attribute of the parser.

`read` follows the loop of `_read` line by line, `write` is `RawConfigParser.write`, and the string
interpolation of `BasicInterpolation` is modelled apart from both, where values are set and got.
-/

namespace WeaponDetection.Foundations

open WeaponDetection.Foundations.Python (isSpace)

/-- Text, character by character. -/
abbrev Text := List Char

instance : LawfulBEq Text := inferInstance

namespace Text

/-- `text.lstrip()`. -/
def lstrip (text : Text) : Text := text.dropWhile isSpace

/-- `text.rstrip()`. -/
def rstrip (text : Text) : Text := text.rdropWhile isSpace

/-- `text.strip()`. -/
def strip (text : Text) : Text := rstrip (lstrip text)

/-- Reading in text mode: `\r\n` and `\r` become `\n`. -/
def universalNewlines : Text → Text
  | '\r' :: '\n' :: cs => '\n' :: universalNewlines cs
  | c :: cs => (if c = '\r' then '\n' else c) :: universalNewlines cs
  | [] => []

/-- The lines a text file iterates over, without their ends. -/
def fileLines (content : Text) : List Text :=
  let pieces := (universalNewlines content).splitOn '\n'
  if pieces.getLast? = some [] then pieces.dropLast else pieces

end Text

/-- What a parser raises. -/
inductive ConfigError where
  | missingSectionHeader
  | duplicateSection (name : Text)
  | duplicateOption (name option : Text)
  | parsing
  | noSection (name : Text)
  | noOption (name option : Text)
  /-- `ValueError` of `add_section("DEFAULT")`. -/
  | invalidSectionName
  /-- `ValueError` of `BasicInterpolation.before_set`. -/
  | invalidInterpolationSyntax
  /-- `InterpolationError` of a value that is got. -/
  | interpolation
  deriving DecidableEq

/-- `default_section`. -/
def defaultSection : Text := "DEFAULT".toList

/-- The options of a parser: the `DEFAULT` section and the others, in order. -/
structure ConfigParser (α : Type*) where
  defaults : OrderedDict Text α
  sections : OrderedDict Text (OrderedDict Text α)

namespace ConfigParser

variable {α β : Type*}

/-- A parser without options. -/
def empty : ConfigParser α := ⟨.empty, .empty⟩

/-- `sections`: the names of all sections but `DEFAULT`. -/
def sectionNames (p : ConfigParser α) : List Text := p.sections.entries.map Prod.fst

/-- `has_section`. -/
def hasSection (p : ConfigParser α) (name : Text) : Bool := decide (name ∈ p.sectionNames)

/-- The dictionary of one section, `DEFAULT` included. -/
def options (p : ConfigParser α) (name : Text) : OrderedDict Text α :=
  if name = defaultSection then p.defaults else (p.sections.get? name).getD .empty

/-- Replace the dictionary of one section. -/
def setOptions (p : ConfigParser α) (name : Text) (options : OrderedDict Text α) : ConfigParser α :=
  if name = defaultSection then { p with defaults := options }
  else { p with sections := p.sections.set name options }

/-- Apply a function to every value. -/
def map (f : α → β) (p : ConfigParser α) : ConfigParser β :=
  ⟨p.defaults.map f, p.sections.map fun options => options.map f⟩

/-! ## Reading -/

/-- The line is a comment: nothing is left of it. -/
def isComment (value : Text) : Bool := value.head? = some '#' ∨ value.head? = some ';'

/-- `SECTCRE`: the text between the bracket a line starts with and its last closing bracket. -/
def sectionHeader? : Text → Option Text
  | '[' :: rest =>
    let header := (rest.rdropWhile fun c => c ≠ ']').dropLast
    if header = [] then none else some header
  | _ => none

/-- `=` and `:`. -/
def isDelimiter (c : Char) : Bool := c = '=' ∨ c = ':'

/-- `OPTCRE`: the option before the first delimiter and the value behind it. -/
def splitOption? (value : Text) : Option (Text × Text) :=
  match value.dropWhile fun c => !isDelimiter c with
  | _ :: rest => some (Text.rstrip (value.takeWhile fun c => !isDelimiter c), Text.lstrip rest)
  | [] => none

/-- The local variables of `_read`.  A value is the list of its lines so far.  `elements_added` is
not kept: a fresh parser holds the sections and options it has added and no others. -/
structure Reading where
  parser : ConfigParser (List Text)
  sectname : Option Text
  /-- `none` also for the empty name, which is as false as `None`. -/
  optname : Option Text
  indentLevel : ℕ
  /-- A line was neither a header nor an option: the error is raised at the end. -/
  bogus : Bool

/-- The variables before the first line. -/
def Reading.fresh : Reading :=
  { parser := .empty, sectname := none, optname := none, indentLevel := 0, bogus := false }

/-- `cursect[optname].append(value)`, if there is an open option. -/
def Reading.append (r : Reading) (value : Text) : Reading :=
  match r.sectname, r.optname with
  | some name, some option =>
    let lines := ((r.parser.options name).get? option).getD []
    { r with parser :=
        r.parser.setOptions name ((r.parser.options name).set option (lines ++ [value])) }
  | _, _ => r

/-- A section header. -/
def Reading.header (r : Reading) (name : Text) : Except ConfigError Reading :=
  if r.parser.hasSection name then .error (.duplicateSection name)
  else if name = defaultSection then .ok { r with sectname := some name, optname := none }
  else
    .ok { r with
      parser := { r.parser with sections := r.parser.sections.set name .empty }
      sectname := some name
      optname := none }

/-- A line that should hold an option, in the section `name`. -/
def Reading.option (optionxform : Text → Text) (r : Reading) (name value : Text) :
    Except ConfigError Reading :=
  match splitOption? value with
  | none => .ok { r with bogus := true }
  | some (option, optval) =>
    let optname := optionxform option
    if optname ∈ (r.parser.options name).entries.map Prod.fst then
      .error (.duplicateOption name optname)
    else
      .ok { r with
        parser := r.parser.setOptions name ((r.parser.options name).set optname [Text.strip optval])
        optname := if optname = [] then none else some optname
        bogus := r.bogus || option = [] }

/-- One line of the file. -/
def Reading.line (optionxform : Text → Text) (r : Reading) (line : Text) :
    Except ConfigError Reading :=
  let value := Text.strip line
  if isComment value then .ok r
  else if value = [] then .ok (r.append [])
  else
    let indent := (line.takeWhile isSpace).length
    if r.sectname.isSome ∧ r.optname.isSome ∧ r.indentLevel < indent then .ok (r.append value)
    else
      let r := { r with indentLevel := indent }
      match sectionHeader? value, r.sectname with
      | some name, _ => r.header name
      | none, none => .error .missingSectionHeader
      | none, some name => r.option optionxform name value

/-- `_join_multiline_values` on one value. -/
def joinLines (lines : List Text) : Text := Text.rstrip (['\n'].intercalate lines)

/-- The end of `_read`. -/
def Reading.finish (r : Reading) : Except ConfigError (ConfigParser Text) :=
  if r.bogus then .error .parsing else .ok (r.parser.map joinLines)

/-- `read_file` of a fresh parser. -/
def read (optionxform : Text → Text) (content : Text) : Except ConfigError (ConfigParser Text) := do
  let r ← (Text.fileLines content).foldlM (Reading.line optionxform) .fresh
  r.finish

/-! ## Writing -/

/-- `value.replace("\n", "\n\t")`. -/
def indentValue (value : Text) : Text :=
  value.flatMap fun c => if c = '\n' then ['\n', '\t'] else [c]

/-- `_write_section`. -/
def writeSection (name : Text) (options : OrderedDict Text Text) : Text :=
  '[' :: name ++ "]\n".toList ++
    options.entries.flatMap (fun e => e.1 ++ " = ".toList ++ indentValue e.2 ++ ['\n']) ++ ['\n']

/-- `write`. -/
def write (p : ConfigParser Text) : Text :=
  (if p.defaults.entries = [] then [] else writeSection defaultSection p.defaults) ++
    p.sections.entries.flatMap fun e => writeSection e.1 e.2

end ConfigParser

end WeaponDetection.Foundations
