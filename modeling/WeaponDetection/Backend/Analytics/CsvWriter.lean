import WeaponDetection.Backend.AlertSync.Records
import WeaponDetection.Foundations.Csv
import WeaponDetection.Foundations.Double

/-!
# The CSV export

Models `AnalyticsCsvWriter.cs` on the UTF-16 code units of a string, so that a string can hold every
sequence of them.  How .NET writes a number under a custom format is a parameter of which nothing is
assumed.
-/

namespace WeaponDetection.Backend.Analytics

open WeaponDetection.Foundations (Double)
open WeaponDetection.Foundations.Csv
open WeaponDetection.Backend.AlertSync (dateOfDay formatDate paddedDigits)

/-- The code units of a `string`. -/
abbrev Utf16 := List UInt16

/-- The code unit of a character of the basic plane. -/
def unit (c : Char) : UInt16 := UInt16.ofNat c.toNat

/-- The code units of a literal of ASCII characters. -/
def literal (text : String) : Utf16 := text.toList.map unit

theorem nodup_csvUnits : [unit '"', unit ',', unit '\r', unit '\n'].Nodup := by decide

/-- The four characters RFC 4180 gives a meaning. -/
def csvDialect : Dialect UInt16 where
  quote := unit '"'
  comma := unit ','
  cr := unit '\r'
  lf := unit '\n'
  nodup := nodup_csvUnits

/-- `AnalyticsExportRow`; an instant is its ticks. -/
structure AnalyticsExportRow where
  detectedAtUtc : ℕ
  receivedAtUtc : ℕ
  deliveryLatencyMs : Option Double
  branchName : Utf16
  cameraName : Utf16
  detectionType : Utf16
  confidence : Double
  status : Utf16
  snapshotAvailable : Bool

/-- `Columns`. -/
def columns : List Utf16 :=
  [literal "Detected At (UTC)", literal "Received At (UTC)", literal "Delivery Latency (ms)", literal "Branch",
    literal "Camera", literal "Detection Type", literal "Confidence", literal "Status",
    literal "Snapshot Available"]

/-- `FormatTimestamp`. -/
def formatTimestamp (ticks : ℕ) : Utf16 :=
  let time := ticks % 864000000000
  literal (formatDate (dateOfDay (ticks / 864000000000))) ++ unit ' ' ::
    (paddedDigits 2 (time / 36000000000) ++ ':' :: paddedDigits 2 (time / 600000000 % 60) ++
      ':' :: paddedDigits 2 (time / 10000000 % 60)).map unit

-- 2026-08-17 05:07:09
example : formatTimestamp 639225400290000000 = literal "2026-08-17 05:07:09" := by decide +kernel

/-- A character a spreadsheet takes for the beginning of a formula. -/
def isFormulaUnit (c : UInt16) : Bool := c = unit '=' || c = unit '+' || c = unit '-' || c = unit '@'

/-- The first concern of `Escape`: a text that begins like a formula gets a single quote in front. -/
def defuse (value : Option Utf16) : Utf16 :=
  let text := value.getD []
  if text.head?.any isFormulaUnit then unit '\'' :: text else text

/-- `Escape`. -/
def escape (value : Option Utf16) : Utf16 :=
  let text := defuse value
  if text.all fun c => !([unit '"', unit ',', unit '\r', unit '\n'].contains c) then text
  else unit '"' :: (text.flatMap (fun c => if c = unit '"' then [unit '"', unit '"'] else [c]) ++ [unit '"'])

/-- The formatted values of a row, in the order of the columns; `toString` is `ToString(format,
InvariantCulture)` of a number. -/
def rowValues (toString : String → Double → Utf16) (row : AnalyticsExportRow) : List (Option Utf16) :=
  [some (formatTimestamp row.detectedAtUtc), some (formatTimestamp row.receivedAtUtc),
    some ((row.deliveryLatencyMs.map (toString "0.###")).getD []), some row.branchName, some row.cameraName,
    some row.detectionType, some (toString "0.####" row.confidence), some row.status,
    some (if row.snapshotAvailable then literal "Yes" else literal "No")]

/-- `string.Join(',', values.Select(Escape))` and the line separator. -/
def writeLine (values : List (Option Utf16)) : Utf16 :=
  [unit ','].intercalate (values.map escape) ++ literal "\r\n"

/-- `AnalyticsCsvWriter.Write`. -/
def write (toString : String → Double → Utf16) (rows : List AnalyticsExportRow) : Utf16 :=
  writeLine (columns.map some) ++ rows.flatMap fun row => writeLine (rowValues toString row)

/-! ## Round trip -/

theorem defuse_not_formula (value : Option Utf16) : ∀ c ∈ (defuse value).head?, isFormulaUnit c = false := by
  intro c hc
  simp only [defuse] at hc
  split at hc
  · cases hc
    decide
  · rename_i hsafe
    cases hhead : (value.getD []).head? with
    | none =>
      rw [hhead] at hc
      cases hc
    | some first =>
      rw [hhead] at hc hsafe
      cases hc
      simpa using hsafe

/-- What `Escape` writes stands for the defused text. -/
theorem encodes_escape (value : Option Utf16) : Encodes csvDialect (escape value) (defuse value) := by
  simp only [escape]
  split
  · rename_i hplain
    refine .inl ⟨rfl, fun c hc => ?_⟩
    have hnot := List.all_eq_true.1 hplain c hc
    simp only [List.contains_eq_mem, List.mem_cons, List.not_mem_nil, or_false, Bool.not_eq_true',
      decide_eq_false_iff_not, not_or] at hnot
    exact hnot
  · exact .inr rfl

theorem forall₂_escape (values : List (Option Utf16)) :
    List.Forall₂ (Encodes csvDialect) (values.map escape) (values.map defuse) := by
  rw [List.forall₂_map_left_iff, List.forall₂_map_right_iff]
  exact List.forall₂_same.mpr fun value _ => encodes_escape value

theorem columns_defused : (columns.map some).map defuse = columns := by decide

/-- The lines of a file: the header and one for each row. -/
def fileValues (toString : String → Double → Utf16) (rows : List AnalyticsExportRow) : List (List (Option Utf16)) :=
  columns.map some :: rows.map (rowValues toString)

theorem write_eq_lines (toString : String → Double → Utf16) (rows : List AnalyticsExportRow) :
    write toString rows = ((fileValues toString rows).map (·.map escape)).flatMap (line csvDialect) := by
  simp only [write, fileValues, List.map_cons, List.flatMap_cons, List.map_map, List.flatMap_map]
  rfl

/-- **An RFC 4180 reader gets back the header and one record of nine defused values per row, and no field
it reads begins like a formula.** -/
theorem readFile_write (toString : String → Double → Utf16) (rows : List AnalyticsExportRow) :
    ∃ records, readFile csvDialect (write toString rows) = some (columns :: records) ∧
      records = rows.map (fun row => (rowValues toString row).map defuse) ∧
      (∀ record ∈ records, record.length = 9) ∧
      ∀ record ∈ columns :: records, ∀ field ∈ record, ∀ c ∈ field.head?, isFormulaUnit c = false := by
  have hread : readFile csvDialect (write toString rows) =
      some ((fileValues toString rows).map (·.map defuse)) := by
    rw [write_eq_lines]
    refine readFile_records ?_ ?_
    · rw [List.forall₂_map_left_iff, List.forall₂_map_right_iff]
      exact List.forall₂_same.mpr fun values _ => forall₂_escape values
    · intro record hrecord
      obtain ⟨values, hvalues, rfl⟩ := List.mem_map.1 hrecord
      rcases List.mem_cons.1 hvalues with rfl | hvalues
      · decide
      · obtain ⟨row, -, rfl⟩ := List.mem_map.1 hvalues
        exact List.cons_ne_nil _ _
  have hfile : (fileValues toString rows).map (·.map defuse) =
      columns :: rows.map fun row => (rowValues toString row).map defuse := by
    rw [fileValues, List.map_cons, columns_defused, List.map_map]
    rfl
  refine ⟨_, hread.trans (congrArg some hfile), rfl, ?_, ?_⟩
  · intro record hrecord
    obtain ⟨row, -, rfl⟩ := List.mem_map.1 hrecord
    rfl
  · intro record hrecord field hfield
    rw [← hfile] at hrecord
    obtain ⟨values, -, rfl⟩ := List.mem_map.1 hrecord
    obtain ⟨value, -, rfl⟩ := List.mem_map.1 hfield
    exact defuse_not_formula value

end WeaponDetection.Backend.Analytics
