import Mathlib.Data.List.Forall2
import Mathlib.Data.List.Basic

/-!
# Comma-separated values

A reader for the format of RFC 4180 over any alphabet: records end with CR LF, the last one may lack it,
fields are separated by commas, and a field between quotes may hold every character, a quote by writing
it twice.  A field without quotes holds every character but the four that structure the file.

`readFile_records`: whatever mixture of the two forms a writer chooses, the reader returns its fields.
-/

namespace WeaponDetection.Foundations.Csv

variable {α : Type*}

/-- The characters that structure a file. -/
structure Dialect (α : Type*) where
  quote : α
  comma : α
  cr : α
  lf : α
  nodup : [quote, comma, cr, lf].Nodup

namespace Dialect

variable (d : Dialect α)

/-- The character can stand in a field without quotes. -/
def IsText (c : α) : Prop := c ≠ d.quote ∧ c ≠ d.comma ∧ c ≠ d.cr ∧ c ≠ d.lf

theorem distinct : d.quote ≠ d.comma ∧ d.quote ≠ d.cr ∧ d.quote ≠ d.lf ∧ d.comma ≠ d.cr ∧ d.comma ≠ d.lf ∧
    d.cr ≠ d.lf := by
  have h := d.nodup
  simp only [List.nodup_cons, List.mem_cons, List.not_mem_nil, or_false, not_or] at h
  exact ⟨h.1.1, h.1.2.1, h.1.2.2, h.2.1.1, h.2.1.2, h.2.2.1⟩

end Dialect

/-! ## Reading -/

/-- Where the reader stands. -/
inductive Mode where
  /-- In front of a field. -/
  | start
  /-- In a field without quotes. -/
  | plain
  /-- Between quotes. -/
  | quoted
  /-- Behind a quote that ends the field or is the first of two. -/
  | closed
  /-- Behind a CR. -/
  | cr

/-- The rest of the field, the rest of its record, and the records behind it. -/
abbrev Parsed (α : Type*) := List α × List (List α) × List (List (List α))

/-- One more character in front of the rest of a field. -/
def Parsed.addChar (c : α) (p : Parsed α) : Parsed α := (c :: p.1, p.2.1, p.2.2)

/-- A field ends and what was parsed is the next one. -/
def Parsed.endField (p : Parsed α) : Parsed α := ([], p.1 :: p.2.1, p.2.2)

/-- A record ends and what was parsed is the next one. -/
def Parsed.endRecord (p : Parsed α) : Parsed α := ([], [], (p.1 :: p.2.1) :: p.2.2)

variable [DecidableEq α] (d : Dialect α)

/-- Read from the middle of a file; `none` for a text that is not in the format. -/
def readFrom : Mode → List α → Option (Parsed α)
  | .start, [] | .plain, [] | .closed, [] => some ([], [], [])
  | .quoted, [] | .cr, [] => none
  | .start, c :: rest =>
    if c = d.quote then readFrom .quoted rest
    else if c = d.comma then (readFrom .start rest).map Parsed.endField
    else if c = d.cr then readFrom .cr rest
    else if c = d.lf then none
    else (readFrom .plain rest).map (Parsed.addChar c)
  | .plain, c :: rest =>
    if c = d.quote then none
    else if c = d.comma then (readFrom .start rest).map Parsed.endField
    else if c = d.cr then readFrom .cr rest
    else if c = d.lf then none
    else (readFrom .plain rest).map (Parsed.addChar c)
  | .quoted, c :: rest =>
    if c = d.quote then readFrom .closed rest else (readFrom .quoted rest).map (Parsed.addChar c)
  | .closed, c :: rest =>
    if c = d.quote then (readFrom .quoted rest).map (Parsed.addChar c)
    else if c = d.comma then (readFrom .start rest).map Parsed.endField
    else if c = d.cr then readFrom .cr rest
    else none
  | .cr, c :: rest =>
    if c = d.lf then
      -- behind the last line break there is no further record
      if rest = [] then some ([], [], []) else (readFrom .start rest).map Parsed.endRecord
    else none

/-- The records of a file. -/
def readFile (text : List α) : Option (List (List (List α))) :=
  if text = [] then some [] else (readFrom d .start text).map fun p => (p.1 :: p.2.1) :: p.2.2

/-! ## Writing -/

/-- A field between quotes. -/
def quoteField (field : List α) : List α :=
  d.quote :: (field.flatMap (fun c => if c = d.quote then [d.quote, d.quote] else [c]) ++ [d.quote])

/-- A text that stands for a field. -/
def Encodes (text field : List α) : Prop := (text = field ∧ ∀ c ∈ field, d.IsText c) ∨ text = quoteField d field

/-- The fields of a record with the line break behind them. -/
def line (texts : List (List α)) : List α := [d.comma].intercalate texts ++ [d.cr, d.lf]

/-! ## Round trip -/

variable {d}

/-- A field ends in front of the text. -/
def Ends (d : Dialect α) (text : List α) : Prop := ∃ rest, text = d.comma :: rest ∨ text = d.cr :: rest

/-- More characters in front of the rest of a field. -/
def Parsed.addField (field : List α) (p : Parsed α) : Parsed α := (field ++ p.1, p.2.1, p.2.2)

theorem readFrom_plain_eq_closed {text : List α} (h : Ends d text) : readFrom d .plain text = readFrom d .closed text := by
  obtain ⟨hqc, hqr, -⟩ := d.distinct
  obtain ⟨rest, rfl | rfl⟩ := h
  · simp only [readFrom, if_neg hqc.symm, if_true]
  · simp only [readFrom, if_neg hqr.symm, if_true]

theorem readFrom_plain {field text : List α} (hfield : ∀ c ∈ field, d.IsText c) (h : Ends d text) :
    readFrom d .plain (field ++ text) = (readFrom d .closed text).map (Parsed.addField field) := by
  induction field with
  | nil =>
    rw [List.nil_append, readFrom_plain_eq_closed h]
    exact Option.map_id'.symm
  | cons c field ih =>
    obtain ⟨hquote, hcomma, hcr, hlf⟩ := hfield c List.mem_cons_self
    rw [List.cons_append, readFrom, if_neg hquote, if_neg hcomma, if_neg hcr, if_neg hlf,
      ih fun x hx => hfield x (List.mem_cons_of_mem _ hx), Option.map_map]
    rfl

theorem readFrom_quoted (field text : List α) :
    readFrom d .quoted
        (field.flatMap (fun c => if c = d.quote then [d.quote, d.quote] else [c]) ++ d.quote :: text) =
      (readFrom d .closed text).map (Parsed.addField field) := by
  induction field with
  | nil =>
    rw [List.flatMap_nil, List.nil_append, readFrom, if_pos rfl]
    exact Option.map_id'.symm
  | cons c field ih =>
    rw [List.flatMap_cons, List.append_assoc]
    split
    · rename_i hquote
      simp only [List.cons_append, List.nil_append, readFrom, if_true, ih, Option.map_map]
      rw [← hquote]
      rfl
    · rename_i hquote
      simp only [List.cons_append, List.nil_append, readFrom, if_neg hquote, ih, Option.map_map]
      rfl

/-- A field is read back, in whichever form it is written. -/
theorem readFrom_encodes {encoded field text : List α} (hencoded : Encodes d encoded field) (h : Ends d text) :
    readFrom d .start (encoded ++ text) = (readFrom d .closed text).map (Parsed.addField field) := by
  rcases hencoded with ⟨rfl, hfield⟩ | rfl
  · have hstart : readFrom d .start (encoded ++ text) = readFrom d .plain (encoded ++ text) := by
      obtain ⟨hqc, hqr, -⟩ := d.distinct
      cases encoded with
      | nil =>
        obtain ⟨rest, rfl | rfl⟩ := h
        · simp only [List.nil_append, readFrom, if_neg hqc.symm]
        · simp only [List.nil_append, readFrom, if_neg hqr.symm]
      | cons c rest =>
        simp only [List.cons_append, readFrom, if_neg (hfield c List.mem_cons_self).1]
    rw [hstart, readFrom_plain hfield h]
  · have htext : quoteField d field ++ text = d.quote ::
        (field.flatMap (fun c => if c = d.quote then [d.quote, d.quote] else [c]) ++ d.quote :: text) := by
      simp [quoteField]
    rw [htext, readFrom, if_pos rfl, readFrom_quoted field text]

/-- The record that begins with the rest of its first field, and the records behind it. -/
def Parsed.records (p : Parsed α) : List (List (List α)) := (p.1 :: p.2.1) :: p.2.2

/-- The line break behind the last field of a record ends it. -/
theorem readFrom_lineBreak (field rest : List α) :
    ((readFrom d .closed (d.cr :: d.lf :: rest)).map (Parsed.addField field)).map Parsed.records =
      (readFile d rest).map ([field] :: ·) := by
  obtain ⟨-, hqr, -, hcr, -⟩ := d.distinct
  simp only [readFrom, if_neg hqr.symm, if_neg hcr.symm, if_true, readFile]
  split
  · simp [Parsed.addField, Parsed.records]
  · cases readFrom d .start rest with
    | none => rfl
    | some p => simp [Parsed.addField, Parsed.records, Parsed.endRecord]

/-- A comma goes on with the next field of the same record. -/
theorem readFrom_comma (field rest : List α) :
    ((readFrom d .closed (d.comma :: rest)).map (Parsed.addField field)).map Parsed.records =
      ((readFrom d .start rest).map Parsed.records).map (List.modifyHead (field :: ·)) := by
  obtain ⟨hqc, -⟩ := d.distinct
  simp only [readFrom, if_neg hqc.symm, if_true]
  cases readFrom d .start rest with
  | none => rfl
  | some p => simp [Parsed.addField, Parsed.records, Parsed.endField]

/-- A record is read back, and the line break behind it ends it. -/
theorem readFrom_line {encoded fields : List (List α)} (h : List.Forall₂ (Encodes d) encoded fields)
    (hne : encoded ≠ []) (rest : List α) :
    (readFrom d .start (line d encoded ++ rest)).map Parsed.records = (readFile d rest).map (fields :: ·) := by
  induction h with
  | nil => exact absurd rfl hne
  | @cons text field encoded fields hfirst hothers ih =>
    cases hothers with
    | nil =>
      have hline : line d [text] ++ rest = text ++ d.cr :: d.lf :: rest := by simp [line]
      rw [hline, readFrom_encodes hfirst ⟨_, .inr rfl⟩, readFrom_lineBreak]
    | @cons next nextField encoded fields hnext hrest =>
      have hline : line d (text :: next :: encoded) ++ rest =
          text ++ d.comma :: (line d (next :: encoded) ++ rest) := by
        simp [line, List.intercalate]
      rw [hline, readFrom_encodes hfirst ⟨_, .inl rfl⟩, readFrom_comma, ih (List.cons_ne_nil _ _), Option.map_map]
      rfl

/-- **A file of records is read back**, whichever form its writer chooses for each field. -/
theorem readFile_records {encoded fields : List (List (List α))}
    (h : List.Forall₂ (List.Forall₂ (Encodes d)) encoded fields) (hne : ∀ record ∈ encoded, record ≠ []) :
    readFile d (encoded.flatMap (line d)) = some fields := by
  induction h with
  | nil => rfl
  | @cons record recordFields encoded fields hfirst hothers ih =>
    have hne' := hne record List.mem_cons_self
    have hread := readFrom_line hfirst hne' (encoded.flatMap (line d))
    rw [ih fun r hr => hne r (List.mem_cons_of_mem _ hr)] at hread
    have htext : line d record ++ encoded.flatMap (line d) ≠ [] := by simp [line]
    rw [List.flatMap_cons, readFile, if_neg htext]
    exact hread

end WeaponDetection.Foundations.Csv
