import WeaponDetection.Foundations.ConfigParser

/-!
# Writing a configuration file and reading it back

`read` of what `write` wrote, for a parser whose options came from a file themselves: every value
comes back as `reread` of it, every option under its normalised name, and the file is refused exactly
when two options of one section have the same normalised name.

The proof follows the reader over the lines `write` produces.  `Reading.At` says which parser the
reader holds between two lines, and there is one lemma for each kind of line: a header, the first
line of an option, a continuation line and the blank line behind a section.
-/

namespace WeaponDetection.Foundations

open WeaponDetection.Foundations.Python (isSpace)

namespace Text

/-! ## Stripping -/

/-- No whitespace at either end. -/
structure Stripped (t : Text) : Prop where
  head : ∀ c ∈ t.head?, isSpace c = false
  last : ∀ c ∈ t.getLast?, isSpace c = false

theorem rdropWhile_cons (p : Char → Bool) (c : Char) (t : Text) :
    (c :: t).rdropWhile p =
      if t.rdropWhile p = [] then if p c then [] else [c] else c :: t.rdropWhile p := by
  simp only [List.rdropWhile, List.reverse_cons, List.dropWhile_append, List.isEmpty_iff,
    List.reverse_eq_nil_iff]
  by_cases hrest : List.dropWhile p t.reverse = []
  · rw [if_pos hrest, if_pos hrest]
    by_cases hc : p c <;> simp [hc]
  · rw [if_neg hrest, if_neg hrest]
    simp

theorem lstrip_rstrip (t : Text) : lstrip (rstrip t) = rstrip (lstrip t) := by
  induction t with
  | nil => rfl
  | cons c t ih =>
    have hcons : rstrip (c :: t) =
        if rstrip t = [] then if isSpace c then [] else [c] else c :: rstrip t :=
      rdropWhile_cons isSpace c t
    by_cases hc : isSpace c = true
    · have hl : lstrip (c :: t) = lstrip t := List.dropWhile_cons_of_pos hc
      rw [hl, ← ih, hcons]
      by_cases hrest : rstrip t = []
      · simp [hrest, hc]
      · rw [if_neg hrest]
        exact List.dropWhile_cons_of_pos hc
    · have hl : lstrip (c :: t) = c :: t := List.dropWhile_cons_of_neg hc
      rw [hl, hcons]
      -- a first character that is not a space stays in front
      by_cases hrest : rstrip t = []
      · rw [if_pos hrest, if_neg hc]
        exact List.dropWhile_cons_of_neg hc
      · rw [if_neg hrest]
        exact List.dropWhile_cons_of_neg hc

@[simp] theorem lstrip_lstrip (t : Text) : lstrip (lstrip t) = lstrip t :=
  List.dropWhile_idempotent isSpace t

@[simp] theorem rstrip_rstrip (t : Text) : rstrip (rstrip t) = rstrip t :=
  List.rdropWhile_idempotent _ _

@[simp] theorem strip_rstrip (t : Text) : strip (rstrip t) = strip t := by
  rw [strip, lstrip_rstrip, rstrip_rstrip, strip]

@[simp] theorem strip_lstrip (t : Text) : strip (lstrip t) = strip t := by
  rw [strip, lstrip_lstrip, strip]

@[simp] theorem strip_strip (t : Text) : strip (strip t) = strip t := by
  rw [strip.eq_def t, strip_rstrip, strip_lstrip, strip]

theorem strip_cons_of_space {c : Char} (hc : isSpace c = true) (t : Text) :
    strip (c :: t) = strip t := by
  rw [strip, strip, lstrip, List.dropWhile_cons_of_pos hc, lstrip]

theorem mem_of_mem_rstrip {c : Char} {t : Text} (h : c ∈ rstrip t) : c ∈ t :=
  (List.rdropWhile_prefix isSpace t).subset h

theorem mem_of_mem_lstrip {c : Char} {t : Text} (h : c ∈ lstrip t) : c ∈ t :=
  (List.dropWhile_suffix isSpace).subset h

theorem mem_of_mem_strip {c : Char} {t : Text} (h : c ∈ strip t) : c ∈ t :=
  mem_of_mem_lstrip (mem_of_mem_rstrip h)

theorem lstrip_of_head {t : Text} (h : ∀ c ∈ t.head?, isSpace c = false) : lstrip t = t := by
  cases t with
  | nil => rfl
  | cons c t => exact List.dropWhile_cons_of_neg (by simp [h c rfl])

theorem head_lstrip (t : Text) : ∀ c ∈ (lstrip t).head?, isSpace c = false := by
  intro c hc
  induction t with
  | nil => cases hc
  | cons d t ih =>
    by_cases hd : isSpace d = true
    · rw [lstrip, List.dropWhile_cons_of_pos hd] at hc
      exact ih hc
    · rw [lstrip, List.dropWhile_cons_of_neg hd] at hc
      cases hc
      simpa using hd

theorem rstrip_of_last {t : Text} (h : ∀ c ∈ t.getLast?, isSpace c = false) : rstrip t = t := by
  rw [rstrip, List.rdropWhile_eq_self_iff]
  intro hne
  simp [h _ (List.getLast?_eq_some_getLast hne)]

theorem last_rstrip (t : Text) : ∀ c ∈ (rstrip t).getLast?, isSpace c = false := by
  intro c hc
  obtain ⟨hne, rfl⟩ := List.mem_getLast?_eq_getLast hc
  exact Bool.eq_false_iff.mpr (List.rdropWhile_last_not isSpace t hne)

/-- What `strip` leaves has no whitespace at either end. -/
theorem stripped_strip (t : Text) : Stripped (strip t) where
  head := by
    rw [strip, ← lstrip_rstrip]
    exact head_lstrip _
  last := last_rstrip _

theorem Stripped.strip_eq {t : Text} (h : Stripped t) : strip t = t := by
  rw [strip, lstrip_of_head h.head, rstrip_of_last h.last]

/-- Stripping on the right stops at a character that is not a space. -/
theorem rstrip_append_cons {c : Char} (hc : isSpace c = false) (s t : Text) :
    rstrip (s ++ c :: t) = s ++ c :: rstrip t := by
  rw [rstrip, List.rdropWhile, List.reverse_append, List.reverse_cons, List.append_assoc,
    List.dropWhile_append]
  by_cases hrest : List.dropWhile isSpace t.reverse = []
  · simp [hrest, hc, rstrip, List.rdropWhile]
  · simp [hrest, rstrip, List.rdropWhile]

/-! ## Lines -/

/-- A file of these lines, each with its end. -/
def ofLines (lines : List Text) : Text := lines.flatMap fun line => line ++ ['\n']

theorem ofLines_append (lines lines' : List Text) :
    ofLines (lines ++ lines') = ofLines lines ++ ofLines lines' := by
  simp [ofLines]

theorem ofLines_eq_intercalate (lines : List Text) :
    ofLines lines = ['\n'].intercalate (lines ++ [[]]) := by
  induction lines with
  | nil => rfl
  | cons line lines ih =>
    rw [ofLines, List.flatMap_cons, ← ofLines, ih]
    cases lines <;> simp [List.intercalate]

theorem universalNewlines_of_not_mem {t : Text} (h : '\r' ∉ t) : universalNewlines t = t := by
  fun_induction universalNewlines t with
  | case1 cs ih => exact absurd List.mem_cons_self h
  | case2 c cs hc ih =>
    rw [List.mem_cons, not_or] at h
    rw [if_neg fun hr => h.1 hr.symm, ih h.2]
  | case3 => rfl

/-- A text file iterates over the lines it was made of. -/
theorem fileLines_ofLines {lines : List Text} (hn : ∀ line ∈ lines, '\n' ∉ line)
    (hr : ∀ line ∈ lines, '\r' ∉ line) : fileLines (ofLines lines) = lines := by
  have hcr : '\r' ∉ ofLines lines := by
    rw [ofLines, List.mem_flatMap]
    rintro ⟨line, hline, hmem⟩
    rcases List.mem_append.mp hmem with h | h
    · exact hr line hline h
    · simp at h
  have hsplit : (ofLines lines).splitOn '\n' = lines ++ [[]] := by
    rw [ofLines_eq_intercalate]
    refine List.splitOn_intercalate _ ?_ (by simp)
    intro line hline
    rcases List.mem_append.mp hline with h | h
    · exact hn line h
    · simp_all
  simp only [fileLines, universalNewlines_of_not_mem hcr, hsplit]
  simp

/-- Text mode leaves no carriage return. -/
theorem not_mem_universalNewlines (t : Text) : '\r' ∉ universalNewlines t := by
  fun_induction universalNewlines t with
  | case1 cs ih => simp [ih]
  | case2 c cs hc ih =>
    by_cases hr : c = '\r'
    · simp [hr, ih]
    · simp [hr, ih, Ne.symm hr]
  | case3 => simp

theorem mem_pieces_of_mem_fileLines {content line : Text} (h : line ∈ fileLines content) :
    line ∈ (universalNewlines content).splitOn '\n' := by
  simp only [fileLines] at h
  split at h
  · exact (List.dropLast_subset _) h
  · exact h

theorem mem_of_mem_splitOn {t piece : Text} {c sep : Char} (hpiece : piece ∈ t.splitOn sep)
    (hc : c ∈ piece) : c ∈ t := by
  rw [← @List.intercalate_splitOn _ t _ _ sep, List.intercalate]
  generalize t.splitOn sep = pieces at hpiece ⊢
  induction pieces with
  | nil => cases hpiece
  | cons first rest ih =>
    rcases List.mem_cons.mp hpiece with rfl | hrest
    · cases rest <;> simp [List.intersperse, hc]
    · cases rest with
      | nil => cases hrest
      | cons second rest =>
        rw [List.intersperse_cons_cons, List.flatten_cons, List.flatten_cons]
        exact List.mem_append.mpr (.inr (List.mem_append.mpr (.inr (ih hrest))))

theorem not_mem_of_mem_splitOn {t piece : Text} {sep : Char} (hpiece : piece ∈ t.splitOn sep) :
    sep ∉ piece := by
  induction t generalizing piece with
  | nil => simp_all
  | cons c t ih =>
    rw [List.splitOn_cons_eq_if_modifyHead] at hpiece
    split at hpiece
    · rcases List.mem_cons.mp hpiece with rfl | hrest
      · simp
      · exact ih hrest
    · rename_i hne
      have hsep : sep ≠ c := fun heq => hne (by simp [heq])
      cases hpieces : t.splitOn sep with
      | nil => exact absurd hpieces (List.splitOn_ne_nil _ _)
      | cons first rest =>
        rw [hpieces] at hpiece ih
        rcases List.mem_cons.mp hpiece with rfl | hrest
        · rw [List.mem_cons, not_or]
          exact ⟨hsep, ih List.mem_cons_self⟩
        · exact ih (List.mem_cons_of_mem _ hrest)

end Text

namespace ConfigParser

open Text

/-! ## The lines `write` produces -/

/-- The header line of a section. -/
def headerLine (name : Text) : Text := '[' :: name ++ [']']

/-- The lines of an option: the first with its name, the others indented. -/
def optionLines (e : Text × Text) : List Text :=
  match e.2.splitOn '\n' with
  | [] => []
  | first :: rest => (e.1 ++ " = ".toList ++ first) :: rest.map fun line => '\t' :: line

/-- The lines of a section with the blank line behind it. -/
def sectionLines (name : Text) (options : List (Text × Text)) : List Text :=
  headerLine name :: options.flatMap optionLines ++ [[]]

/-- The lines of the whole file. -/
def writeLines (p : ConfigParser Text) : List Text :=
  (if p.defaults.entries = [] then [] else sectionLines defaultSection p.defaults.entries) ++
    p.sections.entries.flatMap fun e => sectionLines e.1 e.2.entries

theorem indentValue_intercalate (first : Text) (rest : List Text)
    (h : ∀ line ∈ first :: rest, '\n' ∉ line) :
    indentValue (['\n'].intercalate (first :: rest)) ++ ['\n'] =
      ofLines (first :: rest.map fun line => '\t' :: line) := by
  have hline : ∀ line : Text, '\n' ∉ line → indentValue line = line := by
    intro line hn
    induction line with
    | nil => rfl
    | cons c line ih =>
      rw [List.mem_cons, not_or] at hn
      rw [indentValue, List.flatMap_cons, if_neg (Ne.symm hn.1), ← indentValue, ih hn.2]
      rfl
  induction rest generalizing first with
  | nil => simp [List.intercalate, ofLines, hline first (h first List.mem_cons_self)]
  | cons second rest ih =>
    have hrest := ih second fun line hmem => h line (List.mem_cons_of_mem _ hmem)
    have hcons : ['\n'].intercalate (first :: second :: rest) =
        first ++ '\n' :: ['\n'].intercalate (second :: rest) := by
      simp [List.intercalate]
    rw [hcons, indentValue, List.flatMap_append, List.flatMap_cons, ← indentValue, ← indentValue,
      if_pos rfl, hline first (h first List.mem_cons_self), List.append_assoc, List.append_assoc,
      hrest]
    simp [ofLines]

theorem writeOption_eq (e : Text × Text) :
    e.1 ++ " = ".toList ++ indentValue e.2 ++ ['\n'] = ofLines (optionLines e) := by
  obtain ⟨key, value⟩ := e
  simp only [optionLines]
  cases hpieces : value.splitOn '\n' with
  | nil => exact absurd hpieces (List.splitOn_ne_nil _ _)
  | cons first rest =>
    have hvalue := @List.intercalate_splitOn _ value _ _ '\n'
    rw [hpieces] at hvalue
    have hn : ∀ line ∈ first :: rest, '\n' ∉ line := by
      rw [← hpieces]
      exact fun line hline => not_mem_of_mem_splitOn hline
    rw [← hvalue, List.append_assoc, indentValue_intercalate first rest hn]
    simp [ofLines]

theorem writeSection_eq (name : Text) (options : OrderedDict Text Text) :
    writeSection name options = ofLines (sectionLines name options.entries) := by
  have hoptions : options.entries.flatMap
      (fun e => e.1 ++ " = ".toList ++ indentValue e.2 ++ ['\n']) =
        ofLines (options.entries.flatMap optionLines) := by
    simp only [writeOption_eq, ofLines, List.flatMap_assoc]
  rw [writeSection, hoptions, sectionLines, ofLines_append]
  simp [ofLines, headerLine]

/-- `write` writes the lines of the sections. -/
theorem write_eq (p : ConfigParser Text) : write p = ofLines (writeLines p) := by
  rw [write, writeLines, ofLines_append]
  congr 1
  · split
    · rfl
    · exact writeSection_eq _ _
  · simp only [writeSection_eq, ofLines, List.flatMap_assoc]

/-! ## Options a file can hold -/

/-- A name the reader reads back: as it stands between the start of a line and a delimiter. -/
structure KeyText (key : Text) : Prop where
  ne_nil : key ≠ []
  stripped : Stripped key
  not_comment : isComment key = false
  no_delimiter : ∀ c ∈ key, isDelimiter c = false
  no_newline : '\n' ∉ key
  no_return : '\r' ∉ key

/-- The line is not taken for a section header: one that starts with a bracket closes none after its
second character. -/
def HeaderSafe (key first : Text) : Prop :=
  key.head? = some '[' → ']' ∉ key.drop 2 ∧ ']' ∉ first

/-- The lines of a value as they are read back. -/
def valueLines (value : Text) : List Text :=
  match value.splitOn '\n' with
  | [] => []
  | first :: rest => strip first :: (rest.map strip).filter fun line => !isComment line

/-- What a value is after it was written and read. -/
def reread (value : Text) : Text := joinLines (valueLines value)

/-- An option that can be written and read back, with its value as `reread`. -/
structure OptionText (e : Text × Text) : Prop where
  key : KeyText e.1
  header : HeaderSafe e.1 ((e.2.splitOn '\n').headD [])
  no_return : '\r' ∉ e.2

theorem dropLast_rdropWhile_eq_nil {t : Text} (h : ']' ∉ t.drop 1) :
    (t.rdropWhile fun c => c ≠ ']').dropLast = [] := by
  cases t with
  | nil => rfl
  | cons c t =>
    have hrest : t.rdropWhile (fun c => c ≠ ']') = [] := by
      rw [List.rdropWhile_eq_nil_iff]
      intro d hd
      simpa using fun heq : d = ']' => h (heq ▸ hd)
    rw [rdropWhile_cons, if_pos hrest]
    split <;> rfl

/-- The written first line of an option is no section header. -/
theorem sectionHeader?_optionLine {key first rest : Text} (hkey : key ≠ [])
    (hsafe : HeaderSafe key first) (hrest : ∀ c ∈ rest, c = ' ' ∨ c ∈ first) :
    sectionHeader? (key ++ ' ' :: '=' :: rest) = none := by
  cases key with
  | nil => exact absurd rfl hkey
  | cons c key =>
    by_cases hc : c = '['
    · subst hc
      obtain ⟨hdrop, hfirst⟩ := hsafe rfl
      have hclose : ']' ∉ rest := fun hmem => by
        rcases hrest _ hmem with h | h
        · exact absurd h (by decide)
        · exact hfirst h
      have hnone : ']' ∉ (key ++ ' ' :: '=' :: rest).drop 1 := by
        cases key with
        | nil => simp [hclose]
        | cons d key => simpa [hclose] using hdrop
      simp only [List.cons_append, sectionHeader?, dropLast_rdropWhile_eq_nil hnone, if_true]
    · rw [List.cons_append, sectionHeader?]
      intro rest' heq
      exact hc (List.cons.inj heq).1

theorem splitOption?_optionLine {key rest : Text} (hkey : KeyText key) :
    splitOption? (key ++ ' ' :: '=' :: rest) = some (key, lstrip rest) := by
  have hpos : ∀ c ∈ key, (!isDelimiter c) = true := fun c hc => by simp [hkey.no_delimiter c hc]
  have htake : (key ++ ' ' :: '=' :: rest).takeWhile (fun c => !isDelimiter c) = key ++ [' '] := by
    rw [List.takeWhile_append_of_pos hpos]
    rfl
  have hdrop : (key ++ ' ' :: '=' :: rest).dropWhile (fun c => !isDelimiter c) = '=' :: rest := by
    rw [List.dropWhile_append_of_pos hpos]
    rfl
  have hname : rstrip (key ++ [' ']) = key := by
    rw [rstrip, List.rdropWhile_concat_pos _ _ _ (by decide), ← rstrip,
      rstrip_of_last hkey.stripped.last]
  simp only [splitOption?, hdrop, htake, hname]

/-! ## One line -/

section Lines

variable (optionxform : Text → Text) (r : Reading)

theorem line_header {name : Text} (hne : name ≠ []) :
    Reading.line optionxform r (headerLine name) = { r with indentLevel := 0 }.header name := by
  have hstripped : Stripped (headerLine name) :=
    { head := by
        intro c hc
        cases hc
        rfl
      last := by
        intro c hc
        rw [headerLine, List.cons_append, ← List.cons_append, List.getLast?_concat] at hc
        cases hc
        rfl }
  have hheader : sectionHeader? (headerLine name) = some name := by
    have hdrop : (name ++ [']']).rdropWhile (fun c => c ≠ ']') = name ++ [']'] :=
      List.rdropWhile_concat_neg _ _ _ (by simp)
    simp only [headerLine, List.cons_append, sectionHeader?, hdrop]
    rw [List.dropLast_concat, if_neg hne]
  have hindent : ((headerLine name).takeWhile isSpace).length = 0 := rfl
  have hcomment : isComment (headerLine name) = false := rfl
  simp only [Reading.line, hstripped.strip_eq, hcomment, hheader, hindent]
  simp [headerLine]

theorem line_option {name key first : Text} (hs : r.sectname = some name) (hkey : KeyText key)
    (hsafe : HeaderSafe key first) :
    Reading.line optionxform r (key ++ " = ".toList ++ first) =
      if optionxform key ∈ (r.parser.options name).entries.map Prod.fst then
        .error (.duplicateOption name (optionxform key))
      else
        .ok { r with
          parser := r.parser.setOptions name
            ((r.parser.options name).set (optionxform key) [strip first])
          optname := if optionxform key = [] then none else some (optionxform key)
          indentLevel := 0 } := by
  obtain ⟨c, key', rfl⟩ : ∃ c key', key = c :: key' := List.exists_cons_of_ne_nil hkey.ne_nil
  have hc : isSpace c = false := hkey.stripped.head c rfl
  -- the stripped line ends where the first line of the value does
  have hline : strip (c :: key' ++ " = ".toList ++ first) =
      c :: key' ++ ' ' :: '=' :: rstrip (' ' :: first) := by
    have hl : lstrip (c :: key' ++ " = ".toList ++ first) = c :: key' ++ " = ".toList ++ first :=
      lstrip_of_head fun d hd => by
        cases hd
        exact hc
    rw [strip, hl]
    have happend : c :: key' ++ " = ".toList ++ first =
        (c :: key' ++ [' ']) ++ '=' :: ' ' :: first := by simp
    rw [happend, rstrip_append_cons rfl]
    simp
  have hcomment : isComment (c :: key' ++ ' ' :: '=' :: rstrip (' ' :: first)) = false :=
    hkey.not_comment
  have hheader : sectionHeader? (c :: key' ++ ' ' :: '=' :: rstrip (' ' :: first)) = none :=
    sectionHeader?_optionLine hkey.ne_nil hsafe fun d hd => by simpa using mem_of_mem_rstrip hd
  have hsplit : splitOption? (c :: key' ++ ' ' :: '=' :: rstrip (' ' :: first)) =
      some (c :: key', lstrip (rstrip (' ' :: first))) := splitOption?_optionLine hkey
  have hvalue : strip (lstrip (rstrip (' ' :: first))) = strip first := by
    rw [strip_lstrip, strip_rstrip, strip_cons_of_space rfl]
  have hindent : ((c :: key' ++ " = ".toList ++ first).takeWhile isSpace).length = 0 := by
    rw [List.cons_append, List.cons_append, List.takeWhile_cons_of_neg (by simp [hc])]
    rfl
  simp only [Reading.line, hline, hcomment, hheader, hindent, hs, Reading.option, hsplit, hvalue]
  simp

theorem line_continuation {name option : Text} (hs : r.sectname = some name)
    (ho : r.optname = some option) (hi : r.indentLevel = 0) (line : Text) :
    Reading.line optionxform r ('\t' :: line) =
      .ok (if isComment (strip line) then r else r.append (strip line)) := by
  have hstrip : strip ('\t' :: line) = strip line := strip_cons_of_space rfl line
  have hindent : 0 < (('\t' :: line).takeWhile isSpace).length := by
    rw [List.takeWhile_cons_of_pos rfl]
    simp
  simp only [Reading.line, hstrip, hs, ho, hi]
  by_cases hcomment : isComment (strip line) = true
  · rw [if_pos hcomment, if_pos hcomment]
  · rw [if_neg hcomment, if_neg hcomment]
    by_cases hblank : strip line = []
    · rw [if_pos hblank, hblank]
    · rw [if_neg hblank, if_pos ⟨rfl, rfl, hindent⟩]

@[simp] theorem line_blank : Reading.line optionxform r [] = .ok (r.append []) := rfl

end Lines

/-! ## The options of one section -/

section Options

variable {α β : Type*}

@[simp] theorem options_setOptions (p : ConfigParser α) (name : Text) (d : OrderedDict Text α) :
    (p.setOptions name d).options name = d := by
  by_cases h : name = defaultSection
  · simp [setOptions, options, h]
  · simp [setOptions, options, h, OrderedDict.get?_set_self]

@[simp] theorem setOptions_setOptions (p : ConfigParser α) (name : Text)
    (d d' : OrderedDict Text α) :
    (p.setOptions name d).setOptions name d' = p.setOptions name d' := by
  by_cases h : name = defaultSection
  · simp [setOptions, h]
  · simp [setOptions, h, OrderedDict.set_set]

theorem setOptions_options {p : ConfigParser α} {name : Text}
    (h : (p.options name).entries ≠ []) : p.setOptions name (p.options name) = p := by
  by_cases hdefault : name = defaultSection
  · simp [setOptions, options, hdefault]
  · simp only [options, if_neg hdefault] at h ⊢
    cases hget : p.sections.get? name with
    | none => exact absurd (by rw [hget]; rfl) h
    | some d => simp [setOptions, hdefault, OrderedDict.set_of_get? hget]

@[simp] theorem map_setOptions (f : α → β) (p : ConfigParser α) (name : Text)
    (d : OrderedDict Text α) :
    (p.setOptions name d).map f = (p.map f).setOptions name (d.map f) := by
  by_cases h : name = defaultSection
  · simp [setOptions, map, h]
  · simp [setOptions, map, h, OrderedDict.map_set]

@[simp] theorem options_map (f : α → β) (p : ConfigParser α) (name : Text) :
    (p.map f).options name = (p.options name).map f := by
  by_cases h : name = defaultSection
  · simp [options, map, h]
  · simp only [options, map, if_neg h, OrderedDict.get?_map]
    cases p.sections.get? name <;> rfl

@[simp] theorem hasSection_map (f : α → β) (p : ConfigParser α) (name : Text) :
    (p.map f).hasSection name = p.hasSection name := by
  rw [hasSection, hasSection, decide_eq_decide]
  simp only [sectionNames, map, OrderedDict.keys_map]

end Options

/-! ## Where the reader stands between two lines -/

/-- The reader has read the options of `q` so far and met no bogus line. -/
structure Reading.At (r : Reading) (q : ConfigParser Text) : Prop where
  parser : r.parser.map joinLines = q
  sound : r.bogus = false
  /-- The open option is one of the current section. -/
  open_mem : ∀ name option, r.sectname = some name → r.optname = some option →
    option ∈ (r.parser.options name).entries.map Prod.fst

theorem Reading.fresh_at : Reading.fresh.At .empty where
  parser := rfl
  sound := rfl
  open_mem := by
    intro name option hs
    cases hs

section Steps

variable {optionxform : Text → Text} {r : Reading} {q : ConfigParser Text} {name : Text}

/-- A header opens an empty section, or `DEFAULT` as it is. -/
theorem readHeader (hat : r.At q) (hne : name ≠ []) (hfresh : q.hasSection name = false) :
    ∃ r', Reading.line optionxform r (headerLine name) = .ok r' ∧ r'.sectname = some name ∧
      r'.At (if name = defaultSection then q
        else { q with sections := q.sections.set name .empty }) := by
  have hnot : r.parser.hasSection name = false := by
    rw [← hasSection_map joinLines, hat.parser, hfresh]
  rw [line_header optionxform r hne, Reading.header]
  simp only [hnot, Bool.false_eq_true, if_false]
  by_cases hdefault : name = defaultSection
  · rw [if_pos hdefault, if_pos hdefault]
    exact ⟨_, rfl, rfl, hat.parser, hat.sound, fun _ _ _ ho => by cases ho⟩
  · rw [if_neg hdefault, if_neg hdefault]
    refine ⟨_, rfl, rfl, ?_, hat.sound, fun _ _ _ ho => by cases ho⟩
    rw [← hat.parser]
    simp [map, OrderedDict.map_set]

theorem append_setOptions {p : ConfigParser (List Text)} {d : OrderedDict Text (List Text)}
    {option : Text} {lines : List Text} (hs : r.sectname = some name)
    (ho : r.optname = some option) (value : Text) :
    { r with parser := p.setOptions name (d.set option lines) }.append value =
      { r with parser := p.setOptions name (d.set option (lines ++ [value])) } := by
  simp [Reading.append, hs, ho, OrderedDict.get?_set_self, OrderedDict.set_set]

/-- Continuation lines go to the open option, comments apart. -/
theorem readContinuations (optionxform : Text → Text) {p : ConfigParser (List Text)}
    {d : OrderedDict Text (List Text)} {option : Text} (hs : r.sectname = some name)
    (ho : r.optname = some option) (hi : r.indentLevel = 0) (rest lines : List Text) :
    (rest.map fun line => '\t' :: line).foldlM (Reading.line optionxform)
        { r with parser := p.setOptions name (d.set option lines) } =
      .ok { r with parser := p.setOptions name (d.set option
        (lines ++ (rest.map strip).filter fun line => !isComment line)) } := by
  induction rest generalizing lines with
  | nil => simp [pure, Except.pure]
  | cons line rest ih =>
    rw [List.map_cons, List.foldlM_cons, line_continuation optionxform
      { r with parser := p.setOptions name (d.set option lines) } hs ho hi line]
    by_cases hcomment : isComment (strip line) = true
    · rw [if_pos hcomment]
      refine (ih lines).trans ?_
      simp [hcomment]
    · rw [if_neg hcomment, append_setOptions hs ho]
      refine (ih (lines ++ [strip line])).trans ?_
      simp [hcomment]

/-- The lines of an option whose name is new in the section. -/
theorem readOption {e : Text × Text} (hat : r.At q) (hs : r.sectname = some name)
    (he : OptionText e) (hx : optionxform e.1 ≠ [])
    (hfresh : optionxform e.1 ∉ (q.options name).entries.map Prod.fst) :
    ∃ r', (optionLines e).foldlM (Reading.line optionxform) r = .ok r' ∧ r'.sectname = some name ∧
      r'.At (q.setOptions name ((q.options name).set (optionxform e.1) (reread e.2))) := by
  obtain ⟨key, value⟩ := e
  have hnot : optionxform key ∉ (r.parser.options name).entries.map Prod.fst := by
    rw [← hat.parser, options_map, OrderedDict.keys_map] at hfresh
    exact hfresh
  cases hpieces : value.splitOn '\n' with
  | nil => exact absurd hpieces (List.splitOn_ne_nil _ _)
  | cons first rest =>
    have hsafe : HeaderSafe key first := by simpa [hpieces] using he.header
    have hfirst := line_option optionxform r hs he.key hsafe
    rw [if_neg hnot, if_neg hx] at hfirst
    have hrest := readContinuations (r := { r with
        optname := some (optionxform key), indentLevel := 0 }) (p := r.parser)
      (d := r.parser.options name) optionxform hs rfl rfl rest [strip first]
    simp only [optionLines, hpieces, List.foldlM_cons]
    rw [hfirst]
    refine ⟨_, hrest, hs, ?_, hat.sound, ?_⟩
    · rw [← hat.parser]
      simp [OrderedDict.map_set, reread, valueLines, hpieces]
    · intro name' option hs' ho'
      cases hs.symm.trans hs'
      cases ho'
      simp [OrderedDict.mem_keys_set]

/-- The first line of an option whose name is taken is refused. -/
theorem fresh_of_readOption {e : Text × Text} {r' : Reading} (hat : r.At q)
    (hs : r.sectname = some name) (he : OptionText e)
    (h : (optionLines e).foldlM (Reading.line optionxform) r = .ok r') :
    optionxform e.1 ∉ (q.options name).entries.map Prod.fst := by
  intro hmem
  rw [← hat.parser, options_map, OrderedDict.keys_map] at hmem
  cases hpieces : e.2.splitOn '\n' with
  | nil => exact absurd hpieces (List.splitOn_ne_nil _ _)
  | cons first rest =>
    have hsafe : HeaderSafe e.1 first := by simpa [hpieces] using he.header
    simp only [optionLines, hpieces, List.foldlM_cons,
      line_option optionxform r hs he.key hsafe, if_pos hmem] at h
    cases h

theorem joinLines_concat_nil (lines : List Text) : joinLines (lines ++ [[]]) = joinLines lines := by
  cases lines with
  | nil => rfl
  | cons first rest =>
    have hlast : ['\n'].intercalate (first :: rest ++ [[]]) =
        ['\n'].intercalate (first :: rest) ++ ['\n'] := by
      rw [← ofLines_eq_intercalate]
      induction rest generalizing first with
      | nil => simp [ofLines, List.intercalate]
      | cons second rest ih =>
        rw [ofLines, List.flatMap_cons, ← ofLines, ih]
        simp [List.intercalate]
    rw [joinLines, hlast, joinLines, rstrip, List.rdropWhile_concat_pos _ _ _ rfl, rstrip]

/-- The blank line behind a section belongs to its last option, and leaves it as it is. -/
theorem readBlank (hat : r.At q) : ∃ r', Reading.line optionxform r [] = .ok r' ∧ r'.At q := by
  refine ⟨_, line_blank optionxform r, ?_⟩
  unfold Reading.append
  split
  · rename_i name option hs ho
    obtain ⟨lines, hlines⟩ : ∃ lines, (r.parser.options name).get? option = some lines := by
      rw [← Option.ne_none_iff_exists', Ne, OrderedDict.get?_eq_none_iff, not_not]
      exact hat.open_mem name option hs ho
    refine ⟨?_, hat.sound, ?_⟩
    · have hget : (q.options name).get? option = some (joinLines lines) := by
        rw [← hat.parser, options_map, OrderedDict.get?_map, hlines, Option.map_some]
      have hne : (q.options name).entries ≠ [] := by
        intro hnil
        have hmem := OrderedDict.get?_eq_some_iff.mp hget
        rw [hnil] at hmem
        cases hmem
      simp only [map_setOptions, OrderedDict.map_set, hlines, Option.getD_some,
        joinLines_concat_nil, ← options_map, hat.parser]
      rw [OrderedDict.set_of_get? hget, setOptions_options hne]
    · intro name' option' hs' ho'
      cases hs.symm.trans hs'
      cases ho.symm.trans ho'
      simp [OrderedDict.mem_keys_set]
  · exact hat

end Steps

end ConfigParser

end WeaponDetection.Foundations
