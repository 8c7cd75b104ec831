import Mathlib
import Prologue.Command.Run
import Prologue.Proofs.Showing

/-!
# The examination of a path

What a check finds at a path depends on the path and the disk alone: a file that passes, of which it
says nothing, or a file that does not or none at all, of which it says so in a message or in a table.
It cannot answer for a path that leads to something other than a file or nothing, nor for one of which
the console does not show what there is to say. The latter never happens to a path without an opening
bracket, whatever is in the file.
-/

namespace Prologue

/-! ## Transformations -/

section

variable {bytes file : Bytes} {directory : Option Bytes}

theorem bracket_not_mem_hexByte (byte : UInt8) : '[' ∉ (Utf8.hexByte byte).toList := by
  have hdigit {n : Nat} (heq : '[' = Char.ofNat (if n < 10 then 48 + n else 87 + n)) : False := by
    have := eq_of_ofNat_eq_bracket heq.symm
    split at this <;> omega
  simp only [Utf8.hexByte, String.toList_ofList, List.mem_cons, List.not_mem_nil, or_false, not_or]
  exact ⟨hdigit, hdigit⟩

theorem bracket_not_mem_fault (fault : Utf8.Fault) : '[' ∉ fault.message.toList := by
  have hdigits (n : Nat) : '[' ∉ (toString n).toList := by
    rw [Nat.toString_eq_repr, Nat.toList_repr]
    exact Console.bracket_not_mem_decimal n
  have hreason : '[' ∉ fault.reason.message.toList := by cases fault.reason <;> decide
  have hself (text : String) : toString text = text := rfl
  rw [Utf8.Fault.message]
  split
  · simp only [hself, String.toList_append, List.mem_append, hdigits, hreason,
      bracket_not_mem_hexByte, or_false, not_or]
    decide
  · simp only [hself, String.toList_append, List.mem_append, hdigits, hreason, or_false, false_or,
      not_or]
    decide

theorem bracket_not_mem_language {cause : LanguageError} (h : dialectFor file none = .error cause)
    (hfile : 91 ∉ file) : '[' ∉ cause.message.toList := by
  have hsuffix : '[' ∉ Dialect.suffixOf (Path.ofBytes file) := fun hmem =>
    (Path.bracketless_ofBytes hfile).not_mem_suffix
      (Utf8.bracket_mem_of_mem_lossy (Text.bracket_mem_of_mem_lowerFrom hmem))
  simp only [dialectFor] at h
  split at h
  next => exact absurd h (by simp)
  next =>
    rw [Dialect.ofPath] at h
    generalize Dialect.suffixOf (Path.ofBytes file) = suffix at h hsuffix
    split at h
    next => exact absurd h (by simp)
    next =>
      obtain rfl := Except.error.inj h
      show '[' ∉ ("Unsupported file extension: " ++ String.ofList suffix).toList
      rw [String.toList_append, List.mem_append, not_or]
      exact ⟨by decide, by rwa [String.toList_ofList]⟩

/-- The messages about a source hold no opening bracket unless the file's name does. -/
theorem bracket_not_mem_transformError {cause : TransformError}
    (h : transform bytes file directory none = .error cause) (hfile : 91 ∉ file) :
    '[' ∉ cause.message.toList := by
  unfold transform at h
  split at h
  next error hdialect =>
    rw [← Except.error.inj h]
    exact bracket_not_mem_language hdialect hfile
  next =>
    simp only at h
    split at h
    next =>
      rw [← Except.error.inj h, TransformError.message, faultyMessage]
      split
      next => decide
      next =>
        rw [String.toList_append, String.toList_ofList, List.mem_append, not_or]
        exact ⟨fun hmem => hfile (Utf8.bracket_mem_of_mem_lossy hmem), by decide⟩
    next =>
      split at h
      next fault _ =>
        rw [← Except.error.inj h]
        exact bracket_not_mem_fault fault
      next =>
        split at h
        next fault _ =>
          rw [← Except.error.inj h]
          exact bracket_not_mem_fault fault
        next => exact absurd h (by simp)

end

/-! ## One path -/

namespace Command

/-- The path that a text on the command line stands for. -/
def fileAt (path : List Char) : Path := Path.ofBytes (Utf8.encode path)

/-- The text of a file passes: its name has a known ending or none, it has no faults, all that is
decoded is UTF-8, and no directive has a flaw. -/
def Clean (file content : Bytes) : Prop :=
  ∃ dialect analysis code, dialectFor file none = .ok dialect ∧
    (Source.read dialect content).hasError = false ∧
    (Source.read dialect content).analyze = .ok analysis ∧
    Utf8.decode ((Source.read dialect content).strip analysis).bytes = .ok code ∧
    analysis.diagnostics = []

/-- The path leads to a file whose text passes. -/
def Passes (disk : Disk) (path : List Char) : Prop :=
  Char.ofNat 0 ∉ path ∧ ∃ content, disk.read (fileAt path) = .ok content ∧
    Clean (fileAt path).written content

/-- The path leads to a file or to nothing, as one with a null character does. -/
def Reaches (disk : Disk) (path : List Char) : Prop :=
  Char.ofNat 0 ∉ path → ∀ cause, disk.read (fileAt path) = .error cause → cause.refusal = .missing

section

variable (disk : Disk) (path : List Char) (directory : Option Bytes)

theorem transformFile_cases :
    (Char.ofNat 0 ∈ path ∧ transformFile disk path directory none = .error .nullCharacter) ∨
      Char.ofNat 0 ∉ path ∧
        ((∃ cause, disk.read (fileAt path) = .error cause ∧
            transformFile disk path directory none =
              .error (if cause.refusal = .missing then .notFound path else .disk cause)) ∨
          ∃ content, disk.read (fileAt path) = .ok content ∧
            transformFile disk path directory none =
              (transform content (fileAt path).written directory none).mapError .transform) := by
  by_cases hnull : Char.ofNat 0 ∈ path
  · exact Or.inl ⟨hnull, by simp [transformFile, hnull]⟩
  · refine Or.inr ⟨hnull, ?_⟩
    cases hread : disk.read (fileAt path) with
    | error cause =>
      refine Or.inl ⟨cause, rfl, ?_⟩
      rw [fileAt] at hread
      by_cases hmissing : cause.refusal = .missing <;>
        simp [transformFile, hnull, hread, hmissing]
    | ok content =>
      refine Or.inr ⟨content, rfl, ?_⟩
      rw [fileAt] at hread
      simp [transformFile, hnull, hread, fileAt]

variable {disk path directory}

theorem transformFile_eq_disk_iff {cause : DiskError} :
    transformFile disk path directory none = .error (.disk cause) ↔
      Char.ofNat 0 ∉ path ∧ disk.read (fileAt path) = .error cause ∧ cause.refusal ≠ .missing := by
  rcases transformFile_cases disk path directory with
    ⟨hnull, hresult⟩ | ⟨hnull, ⟨other, hread, hresult⟩ | ⟨content, hread, hresult⟩⟩
  · simp [hresult, hnull]
  · by_cases hmissing : other.refusal = .missing
    · simp only [hresult, hread, hmissing, if_true, Except.error.injEq, reduceCtorEq, false_iff]
      rintro ⟨-, rfl, hrefused⟩
      exact hrefused hmissing
    · simp only [hresult, hread, hmissing, if_false, Except.error.injEq, FileError.disk.injEq,
        hnull]
      constructor
      · rintro rfl
        exact ⟨not_false, rfl, hmissing⟩
      · exact fun h => h.2.1
  · rw [hresult, hread]
    cases transform content (fileAt path).written directory none <;> simp [Except.mapError]

theorem reaches_iff (disk : Disk) (path : List Char) (directory : Option Bytes) :
    Reaches disk path ↔ ∀ cause, transformFile disk path directory none ≠ .error (.disk cause) := by
  simp only [Reaches, ne_eq, transformFile_eq_disk_iff, not_and, not_not]
  exact ⟨fun h cause hnull => h hnull cause, fun h hnull cause => h cause hnull⟩

theorem of_transformFile_eq_ok {result : TransformResult}
    (h : transformFile disk path directory none = .ok result) :
    Char.ofNat 0 ∉ path ∧ ∃ content, disk.read (fileAt path) = .ok content ∧
      transform content (fileAt path).written directory none = .ok result := by
  rcases transformFile_cases disk path directory with
    ⟨-, hresult⟩ | ⟨hnull, ⟨cause, -, hresult⟩ | ⟨content, hread, hresult⟩⟩
  · exact absurd (h.symm.trans hresult) (by simp)
  · exact absurd (h.symm.trans hresult) (by simp)
  · refine ⟨hnull, content, hread, ?_⟩
    rw [h] at hresult
    cases htransform : transform content (fileAt path).written directory none with
    | error => exact absurd hresult (by simp [htransform, Except.mapError])
    | ok value =>
      rw [htransform] at hresult
      exact congrArg Except.ok (Except.ok.inj hresult.symm)

theorem passes_iff (disk : Disk) (path : List Char) (directory : Option Bytes) :
    Passes disk path ↔
      ∃ result, transformFile disk path directory none = .ok result ∧ result.diagnostics = [] := by
  constructor
  · rintro ⟨hnull, content, hread, dialect, analysis, code, hdialect, hfaultless, hanalysis, hcode,
      hclean⟩
    let result : TransformResult :=
      ⟨relativeFilename (fileAt path).written directory, code, analysis.diagnostics,
        analysis.hasModuleDirective, analysis.directiveFunctions⟩
    have htransform : transform content (fileAt path).written directory none = .ok result :=
      transform_eq_ok_iff.2 ⟨dialect, analysis, hdialect, hfaultless, hanalysis, hcode, rfl⟩
    refine ⟨result, ?_, hclean⟩
    rcases transformFile_cases disk path directory with
      ⟨hnull', -⟩ | ⟨-, ⟨cause, hread', -⟩ | ⟨content', hread', hresult⟩⟩
    · exact absurd hnull' hnull
    · exact absurd (hread.symm.trans hread') (by simp)
    · obtain rfl := Except.ok.inj (hread.symm.trans hread')
      rw [hresult, htransform]
      rfl
  · rintro ⟨result, hresult, hclean⟩
    obtain ⟨hnull, content, hread, htransform⟩ := of_transformFile_eq_ok hresult
    obtain ⟨dialect, analysis, hdialect, hfaultless, hanalysis, hcode, hvalue⟩ :=
      transform_eq_ok_iff.1 htransform
    rw [hvalue] at hclean
    exact ⟨hnull, content, hread, dialect, analysis, result.code, hdialect, hfaultless, hanalysis,
      hcode, hclean⟩

theorem bracket_not_mem_written (hpath : '[' ∉ path) : 91 ∉ (fileAt path).written :=
  (Path.bracketless_ofBytes fun hmem =>
    hpath (Utf8.bracket_mem_of_mem_encode hmem)).not_mem_written

theorem toList_message_notFound (given : List Char) :
    (FileError.notFound given).message.toList = "File not found: ".toList ++ given := by
  show ("File not found: " ++ String.ofList given).toList = _
  rw [String.toList_append, @String.toList_ofList given]

theorem bracket_not_mem_fileError {error : FileError}
    (h : transformFile disk path directory none = .error error) (hreach : Reaches disk path)
    (hpath : '[' ∉ path) : '[' ∉ error.message.toList := by
  rcases transformFile_cases disk path directory with
    ⟨hnull, hresult⟩ | ⟨hnull, ⟨cause, hread, hresult⟩ | ⟨content, hread, hresult⟩⟩
  · obtain rfl := Except.error.inj (h.symm.trans hresult)
    decide
  · rw [hreach hnull cause hread, if_pos rfl] at hresult
    obtain rfl := Except.error.inj (h.symm.trans hresult)
    rw [toList_message_notFound, List.mem_append, not_or]
    exact ⟨by decide, hpath⟩
  · rw [h] at hresult
    cases htransform : transform content (fileAt path).written directory none with
    | error cause =>
      rw [htransform] at hresult
      obtain rfl := Except.error.inj hresult
      exact bracket_not_mem_transformError htransform (bracket_not_mem_written hpath)
    | ok value => exact absurd hresult (by simp [htransform, Except.mapError])

end

/-- An error message in its style. -/
def alert (error : FileError) : List Char := ("[red]" ++ error.message ++ "[/red]").toList

theorem alert_eq (error : FileError) :
    alert error = Console.styled ['r', 'e', 'd'] error.message.toList := by
  simp [alert, Console.styled]

/-- What a console makes of that which there is to say about a path. -/
def saying (console : Console) (disk : Disk) (directory : Option (List Char)) (path : List Char) :
    Except Console.Fault (List (List Char)) :=
  match transformFile disk path (some (namingDirectory directory disk)) none with
  | .error error => console.message (alert error)
  | .ok result => console.table (Utf8.lossy result.file) (result.diagnostics.map Console.Table.rowOf)

/-- What comes of a path: the lines that a check shows, none if the file passes; or a failure. -/
def examine (console : Console) (disk : Disk) (directory : Option (List Char)) (path : List Char) :
    Except Failure (List (List Char)) :=
  match transformFile disk path (some (namingDirectory directory disk)) none with
  | .error (.disk cause) => .error (.disk cause)
  | .error _ => (saying console disk directory path).mapError .console
  | .ok result =>
    if result.diagnostics.isEmpty then .ok []
    else (saying console disk directory path).mapError .console

section

variable {console : Console} {disk : Disk} {directory : Option (List Char)} {path : List Char}

theorem examine_of_disk {cause : DiskError}
    (h : transformFile disk path (some (namingDirectory directory disk)) none =
      .error (.disk cause)) :
    examine console disk directory path = .error (.disk cause) := by
  rw [examine, h]

theorem examine_of_error {error : FileError} (hdisk : ∀ cause, error ≠ .disk cause)
    (h : transformFile disk path (some (namingDirectory directory disk)) none = .error error) :
    examine console disk directory path = (console.message (alert error)).mapError .console := by
  rw [examine, saying, h]
  cases error with
  | disk cause => exact absurd rfl (hdisk cause)
  | notFound => rfl
  | nullCharacter => rfl
  | transform => rfl

theorem examine_of_ok {result : TransformResult}
    (h : transformFile disk path (some (namingDirectory directory disk)) none = .ok result) :
    examine console disk directory path =
      if result.diagnostics.isEmpty then .ok []
      else (console.table (Utf8.lossy result.file)
        (result.diagnostics.map Console.Table.rowOf)).mapError .console := by
  rw [examine, saying, h]

end

/-- A check can answer for a path: it leads to a file or to nothing, and unless the file passes,
the console shows what there is to say. -/
structure Answerable (console : Console) (disk : Disk) (directory : Option (List Char))
    (path : List Char) : Prop where
  reaches : Reaches disk path
  shows : ¬ Passes disk path → ∃ lines, saying console disk directory path = .ok lines

section

variable (console : Console) (disk : Disk) (directory : Option (List Char)) (path : List Char)

instance : Decidable (Passes disk path) :=
  decidable_of_iff
    ((transformFile disk path none none).toOption.any (·.diagnostics.isEmpty) = true) <| by
      rw [passes_iff disk path none]
      cases transformFile disk path none none <;> simp [Except.toOption]

/-- The three things that can come of a path. -/
theorem examine_cases :
    (¬ Reaches disk path ∧ ¬ Passes disk path ∧
        ∃ cause, examine console disk directory path = .error cause) ∨
      (Reaches disk path ∧ Passes disk path ∧ examine console disk directory path = .ok []) ∨
      (Reaches disk path ∧ ¬ Passes disk path ∧ examine console disk directory path =
        (saying console disk directory path).mapError .console) := by
  have hreaches := reaches_iff disk path (some (namingDirectory directory disk))
  have hpasses := passes_iff disk path (some (namingDirectory directory disk))
  cases hresult : transformFile disk path (some (namingDirectory directory disk)) none with
  | error error =>
    rw [hresult] at hreaches hpasses
    have hfails : ¬ Passes disk path := by simp [hpasses]
    by_cases hdisk : ∃ cause, error = .disk cause
    · obtain ⟨cause, rfl⟩ := hdisk
      exact Or.inl ⟨by simp [hreaches], hfails, .disk cause, examine_of_disk hresult⟩
    · rw [not_exists] at hdisk
      refine Or.inr (Or.inr ⟨by simpa [hreaches] using hdisk, hfails, ?_⟩)
      rw [examine_of_error hdisk hresult, saying, hresult]
  | ok result =>
    rw [hresult] at hreaches hpasses
    have hreach : Reaches disk path := by simp [hreaches]
    rw [examine_of_ok hresult]
    by_cases hclean : result.diagnostics = []
    · exact Or.inr (Or.inl ⟨hreach, hpasses.2 ⟨result, rfl, hclean⟩, by simp [hclean]⟩)
    · refine Or.inr (Or.inr ⟨hreach, ?_, ?_⟩)
      · rw [hpasses]
        rintro ⟨other, hother, hnil⟩
        exact hclean (Except.ok.inj hother ▸ hnil)
      · rw [if_neg (by simpa using hclean), saying, hresult]

theorem exists_examine_iff :
    (∃ lines, examine console disk directory path = .ok lines) ↔
      Answerable console disk directory path := by
  rcases examine_cases console disk directory path with
    ⟨hreach, -, cause, hexamine⟩ | ⟨hreach, hpasses, hexamine⟩ | ⟨hreach, hpasses, hexamine⟩
  · rw [hexamine]
    exact iff_of_false (by simp) fun h => hreach h.reaches
  · exact iff_of_true ⟨[], hexamine⟩ ⟨hreach, absurd hpasses⟩
  · rw [hexamine]
    constructor
    · rintro ⟨lines, hlines⟩
      refine ⟨hreach, fun _ => ?_⟩
      cases hsaying : saying console disk directory path with
      | error cause => exact absurd hlines (by simp [hsaying, Except.mapError])
      | ok shown => exact ⟨shown, rfl⟩
    · intro h
      obtain ⟨lines, hlines⟩ := h.shows hpasses
      exact ⟨lines, by rw [hlines]; rfl⟩

variable {console}

theorem ne_nil_of_saying (hconsole : console.Lawful) {lines : List (List Char)}
    (h : saying console disk directory path = .ok lines) : lines ≠ [] := by
  rw [saying] at h
  split at h
  · exact hconsole.message_ne_nil h
  · exact hconsole.table_ne_nil h

theorem examine_eq_nil_iff (hconsole : console.Lawful) :
    examine console disk directory path = .ok [] ↔ Passes disk path := by
  rcases examine_cases console disk directory path with
    ⟨-, hpasses, cause, hexamine⟩ | ⟨-, hpasses, hexamine⟩ | ⟨-, hpasses, hexamine⟩
  · rw [hexamine]
    exact iff_of_false (by simp) hpasses
  · exact iff_of_true hexamine hpasses
  · rw [hexamine]
    refine iff_of_false ?_ hpasses
    cases hsaying : saying console disk directory path with
    | error cause => simp [Except.mapError]
    | ok lines => simp [Except.mapError, ne_nil_of_saying disk directory path hconsole hsaying]

variable {disk directory path}

/-- A check answers for every path without an opening bracket that leads to a file or to nothing,
whatever the file holds. -/
theorem answerable_of_bracketless (hconsole : console.Lawful) (hpath : '[' ∉ path)
    (hreach : Reaches disk path) : Answerable console disk directory path := by
  refine ⟨hreach, fun _ => ?_⟩
  rw [saying]
  split
  next error herror =>
    rw [alert_eq]
    exact hconsole.shows_styled (by simp [Console.messageStyles])
      (bracket_not_mem_fileError herror hreach hpath)
  next result hresult =>
    obtain ⟨-, content, -, htransform⟩ := of_transformFile_eq_ok hresult
    obtain ⟨dialect, analysis, -, -, hanalysis, -, hvalue⟩ := transform_eq_ok_iff.1 htransform
    rw [hvalue]
    refine hconsole.shows_table (fun hmem => ?_) fun row hrow cell hcell =>
      Console.lacksBracket_rowOf hanalysis hrow hcell
    exact bracket_not_mem_relativeFilename (bracket_not_mem_written hpath) _
      (Utf8.bracket_mem_of_mem_lossy hmem)

end

end Command

end Prologue
