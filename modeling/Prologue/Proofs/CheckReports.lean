import Mathlib
import Prologue.Proofs.Examination

/-!
# What a check reports

A check takes the paths in order and goes on to the next one as long as it can answer. Where it
cannot, it ends, with nothing said of this path or of those behind it. The exit code tells in any
case whether all files passed.
-/

namespace Prologue.Command

open Session (joinLines)

/-! ## All paths -/

/-- The lines that a check shows of a path, none if it cannot answer. -/
def linesFor (console : Console) (disk : Disk) (directory : Option (List Char))
    (path : List Char) : List (List Char) :=
  (examine console disk directory path).toOption.getD []

theorem linesFor_eq_nil_iff {console : Console} {disk : Disk} {directory : Option (List Char)}
    {path : List Char} (hconsole : console.Lawful) (h : Answerable console disk directory path) :
    linesFor console disk directory path = [] ↔ Passes disk path := by
  obtain ⟨lines, hlines⟩ := (exists_examine_iff console disk directory path).2 h
  rw [← examine_eq_nil_iff disk directory path hconsole, linesFor, hlines]
  exact Except.ok.injEq lines [] ▸ Iff.rfl

/-- The session with more lines on the error stream. -/
def Session.add (session : Session) (lines : List (List Char)) : Session :=
  { session with err := session.err ++ joinLines lines }

theorem Session.add_add (session : Session) (first second : List (List Char)) :
    (session.add first).add second = session.add (first ++ second) := by
  simp [Session.add, joinLines]

theorem Session.add_nil (session : Session) : session.add [] = session := by
  simp [Session.add, joinLines]

section

variable {α β : Type} {first : Action α} {session after : Session}

theorem run_bind_of_ok {value : α} (next : α → Action β)
    (h : first.run.run session = (.ok value, after)) :
    (first >>= next).run.run session = (next value).run.run after := by
  rw [ExceptT.run_bind, StateT.run_bind, h]
  rfl

theorem run_bind_of_error {stop : Stop} (next : α → Action β)
    (h : first.run.run session = (.error stop, after)) :
    (first >>= next).run.run session = (.error stop, after) := by
  rw [ExceptT.run_bind, StateT.run_bind, h]
  rfl

end

section

variable {session : Session} {ask : Console → Except Console.Fault (List (List Char))}

theorem run_shown_of_ok {lines : List (List Char)} (h : ask session.console = .ok lines) :
    (Session.shown ask).run.run session = (.ok lines, session) := by
  have hget : (get : Action Session).run.run session = (.ok session, session) := rfl
  rw [Session.shown, run_bind_of_ok _ hget]
  simp only [h]
  rfl

theorem run_shown_of_error {cause : Console.Fault} (h : ask session.console = .error cause) :
    (Session.shown ask).run.run session = (.error (.failure (.console cause)), session) := by
  have hget : (get : Action Session).run.run session = (.ok session, session) := rfl
  rw [Session.shown, run_bind_of_ok _ hget]
  simp only [h]
  rfl

/-- Showing on the error stream what a console makes of a request. -/
theorem run_reportLines_of_ok {lines : List (List Char)} (h : ask session.console = .ok lines) :
    (Session.shown ask >>= Session.reportLines).run.run session = (.ok (), session.add lines) :=
  (run_bind_of_ok _ (run_shown_of_ok h)).trans rfl

theorem run_report_of_ok {message : List Char} {lines : List (List Char)}
    (h : session.console.message message = .ok lines) :
    (Session.report message).run.run session = (.ok (), session.add lines) :=
  @run_reportLines_of_ok session (·.message message) lines h

theorem run_reportLines_of_error {cause : Console.Fault} (h : ask session.console = .error cause) :
    (Session.shown ask >>= Session.reportLines).run.run session =
      (.error (.failure (.console cause)), session) :=
  run_bind_of_error _ (run_shown_of_error h)

end

section

variable (directory : Option (List Char)) (path : List Char) (session : Session)

theorem transformGiven_of_disk {cause : DiskError}
    (h : transformFile session.disk path (some (namingDirectory directory session.disk)) none =
      .error (.disk cause)) :
    (transformGiven path directory none).run.run session =
      (.error (.failure (.disk cause)), session) := by
  have hget : (get : Action Session).run.run session = (.ok session, session) := rfl
  rw [transformGiven, run_bind_of_ok _ hget]
  simp only [h]
  rfl

theorem transformGiven_of_ne {result : Except FileError TransformResult}
    (hdisk : ∀ cause, result ≠ .error (.disk cause))
    (h : transformFile session.disk path (some (namingDirectory directory session.disk)) none =
      result) :
    (transformGiven path directory none).run.run session = (.ok result, session) := by
  have hget : (get : Action Session).run.run session = (.ok session, session) := rfl
  rw [transformGiven, run_bind_of_ok _ hget]
  simp only [h]
  rfl

/-- How a check of one path ends: with its lines shown, as failed if there are any, or early. -/
def Session.conclude (session : Session) :
    Except Failure (List (List Char)) → Except Stop Bool × Session
  | .ok lines => (.ok (!lines.isEmpty), session.add lines)
  | .error cause => (.error (.failure cause), session)

theorem Session.conclude_of_ne_nil {lines : List (List Char)} (h : lines ≠ []) :
    session.conclude (.ok lines) = (.ok true, session.add lines) := by
  rw [Session.conclude, List.isEmpty_eq_false_iff.2 h, Bool.not_false]

/-- How a check of one path ends if it shows what a console makes of a request. -/
theorem run_reportLines_eq {ask : Console → Except Console.Fault (List (List Char))}
    (hne : ∀ lines, ask session.console = .ok lines → lines ≠ []) :
    (Session.shown ask >>= Session.reportLines >>= fun _ => pure true : Action Bool).run.run
        session =
      session.conclude ((ask session.console).mapError .console) := by
  cases hask : ask session.console with
  | error cause => exact run_bind_of_error _ (run_reportLines_of_error hask)
  | ok lines =>
    refine (run_bind_of_ok _ (run_reportLines_of_ok hask)).trans ?_
    exact (session.conclude_of_ne_nil (hne lines hask)).symm

theorem checkOne_eq (hconsole : session.console.Lawful) :
    (checkOne directory path).run.run session =
      session.conclude (examine session.console session.disk directory path) := by
  rw [checkOne]
  cases hresult : transformFile session.disk path (some (namingDirectory directory session.disk))
      none with
  | error error =>
    by_cases hdisk : ∃ cause, error = .disk cause
    · obtain ⟨cause, rfl⟩ := hdisk
      rw [run_bind_of_error _ (transformGiven_of_disk directory path session hresult),
        examine_of_disk hresult]
      rfl
    · rw [not_exists] at hdisk
      have hgiven := transformGiven_of_ne directory path session (by simpa using hdisk) hresult
      rw [run_bind_of_ok _ hgiven, examine_of_error hdisk hresult]
      exact run_reportLines_eq session fun _ => hconsole.message_ne_nil
  | ok result =>
    rw [run_bind_of_ok _ (transformGiven_of_ne directory path session (by simp) hresult),
      examine_of_ok hresult]
    by_cases hclean : result.diagnostics.isEmpty = true
    · simp only [hclean, if_true]
      rw [Session.conclude, Session.add_nil]
      rfl
    · simp only [hclean]
      exact run_reportLines_eq session fun _ => hconsole.table_ne_nil

end

/-- The session is one of a console and a disk. -/
structure Session.At (session : Session) (console : Console) (disk : Disk) : Prop where
  console_eq : session.console = console
  disk_eq : session.disk = disk

theorem Session.At.add {session : Session} {console : Console} {disk : Disk}
    (h : session.At console disk) (lines : List (List Char)) : (session.add lines).At console disk :=
  ⟨h.console_eq, h.disk_eq⟩

section

variable {console : Console} {disk : Disk} {directory : Option (List Char)} {session : Session}

theorem checkOne_of_answerable {path : List Char} (hconsole : console.Lawful)
    (hat : session.At console disk) (h : Answerable console disk directory path) :
    (checkOne directory path).run.run session =
      (.ok (decide (¬ Passes disk path)), session.add (linesFor console disk directory path)) := by
  obtain ⟨rfl, rfl⟩ := hat
  obtain ⟨lines, hlines⟩ := (exists_examine_iff session.console session.disk directory path).2 h
  have hshown : linesFor session.console session.disk directory path = lines := by
    rw [linesFor, hlines]
    rfl
  have hempty : lines.isEmpty = decide (Passes session.disk path) := by
    rw [Bool.eq_iff_iff, List.isEmpty_iff, decide_eq_true_iff, ← linesFor_eq_nil_iff hconsole h,
      hshown]
  rw [checkOne_eq _ _ _ hconsole, hlines, hshown, Session.conclude, hempty, decide_not]

theorem checkOne_of_not_answerable {path : List Char} (hconsole : console.Lawful)
    (hat : session.At console disk) (h : ¬ Answerable console disk directory path) :
    ∃ cause, (checkOne directory path).run.run session = (.error (.failure cause), session) := by
  obtain ⟨rfl, rfl⟩ := hat
  cases hexamine : examine session.console session.disk directory path with
  | error cause => exact ⟨cause, by rw [checkOne_eq _ _ _ hconsole, hexamine]; rfl⟩
  | ok lines => exact absurd ((exists_examine_iff ..).1 ⟨lines, hexamine⟩) h

/-- A check shows the lines of all paths in order and counts those that do not pass. -/
theorem checkAll_of_answerable {paths : List (List Char)} (hconsole : console.Lawful)
    (hat : session.At console disk) (h : ∀ path ∈ paths, Answerable console disk directory path) :
    (checkAll directory paths).run.run session =
      (.ok (paths.countP (¬ Passes disk ·)),
        session.add (paths.flatMap (linesFor console disk directory))) := by
  induction paths generalizing session with
  | nil =>
    rw [List.flatMap_nil, Session.add_nil]
    rfl
  | cons path rest ih =>
    rw [List.forall_mem_cons] at h
    rw [checkAll, run_bind_of_ok _ (checkOne_of_answerable hconsole hat h.1),
      run_bind_of_ok _ (ih (hat.add _) h.2), Session.add_add, List.countP_cons, List.flatMap_cons]
    by_cases hpasses : Passes disk path
    · simp only [hpasses, not_true_eq_false, decide_false]
      rfl
    · simp only [hpasses, not_false_eq_true, decide_true]
      rfl

/-- A check that meets a path it cannot answer for ends there. -/
theorem checkAll_of_not_answerable {done : List (List Char)} {path : List Char}
    (rest : List (List Char)) (hconsole : console.Lawful) (hat : session.At console disk)
    (hdone : ∀ other ∈ done, Answerable console disk directory other)
    (hpath : ¬ Answerable console disk directory path) :
    ∃ cause, (checkAll directory (done ++ path :: rest)).run.run session =
      (.error (.failure cause), session.add (done.flatMap (linesFor console disk directory))) := by
  induction done generalizing session with
  | nil =>
    obtain ⟨cause, hcheck⟩ := checkOne_of_not_answerable hconsole hat hpath
    refine ⟨cause, ?_⟩
    rw [List.nil_append, checkAll, run_bind_of_error _ hcheck, List.flatMap_nil, Session.add_nil]
  | cons other done ih =>
    rw [List.forall_mem_cons] at hdone
    obtain ⟨cause, hcheck⟩ := ih (hat.add _) hdone.2
    refine ⟨cause, ?_⟩
    rw [List.cons_append, checkAll, run_bind_of_ok _ (checkOne_of_answerable hconsole hat hdone.1),
      run_bind_of_error _ hcheck, Session.add_add, List.flatMap_cons]

end

/-! ## The whole command -/

/-- The last line of a check. -/
def summary (failures total : Nat) : List Char :=
  if failures = 0 then "Checked ".toList ++ Nat.toDigits 10 total ++ " file(s)".toList
  else Nat.toDigits 10 failures ++ " of ".toList ++ Nat.toDigits 10 total ++
    " file(s) failed".toList

section

variable {console : Console} (hconsole : console.Lawful)

include hconsole

theorem message_checked (total : Nat) :
    console.message (s!"[green]Checked[/green] {total} file(s)").toList =
      console.message (summary 0 total) := by
  have hmessage : (s!"[green]Checked[/green] {total} file(s)").toList =
      Console.styled ['g', 'r', 'e', 'e', 'n'] "Checked".toList ++
        (" ".toList ++ Nat.toDigits 10 total ++ " file(s)".toList) := by
    simp [Console.styled, Nat.toList_repr, toString]
  rw [hmessage, hconsole.message_styled_append (by simp [Console.messageStyles]) (by decide)]
  · simp [summary]
  · rw [Console.isPlain_append, Console.isPlain_append, Console.isPlain_toDigits]
    decide

omit hconsole in
theorem isPlain_summary (failures total : Nat) : Console.isPlain (summary failures total) = true := by
  rw [summary]
  split
  · rw [Console.isPlain_append, Console.isPlain_append, Console.isPlain_toDigits]
    decide
  · rw [Console.isPlain_append, Console.isPlain_append, Console.isPlain_append,
      Console.isPlain_toDigits, Console.isPlain_toDigits]
    decide

theorem message_failed {failures : Nat} (h : failures ≠ 0) (total : Nat) :
    console.message ("[red]" ++ s!"{failures} of {total} file(s) failed" ++ "[/red]").toList =
      console.message (summary failures total) := by
  have hmessage : ("[red]" ++ s!"{failures} of {total} file(s) failed" ++ "[/red]").toList =
      Console.styled ['r', 'e', 'd'] (summary failures total) ++ [] := by
    simp [Console.styled, summary, h, Nat.toList_repr, toString]
  rw [hmessage, hconsole.message_styled_append (by simp [Console.messageStyles])
    (isPlain_summary failures total) (by decide), List.append_nil]

variable {disk : Disk} {directory : Option (List Char)}

theorem check_of_answerable {paths : List (List Char)}
    (h : ∀ path ∈ paths, Answerable console disk directory path) :
    ∃ last, console.message (summary (paths.countP (¬ Passes disk ·)) paths.length) = .ok last ∧
      settle console disk (checkCommand paths directory) =
        (if paths.countP (¬ Passes disk ·) = 0 then .done else .exit 1,
          ⟨console, disk, [],
            joinLines (paths.flatMap (linesFor console disk directory) ++ last), []⟩) := by
  have hat : (Session.start console disk).At console disk := ⟨rfl, rfl⟩
  obtain ⟨last, hlast⟩ := hconsole.shows_plain
    (isPlain_summary (paths.countP (¬ Passes disk ·)) paths.length)
  refine ⟨last, hlast, ?_⟩
  have hreport : ∀ {message : List Char}, console.message message = .ok last →
      (Session.report message).run.run ((Session.start console disk).add
          (paths.flatMap (linesFor console disk directory))) =
        (.ok (), (Session.start console disk).add
          (paths.flatMap (linesFor console disk directory) ++ last)) := by
    intro message hmessage
    rw [run_report_of_ok hmessage, Session.add_add]
  rw [settle, checkCommand, run_bind_of_ok _ (checkAll_of_answerable hconsole hat h)]
  by_cases hnone : paths.countP (¬ Passes disk ·) = 0
  · rw [hnone, ← message_checked hconsole] at hlast
    simp only [hnone, if_true]
    rw [hreport hlast]
    rfl
  · rw [← message_failed hconsole hnone] at hlast
    simp only [hnone, if_false, Session.reportError]
    rw [run_bind_of_ok _ (hreport hlast)]
    rfl

theorem check_of_not_answerable {done : List (List Char)} {path : List Char}
    (rest : List (List Char)) (hdone : ∀ other ∈ done, Answerable console disk directory other)
    (hpath : ¬ Answerable console disk directory path) :
    ∃ cause, settle console disk (checkCommand (done ++ path :: rest) directory) =
      (.failure cause, ⟨console, disk, [],
        joinLines (done.flatMap (linesFor console disk directory)), []⟩) := by
  have hat : (Session.start console disk).At console disk := ⟨rfl, rfl⟩
  obtain ⟨cause, hall⟩ := checkAll_of_not_answerable rest hconsole hat hdone hpath
  refine ⟨cause, ?_⟩
  rw [settle, checkCommand, run_bind_of_error _ hall]
  rfl

theorem answerable_of_passes {path : List Char} (h : Passes disk path) :
    Answerable console disk directory path :=
  (exists_examine_iff ..).1 ⟨[], (examine_eq_nil_iff disk directory path hconsole).2 h⟩

omit hconsole in
theorem exists_first_not_answerable {paths : List (List Char)}
    (h : ¬ ∀ path ∈ paths, Answerable console disk directory path) :
    ∃ done path rest, paths = done ++ path :: rest ∧
      (∀ other ∈ done, Answerable console disk directory other) ∧
        ¬ Answerable console disk directory path := by
  classical
  simp only [not_forall] at h
  obtain ⟨bad, hmem, hbad⟩ := h
  have hsome : (paths.find? fun path => ¬ Answerable console disk directory path).isSome = true :=
    List.find?_isSome.2 ⟨bad, hmem, decide_eq_true hbad⟩
  obtain ⟨path, hpath⟩ := Option.isSome_iff_exists.1 hsome
  obtain ⟨hfirst, done, rest, hsplit, hdone⟩ := List.find?_eq_some_iff_append.1 hpath
  exact ⟨done, path, rest, hsplit, by simpa using hdone, of_decide_eq_true hfirst⟩

/-- The exit code of a check tells whether all files pass, however it ends. -/
theorem exitCode_check (paths : List (List Char)) :
    (settle console disk (checkCommand paths directory)).1.exitCode =
      if ∀ path ∈ paths, Passes disk path then 0 else 1 := by
  by_cases hall : ∀ path ∈ paths, Answerable console disk directory path
  · have hcount : paths.countP (¬ Passes disk ·) = 0 ↔ ∀ path ∈ paths, Passes disk path := by
      simp [List.countP_eq_zero]
    obtain ⟨last, -, hcheck⟩ := check_of_answerable hconsole hall
    rw [hcheck]
    by_cases hpasses : ∀ path ∈ paths, Passes disk path
    · rw [if_pos hpasses, if_pos (hcount.2 hpasses)]
      rfl
    · rw [if_neg hpasses, if_neg (mt hcount.1 hpasses)]
      rfl
  · obtain ⟨done, path, rest, rfl, hdone, hpath⟩ := exists_first_not_answerable hall
    obtain ⟨cause, hcheck⟩ := check_of_not_answerable hconsole rest hdone hpath
    have hfails : ¬ ∀ other ∈ done ++ path :: rest, Passes disk other := fun hpasses =>
      hpath (answerable_of_passes hconsole (hpasses path (by simp)))
    rw [hcheck, if_neg hfails]
    rfl

end

/-- On every lawful console, a check exits with zero exactly if all files pass. It shows the lines
of all paths, unless it fails at the first that it cannot answer for. -/
theorem check_reports_until_unanswerable {console : Console} (hconsole : console.Lawful)
    (disk : Disk) (directory : Option (List Char)) (paths : List (List Char)) :
    let result := settle console disk (checkCommand paths directory)
    let failures := paths.countP (¬ Passes disk ·)
    result.1.exitCode = (if ∀ path ∈ paths, Passes disk path then 0 else 1) ∧
      ((∀ path ∈ paths, Answerable console disk directory path) →
        ∃ last, console.message (summary failures paths.length) = .ok last ∧
          result = (if failures = 0 then .done else .exit 1, ⟨console, disk, [],
            joinLines (paths.flatMap (linesFor console disk directory) ++ last), []⟩)) ∧
      (∀ done path rest, paths = done ++ path :: rest →
        (∀ other ∈ done, Answerable console disk directory other) →
        ¬ Answerable console disk directory path →
          ∃ cause, result = (.failure cause, ⟨console, disk, [],
            joinLines (done.flatMap (linesFor console disk directory)), []⟩)) ∧
      (∀ path, Answerable console disk directory path →
        (linesFor console disk directory path = [] ↔ Passes disk path)) ∧
      ∀ path, '[' ∉ path → Reaches disk path → Answerable console disk directory path := by
  refine ⟨exitCode_check hconsole paths, check_of_answerable hconsole, ?_,
    fun _ => linesFor_eq_nil_iff hconsole, fun _ => answerable_of_bracketless hconsole⟩
  rintro done path rest rfl hdone hpath
  exact check_of_not_answerable hconsole rest hdone hpath

/-- A directory and an empty source. -/
def tray : Disk := ⟨[([utf8 "d"], .directory), ([utf8 "a.ts"], .file [])], []⟩

theorem examine_tray :
    examine (.standard 80) tray none "a.ts".toList = .ok [] ∧
      examine (.standard 80) tray none "b.ts".toList = .ok ["File not found: b.ts".toList] ∧
      examine (.standard 80) tray none "d".toList =
        .error (.disk ⟨.isDirectory, ⟨.here, [utf8 "d"]⟩⟩) := by
  have hfile : transformFile tray "b.ts".toList (some (namingDirectory none tray)) none =
      .error (.notFound "b.ts".toList) := by cbv
  have hmessage : (Console.standard 80).message (alert (.notFound "b.ts".toList)) =
      .ok ["File not found: b.ts".toList] := by
    rw [alert_eq, toList_message_notFound, ← List.append_nil (Console.styled _ _),
      Console.message_standard_styled 80 (by simp [Console.messageStyles]) (by decide) (by decide)]
    cbv
  refine ⟨by cbv, ?_, examine_of_disk (by cbv)⟩
  rw [examine_of_error (by simp) hfile, hmessage]
  rfl

/-- A missing file and one that passes are both answered for. -/
theorem tray_answered :
    (Console.standard 80).Lawful ∧
      (∀ path ∈ ["b.ts".toList, "a.ts".toList], Answerable (.standard 80) tray none path) ∧
      settle (.standard 80) tray (checkCommand ["b.ts".toList, "a.ts".toList] none) =
        (.exit 1, ⟨.standard 80, tray, [],
          "File not found: b.ts\n1 of 2 file(s) failed\n".toList, []⟩) := by
  have hlawful := Console.standard_lawful 80
  obtain ⟨hempty, hmissing, -⟩ := examine_tray
  have hsummary : (Console.standard 80).message (summary 1 2) =
      .ok ["1 of 2 file(s) failed".toList] := by
    have hread := Console.Markup.read_of_isBare
      (Console.Markup.isBare_of_isPlain (isPlain_summary 1 2))
    rw [Console.message_standard 80 hread (Console.Markup.Reading.isClear_of_nil rfl rfl)]
    cbv
  have hall : ∀ path ∈ ["b.ts".toList, "a.ts".toList],
      Answerable (.standard 80) tray none path := by
    rw [List.forall_mem_cons, List.forall_mem_singleton]
    exact ⟨(exists_examine_iff ..).1 ⟨_, hmissing⟩, (exists_examine_iff ..).1 ⟨_, hempty⟩⟩
  have hpasses : Passes tray "a.ts".toList := (examine_eq_nil_iff _ _ _ hlawful).1 hempty
  have hfails : ¬ Passes tray "b.ts".toList := by
    rw [← examine_eq_nil_iff tray none _ hlawful, hmissing]
    exact fun h => List.cons_ne_nil _ _ (Except.ok.inj h)
  have hcount : ["b.ts".toList, "a.ts".toList].countP (¬ Passes tray ·) = 1 := by
    rw [List.countP_cons, List.countP_cons, List.countP_nil, if_neg (by simpa using hpasses),
      if_pos (decide_eq_true hfails)]
  have hlines : ["b.ts".toList, "a.ts".toList].flatMap (linesFor (.standard 80) tray none) =
      ["File not found: b.ts".toList] := by
    rw [List.flatMap_cons, List.flatMap_cons, linesFor, linesFor, hmissing, hempty]
    rfl
  obtain ⟨last, hlast, hcheck⟩ :=
    (check_reports_until_unanswerable hlawful tray none _).2.1 hall
  rw [hcount] at hlast hcheck
  obtain rfl := Except.ok.inj (hsummary.symm.trans hlast)
  refine ⟨hlawful, hall, hcheck.trans ?_⟩
  rw [hlines]
  rfl

/-- Nothing is said of a missing file behind a directory. -/
theorem tray_unanswered :
    settle (.standard 80) tray (checkCommand ["d".toList, "b.ts".toList] none) =
      (.failure (.disk ⟨.isDirectory, ⟨.here, [utf8 "d"]⟩⟩), .start (.standard 80) tray) ∧
      linesFor (.standard 80) tray none "b.ts".toList = ["File not found: b.ts".toList] := by
  obtain ⟨-, hmissing, hdirectory⟩ := examine_tray
  have hcheck := (checkOne_eq none "d".toList (.start (.standard 80) tray)
    (Console.standard_lawful 80)).trans (congrArg (Session.conclude _) hdirectory)
  constructor
  · rw [settle, checkCommand, checkAll, run_bind_of_error _ (run_bind_of_error _ hcheck)]
  · rw [linesFor, hmissing]
    rfl

end Prologue.Command
