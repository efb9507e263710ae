import FortranStyle.Checker
import FortranStyle.Proofs.Collecting.Views
import FortranStyle.Proofs.Sorting.Setting
import Mathlib.Data.List.Perm.Basic

/-!
# What a checker accounts for

A checker is called again and again, for single files and for many.  While it goes
through many, several files are examined at once: what is found in them arrives in
any order, and checking can be cancelled, and go on again, between any two files.
Whatever happens, a file that is handed in is entered once, under what became of it,
and the findings that are collected are those of the files that were handed in.
So the end of a run can be told from the files alone.
-/

namespace FortranStyle

/-! ## Sessions -/

/-- A checker at work. -/
structure Session where
  checker : Checker
  /-- What was found in files that were examined, and did not arrive yet. -/
  waiting : List (List Diagnostic)

/-- A file that is handed in. -/
structure Submission where
  tree : FileTree
  path : String
  /-- Whether checking was cancelled when it was the file's turn. -/
  isCancelled : Bool
  /-- Whether its findings are to be collected; otherwise they go to the caller alone. -/
  isCollected : Bool

/-- What happens in a session. -/
inductive Session.Event
  /-- Checking is cancelled, or the cancellation is taken back. -/
  | setCancelled (isCancelled : Bool)
  /-- A call for a single file. -/
  | check (tree : FileTree) (path : String)
  /-- A call for many files that goes through them without interruption. -/
  | checkFiles (tree : FileTree) (paths : List String)
  /-- A call for many files comes to one of them. -/
  | examine (tree : FileTree) (path : String)
  /-- What was found in one of the files that wait arrives. -/
  | collect (place : Nat)

namespace Session

def start (settings : Settings) (workers : Int) : Session :=
  ⟨.start settings workers, []⟩

/-- A file is examined, and what is found in it waits. -/
def examine (session : Session) (tree : FileTree) (path : String) : Session :=
  ⟨(session.checker.check tree path).1,
    session.waiting ++ [(session.checker.check tree path).2]⟩

/-- What waits at a place is collected. -/
def collect (session : Session) (place : Nat) : Session :=
  match session.waiting[place]? with
  | none => session
  | some found =>
      ⟨{ session.checker with collection := session.checker.collection.extend found },
        session.waiting.eraseIdx place⟩

/-- What an event makes of a session.  A call that fails changes nothing. -/
def step (session : Session) : Event → Session
  | .setCancelled isCancelled => { session with checker := { session.checker with isCancelled } }
  | .check tree path => { session with checker := (session.checker.check tree path).1 }
  | .checkFiles tree paths =>
      match session.checker.checkFiles tree paths with
      | .ok checker => { session with checker }
      | .error _ => session
  | .examine tree path => session.examine tree path
  | .collect place => session.collect place

/-- What successive events make of a session. -/
def run (session : Session) (events : List Event) : Session :=
  events.foldl step session

/-- The files that an event hands in. -/
def handedIn (session : Session) : Event → List Submission
  | .check tree path => [⟨tree, path, session.checker.isCancelled, false⟩]
  | .checkFiles tree paths =>
      if session.checker.workers ≤ 0 then []
      else paths.map fun path => ⟨tree, path, session.checker.isCancelled, true⟩
  | .examine tree path => [⟨tree, path, session.checker.isCancelled, true⟩]
  | .setCancelled _ | .collect _ => []

/-- The files that successive events hand in. -/
def submissions (session : Session) : List Event → List Submission
  | [] => []
  | event :: rest => session.handedIn event ++ (session.step event).submissions rest

end Session

/-! ## Single files -/

namespace Submission

variable (settings : Settings) (submission : Submission)

/-- What becomes of a file that is handed in. -/
def outcome : Outcome :=
  if submission.isCancelled then .skipped
  else (Checker.examine settings submission.tree submission.path).1

/-- What is found in a file that is handed in. -/
def found : List Diagnostic :=
  if submission.isCancelled then []
  else (Checker.examine settings submission.tree submission.path).2

/-- What can become of a file, and what is found in it then. -/
inductive Result : Outcome → List Diagnostic → Prop
  | skipped (cancelled : submission.isCancelled = true) : Result .skipped []
  | checked {lines : List String} (proceeds : submission.isCancelled = false)
      (read : submission.tree.readLines submission.path = .ok lines) :
      Result .checked (checkLines submission.path lines settings)
  | unreadable {error : ReadError} (proceeds : submission.isCancelled = false)
      (unread : submission.tree.readLines submission.path = .error error)
      (usable : error ≠ .nullInPath) :
      Result .unreadable
        (if settings.isEnabled .readError then
          [⟨"IO-ERROR", settings.severity .readError, submission.path, 0, 0,
            error.message submission.path, false⟩]
        else [])
  | failed (proceeds : submission.isCancelled = false)
      (unusable : submission.tree.readLines submission.path = .error .nullInPath) :
      Result .failed
        (if settings.isEnabled .unexpectedError then
          [⟨"INTERNAL-ERROR", settings.severity .unexpectedError, submission.path, 0, 0,
            "Checking stopped unexpectedly: ValueError('embedded null byte')", false⟩]
        else [])

theorem result :
    submission.Result settings (submission.outcome settings) (submission.found settings) := by
  cases cancelled : submission.isCancelled with
  | true =>
    rw [outcome, found, if_pos cancelled, if_pos cancelled]
    exact .skipped cancelled
  | false =>
    have proceeds : ¬submission.isCancelled = true := by simp [cancelled]
    rw [outcome, found, if_neg proceeds, if_neg proceeds, Checker.examine]
    cases read : submission.tree.readLines submission.path with
    | ok lines => exact .checked cancelled read
    | error error =>
      cases error with
      | path error place => exact .unreadable cancelled read nofun
      | encoding error => exact .unreadable cancelled read nofun
      | nullInPath => exact .failed cancelled read

/-- What is found in a file weighs as much as its rule does. -/
theorem severity_of_mem_found {diagnostic : Diagnostic}
    (member : diagnostic ∈ submission.found settings) :
    ∃ rule : Rule, diagnostic.rule = rule.name ∧ diagnostic.severity = settings.severity rule := by
  have result := submission.result settings
  generalize submission.outcome settings = outcome, submission.found settings = found
    at member result
  cases result with
  | skipped => contradiction
  | checked =>
    obtain ⟨rule, judged⟩ := (Source.ofLines submission.path _).mem_check.mp member
    obtain ⟨name_eq, -, severity_eq⟩ := Source.of_mem_judge _ judged
    exact ⟨rule, name_eq, severity_eq⟩
  | unreadable =>
    split at member
    · rw [List.mem_singleton.mp member]
      exact ⟨.readError, rfl, rfl⟩
    · contradiction
  | failed =>
    split at member
    · rw [List.mem_singleton.mp member]
      exact ⟨.unexpectedError, rfl, rfl⟩
    · contradiction

/-- A checker enters a file under its outcome and hands out what is found. -/
theorem check_eq (checker : Checker) (tree : FileTree) (path : String) (isCollected : Bool) :
    checker.check tree path =
      ({ checker with outcomes := checker.outcomes ++
          [(path, outcome checker.settings ⟨tree, path, checker.isCancelled, isCollected⟩)] },
        found checker.settings ⟨tree, path, checker.isCancelled, isCollected⟩) := by
  rw [Checker.check, outcome, found]
  cases checker.isCancelled <;> rfl

end Submission

namespace Session

open Submission (outcome found)

/-! ## The books of a session -/

/-- A session entered every file that was handed in, and collects what is found in
those that are to be collected. -/
structure Accounts (settings : Settings) (submissions : List Submission) (session : Session) :
    Prop where
  settings_eq : session.checker.settings = settings
  outcomes_eq : session.checker.outcomes =
    submissions.map fun submission => (submission.path, submission.outcome settings)
  collection_eq : ∃ arrived : List (List Diagnostic),
    session.checker.collection = Collection.empty.extend arrived.flatten ∧
      (arrived ++ session.waiting).Perm
        ((submissions.filter (·.isCollected)).map (found settings))

variable {settings : Settings} {submissions : List Submission} {session : Session}

theorem accounts_start (settings : Settings) (workers : Int) :
    (start settings workers).Accounts settings [] :=
  ⟨rfl, rfl, [], rfl, .nil⟩

namespace Accounts

/-- A file is handed in, and its findings are for the caller alone. -/
theorem check (accounts : session.Accounts settings submissions) (tree : FileTree)
    (path : String) :
    Accounts settings
      (submissions ++ [⟨tree, path, session.checker.isCancelled, false⟩])
      { session with checker := (session.checker.check tree path).1 } := by
  rw [Submission.check_eq session.checker tree path false]
  refine ⟨accounts.settings_eq, ?_, ?_⟩
  · simp [accounts.outcomes_eq, accounts.settings_eq]
  · simpa using accounts.collection_eq

/-- A file is handed in, and its findings have to wait. -/
theorem examine (accounts : session.Accounts settings submissions) (tree : FileTree)
    (path : String) :
    Accounts settings
      (submissions ++ [⟨tree, path, session.checker.isCancelled, true⟩])
      (session.examine tree path) := by
  rw [Session.examine, Submission.check_eq session.checker tree path true]
  refine ⟨accounts.settings_eq, ?_, ?_⟩
  · simp [accounts.outcomes_eq, accounts.settings_eq]
  · obtain ⟨arrived, collection_eq, same⟩ := accounts.collection_eq
    refine ⟨arrived, collection_eq, ?_⟩
    simpa [accounts.settings_eq, ← List.append_assoc] using same.append_right _

theorem collect (accounts : session.Accounts settings submissions) (place : Nat) :
    (session.collect place).Accounts settings submissions := by
  rw [Session.collect]
  split
  · exact accounts
  · rename_i found found_eq
    obtain ⟨arrived, collection_eq, same⟩ := accounts.collection_eq
    refine ⟨accounts.settings_eq, accounts.outcomes_eq, arrived ++ [found], ?_, ?_⟩
    · rw [collection_eq, List.flatten_append, List.flatten_singleton, Collection.extend,
        Collection.extend, Collection.extend, List.foldl_append]
    · obtain ⟨inside, rfl⟩ := List.getElem?_eq_some_iff.mp found_eq
      refine List.Perm.trans ?_ same
      rw [List.append_assoc]
      exact (List.getElem_cons_eraseIdx_perm inside).append_left arrived

/-- Examining a file and collecting what waits last is checking it on the spot. -/
theorem checkAndCollect (accounts : session.Accounts settings submissions) (tree : FileTree)
    (path : String) :
    Accounts settings
      (submissions ++ [⟨tree, path, session.checker.isCancelled, true⟩])
      { session with checker := session.checker.checkAndCollect tree path } := by
  have collected := (accounts.examine tree path).collect session.waiting.length
  have at_once : (session.examine tree path).collect session.waiting.length =
      { session with checker := session.checker.checkAndCollect tree path } := by
    simp only [Session.collect, Session.examine, List.getElem?_concat_length]
    rw [List.eraseIdx_append_of_length_le (Nat.le_refl _)]
    simp [Checker.checkAndCollect]
  rwa [at_once] at collected

theorem foldl_checkAndCollect (accounts : session.Accounts settings submissions) (tree : FileTree)
    (paths : List String) :
    Accounts settings
      (submissions ++ paths.map (⟨tree, ·, session.checker.isCancelled, true⟩))
      { session with checker := paths.foldl (Checker.checkAndCollect tree) session.checker } := by
  induction paths generalizing session submissions with
  | nil => simpa using accounts
  | cons path rest ih =>
    have same : (session.checker.checkAndCollect tree path).isCancelled =
        session.checker.isCancelled := rfl
    simpa [same] using ih (accounts.checkAndCollect tree path)

/-- The books stay in order whatever happens. -/
theorem step (accounts : session.Accounts settings submissions) (event : Event) :
    (session.step event).Accounts settings (submissions ++ session.handedIn event) := by
  cases event with
  | setCancelled isCancelled =>
    rw [handedIn, List.append_nil]
    exact ⟨accounts.settings_eq, accounts.outcomes_eq, accounts.collection_eq⟩
  | check tree path => exact accounts.check tree path
  | checkFiles tree paths =>
    rw [handedIn, Session.step, Checker.checkFiles]
    split
    · simpa using accounts
    · exact accounts.foldl_checkAndCollect tree paths
  | examine tree path => exact accounts.examine tree path
  | collect place =>
    rw [handedIn, List.append_nil]
    exact accounts.collect place

theorem run (accounts : session.Accounts settings submissions) (events : List Event) :
    (session.run events).Accounts settings (submissions ++ session.submissions events) := by
  induction events generalizing session submissions with
  | nil => simpa [Session.submissions, Session.run] using accounts
  | cons event rest ih =>
    rw [Session.submissions, ← List.append_assoc]
    exact ih (accounts.step event)

/-! ## What the books tell -/

/-- The files that came to an outcome are those that were handed in and came to it. -/
theorem filesWith_eq (accounts : session.Accounts settings submissions) (outcome : Outcome) :
    session.checker.filesWith outcome =
      (submissions.filter (·.outcome settings == outcome)).map (·.path) := by
  rw [Checker.filesWith, accounts.outcomes_eq, List.filter_map, List.map_map]
  rfl

/-- Every file that was handed in is entered once. -/
theorem perm_files (accounts : session.Accounts settings submissions) :
    (session.checker.checked ++ session.checker.unreadable ++ session.checker.failed ++
      session.checker.skipped).Perm (submissions.map (·.path)) := by
  have covers : ∀ submission ∈ submissions, submission.outcome settings ∈
      [Outcome.checked, .unreadable, .failed, .skipped] :=
    fun submission _ => by cases submission.outcome settings <;> decide
  have grouped := perm_flatMap_filter (Submission.outcome settings) (by decide) covers
  refine List.Perm.trans (.of_eq ?_) (grouped.map (·.path))
  simp [Checker.checked, Checker.unreadable, Checker.failed, Checker.skipped,
    accounts.filesWith_eq]

/-- When nothing waits, a collection makes a run fail just if some file that was
handed in to be collected has an error. -/
theorem isBlocking_iff (accounts : session.Accounts settings submissions)
    (settled : session.waiting = []) :
    session.checker.collection.isBlocking = true ↔
      ∃ submission ∈ submissions, submission.isCollected = true ∧
        ∃ diagnostic ∈ submission.found settings, diagnostic.severity = .error := by
  obtain ⟨arrived, collection_eq, same⟩ := accounts.collection_eq
  rw [settled, List.append_nil] at same
  -- A finding arrived just if it is one of a file that is to be collected.
  have given (diagnostic : Diagnostic) : diagnostic ∈ arrived.flatten ↔
      ∃ submission ∈ submissions, submission.isCollected = true ∧
        diagnostic ∈ submission.found settings := by
    rw [same.flatten.mem_iff, ← List.flatMap_def, List.mem_flatMap]
    simp only [List.mem_filter, and_assoc]
  have entries_eq : session.checker.collection.entries = Diagnostic.firsts arrived.flatten := by
    rw [collection_eq, Collection.entries_extend]
    simp [Collection.empty, Collection.holds]
  simp only [Collection.isBlocking, List.any_eq_true, Diagnostic.isBlocking, beq_iff_eq,
    Collection.diagnostics, Diagnostic.mem_sort, entries_eq]
  constructor
  · rintro ⟨diagnostic, member, isError⟩
    obtain ⟨before, after, arrived_eq, -⟩ := Diagnostic.mem_firsts_iff.mp member
    obtain ⟨submission, submitted, isCollected, found⟩ :=
      (given diagnostic).mp (arrived_eq ▸ by simp)
    exact ⟨submission, submitted, isCollected, diagnostic, found, isError⟩
  · rintro ⟨submission, submitted, isCollected, diagnostic, found, isError⟩
    -- The entry that says the same comes from the same rule, so it weighs as much.
    obtain ⟨first, listed, same⟩ := Diagnostic.exists_mem_firsts
      ((given diagnostic).mpr ⟨submission, submitted, isCollected, found⟩)
    obtain ⟨before, after, arrived_eq, -⟩ := Diagnostic.mem_firsts_iff.mp listed
    obtain ⟨other, -, -, firstFound⟩ := (given first).mp (arrived_eq ▸ by simp)
    obtain ⟨rule, name_eq, severity_eq⟩ := submission.severity_of_mem_found settings found
    obtain ⟨rule', name_eq', severity_eq'⟩ := other.severity_of_mem_found settings firstFound
    have names : rule'.name = rule.name :=
      name_eq'.symm.trans ((Prod.mk.inj same).1.trans name_eq)
    refine ⟨first, listed, ?_⟩
    rw [severity_eq', Rule.name_injective names, ← severity_eq, isError]

end Accounts

/-! ## Whole sessions -/

/-- In every session, a file that is handed in is entered once, under what became of
it.  A file that is skipped has no findings; one that cannot be read has the one
finding that says so, unless its rule is off; one that is checked has the findings
of its lines; a call for a single file hands these out.  When nothing waits, the run
ends as fatal just if no file was checked, and otherwise as blocked just if some finding
of a file that was to be collected is an error. -/
theorem accounts_for_all_files (settings : Settings) (workers : Int) (events : List Event) :
    let checker := ((start settings workers).run events).checker
    let submissions := (start settings workers).submissions events
    (checker.checked ++ checker.unreadable ++ checker.failed ++ checker.skipped).Perm
        (submissions.map (·.path)) ∧
      (∀ outcome, checker.filesWith outcome =
        (submissions.filter (·.outcome settings == outcome)).map (·.path)) ∧
      (∀ submission ∈ submissions,
        submission.Result settings (submission.outcome settings) (submission.found settings)) ∧
      (∀ tree path, (checker.check tree path).2 =
        found settings ⟨tree, path, checker.isCancelled, false⟩) ∧
      (((start settings workers).run events).waiting = [] →
        (checker.exitStatus.code = 2 ↔ checker.checked = []) ∧
        (checker.exitStatus.code = 1 ↔ checker.checked ≠ [] ∧
          ∃ submission ∈ submissions, submission.isCollected = true ∧
            ∃ diagnostic ∈ submission.found settings, diagnostic.severity = .error) ∧
        (checker.exitStatus.code = 0 ↔ checker.checked ≠ [] ∧
          ¬∃ submission ∈ submissions, submission.isCollected = true ∧
            ∃ diagnostic ∈ submission.found settings, diagnostic.severity = .error)) := by
  have accounts := (accounts_start settings workers).run events
  rw [List.nil_append] at accounts
  refine ⟨accounts.perm_files, accounts.filesWith_eq,
    fun submission _ => submission.result settings, fun tree path => ?_, fun settled => ?_⟩
  · rw [Submission.check_eq _ tree path false, accounts.settings_eq]
  rw [← accounts.isBlocking_iff settled, Checker.exitStatus]
  cases checked : ((start settings workers).run events).checker.checked with
  | nil => simp [ExitStatus.code]
  | cons path rest =>
    cases ((start settings workers).run events).checker.collection.isBlocking <;>
      simp [ExitStatus.code]

/-- Two files are examined at once, and checking is cancelled before the third. -/
def interrupted : List Event :=
  let tree : FileTree := .directory [("a.f90", .file [])]
  [.examine tree "b.f90", .examine tree "a.f90", .collect 1, .setCancelled true,
    .examine tree "c.f90", .collect 1, .collect 0]

/-- A run that is cancelled halfway collects what was examined, so that nothing waits in the
end and its status is told. -/
theorem accounts_for_all_files_interrupted :
    ((start .default 2).run interrupted).waiting = [] ∧
      (((start .default 2).run interrupted).checker.exitStatus.code = 1 ↔
        ((start .default 2).run interrupted).checker.checked ≠ [] ∧
          ∃ submission ∈ (start .default 2).submissions interrupted,
            submission.isCollected = true ∧
              ∃ diagnostic ∈ submission.found .default, diagnostic.severity = .error) :=
  have settled : ((start .default 2).run interrupted).waiting = [] := by decide +kernel
  ⟨settled, ((accounts_for_all_files .default 2 interrupted).2.2.2.2 settled).2.1⟩

end Session

end FortranStyle
