import FortranStyle.Checker
import FortranStyle.Proofs.Sorting.Setting

/-!
# The order of arrival

Files may be checked at the same time, and their diagnostics arrive in any order.  A
collection takes the first of several diagnostics that say the same, and keeps those
that are alike to the order as they came.  All diagnostics of a file name that file,
though, and a file that is given twice has the same diagnostics each time.  So a
collection holds the same diagnostics of each file in the same order, whatever
arrived first, and all that is reported is known from these.
-/

namespace FortranStyle

namespace Collection

/-! ## The diagnostics of one file -/

/-- The part of a collection that is about one file. -/
def within (collection : Collection) (file : String) : Collection :=
  ⟨collection.entries.filter (·.file == file)⟩

theorem holds_within (collection : Collection) (diagnostic : Diagnostic) :
    (collection.within diagnostic.file).holds diagnostic = collection.holds diagnostic := by
  rw [holds, within, List.any_filter, holds]
  congr 1
  funext entry
  rw [Diagnostic.sameKey]
  cases entry.file == diagnostic.file <;> simp

theorem within_add (collection : Collection) (diagnostic : Diagnostic) (file : String) :
    (collection.add diagnostic).within file =
      if diagnostic.file == file then (collection.within file).add diagnostic
      else collection.within file := by
  by_cases same : diagnostic.file = file
  · subst same
    rw [if_pos (beq_self_eq_true _), add, add, holds_within]
    split
    · rfl
    · simp [within]
  · rw [if_neg (by simpa using same), add]
    split
    · rfl
    · simp [within, same]

/-- What is collected about a file is decided by the diagnostics of that file. -/
theorem within_extend (collection : Collection) (diagnostics : List Diagnostic) (file : String) :
    (collection.extend diagnostics).within file =
      (collection.within file).extend (diagnostics.filter (·.file == file)) := by
  induction diagnostics generalizing collection with
  | nil => rfl
  | cons diagnostic rest ih =>
    have step : (collection.extend (diagnostic :: rest)).within file =
        ((collection.add diagnostic).extend rest).within file := rfl
    rw [step, ih, within_add, List.filter_cons]
    split
    · rfl
    · rfl

/-- Collecting list by list is collecting all lists in a row. -/
theorem foldl_extend {α : Type} (found : α → List Diagnostic) (tasks : List α)
    (collection : Collection) :
    tasks.foldl (fun collection task => collection.extend (found task)) collection =
      collection.extend (tasks.flatMap found) := by
  induction tasks generalizing collection with
  | nil => rfl
  | cons task rest ih =>
    rw [List.foldl_cons, ih, List.flatMap_cons, extend, extend, extend, List.foldl_append]

/-! ## What is reported -/

/-- Two collections that are reported alike. -/
structure SameReport (collection collection' : Collection) : Prop where
  diagnostics : collection.diagnostics = collection'.diagnostics
  records : collection.diagnostics.map Report.jsonRecord =
    collection'.diagnostics.map Report.jsonRecord
  byFile : collection.byFile = collection'.byFile
  countSeverity :
    ∀ severity, collection.countSeverity severity = collection'.countSeverity severity
  countByRule : collection.countByRule = collection'.countByRule
  size : collection.size = collection'.size
  isBlocking : collection.isBlocking = collection'.isBlocking

/-- The diagnostics in order are all that is reported. -/
theorem SameReport.of_diagnostics {collection collection' : Collection}
    (same : collection.diagnostics = collection'.diagnostics) :
    SameReport collection collection' where
  diagnostics := same
  records := congrArg _ same
  byFile := by rw [Collection.byFile, Collection.byFile, same]
  countSeverity severity := by rw [Collection.countSeverity, Collection.countSeverity, same]
  countByRule := by
    rw [Collection.countByRule, Collection.countByRule, rules, rules, same]
  size := by
    have length_eq := congrArg List.length same
    rw [Collection.diagnostics, Collection.diagnostics, Diagnostic.sort, Diagnostic.sort,
      List.length_mergeSort, List.length_mergeSort] at length_eq
    exact length_eq
  isBlocking := by rw [Collection.isBlocking, Collection.isBlocking, same]

theorem SameReport.of_within {collection collection' : Collection}
    (same : ∀ file, collection.within file = collection'.within file) :
    SameReport collection collection' :=
  .of_diagnostics (Diagnostic.sort_eq_of_filter_file fun file =>
    congrArg Collection.entries (same file))

/-- Lists of diagnostics that each speak of one file may arrive in any order. -/
theorem sameReport_of_perm {found : String → List Diagnostic}
    (speaks : ∀ file, ∀ diagnostic ∈ found file, diagnostic.file = file)
    {arrival arrival' : List String} (same : arrival.Perm arrival') (collection : Collection) :
    SameReport (collection.extend (arrival.flatMap found))
      (collection.extend (arrival'.flatMap found)) := by
  -- A file has its own diagnostics as often as it is given.
  have about (arrival : List String) (file : String) :
      (arrival.flatMap found).filter (·.file == file) =
        (List.replicate (arrival.count file) file).flatMap found := by
    rw [← List.filter_beq]
    induction arrival with
    | nil => rfl
    | cons other rest ih =>
      rw [List.flatMap_cons, List.filter_append, ih, List.filter_cons]
      by_cases own : other = file
      · subst own
        rw [if_pos (beq_self_eq_true _), List.flatMap_cons, List.filter_eq_self.mpr]
        exact fun diagnostic member => beq_iff_eq.mpr (speaks other diagnostic member)
      · rw [if_neg (by simpa using own), List.filter_eq_nil_iff.mpr, List.nil_append]
        intro diagnostic member
        rw [speaks other diagnostic member]
        simpa using own
  apply SameReport.of_within
  intro file
  rw [within_extend, within_extend, about, about, same.count_eq]

end Collection

namespace Checker

variable (checker : Checker) (tree : FileTree)

/-! ## The diagnostics of a file -/

/-- All diagnostics of a file name that file. -/
theorem file_of_mem_check (path : String) :
    ∀ diagnostic ∈ (checker.check tree path).2, diagnostic.file = path := by
  intro diagnostic member
  have found : diagnostic ∈ (examine checker.settings tree path).2 := by
    cases cancelled : checker.isCancelled with
    | true => simp [check, cancelled] at member
    | false => simpa [check, cancelled] using member
  rw [examine] at found
  split at found
  · exact Source.file_of_mem_check _ found
  · simp only [fileFinding] at found
    split at found
    · rw [List.mem_singleton.mp found]
      rfl
    · exact absurd found List.not_mem_nil

/-! ## Runs -/

/-- What is collected when the diagnostics of files arrive in an order. -/
def collect (arrival : List String) : Collection :=
  arrival.foldl (fun collection path => collection.extend (checker.check tree path).2)
    checker.collection

/-- Files that are checked one by one arrive in the order in which they are given. -/
theorem collection_foldl (paths : List String) :
    (paths.foldl (checkAndCollect tree) checker).collection = checker.collect tree paths := by
  induction paths generalizing checker with
  | nil => rfl
  | cons path rest ih =>
    rw [List.foldl_cons, ih, collect, collect, List.foldl_cons]
    rfl

theorem collection_of_checkFiles {paths : List String} {after : Checker}
    (ran : checker.checkFiles tree paths = .ok after) :
    after.collection = checker.collect tree paths := by
  rw [checkFiles] at ran
  split at ran
  · contradiction
  · rw [← collection_foldl, Except.ok.inj ran]

/-- The report of a run does not depend on the order in which the diagnostics of the
files arrive. -/
theorem sameReport_of_checkFiles {paths arrival arrival' : List String}
    (first : arrival.Perm paths) (second : arrival'.Perm paths) :
    (checker.collect tree arrival).SameReport (checker.collect tree arrival') ∧
      ∀ after, checker.checkFiles tree paths = .ok after →
        after.collection.SameReport (checker.collect tree arrival) := by
  have alike {arrival arrival' : List String} (same : arrival.Perm arrival') :
      (checker.collect tree arrival).SameReport (checker.collect tree arrival') := by
    rw [collect, collect, Collection.foldl_extend, Collection.foldl_extend]
    exact Collection.sameReport_of_perm (checker.file_of_mem_check tree) same _
  refine ⟨alike (first.trans second.symm), fun after ran => ?_⟩
  rw [checker.collection_of_checkFiles tree ran]
  exact alike first.symm

/-- A file that is named twice, among others or in front of them. -/
theorem sameReport_of_checkFiles_repeated :
    ["b.f90", "a.f90", "b.f90"].Perm ["a.f90", "b.f90", "b.f90"] ∧
      ["b.f90", "b.f90", "a.f90"].Perm ["a.f90", "b.f90", "b.f90"] ∧
      ((start .default 8).collect (.directory [("b.f90", .file [9])])
          ["b.f90", "a.f90", "b.f90"]).SameReport
        ((start .default 8).collect (.directory [("b.f90", .file [9])])
          ["b.f90", "b.f90", "a.f90"]) :=
  have first : ["b.f90", "a.f90", "b.f90"].Perm ["a.f90", "b.f90", "b.f90"] := by decide
  have second : ["b.f90", "b.f90", "a.f90"].Perm ["a.f90", "b.f90", "b.f90"] := by decide
  ⟨first, second, (sameReport_of_checkFiles (start .default 8)
    (.directory [("b.f90", .file [9])]) first second).1⟩

end Checker

end FortranStyle
