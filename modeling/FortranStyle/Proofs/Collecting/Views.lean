import FortranStyle.Proofs.Collecting.First
import FortranStyle.Proofs.Lists
import Mathlib.Data.List.Induction

/-!
# Views of a collection

The diagnostics of a collection in order, the numbers of findings by rule and by
severity, the findings of each file and the summary are computed one by one from
its entries.  They agree: each of them divides the same list into groups by some
key, and the groups put together give the list back.
-/

namespace FortranStyle

/-! ## Names in order -/

namespace Text

/-- Different names in order increase. -/
theorem pairwise_sortedSet (names : List String) : (sortedSet names).Pairwise (· < ·) := by
  have distinct : (sortedSet names).Nodup :=
    (List.mergeSort_perm names.eraseDups _).nodup_iff.mpr (nodup_eraseDups names)
  have sorted : (sortedSet names).Pairwise fun first second => decide (first ≤ second) = true :=
    List.pairwise_mergeSort (fun _ _ _ => by simpa using le_trans)
      (fun first second => by simpa using le_total first second) _
  exact sorted.imp₂ (fun first second le different =>
    lt_of_le_of_ne (of_decide_eq_true le) different) distinct

end Text

/-! ## Agreement -/

namespace Collection

open Diagnostic (firsts)

variable (collection : Collection)

theorem length_diagnostics : collection.diagnostics.length = collection.size :=
  List.length_mergeSort _

theorem nodup_rules : collection.rules.Nodup :=
  (Text.pairwise_sortedSet _).imp ne_of_lt

theorem rule_mem_rules :
    ∀ diagnostic ∈ collection.diagnostics, diagnostic.rule ∈ collection.rules :=
  fun _ member => Text.mem_sortedSet_iff.mpr (List.mem_map_of_mem member)

/-- The numbers of the rules make up the number of findings. -/
theorem sum_countByRule : (collection.countByRule.map (·.2)).sum = collection.size := by
  have grouped := sum_countP_filter Diagnostic.rule collection.nodup_rules
    collection.rule_mem_rules fun _ => true
  simp only [List.countP_true, length_diagnostics] at grouped
  rw [← grouped, countByRule, List.map_map]
  congr 1
  apply List.map_congr_left
  intro rule _
  exact List.countP_eq_length_filter

/-- The numbers of the rules with a severity make up the number of findings with
it. -/
theorem sum_countRuleSeverity (severity : Severity) :
    (collection.rules.map (collection.countRuleSeverity · severity)).sum =
      collection.countSeverity severity := by
  rw [countSeverity, ← sum_countP_filter Diagnostic.rule collection.nodup_rules
    collection.rule_mem_rules]
  congr 1
  apply List.map_congr_left
  intro rule _
  rw [List.countP_filter, countRuleSeverity]
  simp only [Bool.and_comm]

/-! ## The findings of each file -/

/-- The files stay where they are, and one that is new comes in behind them. -/
theorem map_fst_fileAway (groups : List (String × List Diagnostic)) (diagnostic : Diagnostic) :
    (fileAway groups diagnostic).map (·.1) =
      if diagnostic.file ∈ groups.map (·.1) then groups.map (·.1)
      else groups.map (·.1) ++ [diagnostic.file] := by
  induction groups with
  | nil => rfl
  | cons group rest ih =>
    obtain ⟨file, found⟩ := group
    rw [fileAway]
    by_cases same : file = diagnostic.file
    · simp [same]
    · rw [if_neg same, List.map_cons, ih, List.map_cons]
      by_cases listed : diagnostic.file ∈ rest.map (·.1)
      · rw [if_pos listed, if_pos (List.mem_cons_of_mem _ listed)]
      · rw [if_neg listed, if_neg]
        · rfl
        · exact List.not_mem_cons_of_ne_of_not_mem (Ne.symm same) listed

/-- The findings of other files stay as they are. -/
theorem of_mem_fileAway {groups : List (String × List Diagnostic)} {diagnostic : Diagnostic}
    {group : String × List Diagnostic} (distinct : (groups.map (·.1)).Nodup)
    (member : group ∈ fileAway groups diagnostic) :
    group ∈ groups ∧ group.1 ≠ diagnostic.file ∨
      ∃ found, group = (diagnostic.file, found ++ [diagnostic]) ∧
        ((diagnostic.file, found) ∈ groups ∨
          diagnostic.file ∉ groups.map (·.1) ∧ found = []) := by
  induction groups with
  | nil => exact .inr ⟨[], List.mem_singleton.mp member, .inr ⟨List.not_mem_nil, rfl⟩⟩
  | cons first rest ih =>
    obtain ⟨file, found⟩ := first
    rw [List.map_cons, List.nodup_cons] at distinct
    obtain ⟨fresh, distinct⟩ := distinct
    rw [fileAway] at member
    by_cases same : file = diagnostic.file
    · rw [if_pos same] at member
      rcases List.mem_cons.mp member with rfl | later
      · exact .inr ⟨found, by rw [same], .inl (same ▸ List.mem_cons_self)⟩
      · refine .inl ⟨List.mem_cons_of_mem _ later, ?_⟩
        intro again
        exact fresh (List.mem_map.mpr ⟨group, later, again.trans same.symm⟩)
    · rw [if_neg same] at member
      rcases List.mem_cons.mp member with rfl | later
      · exact .inl ⟨List.mem_cons_self, same⟩
      · rcases ih distinct later with ⟨listed, apart⟩ | ⟨found, group_eq, listed | ⟨new, nothing⟩⟩
        · exact .inl ⟨List.mem_cons_of_mem _ listed, apart⟩
        · exact .inr ⟨found, group_eq, .inl (List.mem_cons_of_mem _ listed)⟩
        · refine .inr ⟨found, group_eq, .inr ⟨?_, nothing⟩⟩
          exact List.not_mem_cons_of_ne_of_not_mem (Ne.symm same) new

/-- Findings stand with their files: the files increase, they are those of the findings,
and each comes with all its findings. -/
structure Filed (found : List Diagnostic) (groups : List (String × List Diagnostic)) : Prop where
  increase : (groups.map (·.1)).Pairwise (· < ·)
  mem_iff : ∀ file, file ∈ groups.map (·.1) ↔ ∃ diagnostic ∈ found, diagnostic.file = file
  whole : ∀ group ∈ groups, group.2 = found.filter (·.file == group.1)

/-- One more finding is filed, of the last of the files or of one behind it. -/
theorem Filed.fileAway {found : List Diagnostic} {groups : List (String × List Diagnostic)}
    {diagnostic : Diagnostic} (filed : Filed found groups)
    (last : ∀ earlier ∈ found, earlier.file ≤ diagnostic.file) :
    Filed (found ++ [diagnostic]) (fileAway groups diagnostic) := by
  have keys_eq := map_fst_fileAway groups diagnostic
  constructor
  case increase =>
    rw [keys_eq]
    split
    · exact filed.increase
    · rename_i fresh
      rw [List.pairwise_append]
      refine ⟨filed.increase, List.pairwise_singleton _ _, ?_⟩
      intro file listed other other_eq
      obtain rfl := List.mem_singleton.mp other_eq
      obtain ⟨earlier, member, rfl⟩ := (filed.mem_iff file).mp listed
      exact lt_of_le_of_ne (last earlier member) fun same => fresh (same ▸ listed)
  case mem_iff =>
    intro file
    have grown : (∃ member ∈ found ++ [diagnostic], member.file = file) ↔
        file ∈ groups.map (·.1) ∨ file = diagnostic.file := by
      rw [filed.mem_iff]
      simp only [List.mem_append, List.mem_singleton, or_and_right, exists_or, exists_eq_left]
      rw [eq_comm (a := diagnostic.file)]
    rw [keys_eq, grown]
    split
    · rename_i listed
      exact (or_iff_left_of_imp fun same => same ▸ listed).symm
    · rw [List.mem_append, List.mem_singleton]
  case whole =>
    intro group member
    have distinct : (groups.map (·.1)).Nodup := filed.increase.imp ne_of_lt
    rw [List.filter_append]
    rcases of_mem_fileAway distinct member with ⟨listed, apart⟩ | ⟨own, rfl, listed | ⟨new, rfl⟩⟩
    · rw [filed.whole group listed, List.filter_cons_of_neg (by simpa using apart.symm),
        List.filter_nil, List.append_nil]
    · rw [List.filter_cons_of_pos (by simp), List.filter_nil]
      exact congrArg (· ++ [diagnostic]) (filed.whole _ listed)
    · have nothing : found.filter (·.file == diagnostic.file) = [] := by
        rw [List.filter_eq_nil_iff]
        intro earlier member same
        exact new ((filed.mem_iff _).mpr ⟨earlier, member, eq_of_beq same⟩)
      rw [List.filter_cons_of_pos (by simp), List.filter_nil, nothing]

/-- The findings of files in order are filed one by one. -/
theorem filed_foldl_fileAway {found : List Diagnostic}
    (sorted : found.Pairwise fun first second => first.file ≤ second.file) :
    Filed found (found.foldl Collection.fileAway []) := by
  induction found using List.reverseRecOn with
  | nil => exact ⟨.nil, by simp, by simp⟩
  | append_singleton found diagnostic ih =>
    rw [List.pairwise_append] at sorted
    obtain ⟨sorted, -, across⟩ := sorted
    rw [List.foldl_append]
    exact (ih sorted).fileAway fun earlier member => across earlier member _ List.mem_cons_self

theorem sorted_file :
    collection.diagnostics.Pairwise fun first second => first.file ≤ second.file :=
  (Diagnostic.pairwise_sort _).imp Diagnostic.file_le_of_le

/-- The files of a collection come in order, each with all its findings. -/
theorem filed_byFile : Filed collection.diagnostics collection.byFile :=
  filed_foldl_fileAway collection.sorted_file

/-- The findings of the files in a row are all findings in order. -/
theorem byFile_joined : collection.byFile.flatMap (·.2) = collection.diagnostics := by
  have filed := collection.filed_byFile
  have covers : ∀ diagnostic ∈ collection.diagnostics,
      diagnostic.file ∈ collection.byFile.map (·.1) :=
    fun diagnostic member => (filed.mem_iff _).mpr ⟨diagnostic, member, rfl⟩
  have joined :=
    flatMap_filter_of_sorted Diagnostic.file filed.increase collection.sorted_file covers
  rw [List.flatMap_map] at joined
  exact (List.flatMap_congr filed.whole).trans joined

/-- The findings of the files make up the number of findings. -/
theorem sum_byFile : (collection.byFile.map (·.2.length)).sum = collection.size := by
  rw [← length_diagnostics, ← collection.byFile_joined, List.length_flatMap]

/-- The rules with findings come in order, each with the number of its findings. -/
theorem map_fst_countByRule : collection.countByRule.map (·.1) = collection.rules := by
  rw [countByRule, List.map_map]
  exact List.map_id _

theorem mem_rules_iff {rule : String} :
    rule ∈ collection.rules ↔ ∃ diagnostic ∈ collection.diagnostics, diagnostic.rule = rule :=
  Text.mem_sortedSet_iff.trans List.mem_map

/-- The rows of a summary: the errors and the warnings of each rule, which are all there is. -/
structure Summarizes (rows : List (String × Nat × Nat)) : Prop where
  rules : rows.map (·.1) = collection.countByRule.map (·.1)
  errors : ∀ row ∈ rows, row.2.1 = collection.diagnostics.countP fun diagnostic =>
    diagnostic.rule == row.1 && diagnostic.severity == .error
  warnings : ∀ row ∈ rows, row.2.2 = collection.diagnostics.countP fun diagnostic =>
    diagnostic.rule == row.1 && diagnostic.severity == .warning
  sum_errors : (rows.map (·.2.1)).sum = collection.countSeverity .error
  sum_warnings : (rows.map (·.2.2)).sum = collection.countSeverity .warning
  total : collection.countSeverity .error + collection.countSeverity .warning = collection.size

/-- Errors and warnings are shown rule by rule, and are all there is. -/
theorem exists_summary_eq
    (weighed : ∀ diagnostic ∈ collection.diagnostics,
      diagnostic.severity = .error ∨ diagnostic.severity = .warning) :
    ∃ rows : List (String × Nat × Nat),
      (collection.summary.map (·.rows) = .ok (rows.map fun (rule, errors, warnings) =>
        [rule, toString errors, toString warnings])) ∧
      collection.Summarizes rows := by
  have none_eq : (collection.diagnostics.find? fun diagnostic =>
      diagnostic.severity != .error && diagnostic.severity != .warning) = none := by
    rw [List.find?_eq_none]
    intro diagnostic member
    rcases weighed diagnostic member with same | same <;> simp [same]
  refine ⟨collection.rules.map fun rule => (rule, collection.countRuleSeverity rule .error,
    collection.countRuleSeverity rule .warning), ?_, ?_⟩
  · simp [summary, none_eq, Except.map]
  · constructor
    case rules =>
      rw [map_fst_countByRule, List.map_map]
      exact List.map_id _
    case errors =>
      rw [List.forall_mem_map]
      exact fun _ _ => rfl
    case warnings =>
      rw [List.forall_mem_map]
      exact fun _ _ => rfl
    case sum_errors =>
      rw [List.map_map, ← sum_countRuleSeverity]
      rfl
    case sum_warnings =>
      rw [List.map_map, ← sum_countRuleSeverity]
      rfl
    case total =>
      have others : collection.countSeverity .warning =
          collection.diagnostics.countP fun diagnostic =>
            ¬(diagnostic.severity == .error) = true := by
        apply List.countP_congr
        intro diagnostic member
        rcases weighed diagnostic member with same | same <;>
          simp [same, Severity.error, Severity.warning]
      rw [others, countSeverity, ← length_diagnostics]
      exact (List.length_eq_countP_add_countP _).symm

/-- What a collection shows of the diagnostics that it was given. -/
structure Shows (given : List Diagnostic) (collection : Collection) : Prop where
  /-- Of all diagnostics that say the same it holds the first, and no other. -/
  mem_iff : ∀ diagnostic, diagnostic ∈ collection.diagnostics ↔
    ∃ before after, given = before ++ diagnostic :: after ∧
      ∀ earlier ∈ before, earlier.identity ≠ diagnostic.identity
  distinct : (collection.diagnostics.map Diagnostic.identity).Nodup
  sorted : collection.diagnostics.Pairwise fun first second => first.key ≤ second.key
  /-- Diagnostics that are alike to the order stand as they came in. -/
  ties : ∀ place, collection.diagnostics.filter (·.key = place) =
    (firsts given).filter (·.key = place)
  size_eq_rules : collection.size = (collection.countByRule.map (·.2)).sum
  rules_increase : (collection.countByRule.map (·.1)).Pairwise (· < ·)
  /-- A rule is counted when it has findings. -/
  rule_mem_iff : ∀ rule, rule ∈ collection.countByRule.map (·.1) ↔
    ∃ diagnostic ∈ collection.diagnostics, diagnostic.rule = rule
  rule_counted : ∀ entry ∈ collection.countByRule,
    entry.2 = collection.diagnostics.countP (·.rule == entry.1)
  size_eq_files : collection.size = (collection.byFile.map (·.2.length)).sum
  /-- The files increase, they are those of the findings, and each comes with all its
  findings. -/
  files : Filed collection.diagnostics collection.byFile
  files_joined : collection.byFile.flatMap (·.2) = collection.diagnostics
  /-- The columns of the summary add up to the numbers of errors and warnings, and
  these to the number of findings. -/
  summary : (∀ diagnostic ∈ collection.diagnostics,
      diagnostic.severity = .error ∨ diagnostic.severity = .warning) →
    ∃ rows : List (String × Nat × Nat),
      (collection.summary.map (·.rows) = .ok (rows.map fun (rule, errors, warnings) =>
        [rule, toString errors, toString warnings])) ∧
      collection.Summarizes rows

/-- However diagnostics are handed in, a collection holds the first of all that say
the same, in order, and all its views agree.  It tells whether a diagnostic is new,
and by how much it grows. -/
theorem shows_ofCalls (calls : List Call) :
    let given := calls.flatMap Call.given
    let collection := ofCalls calls
    collection.Shows given ∧
      (∀ diagnostic, (collection.insert diagnostic).2 = true ↔
        ∀ earlier ∈ given, earlier.identity ≠ diagnostic.identity) ∧
      ∀ diagnostics, collection.size + (collection.insertAll diagnostics).2 =
        (collection.insertAll diagnostics).1.size := by
  intro given collection
  have entries_eq : collection.entries = firsts given := entries_ofCalls calls
  refine ⟨?_, insert_ofCalls_snd_eq_true_iff calls, fun diagnostics => ?_⟩
  · constructor
    case mem_iff =>
      intro diagnostic
      rw [Collection.diagnostics, Diagnostic.mem_sort, entries_eq, Diagnostic.mem_firsts_iff]
    case distinct =>
      have perm : collection.diagnostics.Perm (firsts given) :=
        entries_eq ▸ List.mergeSort_perm _ _
      exact (perm.map _).nodup_iff.mpr (Diagnostic.nodup_identity_firsts given)
    case sorted => exact (Diagnostic.pairwise_sort _).imp Diagnostic.le_iff_key_le.mp
    case ties =>
      intro place
      rw [Collection.diagnostics, Diagnostic.filter_sort, entries_eq]
      apply List.mergeSort_of_pairwise
      rw [List.pairwise_iff_forall_sublist]
      intro first second inside
      have alike {diagnostic : Diagnostic} (member : diagnostic ∈ [first, second]) :
          diagnostic.key = place := by
        simpa using (List.mem_filter.mp (inside.subset member)).2
      rw [Diagnostic.le_iff_key_le, alike (by simp), alike (by simp)]
    case size_eq_rules => exact collection.sum_countByRule.symm
    case rules_increase =>
      rw [map_fst_countByRule]
      exact Text.pairwise_sortedSet _
    case rule_mem_iff =>
      intro rule
      rw [map_fst_countByRule, mem_rules_iff]
    case rule_counted =>
      rw [countByRule, List.forall_mem_map]
      exact fun _ _ => rfl
    case size_eq_files => exact collection.sum_byFile.symm
    case files => exact collection.filed_byFile
    case files_joined => exact collection.byFile_joined
    case summary => exact collection.exists_summary_eq
  · obtain ⟨after_eq, size_eq⟩ := collection.insertAll_eq diagnostics
    rw [size_eq, after_eq]

end Collection

end FortranStyle
