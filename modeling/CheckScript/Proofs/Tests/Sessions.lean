import CheckScript.Cli.Program
import Mathlib.Data.List.Basic
import Mathlib.Data.List.Nodup
import Mathlib.Data.List.TakeWhile
import Mathlib.Tactic.Tauto

/-!
# Which tests a session runs

The tests of a directory are found by going through its tree, put in order, selected by their
categories and grouped by them. Going through the tree finds every test file once
(`mem_testsIn_iff`, `nodup_names_testsIn`), and none of the other steps loses a test or doubles one,
since selecting is a filter and grouping only puts brackets into the list (`flatMap_groupBy`).

## Main statement

* `sessions_run_requested`: the tests that a session runs, their order, what it counts and when the
  program says that all went well.
-/

namespace CheckScript

open Files

/-! ## Files in a tree -/

namespace Files.FileNode

/-- The file with these bytes is in the tree, at the end of the way with these names. -/
inductive HasFile : FileNode → List String → ByteArray → Prop
  | file (bytes : ByteArray) : HasFile (.file bytes) [] bytes
  | entry {entries : List (String × FileNode)} {name : String} {node : FileNode}
    {names : List String} {bytes : ByteArray} :
    (name, node) ∈ entries → HasFile node names bytes →
    HasFile (.directory entries) (name :: names) bytes

/-- In no directory of the tree have two entries one name. -/
inductive DistinctNames : FileNode → Prop
  | file (bytes : ByteArray) : DistinctNames (.file bytes)
  | directory {entries : List (String × FileNode)} :
    (entries.map Prod.fst).Nodup → (∀ entry ∈ entries, DistinctNames entry.2) →
    DistinctNames (.directory entries)

variable {bytes : ByteArray} {names : List String} {entries : List (String × FileNode)}

theorem hasFile_file_iff {other : ByteArray} :
    (FileNode.file other).HasFile names bytes ↔ names = [] ∧ other = bytes := by
  constructor
  · rintro ⟨⟩
    exact ⟨rfl, rfl⟩
  · rintro ⟨rfl, rfl⟩
    exact .file other

theorem hasFile_directory_iff :
    (FileNode.directory entries).HasFile names bytes
      ↔ ∃ name node below, (name, node) ∈ entries ∧ names = name :: below
        ∧ node.HasFile below bytes := by
  constructor
  · rintro (_ | ⟨hmem, hfile⟩)
    exact ⟨_, _, _, hmem, rfl, hfile⟩
  · rintro ⟨name, node, below, hmem, rfl, hfile⟩
    exact .entry hmem hfile

theorem distinctNames_cons_iff {name : String} {node : FileNode} :
    (FileNode.directory ((name, node) :: entries)).DistinctNames
      ↔ name ∉ entries.map Prod.fst ∧ node.DistinctNames
        ∧ (FileNode.directory entries).DistinctNames := by
  constructor
  · rintro (_ | ⟨hnodup, hinner⟩)
    rw [List.map_cons, List.nodup_cons] at hnodup
    obtain ⟨hnode, hrest⟩ := List.forall_mem_cons.mp hinner
    exact ⟨hnodup.1, hnode, .directory hnodup.2 hrest⟩
  · rintro ⟨hname, hnode, _ | ⟨hnodup, hinner⟩⟩
    refine .directory ?_ (List.forall_mem_cons.mpr ⟨hnode, hinner⟩)
    rw [List.map_cons, List.nodup_cons]
    exact ⟨hname, hnodup⟩

end Files.FileNode

/-! ## Finding -/

theorem isTestName_iff {name : String} :
    isTestName name = true ↔ testSuffix.toList <:+ name.toList :=
  List.isSuffixOf_iff_suffix

mutual

/-- The tests at an entry are the test files at it and below it. -/
theorem mem_testsAt_iff {test : FoundTest} (directories : List String) (name : String) :
    ∀ node : FileNode, test ∈ testsAt directories name node
      ↔ isTestName test.name = true
        ∧ ∃ below, test.names = directories ++ name :: below ∧ node.HasFile below test.bytes
  | .file bytes => by
    obtain ⟨directories', name', bytes'⟩ := test
    simp only [testsAt, FileNode.hasFile_file_iff, FoundTest.names]
    constructor
    · intro h
      split at h
      · next hname =>
        cases List.mem_singleton.mp h
        exact ⟨hname, [], rfl, rfl, rfl⟩
      · cases h
    · rintro ⟨hname, below, hnames, rfl, rfl⟩
      obtain ⟨rfl, hlast⟩ := List.append_inj' hnames rfl
      cases hlast
      rw [if_pos hname]
      exact List.mem_singleton.mpr rfl
  | .directory entries => by
    rw [testsAt, mem_testsIn_iff _ entries]
    simp only [List.append_assoc, List.singleton_append]

/-- **The tests of a directory are the test files at any depth below it.** -/
theorem mem_testsIn_iff {test : FoundTest} (directories : List String) :
    ∀ entries : List (String × FileNode), test ∈ testsIn directories entries
      ↔ isTestName test.name = true
        ∧ ∃ below, test.names = directories ++ below
          ∧ (FileNode.directory entries).HasFile below test.bytes
  | [] => by
    simp [testsIn, FileNode.hasFile_directory_iff]
  | (name, node) :: entries => by
    rw [testsIn, List.mem_append, mem_testsAt_iff directories name node,
      mem_testsIn_iff directories entries, ← and_or_left, and_congr_right_iff]
    intro _
    simp only [FileNode.hasFile_directory_iff]
    constructor
    · rintro (⟨below, hnames, hfile⟩ | ⟨below, hnames, other, inner, rest, hmem, rfl, hfile⟩)
      · exact ⟨_, hnames, name, node, below, List.mem_cons_self, rfl, hfile⟩
      · exact ⟨_, hnames, other, inner, rest, List.mem_cons_of_mem _ hmem, rfl, hfile⟩
    · rintro ⟨_, hnames, other, inner, rest, hmem, rfl, hfile⟩
      rcases List.mem_cons.mp hmem with heq | hmem
      · cases heq
        exact .inl ⟨rest, hnames, hfile⟩
      · exact .inr ⟨_, hnames, other, inner, rest, hmem, rfl, hfile⟩

end

mutual

/-- No test at an entry is found twice. -/
theorem nodup_names_testsAt (directories : List String) (name : String) :
    ∀ {node : FileNode}, node.DistinctNames →
      ((testsAt directories name node).map FoundTest.names).Nodup
  | .file bytes, _ => by
    rw [testsAt]
    split <;> simp
  | .directory entries, h => by
    rw [testsAt]
    exact nodup_names_testsIn _ h

/-- **No test is found twice.** -/
theorem nodup_names_testsIn (directories : List String) :
    ∀ {entries : List (String × FileNode)}, (FileNode.directory entries).DistinctNames →
      ((testsIn directories entries).map FoundTest.names).Nodup
  | [], _ => by
    rw [testsIn]
    exact List.nodup_nil
  | (name, node) :: entries, h => by
    obtain ⟨hname, hnode, hrest⟩ := FileNode.distinctNames_cons_iff.mp h
    rw [testsIn, List.map_append, List.nodup_append]
    refine ⟨nodup_names_testsAt directories name hnode, nodup_names_testsIn directories hrest, ?_⟩
    -- the ways differ in the name of the entry through which they go
    intro names hfirst names' hother heq
    obtain ⟨test, htest, rfl⟩ := List.mem_map.mp hfirst
    obtain ⟨test', htest', rfl⟩ := List.mem_map.mp hother
    obtain ⟨-, below, hbelow, -⟩ := (mem_testsAt_iff directories name node).mp htest
    obtain ⟨-, below', hbelow', hfile⟩ := (mem_testsIn_iff directories entries).mp htest'
    obtain ⟨name', node', rest, hmem, rfl, -⟩ := FileNode.hasFile_directory_iff.mp hfile
    rw [hbelow, hbelow', List.append_cancel_left_eq] at heq
    cases heq
    exact hname (List.mem_map.mpr ⟨_, hmem, rfl⟩)

end

/-! ## Order -/

namespace FoundTest

theorem namesPrecede_iff : ∀ {names names' : List String},
    namesPrecede names names' = true ↔ names = names' ∨ names < names'
  | [], [] => by simp [namesPrecede]
  | [], _ :: _ => by simp [namesPrecede]
  | _ :: _, [] => by simp [namesPrecede]
  | name :: names, name' :: names' => by
    rw [namesPrecede, List.cons_lt_cons_iff]
    by_cases heq : name = name'
    · subst heq
      rw [if_pos rfl, namesPrecede_iff, List.cons_inj_right, or_iff_right (String.lt_irrefl name),
        and_iff_right rfl]
    · simp [heq]

/-- A test comes before another one: its category does, or they are of one category and its path
does. -/
def Before (a b : FoundTest) : Prop :=
  a.category < b.category ∨ a.category = b.category ∧ a.names < b.names

theorem category_eq_of_names_eq {a b : FoundTest} (h : a.names = b.names) :
    a.category = b.category := by
  have hdirectories : a.directories = b.directories := List.append_inj_left' h rfl
  rw [category, hdirectories, category]

theorem precedes_iff {a b : FoundTest} :
    a.precedes b = true ↔ a.names = b.names ∨ a.Before b := by
  unfold precedes Before
  by_cases hcategory : a.category = b.category
  · rw [if_pos hcategory, hcategory, namesPrecede_iff, or_iff_right (String.lt_irrefl b.category),
      and_iff_right rfl]
  · have hnames : a.names ≠ b.names := fun h => hcategory (category_eq_of_names_eq h)
    simp [hcategory, hnames]

theorem Before.trans {a b c : FoundTest} (hab : a.Before b) (hbc : b.Before c) : a.Before c := by
  rcases hab with hab | ⟨hab, hnames⟩
  · rcases hbc with hbc | ⟨hbc, -⟩
    · exact .inl (String.lt_trans hab hbc)
    · exact .inl (hbc ▸ hab)
  · rcases hbc with hbc | ⟨hbc, hnames'⟩
    · exact .inl (hab ▸ hbc)
    · exact .inr ⟨hab.trans hbc, Std.lt_trans hnames hnames'⟩

theorem before_trichotomy (a b : FoundTest) : a.Before b ∨ a.names = b.names ∨ b.Before a := by
  rcases Std.lt_trichotomy a.category b.category with hlt | heq | hgt
  · exact .inl (.inl hlt)
  · rcases Std.lt_trichotomy a.names b.names with hlt | hnames | hgt
    · exact .inl (.inr ⟨heq, hlt⟩)
    · exact .inr (.inl hnames)
    · exact .inr (.inr (.inr ⟨heq.symm, hgt⟩))
  · exact .inr (.inr (.inl hgt))

theorem precedes_total (a b : FoundTest) : (a.precedes b || b.precedes a) = true := by
  rw [Bool.or_eq_true, precedes_iff, precedes_iff]
  rcases before_trichotomy a b with hab | hnames | hba
  · exact .inl (.inr hab)
  · exact .inl (.inl hnames)
  · exact .inr (.inr hba)

theorem Before.of_names_eq {a a' b b' : FoundTest} (h : a.Before b) (ha : a.names = a'.names)
    (hb : b.names = b'.names) : a'.Before b' := by
  rw [Before, ← category_eq_of_names_eq ha, ← category_eq_of_names_eq hb, ← ha, ← hb]
  exact h

theorem Before.names_ne {a b : FoundTest} (h : a.Before b) : a.names ≠ b.names := by
  rintro heq
  rcases h with hlt | ⟨-, hlt⟩
  · rw [category_eq_of_names_eq heq] at hlt
    exact String.lt_irrefl _ hlt
  · rw [heq] at hlt
    exact List.lt_irrefl _ hlt

theorem precedes_trans (a b c : FoundTest) (hab : a.precedes b = true)
    (hbc : b.precedes c = true) : a.precedes c = true := by
  rw [precedes_iff] at hab hbc ⊢
  rcases hab with hab | hab
  · rcases hbc with hbc | hbc
    · exact .inl (hab.trans hbc)
    · exact .inr (hbc.of_names_eq hab.symm rfl)
  · rcases hbc with hbc | hbc
    · exact .inr (hab.of_names_eq rfl hbc)
    · exact .inr (hab.trans hbc)

end FoundTest

/-- **The tests of a directory are put in order, each once.** -/
theorem pairwise_orderedTests {entries : List (String × FileNode)}
    (h : (FileNode.directory entries).DistinctNames) :
    (orderedTests (.directory entries)).Pairwise FoundTest.Before := by
  have hsorted := List.pairwise_mergeSort FoundTest.precedes_trans FoundTest.precedes_total
    (testsIn [] entries)
  have hnodup : ((orderedTests (.directory entries)).map FoundTest.names).Nodup :=
    ((List.mergeSort_perm (testsIn [] entries) FoundTest.precedes).map _).nodup_iff.mpr
      (nodup_names_testsIn [] h)
  rw [List.Nodup, List.pairwise_map] at hnodup
  refine (List.Pairwise.and hsorted hnodup).imp fun {a b} hab => ?_
  exact (FoundTest.precedes_iff.mp hab.1).resolve_left hab.2

theorem mem_orderedTests_iff {entries : List (String × FileNode)} {test : FoundTest} :
    test ∈ orderedTests (.directory entries)
      ↔ isTestName test.name = true
        ∧ (FileNode.directory entries).HasFile test.names test.bytes := by
  rw [orderedTests, List.mem_mergeSort, mem_testsIn_iff]
  simp

/-! ## Selecting -/

/-- The request without the solidi at its ends. -/
def Strips (request stripped : String) : Prop :=
  (∃ front back, request.toList
      = List.replicate front '/' ++ stripped.toList ++ List.replicate back '/')
    ∧ stripped.toList.head? ≠ some '/' ∧ stripped.toList.getLast? ≠ some '/'

/-- A category is asked for: nothing in particular is, or a request names it or one above it. -/
def Wanted (asked : List String) (category : String) : Prop :=
  asked = [] ∨ ∃ request ∈ asked, ∃ stripped, Strips request stripped
    ∧ (category = stripped ∨ stripped.toList ++ ['/'] <+: category.toList)

/-- A list is the copies of a character at its front, and what is left without them. -/
theorem exists_replicate_dropWhile (c : Char) (cs : List Char) :
    ∃ count, cs = List.replicate count c ++ cs.dropWhile (· == c)
      ∧ (cs.dropWhile (· == c)).head? ≠ some c := by
  have hfront : ∀ d ∈ cs.takeWhile (· == c), d = c := fun d hd => by
    simpa using List.mem_takeWhile_imp hd
  refine ⟨(cs.takeWhile (· == c)).length, ?_, fun hhead => ?_⟩
  · rw [← List.eq_replicate_of_mem hfront, List.takeWhile_append_dropWhile]
  · have hnot := List.head?_dropWhile_not (· == c) cs
    rw [hhead] at hnot
    simp at hnot

theorem dropWhile_replicate_append {c : Char} {cs : List Char} (count : Nat)
    (h : cs.head? ≠ some c) : (List.replicate count c ++ cs).dropWhile (· == c) = cs := by
  rw [List.dropWhile_append_of_pos fun d hd => beq_iff_eq.mpr (List.eq_of_mem_replicate hd)]
  cases cs with
  | nil => rfl
  | cons d ds => exact List.dropWhile_cons_of_neg (by simpa using h)

/-- **The solidi at both ends are taken off, all of them and nothing else.** -/
theorem strips_iff {request stripped : String} :
    Strips request stripped ↔ stripped = trimRequest request := by
  constructor
  · rintro ⟨⟨front, back, hrequest⟩, hhead, hlast⟩
    apply String.toList_inj.mp
    simp only [trimRequest, hrequest, String.toList_ofList]
    cases hcs : stripped.toList with
    | nil =>
      have hall : List.replicate front '/' ++ [] ++ List.replicate back '/'
          = List.replicate (front + back) '/' ++ [] := by simp [List.replicate_append_replicate]
      rw [hall, dropWhile_replicate_append _ (by simp)]
      rfl
    | cons c cs =>
      rw [hcs] at hhead hlast
      rw [List.append_assoc, dropWhile_replicate_append _ (by simpa using hhead),
        List.reverse_append, List.reverse_replicate,
        dropWhile_replicate_append _ (by rwa [List.head?_reverse]), List.reverse_reverse]
  · rintro rfl
    obtain ⟨front, hfront, hhead⟩ := exists_replicate_dropWhile '/' request.toList
    obtain ⟨back, hback, hlast⟩ :=
      exists_replicate_dropWhile '/' (request.toList.dropWhile (· == '/')).reverse
    have hstripped : (trimRequest request).toList
        = ((request.toList.dropWhile (· == '/')).reverse.dropWhile (· == '/')).reverse := by
      rw [trimRequest, String.toList_ofList]
    have hmiddle : request.toList.dropWhile (· == '/')
        = (trimRequest request).toList ++ List.replicate back '/' := by
      rw [hstripped, ← List.reverse_replicate, ← List.reverse_append, ← hback,
        List.reverse_reverse]
    refine ⟨⟨front, back, ?_⟩, fun hslash => hhead ?_, ?_⟩
    · rw [List.append_assoc, ← hmiddle]
      exact hfront
    · rw [hmiddle, List.head?_append, hslash]
      rfl
    · rwa [hstripped, List.getLast?_reverse]

theorem isRequested_iff {asked : List String} {category : String} :
    isRequested asked category = true ↔ Wanted asked category := by
  simp only [isRequested, Wanted, strips_iff, exists_eq_left, requests, Bool.or_eq_true,
    List.isEmpty_iff, List.any_eq_true, beq_iff_eq, List.isPrefixOf_iff_prefix]

/-! ## Grouping -/

theorem flatMap_consGroup {α : Type} (category : String) (item : α)
    (groups : List (String × List α)) :
    (consGroup category item groups).flatMap (·.2) = item :: groups.flatMap (·.2) := by
  cases groups with
  | nil => rfl
  | cons group groups =>
    obtain ⟨next, items⟩ := group
    rw [consGroup]
    split <;> simp

/-- **Grouping keeps all items in their order.** -/
theorem flatMap_groupBy {α : Type} (category : α → String) (items : List α) :
    (groupBy category items).flatMap (·.2) = items := by
  induction items with
  | nil => rfl
  | cons item items ih => rw [groupBy, flatMap_consGroup, ih]

/-! ## Sessions -/

/-- The tests of a directory that are asked for, in order. -/
def wantedTests (entries : List (String × FileNode)) (asked : List String) : List FoundTest :=
  (orderedTests (.directory entries)).filter fun test => isRequested asked test.category

/-- The result of a test in a directory at a path. -/
def resultOf (registry : Registry) (path : String) (test : FoundTest) : TestResult :=
  runTest registry (test.path path) (FileNode.file test.bytes).text

namespace TestSession

/-- Every result is counted as passed or as failed. -/
theorem passedCount_add_failures (session : TestSession) :
    session.passedCount + session.failures.length = session.results.length := by
  rw [passedCount, failures, ← List.countP_eq_length_filter,
    List.length_eq_countP_add_countP TestResult.passed]
  simp only [Bool.not_eq_true, Bool.decide_eq_false]

theorem succeeded_iff {session : TestSession} :
    session.succeeded = true
      ↔ session.results ≠ [] ∧ ∀ result ∈ session.results, result.passed = true := by
  simp [succeeded, failures, List.filter_eq_nil_iff]

end TestSession

theorem results_runDirectory (registry : Registry) (path : String)
    (entries : List (String × FileNode)) (asked : List String) :
    (runDirectory registry path (.directory entries) asked).results
      = (wantedTests entries asked).map (resultOf registry path) := by
  calc (runDirectory registry path (.directory entries) asked).results
      = ((byCategory (wantedTests entries asked)).map fun group =>
          (group.1, group.2.map (resultOf registry path))).flatMap (·.2) := rfl
    _ = ((byCategory (wantedTests entries asked)).flatMap (·.2)).map (resultOf registry path) := by
        rw [List.flatMap_map, List.map_flatMap]
    _ = (wantedTests entries asked).map (resultOf registry path) := by
        rw [byCategory, flatMap_groupBy]

/-- **A session runs the tests that are asked for, each once.** The tests of a directory are run in
the order of their categories, and within a category in the order of their paths. They are the files
at any depth whose names have the suffix and whose categories are asked for: all categories if no
request is made, and otherwise those that a request without the solidi at its ends names, and those
below them. However often a test is asked for, it is there once. All of them are counted, as passed
or as failed, and the program says that all went well iff there is a test and none failed. -/
theorem sessions_run_requested (registry : Registry) (files : FileView) (path : String)
    (entries : List (String × FileNode)) (hroot : files path = .ok (.directory entries))
    (hnames : (FileNode.directory entries).DistinctNames) (asked : List String) :
    ∃ tests : List FoundTest,
      (runTests registry files path asked).results = tests.map (resultOf registry path)
      ∧ (∀ test, test ∈ tests
        ↔ (FileNode.directory entries).HasFile test.names test.bytes
          ∧ testSuffix.toList <:+ test.name.toList ∧ Wanted asked test.category)
      ∧ (tests.map FoundTest.names).Nodup
      ∧ tests.Pairwise FoundTest.Before
      ∧ (runTests registry files path asked).passedCount
          + (runTests registry files path asked).failures.length = tests.length
      ∧ ∀ colored, (Cli.runTestGoal registry files path colored (.run asked)).exit = 0
        ↔ tests ≠ [] ∧ ∀ test ∈ tests, (resultOf registry path test).passed = true := by
  have hresults : (runTests registry files path asked).results
      = (wantedTests entries asked).map (resultOf registry path) := by
    rw [runTests, hroot]
    exact results_runDirectory registry path entries asked
  have hordered : (wantedTests entries asked).Pairwise FoundTest.Before :=
    (pairwise_orderedTests hnames).filter _
  refine ⟨wantedTests entries asked, hresults, fun test => ?_, ?_, hordered, ?_, fun colored => ?_⟩
  · rw [wantedTests, List.mem_filter, mem_orderedTests_iff, isTestName_iff, isRequested_iff]
    tauto
  · rw [List.Nodup, List.pairwise_map]
    exact hordered.imp FoundTest.Before.names_ne
  · rw [TestSession.passedCount_add_failures, hresults, List.length_map]
  · have hexit : (Cli.runTestGoal registry files path colored (.run asked)).exit = 0
        ↔ (runTests registry files path asked).succeeded = true := by
      simp only [Cli.runTestGoal]
      split <;> simp_all
    rw [hexit, TestSession.succeeded_iff, hresults]
    simp

/-- A directory with a test, two directories with tests, one of them named with a reverse solidus,
and a file that is no test. -/
def sampleEntries : List (String × FileNode) :=
  [("a.test.kmd", .file ⟨#[]⟩),
    ("b", .directory [("notes.md", .file ⟨#[]⟩), ("one.test.kmd", .file ⟨#[]⟩)]),
    ("b\\c", .directory [("two.test.kmd", .file ⟨#[]⟩)])]

/-- Asked for twice, the tests of a category and of the one below it are run once, and no others;
files without a header are failed tests. -/
theorem sessions_run_requested_sampleEntries :
    ∃ tests : List FoundTest,
      (runTests .builtin (fun _ => .ok (.directory sampleEntries)) "t" ["/b//", "b", "c"]).results
        = tests.map (resultOf .builtin "t")
      ∧ (tests.map FoundTest.names).Nodup
      ∧ ⟨["b"], "one.test.kmd", ⟨#[]⟩⟩ ∈ tests ∧ ⟨["b\\c"], "two.test.kmd", ⟨#[]⟩⟩ ∈ tests
      ∧ ⟨[], "a.test.kmd", ⟨#[]⟩⟩ ∉ tests ∧ ⟨["b"], "notes.md", ⟨#[]⟩⟩ ∉ tests
      ∧ (Cli.runTestGoal .builtin (fun _ => .ok (.directory sampleEntries)) "t" false
          (.run ["/b//", "b", "c"])).exit ≠ 0 := by
  have hnames : (FileNode.directory sampleEntries).DistinctNames := by
    refine .directory (by decide) ?_
    simp only [sampleEntries, List.forall_mem_cons]
    refine ⟨.file _, .directory (by decide) ?_, .directory (by decide) ?_, by simp⟩
    · simp [FileNode.DistinctNames.file]
    · simp [FileNode.DistinctNames.file]
  obtain ⟨tests, hresults, hmem, hnodup, -, -, hexit⟩ :=
    sessions_run_requested .builtin (fun _ => .ok (.directory sampleEntries)) "t" sampleEntries rfl
      hnames ["/b//", "b", "c"]
  have hstrips : Strips "/b//" "b" := ⟨⟨1, 2, rfl⟩, by decide, by decide⟩
  have hone : ⟨["b"], "one.test.kmd", ⟨#[]⟩⟩ ∈ tests :=
    (hmem _).mpr ⟨.entry (List.mem_cons_of_mem _ List.mem_cons_self)
      (.entry (List.mem_cons_of_mem _ List.mem_cons_self) (.file _)), by decide,
      .inr ⟨_, List.mem_cons_self, "b", hstrips, .inl (by decide +kernel)⟩⟩
  have htwo : ⟨["b\\c"], "two.test.kmd", ⟨#[]⟩⟩ ∈ tests :=
    (hmem _).mpr ⟨.entry (List.mem_cons_of_mem _ (List.mem_cons_of_mem _ List.mem_cons_self))
      (.entry List.mem_cons_self (.file _)), by decide,
      .inr ⟨_, List.mem_cons_self, "b", hstrips, .inr (by decide +kernel)⟩⟩
  refine ⟨tests, hresults, hnodup, hone, htwo, fun h => ?_, fun h => ?_, fun h => ?_⟩
  · have hwanted := isRequested_iff.mpr ((hmem _).mp h).2.2
    exact absurd hwanted (by decide +kernel)
  · exact absurd ((hmem _).mp h).2.1 (by decide)
  · exact absurd (((hexit false).mp h).2 _ hone) (by decide +kernel)

end CheckScript
