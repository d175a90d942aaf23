import MazeGrader.Proofs.Assignment.Grades
import MazeGrader.Proofs.Assignment.WriteBack

/-! Criteria made for files that exist already. There is an entry for each of the files, which finds
a file of the same name among them, and nothing is taken off when they are graded by it. -/
namespace MazeGrader

/-- The path ends in the name of a rule file: something, a dot, and one of the extensions in upper
or lower case. -/
def IsRuleFile (path : String) : Prop :=
  ∃ stem extension, Path.fileName? path = some (stem ++ '.' :: extension) ∧ stem ≠ [] ∧
    (extension.map Char.toLower = "txt".toList ∨ extension.map Char.toLower = "picobot".toList)

/-- The entry of a file among criteria to begin with. -/
structure Begins (path : String) (entry : FileDescriptor) : Prop where
  name : Path.fileName? path = some entry.path.toList
  kind : entry.kind = ruleFileKind
  points : entry.pointValue = 0
  tests : entry.tests = []

variable {path : String} {paths : List String} {entry : FileDescriptor}
  {entries : List FileDescriptor}

/-! ### One file -/

theorem mem_ruleExtensions_iff {word : List Char} :
    word ∈ ruleExtensions ↔ word = "txt".toList ∨ word = "picobot".toList := by
  simp only [ruleExtensions, List.mem_cons, List.not_mem_nil, or_false]

theorem not_mem_of_ruleExtension {extension : List Char}
    (listed : extension.map Char.toLower ∈ ruleExtensions) : '.' ∉ extension := by
  intro dot
  have lower : '.' ∈ extension.map Char.toLower := List.mem_map_of_mem dot
  have plain : ∀ word ∈ ruleExtensions, '.' ∉ word := by decide
  exact plain _ listed lower

theorem isRuleFile_iff : IsRuleFile path ↔ ∃ extension, Path.extension? path = some extension ∧
    extension.map Char.toLower ∈ ruleExtensions := by
  simp only [IsRuleFile, Path.extension?_eq_some_iff, ← mem_ruleExtensions_iff]
  constructor
  · rintro ⟨stem, extension, named, filled, listed⟩
    exact ⟨extension, ⟨stem, named, filled, not_mem_of_ruleExtension listed⟩, listed⟩
  · rintro ⟨extension, ⟨stem, named, filled, -⟩, listed⟩
    exact ⟨stem, extension, named, filled, listed⟩

theorem fileKind?_eq_some_iff {kind : String} :
    fileKind? path = some kind ↔ kind = ruleFileKind ∧ IsRuleFile path := by
  rw [isRuleFile_iff, fileKind?]
  cases Path.extension? path with
  | none => simp
  | some extension =>
    by_cases listed : extension.map Char.toLower ∈ ruleExtensions
    · simp [listed, eq_comm]
    · simp [listed]

theorem FileDescriptor.skeleton_eq_ok_iff :
    skeleton path = .ok entry ↔ IsRuleFile path ∧ Begins path entry := by
  unfold skeleton
  cases kind : fileKind? path with
  | none =>
    have other : ¬IsRuleFile path := by
      intro ruleFile
      rw [fileKind?_eq_some_iff.2 ⟨rfl, ruleFile⟩] at kind
      cases kind
    simp [other]
  | some kind =>
    obtain ⟨rfl, ruleFile⟩ := fileKind?_eq_some_iff.1 kind
    have ⟨stem, extension, named, _⟩ := ruleFile
    simp only [named, Option.map_some, Option.getD_some, Except.ok.injEq]
    constructor
    · rintro rfl
      exact ⟨ruleFile, by rw [named, String.toList_ofList], rfl, rfl, rfl⟩
    · rintro ⟨-, begins⟩
      obtain ⟨entryPath, entryKind, points, tests⟩ := entry
      obtain ⟨name, rfl, rfl, rfl⟩ := begins
      rw [named, Option.some.injEq] at name
      rw [name, String.ofList_toList]

theorem IsRuleFile.exists_begins (ruleFile : IsRuleFile path) : ∃ entry, Begins path entry := by
  obtain ⟨stem, extension, named, -⟩ := ruleFile
  exact ⟨⟨String.ofList _, ruleFileKind, 0, []⟩, by rw [named, String.toList_ofList], rfl, rfl, rfl⟩

/-- The path of an entry is a file name, so it is its own. -/
theorem Begins.fileName?_path (begins : Begins path entry) :
    Path.fileName? entry.path = Path.fileName? path := by
  have alone := Path.fileName?_ofList begins.name
  rw [String.ofList_toList] at alone
  exact alone.trans begins.name.symm

/-! ### All files -/

theorem skeletonFiles_eq_mapM (paths : List String) :
    skeletonFiles paths = paths.mapM FileDescriptor.skeleton := by
  induction paths with
  | nil => rfl
  | cons path rest ih => rw [skeletonFiles, ih, List.mapM_cons]

theorem skeletonFiles_eq_ok_iff : skeletonFiles paths = .ok entries ↔
    (∀ path ∈ paths, IsRuleFile path) ∧ List.Forall₂ Begins paths entries := by
  rw [skeletonFiles_eq_mapM, mapM_eq_ok_iff]
  simp only [FileDescriptor.skeleton_eq_ok_iff, List.forall₂_and_left]

theorem exists_forall₂_begins (ruleFiles : ∀ path ∈ paths, IsRuleFile path) :
    ∃ entries, List.Forall₂ Begins paths entries := by
  induction paths with
  | nil => exact ⟨[], .nil⟩
  | cons path rest ih =>
    obtain ⟨now, later⟩ := List.forall_mem_cons.1 ruleFiles
    obtain ⟨entry, begins⟩ := now.exists_begins
    obtain ⟨entries, all⟩ := ih later
    exact ⟨entry :: entries, .cons begins all⟩

theorem CriteriaDescriptor.skeleton_eq_ok_iff {document : CriteriaDescriptor} :
    skeleton paths = .ok document ↔ document.assignmentName = "" ∧
      (∀ path ∈ paths, IsRuleFile path) ∧ List.Forall₂ Begins paths document.files := by
  rw [skeleton, bind_eq_ok, ← skeletonFiles_eq_ok_iff]
  constructor
  · rintro ⟨entries, made, same⟩
    cases same
    exact ⟨rfl, made⟩
  · obtain ⟨name, entries⟩ := document
    rintro ⟨rfl, made⟩
    exact ⟨entries, made, rfl⟩

/-! ### The files they were made for -/

/-- Some file has the name of each of the files. -/
theorem exists_submits {name : List Char} (member : path ∈ paths)
    (named : Path.fileName? path = some name) : ∃ submission, Submits path paths submission := by
  by_contra unanswered
  have missing := findSubmission_eq_none_iff.2 (not_exists.1 unanswered)
  simp only [findSubmission, named, Option.bind_some, List.find?_eq_none, beq_iff_eq] at missing
  exact missing path member named

theorem Begins.submits_iff (begins : Begins path entry) {submission : String} :
    Submits entry.path paths submission ↔ Submits path paths submission := by
  simp only [Submits, begins.fileName?_path]

theorem Begins.finds (begins : Begins path entry) (member : path ∈ paths) : ∃ submission,
    findSubmission entry.path paths = some submission ∧ Submits path paths submission := by
  obtain ⟨submission, submits⟩ := exists_submits member begins.name
  exact ⟨submission, findSubmission_eq_some_iff.2 (begins.submits_iff.2 submits), submits⟩

/-- The file of the criteria that an entry to begin with stands for. -/
def FileDescriptor.untested (entry : FileDescriptor) : GradedFile := ⟨entry.path, 0, []⟩

/-- Its grade when nothing is taken off. -/
def FileDescriptor.spared (entry : FileDescriptor) : FileGrade := ⟨entry.path, 0, []⟩

theorem Begins.loads (begins : Begins path entry) (registry : Registry) (setting : TestSetting) :
    GradedFile.ofDescriptor registry setting entry = .ok entry.untested := by
  refine GradedFile.ofDescriptor_eq_ok_iff.2 ⟨begins.kind, ?_, rfl, begins.points.symm⟩
  rw [begins.tests]
  rfl

theorem Begins.graded (begins : Begins path entry) (member : path ∈ paths) (files : FileSystem) :
    Graded files paths entry.untested entry.spared := by
  obtain ⟨submission, found, -⟩ := begins.finds member
  exact .untested (findSubmission_eq_some_iff.1 found) rfl

theorem Criteria.ofDescriptor_untested (all : List.Forall₂ Begins paths entries) (name : String)
    (registry : Registry) (setting : TestSetting) :
    ofDescriptor registry setting ⟨name, entries⟩ =
      .ok ⟨name, entries.map FileDescriptor.untested⟩ := by
  have loaded : GradedFile.ofDescriptors registry setting entries =
      .ok (entries.map FileDescriptor.untested) := by
    rw [GradedFile.ofDescriptors_eq_mapM, mapM_eq_ok_iff, List.forall₂_map_right_iff,
      List.forall₂_same]
    exact forall_mem_of_forall₂ all fun path _ entry begins => begins.loads registry setting
  exact bind_eq_ok.2 ⟨_, loaded, rfl⟩

theorem gradeSubmissions_untested (all : List.Forall₂ Begins paths entries) (name : String)
    (files : FileSystem) :
    (gradeSubmissions files ⟨name, entries.map FileDescriptor.untested⟩ paths).answer =
      .ok ⟨name, entries.map FileDescriptor.spared⟩ := by
  have graded : (gradeFiles files paths (entries.map FileDescriptor.untested)).answer =
      .ok (entries.map FileDescriptor.spared) := by
    rw [gradeFiles_eq_ok_iff, List.forall₂_map_left_iff, List.forall₂_map_right_iff,
      List.forall₂_same]
    exact forall_mem_of_forall₂ all fun path member entry begins => begins.graded member files
  simp [gradeSubmissions, graded]

namespace CriteriaDescriptor

/-- Criteria to begin with can be made just for rule files. They have an entry for each file, in
order, and its path finds the first of the files that has the same name. They load with whatever
tests there are and in any setting, and then take nothing from any file, whatever the files hold. -/
theorem skeleton_fits (paths : List String) :
    ((∃ document, skeleton paths = .ok document) ↔ ∀ path ∈ paths, IsRuleFile path) ∧
    ∀ document, skeleton paths = .ok document →
      List.Forall₂ Begins paths document.files ∧
      List.Forall₂ (fun path entry => ∃ submission,
        findSubmission entry.path paths = some submission ∧ Submits path paths submission)
          paths document.files ∧
      ∀ registry setting, ∃ criteria,
        Criteria.ofDescriptor registry setting document = .ok criteria ∧
        ∀ files, ∃ report, (gradeSubmissions files criteria paths).answer = .ok report ∧
          List.Forall₂ (fun entry grade => grade.path = entry.path ∧ grade.pointValue = 0 ∧
            grade.deductions = []) document.files report.files := by
  refine ⟨⟨?_, fun ruleFiles => ?_⟩, fun document made => ?_⟩
  · rintro ⟨document, made⟩
    exact (skeleton_eq_ok_iff.1 made).2.1
  · obtain ⟨entries, all⟩ := exists_forall₂_begins ruleFiles
    exact ⟨⟨"", entries⟩, skeleton_eq_ok_iff.2 ⟨rfl, ruleFiles, all⟩⟩
  · obtain ⟨-, -, all⟩ := skeleton_eq_ok_iff.1 made
    have placed := (List.forall₂_and_left _ _).2 ⟨fun path (member : path ∈ paths) => member, all⟩
    refine ⟨all, placed.imp fun path entry here => here.2.finds here.1, fun registry setting => ?_⟩
    refine ⟨_, Criteria.ofDescriptor_untested all _ registry setting, fun files => ?_⟩
    refine ⟨_, gradeSubmissions_untested all _ files, ?_⟩
    rw [List.forall₂_map_right_iff, List.forall₂_same]
    exact fun entry member => ⟨rfl, rfl, rfl⟩

/-- Paths with more bars and dots than they need, two of them to files of one name. -/
def dottedPaths : List String := ["home/Walk.TXT/", "./..txt", "b/./Walk.TXT", "c/../d.b.picobot/."]

def dotted : CriteriaDescriptor :=
  ⟨"", [⟨"Walk.TXT", ruleFileKind, 0, []⟩, ⟨"..txt", ruleFileKind, 0, []⟩,
    ⟨"Walk.TXT", ruleFileKind, 0, []⟩, ⟨"d.b.picobot", ruleFileKind, 0, []⟩]⟩

theorem skeleton_fits_dotted :
    skeleton dottedPaths = .ok dotted ∧ IsRuleFile "./..txt" ∧
    (∃ submission, findSubmission "Walk.TXT" dottedPaths = some submission ∧
      Submits "b/./Walk.TXT" dottedPaths submission) ∧
    ∃ criteria, Criteria.ofDescriptor .empty MapTest.plainSetting dotted = .ok criteria ∧
      ∃ report, (gradeSubmissions ⟨fun _ => .error .notFound, fun _ => false⟩ criteria
        dottedPaths).answer = .ok report ∧ ∀ grade ∈ report.files, grade.deductions = [] := by
  have made : skeleton dottedPaths = .ok dotted := rfl
  obtain ⟨ruleFiles, fits⟩ := skeleton_fits dottedPaths
  obtain ⟨-, found, loads⟩ := fits dotted made
  obtain ⟨criteria, loaded, grades⟩ := loads .empty MapTest.plainSetting
  obtain ⟨report, graded, spared⟩ := grades ⟨fun _ => .error .notFound, fun _ => false⟩
  refine ⟨made, ruleFiles.1 ⟨dotted, made⟩ _ (by decide), ?_, criteria, loaded, report, graded, ?_⟩
  · exact (List.forall₂_iff_get.1 found).2 2 (by decide) (by decide)
  · exact forall_mem_of_forall₂ spared fun entry _ grade here => here.2.2

end CriteriaDescriptor

end MazeGrader
