import MazeGrader.Assignment.Grading
import MazeGrader.Proofs.Assignment.Verdict

/-! What a report says. There is an entry for each file of the criteria, and what it says is
told from the submissions and the files alone. No report is made if a submission that has to be
run cannot be read, and then the first of those in the order of the criteria is named. -/
namespace MazeGrader

/-- The file under a path is this text in UTF-8. -/
def FileSystem.Holds (files : FileSystem) (path text : String) : Prop :=
  files.content path = .ok text.toByteArray

theorem decodeText_eq_ok_iff {content : ByteArray} {text : String} :
    decodeText content = .ok text ↔ content = text.toByteArray := by
  constructor
  · intro decoded
    unfold decodeText String.fromUTF8? at decoded
    split at decoded
    · next found =>
      split at found
      · cases found
        cases decoded
        rfl
      · cases found
    · cases decoded
  · rintro rfl
    exact decodeText_toByteArray text

theorem FileSystem.read_eq_ok_iff {files : FileSystem} {path text : String} :
    files.read path = .ok text ↔ files.Holds path text := by
  unfold read Holds
  cases files.content path with
  | error fault => simp [bind, Except.bind]
  | ok content => simpa [bind, Except.bind] using decodeText_eq_ok_iff

/-! ### The submission for a file -/

/-- The first submission whose path ends in the same name as another path. -/
def Submits (path : String) (submissions : List String) (submission : String) : Prop :=
  ∃ name before after, Path.fileName? path = some name ∧
    submissions = before ++ submission :: after ∧ Path.fileName? submission = some name ∧
    ∀ other ∈ before, Path.fileName? other ≠ some name

theorem findSubmission_eq_some_iff {path submission : String} {submissions : List String} :
    findSubmission path submissions = some submission ↔ Submits path submissions submission := by
  unfold findSubmission Submits
  cases named : Path.fileName? path with
  | none => simp
  | some name =>
    simp only [Option.bind_some, List.find?_eq_some_iff_append, beq_iff_eq, Option.some.injEq,
      Bool.not_eq_true', beq_eq_false_iff_ne]
    constructor
    · rintro ⟨same, before, after, split, apart⟩
      exact ⟨name, before, after, rfl, split, same, apart⟩
    · rintro ⟨_, before, after, rfl, split, same, apart⟩
      exact ⟨same, before, after, split, apart⟩

theorem findSubmission_eq_none_iff {path : String} {submissions : List String} :
    findSubmission path submissions = none ↔
      ∀ submission, ¬Submits path submissions submission := by
  simp only [Option.eq_none_iff_forall_ne_some, ne_eq, findSubmission_eq_some_iff]

theorem Submits.unique {path submission other : String} {submissions : List String}
    (first : Submits path submissions submission) (second : Submits path submissions other) :
    submission = other := by
  rw [← findSubmission_eq_some_iff] at first second
  exact Option.some.inj (first.symm.trans second)

/-! ### Tests of one submission -/

/-- What a trial comes to that fails is the fault of the rules. -/
theorem MapTest.ofRules_of_trial {test : MapTest} {source : String} {fault : Fault}
    (failed : test.trial source = .error fault) : fault.OfRules := by
  cases compiled : RuleTable.compileSource source with
  | error other =>
    obtain rfl := Except.error.inj ((trial_of_fault compiled).symm.trans failed)
    exact (RuleTable.addLines_fault compiled).ofRules
  | ok rules =>
    have ran := (trial_of_rules compiled).symm.trans failed
    exact (simulate_fault test.placed ran).ofRules

theorem MapTest.exists_verdict (test : MapTest) (source : String) :
    ∃ verdict, test.evaluate source = .ok verdict := by
  cases ran : test.trial source with
  | ok outcome => exact ⟨_, by rw [evaluate, ran]; rfl⟩
  | error fault => exact ⟨_, evaluate_of_fault ran (ofRules_of_trial ran)⟩

/-- The deductions that tests find for a text, in the order of the tests. -/
def Yields (tests : List MapTest) (text : String) (deductions : List Deduction) : Prop :=
  ∃ verdicts : List (Option Deduction),
    tests.map (·.evaluate text) = verdicts.map Except.ok ∧ deductions = verdicts.filterMap id

theorem exists_yields (tests : List MapTest) (text : String) :
    ∃ deductions, Yields tests text deductions := by
  induction tests with
  | nil => exact ⟨_, [], rfl, rfl⟩
  | cons test rest ih =>
    obtain ⟨verdict, evaluated⟩ := test.exists_verdict text
    obtain ⟨_, verdicts, others, rfl⟩ := ih
    exact ⟨_, verdict :: verdicts, by simp [evaluated, others], rfl⟩

/-- Why a submission could not be read. -/
def unread (submission : String) (fault : ReadFault) : Failure :=
  ⟨["Could not read Picobot rules " ++ submission], .file fault⟩

section Tests

variable {files : FileSystem} {path submission text : String} {tests : List MapTest}

theorem MapTest.run_of_unread {test : MapTest} {fault : ReadFault}
    (fails : files.read submission = .error fault) :
    (test.run files submission).answer = .error (unread submission fault) := by
  simp only [run, Traced.answer_bind, Traced.answer_silent, fails]
  rfl

theorem MapTest.run_of_text {test : MapTest} {verdict : Option Deduction}
    (reads : files.read submission = .ok text) (evaluated : test.evaluate text = .ok verdict) :
    (test.run files submission).answer = .ok verdict := by
  simp only [run, Traced.answer_bind, Traced.answer_silent, reads]
  exact giveUp_eq_ok.2 evaluated

theorem runTests_of_unread {fault : ReadFault} (tested : tests ≠ [])
    (fails : files.read submission = .error fault) :
    (runTests files path submission tests).answer = .error (unread submission fault) := by
  cases tests with
  | nil => exact absurd rfl tested
  | cons test rest =>
    rw [runTests, Traced.answer_bind, MapTest.run_of_unread fails]
    rfl

theorem runTests_of_text {deductions : List Deduction} (reads : files.read submission = .ok text)
    (yields : Yields tests text deductions) :
    (runTests files path submission tests).answer = .ok deductions := by
  obtain ⟨verdicts, evaluated, rfl⟩ := yields
  induction tests generalizing verdicts with
  | nil =>
    cases verdicts with
    | nil => rfl
    | cons => cases evaluated
  | cons test rest ih =>
    cases verdicts with
    | nil => cases evaluated
    | cons verdict verdicts =>
      obtain ⟨now, later⟩ := List.cons.inj evaluated
      rw [runTests, Traced.answer_bind, MapTest.run_of_text reads now]
      cases verdict with
      | none => exact ih verdicts later
      | some deduction => simp [ih verdicts later]

end Tests

/-! ### One file -/

variable {files : FileSystem} {submissions : List String} {file : GradedFile}
  {grade : FileGrade} {failure : Failure}

/-- The entry of a report for a file of the criteria. -/
inductive Graded (files : FileSystem) (submissions : List String) (file : GradedFile) :
    FileGrade → Prop where
  | missing : (∀ submission, ¬Submits file.path submissions submission) →
      Graded files submissions file
        ⟨file.path, file.pointValue, [⟨file.pointValue, file.path, ["file not submitted"]⟩]⟩
  | untested {submission : String} : Submits file.path submissions submission →
      file.tests = [] → Graded files submissions file ⟨file.path, file.pointValue, []⟩
  | tested {submission text : String} {deductions : List Deduction} :
      Submits file.path submissions submission → file.tests ≠ [] → files.Holds submission text →
      Yields file.tests text deductions →
      Graded files submissions file ⟨file.path, file.pointValue, deductions⟩

/-- The submission for a file has to be run and cannot be read. -/
def Unreadable (files : FileSystem) (submissions : List String) (file : GradedFile)
    (failure : Failure) : Prop :=
  ∃ submission fault, Submits file.path submissions submission ∧ file.tests ≠ [] ∧
    files.read submission = .error fault ∧ failure = unread submission fault

theorem Graded.answer (graded : Graded files submissions file grade) :
    (file.grade files submissions).answer = .ok grade := by
  unfold GradedFile.grade
  cases graded with
  | missing absent =>
    simp only [findSubmission_eq_none_iff.2 absent, Traced.answer_bind, Traced.answer_note]
    rfl
  | untested submits empty =>
    simp only [findSubmission_eq_some_iff.2 submits, Traced.answer_bind, Traced.answer_note, empty]
    rfl
  | tested submits _ holds yields =>
    simp only [findSubmission_eq_some_iff.2 submits, Traced.answer_bind, Traced.answer_note,
      runTests_of_text (FileSystem.read_eq_ok_iff.2 holds) yields]
    rfl

theorem Unreadable.answer (unreadable : Unreadable files submissions file failure) :
    (file.grade files submissions).answer = .error failure := by
  obtain ⟨submission, fault, submits, tested, fails, rfl⟩ := unreadable
  unfold GradedFile.grade
  simp only [findSubmission_eq_some_iff.2 submits, Traced.answer_bind, Traced.answer_note,
    runTests_of_unread tested fails]
  rfl

theorem graded_or_unreadable (files : FileSystem) (submissions : List String)
    (file : GradedFile) : (∃ grade, Graded files submissions file grade) ∨
      ∃ failure, Unreadable files submissions file failure := by
  by_cases submitted : ∃ submission, Submits file.path submissions submission
  · obtain ⟨submission, submits⟩ := submitted
    by_cases empty : file.tests = []
    · exact .inl ⟨_, .untested submits empty⟩
    · cases reads : files.read submission with
      | error fault => exact .inr ⟨_, submission, fault, submits, empty, reads, rfl⟩
      | ok text =>
        obtain ⟨deductions, yields⟩ := exists_yields file.tests text
        exact .inl ⟨_, .tested submits empty (FileSystem.read_eq_ok_iff.1 reads) yields⟩
  · exact .inl ⟨_, .missing (not_exists.1 submitted)⟩

theorem grade_eq_ok_iff :
    (file.grade files submissions).answer = .ok grade ↔ Graded files submissions file grade := by
  refine ⟨fun answered => ?_, Graded.answer⟩
  rcases graded_or_unreadable files submissions file with ⟨other, graded⟩ | ⟨failure, unreadable⟩
  · rw [graded.answer] at answered
    exact Except.ok.inj answered ▸ graded
  · rw [unreadable.answer] at answered
    cases answered

theorem grade_eq_error_iff :
    (file.grade files submissions).answer = .error failure ↔
      Unreadable files submissions file failure := by
  refine ⟨fun answered => ?_, Unreadable.answer⟩
  rcases graded_or_unreadable files submissions file with ⟨grade, graded⟩ | ⟨other, unreadable⟩
  · rw [graded.answer] at answered
    cases answered
  · rw [unreadable.answer] at answered
    exact Except.error.inj answered ▸ unreadable

/-! ### All files -/

variable {several : List GradedFile}

theorem gradeFiles_cons (files : FileSystem) (submissions : List String) (file : GradedFile)
    (rest : List GradedFile) :
    (gradeFiles files submissions (file :: rest)).answer =
      (file.grade files submissions).answer >>= fun grade =>
        (gradeFiles files submissions rest).answer >>= fun grades => .ok (grade :: grades) := by
  simp [gradeFiles]

theorem gradeFiles_eq_ok_iff {grades : List FileGrade} :
    (gradeFiles files submissions several).answer = .ok grades ↔
      List.Forall₂ (Graded files submissions) several grades := by
  induction several generalizing grades with
  | nil => cases grades <;> simp [gradeFiles]
  | cons file rest ih =>
    simp only [gradeFiles_cons, bind_eq_ok, grade_eq_ok_iff, ih, List.forall₂_cons_left_iff,
      Except.ok.injEq]
    constructor
    · rintro ⟨grade, graded, others, all, rfl⟩
      exact ⟨grade, others, graded, all, rfl⟩
    · rintro ⟨grade, others, graded, all, rfl⟩
      exact ⟨grade, graded, others, all, rfl⟩

theorem gradeFiles_eq_error_iff :
    (gradeFiles files submissions several).answer = .error failure ↔
      ∃ before file after, several = before ++ file :: after ∧
        (∀ earlier ∈ before, ∃ grade, Graded files submissions earlier grade) ∧
        Unreadable files submissions file failure := by
  induction several with
  | nil => simp [gradeFiles]
  | cons file rest ih =>
    simp only [gradeFiles_cons, bind_eq_error, grade_eq_ok_iff, grade_eq_error_iff, ih,
      reduceCtorEq, and_false, exists_false, or_false]
    constructor
    · rintro (now | ⟨grade, graded, before, later, after, rfl, fine, unreadable⟩)
      · exact ⟨[], file, rest, rfl, nofun, now⟩
      · refine ⟨file :: before, later, after, rfl, fun earlier member => ?_, unreadable⟩
        rcases List.mem_cons.1 member with rfl | member
        · exact ⟨grade, graded⟩
        · exact fine earlier member
    · rintro ⟨before, later, after, split, fine, unreadable⟩
      cases before with
      | nil =>
        obtain ⟨rfl, rfl⟩ := List.cons.inj split
        exact .inl unreadable
      | cons first before =>
        obtain ⟨rfl, rfl⟩ := List.cons.inj split
        obtain ⟨grade, graded⟩ := fine file List.mem_cons_self
        exact .inr ⟨grade, graded, before, later, after, rfl,
          fun earlier member => fine earlier (List.mem_cons_of_mem _ member), unreadable⟩

theorem Graded.readable (graded : Graded files submissions file grade) (tested : file.tests ≠ [])
    {submission : String} (submits : Submits file.path submissions submission) :
    ∃ text, files.Holds submission text := by
  cases graded with
  | missing absent => exact absurd submits (absent submission)
  | untested _ empty => exact absurd empty tested
  | tested first _ holds _ => exact first.unique submits ▸ ⟨_, holds⟩

theorem Unreadable.not_readable (unreadable : Unreadable files submissions file failure) :
    file.tests ≠ [] ∧ ∃ submission, Submits file.path submissions submission ∧
      ∀ text, ¬files.Holds submission text := by
  obtain ⟨submission, fault, submits, tested, fails, -⟩ := unreadable
  refine ⟨tested, submission, submits, fun text holds => ?_⟩
  rw [FileSystem.read_eq_ok_iff.2 holds] at fails
  cases fails

/-- A report is made just if the submissions that have to be run can be read. It has an entry
for each file of the criteria, in their order, and where there is none the first submission that
cannot be read is named. -/
theorem gradeSubmissions_faithful (files : FileSystem) (criteria : Criteria)
    (submissions : List String) :
    ((∃ report, (gradeSubmissions files criteria submissions).answer = .ok report) ↔
      ∀ file ∈ criteria.files, file.tests ≠ [] → ∀ submission,
        Submits file.path submissions submission → ∃ text, files.Holds submission text) ∧
    (∀ report, (gradeSubmissions files criteria submissions).answer = .ok report ↔
      report.assignmentName = criteria.assignmentName ∧
        List.Forall₂ (Graded files submissions) criteria.files report.files) ∧
    ∀ failure, (gradeSubmissions files criteria submissions).answer = .error failure ↔
      ∃ before file after, criteria.files = before ++ file :: after ∧
        (∀ earlier ∈ before, ∀ other, ¬Unreadable files submissions earlier other) ∧
        Unreadable files submissions file failure := by
  have answer : (gradeSubmissions files criteria submissions).answer =
      (gradeFiles files submissions criteria.files).answer >>= fun grades =>
        .ok ⟨criteria.assignmentName, grades⟩ := by
    simp [gradeSubmissions]
  refine ⟨⟨?_, fun readable => ?_⟩, fun report => ?_, fun failure => ?_⟩
  · rintro ⟨report, answered⟩ file member tested submission submits
    rw [answer, bind_eq_ok] at answered
    obtain ⟨grades, all, -⟩ := answered
    have fine : ∀ file ∈ criteria.files, ∃ grade, Graded files submissions file grade :=
      ((List.forall₂_and_left _ _).1 ((gradeFiles_eq_ok_iff.1 all).imp
        fun file grade graded => ⟨⟨grade, graded⟩, graded⟩)).1
    obtain ⟨grade, graded⟩ := fine file member
    exact graded.readable tested submits
  · cases all : (gradeFiles files submissions criteria.files).answer with
    | ok grades => exact ⟨_, answer.trans (by rw [all]; rfl)⟩
    | error failure =>
      obtain ⟨before, file, after, split, -, unreadable⟩ := gradeFiles_eq_error_iff.1 all
      obtain ⟨tested, submission, submits, without⟩ := unreadable.not_readable
      have member : file ∈ criteria.files := by simp [split]
      obtain ⟨text, holds⟩ := readable file member tested submission submits
      exact absurd holds (without text)
  · simp only [answer, bind_eq_ok, gradeFiles_eq_ok_iff, Except.ok.injEq]
    constructor
    · rintro ⟨grades, all, rfl⟩
      exact ⟨rfl, all⟩
    · rintro ⟨name, all⟩
      exact ⟨report.files, all, by rw [← name]⟩
  · have fine : ∀ file, (∃ grade, Graded files submissions file grade) ↔
        ∀ other, ¬Unreadable files submissions file other := by
      intro file
      constructor
      · rintro ⟨grade, graded⟩ other unreadable
        obtain ⟨tested, submission, submits, without⟩ := unreadable.not_readable
        obtain ⟨text, holds⟩ := graded.readable tested submits
        exact without text holds
      · intro readable
        exact (graded_or_unreadable files submissions file).resolve_right
          (not_exists.2 readable)
    simp [answer, bind_eq_error, gradeFiles_eq_error_iff, fine]

/-- Criteria of a file with a test and one without. -/
def Criteria.sample : Criteria :=
  ⟨"walks", [⟨"rules.txt", 10, [MapTest.plainTest]⟩, ⟨"notes.txt", 5, []⟩]⟩

theorem gradeSubmissions_faithful_sample :
    (∃ files, (∀ path, FileSystem.Holds files path "0 *") ∧
      (gradeSubmissions files .sample ["home/rules.txt"]).answer =
        .ok ⟨"walks", [⟨"rules.txt", 10, [⟨10, "walk", ["syntax error on line 0"]⟩]⟩,
          ⟨"notes.txt", 5, [⟨5, "notes.txt", ["file not submitted"]⟩]⟩]⟩) ∧
    ∃ files, (∀ path, FileSystem.read files path = .error .notFound) ∧
      (gradeSubmissions files .sample ["home/rules.txt"]).answer =
        .error (unread "home/rules.txt" .notFound) := by
  have submits : Submits "rules.txt" ["home/rules.txt"] "home/rules.txt" :=
    ⟨"rules.txt".toList, [], [], by decide, rfl, by decide, nofun⟩
  have others : ∀ submission, ¬Submits "notes.txt" ["home/rules.txt"] submission :=
    findSubmission_eq_none_iff.1 (by decide)
  have failed : RuleTable.compileSource "0 *" = .error (.unreadableLine 0) := by decide +kernel
  have yields : Yields [MapTest.plainTest] "0 *" [⟨10, "walk", ["syntax error on line 0"]⟩] :=
    ⟨[some ⟨10, "walk", ["syntax error on line 0"]⟩],
      congrArg (fun answer => [answer])
        (MapTest.evaluate_of_fault (MapTest.trial_of_fault failed) trivial), rfl⟩
  refine ⟨⟨⟨fun _ => .ok "0 *".toByteArray, fun _ => true⟩, fun _ => rfl, ?_⟩,
    ⟨fun _ => .error .notFound, fun _ => false⟩, fun _ => rfl, ?_⟩
  · refine ((gradeSubmissions_faithful _ _ _).2.1 _).2 ⟨rfl, .cons ?_ (.cons ?_ .nil)⟩
    · exact .tested submits (List.cons_ne_nil _ _) rfl yields
    · exact .missing others
  · exact ((gradeSubmissions_faithful _ _ _).2.2 _).2
      ⟨[], _, _, rfl, nofun, "home/rules.txt", .notFound, submits, List.cons_ne_nil _ _, rfl, rfl⟩

end MazeGrader
