import MazeGrader.Assignment.Criteria
import MazeGrader.Proofs.Assignment.Verdict
import MazeGrader.Proofs.Json.ReadBack

/-! Criteria that were loaded and are written back. What is written loads again in the same
setting, and comes to the same criteria, however the thresholds and starts were written at
first. -/
namespace MazeGrader

theorem StartPosition.read_text {source : String} {start : Nat × Nat}
    (found : read source = .ok start) : read (text start) = .ok start := by
  unfold read at found
  split at found
  · next position sought =>
    cases found
    obtain ⟨rowFits, colFits⟩ := find?_lt sought
    rw [read, ofText?_text rowFits colFits]
  · cases found

/-! ### Tests -/

namespace MapTestDescriptor

/-- Every deduction is a finite double. -/
structure Finite (descriptor : MapTestDescriptor) : Prop where
  deductions : descriptor.deductions.Finite
  error : descriptor.errorDeduction.isFinite = true

theorem finite_of_decode {members : List (String × Json)} (finite : (Json.object members).Finite)
    {descriptor : MapTestDescriptor}
    (read : record.decode (.ofJson (.object members)) = .ok descriptor) : descriptor.Finite := by
  have parts : ∀ member ∈ members, member.2.Finite := by
    cases finite with
    | object parts => exact parts
  have blank : record.blank.Finite := ⟨nofun, rfl⟩
  refine Json.Record.decode_object_invariant ?_ blank read
  intro field listed member inside partly next kept set
  simp only [record, List.mem_cons, List.not_mem_nil, or_false] at listed
  rcases listed with rfl | rfl | rfl | rfl | rfl <;>
    obtain ⟨value, decoded, same⟩ := bind_eq_ok.1 set <;> cases same
  · exact ⟨kept.deductions, kept.error⟩
  · exact ⟨CoverageTable.finite_of_decode (parts member inside) decoded, kept.error⟩
  · exact ⟨kept.deductions, (parts member inside).decodeFloat decoded⟩
  · exact ⟨kept.deductions, kept.error⟩
  · exact ⟨kept.deductions, kept.error⟩

end MapTestDescriptor

namespace MapTest

variable {setting : TestSetting} {test : MapTest}

theorem toJson_eq (test : MapTest) : test.toJson = .object [
    ("deductions", test.grader.table.toJson), ("description", .string test.grader.description),
    ("error_deduction", .ofFloat test.grader.errorDeduction), ("map", .string test.map),
    ("start", .string (StartPosition.text test.start)), ("type", .string kind)] := by
  simp only [toJson, MapTestDescriptor.toJson, descriptor, Json.ofMembers, Json.insert,
    Entries.ofPairs, Entries.insert, Entries.update, List.foldl_cons, List.foldl_nil,
    String.reduceLT, if_true, if_false]

theorem decode_toJson (finite : test.descriptor.Finite) :
    MapTestDescriptor.record.decode (.ofJson test.toJson) = .ok test.descriptor := by
  have deductions : CoverageTable.decode (.ofJson test.grader.table.toJson) =
      .ok test.grader.table := CoverageTable.decode_toJson finite.deductions
  have error : Json.decodeFloat (.ofJson (.ofFloat test.grader.errorDeduction)) =
      .ok test.grader.errorDeduction := Json.decodeFloat_ofFloat finite.error
  have text : ∀ source : String, Json.decodeString (.ofJson (.string source)) = .ok source :=
    fun _ => rfl
  rw [toJson_eq, Json.Draft.ofJson]
  simp only [Json.Record.decode, Json.draftMembers]
  -- The fields come in ascending order of name, and the kind of the test is none of them.
  rw [Json.readFields_field (by rfl) (by rfl) (by exact bind_eq_ok.2 ⟨_, deductions, rfl⟩),
    Json.readFields_field (by rfl) (by rfl) (by exact bind_eq_ok.2 ⟨_, text _, rfl⟩),
    Json.readFields_field (by rfl) (by rfl) (by exact bind_eq_ok.2 ⟨_, error, rfl⟩),
    Json.readFields_field (by rfl) (by rfl) (by exact bind_eq_ok.2 ⟨_, text _, rfl⟩),
    Json.readFields_field (by rfl) (by rfl) (by exact bind_eq_ok.2 ⟨_, text _, rfl⟩),
    Json.readFields_other (by rfl) (by rfl)]
  rfl

/-- What is written of a test that was loaded loads as that test. -/
theorem load_descriptor {descriptor : MapTestDescriptor}
    (loaded : load descriptor setting = .ok test) : load test.descriptor setting = .ok test := by
  obtain ⟨filled, isFile, map, start, grader, name, cap⟩ := load_eq_ok_iff.1 loaded
  refine load_eq_ok_iff.2 ⟨?_, ?_, ?_, StartPosition.read_text start, rfl, rfl, cap⟩
  · show test.grader.table.isEmpty = false
    rw [grader]
    exact filled
  · show setting.files.isFile (Path.join setting.mapDirectory test.map) = true
    rw [name]
    exact isFile
  · show Grid.load setting.files (Path.join setting.mapDirectory test.map) = .ok test.grid
    rw [name]
    exact map

theorem finite_of_load {descriptor : MapTestDescriptor} (finite : descriptor.Finite)
    (loaded : load descriptor setting = .ok test) : test.descriptor.Finite := by
  obtain ⟨-, -, -, -, grader, -, -⟩ := load_eq_ok_iff.1 loaded
  refine ⟨?_, ?_⟩
  · show test.grader.table.Finite
    rw [grader]
    exact finite.deductions
  · show test.grader.errorDeduction.isFinite = true
    rw [grader]
    exact finite.error

theorem ofJson_eq_ok_iff {json : Json} : ofJson json setting = .ok test ↔
    ∃ descriptor, MapTestDescriptor.record.decode (.ofJson json) = .ok descriptor ∧
      load descriptor setting = .ok test := by
  simp only [ofJson, bind_eq_ok, inContext_eq_ok, giveUp_eq_ok]

end MapTest

/-- The only tests there are by default are map tests of rule files. -/
theorem Registry.find?_withDefaults (testKind : String) :
    withDefaults.find? ruleFileKind testKind =
      if testKind = MapTest.kind then some MapTest.ofJson else none := by
  by_cases same : testKind = MapTest.kind
  · rw [if_pos same, same]
    rfl
  · have apart : MapTest.kind ≠ testKind := Ne.symm same
    simp [withDefaults, register, empty, find?, same, apart]

theorem Registry.build_withDefaults_eq_ok_iff {json : Json} {setting : TestSetting}
    {test : MapTest} : withDefaults.build ruleFileKind json setting = .ok test ↔
      (json.member? "type").bind Json.string? = some MapTest.kind ∧
        MapTest.ofJson json setting = .ok test := by
  unfold build
  cases kind : (json.member? "type").bind Json.string? with
  | none => simp
  | some testKind =>
    by_cases same : testKind = MapTest.kind
    · simp [find?_withDefaults, same]
    · simp [find?_withDefaults, same]

/-- What is written of a test that was built builds as that test. -/
theorem Registry.build_toJson {json : Json} (finite : json.Finite) {setting : TestSetting}
    {test : MapTest} (built : withDefaults.build ruleFileKind json setting = .ok test) :
    withDefaults.build ruleFileKind test.toJson setting = .ok test := by
  rw [build_withDefaults_eq_ok_iff] at built ⊢
  obtain ⟨kind, read⟩ := built
  obtain ⟨descriptor, decoded, loaded⟩ := MapTest.ofJson_eq_ok_iff.1 read
  -- Only objects have a member that tells their kind.
  cases json with
  | object members =>
    have written :=
      MapTest.finite_of_load (MapTestDescriptor.finite_of_decode finite decoded) loaded
    refine ⟨?_, MapTest.ofJson_eq_ok_iff.2
      ⟨_, MapTest.decode_toJson written, MapTest.load_descriptor loaded⟩⟩
    rw [MapTest.toJson_eq]
    rfl
  | null | bool | number | string | array => cases kind

/-! ### Files and criteria -/

/-- A list is loaded if each of its items is, and comes to their values in order. -/
theorem mapM_eq_ok_iff {load : α → Except ε β} {items : List α} {values : List β} :
    items.mapM load = .ok values ↔
      List.Forall₂ (fun item value => load item = .ok value) items values := by
  induction items generalizing values with
  | nil =>
    rw [List.forall₂_nil_left_iff, List.mapM_nil]
    exact ⟨fun same => (Except.ok.inj same).symm, fun empty => empty ▸ rfl⟩
  | cons item rest ih =>
    rw [List.mapM_cons, bind_eq_ok, List.forall₂_cons_left_iff]
    constructor
    · rintro ⟨value, first, loaded⟩
      obtain ⟨others, later, same⟩ := bind_eq_ok.1 loaded
      cases same
      exact ⟨value, others, first, ih.1 later, rfl⟩
    · rintro ⟨value, others, first, later, rfl⟩
      exact ⟨value, first, bind_eq_ok.2 ⟨others, ih.2 later, rfl⟩⟩

/-- What holds of all that items are related to holds of all values. -/
theorem forall_mem_of_forall₂ {related : α → β → Prop} {holds : β → Prop} {items : List α}
    {values : List β} (all : List.Forall₂ related items values)
    (each : ∀ item ∈ items, ∀ value, related item value → holds value) :
    ∀ value ∈ values, holds value := by
  have placed := (List.forall₂_and_left items values).2 ⟨fun item member => member, all⟩
  have turned : List.Forall₂ (fun value item => holds value ∧ related item value) values items :=
    (placed.imp fun item value here => ⟨each item here.1 value here.2, here.2⟩).flip
  exact ((List.forall₂_and_left values items).1 turned).1

/-- A list is loaded again from what is written of its values if each of them is. -/
theorem mapM_map_eq_ok {load : α → Except ε β} {write : β → α} {items : List α} {values : List β}
    (again : ∀ item ∈ items, ∀ value, load item = .ok value → load (write value) = .ok value)
    (loaded : items.mapM load = .ok values) : (values.map write).mapM load = .ok values := by
  rw [mapM_eq_ok_iff, List.forall₂_map_left_iff, List.forall₂_same]
  exact forall_mem_of_forall₂ (mapM_eq_ok_iff.1 loaded) again

variable {registry : Registry} {setting : TestSetting}

theorem buildTests_eq_mapM (tests : List Json) : buildTests registry setting tests =
    tests.mapM fun json => registry.build ruleFileKind json setting := by
  induction tests with
  | nil => rfl
  | cons json rest ih => rw [buildTests, ih, List.mapM_cons]

namespace GradedFile

theorem ofDescriptors_eq_mapM (descriptors : List FileDescriptor) :
    ofDescriptors registry setting descriptors =
      descriptors.mapM (ofDescriptor registry setting) := by
  induction descriptors with
  | nil => rfl
  | cons descriptor rest ih => rw [ofDescriptors, ih, List.mapM_cons]

theorem ofDescriptor_eq_ok_iff {descriptor : FileDescriptor}
    {file : GradedFile} : ofDescriptor registry setting descriptor = .ok file ↔
      descriptor.kind = ruleFileKind ∧
        buildTests registry setting descriptor.tests = .ok file.tests ∧
        file.path = descriptor.path ∧ file.pointValue = descriptor.pointValue := by
  unfold ofDescriptor
  by_cases kind : descriptor.kind = ruleFileKind
  · obtain ⟨path, pointValue, tests⟩ := file
    simp only [kind, if_true, bind_eq_ok, inContext_eq_ok, true_and]
    constructor
    · rintro ⟨built, loaded, same⟩
      cases same
      exact ⟨loaded, rfl, rfl⟩
    · rintro ⟨loaded, rfl, rfl⟩
      exact ⟨tests, loaded, rfl⟩
  · simp [kind]

/-- What is written of a file that was loaded loads as that file. -/
theorem ofDescriptor_descriptor {descriptor : FileDescriptor}
    (finite : ∀ json ∈ descriptor.tests, json.Finite) {file : GradedFile}
    (loaded : ofDescriptor .withDefaults setting descriptor = .ok file) :
    ofDescriptor .withDefaults setting file.descriptor = .ok file := by
  obtain ⟨-, tests, -, -⟩ := ofDescriptor_eq_ok_iff.1 loaded
  rw [buildTests_eq_mapM] at tests
  refine ofDescriptor_eq_ok_iff.2 ⟨rfl, ?_, rfl, rfl⟩
  rw [buildTests_eq_mapM]
  exact mapM_map_eq_ok (fun json member _ => Registry.build_toJson (finite json member)) tests

end GradedFile

namespace Criteria

/-- Criteria that were loaded are written so that they load again, as the same criteria. -/
theorem loads_as_written {document : CriteriaDescriptor} {criteria : Criteria}
    (finite : ∀ file ∈ document.files, ∀ json ∈ file.tests, json.Finite)
    (loaded : ofDescriptor .withDefaults setting document = .ok criteria) :
    ∃ again, ofDescriptor .withDefaults setting criteria.descriptor = .ok again ∧
      again = criteria ∧ again.descriptor = criteria.descriptor := by
  obtain ⟨files, filesLoaded, same⟩ := bind_eq_ok.1 loaded
  cases same
  rw [GradedFile.ofDescriptors_eq_mapM] at filesLoaded
  have filesAgain := mapM_map_eq_ok
    (fun file member _ => GradedFile.ofDescriptor_descriptor (finite file member)) filesLoaded
  refine ⟨_, ?_, rfl, rfl⟩
  rw [ofDescriptor, descriptor, GradedFile.ofDescriptors_eq_mapM, filesAgain]
  rfl

/-- A test of three thresholds, one of them written in two ways, and a start in free text. -/
def spelledTest : Json := .object [
  ("deductions", .object [(" 3/4 ", .number (.int 5)), ("0.5", .number (.real 7.5)),
    ("1", .number (.int 0)), ("6/8", .number (.int 4))]),
  ("description", .string "walk"), ("error_deduction", .number (.int 10)),
  ("map", .string "plain.txt"), ("start", .string "start at [1, 1]"), ("type", .string "map")]

def spelled : CriteriaDescriptor :=
  ⟨"walks", [⟨"rules.txt", ruleFileKind, 10, [spelledTest]⟩, ⟨"notes.txt", ruleFileKind, 5, []⟩]⟩

theorem finite_spelledTest : spelledTest.Finite := by
  refine .object fun member inside => ?_
  simp only [List.mem_cons, List.not_mem_nil, or_false] at inside
  rcases inside with rfl | rfl | rfl | rfl | rfl | rfl
  · refine .object fun threshold inside => ?_
    simp only [List.mem_cons, List.not_mem_nil, or_false] at inside
    rcases inside with rfl | rfl | rfl | rfl <;> exact .number rfl
  · exact .string
  · exact .number rfl
  · exact .string
  · exact .string
  · exact .string

theorem decode_spelledTest : ∃ descriptor,
    MapTestDescriptor.record.decode (.ofJson spelledTest) = .ok descriptor ∧
      descriptor.deductions.toTexts.map (·.1) = ["1", "1/2", "3/4"] ∧
      descriptor.deductions.isEmpty = false ∧
      StartPosition.ofText? descriptor.start = some (1, 1) := by
  have evaluated : (match MapTestDescriptor.record.decode (.ofJson spelledTest) with
      | .ok descriptor => decide (descriptor.deductions.toTexts.map (·.1) = ["1", "1/2", "3/4"] ∧
          descriptor.deductions.isEmpty = false ∧
          StartPosition.ofText? descriptor.start = some (1, 1))
      | .error _ => false) = true := by
    decide +kernel
  split at evaluated
  · next descriptor decoded => exact ⟨descriptor, decoded, of_decide_eq_true evaluated⟩
  · cases evaluated

theorem loads_as_written_spelled :
    (∀ file ∈ spelled.files, ∀ json ∈ file.tests, json.Finite) ∧
    ∃ criteria, ofDescriptor .withDefaults MapTest.plainSetting spelled = .ok criteria ∧
      (criteria.files.map fun file => file.tests.map fun test =>
        (test.grader.table.toTexts.map (·.1), test.descriptor.start)) =
          [[(["1", "1/2", "3/4"], "(1, 1)")], []] ∧
      ∃ again, ofDescriptor .withDefaults MapTest.plainSetting criteria.descriptor = .ok again ∧
        again = criteria ∧ again.descriptor = criteria.descriptor := by
  have finite : ∀ file ∈ spelled.files, ∀ json ∈ file.tests, json.Finite := by
    simp [spelled, finite_spelledTest]
  obtain ⟨descriptor, decoded, texts, filled, start⟩ := decode_spelledTest
  let test : MapTest :=
    { grader := ⟨descriptor.description, descriptor.deductions, descriptor.errorDeduction⟩
      map := descriptor.map, grid := ⟨List.replicate 25 (List.replicate 25 .clear)⟩
      start := (1, 1), stepCap := none, startClear := by decide }
  have loadedTest : MapTest.load descriptor MapTest.plainSetting = .ok test := by
    refine MapTest.load_eq_ok_iff.2 ⟨filled, rfl, ?_, ?_, rfl, rfl, rfl⟩
    · exact Grid.load_eq_ok (FileSystem.read_of_content rfl) Grid.parse_plain
    · rw [StartPosition.read, start]
  have built : Registry.withDefaults.build ruleFileKind spelledTest MapTest.plainSetting =
      .ok test :=
    Registry.build_withDefaults_eq_ok_iff.2
      ⟨rfl, MapTest.ofJson_eq_ok_iff.2 ⟨descriptor, decoded, loadedTest⟩⟩
  have loaded : ofDescriptor .withDefaults MapTest.plainSetting spelled =
      .ok ⟨"walks", [⟨"rules.txt", 10, [test]⟩, ⟨"notes.txt", 5, []⟩]⟩ := by
    have first : GradedFile.ofDescriptor .withDefaults MapTest.plainSetting
        ⟨"rules.txt", ruleFileKind, 10, [spelledTest]⟩ = .ok ⟨"rules.txt", 10, [test]⟩ := by
      refine GradedFile.ofDescriptor_eq_ok_iff.2 ⟨rfl, ?_, rfl, rfl⟩
      rw [buildTests, built]
      rfl
    simp only [ofDescriptor, spelled, GradedFile.ofDescriptors, first]
    rfl
  refine ⟨finite, _, loaded, ?_, loads_as_written finite loaded⟩
  show [[(descriptor.deductions.toTexts.map (·.1), StartPosition.text (1, 1))], []] = _
  rw [texts]
  rfl

end Criteria

end MazeGrader
