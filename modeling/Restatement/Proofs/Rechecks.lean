import Restatement.Proofs.Attribution

/-!
Checking a file again costs nothing. The first check leaves the classified comments of the file
behind, and its line index if some comment was up for judgement. Whatever is asked of the caches
while the file is in use keeps both, so that every later check reads them and touches nothing else.
-/

namespace Restatement

namespace OwnerTable

variable {ω ν : Type} [DecidableEq ω]

theorem get_set_same (table : OwnerTable ω ν) (identity : ω) (value : ν) :
    (table.set (.tracked identity) value).get? (.tracked identity) = some value := by
  have absent : (table.erase (.tracked identity)).entries.lookup identity = none := by
    rw [List.lookup_eq_none_iff]
    intro entry member
    have other : entry.1 ≠ identity := of_decide_eq_true (List.mem_filter.mp member).2
    exact bne_iff_ne.mpr other.symm
  simp [set, get?, List.lookup_append, absent]

theorem get_erase_other (table : OwnerTable ω ν) (identity other : ω) (differ : identity ≠ other) :
    (table.erase (.tracked other)).get? (.tracked identity) = table.get? (.tracked identity) := by
  simp only [erase, get?]
  induction table.entries with
  | nil => rfl
  | cons entry rest ih =>
      obtain ⟨owner, value⟩ := entry
      by_cases same : owner = other
      · have missed : (identity == owner) = false := by simpa [same] using differ
        rw [List.filter_cons_of_neg (by simpa using same), List.lookup_cons, missed, ih]
      · rw [List.filter_cons_of_pos (by simpa using same), List.lookup_cons, List.lookup_cons, ih]

theorem get_set_other (table : OwnerTable ω ν) (identity other : ω) (value : ν)
    (differ : identity ≠ other) :
    (table.set (.tracked other) value).get? (.tracked identity) =
      table.get? (.tracked identity) := by
  have missed : (identity == other) = false := by simpa using differ
  rw [← table.get_erase_other identity other differ]
  simp [set, get?, List.lookup_append, List.lookup_cons, missed]

end OwnerTable

/-- What is known of a file stays known. -/
structure Caches.Keeps (file : ParsedFile) (before after : Caches) : Prop where
  classified : ∀ known, before.classified.get? (.tracked file) = some known →
    after.classified.get? (.tracked file) = some known
  indexes : ∀ index, before.indexes.get? (.tracked file) = some index →
    after.indexes.get? (.tracked file) = some index

structure Caches.SameTables (before after : Caches) : Prop where
  classified : after.classified = before.classified
  indexes : after.indexes = before.indexes

namespace Caches

theorem SameTables.keeps {before after : Caches} (same : SameTables before after)
    (file : ParsedFile) : Keeps file before after :=
  ⟨fun _ held => same.classified ▸ held, fun _ held => same.indexes ▸ held⟩

theorem SameTables.trans {before middle after : Caches} (first : SameTables before middle)
    (second : SameTables middle after) : SameTables before after :=
  ⟨second.classified.trans first.classified, second.indexes.trans first.indexes⟩

theorem Keeps.refl (file : ParsedFile) (caches : Caches) : Keeps file caches caches :=
  ⟨fun _ held => held, fun _ held => held⟩

theorem Keeps.trans {file : ParsedFile} {before middle after : Caches}
    (first : Keeps file before middle) (second : Keeps file middle after) :
    Keeps file before after :=
  ⟨fun known held => second.classified known (first.classified known held),
    fun index held => second.indexes index (first.indexes index held)⟩

theorem compile_tables [CharacterNames] (caches : Caches) (source : Text) (flags : Nat) :
    SameTables caches (caches.compile source flags).caches := by
  simp only [compile]
  cases caches.patterns.get (source, flags) with
  | mk found patterns =>
      cases found with
      | some compiled => exact ⟨rfl, rfl⟩
      | none => cases CompiledPattern.compile source flags <;> exact ⟨rfl, rfl⟩

theorem addPatterns_tables [CharacterNames] (caches : Caches) (rule : Rule) (sources : List Text) :
    SameTables caches (Rule.addPatterns caches rule sources).caches := by
  induction sources generalizing caches rule with
  | nil => exact ⟨rfl, rfl⟩
  | cons source rest ih =>
      have first := caches.compile_tables source 0
      simp only [Rule.addPatterns]
      cases (caches.compile source 0).value with
      | error limit => exact first
      | ok pattern => exact first.trans (ih _ (rule.addPattern pattern).1)

theorem classify_tables (caches : Caches) (comment : Comment) :
    SameTables caches (caches.classify comment).caches := by
  simp only [classify]
  cases caches.remarks.get (comment.kind, comment.body) with
  | mk found remarks => cases found <;> exact ⟨rfl, rfl⟩

theorem classifyEach_tables (caches : Caches) (comments : List Comment) :
    SameTables caches (caches.classifyEach comments).caches := by
  induction comments generalizing caches with
  | nil => exact ⟨rfl, rfl⟩
  | cons comment rest ih =>
      exact (caches.classify_tables comment).trans (ih (caches.classify comment).caches)

theorem ne_of_held {ν : Type} (table : OwnerTable ParsedFile ν) (file other : ParsedFile)
    (value : ν) (held : table.get? (.tracked file) = some value)
    (absent : table.get? (.tracked other) = none) : file ≠ other := by
  rintro rfl
  rw [absent] at held
  cases held

theorem classifyFile_keeps (caches : Caches) (file other : ParsedFile) :
    Keeps file caches (caches.classifyFile other).caches := by
  unfold classifyFile
  cases found : caches.classified.get? (.tracked other) with
  | some known => exact .refl file caches
  | none =>
      have tables := caches.classifyEach_tables other.comments
      refine ⟨?_, fun _ held => tables.indexes ▸ held⟩
      intro known held
      have differ := ne_of_held _ file other known held found
      rw [OwnerTable.get_set_other _ _ _ _ differ, tables.classified, held]

theorem indexFile_keeps (caches : Caches) (file other : ParsedFile) :
    Keeps file caches (caches.indexFile other).caches := by
  unfold indexFile
  cases found : caches.indexes.get? (.tracked other) with
  | some index => exact .refl file caches
  | none =>
      refine ⟨fun _ held => held, ?_⟩
      intro index held
      have differ := ne_of_held _ file other index held found
      rw [OwnerTable.get_set_other _ _ _ _ differ, held]

theorem check_keeps (caches : Caches) (rule : Rule) (file other : ParsedFile) :
    Keeps file caches (rule.check caches other).caches := by
  have classified := caches.classifyFile_keeps file other
  simp only [Rule.check]
  split
  · exact classified
  · exact classified.trans (indexFile_keeps _ file other)

theorem release_keeps (caches : Caches) (file other : ParsedFile) (differ : file ≠ other) :
    Keeps file caches (caches.release other) := by
  constructor
  · intro known held
    rw [release, OwnerTable.get_erase_other _ _ _ differ, held]
  · intro index held
    rw [release, OwnerTable.get_erase_other _ _ _ differ, held]

/-- Only releasing a file makes what is known of it forgotten. -/
theorem serve_keeps [CharacterNames] (caches : Caches) (file : ParsedFile) (request : Request)
    (inUse : request ≠ .release file) : Keeps file caches (caches.serve request) := by
  cases request with
  | create settings thresholds =>
      exact (caches.addPatterns_tables _ settings.ignorePatterns).keeps file
  | check rule other => exact caches.check_keeps rule file other
  | classify comment => exact (caches.classify_tables comment).keeps file
  | classifyFile other => exact caches.classifyFile_keeps file other
  | indexFile other => exact caches.indexFile_keeps file other
  | compile source flags => exact (caches.compile_tables source flags).keeps file
  | clear =>
      have cleared : SameTables caches caches.clear := ⟨rfl, rfl⟩
      exact cleared.keeps file
  | release other =>
      apply caches.release_keeps file other
      rintro rfl
      exact inUse rfl

theorem serveAll_keeps [CharacterNames] (caches : Caches) (file : ParsedFile)
    (requests : List Request) (inUse : ∀ request ∈ requests, request ≠ .release file) :
    Keeps file caches (caches.serveAll requests) := by
  induction requests generalizing caches with
  | nil => exact .refl file caches
  | cons request rest ih =>
      obtain ⟨here, later⟩ := List.forall_mem_cons.mp inUse
      exact (caches.serve_keeps file request here).trans (ih (caches.serve request) later)

end Caches

/-- A comment passes the filters: the category of the comment, documentation blocks, directives, the
wording of the first line, the ignore patterns, and the place of the comment. -/
structure Rule.Passes (rule : Rule) (comment : Comment) (classification : Classification) :
    Prop where
  category : classification.isSkipped rule.settings.policy = false
  docBlock : classification.isDocBlock = false
  directive : classification.isDirective = false
  wording : Wording.isExempt comment.firstLine = false
  ignored : ∀ pattern ∈ rule.patterns, pattern.search comment.firstLine = false
  trailing : comment.trailing = true → rule.settings.checkTrailing = true
  leading : comment.trailing = false → rule.settings.checkLeading = true

theorem Rule.examines_iff (rule : Rule) (comment : Comment) (classification : Classification) :
    rule.examines (comment, classification) = true ↔ rule.Passes comment classification := by
  have place : rule.checksPlace comment = true ↔
      (comment.trailing = true → rule.settings.checkTrailing = true) ∧
        (comment.trailing = false → rule.settings.checkLeading = true) := by
    rw [checksPlace]
    cases comment.trailing <;> simp
  simp only [examines, Bool.and_eq_true, Bool.not_eq_true', place, ignores, List.any_eq_false,
    Bool.not_eq_true]
  constructor
  · rintro ⟨⟨⟨⟨⟨category, docBlock⟩, directive⟩, wording⟩, ignored⟩, trailing, leading⟩
    exact ⟨category, docBlock, directive, wording, ignored, trailing, leading⟩
  · intro passes
    exact ⟨⟨⟨⟨⟨passes.category, passes.docBlock⟩, passes.directive⟩, passes.wording⟩,
      passes.ignored⟩, passes.trailing, passes.leading⟩

namespace Rule

def judged (rule : Rule) (known : List Classified) (index : LineIndex) : List Finding :=
  (known.filter rule.examines).filterMap (rule.judge? index)

/-- A check that has to find everything out itself. -/
structure Learns (rule : Rule) (caches : Caches) (file : ParsedFile)
    (result : Logged (List Finding)) : Prop where
  found : result.value =
    rule.judged (caches.classifyEach file.comments).value (LineIndex.ofOutline file.outline)
  classified : result.caches.classified.get? (.tracked file) =
    some (caches.classifyEach file.comments).value
  indexed : result.caches.indexes.get? (.tracked file) =
    if (caches.classifyEach file.comments).value.any rule.examines then
      some (LineIndex.ofOutline file.outline)
    else none

theorem check_learns (rule : Rule) (caches : Caches) (file : ParsedFile)
    (unclassified : caches.classified.get? (.tracked file) = none)
    (unindexed : caches.indexes.get? (.tracked file) = none) :
    rule.Learns caches file (rule.check caches file) := by
  have tables := caches.classifyEach_tables file.comments
  have absent : (caches.classifyEach file.comments).caches.indexes.get? (.tracked file) = none := by
    rw [tables.indexes, unindexed]
  simp only [check, Caches.classifyFile, unclassified]
  split
  case isTrue empty =>
      rw [List.isEmpty_iff] at empty
      have none_passed :
          ((caches.classifyEach file.comments).value.any rule.examines) = false := by
        rw [List.any_eq_false]
        exact List.filter_eq_nil_iff.mp empty
      refine ⟨?_, OwnerTable.get_set_same _ _ _, ?_⟩
      · rw [judged, empty]
        rfl
      · rw [none_passed]
        exact absent
  case isFalse some_passed =>
      have passed : ((caches.classifyEach file.comments).value.any rule.examines) = true := by
        rw [List.any_eq_true]
        simpa using some_passed
      simp only [Caches.indexFile, absent]
      refine ⟨rfl, OwnerTable.get_set_same _ _ _, ?_⟩
      rw [passed]
      exact OwnerTable.get_set_same _ _ _

theorem check_known (rule : Rule) (caches : Caches) (file : ParsedFile) (known : List Classified)
    (index : LineIndex) (held : caches.classified.get? (.tracked file) = some known)
    (indexed : known.any rule.examines = true →
      caches.indexes.get? (.tracked file) = some index) :
    (rule.check caches file).value = rule.judged known index ∧
      (rule.check caches file).caches = caches := by
  simp only [check, Caches.classifyFile, held]
  split
  case isTrue empty =>
      rw [List.isEmpty_iff] at empty
      rw [judged, empty]
      exact ⟨rfl, rfl⟩
  case isFalse some_passed =>
      have passed : known.any rule.examines = true := by
        rw [List.any_eq_true]
        simpa using some_passed
      simp only [Caches.indexFile, indexed passed, and_true]
      rfl

end Rule

/-- The first check of a file that is not known yet, in any state of the caches, leaves the
classified comments of the file behind, and its line index just when some comment passed the
filters; in a state that requests led to, comments are classified as they are by themselves. Later,
whatever is asked while the file is in use, the rule finds the same in it and leaves the caches
exactly as they were. -/
theorem recheck_is_free [CharacterNames] (caches : Caches) (rule : Rule) (file : ParsedFile)
    (unclassified : caches.classified.contains (.tracked file) = false)
    (unindexed : caches.indexes.contains (.tracked file) = false) :
    let first := rule.check caches file
    let indexed := first.caches.indexes.contains (.tracked file) = true
    first.caches.classified.contains (.tracked file) = true ∧
    (indexed ↔ ∃ classified ∈ (caches.classifyEach file.comments).value,
      rule.Passes classified.1 classified.2) ∧
    (∀ past : Past, caches = past.caches →
      (indexed ↔ ∃ comment ∈ file.comments, rule.Passes comment comment.classify)) ∧
    ∀ between, (∀ request ∈ between, request ≠ .release file) →
      let later := first.caches.serveAll between
      (rule.check later file).value = first.value ∧ (rule.check later file).caches = later := by
  intro first indexed
  have learns : rule.Learns caches file first := by
    apply rule.check_learns caches file
    · simpa [OwnerTable.contains] using unclassified
    · simpa [OwnerTable.contains] using unindexed
  have passed : indexed ↔ ∃ classified ∈ (caches.classifyEach file.comments).value,
      rule.Passes classified.1 classified.2 := by
    simp only [indexed, OwnerTable.contains, learns.indexed, ← rule.examines_iff]
    rw [← List.any_eq_true]
    split
    case isTrue holds => simp [holds]
    case isFalse fails => simp [fails]
  refine ⟨?_, passed, ?_, ?_⟩
  · rw [OwnerTable.contains, learns.classified]
    rfl
  · intro past same
    have given := caches.classifyEach_gives (same ▸ past.caches_faithful) file.comments
    rw [passed, given.value]
    constructor
    · rintro ⟨_, member, passes⟩
      obtain ⟨comment, present, rfl⟩ := List.mem_map.mp member
      exact ⟨comment, present, passes⟩
    · rintro ⟨comment, present, passes⟩
      exact ⟨_, List.mem_map_of_mem present, passes⟩
  · intro between inUse later
    have keeps := first.caches.serveAll_keeps file between inUse
    have again := rule.check_known later file _ (LineIndex.ofOutline file.outline)
      (keeps.classified _ learns.classified) (by
        intro some_passed
        apply keeps.indexes
        rw [learns.indexed, if_pos some_passed])
    exact ⟨again.1.trans learns.found.symm, again.2⟩

theorem recheck_is_free_after_clear :
    let _ : CharacterNames := .none
    let comment : Comment := ⟨⟨1, 0, 1, 12, 0, 12⟩, .line, " return", false⟩
    let file := ParsedFile.returning [comment]
    let other := { file with serial := 1, comments := [{ comment with body := " exit" }] }
    let rule : Rule := ⟨{}, {}, [], []⟩
    let past : Past := ⟨⟨1, by decide⟩, ⟨1, by decide⟩, []⟩
    let first := rule.check past.caches file
    let later := first.caches.serveAll [.clear, .check rule other]
    past.caches.classified.contains (.tracked file) = false ∧
      past.caches.indexes.contains (.tracked file) = false ∧
      rule.Passes comment comment.classify ∧
      first.caches.indexes.contains (.tracked file) = true ∧
      first.value = [⟨.warning, comment.span, "return", .return⟩] ∧
      (rule.check later file).value = first.value ∧ (rule.check later file).caches = later := by
  intro _ comment file other rule past first later
  have unknown : past.caches.classified.contains (.tracked file) = false ∧
      past.caches.indexes.contains (.tracked file) = false := ⟨rfl, rfl⟩
  have passes : rule.Passes comment comment.classify :=
    (rule.examines_iff comment comment.classify).mp (by decide +kernel)
  obtain ⟨_, _, lazily, again⟩ := recheck_is_free past.caches rule file unknown.1 unknown.2
  have indexed : first.caches.indexes.contains (.tracked file) = true :=
    (lazily past rfl).mpr ⟨comment, List.mem_cons_self, passes⟩
  have inUse : ∀ request ∈ [Request.clear, .check rule other], request ≠ .release file := by
    simp
  exact ⟨unknown.1, unknown.2, passes, indexed, by decide +kernel, again _ inUse⟩

end Restatement
