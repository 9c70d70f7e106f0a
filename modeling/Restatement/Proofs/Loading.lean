import Restatement.Proofs.LastTouch
import Restatement.Proofs.Precedence
import Restatement.Proofs.Verdict

/-!
How loading settings ends, through any lawful library. Values that do not pass are told of as
faults, and settings that load have sizes with which stores can be made. What the library raises
while it gathers values is not told of, and a variable of a structured field that holds no JSON
makes it raise. The standard library is lawful, and for it the ends are spelled out.
-/

namespace Restatement

theorem Capacity.ofInt_of_positive (size : Int) (positive : 0 < size) :
    ∃ capacity, ofInt? size = some capacity ∧ (capacity.val : Int) = size := by
  have room : 0 < size.toNat := by omega
  refine ⟨⟨size.toNat, room⟩, dif_pos room, ?_⟩
  exact Int.toNat_of_nonneg (by omega)

namespace Settings

structure Confined (place : List Place) (faults : List Fault) : Prop where
  present : faults ≠ []
  inside : ∀ fault ∈ faults, place <+: fault.location

/-- What is refused is told of as faults of the place that was looked at. -/
def Located {α : Type} (place : List Place) (checked : Checked α) : Prop :=
  ∀ faults, checked = .error faults → Confined place faults

theorem Confined.append {place : List Place} {first second : List Fault}
    (left : Confined place first) (right : Confined place second) :
    Confined place (first ++ second) := by
  refine ⟨List.append_ne_nil_of_left_ne_nil left.present second, ?_⟩
  intro fault member
  rcases List.mem_append.mp member with early | late
  · exact left.inside fault early
  · exact right.inside fault late

section Located

variable {α : Type}

theorem ok_located (place : List Place) (value : α) : Located place (.ok value) := by
  intro faults failed
  cases failed

theorem error_located (place : List Place) (faults : List Fault)
    (confined : Confined place faults) : Located place (.error faults : Checked α) := by
  intro others failed
  cases failed
  exact confined

theorem refuse_located (place : List Place) (problem : Problem) :
    Located place (refuse place problem : Checked α) := by
  apply error_located
  refine ⟨List.cons_ne_nil _ _, ?_⟩
  intro fault member
  obtain rfl := List.mem_singleton.mp member
  exact List.prefix_refl place

theorem Located.widen {place inner : List Place} {checked : Checked α}
    (located : Located inner checked) (inside : place <+: inner) : Located place checked := by
  intro faults failed
  obtain ⟨present, each⟩ := located faults failed
  exact ⟨present, fun fault member => inside.trans (each fault member)⟩

end Located

theorem checkSensitivity_located (place : List Place) (value : Json) :
    Located place (checkSensitivity place value) := by
  unfold checkSensitivity
  split
  · split
    · exact ok_located place _
    · exact refuse_located place _
  · exact refuse_located place _
  · exact refuse_located place _

theorem checkFlag_located (place : List Place) (value : Json) :
    Located place (checkFlag place value) := by
  have clear : ∀ flag, Located place (checkFlag.clear place flag) := by
    intro flag
    cases flag with
    | none => exact refuse_located place _
    | some b => exact ok_located place b
  unfold checkFlag
  split
  · exact ok_located place _
  · exact clear _
  · exact refuse_located place _
  · split
    · exact clear _
    · exact refuse_located place _
  · split
    · exact clear _
    · exact refuse_located place _
  · exact refuse_located place _

theorem gather_located {α : Type} (place : List Place) (results : List (Checked α))
    (each : ∀ result ∈ results, Located place result) : Located place (gather results) := by
  induction results with
  | nil => exact ok_located place []
  | cons first rest ih =>
      have here := each first List.mem_cons_self
      have there := ih fun result member => each result (List.mem_cons_of_mem first member)
      simp only [gather]
      split
      · exact ok_located place _
      · exact error_located place _ (there _ ‹_›)
      · exact error_located place _ (here _ rfl)
      · exact error_located place _ ((here _ rfl).append (there _ ‹_›))

theorem checkPatterns_located (place : List Place) (value : Json) :
    Located place (checkPatterns place value) := by
  unfold checkPatterns
  split
  · apply gather_located
    intro result member
    obtain ⟨⟨item, index⟩, _, rfl⟩ := List.mem_map.mp member
    have inside : place <+: place ++ [.item index] := List.prefix_append place _
    dsimp only
    split
    · exact ok_located place _
    · exact (refuse_located _ _).widen inside
    · exact (refuse_located _ _).widen inside
  · exact refuse_located place _

theorem checkHandling_located (place : List Place) (fallback : Handling) (value : Option Json) :
    Located place (checkHandling place fallback value) := by
  unfold checkHandling
  split
  · exact ok_located place _
  · split
    · exact ok_located place _
    · exact refuse_located place _
  · exact refuse_located place _
  · exact refuse_located place _

theorem checkPolicy_located (place : List Place) (value : Json) :
    Located place (checkPolicy place value) := by
  unfold checkPolicy
  split
  · have member : ∀ name fallback given,
        Located place (checkHandling (place ++ [.member name]) fallback given) :=
      fun name fallback given =>
        (checkHandling_located _ fallback given).widen (List.prefix_append place _)
    dsimp only
    split
    · exact ok_located place _
    · exact error_located place _ (member _ _ _ _ ‹_›)
    · exact error_located place _ (member _ _ _ _ ‹_›)
    · rename_i first second
      exact error_located place _ ((member _ _ _ _ first).append (member _ _ _ _ second))
  · exact refuse_located place _

theorem checkInteger_located (place : List Place) (value : Json) :
    Located place (checkInteger place value) := by
  unfold checkInteger
  split
  · exact ok_located place _
  · exact ok_located place _
  · split
    · exact refuse_located place _
    · split
      · exact ok_located place _
      · exact refuse_located place _
  · exact refuse_located place _
  · split
    · exact ok_located place _
    · exact refuse_located place _
    · exact refuse_located place _
  · exact refuse_located place _
  · exact refuse_located place _

theorem checkSize_located (place : List Place) (value : Json) :
    Located place (checkSize place value) := by
  unfold checkSize
  split
  · exact error_located place _ (checkInteger_located place value _ ‹_›)
  · split
    · exact ok_located place _
    · exact refuse_located place _

theorem checkField_located {α : Type} (raw : Raw) (field : Field) (fallback : α)
    (check : List Place → Json → Checked α)
    (located : ∀ place value, Located place (check place value)) :
    Located [.member field.name] (checkField raw field fallback check) := by
  unfold checkField
  split
  · exact ok_located _ _
  · exact located _ _

section Faults

variable {α : Type} {place : List Place} {checked : Checked α}

theorem Located.passed (located : Located place checked) (silent : faultsOf checked = []) :
    ∃ value, checked = .ok value := by
  cases checked with
  | ok value => exact ⟨value, rfl⟩
  | error faults => exact absurd silent (located faults rfl).present

theorem Located.inside (located : Located place checked) (fault : Fault)
    (member : fault ∈ faultsOf checked) : place <+: fault.location := by
  cases checked with
  | ok value => cases member
  | error faults => exact (located faults rfl).inside fault member

end Faults

def fieldFaults (usual : Declared) (raw : Raw) : Field → List Fault
  | .sensitivity => faultsOf (checkField raw .sensitivity usual.sensitivity checkSensitivity)
  | .checkLeading => faultsOf (checkField raw .checkLeading usual.checkLeading checkFlag)
  | .checkTrailing => faultsOf (checkField raw .checkTrailing usual.checkTrailing checkFlag)
  | .ignorePatterns => faultsOf (checkField raw .ignorePatterns usual.ignorePatterns checkPatterns)
  | .policy => faultsOf (checkField raw .policy usual.policy checkPolicy)
  | .patternSize => faultsOf (checkField raw .patternSize usual.patternSize checkSize)
  | .remarkSize => faultsOf (checkField raw .remarkSize usual.remarkSize checkSize)

theorem fieldFaults_inside (usual : Declared) (raw : Raw) (field : Field) :
    ∀ fault ∈ fieldFaults usual raw field, [.member field.name] <+: fault.location := by
  cases field with
  | sensitivity => exact (checkField_located _ _ _ _ checkSensitivity_located).inside
  | checkLeading => exact (checkField_located _ _ _ _ checkFlag_located).inside
  | checkTrailing => exact (checkField_located _ _ _ _ checkFlag_located).inside
  | ignorePatterns => exact (checkField_located _ _ _ _ checkPatterns_located).inside
  | policy => exact (checkField_located _ _ _ _ checkPolicy_located).inside
  | patternSize => exact (checkField_located _ _ _ _ checkSize_located).inside
  | remarkSize => exact (checkField_located _ _ _ _ checkSize_located).inside

theorem validate_passed (raw : Raw) (silent : ∀ field, fieldFaults {} raw field = []) :
    ∃ declared, validate raw = .ok declared := by
  obtain ⟨sensitivity, first⟩ :=
    (checkField_located _ _ _ _ checkSensitivity_located).passed (silent .sensitivity)
  obtain ⟨leading, second⟩ :=
    (checkField_located _ _ _ _ checkFlag_located).passed (silent .checkLeading)
  obtain ⟨trailing, third⟩ :=
    (checkField_located _ _ _ _ checkFlag_located).passed (silent .checkTrailing)
  obtain ⟨patterns, fourth⟩ :=
    (checkField_located _ _ _ _ checkPatterns_located).passed (silent .ignorePatterns)
  obtain ⟨policy, fifth⟩ :=
    (checkField_located _ _ _ _ checkPolicy_located).passed (silent .policy)
  obtain ⟨patternSize, sixth⟩ :=
    (checkField_located _ _ _ _ checkSize_located).passed (silent .patternSize)
  obtain ⟨remarkSize, seventh⟩ :=
    (checkField_located _ _ _ _ checkSize_located).passed (silent .remarkSize)
  simp only [validate, first, second, third, fourth, fifth, sixth, seventh]
  exact ⟨_, rfl⟩

theorem Field.mem_all (field : Field) : field ∈ all := by
  cases field <;> decide

/-- Raw values that are refused have faults, and what is told of are the faults of all fields. -/
theorem validate_refused (raw : Raw) (faults : List Fault)
    (refused : validate raw = .error faults) :
    faults = Field.all.flatMap (fieldFaults {} raw) ∧ faults ≠ [] := by
  have told : faults = Field.all.flatMap (fieldFaults {} raw) := by
    simp only [validate] at refused
    split at refused
    · cases refused
    · cases refused
      simp only [Field.all, List.flatMap_cons, List.flatMap_nil, fieldFaults, List.append_assoc,
        List.append_nil]
  refine ⟨told, ?_⟩
  -- no faults at all would mean that every field passed, and then the values are not refused
  rintro rfl
  have silent : ∀ field, fieldFaults {} raw field = [] := by
    intro field
    exact List.flatMap_eq_nil_iff.mp told.symm field field.mem_all
  obtain ⟨declared, passed⟩ := validate_passed raw silent
  rw [passed] at refused
  cases refused

theorem checkSize_bounded (place : List Place) (value : Json) (size : Int)
    (passed : checkSize place value = .ok size) : sizeBound < size := by
  simp only [checkSize] at passed
  split at passed
  · cases passed
  · split at passed
    · cases passed
      assumption
    · cases passed

theorem checkField_bounded (raw : Raw) (field : Field) (usual size : Int)
    (sound : sizeBound < usual) (passed : checkField raw field usual checkSize = .ok size) :
    sizeBound < size := by
  simp only [checkField] at passed
  split at passed
  · cases passed
    exact sound
  · exact checkSize_bounded _ _ size passed

theorem validate_bounded (raw : Raw) (declared : Declared)
    (valid : validate raw = .ok declared) : ∀ size ∈ declared.sizes, sizeBound < size := by
  simp only [validate] at valid
  split at valid
  · rename_i patternRead remarkRead
    cases valid
    have pattern := checkField_bounded raw _ _ _ (by decide) patternRead
    have remark := checkField_bounded raw _ _ _ (by decide) remarkRead
    simpa [Declared.sizes] using ⟨pattern, remark⟩
  · cases valid

def unreadAs (field : Field) (source : VariableSource) : Json.ReadError → Foreign
  | .malformed => unreadable field source
  | .tooDeep container => tooDeep container

/-- The variable of the field is to hold JSON, and is not read as such. -/
structure Variables.Unread (env : Variables) (depth : Nat) (source : VariableSource)
    (field : Field) (exception : Foreign) : Prop where
  structured : field.isStructured = true
  held : ∃ t error, env.lookup (variableOf field) = some (some t) ∧
    Json.parse depth t = .error error ∧ exception = unreadAs field source error

theorem fieldValue_error_iff (depth : Nat) (source : VariableSource) (env : Variables)
    (field : Field) (exception : Foreign) :
    fieldValue? depth source env field = .error exception ↔
      env.Unread depth source field exception := by
  constructor
  · intro failed
    simp only [fieldValue?] at failed
    split at failed
    · rename_i structured
      split at failed
      · split at failed <;> cases failed
      · rename_i t written
        have held := Option.join_eq_some_iff.mp written
        split at failed
        · cases failed
          exact ⟨structured, t, _, held, ‹_›, rfl⟩
        · cases failed
          exact ⟨structured, t, _, held, ‹_›, rfl⟩
        · cases failed
        · cases failed
        · cases failed
    · cases failed
  · rintro ⟨structured, t, error, written, unread, rfl⟩
    simp only [fieldValue?, structured, if_true, written, Option.join_some, unread]
    cases error <;> rfl

theorem bind_eq_error {ε α β : Type} (first : Except ε α) (next : α → Except ε β) (failure : ε)
    (fails : first.bind next = .error failure) :
    first = .error failure ∨ ∃ value, first = .ok value ∧ next value = .error failure := by
  cases first with
  | error other =>
      cases fails
      exact .inl rfl
  | ok value => exact .inr ⟨value, rfl, fails⟩

section Each

variable {ε α β : Type} (step : α → Except ε β) (items : List α)

theorem mapM_eq_error (failure : ε) (fails : items.mapM step = .error failure) :
    ∃ item ∈ items, step item = .error failure := by
  induction items with
  | nil => cases fails
  | cons first rest ih =>
      rw [List.mapM_cons] at fails
      rcases bind_eq_error _ _ _ fails with here | ⟨value, _, fails⟩
      · exact ⟨first, List.mem_cons_self, here⟩
      · rcases bind_eq_error _ _ _ fails with there | ⟨_, _, fails⟩
        · obtain ⟨item, member, stopped⟩ := ih there
          exact ⟨item, List.mem_cons_of_mem first member, stopped⟩
        · cases fails

theorem mapM_eq_ok (values : List β) (succeeds : items.mapM step = .ok values) :
    ∀ item ∈ items, ∃ value, step item = .ok value := by
  induction items generalizing values with
  | nil => exact fun item member => nomatch member
  | cons first rest ih =>
      rw [List.mapM_cons] at succeeds
      obtain ⟨value, here, succeeds⟩ := bind_eq_ok _ _ _ succeeds
      obtain ⟨others, there, _⟩ := bind_eq_ok _ _ _ succeeds
      intro item member
      rcases List.mem_cons.mp member with rfl | later
      · exact ⟨value, here⟩
      · exact ih others there item later

end Each

theorem ofVariables_error (depth : Nat) (source : VariableSource) (env : Variables)
    (exception : Foreign) (fails : ofVariables depth source env = .error exception) :
    ∃ field, env.Unread depth source field exception := by
  rcases bind_eq_error _ _ _ fails with stopped | ⟨_, _, fails⟩
  · obtain ⟨field, _, here⟩ := mapM_eq_error _ _ exception stopped
    rcases bind_eq_error _ _ _ here with unread | ⟨_, _, fails⟩
    · exact ⟨field, (fieldValue_error_iff ..).mp unread⟩
    · cases fails
  · cases fails

theorem ofVariables_ok (depth : Nat) (source : VariableSource) (env : Variables) (raw : Raw)
    (read : ofVariables depth source env = .ok raw) (field : Field) (exception : Foreign) :
    ¬ env.Unread depth source field exception := by
  intro unread
  obtain ⟨values, passed, _⟩ := bind_eq_ok _ _ _ read
  obtain ⟨value, found⟩ := mapM_eq_ok _ _ values passed field field.mem_all
  obtain ⟨_, given, _⟩ := bind_eq_ok _ _ _ found
  rw [(fieldValue_error_iff ..).mpr unread] at given
  cases given

theorem Sources.merged_error (depth : Nat) (sources : Sources) (exception : Foreign)
    (fails : sources.merged depth = .error exception) :
    ∃ source field, (sources.variables source).Unread depth source field exception := by
  rcases bind_eq_error _ _ _ fails with stopped | ⟨_, _, fails⟩
  · exact ⟨.environment, ofVariables_error _ _ _ exception stopped⟩
  · rcases bind_eq_error _ _ _ fails with stopped | ⟨_, _, fails⟩
    · exact ⟨.envFile, ofVariables_error _ _ _ exception stopped⟩
    · cases fails

theorem lookup_ofList {α : Type} (entries : List (Text × α)) (name : Text) :
    (Entries.ofList entries).lookup name = entries.reverse.lookup name := by
  induction entries using List.reverseRecOn with
  | nil => rfl
  | append_singleton earlier entry ih =>
      rcases entry with ⟨other, value⟩
      have last : Entries.ofList (earlier ++ [(other, value)]) =
          (Entries.ofList earlier).set other value := by
        simp only [Entries.ofList, List.foldl_append, List.foldl_cons, List.foldl_nil]
      rw [last, List.reverse_concat, List.lookup_cons]
      by_cases same : name = other
      · subst same
        simp [Entries.lookup_set_same]
      · have differ : (name == other) = false := by simpa using same
        simp [Entries.lookup_set_other _ _ _ _ same, differ, ih]

section Environment

variable (sources : Sources) (name : Text)

theorem environment_lookup (value : Option Text)
    (held : (sources.variables .environment).lookup name = some value) :
    ∃ entry ∈ sources.environment, Text.lower entry.1 = name ∧ some entry.2 = value := by
  simp only [Sources.variables, foldNames, lookup_ofList, List.map_map] at held
  obtain ⟨before, after, split, _⟩ := List.lookup_eq_some_iff.mp held
  have member : (name, value) ∈ before ++ (name, value) :: after := by simp
  rw [← split, List.mem_reverse, List.mem_map] at member
  obtain ⟨entry, listed, equal⟩ := member
  simp only [Function.comp_apply, Prod.mk.injEq] at equal
  exact ⟨entry, listed, equal⟩

theorem environment_lookup_of_mem
    (present : ∃ entry ∈ sources.environment, Text.lower entry.1 = name) :
    ∃ value, (sources.variables .environment).lookup name = some value := by
  obtain ⟨entry, listed, named⟩ := present
  cases found : (sources.variables .environment).lookup name with
  | some value => exact ⟨value, rfl⟩
  | none =>
      simp only [Sources.variables, foldNames, lookup_ofList, List.map_map,
        List.lookup_eq_none_iff, List.mem_reverse, List.mem_map] at found
      have differ := found _ ⟨entry, listed, rfl⟩
      simp [named] at differ

end Environment

theorem Garbled.unread {depth : Nat} {sources : Sources} {field : Field}
    (garbled : Garbled depth sources.environment field) :
    (sources.variables .environment).Unread depth .environment field
      (unreadable field .environment) := by
  obtain ⟨value, held⟩ := environment_lookup_of_mem sources _ garbled.present
  obtain ⟨entry, listed, named, rfl⟩ := environment_lookup sources _ value held
  exact ⟨garbled.structured, entry.2, .malformed, held, garbled.malformed entry listed named, rfl⟩

theorem standard_unreadable (depth : Nat) (overrides : List (Text × Json)) (workplace : Workplace)
    (field : Field) (alone : workplace.tree.isFile (.ofText envFileName) = .ok false)
    (shallow : ∀ entry ∈ workplace.environment, ∀ container,
      Json.parse depth entry.2 ≠ .error (.tooDeep container))
    (garbled : Garbled depth workplace.environment field) :
    ∃ message, (Library.standard depth).gather overrides workplace =
      .error (.foreign (.unreadable message)) := by
  let sources : Sources := ⟨overrides, workplace.environment, none⟩
  have unread : (sources.variables .environment).Unread depth .environment field _ :=
    garbled.unread
  have absent : envFile? workplace.tree = .ok none := by simp only [envFile?, alone]
  cases read : ofVariables depth .environment (sources.variables .environment) with
  | ok raw => exact absurd unread (ofVariables_ok _ _ _ raw read field _)
  | error exception =>
      -- the first variable that is not read need not be the one of the field
      obtain ⟨first, _, t, error, held, parsed, rfl⟩ := ofVariables_error _ _ _ exception read
      have gathered : (Library.standard depth).gather overrides workplace =
          .error (.foreign (unreadAs first .environment error)) := by
        simp only [Library.standard, gatherRaw, absent, bind, Except.bind, Sources.merged]
        rw [read]
        rfl
      cases error with
      | malformed => exact ⟨_, gathered⟩
      | tooDeep container =>
          obtain ⟨entry, listed, _, same⟩ := environment_lookup sources _ _ held
          cases same
          exact absurd parsed (shallow entry listed container)

theorem standard_lawful (depth : Nat) : (Library.standard depth).Lawful depth where
  faulty := by
    intro raw raised failed
    simp only [Library.standard] at failed
    cases valid : validate raw with
    | ok declared =>
        rw [valid] at failed
        cases failed
    | error faults =>
        rw [valid] at failed
        cases failed
        exact ⟨faults, rfl⟩
  bounded raw declared passed := validate_bounded raw declared (mapError_eq_ok _ _ _ passed)
  unreadable := standard_unreadable depth
  direct := standard_direct depth

end Settings

structure Caches.SameSizes (first second : Caches) : Prop where
  patterns : first.patterns.capacity = second.patterns.capacity
  remarks : first.remarks.capacity = second.remarks.capacity

theorem Caches.compile_sizes [CharacterNames] (caches : Caches) (source : Text) (flags : Nat) :
    (caches.compile source flags).caches.SameSizes caches := by
  have read := caches.patterns.perform_capacity (.get (source, flags))
  have written := fun compiled =>
    (caches.patterns.perform (.get (source, flags))).perform_capacity
      (.set (source, flags) compiled)
  simp only [Recency.perform] at read written
  simp only [compile]
  split
  · rename_i got
    rw [got] at read
    exact ⟨read, rfl⟩
  · rename_i got
    rw [got] at read written
    -- only a pattern that compiles is written after the miss
    split
    · exact ⟨read, rfl⟩
    · exact ⟨(written _).trans read, rfl⟩

theorem Rule.addPatterns_sizes [CharacterNames] (sources : List Text) (caches : Caches)
    (rule : Rule) : (addPatterns caches rule sources).caches.SameSizes caches := by
  induction sources generalizing caches rule with
  | nil => exact ⟨rfl, rfl⟩
  | cons source rest ih =>
      have first := caches.compile_sizes source 0
      simp only [addPatterns]
      split
      · exact first
      · rename_i pattern compiled
        have others := ih (caches.compile source 0).caches (rule.addPattern pattern).1
        exact ⟨others.patterns.trans first.patterns, others.remarks.trans first.remarks⟩

/-- A linter has stores of just the sizes that its settings give. None is set up only when a pattern
breaks a limit of the engine. -/
theorem Linter.create_sizes [CharacterNames] (settings : Settings) :
    (∃ linter, (create settings).1 = .ok linter ∧
      linter.caches.patterns.capacity = settings.patternCapacity ∧
      linter.caches.remarks.capacity = settings.remarkCapacity) ∨
    ∃ limit, (create settings).1 = .error limit ∧
      ∃ pattern ∈ settings.ignorePatterns, CompiledPattern.compile pattern 0 = .error limit := by
  have initial := Caches.empty_faithful settings.patternCapacity settings.remarkCapacity
  have given := (Rule.create_gives settings {} _ initial).value
  have sizes := Rule.addPatterns_sizes settings.ignorePatterns
    (.empty settings.patternCapacity settings.remarkCapacity) ⟨settings, {}, [], []⟩
  simp only [create, given]
  cases compiled : settings.ignorePatterns.mapM (CompiledPattern.compile · 0) with
  | ok patterns => exact .inl ⟨_, rfl, sizes.patterns, sizes.remarks⟩
  | error limit => exact .inr ⟨limit, rfl, Settings.mapM_eq_error _ _ limit compiled⟩

namespace Settings

/-- Sizes that stores can have: a linter is set up with stores of just these sizes unless a pattern
breaks a limit. -/
structure Usable [CharacterNames] (declared : Declared) (settings : Settings) : Prop where
  usable : declared.usable? = some settings
  patternSize : (settings.patternCapacity.val : Int) = declared.patternSize
  remarkSize : (settings.remarkCapacity.val : Int) = declared.remarkSize
  linter : (∃ linter, (Linter.create settings).1 = .ok linter ∧
      linter.caches.patterns.capacity = settings.patternCapacity ∧
      linter.caches.remarks.capacity = settings.remarkCapacity) ∨
    ∃ limit, (Linter.create settings).1 = .error limit ∧
      ∃ pattern ∈ settings.ignorePatterns, CompiledPattern.compile pattern 0 = .error limit

theorem usable_of_bounded [CharacterNames] (declared : Declared)
    (bounded : ∀ size ∈ declared.sizes, sizeBound < size) :
    ∃ settings, Usable declared settings := by
  obtain ⟨pattern, patternTaken, patternSize⟩ := Capacity.ofInt_of_positive declared.patternSize
    (bounded _ List.mem_cons_self)
  obtain ⟨remark, remarkTaken, remarkSize⟩ := Capacity.ofInt_of_positive declared.remarkSize
    (bounded _ (List.mem_cons_of_mem _ List.mem_cons_self))
  have usable : declared.usable? = some
      { sensitivity := declared.sensitivity
        checkLeading := declared.checkLeading
        checkTrailing := declared.checkTrailing
        ignorePatterns := declared.ignorePatterns
        policy := declared.policy
        patternCapacity := pattern
        remarkCapacity := remark } := by
    simp only [Declared.usable?, patternTaken, remarkTaken]
    rfl
  exact ⟨_, usable, patternSize, remarkSize, Linter.create_sizes _⟩

/-- Loading settings through a lawful library ends in one of three ways: faults are told of, there
are settings and they can be used, or what the library raised while gathering values leaves as it
is. A structured value that is no JSON makes it the third. -/
theorem load_ends [CharacterNames] (library : Library) (depth : Nat) (lawful : library.Lawful depth)
    (overrides : List (Text × Json)) (workplace : Workplace) :
    let ends := load library overrides workplace
    ((∃ faults, ends = .error (.configuration faults) ∧
        library.build overrides workplace = .error (.invalid faults)) ∨
      (∃ declared settings, ends = .ok declared ∧ Usable declared settings) ∨
      ∃ exception, ends = .error (.foreign exception)) ∧
    (∀ exception, ends = .error (.foreign exception) ↔
      library.gather overrides workplace = .error (.foreign exception)) ∧
    ∀ field, workplace.tree.isFile (.ofText envFileName) = .ok false →
      (∀ entry ∈ workplace.environment, ∀ container,
        Json.parse depth entry.2 ≠ .error (.tooDeep container)) →
      Garbled depth workplace.environment field →
      ∃ message, ends = .error (.foreign (.unreadable message)) := by
  intro ends
  have raised : ∀ exception, ends = .error (.foreign exception) ↔
      library.gather overrides workplace = .error (.foreign exception) := by
    intro exception
    simp only [ends, load, Library.build]
    cases gathered : library.gather overrides workplace with
    | error raised => cases raised <;> simp [Except.bind]
    | ok values =>
        cases valid : library.validate values with
        | ok declared => simp [Except.bind, valid]
        | error raised =>
            obtain ⟨faults, rfl⟩ := lawful.faulty values raised valid
            simp [Except.bind, valid]
  refine ⟨?_, raised, ?_⟩
  · cases built : library.build overrides workplace with
    | ok declared =>
        obtain ⟨values, _, valid⟩ := bind_eq_ok _ _ _ built
        obtain ⟨settings, usable⟩ := usable_of_bounded declared (lawful.bounded values _ valid)
        exact .inr (.inl ⟨declared, settings, by simp only [ends, load, built], usable⟩)
    | error raised =>
        cases raised with
        | invalid faults => exact .inl ⟨faults, by simp only [ends, load, built], rfl⟩
        | foreign exception => exact .inr (.inr ⟨exception, by simp only [ends, load, built]⟩)
  · intro field alone shallow garbled
    obtain ⟨message, gathered⟩ := lawful.unreadable overrides workplace field alone shallow garbled
    exact ⟨message, (raised _).mpr gathered⟩

def environmentHolding (name value : Text) : Workplace where
  tree := { files := [], directories := [] }
  environment := [(name, value)]

theorem load_ends_plain_text :
    let workplace := environmentHolding "comment_lint_IGNORE_PATTERNS" "^region"
    Garbled usualDepth workplace.environment .ignorePatterns ∧
      ∃ message, load (.standard usualDepth) [] workplace =
        .error (.foreign (.unreadable message)) := by
  let _ : CharacterNames := .none
  intro workplace
  have malformed : Json.parse usualDepth "^region" = .error .malformed := rfl
  have garbled : Garbled usualDepth workplace.environment .ignorePatterns := by
    refine ⟨rfl, ⟨_, List.mem_cons_self, by decide⟩, ?_⟩
    intro entry listed _
    obtain rfl := List.mem_singleton.mp listed
    exact malformed
  obtain ⟨_, _, unread⟩ := load_ends (.standard usualDepth) usualDepth (standard_lawful usualDepth)
    [] workplace
  refine ⟨garbled, unread .ignorePatterns (by decide +kernel) ?_ garbled⟩
  intro entry listed container
  obtain rfl := List.mem_singleton.mp listed
  rw [malformed]
  simp

/-- A list of patterns that is written as plain text is not told of as a fault of its field, where a
size that is no number is. -/
theorem load_untold_of_plain_text :
    load (.standard usualDepth) []
        (environmentHolding "COMMENT_LINT_IGNORE_PATTERNS" "^region") =
      .error (.foreign (unreadable .ignorePatterns .environment)) ∧
    load (.standard usualDepth) []
        (environmentHolding "COMMENT_LINT_REGEX_CACHE_SIZE" "^region") =
      .error (.configuration [⟨[.member "regex_cache_size"], Problem.unclearInteger.type,
        Problem.unclearInteger.message⟩]) := by
  decide +kernel

/-- With the standard library, what leaves untold is a file of variables that cannot be read or a
variable that is not read as JSON, and faults are those of all fields, each inside its field. -/
theorem standard_ends (depth : Nat) (overrides : List (Text × Json)) (workplace : Workplace) :
    let ends := load (.standard depth) overrides workplace
    (∃ exception, ends = .error (.foreign exception) ∧
      (envFile? workplace.tree = .error exception ∨
        ∃ envFile, envFile? workplace.tree = .ok envFile ∧
          let sources : Sources := ⟨overrides, workplace.environment, envFile⟩
          ∃ source field, (sources.variables source).Unread depth source field exception)) ∨
    ∃ raw, gatherRaw depth overrides workplace = .ok raw ∧
      ((∃ faults, ends = .error (.configuration faults) ∧ faults ≠ [] ∧
        faults = Field.all.flatMap (fieldFaults {} raw) ∧
        ∀ field, ∀ fault ∈ fieldFaults {} raw field, [.member field.name] <+: fault.location) ∨
      ∃ declared, ends = .ok declared ∧ validate raw = .ok declared) := by
  intro ends
  cases gathered : gatherRaw depth overrides workplace with
  | error exception =>
      refine .inl ⟨exception, ?_, ?_⟩
      · simp only [ends, load, Library.build, Library.standard, gathered, Except.mapError,
          Except.bind]
      · rcases bind_eq_error _ _ _ gathered with unopened | ⟨envFile, opened, unread⟩
        · exact .inl unopened
        · exact .inr ⟨envFile, opened, Sources.merged_error depth _ exception unread⟩
  | ok raw =>
      refine .inr ⟨raw, rfl, ?_⟩
      simp only [ends, load, Library.build, Library.standard, gathered, Except.mapError,
        Except.bind]
      cases valid : validate raw with
      | error faults =>
          obtain ⟨told, present⟩ := validate_refused raw faults valid
          exact .inl ⟨faults, rfl, present, told, fieldFaults_inside {} raw⟩
      | ok declared => exact .inr ⟨declared, rfl, rfl⟩

end Settings

end Restatement
