import Mathlib.Data.List.Basic
import Restatement.Proofs.Attribution

/-!
What the toggles and the ignore patterns take out of the findings. Leading and trailing comments
part the findings between them, a pattern takes out the findings of the comments in which it is
found, and a pattern at fault takes out none and is warned of once.
-/

namespace Restatement

/-- The last list holds the items of the two others, those of each in their order. -/
inductive Interleaves {α : Type} : List α → List α → List α → Prop
  | nil : Interleaves [] [] []
  | left (item : α) {first second merged : List α} :
      Interleaves first second merged → Interleaves (item :: first) second (item :: merged)
  | right (item : α) {first second merged : List α} :
      Interleaves first second merged → Interleaves first (item :: second) (item :: merged)

theorem interleaves_parts {α β : Type} (test : α → Bool) (value : α → β) (items : List α) :
    Interleaves ((items.filter fun item => !test item).map value) ((items.filter test).map value)
      (items.map value) := by
  induction items with
  | nil => exact .nil
  | cons item rest ih =>
      cases picked : test item with
      | true => simpa [picked] using ih.right (value item)
      | false => simpa [picked] using ih.left (value item)

theorem interleaves_outcome {ε α β : Type} (test : α → Bool) (value : α → β)
    (outcome : Except ε (List α)) (first second merged : List β)
    (left : outcome.map (fun items => (items.filter fun item => !test item).map value) = .ok first)
    (right : outcome.map (fun items => (items.filter test).map value) = .ok second)
    (whole : outcome.map (·.map value) = .ok merged) : Interleaves first second merged := by
  cases outcome with
  | error failure => cases whole
  | ok items =>
      cases left
      cases right
      cases whole
      exact interleaves_parts test value items

namespace Settings

def checking (settings : Settings) (leading trailing : Bool) : Settings :=
  { settings with checkLeading := leading, checkTrailing := trailing }

def ignoring (settings : Settings) (sources : List Text) : Settings :=
  { settings with ignorePatterns := sources }

end Settings

section Compiling

variable {α : Type} (before after : List Text)

theorem compiled_append [CharacterNames] (combine : List CompiledPattern → α) (join : α → α → α)
    (split : ∀ first rest, combine (first ++ rest) = join (combine first) (combine rest)) :
    ((before ++ after).mapM (CompiledPattern.compile · 0)).map combine =
      ((before.mapM (CompiledPattern.compile · 0)).map combine).bind fun first =>
        ((after.mapM (CompiledPattern.compile · 0)).map combine).map (join first) := by
  rw [List.mapM_append]
  cases before.mapM (CompiledPattern.compile · 0) with
  | error limit => rfl
  | ok first =>
      cases after.mapM (CompiledPattern.compile · 0) with
      | error limit => rfl
      | ok rest => exact congrArg Except.ok (split first rest)

theorem compiled_insert [CharacterNames] (source : Text) (pattern : CompiledPattern)
    (compiled : CompiledPattern.compile source 0 = .ok pattern)
    (inserted plain : List CompiledPattern → α)
    (agree : ∀ first rest, inserted (first ++ pattern :: rest) = plain (first ++ rest)) :
    ((before ++ source :: after).mapM (CompiledPattern.compile · 0)).map inserted =
      ((before ++ after).mapM (CompiledPattern.compile · 0)).map plain := by
  rw [List.mapM_append, List.mapM_append, List.mapM_cons, compiled]
  cases before.mapM (CompiledPattern.compile · 0) with
  | error limit => rfl
  | ok first =>
      cases after.mapM (CompiledPattern.compile · 0) with
      | error limit => rfl
      | ok rest => exact congrArg Except.ok (agree first rest)

end Compiling

namespace CompiledPattern

theorem compile_of_valid [CharacterNames] (source : Text) (pattern : Pattern)
    (valid : Pattern.compile source (.ofBits 0) = .ok pattern) :
    compile source 0 = .ok ⟨source, .ok pattern⟩ := by
  simp only [compile, valid]

theorem compile_of_fault [CharacterNames] (source : Text) (fault : Pattern.Fault)
    (invalid : Pattern.compile source (.ofBits 0) = .error (.invalid fault)) :
    compile source 0 = .ok ⟨source, .error fault⟩ := by
  simp only [compile, invalid]

end CompiledPattern

namespace Reference

theorem isSpared_checking (settings : Settings) (leading trailing : Bool)
    (patterns : List CompiledPattern) (comment : Comment) :
    isSpared (settings.checking leading trailing) patterns comment =
      (isSpared (settings.checking true true) patterns comment ||
        !(if comment.trailing then trailing else leading)) := by
  simp only [isSpared, Settings.checking]
  cases comment.trailing <;> simp

theorem isSpared_insert (settings : Settings) (first rest : List CompiledPattern)
    (pattern : CompiledPattern) (comment : Comment) :
    isSpared settings (first ++ pattern :: rest) comment =
      (isSpared settings (first ++ rest) comment || pattern.search comment.firstLine) := by
  simp only [isSpared, List.any_append, List.any_cons]
  cases pattern.search comment.firstLine <;> simp

theorem attributed_checking [CharacterNames] (settings : Settings) (leading trailing : Bool)
    (thresholds : Thresholds) (file : ParsedFile) :
    attributed (settings.checking leading trailing) thresholds file =
      (attributed (settings.checking true true) thresholds file).map (·.filter fun pair =>
        if pair.1.trailing then trailing else leading) := by
  have ignored : (settings.checking leading trailing).ignorePatterns =
      (settings.checking true true).ignorePatterns := rfl
  rw [attributed, attributed, ignored]
  cases (settings.checking true true).ignorePatterns.mapM (CompiledPattern.compile · 0) with
  | error limit => rfl
  | ok patterns =>
      apply congrArg Except.ok
      have hidden := paired_hiding
        (verdict? (settings.checking true true) thresholds patterns file.outline)
        (verdict? (settings.checking leading trailing) thresholds patterns file.outline)
        file.comments (fun comment => !(if comment.trailing then trailing else leading))
        (fun comment => verdict_hiding _ _ thresholds patterns patterns file.outline comment _ rfl
          (isSpared_checking settings leading trailing patterns comment) (fun _ => rfl))
      simpa only [Bool.not_not] using hidden

theorem attributed_ignoring [CharacterNames] (settings : Settings) (before after : List Text)
    (source : Text) (pattern : CompiledPattern)
    (compiled : CompiledPattern.compile source 0 = .ok pattern) (thresholds : Thresholds)
    (file : ParsedFile) :
    attributed (settings.ignoring (before ++ source :: after)) thresholds file =
      (attributed (settings.ignoring (before ++ after)) thresholds file).map
        (·.filter fun pair => !pattern.search pair.1.firstLine) := by
  have inserted := compiled_insert before after source pattern compiled
    (fun patterns => paired (verdict? settings thresholds patterns file.outline) file.comments)
    (fun patterns => (paired (verdict? settings thresholds patterns file.outline)
      file.comments).filter fun pair => !pattern.search pair.1.firstLine)
    (fun first rest => paired_hiding _ _ file.comments
      (fun comment => pattern.search comment.firstLine)
      (fun comment => verdict_hiding settings settings thresholds (first ++ rest)
        (first ++ pattern :: rest) file.outline comment _ rfl
        (isSpared_insert settings first rest pattern comment) (fun _ => rfl)))
  -- a verdict looks at the compiled patterns and not at their sources
  simp only [attributed, mapped_twice]
  exact inserted

def warnings (compiled : List CompiledPattern) : List Text :=
  compiled.filterMap fun pattern => pattern.error?.map (Rule.warning pattern.source)

theorem warnings_append (first rest : List CompiledPattern) :
    warnings (first ++ rest) = warnings first ++ warnings rest :=
  List.filterMap_append

theorem warnings_valid [CharacterNames] (before after : List Text) (source : Text)
    (pattern : Pattern) (valid : Pattern.compile source (.ofBits 0) = .ok pattern) :
    ((before ++ source :: after).mapM (CompiledPattern.compile · 0)).map warnings =
      ((before ++ after).mapM (CompiledPattern.compile · 0)).map warnings := by
  apply compiled_insert before after source _
    (CompiledPattern.compile_of_valid source pattern valid)
  intro first rest
  simp only [warnings_append]
  rfl

theorem warnings_fault [CharacterNames] (after : List Text) (source : Text) (fault : Pattern.Fault)
    (invalid : Pattern.compile source (.ofBits 0) = .error (.invalid fault)) :
    ((source :: after).mapM (CompiledPattern.compile · 0)).map warnings =
      ((after.mapM (CompiledPattern.compile · 0)).map warnings).map
        (Rule.warning source (fault.message source) :: ·) := by
  rw [List.mapM_cons, CompiledPattern.compile_of_fault source fault invalid]
  cases after.mapM (CompiledPattern.compile · 0) with
  | error limit => rfl
  | ok rest => rfl

end Reference

def Caches.warnings [CharacterNames] (caches : Caches) (settings : Settings)
    (thresholds : Thresholds) :
    Except Pattern.Limit (List Text) :=
  (Rule.create settings thresholds caches).value.map (·.warnings)

theorem Past.warnings_eq [CharacterNames] (past : Past) (settings : Settings)
    (thresholds : Thresholds) :
    past.caches.warnings settings thresholds =
      (settings.ignorePatterns.mapM (CompiledPattern.compile · 0)).map Reference.warnings := by
  have created := Rule.create_gives settings thresholds past.caches past.caches_faithful
  rw [Caches.warnings, created.value]
  cases settings.ignorePatterns.mapM (CompiledPattern.compile · 0) with
  | error limit => rfl
  | ok patterns => rfl

section Runs

variable (past : Past) (settings : Settings) (thresholds : Thresholds) (file : ParsedFile)

theorem Past.findings_checking [CharacterNames] (leading trailing : Bool) :
    past.caches.findings (settings.checking leading trailing) thresholds file =
      (Reference.attributed (settings.checking true true) thresholds file).map fun pairs =>
        (pairs.filter fun pair => if pair.1.trailing then trailing else leading).map (·.2) := by
  rw [past.findings_attributed, Reference.attributed_checking, mapped_twice]

theorem Past.findings_ignoring [CharacterNames] (before after : List Text) (source : Text)
    (pattern : CompiledPattern) (compiled : CompiledPattern.compile source 0 = .ok pattern) :
    past.caches.findings (settings.ignoring (before ++ source :: after)) thresholds file =
      (Reference.attributed (settings.ignoring (before ++ after)) thresholds file).map fun pairs =>
        (pairs.filter fun pair => !pattern.search pair.1.firstLine).map (·.2) := by
  rw [past.findings_attributed,
    Reference.attributed_ignoring settings before after source pattern compiled, mapped_twice]

theorem Past.findings_faulty [CharacterNames] (before after : List Text) (source : Text)
    (fault : Pattern.Fault)
    (invalid : Pattern.compile source (.ofBits 0) = .error (.invalid fault)) :
    past.caches.findings (settings.ignoring (before ++ source :: after)) thresholds file =
      (Reference.attributed (settings.ignoring (before ++ after)) thresholds file).map
        (·.map (·.2)) := by
  rw [past.findings_ignoring settings thresholds file before after source _
    (CompiledPattern.compile_of_fault source fault invalid)]
  simp only [CompiledPattern.search, Bool.not_false, List.filter_true]

end Runs

/-- Runs over one file that differ in a filter, each over caches with a past of its own. Without
trailing comments those findings stay that come from leading ones, and the other way round, and the
two parts merge into the whole. A pattern added anywhere takes out the findings of the comments in
whose whole first line it is found. A pattern at fault takes out none and adds one warning, at its
place among the others. -/
theorem filters_narrow [CharacterNames] (past : Settings → Past) (settings : Settings)
    (thresholds : Thresholds) (file : ParsedFile) :
    let run := fun chosen => (past chosen).caches.findings chosen thresholds file
    let warned := fun chosen => (past chosen).caches.warnings chosen thresholds
    let found := fun chosen => Reference.attributed chosen thresholds file
    let both := settings.checking true true
    (∀ chosen, run chosen = (found chosen).map (·.map (·.2)) ∧
      ∀ pairs, found chosen = .ok pairs →
        (pairs.map (·.1)).Sublist file.comments ∧ ∀ pair ∈ pairs, pair.2.span = pair.1.span) ∧
    run (settings.checking true false) = (found both).map (fun pairs =>
      (pairs.filter fun pair => !pair.1.trailing).map (·.2)) ∧
    run (settings.checking false true) = (found both).map (fun pairs =>
      (pairs.filter fun pair => pair.1.trailing).map (·.2)) ∧
    run (settings.checking false false) = (found both).map (fun _ => []) ∧
    (∀ leading trailing merged, run (settings.checking true false) = .ok leading →
      run (settings.checking false true) = .ok trailing → run both = .ok merged →
        Interleaves leading trailing merged) ∧
    ∀ before after source,
      let plain := settings.ignoring (before ++ after)
      let extended := settings.ignoring (before ++ source :: after)
      (∀ pattern, Pattern.compile source (.ofBits 0) = .ok pattern →
        run extended = (found plain).map (fun pairs =>
          (pairs.filter fun pair => !pattern.search pair.1.firstLine).map (·.2)) ∧
        warned extended = warned plain) ∧
      (∀ fault, Pattern.compile source (.ofBits 0) = .error (.invalid fault) →
        run extended = run plain ∧
        ∀ first rest, warned (settings.ignoring before) = .ok first →
          warned (settings.ignoring after) = .ok rest →
            warned plain = .ok (first ++ rest) ∧
            warned extended = .ok (first ++ Rule.warning source (fault.message source) :: rest)) := by
  intro run warned found both
  have attribution : ∀ chosen, run chosen = (found chosen).map (·.map (·.2)) :=
    fun chosen => (past chosen).findings_attributed chosen thresholds file
  have leadingOnly : run (settings.checking true false) = (found both).map (fun pairs =>
      (pairs.filter fun pair => !pair.1.trailing).map (·.2)) := by
    simpa using (past _).findings_checking settings thresholds file true false
  have trailingOnly : run (settings.checking false true) = (found both).map (fun pairs =>
      (pairs.filter fun pair => pair.1.trailing).map (·.2)) := by
    simpa using (past _).findings_checking settings thresholds file false true
  have neither : run (settings.checking false false) = (found both).map (fun _ => []) := by
    simpa [List.filter_false] using (past _).findings_checking settings thresholds file false false
  refine ⟨?_, leadingOnly, trailingOnly, neither, ?_, ?_⟩
  · intro chosen
    exact ⟨attribution chosen, Reference.attributed_pairs chosen thresholds file⟩
  · intro leading trailing merged left right whole
    exact interleaves_outcome _ _ (found both) leading trailing merged (leadingOnly ▸ left)
      (trailingOnly ▸ right) (attribution both ▸ whole)
  · intro before after source plain extended
    constructor
    · intro pattern valid
      constructor
      · exact (past extended).findings_ignoring settings thresholds file before after source _
          (CompiledPattern.compile_of_valid source pattern valid)
      · simp only [warned, Past.warnings_eq]
        exact Reference.warnings_valid before after source pattern valid
    · intro fault invalid
      constructor
      · rw [attribution plain]
        exact (past extended).findings_faulty settings thresholds file before after source fault
          invalid
      · intro first rest fore aft
        -- the warnings of both lists split where the pattern at fault stands
        simp only [warned, Past.warnings_eq, Settings.ignoring] at fore aft
        simp only [warned, Past.warnings_eq, Settings.ignoring, plain, extended,
          compiled_append before _ Reference.warnings (· ++ ·) Reference.warnings_append,
          Reference.warnings_fault after source fault invalid, fore, aft]
        exact ⟨rfl, rfl⟩

theorem filters_narrow_two_places :
    let _ : CharacterNames := ⟨fun name => if name = "EM DASH".toList then some '—' else none⟩
    let leading : Comment := ⟨⟨1, 0, 1, 9, 0, 9⟩, .line, " return", false⟩
    let trailing : Comment := ⟨⟨2, 8, 2, 22, 20, 34⟩, .line, " return — value", true⟩
    let file := ParsedFile.returning [leading, trailing]
    let past : Settings → Past := fun _ => ⟨⟨1, by decide⟩, ⟨1, by decide⟩, []⟩
    let run := fun chosen => (past chosen).caches.findings chosen {} file
    let first : Finding := ⟨.warning, leading.span, "return", .return⟩
    let second : Finding := ⟨.warning, trailing.span, "return — value", .return⟩
    let faulty := Settings.ignoring {} ["x", "(", "\\N{EM DASH}"]
    let fault : Pattern.Fault := ⟨.unterminatedGroup, some 0⟩
    Pattern.compile "(" (.ofBits 0) = .error (.invalid fault) ∧
      run {} = .ok [first, second] ∧ run (Settings.checking {} true false) = .ok [first] ∧
      Interleaves [first] [second] [first, second] ∧ run faulty = .ok [first] ∧
      (past faulty).caches.warnings faulty {} = .ok [Rule.warning "(" (fault.message "(")] := by
  intro _ leading trailing file past run first second faulty fault
  have invalid : Pattern.compile "(" (.ofBits 0) = .error (.invalid fault) := by decide +kernel
  have found : Reference.attributed (Settings.checking {} true true) {} file =
      .ok [(leading, first), (trailing, second)] := by
    decide +kernel
  have narrowed : run (Settings.ignoring {} ["x", "\\N{EM DASH}"]) = .ok [first] := by
    decide +kernel
  obtain ⟨each, onlyLeading, onlyTrailing, _, merge, patterns⟩ := filters_narrow past {} {} file
  have whole := (each (Settings.checking {} true true)).1
  simp only [found] at whole onlyLeading onlyTrailing
  obtain ⟨unchanged, warned⟩ := (patterns ["x"] ["\\N{EM DASH}"] "(").2 fault invalid
  obtain ⟨_, added⟩ := warned [] [] (by decide +kernel) (by decide +kernel)
  exact ⟨invalid, whole, onlyLeading,
    merge [first] [second] [first, second] onlyLeading onlyTrailing whole,
    unchanged.trans narrowed, added⟩

/-- A pattern that asks for too many repetitions does not compile either, and ends the run. -/
theorem filters_narrow_not_past_limit :
    let _ : CharacterNames := .none
    let comment : Comment := ⟨⟨1, 0, 1, 9, 0, 9⟩, .line, " return", false⟩
    let file := ParsedFile.returning [comment]
    let past : Past := ⟨⟨200, by decide⟩, ⟨300, by decide⟩, []⟩
    Pattern.compile "a{4294967295}" (.ofBits 0) = .error (.limit .tooManyRepetitions) ∧
      past.caches.findings {} {} file = .ok [⟨.warning, comment.span, "return", .return⟩] ∧
      past.caches.findings (Settings.ignoring {} ["a{4294967295}"]) {} file =
        .error .tooManyRepetitions ∧
      past.caches.warnings (Settings.ignoring {} ["a{4294967295}"]) {} =
        .error .tooManyRepetitions := by
  decide +kernel

end Restatement
