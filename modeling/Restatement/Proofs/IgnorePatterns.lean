import Restatement.Proofs.Filters
import Restatement.Proofs.Loading
import Restatement.Proofs.PatternLimits

/-!
What becomes of the ignore patterns of a rule. Each is searched for or warned of, in the order in
which they are given. Only a pattern that exceeds a limit of the engine is neither, and no rule is
set up then.
-/

namespace Restatement

namespace CompiledPattern

def usable? [CharacterNames] (source : Text) : Option CompiledPattern :=
  match Pattern.compile source (.ofBits 0) with
  | .ok pattern => some ⟨source, .ok pattern⟩
  | .error _ => none

def refusal? [CharacterNames] (source : Text) : Option Text :=
  match Pattern.compile source (.ofBits 0) with
  | .error (.invalid fault) => some (Rule.warning source (fault.message source))
  | _ => none

theorem compile_ends [CharacterNames] (source : Text) :
    (∃ outcome : Except Pattern.Fault Pattern,
      Pattern.compile source (.ofBits 0) = outcome.mapError .invalid ∧
        compile source 0 = .ok ⟨source, outcome⟩) ∨
    ∃ limit, Pattern.compile source (.ofBits 0) = .error (.limit limit) ∧
      compile source 0 = .error limit ∧ Pattern.Exceeds source limit := by
  cases result : Pattern.compile source (.ofBits 0) with
  | ok pattern => exact .inl ⟨.ok pattern, rfl, compile_of_valid source pattern result⟩
  | error failure =>
      cases failure with
      | invalid fault => exact .inl ⟨.error fault, rfl, compile_of_fault source fault result⟩
      | limit limit =>
          refine .inr ⟨limit, rfl, ?_, Pattern.exceeds_of_limit source limit result⟩
          simp only [compile, result]

theorem stopped_of_compile [CharacterNames] (source : Text) (limit : Pattern.Limit)
    (stopped : compile source 0 = .error limit) :
    Pattern.compile source (.ofBits 0) = .error (.limit limit) ∧ Pattern.Exceeds source limit := by
  rcases compile_ends source with ⟨outcome, _, done⟩ | ⟨broken, result, ends, exceeds⟩
  · cases done.symm.trans stopped
  · cases ends.symm.trans stopped
    exact ⟨result, exceeds⟩

/-- The compiled patterns part into those to search for and those that are warned of. -/
structure Parts [CharacterNames] (sources : List Text) (compiled : List CompiledPattern) :
    Prop where
  usable : compiled.filter isValid = sources.filterMap usable?
  refused : Reference.warnings compiled = sources.filterMap refusal?
  every : (sources.filterMap usable?).length + (sources.filterMap refusal?).length = sources.length

theorem Parts.cons [CharacterNames] {sources : List Text} {compiled : List CompiledPattern}
    {source : Text} {pattern : CompiledPattern} (parts : Parts sources compiled)
    (done : compile source 0 = .ok pattern) : Parts (source :: sources) (pattern :: compiled) := by
  rcases compile_ends source with ⟨outcome, result, given⟩ | ⟨limit, _, ends, _⟩
  · cases given.symm.trans done
    -- the source goes to one of the two parts and is passed over by the other
    cases outcome with
    | ok valid =>
        have usable : usable? source = some ⟨source, .ok valid⟩ := by
          rw [usable?, result]
          rfl
        have accepted : refusal? source = none := by
          rw [refusal?, result]
          rfl
        constructor
        · rw [List.filterMap_cons_some usable, ← parts.usable]
          rfl
        · rw [List.filterMap_cons_none accepted, ← parts.refused]
          rfl
        · rw [List.filterMap_cons_some usable, List.filterMap_cons_none accepted]
          have every := parts.every
          simp only [List.length_cons]
          omega
    | error fault =>
        have unusable : usable? source = none := by
          rw [usable?, result]
          rfl
        have refused : refusal? source = some (Rule.warning source (fault.message source)) := by
          rw [refusal?, result]
          rfl
        constructor
        · rw [List.filterMap_cons_none unusable, ← parts.usable]
          rfl
        · rw [List.filterMap_cons_some refused, ← parts.refused]
          rfl
        · rw [List.filterMap_cons_none unusable, List.filterMap_cons_some refused]
          have every := parts.every
          simp only [List.length_cons]
          omega
  · cases ends.symm.trans done

theorem parts_of_compiled [CharacterNames] (sources : List Text) (compiled : List CompiledPattern)
    (all : sources.mapM (compile · 0) = .ok compiled) : Parts sources compiled := by
  induction sources generalizing compiled with
  | nil =>
      cases all
      exact ⟨rfl, rfl, rfl⟩
  | cons source rest ih =>
      rw [List.mapM_cons] at all
      obtain ⟨pattern, done, all⟩ := Settings.bind_eq_ok _ _ _ all
      obtain ⟨others, there, all⟩ := Settings.bind_eq_ok _ _ _ all
      cases all
      exact (ih others there).cons done

end CompiledPattern

/-- Whatever was asked of the caches before, a pattern is compiled to something that can be searched
for or is at fault, and a rule searches for the valid ones of its patterns and warns of each of the
others. This fails only by a pattern that exceeds a limit of the engine. -/
theorem patterns_compile_unless_exceeding [CharacterNames] (past : Past) (settings : Settings)
    (thresholds : Thresholds) :
    (∀ source,
      (∃ compiled, (past.caches.compile source 0).value = .ok compiled ∧
        compiled.source = source ∧ compiled.isValid = compiled.error?.isNone ∧
        Pattern.compile source (.ofBits 0) = compiled.outcome.mapError .invalid) ∨
      ∃ limit, (past.caches.compile source 0).value = .error limit ∧
        Pattern.compile source (.ofBits 0) = .error (.limit limit) ∧
        Pattern.Exceeds source limit) ∧
    ((∃ rule, (Rule.create settings thresholds past.caches).value = .ok rule ∧
        rule.patterns = settings.ignorePatterns.filterMap CompiledPattern.usable? ∧
        rule.warnings = settings.ignorePatterns.filterMap CompiledPattern.refusal? ∧
        rule.patterns.length + rule.warnings.length = settings.ignorePatterns.length) ∨
      ∃ limit, (Rule.create settings thresholds past.caches).value = .error limit ∧
        ∃ source ∈ settings.ignorePatterns,
          Pattern.compile source (.ofBits 0) = .error (.limit limit) ∧
            Pattern.Exceeds source limit) := by
  constructor
  · intro source
    rw [(past.caches.compile_gives past.caches_faithful source 0).value]
    rcases CompiledPattern.compile_ends source with
      ⟨outcome, result, done⟩ | ⟨limit, result, ends, exceeds⟩
    · refine .inl ⟨_, done, rfl, ?_, result⟩
      cases outcome <;> rfl
    · exact .inr ⟨limit, ends, result, exceeds⟩
  · rw [(Rule.create_gives settings thresholds past.caches past.caches_faithful).value]
    cases all : settings.ignorePatterns.mapM (CompiledPattern.compile · 0) with
    | ok compiled =>
        have parts := CompiledPattern.parts_of_compiled _ compiled all
        refine .inl ⟨_, rfl, parts.usable, parts.refused, ?_⟩
        rw [← parts.every, ← parts.usable, ← parts.refused]
        rfl
    | error limit =>
        obtain ⟨source, member, stopped⟩ := Settings.mapM_eq_error _ _ limit all
        exact .inr ⟨limit, rfl, source, member,
          CompiledPattern.stopped_of_compile source limit stopped⟩

/-- A count of two to the thirty-second less one comes out neither as a pattern nor as a fault, and
takes the rule with it. -/
theorem patterns_compile_not_past_limit :
    let _ : CharacterNames := .none
    let past : Past := ⟨⟨200, by decide⟩, ⟨300, by decide⟩, []⟩
    (past.caches.compile "a{4294967295}" 0).value.map (·.error?) = .error .tooManyRepetitions ∧
      (Rule.create (Settings.ignoring {} ["a{4294967295}"]) {} past.caches).value.map
        (·.warnings) = .error .tooManyRepetitions := by
  decide +kernel

end Restatement
