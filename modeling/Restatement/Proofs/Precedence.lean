import Mathlib.Data.List.Nodup
import Restatement.Command.Check
import Restatement.Settings.Standard

/-!
Which source of settings wins. Merging gives every name the value of the later source, and a
sensitivity that is given directly is the one that is used.
-/

namespace Restatement

namespace Entries

theorem lookup_set_same {α : Type} (entries : Entries α) (name : Text) (value : α) :
    (entries.set name value).lookup name = some value := by
  induction entries with
  | nil => simp [set]
  | cons entry rest ih =>
      rcases entry with ⟨other, old⟩
      by_cases same : other = name
      · simp [set, same]
      · have differ : (name == other) = false := by simpa using Ne.symm same
        simp [set, same, List.lookup_cons, differ, ih]

theorem lookup_set_other {α : Type} (entries : Entries α) (name other : Text) (value : α)
    (differ : other ≠ name) : (entries.set name value).lookup other = entries.lookup other := by
  have unequal : (other == name) = false := by simpa using differ
  induction entries with
  | nil => simpa [set] using differ
  | cons entry rest ih =>
      rcases entry with ⟨first, old⟩
      by_cases same : first = name
      · subst first
        simp [set, List.lookup_cons, unequal]
      · simp [set, same, List.lookup_cons, ih]

theorem lookup_eq_none {α : Type} (entries : Entries α) (name : Text)
    (absent : name ∉ entries.map (·.1)) : entries.lookup name = none := by
  rw [List.lookup_eq_none_iff]
  intro entry member
  have differ : name ≠ entry.1 := by
    rintro rfl
    exact absent (List.mem_map_of_mem member)
  simpa using differ

end Entries

namespace Settings

/-- The later of two objects gives the value of each name that it has. -/
theorem lookup_merge (members : Entries Json) (later : List (Text × Json))
    (distinct : (later.map (·.1)).Nodup) (name : Text) :
    (merge members later).lookup name =
      match later.lookup name with
      | none => members.lookup name
      | some value => some (mergeValue (members.lookup name) value) := by
  induction later generalizing members with
  | nil => simp [merge]
  | cons entry rest ih =>
      rcases entry with ⟨other, value⟩
      rw [List.map_cons, List.nodup_cons] at distinct
      rw [merge, ih _ distinct.2]
      by_cases same : name = other
      · subst name
        rw [Entries.lookup_eq_none rest other distinct.1, Entries.lookup_set_same]
        simp
      · have differ : (name == other) = false := by simpa using same
        simp only [List.lookup_cons, differ, Entries.lookup_set_other members other name _ same]

theorem Field.name_injective : Function.Injective Field.name := by
  intro a b equal
  revert equal
  cases a <;> cases b <;> decide

def namedValues (value? : Field → Option Json) (fields : List Field) : Raw :=
  fields.filterMap fun field => (value? field).map fun value => (field.name, value)

theorem namedValues_names (value? : Field → Option Json) (fields : List Field) :
    List.Sublist ((namedValues value? fields).map (·.1)) (fields.map Field.name) := by
  induction fields with
  | nil => exact List.Sublist.slnil
  | cons field rest ih =>
      cases given : value? field with
      | none =>
          simp only [namedValues, List.filterMap_cons, given, Option.map_none, List.map_cons]
          exact ih.cons field.name
      | some value =>
          simp only [namedValues, List.filterMap_cons, given, Option.map_some, List.map_cons]
          exact ih.cons_cons field.name

theorem lookup_namedValues (value? : Field → Option Json) (fields : List Field)
    (distinct : fields.Nodup) (field : Field) (member : field ∈ fields) :
    (namedValues value? fields).lookup field.name = value? field := by
  induction fields with
  | nil => cases member
  | cons first rest ih =>
      rw [List.nodup_cons] at distinct
      have step : (namedValues value? (first :: rest)) =
          ((value? first).map fun value => (first.name, value)).toList ++
            namedValues value? rest := by
        cases given : value? first <;> simp [namedValues, given]
      rw [step]
      rcases List.mem_cons.mp member with same | later
      · subst first
        cases given : value? field with
        | some value => simp
        | none =>
            have absent : field.name ∉ (namedValues value? rest).map (·.1) := by
              intro named
              have listed := (namedValues_names value? rest).subset named
              obtain ⟨other, present, equal⟩ := List.mem_map.mp listed
              exact distinct.1 (Field.name_injective equal ▸ present)
            simpa using Entries.lookup_eq_none _ _ absent
      · have differ : (field.name == first.name) = false := by
          simp only [beq_eq_false_iff_ne, ne_eq]
          intro equal
          exact distinct.1 (Field.name_injective equal ▸ later)
        cases given : value? first with
        | none => simpa using ih distinct.2 later
        | some value => simpa [List.lookup_cons, differ] using ih distinct.2 later

def override? (overrides : List (Text × Json)) (field : Field) : Option Json :=
  (overrides.find? fun (name, _) => Text.lower name == field.name).map (·.2)

theorem ofOverrides_eq (overrides : List (Text × Json)) :
    ofOverrides overrides = namedValues (override? overrides) Field.all := by
  simp only [ofOverrides, namedValues, override?, Option.map_map]
  rfl

theorem mergeValue_text (old : Option Json) (t : Text) : mergeValue old (.str t) = .str t := by
  rw [mergeValue]
  intro old new _ text
  cases text

theorem lookup_overridden (members : Entries Json) (overrides : List (Text × Json))
    (field : Field) :
    (merge members (ofOverrides overrides)).lookup field.name =
      match override? overrides field with
      | none => members.lookup field.name
      | some value => some (mergeValue (members.lookup field.name) value) := by
  have every : Field.all.Nodup := by decide
  have listed : field ∈ Field.all := by cases field <;> decide
  have distinct : ((ofOverrides overrides).map (·.1)).Nodup := by
    rw [ofOverrides_eq]
    exact (namedValues_names _ _).nodup (every.map Field.name_injective)
  rw [lookup_merge members _ distinct, ofOverrides_eq, lookup_namedValues _ _ every field listed]

theorem validate_sensitivity (raw : Raw) (declared : Declared)
    (valid : validate raw = .ok declared) :
    checkField raw .sensitivity .medium checkSensitivity = .ok declared.sensitivity := by
  simp only [validate] at valid
  split at valid
  · cases valid
    assumption
  · cases valid

theorem bind_eq_ok {ε α β : Type} (first : Except ε α) (next : α → Except ε β) (result : β)
    (succeeds : first.bind next = .ok result) :
    ∃ value, first = .ok value ∧ next value = .ok result := by
  cases first with
  | error failure => cases succeeds
  | ok value => exact ⟨value, rfl, succeeds⟩

theorem mapError_eq_ok {ε δ α : Type} (wrap : ε → δ) (first : Except ε α) (value : α)
    (succeeds : first.mapError wrap = .ok value) : first = .ok value := by
  cases first with
  | error failure => cases succeeds
  | ok result =>
      cases succeeds
      rfl

theorem standard_build_ok (depth : Nat) (overrides : List (Text × Json)) (workplace : Workplace)
    (declared : Declared)
    (built : (Library.standard depth).build overrides workplace = .ok declared) :
    ∃ members, validate (merge members (ofOverrides overrides)) = .ok declared := by
  obtain ⟨raw, gathered, validated⟩ := bind_eq_ok _ _ _ built
  obtain ⟨envFile, _, merged⟩ := bind_eq_ok _ _ _ (mapError_eq_ok _ _ _ gathered)
  obtain ⟨environment, _, merged⟩ := bind_eq_ok _ _ _ merged
  obtain ⟨file, _, merged⟩ := bind_eq_ok _ _ _ merged
  cases merged
  exact ⟨merge file environment, mapError_eq_ok _ _ _ validated⟩

theorem override_first (sensitivity : Sensitivity) (others : List (Text × Json)) :
    override? ((Field.sensitivity.name, .str sensitivity.name) :: others) .sensitivity =
      some (.str sensitivity.name) := by
  have folded : (Text.lower Field.sensitivity.name == Field.sensitivity.name) = true := by decide
  simp only [override?, List.find?_cons, folded, Option.map_some]

/-- A sensitivity that is given directly is the one that is used, whatever the variables say. -/
theorem standard_direct (depth : Nat) (sensitivity : Sensitivity) (others : List (Text × Json))
    (workplace : Workplace) (declared : Declared)
    (built : (Library.standard depth).build
      ((Field.sensitivity.name, .str sensitivity.name) :: others) workplace = .ok declared) :
    declared.sensitivity = sensitivity := by
  obtain ⟨members, valid⟩ := standard_build_ok depth _ _ _ built
  have checked := validate_sensitivity _ _ valid
  have readBack : ∀ place, checkSensitivity place (.str sensitivity.name) = .ok sensitivity := by
    intro place
    cases sensitivity <;> rfl
  simp only [checkField, lookup_overridden, override_first, mergeValue_text, readBack] at checked
  injection checked with same
  exact same.symm

theorem load_eq_ok (library : Library) (overrides : List (Text × Json)) (workplace : Workplace)
    (declared : Declared) (loaded : load library overrides workplace = .ok declared) :
    library.build overrides workplace = .ok declared := by
  rw [load] at loaded
  split at loaded
  · cases loaded
    assumption
  · cases loaded
  · cases loaded

end Settings

theorem CheckOptions.sensitivity_wins (options : CheckOptions) (sensitivity : Sensitivity)
    (asked : options.sensitivity = some sensitivity) (library : Settings.Library) (depth : Nat)
    (lawful : library.Lawful depth) (workplace : Workplace) (declared : Settings.Declared)
    (loaded : Settings.load library options.overrides workplace = .ok declared) :
    declared.sensitivity = sensitivity := by
  have built := Settings.load_eq_ok library _ _ _ loaded
  simp only [overrides, asked, Option.toList_some, List.map_cons, List.map_nil,
    List.cons_append] at built
  exact lawful.direct sensitivity _ workplace declared built

end Restatement
