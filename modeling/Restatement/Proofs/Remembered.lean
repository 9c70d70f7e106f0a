import Restatement.Caches

/-!
What is remembered is what would be computed anew. A fact that every write respects holds of every
entry, whichever entries were read, given up, cleared or released in between.
-/

namespace Restatement

def EveryEntry {κ ν : Type} (fact : κ → ν → Prop) (entries : List (κ × ν)) : Prop :=
  ∀ entry ∈ entries, fact entry.1 entry.2

theorem every_entry_found {κ ν : Type} [DecidableEq κ] (fact : κ → ν → Prop)
    (entries : List (κ × ν)) (every : EveryEntry fact entries) (key : κ) (value : ν)
    (found : entries.lookup key = some value) : fact key value := by
  obtain ⟨before, after, split, _⟩ := List.lookup_eq_some_iff.mp found
  apply every (key, value)
  rw [split]
  exact List.mem_append_right before List.mem_cons_self

theorem every_entry_added {κ ν : Type} (fact : κ → ν → Prop) (entries kept : List (κ × ν))
    (every : EveryEntry fact entries) (inside : ∀ entry ∈ kept, entry ∈ entries)
    (key : κ) (value : ν) (new : fact key value) : EveryEntry fact (kept ++ [(key, value)]) := by
  intro entry member
  rcases List.mem_append.mp member with old | last
  · exact every entry (inside entry old)
  · rw [List.mem_singleton.mp last]
    exact new

namespace Recency

variable {κ ν : Type} [DecidableEq κ]

theorem others_inside (store : Recency κ ν) (key : κ) :
    ∀ entry ∈ store.others key, entry ∈ store.entries := by
  intro entry member
  exact (List.mem_filter.mp member).1

theorem every_get (store : Recency κ ν) (fact : κ → ν → Prop)
    (every : EveryEntry fact store.entries) (key : κ) :
    (∀ value, (store.get key).1 = some value → fact key value) ∧
      EveryEntry fact (store.get key).2.entries := by
  unfold get
  cases found : store.find? key with
  | none =>
      refine ⟨?_, every⟩
      intro value read
      cases read
  | some value =>
      have known : fact key value := every_entry_found fact store.entries every key value found
      constructor
      · intro read same
        cases same
        exact known
      · exact every_entry_added fact store.entries _ every (store.others_inside key) key value known

theorem every_insert (store : Recency κ ν) (fact : κ → ν → Prop)
    (every : EveryEntry fact store.entries) (key : κ) (value : ν) (new : fact key value) :
    EveryEntry fact (store.insert key value).2.entries := by
  unfold insert
  split
  · exact every_entry_added fact store.entries _ every (store.others_inside key) key value new
  · split
    · apply every_entry_added fact store.entries _ every _ key value new
      intro entry member
      exact List.mem_of_mem_tail member
    · exact every_entry_added fact store.entries _ every (fun _ member => member) key value new

end Recency

namespace OwnerTable

variable {ω ν : Type} [DecidableEq ω]

theorem every_erase (table : OwnerTable ω ν) (fact : ω → ν → Prop)
    (every : EveryEntry fact table.entries) (owner : Owner ω) :
    EveryEntry fact (table.erase owner).entries := by
  cases owner with
  | untracked => exact every
  | tracked identity =>
      intro entry member
      exact every entry (List.mem_filter.mp member).1

theorem every_set (table : OwnerTable ω ν) (fact : ω → ν → Prop)
    (every : EveryEntry fact table.entries) (identity : ω) (value : ν)
    (new : fact identity value) :
    EveryEntry fact (table.set (.tracked identity) value).entries :=
  every_entry_added fact (table.erase (.tracked identity)).entries _
    (every_erase table fact every (.tracked identity)) (fun _ member => member) identity value new

end OwnerTable

/-- A classification looks at nothing but the kind and the body. -/
theorem classify_of_kind_body (first second : Comment) (kinds : first.kind = second.kind)
    (bodies : first.body = second.body) : first.classify = second.classify := by
  simp only [Comment.classify, Comment.text, kinds, bodies]

def ParsedFile.classified (file : ParsedFile) : List Classified :=
  file.comments.map fun comment => (comment, comment.classify)

variable [CharacterNames]

/-- Every entry of the four tables is the value of the function that it stands in for. -/
structure Caches.Faithful (caches : Caches) : Prop where
  patterns : EveryEntry
    (fun key compiled => CompiledPattern.compile key.1 key.2 = .ok compiled) caches.patterns.entries
  remarks : EveryEntry
    (fun key known => ∀ comment : Comment, (comment.kind, comment.body) = key →
      comment.classify = known) caches.remarks.entries
  indexes : EveryEntry
    (fun file index => LineIndex.ofOutline file.outline = index) caches.indexes.entries
  classified : EveryEntry (fun file known => file.classified = known) caches.classified.entries

/-- The result is the given value, and what is remembered after it can be relied on. -/
structure Logged.Gives {α : Type} (result : Logged α) (value : α) : Prop where
  value : result.value = value
  faithful : result.caches.Faithful

namespace Caches

theorem empty_faithful (patternCapacity remarkCapacity : Capacity) :
    (empty patternCapacity remarkCapacity).Faithful := by
  constructor <;> exact fun entry member => nomatch member

theorem clear_faithful (caches : Caches) (faithful : caches.Faithful) : caches.clear.Faithful :=
  { faithful with
    patterns := fun _ member => nomatch member
    remarks := fun _ member => nomatch member }

theorem release_faithful (caches : Caches) (faithful : caches.Faithful) (file : ParsedFile) :
    (caches.release file).Faithful :=
  { faithful with
    indexes := caches.indexes.every_erase _ faithful.indexes (.tracked file)
    classified := caches.classified.every_erase _ faithful.classified (.tracked file) }

theorem compile_gives (caches : Caches) (faithful : caches.Faithful) (source : Text)
    (flags : Nat) :
    (caches.compile source flags).Gives (CompiledPattern.compile source flags) := by
  simp only [compile]
  have read := caches.patterns.every_get _ faithful.patterns (source, flags)
  cases got : caches.patterns.get (source, flags) with
  | mk found patterns =>
      rw [got] at read
      obtain ⟨known, kept⟩ := read
      cases found with
      | some compiled =>
          have same : CompiledPattern.compile source flags = .ok compiled := known compiled rfl
          exact ⟨same.symm, { faithful with patterns := kept }⟩
      | none =>
          cases fresh : CompiledPattern.compile source flags with
          | error limit => exact ⟨rfl, { faithful with patterns := kept }⟩
          | ok compiled =>
              have added := patterns.every_insert _ kept (source, flags) compiled fresh
              exact ⟨rfl, { faithful with patterns := added }⟩

theorem classify_gives (caches : Caches) (faithful : caches.Faithful) (comment : Comment) :
    (caches.classify comment).Gives comment.classify := by
  simp only [classify]
  have read := caches.remarks.every_get _ faithful.remarks (comment.kind, comment.body)
  cases got : caches.remarks.get (comment.kind, comment.body) with
  | mk found remarks =>
      rw [got] at read
      obtain ⟨known, kept⟩ := read
      cases found with
      | some classification =>
          have same : comment.classify = classification := known classification rfl comment rfl
          exact ⟨same.symm, { faithful with remarks := kept }⟩
      | none =>
          have fresh : ∀ other : Comment,
              (other.kind, other.body) = (comment.kind, comment.body) →
                other.classify = comment.classify := by
            intro other same
            injection same with kinds bodies
            exact classify_of_kind_body other comment kinds bodies
          have added := remarks.every_insert _ kept _ comment.classify fresh
          exact ⟨rfl, { faithful with remarks := added }⟩

theorem classifyEach_gives (caches : Caches) (faithful : caches.Faithful)
    (comments : List Comment) :
    (caches.classifyEach comments).Gives
      (comments.map fun comment => (comment, comment.classify)) := by
  induction comments generalizing caches with
  | nil => exact ⟨rfl, faithful⟩
  | cons comment rest ih =>
      have first := caches.classify_gives faithful comment
      have others := ih (caches.classify comment).caches first.faithful
      constructor
      · simp only [classifyEach, List.map_cons, first.value, others.value]
      · exact others.faithful

theorem classifyFile_gives (caches : Caches) (faithful : caches.Faithful) (file : ParsedFile) :
    (caches.classifyFile file).Gives file.classified := by
  unfold classifyFile
  cases found : caches.classified.get? (.tracked file) with
  | some known =>
      have same := every_entry_found _ _ faithful.classified file known found
      exact ⟨same.symm, faithful⟩
  | none =>
      have result := caches.classifyEach_gives faithful file.comments
      have added := (caches.classifyEach file.comments).caches.classified.every_set _
        result.faithful.classified file _ result.value.symm
      exact ⟨result.value, { result.faithful with classified := added }⟩

theorem indexFile_gives (caches : Caches) (faithful : caches.Faithful) (file : ParsedFile) :
    (caches.indexFile file).Gives (LineIndex.ofOutline file.outline) := by
  unfold indexFile
  cases found : caches.indexes.get? (.tracked file) with
  | some index =>
      have same := every_entry_found _ _ faithful.indexes file index found
      exact ⟨same.symm, faithful⟩
  | none =>
      have added := caches.indexes.every_set _ faithful.indexes file _ rfl
      exact ⟨rfl, { faithful with indexes := added }⟩

end Caches

end Restatement
