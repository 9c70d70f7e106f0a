import Mathlib.Data.Char
import Mathlib.Data.List.Lex
import Restatement.Proofs.ExitCodes
import Restatement.Proofs.LinePartition

/-!
A directory stands for the source files below it: those that names lead down to, of a known
extension and not under an ignored name, each once and in the order of their components. Where the
system refuses an answer the search ends; where it does not let a directory be listed, what is below
stays unseen.
-/

namespace Restatement

namespace Text

theorem before_iff_lt (s t : Text) : before s t = true ↔ s < t := by
  induction s generalizing t with
  | nil => cases t <;> simp [before]
  | cons c s ih =>
      cases t with
      | nil => simp [before]
      | cons d t =>
          have order : c.toNat < d.toNat ↔ c < d := Iff.rfl
          simp [before, List.cons_lt_cons_iff, ih, order]

end Text

namespace FileTree

theorem partsBefore_iff_lt (p q : List Text) : partsBefore p q = true ↔ p < q := by
  induction p generalizing q with
  | nil => cases q <;> simp [partsBefore]
  | cons first p ih =>
      cases q with
      | nil => simp [partsBefore]
      | cons second q => simp [partsBefore, List.cons_lt_cons_iff, ih, Text.before_iff_lt]

structure IsName (tree : FileTree) (part : Text) : Prop where
  notUp : part ≠ ['.', '.']
  noNull : Char.ofNat 0 ∉ part
  short : (Utf8.encode part).length ≤ tree.nameLimit

/-- A tree as a file system can hold it: no file is a directory too, and components are names. -/
structure IsFileSystem (tree : FileTree) : Prop where
  apart : ∀ file ∈ tree.files, tree.isDirectory file.1 = false
  names : ∀ place ∈ tree.places, ∀ part ∈ place, tree.IsName part

/-- The components are names that lead from where the path leads down to a file. -/
def LeadsDown (tree : FileTree) (path : Path) (relative : List Text) : Prop :=
  ['.', '.'] ∉ relative ∧ tree.isFile (path.append relative) = .ok true

/-- All that is below the directory can be got at by the path: directories can be listed and names
looked up in them, no walk goes too deep, and no path gets too long. -/
structure Accessible (tree : FileTree) (path : Path) (directory : List Text) : Prop where
  readable : ∀ relative, tree.isDirectory (directory ++ relative) = true →
    tree.unreadable.contains (directory ++ relative) = false
  searchable : ∀ relative, tree.isDirectory (directory ++ relative) = true →
    tree.unsearchable.contains (directory ++ relative) = false
  shallow : ∀ relative ∈ tree.placesBelow directory, relative.length ≤ tree.depthLimit
  short : ∀ relative ∈ tree.placesBelow directory,
    (Utf8.encode (path.append relative).toText).length ≤ tree.pathLimit

/-- How something below a directory gets in the way of a walk. -/
inductive Obstructs (tree : FileTree) (path : Path) (directory relative : List Text) :
    Obstacle → Prop
  | tooDeep (inside : tree.isDirectory (directory ++ relative) = true)
      (deep : tree.depthLimit < relative.length) :
      Obstructs tree path directory relative (.tooDeep (path.append relative))
  | tooLong (inside : tree.isDirectory (directory ++ relative) = true)
      (long : tree.pathLimit < (Utf8.encode (path.append relative).toText).length) :
      Obstructs tree path directory relative (.refused (path.append relative) .tooLong)
  | refused (cause : Refusal) (asked : tree.isFile (path.append relative) = .error cause) :
      Obstructs tree path directory relative (.refused (path.append relative) cause)

variable {tree : FileTree}

section Places

theorem below_eq_some_iff (directory parts relative : List Text) :
    below? directory parts = some relative ↔ parts = directory ++ relative := by
  simp only [below?, Option.ite_none_right_eq_some, List.isPrefixOf_iff_prefix, Option.some.injEq]
  constructor
  · rintro ⟨⟨rest, rfl⟩, cut⟩
    rw [← cut, List.drop_left]
  · rintro rfl
    exact ⟨List.prefix_append directory relative, List.drop_left⟩

theorem mem_stages (relative stage : List Text) :
    stage ∈ stages relative ↔ stage ≠ [] ∧ stage <+: relative := by
  simp only [stages, List.mem_map, List.mem_range]
  constructor
  · rintro ⟨count, within, rfl⟩
    refine ⟨?_, List.take_prefix _ _⟩
    rw [ne_eq, List.take_eq_nil_iff]
    rintro (zero | empty)
    · omega
    · simp [empty] at within
  · rintro ⟨nonempty, inside⟩
    have length := inside.length_le
    have positive := List.length_pos_iff.mpr nonempty
    refine ⟨stage.length - 1, by omega, ?_⟩
    rw [Nat.sub_add_cancel positive]
    exact (List.prefix_iff_eq_take.mp inside).symm

def Present (tree : FileTree) (parts : List Text) : Prop := ∃ place ∈ tree.places, parts <+: place

theorem mem_placesBelow (directory relative : List Text) :
    relative ∈ tree.placesBelow directory ↔
      relative ≠ [] ∧ tree.Present (directory ++ relative) := by
  simp only [placesBelow, List.mem_eraseDups, List.mem_flatMap, List.mem_filterMap,
    below_eq_some_iff, mem_stages]
  constructor
  · rintro ⟨below, ⟨_, member, rfl⟩, nonempty, inside⟩
    exact ⟨nonempty, _, member, (List.prefix_append_right_inj directory).mpr inside⟩
  · rintro ⟨nonempty, _, member, rest, rfl⟩
    refine ⟨relative ++ rest, ⟨_, member, List.append_assoc ..⟩, nonempty, ?_⟩
    exact List.prefix_append relative rest

theorem isDirectory_iff (parts : List Text) :
    tree.isDirectory parts = true ↔
      (∃ place ∈ tree.directories ++ [tree.current], parts <+: place) ∨
        ∃ file ∈ tree.files, parts <+: file.1 ∧ parts ≠ file.1 := by
  simp only [isDirectory, Bool.or_eq_true, List.any_eq_true, Bool.and_eq_true, bne_iff_ne,
    List.isPrefixOf_iff_prefix, List.mem_append, List.mem_singleton]
  constructor
  · rintro ((current | ⟨place, member, inside⟩) | ⟨file, member, inside, other⟩)
    · exact .inl ⟨_, .inr rfl, current⟩
    · exact .inl ⟨place, .inl member, inside⟩
    · exact .inr ⟨file, member, inside, other⟩
  · rintro (⟨place, member | rfl, inside⟩ | ⟨file, member, inside, other⟩)
    · exact .inl (.inr ⟨place, member, inside⟩)
    · exact .inl (.inl inside)
    · exact .inr ⟨file, member, inside, other⟩

theorem isDirectory_above {parts rest : List Text} (there : tree.Present (parts ++ rest))
    (down : rest ≠ []) : tree.isDirectory parts = true := by
  obtain ⟨place, member, inside⟩ := there
  have above : parts <+: place := (List.prefix_append parts rest).trans inside
  rw [isDirectory_iff]
  rw [places, List.append_assoc, List.mem_append, List.mem_map] at member
  rcases member with ⟨file, held, rfl⟩ | other
  · refine .inr ⟨file, held, above, ?_⟩
    intro same
    have length := inside.length_le
    rw [← same, List.length_append] at length
    exact down (List.eq_nil_of_length_eq_zero (by omega))
  · exact .inl ⟨place, other, above⟩

theorem present_of_directory {parts : List Text} (inside : tree.isDirectory parts = true) :
    tree.Present parts := by
  rcases (isDirectory_iff parts).mp inside with ⟨place, member, above⟩ | ⟨file, member, above, -⟩
  · refine ⟨place, ?_, above⟩
    rw [places, List.append_assoc]
    exact List.mem_append_right _ member
  · refine ⟨file.1, ?_, above⟩
    rw [places, List.append_assoc]
    exact List.mem_append_left _ (List.mem_map_of_mem member)

theorem mem_of_file {parts : List Text} {entry : FileEntry}
    (found : tree.file? parts = some entry) : (parts, entry) ∈ tree.files := by
  obtain ⟨before, after, split, -⟩ := List.lookup_eq_some_iff.mp found
  rw [split]
  exact List.mem_append_right before List.mem_cons_self

theorem present_of_file {parts : List Text} {entry : FileEntry}
    (found : tree.file? parts = some entry) : tree.Present parts := by
  refine ⟨parts, ?_, List.prefix_refl parts⟩
  rw [places, List.append_assoc]
  exact List.mem_append_left _ (List.mem_map.mpr ⟨_, mem_of_file found, rfl⟩)

theorem directory_or_file {parts : List Text} (there : tree.Present parts) :
    tree.isDirectory parts = true ∨ ∃ entry, tree.file? parts = some entry := by
  obtain ⟨place, member, inside⟩ := there
  rw [places, List.append_assoc, List.mem_append, List.mem_map] at member
  rcases member with ⟨file, held, rfl⟩ | other
  · by_cases same : parts = file.1
    · right
      have listed : (tree.file? parts).isSome = true := by
        simpa [file?, same] using ⟨file.2, held⟩
      exact Option.isSome_iff_exists.mp listed
    · exact .inl ((isDirectory_iff parts).mpr (.inr ⟨file, held, inside, same⟩))
  · exact .inl ((isDirectory_iff parts).mpr (.inl ⟨place, other, inside⟩))

theorem names_below (system : tree.IsFileSystem) {directory relative : List Text}
    (there : tree.Present (directory ++ relative)) : ∀ part ∈ relative, tree.IsName part := by
  obtain ⟨place, member, inside⟩ := there
  intro part listed
  exact system.names place member part (inside.subset (List.mem_append_right directory listed))

end Places

section Following

/-- Where a path leads is where its end leads from the directory of its beginning. -/
theorem follow_append (here first second there : List Text)
    (leads : tree.follow here first = .directory there) :
    tree.follow here (first ++ second) = tree.follow there second := by
  induction first generalizing here with
  | nil =>
      injection leads with same
      rw [← same, List.nil_append]
  | cons part rest ih =>
      simp only [List.cons_append, follow] at leads ⊢
      split at leads
      case isTrue => cases leads
      case isFalse entered =>
          rw [if_neg entered]
          split at leads
          case isTrue up =>
              rw [if_pos up]
              exact ih _ leads
          case isFalse name =>
              rw [if_neg name]
              split at leads
              case isTrue => cases leads
              case isFalse fits =>
                  rw [if_neg fits]
                  split at leads
                  case isTrue inside =>
                      rw [if_pos inside]
                      exact ih _ leads
                  case isFalse => split at leads <;> cases leads

theorem locate_append {path : Path} {directory : List Text}
    (leads : tree.locate path = .directory directory) (relative : List Text) :
    tree.locate (path.append relative) =
      if tree.pathLimit < (Utf8.encode (path.append relative).toText).length then
        .refused .tooLong
      else tree.follow directory relative := by
  rw [locate]
  split
  · rfl
  · rw [locate] at leads
    split at leads
    · cases leads
    · have root : (path.append relative).root = path.root := rfl
      split at leads
      · rename_i rooted
        rw [if_pos (root ▸ rooted)]
        exact follow_append _ _ _ _ leads
      · rename_i unrooted
        rw [if_neg (root ▸ unrooted)]
        split at leads
        · cases leads
        · rename_i entered
          rw [if_neg entered]
          exact follow_append _ _ _ _ leads

theorem file_of_follow (here relative parts : List Text) (entry : FileEntry)
    (names : ['.', '.'] ∉ relative) (leads : tree.follow here relative = .file parts entry) :
    tree.file? (here ++ relative) = some entry := by
  induction relative generalizing here with
  | nil => cases leads
  | cons part rest ih =>
      have name : part ≠ ['.', '.'] := fun up => names (up ▸ List.mem_cons_self)
      simp only [follow, if_neg name] at leads
      split at leads
      · cases leads
      · split at leads
        · cases leads
        · split at leads
          · have found := ih _ (fun member => names (List.mem_cons_of_mem part member)) leads
            rwa [List.append_assoc] at found
          · split at leads
            · cases leads
            · rename_i there
              injection leads with _ same
              rw [there, same]
            · cases leads

theorem follow_name (here relative : List Text) (part : Text)
    (searchable : tree.unsearchable.contains here = false) (name : tree.IsName part) :
    tree.follow here (part :: relative) =
      if tree.isDirectory (here ++ [part]) then tree.follow (here ++ [part]) relative
      else
        match tree.file? (here ++ [part]), relative with
        | none, _ => .nowhere
        | some entry, [] => .file (here ++ [part]) entry
        | some _, _ :: _ => .throughFile := by
  have looked : ¬ tree.unsearchable.contains here = true := Bool.eq_false_iff.mp searchable
  have fits := Nat.not_lt.mpr name.short
  exact (if_neg looked).trans ((if_neg name.notUp).trans (if_neg fits))

theorem follow_down (system : tree.IsFileSystem) (here relative : List Text)
    (searchable : ∀ rest, tree.isDirectory (here ++ rest) = true →
      tree.unsearchable.contains (here ++ rest) = false)
    (down : relative ≠ []) (there : tree.Present (here ++ relative)) :
    tree.follow here relative = .directory (here ++ relative) ∨
      ∃ entry, tree.file? (here ++ relative) = some entry ∧
        tree.follow here relative = .file (here ++ relative) entry := by
  induction relative generalizing here with
  | nil => exact absurd rfl down
  | cons part rest ih =>
      have inside := isDirectory_above there (List.cons_ne_nil part rest)
      have own : tree.unsearchable.contains here = false := by
        simpa using searchable [] (by simpa using inside)
      rw [follow_name here rest part own (names_below system there part List.mem_cons_self)]
      have step : here ++ part :: rest = (here ++ [part]) ++ rest := by simp
      rw [step] at there ⊢
      -- only the last name can stop at a file, all others have something below them
      cases rest with
      | nil =>
          rw [List.append_nil] at there ⊢
          rcases directory_or_file there with inside | ⟨entry, found⟩
          · rw [if_pos inside]
            exact .inl rfl
          · rw [system.apart _ (mem_of_file found), found]
            exact .inr ⟨entry, rfl, rfl⟩
      | cons next rest =>
          rw [if_pos (isDirectory_above there (List.cons_ne_nil next rest))]
          refine ih _ ?_ (List.cons_ne_nil next rest) there
          intro others inside
          rw [List.append_assoc] at inside ⊢
          exact searchable _ inside

end Following

end FileTree

theorem Language.detect_isSome_iff (path : Path) :
    (Language.detect? path).isSome = true ↔
      Text.lower path.suffix ∈ Languages.all.extensions := by
  have loaded : ∀ language, language ∈ Languages.all.loaded := by
    intro language
    cases language <;> decide
  simp [Language.detect?, Languages.extensions, Languages.sorted, loaded]

namespace FileTree

variable {tree : FileTree}

section Walking

structure IsSource (tree : FileTree) (path : Path) (relative : List Text) : Prop where
  file : tree.isFile (path.append relative) = .ok true
  extension : Text.lower (path.append relative).suffix ∈ Languages.all.extensions
  allowed : ∀ part ∈ relative, part ∉ ignoredNames

/-- What sifting places comes to: the source files among them in their order, all of them unless a
place gets in the way. -/
structure Sifted (tree : FileTree) (path : Path) (listed : List (List Text))
    (result : Discovery) : Prop where
  inOrder : result.files.Sublist (listed.map path.append)
  sound : ∀ found ∈ result.files, ∃ relative ∈ listed, found = path.append relative ∧
    tree.IsSource path relative
  complete : result.obstacle = none → ∀ relative ∈ listed, tree.IsSource path relative →
    path.append relative ∈ result.files
  refused : ∀ obstacle, result.obstacle = some obstacle → ∃ relative ∈ listed, ∃ cause,
    obstacle = .refused (path.append relative) cause ∧
      tree.isFile (path.append relative) = .error cause

namespace Sifted

variable {path : Path} {first : List Text} {rest : List (List Text)} {result : Discovery}

theorem skip (others : tree.Sifted path rest result) (other : ¬ tree.IsSource path first) :
    tree.Sifted path (first :: rest) result where
  inOrder := others.inOrder.cons _
  sound := by
    intro found member
    obtain ⟨relative, listed, same, source⟩ := others.sound found member
    exact ⟨relative, List.mem_cons_of_mem first listed, same, source⟩
  complete := by
    intro clear relative listed source
    rcases List.mem_cons.mp listed with rfl | later
    · exact absurd source other
    · exact others.complete clear relative later source
  refused := by
    intro obstacle met
    obtain ⟨relative, listed, cause⟩ := others.refused obstacle met
    exact ⟨relative, List.mem_cons_of_mem first listed, cause⟩

theorem keep (others : tree.Sifted path rest result) (source : tree.IsSource path first) :
    tree.Sifted path (first :: rest) ((Discovery.found [path.append first]).andThen result) where
  inOrder := others.inOrder.cons_cons _
  sound := by
    intro found member
    rcases List.mem_cons.mp member with rfl | later
    · exact ⟨first, List.mem_cons_self, rfl, source⟩
    · obtain ⟨relative, listed, same, own⟩ := others.sound found later
      exact ⟨relative, List.mem_cons_of_mem first listed, same, own⟩
  complete := by
    intro clear relative listed own
    rcases List.mem_cons.mp listed with rfl | later
    · exact List.mem_cons_self
    · exact List.mem_cons_of_mem _ (others.complete clear relative later own)
  refused := by
    intro obstacle met
    obtain ⟨relative, listed, cause⟩ := others.refused obstacle met
    exact ⟨relative, List.mem_cons_of_mem first listed, cause⟩

theorem stop (cause : Refusal) (asked : tree.isFile (path.append first) = .error cause) :
    tree.Sifted path (first :: rest) (.stopped (.refused (path.append first) cause)) where
  inOrder := List.nil_sublist _
  sound := fun found member => nomatch member
  complete := fun clear => nomatch clear
  refused := by
    intro obstacle met
    cases met
    exact ⟨first, List.mem_cons_self, cause, rfl, asked⟩

end Sifted

theorem sift_sifted (path : Path) (listed : List (List Text)) :
    tree.Sifted path listed (tree.sift path listed) := by
  induction listed with
  | nil =>
      refine ⟨List.Sublist.slnil, ?_, ?_, ?_⟩
      · exact fun _ member => nomatch member
      · exact fun _ _ member => nomatch member
      · exact fun _ met => nomatch met
  | cons first rest ih =>
      rw [sift]
      split
      case isTrue ignored =>
          apply ih.skip
          intro source
          obtain ⟨part, member, name⟩ := List.any_eq_true.mp ignored
          exact source.allowed part member (by simpa using name)
      case isFalse allowed =>
          split
          · rename_i cause asked
            exact .stop cause asked
          · rename_i isFile asked
            have allowedNames : ∀ part ∈ first, part ∉ ignoredNames := by simpa using allowed
            split
            case isTrue kept =>
                obtain ⟨file, known⟩ := Bool.and_eq_true_iff.mp kept
                subst file
                exact ih.keep ⟨asked, (Language.detect_isSome_iff _).mp known, allowedNames⟩
            case isFalse other =>
                apply ih.skip
                rintro ⟨file, extension, -⟩
                cases asked.symm.trans file
                exact other (Bool.and_eq_true_iff.mpr
                  ⟨rfl, (Language.detect_isSome_iff _).mpr extension⟩)

def sortedBelow (tree : FileTree) (path : Path) (directory : List Text) : List (List Text) :=
  (tree.listedBelow path directory).mergeSort fun a b => !partsBefore b a

theorem mem_sortedBelow (path : Path) (directory relative : List Text) :
    relative ∈ tree.sortedBelow path directory ↔
      relative ∈ tree.placesBelow directory ∧ tree.isListed path relative = true := by
  rw [sortedBelow, List.mem_mergeSort, listedBelow, List.mem_filter]

theorem sortedBelow_ascend (path : Path) (directory : List Text) :
    (tree.sortedBelow path directory).Pairwise (· < ·) := by
  have once : (tree.sortedBelow path directory).Nodup := by
    rw [sortedBelow, (List.mergeSort_perm _ _).nodup_iff]
    exact (nodup_eraseDups _).filter _
  have sorted : (tree.sortedBelow path directory).Pairwise fun first second =>
      first ≤ second := by
    have order : ∀ first second : List Text,
        (!partsBefore second first) = true ↔ first ≤ second := by
      intro first second
      rw [Bool.not_eq_true', ← Bool.not_eq_true, partsBefore_iff_lt, not_lt]
    simp only [sortedBelow, ← order]
    apply List.pairwise_mergeSort
    · intro first second third
      simp only [order]
      exact le_trans
    · intro first second
      rw [Bool.or_eq_true, order, order]
      exact le_total first second
  exact (sorted.and once).imp fun {first second} both => lt_of_le_of_ne both.1 both.2

theorem obstructs_of_barrier (path : Path) (directory relative : List Text) (obstacle : Obstacle)
    (barred : tree.barrier? path directory relative = some obstacle) :
    tree.Obstructs path directory relative obstacle := by
  simp only [barrier?] at barred
  split at barred
  · cases barred
  · rename_i inside
    have directory : tree.isDirectory (directory ++ relative) = true := by simpa using inside
    split at barred
    · cases barred
      exact .tooDeep directory ‹_›
    · split at barred
      · cases barred
        exact .tooLong directory ‹_›
      · cases barred

structure Walked (tree : FileTree) (path : Path) (directory : List Text)
    (result : Discovery) : Prop where
  inOrder : result.files.Sublist ((tree.sortedBelow path directory).map path.append)
  sound : ∀ found ∈ result.files, ∃ relative ∈ tree.placesBelow directory,
    found = path.append relative ∧ tree.isListed path relative = true ∧ tree.IsSource path relative
  complete : result.obstacle = none → ∀ relative ∈ tree.placesBelow directory,
    tree.isListed path relative = true → tree.IsSource path relative →
      path.append relative ∈ result.files
  obstructed : ∀ obstacle, result.obstacle = some obstacle →
    ∃ relative ∈ tree.placesBelow directory, tree.Obstructs path directory relative obstacle

theorem walk_walked (path : Path) (directory : List Text) :
    tree.Walked path directory (tree.walk path directory) := by
  simp only [walk]
  split
  · rename_i obstacle barred
    obtain ⟨relative, listed, barrier⟩ := List.exists_of_findSome?_eq_some barred
    refine ⟨List.nil_sublist _, ?_, ?_, ?_⟩
    · exact fun _ member => nomatch member
    · exact fun clear => nomatch clear
    · intro met same
      cases same
      exact ⟨relative, (List.mem_filter.mp listed).1,
        obstructs_of_barrier path directory relative obstacle barrier⟩
  · have sifted : tree.Sifted path (tree.sortedBelow path directory) _ := sift_sifted path _
    refine ⟨sifted.inOrder, ?_, ?_, ?_⟩
    · intro found member
      obtain ⟨relative, listed, same, source⟩ := sifted.sound found member
      obtain ⟨below, reached⟩ := (mem_sortedBelow path directory relative).mp listed
      exact ⟨relative, below, same, reached, source⟩
    · intro clear relative below reached
      exact sifted.complete clear relative
        ((mem_sortedBelow path directory relative).mpr ⟨below, reached⟩)
    · intro obstacle met
      obtain ⟨relative, listed, cause, rfl, asked⟩ := sifted.refused obstacle met
      exact ⟨relative, ((mem_sortedBelow path directory relative).mp listed).1,
        .refused cause asked⟩

end Walking

section Access

variable {path : Path} {directory : List Text}

theorem directory_eq_some (leads : tree.directory? path = .ok (some directory)) :
    tree.locate path = .directory directory := by
  rw [directory?] at leads
  split at leads
  · cases leads
  · split at leads
    · cases leads
    · rename_i located
      cases leads
      exact located
    · cases leads

theorem discover_directory (leads : tree.directory? path = .ok (some directory)) :
    tree.discover [path] = tree.walk path directory := by
  rw [discover, expand, leads, discover]
  simp only [Discovery.andThen, Discovery.found]
  split
  · rfl
  · rename_i clear
    rw [List.append_nil, ← clear]

theorem present_of_leadsDown (leads : tree.locate path = .directory directory)
    (relative : List Text) (down : tree.LeadsDown path relative) :
    relative ∈ tree.placesBelow directory := by
  obtain ⟨names, file⟩ := down
  rw [isFile] at file
  split at file
  · cases file
  · rw [locate_append leads] at file
    split at file
    · cases file
    · rename_i parts entry located
      split at located
      · cases located
      · refine (mem_placesBelow directory relative).mpr ⟨?_, ?_⟩
        · rintro rfl
          cases located
        · exact present_of_file (file_of_follow _ _ _ _ names located)
    · cases file

namespace Accessible

theorem step (accessible : tree.Accessible path directory) (name : Text) :
    tree.Accessible (path.append [name]) (directory ++ [name]) := by
  have longer : ∀ relative ∈ tree.placesBelow (directory ++ [name]),
      name :: relative ∈ tree.placesBelow directory := by
    intro relative listed
    obtain ⟨-, there⟩ := (mem_placesBelow _ relative).mp listed
    rw [List.append_assoc] at there
    exact (mem_placesBelow _ _).mpr ⟨List.cons_ne_nil name relative, there⟩
  have joined : ∀ relative,
      (path.append [name]).append relative = path.append (name :: relative) := by
    intro relative
    simp [Path.append]
  constructor
  · intro relative inside
    rw [List.append_assoc] at inside ⊢
    exact accessible.readable _ inside
  · intro relative inside
    rw [List.append_assoc] at inside ⊢
    exact accessible.searchable _ inside
  · intro relative listed
    have within := accessible.shallow _ (longer relative listed)
    rw [List.length_cons] at within
    omega
  · intro relative listed
    rw [joined]
    exact accessible.short _ (longer relative listed)

variable (accessible : tree.Accessible path directory) (system : tree.IsFileSystem)
  (leads : tree.locate path = .directory directory)

include accessible system leads

theorem located (relative : List Text) (listed : relative ∈ tree.placesBelow directory) :
    tree.locate (path.append relative) = .directory (directory ++ relative) ∨
      ∃ entry, tree.file? (directory ++ relative) = some entry ∧
        tree.locate (path.append relative) = .file (directory ++ relative) entry := by
  obtain ⟨down, there⟩ := (mem_placesBelow directory relative).mp listed
  rw [locate_append leads, if_neg (Nat.not_lt.mpr (accessible.short relative listed))]
  exact follow_down system directory relative accessible.searchable down there

theorem listed (relative : List Text) (there : relative ∈ tree.placesBelow directory) :
    tree.isListed path relative = true := by
  -- the path goes down along with the names, and what it gives access to goes with it
  induction relative generalizing path directory with
  | nil => rfl
  | cons name rest ih =>
      have present := ((mem_placesBelow directory _).mp there).2
      have inside := isDirectory_above present (List.cons_ne_nil name rest)
      have readable : tree.unreadable.contains directory = false := by
        simpa using accessible.readable [] (by simpa using inside)
      have listing : tree.canList path = true := by
        simp only [canList, leads, readable, Bool.not_false]
      rw [isListed, listing, Bool.true_and]
      cases rest with
      | nil => rfl
      | cons next rest =>
          have step : directory ++ name :: next :: rest =
              (directory ++ [name]) ++ next :: rest := by
            simp
          rw [step] at present
          have above := isDirectory_above present (List.cons_ne_nil next rest)
          have named : [name] ∈ tree.placesBelow directory :=
            (mem_placesBelow _ _).mpr ⟨List.cons_ne_nil name [], present_of_directory above⟩
          refine ih (accessible.step name) ?_ ?_
          · rcases accessible.located system leads [name] named with there | ⟨entry, file, -⟩
            · exact there
            · rw [system.apart _ (mem_of_file file)] at above
              cases above
          · exact (mem_placesBelow _ _).mpr ⟨List.cons_ne_nil next rest, present⟩

theorem unobstructed (relative : List Text) (there : relative ∈ tree.placesBelow directory)
    (obstacle : Obstacle) : ¬ tree.Obstructs path directory relative obstacle := by
  intro obstructs
  cases obstructs with
  | tooDeep inside deep => exact absurd (accessible.shallow relative there) (Nat.not_le.mpr deep)
  | tooLong inside long => exact absurd (accessible.short relative there) (Nat.not_le.mpr long)
  | refused cause asked =>
      rw [isFile] at asked
      split at asked
      · cases asked
      · rcases accessible.located system leads relative there with located | ⟨entry, -, located⟩
        · rw [located] at asked
          cases asked
        · rw [located] at asked
          cases asked

end Accessible

namespace Walked

variable {result : Discovery} (walked : tree.Walked path directory result)

include walked

theorem leadsDown (system : tree.IsFileSystem) (found : Path) (member : found ∈ result.files) :
    ∃ relative, found = path.append relative ∧ tree.LeadsDown path relative ∧
      tree.isListed path relative = true ∧ Text.lower found.suffix ∈ Languages.all.extensions ∧
      ∀ part ∈ relative, part ∉ ignoredNames := by
  obtain ⟨relative, below, rfl, reached, source⟩ := walked.sound found member
  have names := names_below system ((mem_placesBelow directory relative).mp below).2
  refine ⟨relative, rfl, ⟨?_, source.file⟩, reached, source.extension, source.allowed⟩
  intro up
  exact (names _ up).notUp rfl

theorem all_found (leads : tree.locate path = .directory directory)
    (clear : result.obstacle = none) (relative : List Text) (down : tree.LeadsDown path relative)
    (reached : tree.isListed path relative = true)
    (extension : Text.lower (path.append relative).suffix ∈ Languages.all.extensions)
    (allowed : ∀ part ∈ relative, part ∉ ignoredNames) : path.append relative ∈ result.files :=
  walked.complete clear relative (present_of_leadsDown leads relative down) reached
    ⟨down.2, extension, allowed⟩

theorem ascend : result.files.Pairwise fun first second => first.parts < second.parts := by
  refine List.Pairwise.sublist walked.inOrder (List.pairwise_map.mpr ?_)
  exact (sortedBelow_ascend path directory).imp fun before => List.append_left_lt before

theorem clear (accessible : tree.Accessible path directory) (system : tree.IsFileSystem)
    (leads : tree.locate path = .directory directory) : result.obstacle = none := by
  rw [Option.eq_none_iff_forall_ne_some]
  intro obstacle met
  obtain ⟨relative, below, obstructs⟩ := walked.obstructed obstacle met
  exact accessible.unobstructed system leads relative below obstacle obstructs

end Walked

end Access

end FileTree

theorem FileFailure.kind_of_code (failure : FileFailure)
    (code : failure.error.code = "UNSUPPORTED_LANGUAGE".toList) :
    failure.error.kind = .unsupportedLanguage := by
  have default : failure.error.code = failure.error.kind.defaultCode := by cases failure <;> rfl
  rw [default] at code
  cases kind : failure.error.kind with
  | unsupportedLanguage => rfl
  | _ =>
      rw [kind] at code
      exact absurd code (by decide)

theorem Linter.failure_of_supported (linter : Linter) (tree : FileTree) (path : Path)
    (known : (Language.detect? path).isSome = true) (failure : FileFailure)
    (recorded : (linter.lintFile tree path).report.failure = some failure) :
    failure.error.code ≠ "UNSUPPORTED_LANGUAGE".toList := by
  intro code
  have kind := failure.kind_of_code code
  rcases tree.usable_or_not path with ⟨_, _, _, holds⟩ | ⟨other, unusable⟩
  · rw [holds.recorded linter] at recorded
    cases recorded
  · rw [unusable.recorded linter] at recorded
    obtain rfl := Option.some.inj recorded
    cases unusable with
    | undetected unknown =>
        rw [unknown] at known
        cases known
    | unopened => cases kind
    | undecoded => cases kind
    | unparsed => cases kind

/-- What a path stands for. One that the system does not follow stands for nothing and ends the
search, and one that is no directory stands for itself. From a directory the files are found that
names lead down to, of a supported extension, with no ignored name on the way and every directory on
the way listed, each once and in the order of their components: all of them unless something below
gets in the way, which nothing does where all that is below can be got at. None of the files is ever
reported to be of an unsupported language. -/
theorem discover_exact (tree : FileTree) (system : tree.IsFileSystem) (path : Path) :
    (∀ cause, tree.directory? path = .error cause →
      tree.discover [path] = .stopped (.refused path cause)) ∧
    (tree.directory? path = .ok none → tree.discover [path] = .found [path]) ∧
    ∀ directory, tree.directory? path = .ok (some directory) →
      let walk := tree.discover [path]
      (∀ found ∈ walk.files, ∃ relative, found = path.append relative ∧
        tree.LeadsDown path relative ∧ tree.isListed path relative = true ∧
        Text.lower found.suffix ∈ Languages.all.extensions ∧
        ∀ part ∈ relative, part ∉ FileTree.ignoredNames) ∧
      (walk.obstacle = none → ∀ relative,
        tree.LeadsDown path relative → tree.isListed path relative = true →
        Text.lower (path.append relative).suffix ∈ Languages.all.extensions →
        (∀ part ∈ relative, part ∉ FileTree.ignoredNames) → path.append relative ∈ walk.files) ∧
      (∀ obstacle, walk.obstacle = some obstacle →
        ∃ relative ∈ tree.placesBelow directory,
          tree.Obstructs path directory relative obstacle) ∧
      (tree.Accessible path directory → walk.obstacle = none ∧
        ∀ found, found ∈ walk.files ↔
          ∃ relative, found = path.append relative ∧ tree.LeadsDown path relative ∧
            Text.lower found.suffix ∈ Languages.all.extensions ∧
            ∀ part ∈ relative, part ∉ FileTree.ignoredNames) ∧
      walk.files.Nodup ∧
      walk.files.Pairwise (fun first second => first.parts < second.parts) ∧
      ∀ found ∈ walk.files,
        ∀ (linter : Linter) (later : FileTree) (failure : FileFailure),
          (linter.lintFile later found).report.failure = some failure →
            failure.error.code ≠ "UNSUPPORTED_LANGUAGE".toList := by
  refine ⟨?_, ?_, ?_⟩
  · intro cause refused
    exact tree.discover_refused [] [] path cause (fun _ member => nomatch member) refused
  · intro elsewhere
    exact tree.discover_plain [path] (by simpa using elsewhere)
  intro directory leads walk
  have located := FileTree.directory_eq_some leads
  have walked : tree.Walked path directory walk := by
    simp only [walk, FileTree.discover_directory leads]
    exact FileTree.walk_walked path directory
  refine ⟨walked.leadsDown system, walked.all_found located, walked.obstructed, ?_, ?_,
    walked.ascend, ?_⟩
  · intro accessible
    have clear := walked.clear accessible system located
    refine ⟨clear, ?_⟩
    intro found
    constructor
    · intro member
      obtain ⟨relative, same, down, -, source⟩ := walked.leadsDown system found member
      exact ⟨relative, same, down, source⟩
    · rintro ⟨relative, rfl, down, extension, allowed⟩
      have below := FileTree.present_of_leadsDown located relative down
      exact walked.all_found located clear relative down
        (accessible.listed system located relative below) extension allowed
  · refine walked.ascend.imp ?_
    rintro first second before rfl
    exact lt_irrefl _ before
  · intro found member linter later failure
    obtain ⟨_, _, _, _, extension, _⟩ := walked.leadsDown system found member
    exact linter.failure_of_supported later found
      ((Language.detect_isSome_iff found).mpr extension) failure

theorem discover_exact_detour :
    let tree : FileTree :=
      { files := [(["home", "src", "b.PY"], ⟨[], none⟩),
          (["home", "src", "build", "a.py"], ⟨[], none⟩)]
        directories := [["home", "src", "c.py"]]
        current := ["home", "work"] }
    let path := Path.ofText "/home/work/../src"
    let missing := Path.ofText "../missing"
    tree.IsFileSystem ∧ tree.directory? path = .ok (some ["home".toList, "src".toList]) ∧
      tree.directory? missing = .ok none ∧ (tree.discover [path]).obstacle = none ∧
      path.append ["b.PY"] ∈ (tree.discover [path]).files ∧
      path.append ["build", "a.py"] ∉ (tree.discover [path]).files ∧
      path.append ["c.py"] ∉ (tree.discover [path]).files ∧
      tree.discover [missing] = .found [missing] := by
  intro tree path missing
  have names : ∀ place ∈ tree.places, ∀ part ∈ place, part ≠ ['.', '.'] ∧ Char.ofNat 0 ∉ part ∧
      (Utf8.encode part).length ≤ tree.nameLimit := by
    decide +kernel
  have system : tree.IsFileSystem := by
    refine ⟨by decide +kernel, ?_⟩
    intro place member part listed
    obtain ⟨notUp, noNull, short⟩ := names place member part listed
    exact ⟨notUp, noNull, short⟩
  have leads : tree.directory? path = .ok (some ["home".toList, "src".toList]) := by
    decide +kernel
  have elsewhere : tree.directory? missing = .ok none := by decide +kernel
  have accessible : tree.Accessible path ["home".toList, "src".toList] :=
    ⟨fun _ _ => rfl, fun _ _ => rfl, by decide +kernel, by decide +kernel⟩
  obtain ⟨-, -, -, exact, -⟩ := (discover_exact tree system path).2.2 _ leads
  obtain ⟨clear, members⟩ := exact accessible
  refine ⟨system, leads, elsewhere, clear, ?_, ?_, ?_,
    (discover_exact tree system missing).2.1 elsewhere⟩
  · have known : (Language.detect? (path.append ["b.PY"])).isSome = true := by decide +kernel
    exact (members _).mpr
      ⟨["b.PY"], rfl, ⟨by decide, by decide +kernel⟩, (Language.detect_isSome_iff _).mp known,
        by decide⟩
  · intro found
    obtain ⟨relative, same, -, -, allowed⟩ := (members _).mp found
    obtain rfl := List.append_cancel_left (congrArg Path.parts same)
    exact absurd (allowed "build" List.mem_cons_self) (by decide)
  · intro found
    obtain ⟨relative, same, ⟨-, file⟩, -⟩ := (members _).mp found
    rw [← same] at file
    have directory : tree.isFile (path.append ["c.py"]) = .ok false := by decide +kernel
    cases directory.symm.trans file

/-- A name of three hundred letters, at which there is no directory, does not stand for itself. -/
theorem discover_lost_to_long_name :
    let long : Path := .ofText (List.replicate 300 'a' ++ ".py".toList)
    let tree : FileTree := { files := [], directories := [] }
    tree.IsFileSystem ∧ tree.directory? long = .error .tooLong ∧
      tree.discover [long] = .stopped (.refused long .tooLong) ∧
      (tree.discover [long]).files ≠ [long] := by
  intro long tree
  have system : tree.IsFileSystem := by
    constructor
    · exact fun _ member => nomatch member
    · intro place member part listed
      obtain rfl : place = [] := by simpa [FileTree.places, tree] using member
      cases listed
  exact ⟨system, by decide +kernel, by decide +kernel, by decide +kernel⟩

end Restatement
