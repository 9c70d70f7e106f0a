import Restatement.Proofs.Attribution
import Restatement.Proofs.Locality

/-!
The construct that a comment belongs to, told over the constructs of an outline in order. Those on
the next line come first, then for a trailing comment those on its own line, then those a few lines
further down; and on its own line a trailing comment looks to its right.
-/

namespace Restatement

def IsFirst {α : Type} (members : List α) (property : α → Prop) (member : α) : Prop :=
  ∃ before after, members = before ++ member :: after ∧ property member ∧
    ∀ earlier ∈ before, ¬ property earlier

theorem IsFirst.mem {α : Type} {members : List α} {property : α → Prop} {member : α}
    (first : IsFirst members property member) : member ∈ members := by
  obtain ⟨before, after, split, -⟩ := first
  rw [split]
  exact List.mem_append_right before List.mem_cons_self

theorem IsFirst.holds {α : Type} {members : List α} {property : α → Prop} {member : α}
    (first : IsFirst members property member) : property member := by
  obtain ⟨_, _, _, holds, -⟩ := first
  exact holds

theorem isFirst_congr {α : Type} (members : List α) (property other : α → Prop)
    (same : ∀ member ∈ members, property member ↔ other member) (member : α)
    (first : IsFirst members property member) : IsFirst members other member := by
  have here := first.mem
  obtain ⟨before, after, split, holds, fails⟩ := first
  refine ⟨before, after, split, (same member here).mp holds, ?_⟩
  intro earlier present
  have inside : earlier ∈ members := by
    rw [split]
    exact List.mem_append_left _ present
  rw [← same earlier inside]
  exact fails earlier present

theorem isFirst_iff_find {α : Type} (members : List α) (property : α → Prop)
    [DecidablePred property] (member : α) :
    IsFirst members property member ↔ members.find? (property ·) = some member := by
  rw [List.find?_eq_some_iff_append]
  constructor
  · intro first
    obtain ⟨before, after, split, holds, fails⟩ := first
    exact ⟨decide_eq_true holds, before, after, split, by simpa using fails⟩
  · intro found
    obtain ⟨holds, before, after, split, fails⟩ := found
    exact ⟨before, after, split, of_decide_eq_true holds, by simpa using fails⟩

theorem findSome_range {α : Type} (choice : Nat → Option α) (bound : Nat) (found : α)
    (chosen : (List.range bound).findSome? choice = some found) :
    ∃ place < bound, choice place = some found ∧ ∀ earlier < place, choice earlier = none := by
  induction bound with
  | zero => cases chosen
  | succ bound ih =>
      rw [List.range_succ, List.findSome?_append] at chosen
      cases below : (List.range bound).findSome? choice with
      | some other =>
          rw [below, Option.some_or] at chosen
          obtain ⟨place, inside, first⟩ := ih (below.trans chosen)
          exact ⟨place, Nat.lt_succ_of_lt inside, first⟩
      | none =>
          rw [below, Option.none_or] at chosen
          have last : choice bound = some found := by simpa using chosen
          have nothing := List.findSome?_eq_none_iff.mp below
          refine ⟨bound, Nat.lt_succ_self bound, last, ?_⟩
          intro earlier before
          exact nothing earlier (List.mem_range.mpr before)

namespace Construct

def StartsOn (line : Int) (construct : Construct) : Prop := construct.startLine? = some line

instance (line : Int) : DecidablePred (StartsOn line) := fun construct =>
  inferInstanceAs (Decidable (construct.startLine? = some line))

def startOffset? (construct : Construct) : Option Int := construct.span.map (·.startOffset)

end Construct

def Outline.placed (outline : Outline) : List Construct :=
  outline.preorder.filter (·.span.isSome)

def AnyStartsOn (constructs : List Construct) (line : Int) : Prop :=
  ∃ construct ∈ constructs, construct.StartsOn line

instance (constructs : List Construct) (line : Int) : Decidable (AnyStartsOn constructs line) :=
  inferInstanceAs (Decidable (∃ construct ∈ constructs, construct.StartsOn line))

theorem find_startsOn_eq_none (constructs : List Construct) (line : Int) :
    constructs.find? (Construct.StartsOn line ·) = none ↔ ¬ AnyStartsOn constructs line := by
  simp [AnyStartsOn]

theorem startingOn_eq (outline : Outline) (line : Int) :
    outline.startingOn line = outline.placed.filter (Construct.StartsOn line ·) := by
  rw [Outline.startingOn, Outline.placed, List.filter_filter]
  apply List.filter_congr
  intro construct _
  cases span : construct.span <;> simp [Construct.StartsOn, Construct.startLine?, span]

theorem find_startingOn (outline : Outline) (line : Int) (test : Construct → Bool)
    (property : Construct → Prop) [DecidablePred property]
    (agree : ∀ construct, property construct ↔ construct.StartsOn line ∧ test construct = true) :
    (outline.startingOn line).find? test = outline.placed.find? (property ·) := by
  rw [startingOn_eq, List.find?_filter]
  congr 1
  funext construct
  simp [agree]

theorem head_startingOn (outline : Outline) (line : Int) :
    (outline.startingOn line).head? = outline.placed.find? (Construct.StartsOn line ·) := by
  rw [startingOn_eq, List.head?_filter]

namespace Construct

def StartsFrom (line offset : Int) (construct : Construct) : Prop :=
  construct.StartsOn line ∧ ∃ start ∈ construct.startOffset?, offset ≤ start

instance (line offset : Int) : DecidablePred (StartsFrom line offset) := fun construct =>
  inferInstanceAs (Decidable (_ ∧ ∃ start ∈ construct.startOffset?, offset ≤ start))

theorem startsPast_iff (construct : Construct) (offset : Int) :
    construct.startsPast offset = true ↔
      ∃ start ∈ construct.startOffset?, offset + 1 ≤ start := by
  unfold startsPast startOffset?
  cases construct.span with
  | none => simp
  | some span =>
      rw [decide_eq_true_iff, ← Int.add_one_le_iff]
      simp

/-- On the line of a comment, to lie past its end is to start at least one byte after it. -/
theorem startsFrom_iff_past (line offset : Int) (construct : Construct) :
    construct.StartsFrom line (offset + 1) ↔
      construct.StartsOn line ∧ construct.startsPast offset = true := by
  rw [StartsFrom, startsPast_iff]

end Construct

namespace Comment

def below? (comment : Comment) (constructs : List Construct) : Option Construct :=
  (constructs.find? fun construct =>
      construct.StartsOn (comment.span.endLine + 1) ∧ construct.kind ≠ .empty).or
    (constructs.find? (Construct.StartsOn (comment.span.endLine + 1) ·))

def beside? (comment : Comment) (constructs : List Construct) : Option Construct :=
  if comment.trailing then
    (constructs.find?
        (Construct.StartsFrom comment.span.startLine (comment.span.endOffset + 1) ·)).or
      (constructs.find? (Construct.StartsOn comment.span.startLine ·))
  else none

def ahead? (comment : Comment) (constructs : List Construct) : Option Construct :=
  (List.range lookahead).findSome? fun (distance : Nat) =>
    constructs.find? (Construct.StartsOn (comment.span.endLine + 2 + distance) ·)

theorem below_eq_none_iff (comment : Comment) (constructs : List Construct) :
    comment.below? constructs = none ↔ ¬ AnyStartsOn constructs (comment.span.endLine + 1) := by
  rw [below?, Option.or_eq_none_iff, find_startsOn_eq_none]
  constructor
  · exact And.right
  · intro clear
    refine ⟨?_, clear⟩
    rw [List.find?_eq_none]
    intro construct member effective
    exact clear ⟨construct, member, (of_decide_eq_true effective).1⟩

theorem beside_eq_none (comment : Comment) (constructs : List Construct)
    (trails : comment.trailing = true) (found : comment.beside? constructs = none) :
    ¬ AnyStartsOn constructs comment.span.startLine := by
  rw [beside?, trails, if_pos rfl, Option.or_eq_none_iff] at found
  exact (find_startsOn_eq_none ..).mp found.2

theorem adjacent_ofOutline (comment : Comment) (outline : Outline) :
    adjacent? comment (.ofOutline outline) =
      ((comment.below? outline.placed).or (comment.beside? outline.placed)).or
        (comment.ahead? outline.placed) := by
  have effective := find_startingOn outline (comment.span.endLine + 1) (·.kind != .empty)
    (fun construct => construct.StartsOn (comment.span.endLine + 1) ∧ construct.kind ≠ .empty)
    (by simp)
  have past := find_startingOn outline comment.span.startLine
    (Construct.startsPast comment.span.endOffset) _
    (Construct.startsFrom_iff_past comment.span.startLine comment.span.endOffset)
  have window : ∀ distance : Nat, comment.span.endLine + 1 + 1 + (distance : Int) =
      comment.span.endLine + 2 + distance := by
    intro distance
    omega
  simp only [adjacent?, firstEffective?, LineIndex.firstAt?, LineIndex.atLine_ofOutline,
    head_startingOn, effective, below?, beside?, ahead?, ← past, window]
  cases comment.trailing with
  | true =>
      simp only [if_true, firstPast?, head_startingOn]
      rfl
  | false => rfl

end Comment

/-- How a comment finds the construct it belongs to among those of a file in order. -/
inductive Comment.Belongs (constructs : List Construct) (comment : Comment) :
    Option Construct → Prop
  | next (construct : Construct)
      (first : IsFirst constructs
        (fun other => other.StartsOn (comment.span.endLine + 1) ∧ other.kind ≠ .empty)
        construct) : Belongs constructs comment (some construct)
  | nextEmpty (construct : Construct)
      (first : IsFirst constructs (Construct.StartsOn (comment.span.endLine + 1)) construct)
      (empty : ∀ other ∈ constructs, other.StartsOn (comment.span.endLine + 1) →
        other.kind = .empty) : Belongs constructs comment (some construct)
  | own (construct : Construct) (clear : ¬ AnyStartsOn constructs (comment.span.endLine + 1))
      (trails : comment.trailing = true) (member : construct ∈ constructs)
      (start : construct.StartsOn comment.span.startLine) :
      Belongs constructs comment (some construct)
  | ahead (line : Int) (construct : Construct)
      (clear : ¬ AnyStartsOn constructs (comment.span.endLine + 1))
      (apart : comment.trailing = true → ¬ AnyStartsOn constructs comment.span.startLine)
      (low : comment.span.endLine + 2 ≤ line) (high : line ≤ comment.span.endLine + 4)
      (least : ∀ other, comment.span.endLine + 2 ≤ other → other < line →
        ¬ AnyStartsOn constructs other)
      (first : IsFirst constructs (Construct.StartsOn line) construct) :
      Belongs constructs comment (some construct)
  | nothing (clear : ¬ AnyStartsOn constructs (comment.span.endLine + 1))
      (apart : comment.trailing = true → ¬ AnyStartsOn constructs comment.span.startLine)
      (bare : ∀ line, comment.span.endLine + 2 ≤ line → line ≤ comment.span.endLine + 4 →
        ¬ AnyStartsOn constructs line) : Belongs constructs comment none

namespace Comment

theorem belongs_next (comment : Comment) (constructs : List Construct) (construct : Construct)
    (found : comment.below? constructs = some construct) :
    comment.Belongs constructs (some construct) := by
  rcases Option.or_eq_some_iff.mp found with effective | ⟨idle, first⟩
  · exact .next construct ((isFirst_iff_find ..).mpr effective)
  · refine .nextEmpty construct ((isFirst_iff_find ..).mpr first) ?_
    intro other member start
    have passed := List.find?_eq_none.mp idle other member
    simpa [start] using passed

theorem belongs_own (comment : Comment) (constructs : List Construct) (construct : Construct)
    (clear : ¬ AnyStartsOn constructs (comment.span.endLine + 1))
    (found : comment.beside? constructs = some construct) :
    comment.Belongs constructs (some construct) := by
  unfold beside? at found
  cases trails : comment.trailing with
  | false => simp [trails] at found
  | true =>
      rw [trails, if_pos rfl] at found
      rcases Option.or_eq_some_iff.mp found with right | ⟨-, first⟩
      · have start : construct.StartsFrom comment.span.startLine (comment.span.endOffset + 1) := by
          simpa using List.find?_some right
        exact .own construct clear trails (List.mem_of_find?_eq_some right) start.1
      · have start : construct.StartsOn comment.span.startLine := by
          simpa using List.find?_some first
        exact .own construct clear trails (List.mem_of_find?_eq_some first) start

theorem belongs_ahead (comment : Comment) (constructs : List Construct)
    (clear : ¬ AnyStartsOn constructs (comment.span.endLine + 1))
    (apart : comment.trailing = true → ¬ AnyStartsOn constructs comment.span.startLine) :
    comment.Belongs constructs (comment.ahead? constructs) := by
  -- a line of the window is its first line and a distance below the bound
  have distant : ∀ line, comment.span.endLine + 2 ≤ line → ∃ distance : Nat,
      comment.span.endLine + 2 + distance = line := by
    intro line low
    exact ⟨(line - comment.span.endLine - 2).toNat, by omega⟩
  have bound : lookahead = 3 := rfl
  cases chosen : comment.ahead? constructs with
  | some construct =>
      obtain ⟨distance, near, first, none⟩ := findSome_range _ _ _ chosen
      refine .ahead _ construct clear apart ?_ ?_ ?_ ((isFirst_iff_find ..).mpr first)
      · omega
      · omega
      · intro other low before
        obtain ⟨earlier, rfl⟩ := distant other low
        exact (find_startsOn_eq_none ..).mp (none earlier (by omega))
  | none =>
      refine .nothing clear apart ?_
      intro line low high
      obtain ⟨distance, rfl⟩ := distant line low
      have inside : distance ∈ List.range lookahead := by
        rw [List.mem_range]
        omega
      exact (find_startsOn_eq_none ..).mp (List.findSome?_eq_none_iff.mp chosen distance inside)

/-- What is picked through the line index is what the comment belongs to in the outline. -/
theorem adjacent_belongs (comment : Comment) (outline : Outline) :
    comment.Belongs outline.placed (adjacent? comment (.ofOutline outline)) := by
  rw [adjacent_ofOutline]
  cases next : comment.below? outline.placed with
  | some construct =>
      simp only [Option.some_or]
      exact comment.belongs_next _ construct next
  | none =>
      have clear := (comment.below_eq_none_iff _).mp next
      rw [Option.none_or]
      cases own : comment.beside? outline.placed with
      | some construct => exact comment.belongs_own _ construct clear own
      | none =>
          rw [Option.none_or]
          apply comment.belongs_ahead _ clear
          intro trails
          exact comment.beside_eq_none _ trails own

theorem Belongs.on_watched_line {comment : Comment} {constructs : List Construct}
    {construct : Construct} (belongs : comment.Belongs constructs (some construct)) :
    ∃ line, comment.watches line ∧ construct ∈ constructs ∧ construct.StartsOn line := by
  cases belongs with
  | next _ first => exact ⟨_, .inl ⟨by omega, by omega⟩, first.mem, first.holds.1⟩
  | nextEmpty _ first => exact ⟨_, .inl ⟨by omega, by omega⟩, first.mem, first.holds⟩
  | own _ clear trails member start => exact ⟨_, .inr ⟨trails, rfl⟩, member, start⟩
  | ahead line _ clear apart low high least first =>
      exact ⟨line, .inl ⟨by omega, high⟩, first.mem, first.holds⟩

theorem Belongs.watched_bare {comment : Comment} {constructs : List Construct}
    (belongs : comment.Belongs constructs none) :
    ∀ line, comment.watches line → ¬ AnyStartsOn constructs line := by
  cases belongs with
  | nothing clear apart bare =>
      intro line watched
      rcases watched with ⟨low, high⟩ | ⟨trails, rfl⟩
      · rcases Int.lt_or_eq_of_le low with further | rfl
        · exact bare line (by omega) high
        · exact clear
      · exact apart trails

theorem Belongs.eq_none_iff {comment : Comment} {constructs : List Construct}
    {answer : Option Construct} (belongs : comment.Belongs constructs answer) :
    answer = none ↔ ∀ line, comment.watches line → ¬ AnyStartsOn constructs line := by
  constructor
  · intro nothing
    rw [nothing] at belongs
    exact belongs.watched_bare
  · intro bare
    cases answer with
    | none => rfl
    | some construct =>
        obtain ⟨line, watched, member, start⟩ := belongs.on_watched_line
        exact absurd ⟨construct, member, start⟩ (bare line watched)

end Comment

theorem Rule.verdict_of_unpaired (rule : Rule) (index : LineIndex) (comment : Comment)
    (unpaired : adjacent? comment index = none) : rule.verdict? index comment = none := by
  unfold verdict?
  split
  · rw [judge_eq, unpaired]
  · rfl

/-- A comment next to which nothing stands leaves the findings as they are without it. -/
theorem Rule.check_of_unpaired [CharacterNames] (rule : Rule) (past : Past) (file : ParsedFile)
    (before after : List Comment) (comment : Comment)
    (split : file.comments = before ++ comment :: after)
    (unpaired : adjacent? comment (.ofOutline file.outline) = none) :
    (rule.check past.caches file).value =
      (rule.check past.caches { file with comments := before ++ after }).value := by
  rw [(rule.check_gives _ past.caches_faithful _).value,
    (rule.check_gives _ past.caches_faithful _).value]
  simp only [findings, split, List.filterMap_append, List.filterMap_cons,
    rule.verdict_of_unpaired _ comment unpaired]

/-- A comment belongs to a construct on the next line, else on its own line if it trails, else on
the nearest of the lines further down. It belongs to none just when nothing starts on these lines;
and a leading comment below which nothing starts is never found. -/
theorem comment_belongs [CharacterNames] (outline : Outline) (comment : Comment) :
    comment.Belongs outline.placed (adjacent? comment (.ofOutline outline)) ∧
      (adjacent? comment (.ofOutline outline) = none ↔
        ∀ line, comment.watches line → ¬ AnyStartsOn outline.placed line) ∧
      (comment.trailing = false →
        (∀ line, AnyStartsOn outline.placed line → line ≤ comment.span.endLine) →
        ∀ (past : Past) (rule : Rule) (file : ParsedFile) (before after : List Comment),
          file.outline = outline → file.comments = before ++ comment :: after →
            (rule.check past.caches file).value =
              (rule.check past.caches { file with comments := before ++ after }).value) := by
  have belongs := comment.adjacent_belongs outline
  have unpaired := belongs.eq_none_iff
  refine ⟨belongs, unpaired, ?_⟩
  intro leads above past rule file before after here split
  apply rule.check_of_unpaired past file before after comment split
  rw [here, unpaired]
  intro line watched started
  rcases watched with ⟨low, -⟩ | ⟨trails, -⟩
  · have high := above line started
    omega
  · rw [leads] at trails
    cases trails

theorem comment_belongs_last_line :
    let _ : CharacterNames := .none
    let first : Comment := ⟨⟨1, 0, 1, 9, 0, 9⟩, .line, " return".toList, false⟩
    let last : Comment := ⟨⟨3, 0, 3, 9, 20, 29⟩, .line, " return".toList, false⟩
    let file := ParsedFile.returning [first, last]
    let rule : Rule := ⟨{}, {}, [], []⟩
    let past : Past := ⟨⟨1, by decide⟩, ⟨1, by decide⟩, []⟩
    last.trailing = false ∧ (∀ line, AnyStartsOn file.outline.placed line → line ≤ 3) ∧
      (rule.check past.caches file).value.length = 1 ∧
      (rule.check past.caches file).value =
        (rule.check past.caches { file with comments := [first] }).value := by
  intro _ first last file rule past
  have above : ∀ line, AnyStartsOn file.outline.placed line → line ≤ 3 := by
    have second : ∀ construct ∈ file.outline.placed, construct.StartsOn 2 := by decide +kernel
    intro line started
    obtain ⟨construct, member, start⟩ := started
    have two : 2 = line := Option.some.inj ((second construct member).symm.trans start)
    omega
  obtain ⟨-, -, silent⟩ := comment_belongs file.outline last
  exact ⟨rfl, above, by decide +kernel, silent rfl above past rule file [first] [] rfl rfl⟩

def Construct.NotAfter (first second : Construct) : Prop :=
  ∀ start ∈ first.startOffset?, ∀ later ∈ second.startOffset?, start ≤ later

instance : DecidableRel Construct.NotAfter := fun first second =>
  inferInstanceAs
    (Decidable (∀ start ∈ first.startOffset?, ∀ later ∈ second.startOffset?, start ≤ later))

def Outline.Ordered (outline : Outline) : Prop := outline.placed.Pairwise Construct.NotAfter

instance (outline : Outline) : Decidable outline.Ordered :=
  inferInstanceAs (Decidable (outline.placed.Pairwise Construct.NotAfter))

theorem Outline.Ordered.nearest {outline : Outline} (ordered : outline.Ordered)
    (property : Construct → Prop) (construct : Construct)
    (first : IsFirst outline.placed property construct) :
    ∀ other ∈ outline.placed, property other → construct.NotAfter other := by
  intro other member holds
  obtain ⟨before, after, split, -, fails⟩ := first
  rw [Outline.Ordered, split] at ordered
  rw [split] at member
  rcases List.mem_append.mp member with earlier | later
  · exact absurd holds (fails other earlier)
  · rcases List.mem_cons.mp later with rfl | later
    · intro start same later again
      exact Int.le_of_eq (Option.some.inj (same.symm.trans again))
    · have tail := (List.pairwise_append.mp ordered).2.1
      exact (List.pairwise_cons.mp tail).1 other later

/-- A comment belongs to the first construct of its line from an offset on, which is the nearest of
them; when there is none from there on, it belongs to the first of the line. -/
def Comment.PairsFrom (comment : Comment) (outline : Outline) (offset : Int) : Prop :=
  (∀ construct,
    IsFirst outline.placed (Construct.StartsFrom comment.span.startLine offset) construct →
      adjacent? comment (.ofOutline outline) = some construct ∧
        ∀ other ∈ outline.placed, other.StartsFrom comment.span.startLine offset →
          construct.NotAfter other) ∧
    ((∀ other ∈ outline.placed, ¬ other.StartsFrom comment.span.startLine offset) →
      ∀ construct, IsFirst outline.placed (Construct.StartsOn comment.span.startLine) construct →
        adjacent? comment (.ofOutline outline) = some construct)

/-- The comparison is strict: what is looked for starts past the end of the comment. -/
theorem Comment.pairsFrom_past (comment : Comment) (outline : Outline) (ordered : outline.Ordered)
    (trails : comment.trailing = true)
    (clear : ¬ AnyStartsOn outline.placed (comment.span.endLine + 1)) :
    comment.PairsFrom outline (comment.span.endOffset + 1) := by
  have answer := comment.adjacent_ofOutline outline
  rw [(comment.below_eq_none_iff _).mpr clear, Option.none_or, beside?, trails, if_pos rfl]
    at answer
  constructor
  · intro construct first
    refine ⟨?_, ordered.nearest _ construct first⟩
    rw [answer, (isFirst_iff_find ..).mp first, Option.some_or, Option.some_or]
  · intro none construct first
    have nowhere : outline.placed.find? (Construct.StartsFrom comment.span.startLine
        (comment.span.endOffset + 1) ·) = .none := by
      rw [List.find?_eq_none]
      intro other member right
      exact none other member (of_decide_eq_true right)
    rw [answer, nowhere, (isFirst_iff_find ..).mp first, Option.none_or, Option.some_or]

theorem Comment.pairsFrom_end (comment : Comment) (outline : Outline)
    (apart : ∀ construct ∈ outline.placed, construct.StartsOn comment.span.startLine →
      construct.startOffset? ≠ some comment.span.endOffset)
    (past : comment.PairsFrom outline (comment.span.endOffset + 1)) :
    comment.PairsFrom outline comment.span.endOffset := by
  have same : ∀ construct ∈ outline.placed,
      construct.StartsFrom comment.span.startLine comment.span.endOffset ↔
        construct.StartsFrom comment.span.startLine (comment.span.endOffset + 1) := by
    intro construct member
    constructor
    · intro onward
      obtain ⟨here, start, place, after⟩ := onward
      refine ⟨here, start, place, ?_⟩
      have distinct : start ≠ comment.span.endOffset := by
        intro touching
        rw [touching] at place
        exact apart construct member here place
      omega
    · intro further
      obtain ⟨here, start, place, after⟩ := further
      exact ⟨here, start, place, by omega⟩
  constructor
  · intro construct first
    obtain ⟨answer, nearest⟩ := past.1 construct (isFirst_congr _ _ _ same construct first)
    refine ⟨answer, ?_⟩
    intro other member right
    exact nearest other member ((same other member).mp right)
  · intro none
    apply past.2
    intro other member right
    exact none other member ((same other member).mpr right)

/-- A trailing comment with no construct on the next line belongs to the nearest construct to its
right on its line, else to the first of the line, unless a construct of the line starts just where
the comment ends. Such a construct is passed over. -/
theorem trailing_pairs_rightward (outline : Outline) (comment : Comment)
    (ordered : outline.Ordered) (trails : comment.trailing = true)
    (clear : ¬ AnyStartsOn outline.placed (comment.span.endLine + 1)) :
    comment.PairsFrom outline (comment.span.endOffset + 1) ∧
      ((∀ construct ∈ outline.placed, construct.StartsOn comment.span.startLine →
          construct.startOffset? ≠ some comment.span.endOffset) →
        comment.PairsFrom outline comment.span.endOffset) := by
  have past := comment.pairsFrom_past outline ordered trails clear
  refine ⟨past, ?_⟩
  intro apart
  exact comment.pairsFrom_end outline apart past

def Outline.callFrom (offset : Int) : Outline :=
  .node { kind := .unknown, nodeType := "program" }
    [.node
      { kind := .unknown, nodeType := "identifier", span := some ⟨1, 0, 1, 3, 0, 3⟩ } [],
     .node
      { kind := .call, nodeType := "call_expression", names := ["bar"],
        span := some ⟨1, offset, 1, offset + 5, offset, offset + 5⟩ } []]

def Comment.aboutCall : Comment := ⟨⟨1, 5, 1, 19, 5, 19⟩, .block, " call bar ".toList, true⟩

theorem trailing_pairs_rightward_with_gap :
    let comment := Comment.aboutCall
    let outline := Outline.callFrom 20
    outline.Ordered ∧ comment.trailing = true ∧
      ¬ AnyStartsOn outline.placed (comment.span.endLine + 1) ∧
      (∀ construct ∈ outline.placed, construct.StartsOn comment.span.startLine →
        construct.startOffset? ≠ some comment.span.endOffset) ∧
      comment.PairsFrom outline comment.span.endOffset ∧
      (adjacent? comment (.ofOutline outline)).map (·.kind) = some .call := by
  intro comment outline
  have ordered : outline.Ordered := by decide +kernel
  have clear : ¬ AnyStartsOn outline.placed (comment.span.endLine + 1) := by decide +kernel
  have apart : ∀ construct ∈ outline.placed, construct.StartsOn comment.span.startLine →
      construct.startOffset? ≠ some comment.span.endOffset := by decide +kernel
  have paired := (trailing_pairs_rightward outline comment ordered rfl clear).2 apart
  exact ⟨ordered, rfl, clear, apart, paired, by decide +kernel⟩

/-- The call touches the comment: it is the first construct from the end of the comment on, and the
name before the comment is picked. -/
theorem trailing_passes_touching_call :
    let comment := Comment.aboutCall
    let outline := Outline.callFrom 19
    outline.Ordered ∧ comment.trailing = true ∧
      ¬ AnyStartsOn outline.placed (comment.span.endLine + 1) ∧
      (outline.placed.find? (Construct.StartsFrom comment.span.startLine
        comment.span.endOffset ·)).map (·.kind) = some .call ∧
      (adjacent? comment (.ofOutline outline)).map (·.nodeType) = some "identifier".toList ∧
      ¬ comment.PairsFrom outline comment.span.endOffset := by
  intro comment outline
  refine ⟨by decide +kernel, rfl, by decide +kernel, by decide +kernel, by decide +kernel, ?_⟩
  intro pairs
  cases first : outline.placed.find? (Construct.StartsFrom comment.span.startLine
      comment.span.endOffset ·) with
  | none => exact absurd first (by decide +kernel)
  | some call =>
      have picked := (pairs.1 call ((isFirst_iff_find ..).mpr first)).1
      exact absurd (first.trans picked.symm) (by decide +kernel)

end Restatement
