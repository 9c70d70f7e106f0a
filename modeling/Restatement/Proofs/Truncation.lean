import Restatement.Proofs.Rechecks

/-!
How much of a comment a finding shows. A text that is too long is cut and ends in an ellipsis, and
the ellipsis itself needs room: a limit of three or more is kept, by texts and by findings alike.
Below that no text that is too long comes within the limit, and no finding does.
-/

namespace Restatement

namespace Text

theorem upTo_prefix (bound : Int) (t : Text) : upTo bound t <+: t := by
  unfold upTo
  split
  · exact List.take_prefix _ _
  · exact List.take_prefix _ _

theorem length_upTo (bound : Int) (t : Text) (positive : 0 ≤ bound) (inside : bound ≤ t.length) :
    (upTo bound t).length = bound := by
  rw [upTo, if_pos positive, List.length_take]
  omega

section Truncated

variable (t : Text) (limit : Int)

theorem truncate_of_short (short : t.length ≤ limit) : truncate t limit = t :=
  if_neg (Int.not_lt.mpr short)

theorem truncate_of_long (long : limit < t.length) :
    truncate t limit = upTo (limit - 3) t ++ "...".toList :=
  if_pos long

theorem length_truncate_of_long (long : limit < t.length) :
    (truncate t limit).length = (upTo (limit - 3) t).length + 3 := by
  rw [truncate_of_long t limit long, List.length_append]
  rfl

theorem length_truncate_of_room (room : 3 ≤ limit) (long : limit < t.length) :
    (truncate t limit).length = limit := by
  have length := length_truncate_of_long t limit long
  have start : (upTo (limit - 3) t).length = limit - 3 :=
    length_upTo (limit - 3) t (by omega) (by omega)
  omega

theorem length_truncate_le (room : 3 ≤ limit) : (truncate t limit).length ≤ limit := by
  by_cases short : t.length ≤ limit
  · rw [truncate_of_short t limit short]
    exact short
  · exact Int.le_of_eq (length_truncate_of_room t limit room (Int.not_le.mp short))

theorem truncate_truncate (room : 3 ≤ limit) :
    truncate (truncate t limit) limit = truncate t limit :=
  truncate_of_short _ limit (length_truncate_le t limit room)

/-- The ellipsis alone exceeds a limit below three, however much of the text is cut. -/
theorem lt_length_truncate (tight : limit < 3) (long : limit < t.length) :
    limit < (truncate t limit).length := by
  have length := length_truncate_of_long t limit long
  omega

/-- The text up to one place before its end, and the ellipsis. -/
example : truncate "return" 2 = "retur...".toList := by decide

theorem length_truncate_le_iff (enough : 3 ≤ t.length) :
    (truncate t limit).length ≤ limit ↔ 3 ≤ limit := by
  constructor
  · intro within
    apply Int.not_lt.mp
    intro tight
    have exceeds := lt_length_truncate t limit tight (by omega)
    exact Int.not_le.mpr exceeds within
  · exact length_truncate_le t limit

end Truncated

end Text

theorem Wording.le_length_of_not_isExempt (t : Text) (spoken : isExempt t = false) :
    3 ≤ t.length := by
  apply Nat.not_lt.mp
  intro short
  have exempt : isExempt t = true := by simp [isExempt, minimumLength, short]
  rw [exempt] at spoken
  cases spoken

namespace Rule

variable (rule : Rule) (caches : Caches) (file : ParsedFile) (finding : Finding)

theorem judge_shows (index : LineIndex) (classified : Classified)
    (found : rule.judge? index classified = some finding) :
    finding.shown = Text.truncate classified.1.firstLine rule.thresholds.messageLimit := by
  rw [judge_eq] at found
  cases next : adjacent? classified.1 index with
  | none =>
      rw [next] at found
      cases found
  | some construct =>
      rw [next, Option.ite_none_right_eq_some] at found
      obtain ⟨-, same⟩ := found
      cases same
      rfl

theorem check_shows (member : finding ∈ (rule.check caches file).value) :
    ∃ comment classification, rule.Passes comment classification ∧
      finding.shown = Text.truncate comment.firstLine rule.thresholds.messageLimit := by
  simp only [check] at member
  split at member
  · cases member
  · obtain ⟨⟨comment, classification⟩, examined, found⟩ := List.mem_filterMap.mp member
    have passes := (rule.examines_iff comment classification).mp (List.mem_filter.mp examined).2
    exact ⟨comment, classification, passes, rule.judge_shows finding _ _ found⟩

/-- The filters let no line through that is shorter than an ellipsis, so that every single finding
tells whether the limit is kept. -/
theorem length_shown_le_iff (member : finding ∈ (rule.check caches file).value) :
    finding.shown.length ≤ rule.thresholds.messageLimit ↔ 3 ≤ rule.thresholds.messageLimit := by
  obtain ⟨comment, classification, passes, shown⟩ := rule.check_shows caches file finding member
  rw [shown]
  exact Text.length_truncate_le_iff comment.firstLine _
    (Wording.le_length_of_not_isExempt comment.firstLine passes.wording)

end Rule

/-- A limit bounds every text that is cut to it just when it has room for the ellipsis. Cutting then
does nothing to a text that fits or that was cut before, and leaves of any other its start and the
ellipsis, as long as the limit allows. With such a limit for messages, and with no other, a finding
shows no more of its comment, whatever the rule, the file and what is remembered of it. -/
theorem truncate_bounds_shown (limit : Int) :
    ((∀ t : Text, (Text.truncate t limit).length ≤ limit) ↔ 3 ≤ limit) ∧
    (3 ≤ limit → ∀ t : Text,
      Text.truncate (Text.truncate t limit) limit = Text.truncate t limit ∧
      (t.length ≤ limit → Text.truncate t limit = t) ∧
      (limit < t.length → (Text.truncate t limit).length = limit ∧
        ∃ start, start <+: t ∧ Text.truncate t limit = start ++ "...".toList)) ∧
    ∀ (rule : Rule) (caches : Caches) (file : ParsedFile), rule.thresholds.messageLimit = limit →
      ∀ finding ∈ (rule.check caches file).value, (finding.shown.length ≤ limit ↔ 3 ≤ limit) := by
  refine ⟨⟨?_, ?_⟩, ?_, ?_⟩
  · intro bounded
    exact (Text.length_truncate_le_iff "...".toList limit (by decide)).mp (bounded _)
  · intro room t
    exact Text.length_truncate_le t limit room
  · intro room t
    refine ⟨Text.truncate_truncate t limit room, Text.truncate_of_short t limit, ?_⟩
    intro long
    exact ⟨Text.length_truncate_of_room t limit room long, _, Text.upTo_prefix (limit - 3) t,
      Text.truncate_of_long t limit long⟩
  · rintro rule caches file rfl finding member
    exact rule.length_shown_le_iff caches file finding member

theorem truncate_bounds_shown_two_letters :
    let line : Text := "return"
    let comment : Comment := ⟨⟨1, 0, 1, 8, 0, 8⟩, .line, " return", false⟩
    let rule : Rule := ⟨{}, { messageLimit := 5 }, [], []⟩
    let checked := rule.check (.empty ⟨1, by decide⟩ ⟨1, by decide⟩) (.returning [comment])
    (3 : Int) ≤ 5 ∧ (5 : Int) < line.length ∧ Text.truncate line 5 = "re...".toList ∧
      Text.truncate (Text.truncate line 5) 5 = Text.truncate line 5 ∧
      (Text.truncate line 5).length = (5 : Int) ∧
      checked.value = [⟨.warning, comment.span, "re...", .return⟩] ∧
      ∀ finding ∈ checked.value, finding.shown.length ≤ (5 : Int) := by
  intro line comment rule checked
  obtain ⟨-, cut, shown⟩ := truncate_bounds_shown 5
  obtain ⟨again, -, long⟩ := cut (by decide) line
  refine ⟨by decide, by decide, by decide, again, (long (by decide)).1, by decide +kernel, ?_⟩
  intro finding member
  exact (shown rule _ _ rfl finding member).mpr (by decide)

end Restatement
