import Restatement.Command.Explain
import Restatement.Proofs.BlockLines
import Restatement.Proofs.Respelling

/-!
What the wording of a comment makes of it. The words that open a remark between lines of code and
those that open documentation differ in a letter, so that no comment opens with both, however it is
decorated; only the notes to a type checker look like documentation tags. And a phrase that gives a
reason on the first line of a comment still stands in the whole of it.
-/

namespace Restatement

namespace Text

section Letters

theorem covered_of_has (ranges : Ranges) (point : Nat) (within : ranges.has point = true) :
    ∃ range ∈ ranges, range.1 ≤ point ∧ point ≤ range.2 := by
  induction ranges with
  | nil => cases within
  | cons range rest ih =>
      rw [Ranges.has] at within
      split at within
      · cases within
      · split at within
        · exact ⟨range, List.mem_cons_self, by omega, by omega⟩
        · obtain ⟨other, member, inside⟩ := ih within
          exact ⟨other, List.mem_cons_of_mem range member, inside⟩

theorem blanks_kept : ∀ range ∈ blankRanges,
    ∀ point ∈ List.range' range.1 (range.2 + 1 - range.1), shiftBy lowerShifts point = point := by
  decide +kernel

theorem lowerChar_of_blank (c : Char) (blank : isBlank c = true) : lowerChar c = c := by
  obtain ⟨range, member, low, high⟩ := covered_of_has blankRanges c.toNat blank
  have inside : c.toNat ∈ List.range' range.1 (range.2 + 1 - range.1) :=
    List.mem_range'_1.mpr ⟨low, by omega⟩
  rw [lowerChar, blanks_kept range member c.toNat inside, Char.ofNat_toNat]

theorem alphanumeric_words : ∀ point ∈
    List.range' 48 10 ++ List.range' 65 26 ++ List.range' 97 26 ++ [0x130, 0x212A],
      wordRanges.has point = true := by
  decide +kernel

theorem isWordChar_of_alphanumeric (c : Char) (letter : IsAlphanumeric c) :
    isWordChar c = true := by
  apply alphanumeric_words c.toNat
  rcases letter with plain | ⟨above, below⟩ | rfl | rfl
  · have place := toNat_of_plain c plain
    simp only [List.mem_append, List.mem_range'_1]
    omega
  · have low : 65 ≤ c.toNat := above
    have high : c.toNat ≤ 90 := below
    simp only [List.mem_append, List.mem_range'_1]
    omega
  · decide
  · decide

/-- Nothing but the at sign has it as its lower case form. -/
theorem eq_at_of_lowerChar (c : Char) (lowered : lowerChar c = '@') : c = '@' := by
  have place : (Char.ofNat (shiftBy lowerShifts c.toNat)).toNat = 64 :=
    congrArg Char.toNat lowered
  have same : shiftBy lowerShifts c.toNat = 64 := by
    rcases char_toNat_ofNat (shiftBy lowerShifts c.toNat) with kept | zero <;> omega
  rcases shiftBy_cases lowerShifts c.toNat with kept | ⟨shift, member, low, _, moved⟩
  · have own : c.toNat = 64 := by omega
    rw [← Char.ofNat_toNat c, own]
  · have past := (lowerShifts_land shift member).1
    omega

end Letters

section Openings

def Opens (word t : Text) : Prop := (afterIgnoringCase? word t).isSome = true

theorem opens_nil (t : Text) : Opens [] t := rfl

theorem opens_cons_iff (w : Char) (word t : Text) :
    Opens (w :: word) t ↔ ∃ c rest, t = c :: rest ∧ sameLetter w c = true ∧ Opens word rest := by
  cases t with
  | nil => simp [Opens, afterIgnoringCase?]
  | cons c rest => cases same : sameLetter w c <;> simp [Opens, afterIgnoringCase?, same]

theorem Opens.append {word t : Text} (opens : Opens word t) (more : Text) :
    Opens word (t ++ more) := by
  induction word generalizing t with
  | nil => exact opens_nil _
  | cons w word ih =>
      obtain ⟨c, rest, rfl, same, later⟩ := (opens_cons_iff w word t).mp opens
      exact (opens_cons_iff w word _).mpr ⟨c, rest ++ more, rfl, same, ih later⟩

def apart : Text → Text → Bool
  | a :: first, b :: second =>
      ((lowerVariants a).all fun c => !(lowerVariants b).contains c) || apart first second
  | _, _ => false

theorem Opens.not_apart {first second t : Text} (opens : Opens first t) (also : Opens second t) :
    apart first second = false := by
  induction first generalizing second t with
  | nil => rfl
  | cons a first ih =>
      cases second with
      | nil => rfl
      | cons b second =>
          obtain ⟨c, rest, rfl, same, later⟩ := (opens_cons_iff a first t).mp opens
          obtain ⟨_, _, equal, alike, further⟩ := (opens_cons_iff b second _).mp also
          cases equal
          -- the letter of the text counts as both letters
          have shared : ((lowerVariants a).all fun c => !(lowerVariants b).contains c) = false := by
            rw [List.all_eq_false]
            exact ⟨lowerChar c, List.contains_iff_mem.mp same, by simpa [sameLetter] using alike⟩
          rw [apart, shared, ih later further]
          rfl

def unbroken (word : Text) : Bool := word.all fun w => (lowerVariants w).all fun d => !isBlank d

theorem opens_before_blank (word t more : Text) (b : Char) (whole : unbroken word = true)
    (blank : isBlank b = true) (opens : Opens word (t ++ b :: more)) : Opens word t := by
  induction word generalizing t with
  | nil => exact opens_nil t
  | cons w word ih =>
      obtain ⟨here, later⟩ := Bool.and_eq_true_iff.mp whole
      obtain ⟨c, rest, parts, same, further⟩ := (opens_cons_iff w word _).mp opens
      cases t with
      | nil =>
          cases parts
          rw [sameLetter, lowerChar_of_blank b blank] at same
          have visible := List.all_eq_true.mp here b (List.contains_iff_mem.mp same)
          simp [blank] at visible
      | cons d t =>
          cases parts
          exact (opens_cons_iff w word _).mpr ⟨c, t, rfl, same, ih t later further⟩

theorem Opens.trimEnd {word t : Text} (opens : Opens word t) (whole : unbroken word = true) :
    Opens word (trimEnd t) := by
  obtain ⟨trail, blank, parts⟩ := trimEnd_parts t
  cases trail with
  | nil =>
      rw [List.append_nil] at parts
      rwa [← parts]
  | cons b more =>
      rw [parts] at opens
      exact opens_before_blank word _ more b whole (blank b List.mem_cons_self) opens

end Openings

end Text

namespace Wording

def remarkOpenings : List Text :=
  actionWords ++ (["eslint", "prettier-"] : List Text) ++ introductions

def documentationOpenings : List Text :=
  (["@", "copyright", "license", "(c)", "all rights reserved"] : List Text) ++ documentationTags

def isCheckerNote (t : Text) : Bool := opensWith ["@ts-"] (Text.trimStart t)

theorem opensWith_iff (words : List Text) (t : Text) :
    opensWith words t = true ↔ ∃ word ∈ words, Text.Opens word t :=
  List.any_eq_true

theorem opensWith_apart (words others : List Text) (t : Text)
    (differ : (words.all fun word => others.all fun other => Text.apart word other) = true)
    (opens : opensWith words t = true) : opensWith others t = false := by
  obtain ⟨word, member, here⟩ := (opensWith_iff words t).mp opens
  rw [Bool.eq_false_iff, ne_eq, opensWith_iff]
  rintro ⟨other, present, also⟩
  have pair := List.all_eq_true.mp (List.all_eq_true.mp differ word member) other present
  rw [here.not_apart also] at pair
  cases pair

theorem opensWith_mono (words others : List Text) (t : Text)
    (inside : ∀ word ∈ words, word ∈ others) (opens : opensWith words t = true) :
    opensWith others t = true := by
  obtain ⟨word, member, here⟩ := (opensWith_iff words t).mp opens
  exact (opensWith_iff others t).mpr ⟨word, inside word member, here⟩

theorem head_ne_star (word t : Text) (differ : Text.apart word ['*'] = true)
    (opens : Text.Opens word t) : t.head? ≠ some '*' := by
  intro star
  obtain ⟨rest, rfl⟩ := List.head?_eq_some_iff.mp star
  have also : Text.Opens ['*'] ('*' :: rest) := rfl
  rw [opens.not_apart also] at differ
  cases differ

theorem afterDecoration_eq (t : Text) (bare : (Text.trimStart t).head? ≠ some '*') :
    afterDecoration t = Text.trimStart t := by
  rw [afterDecoration, dropStar_of_head _ bare, Text.trimStart_trimStart]

theorem isActionItem_opens (t : Text) (action : isActionItem t = true) :
    opensWith actionWords (Text.trimStart t) = true := by
  obtain ⟨word, member, whole⟩ := List.any_eq_true.mp action
  apply List.any_eq_true.mpr ⟨word, member, _⟩
  cases after : Text.afterIgnoringCase? word (Text.trimStart t) with
  | none => simp [after] at whole
  | some rest => rfl

theorem isIntroduced_opens (t : Text) (introduced : isIntroduced t = true) :
    opensWith introductions (Text.trimStart t) = true := by
  obtain ⟨word, member, followed⟩ := List.any_eq_true.mp introduced
  apply List.any_eq_true.mpr ⟨word, member, _⟩
  cases after : Text.afterIgnoringCase? word (Text.trimStart t) with
  | none => simp [after] at followed
  | some rest => rfl

theorem isRemark_opens (t : Text) (remark : isRemark t = true) (other : isCheckerNote t = false) :
    opensWith remarkOpenings (Text.trimStart t) = true := by
  unfold isRemark at remark
  rw [Bool.or_eq_true, Bool.or_eq_true] at remark
  rcases remark with (action | tool) | introduced
  · exact opensWith_mono actionWords _ _ (by decide) (isActionItem_opens t action)
  · obtain ⟨word, member, here⟩ := (opensWith_iff _ _).mp tool
    have known : word ≠ "@ts-".toList → word ∈ remarkOpenings :=
      (by decide : ∀ word ∈ (["eslint", "@ts-", "prettier-"] : List Text),
        word ≠ "@ts-".toList → word ∈ remarkOpenings) word member
    apply (opensWith_iff _ _).mpr ⟨word, known _, here⟩
    rintro rfl
    have note : isCheckerNote t = true :=
      (opensWith_iff _ _).mpr ⟨_, List.mem_cons_self, here⟩
    rw [other] at note
    cases note
  · exact opensWith_mono introductions _ _ (by decide) (isIntroduced_opens t introduced)

theorem isTagged_opens (t : Text) (tagged : isTagged t = true) :
    opensWith ["@"] (afterDecoration t) = true := by
  unfold isTagged at tagged
  split at tagged
  case h_1 c rest start =>
      rw [start]
      rfl
  case h_2 => cases tagged

theorem opensWithYear_opens (t : Text) (year : opensWithYear t = true) :
    opensWith ["(c)"] (afterDecoration t) = true := by
  unfold opensWithYear at year
  split at year
  case h_1 => cases year
  case h_2 rest after =>
      rw [opensWith, List.any_cons, after]
      rfl

theorem isDocumentation_opens (t : Text) (documented : isDocumentation t = true) :
    opensWith documentationOpenings (afterDecoration t) = true := by
  unfold isDocumentation at documented
  simp only [Bool.or_eq_true] at documented
  rcases documented with (((tagged | tag) | notice) | year) | reserved
  · exact opensWith_mono ["@"] _ _ (by decide) (isTagged_opens t tagged)
  · exact opensWith_mono documentationTags _ _ (by decide) tag
  · exact opensWith_mono ["copyright", "license"] _ _ (by decide) notice
  · exact opensWith_mono ["(c)"] _ _ (by decide) (opensWithYear_opens t year)
  · exact opensWith_mono ["all rights reserved"] _ _ (by decide) reserved

/-- Where such a word opens a text, the text has no decoration. -/
theorem afterDecoration_of_opens (word t : Text) (whole : Text.unbroken word = true)
    (unstarred : Text.apart word ['*'] = true) (opens : Text.Opens word t) :
    afterDecoration t = t := by
  have visible : ∀ c ∈ t.head?, Text.isBlank c = false := by
    intro c here
    obtain ⟨rest, rfl⟩ := List.head?_eq_some_iff.mp here
    rw [Bool.eq_false_iff]
    intro blank
    have early := Text.opens_before_blank word [] rest c whole blank opens
    cases word with
    | nil => cases unstarred
    | cons w word => cases early
  have start := Text.trimStart_of_head t visible
  have bare := head_ne_star word t unstarred opens
  rw [afterDecoration_eq t (by rwa [start]), start]

theorem isTagged_of_checkerNote (t : Text) (note : isCheckerNote t = true) : isTagged t = true := by
  obtain ⟨word, member, opens⟩ := (opensWith_iff _ _).mp note
  cases List.mem_singleton.mp member
  have bare := head_ne_star _ _ (by decide) opens
  obtain ⟨c, rest, start, sign, later⟩ := (Text.opens_cons_iff '@' "ts-".toList _).mp opens
  obtain ⟨d, more, rfl, letter, _⟩ := (Text.opens_cons_iff 't' "s-".toList _).mp later
  have only : Text.lowerVariants '@' = ['@'] ∧ Text.lowerVariants 't' = ['t'] := by decide
  rw [Text.sameLetter, only.1] at sign
  rw [Text.sameLetter, only.2] at letter
  have opened : c = '@' := Text.eq_at_of_lowerChar c (by simpa using sign)
  have named : Text.isWordChar d = true := by
    apply Text.isWordChar_of_alphanumeric
    by_contra other
    have plain := Text.lowerChar_not_plain d other
    rw [show Text.lowerChar d = 't' by simpa using letter] at plain
    cases plain
  rw [isTagged, afterDecoration_eq t bare, start, opened]
  exact named

end Wording

theorem Comment.opens_text (comment : Comment) (word : Text) (whole : Text.unbroken word = true)
    (unstarred : Text.apart word ['*'] = true)
    (opens : Text.Opens word (Wording.afterDecoration comment.body)) :
    Text.Opens word (Wording.afterDecoration comment.text) := by
  cases kind : comment.kind with
  | line =>
      have text : comment.text = Text.trim comment.body := by rw [Comment.text, kind]
      rw [text, Wording.afterDecoration_trim]
      exact opens.trimEnd whole
  | block =>
      have bare := Wording.head_ne_star word _ unstarred opens
      have nonempty : Wording.afterDecoration comment.body ≠ [] := by
        intro empty
        rw [empty] at opens
        cases word with
        | nil => cases unstarred
        | cons w word => cases opens
      obtain ⟨first, tail, others, parts, gap, lines⟩ :=
        blockLines_starts _ nonempty (Text.head_trimStart _) bare
      have early : Text.Opens word first := by
        rw [parts] at opens
        cases tail with
        | nil => simpa using opens
        | cons b more => exact Text.opens_before_blank word first more b whole (gap b rfl) opens
      obtain ⟨more, text⟩ : ∃ more, comment.text = first ++ more := by
        rw [Comment.text, kind, blockLines_afterDecoration _ bare, lines]
        cases others with
        | nil => exact ⟨[], by simp⟩
        | cons next rest => exact ⟨_, Text.joinWith_cons_cons ' ' first next rest⟩
      have whole_text : Text.Opens word comment.text := text ▸ early.append more
      rwa [Wording.afterDecoration_of_opens word _ whole unstarred whole_text]

theorem Comment.opensWith_text (comment : Comment) (words : List Text)
    (plain : ∀ word ∈ words, Text.unbroken word = true ∧ Text.apart word ['*'] = true)
    (opens : Wording.opensWith words (Wording.afterDecoration comment.body) = true) :
    Wording.opensWith words (Wording.afterDecoration comment.text) = true := by
  obtain ⟨word, member, here⟩ := (Wording.opensWith_iff _ _).mp opens
  obtain ⟨whole, unstarred⟩ := plain word member
  exact (Wording.opensWith_iff _ _).mpr
    ⟨word, member, comment.opens_text word whole unstarred here⟩

theorem openings_apart :
    (Wording.remarkOpenings.all fun word => (['*'] :: Wording.documentationOpenings).all
      fun other => Text.apart word other) = true := by
  decide +kernel

/-- Neither the body nor the text of a comment that opens like a remark is worded as documentation
is. -/
theorem Comment.isDocumentation_of_remark (comment : Comment)
    (opens : Wording.opensWith Wording.remarkOpenings (Text.trimStart comment.text) = true) :
    comment.classify.isDocumentation = comment.classify.isDocBlock := by
  have unlike := Wording.opensWith_apart _ _ _ openings_apart opens
  rw [Wording.opensWith, List.any_cons, Bool.or_eq_false_iff] at unlike
  have bare : (Text.trimStart comment.text).head? ≠ some '*' := by
    intro star
    obtain ⟨rest, start⟩ := List.head?_eq_some_iff.mp star
    rw [start] at unlike
    cases unlike.1
  have other : Wording.opensWith Wording.documentationOpenings
      (Wording.afterDecoration comment.text) = false := by
    rw [Wording.afterDecoration_eq _ bare]
    exact unlike.2
  have unopened : ∀ words : List Text, (∀ word ∈ words, word ∈ Wording.documentationOpenings) →
      (∀ word ∈ words, Text.unbroken word = true ∧ Text.apart word ['*'] = true) →
      Wording.opensWith words (Wording.afterDecoration comment.body) = false := by
    intro words inside plain
    rw [Bool.eq_false_iff]
    intro holds
    have text := comment.opensWith_text words plain holds
    rw [Wording.opensWith_mono words _ _ inside text] at other
    cases other
  have header : comment.classify.isFileHeader = false :=
    unopened ["@file"] (by decide) (by decide)
  have notice : comment.classify.isNotice = false :=
    unopened ["copyright", "license"] (by decide) (by decide)
  have text : comment.classify.text = comment.text := rfl
  have wording : Wording.isDocumentation comment.text = false := by
    rw [Bool.eq_false_iff]
    intro holds
    rw [Wording.isDocumentation_opens _ holds] at other
    cases other
  simp only [Classification.isDocumentation, header, notice, text, wording, Bool.or_false]

/-- A comment that is no documentation block and is worded as a remark between lines of code is an
inline comment and no documentation, unless it is a note to a type checker: such a note counts as
documentation and never as an inline comment. -/
theorem remark_inline_unless_checkerNote (comment : Comment)
    (plain : comment.classify.isDocBlock = false)
    (remark : Wording.isRemark comment.text = true) :
    comment.classify.isInline = !Wording.isCheckerNote comment.text ∧
      comment.classify.isDocumentation = Wording.isCheckerNote comment.text := by
  have text : comment.classify.text = comment.text := rfl
  have documented : comment.classify.isDocumentation = Wording.isCheckerNote comment.text := by
    cases note : Wording.isCheckerNote comment.text with
    | true =>
        have tagged := Wording.isTagged_of_checkerNote _ note
        simp [Classification.isDocumentation, Wording.isDocumentation, text, tagged]
    | false =>
        rw [comment.isDocumentation_of_remark (Wording.isRemark_opens _ remark note), plain]
  refine ⟨?_, documented⟩
  simp [Classification.isInline, documented, text, remark]

theorem remark_inline_unless_checkerNote_introduced :
    let introduced : Comment :=
      ⟨⟨1, 0, 3, 3, 0, 26⟩, .block, "\n *\n * To keep the order\n ", false⟩
    let note : Comment := ⟨⟨1, 0, 1, 12, 0, 12⟩, .block, " @TS-ignore", false⟩
    introduced.classify.isDocBlock = false ∧ Wording.isRemark introduced.text = true ∧
      introduced.classify.isInline = true ∧ introduced.classify.isDocumentation = false ∧
      note.classify.isDocBlock = false ∧ Wording.isRemark note.text = true ∧
      note.classify.isInline = false := by
  intro introduced note
  have plain : introduced.classify.isDocBlock = false ∧ note.classify.isDocBlock = false := by
    decide
  have remark : Wording.isRemark introduced.text = true ∧ Wording.isRemark note.text = true := by
    decide +kernel
  have kept := remark_inline_unless_checkerNote introduced plain.1 remark.1
  have lost := remark_inline_unless_checkerNote note plain.2 remark.2
  have notes : Wording.isCheckerNote introduced.text = false ∧
      Wording.isCheckerNote note.text = true := by
    decide +kernel
  rw [notes.1] at kept
  rw [notes.2] at lost
  exact ⟨plain.1, remark.1, kept.1, kept.2, plain.2, remark.2, lost.1⟩

/-- A note to a type checker is worded as a remark, and no inline comment. -/
theorem checkerNote_not_inline :
    let comment : Comment := ⟨⟨1, 0, 1, 13, 0, 13⟩, .line, " @ts-ignore", false⟩
    comment.classify.isDocBlock = false ∧ Wording.isRemark comment.text = true ∧
      comment.classify.isInline = false ∧ comment.classify.isDocumentation = true := by
  decide +kernel

theorem Comment.text_starts (comment : Comment) :
    comment.text = comment.firstLine ∨ ∃ rest, comment.text = comment.firstLine ++ ' ' :: rest := by
  unfold text firstLine
  cases comment.kind with
  | line => exact .inl rfl
  | block =>
      cases blockLines comment.body with
      | nil => exact .inl rfl
      | cons first rest =>
          cases rest with
          | nil => exact .inl (Text.joinWith_singleton ' ' first)
          | cons next rest => exact .inr ⟨_, Text.joinWith_cons_cons ' ' first next rest⟩

theorem occursIn_iff (needle t : Text) : Text.occursIn needle t = true ↔ needle <:+: t := by
  induction t with
  | nil => simp [Text.occursIn]
  | cons c rest ih =>
      rw [Text.occursIn, Bool.or_eq_true, List.isPrefixOf_iff_prefix, ih, List.infix_cons_iff]

/-- A phrase of the first line stands in the whole text: lower case does not look past the space
that follows the line. -/
theorem Comment.uses_text (comment : Comment) (phrases : List Text)
    (used : Wording.uses phrases comment.firstLine = true) :
    Wording.uses phrases comment.text = true := by
  obtain ⟨phrase, member, occurs⟩ := List.any_eq_true.mp used
  apply List.any_eq_true.mpr ⟨phrase, member, _⟩
  rw [occursIn_iff] at occurs ⊢
  rcases comment.text_starts with same | ⟨rest, parts⟩
  · rwa [same]
  · rw [parts, Text.lower_append_space]
    exact occurs.trans (List.infix_append' [] _ _)

theorem uses_explanations (t : Text) (used : Wording.uses Wording.reasons t = true) :
    Wording.uses Wording.explanations t = true := by
  unfold Wording.uses Wording.explanations at *
  rw [List.any_append, used]
  rfl

/-- A comment whose first line gives a reason is left alone by every rule, and it is never noise: it
is shown as documentation, an action item, a directive or an explanation. -/
theorem reasoned_never_noise (comment : Comment)
    (reasoned : Wording.uses Wording.reasons comment.firstLine = true) :
    (∀ rule : Rule, rule.examines (comment, comment.classify) = false) ∧
      comment.classify.purpose ≠ .noise ∧
      ∀ sensitivity index,
        ∃ shown ∈ [Purpose.documentation, .todo, .directive, .explanation],
          (explanation sensitivity index (comment, comment.classify)).head? =
            some ("Comment: " ++ Text.quoted comment.firstLine ++ " (" ++ comment.kind.name ++
              ", " ++ position comment ++ ", " ++ shown.name ++ [')']) := by
  have explained : Wording.uses Wording.explanations comment.classify.text = true :=
    uses_explanations _ (comment.uses_text Wording.reasons reasoned)
  have purposes : comment.classify.purpose ∈
      [Purpose.documentation, .todo, .directive, .explanation] := by
    rw [Classification.purpose, explained]
    split
    · decide
    · split
      · decide
      · split <;> decide
  refine ⟨?_, ?_, ?_⟩
  · intro rule
    simp [Rule.examines, Wording.isExempt, reasoned]
  · intro noise
    rw [noise] at purposes
    revert purposes
    decide
  · intro sensitivity index
    exact ⟨comment.classify.purpose, purposes, rfl⟩

theorem reasoned_never_noise_two_lines :
    let comment : Comment :=
      ⟨⟨1, 0, 3, 3, 0, 30⟩, .block, " add one BECAUSE of ΑΣ\n * and return", false⟩
    Wording.uses Wording.reasons comment.firstLine = true ∧
      comment.classify.purpose = .explanation ∧ comment.classify.purpose ≠ .noise := by
  intro comment
  have reasoned : Wording.uses Wording.reasons comment.firstLine = true := by decide +kernel
  exact ⟨reasoned, by decide +kernel, (reasoned_never_noise comment reasoned).2.1⟩

end Restatement
