import Restatement.Comment.Delimiters

/-!
The text of a comment is an opener, a body and a closer. What is written between delimiters comes
back as the body, and the parts make up the text again, except for the two markup comments that are
so short that the opener and the closer share characters.
-/

namespace Restatement

inductive CommentStyle where
  | slashes
  | hash
  | stars
  | markup
  deriving DecidableEq, Repr

namespace CommentStyle

def opener : CommentStyle → Text
  | .slashes => ['/', '/']
  | .hash => ['#']
  | .stars => ['/', '*']
  | .markup => ['<', '!', '-', '-']

def closer : CommentStyle → Text
  | .slashes | .hash => []
  | .stars => ['*', '/']
  | .markup => ['-', '-', '>']

def kind : CommentStyle → CommentKind
  | .slashes | .hash => .line
  | .stars | .markup => .block

def bodyOf (style : CommentStyle) (rest : Text) : Text :=
  if closes style.closer rest then Text.dropEnd style.closer.length rest else rest

end CommentStyle

/-- The parts of a comment make up its text, so that they do not overlap; a closer only stands with
the opener that it belongs to. Text in no known style has no delimiters at all. -/
structure Delimited (t : Text) (kind : CommentKind) (opener body closer : Text) : Prop where
  knownOpener : opener ∈ [['/', '*'], ['<', '!', '-', '-'], ['/', '/'], ['#'], []]
  knownCloser : closer ∈ [['*', '/'], ['-', '-', '>'], []]
  whole : t = opener ++ body ++ closer
  block : kind = .block ↔ opener = ['/', '*'] ∨ opener = ['<', '!', '-', '-']
  paired : closer ≠ [] → opener = ['/', '*'] ∧ closer = ['*', '/'] ∨
    opener = ['<', '!', '-', '-'] ∧ closer = ['-', '-', '>']

theorem closes_iff (closer t : Text) : closes closer t = true ↔ closer <:+ t :=
  List.isSuffixOf_iff_suffix

theorem closes_of_short (closer t : Text) (short : t.length < closer.length) :
    closes closer t = false := by
  rw [Bool.eq_false_iff, ne_eq, closes_iff]
  intro ends
  have enough := ends.length_le
  omega

theorem closes_append (opener closer rest : Text) (room : closer.length ≤ rest.length) :
    closes closer (opener ++ rest) = closes closer rest := by
  rw [Bool.eq_iff_iff, closes_iff, closes_iff]
  constructor
  · intro ends
    exact List.suffix_of_suffix_length_le ends (List.suffix_append opener rest) room
  · intro ends
    exact List.suffix_append_of_suffix ends

theorem CommentStyle.bodyOf_closed (style : CommentStyle) (body : Text) :
    style.bodyOf (body ++ style.closer) = body := by
  have ends : closes style.closer (body ++ style.closer) = true :=
    (closes_iff _ _).mpr (List.suffix_append body style.closer)
  simp [bodyOf, ends, Text.dropEnd]

theorem split_stars (rest : Text) :
    splitDelimiters (['/', '*'] ++ rest) = (.block, CommentStyle.stars.bodyOf rest) := by
  have parts : splitDelimiters (['/', '*'] ++ rest) =
      (.block, if closes ['*', '/'] (['/', '*'] ++ rest) && 4 ≤ (['/', '*'] ++ rest).length then
        Text.dropEnd 2 rest else rest) := by
    simp [splitDelimiters]
  rw [parts, CommentStyle.bodyOf, CommentStyle.closer]
  by_cases room : 2 ≤ rest.length
  · rw [closes_append ['/', '*'] ['*', '/'] rest room]
    simp [room]
  · -- the text may end in a closer whose star is the opener's own
    rw [closes_of_short ['*', '/'] rest (Nat.lt_of_not_le room)]
    simp [room]

/-- Where less than a closer follows the opener of a markup comment, two texts end in a closer all
the same. -/
theorem closes_short_markup (rest : Text) (short : rest.length < 3) :
    closes ['-', '-', '>'] (['<', '!', '-', '-'] ++ rest) = true ↔
      rest = ['>'] ∨ rest = ['-', '>'] := by
  match rest, short with
  | [], _ => decide
  | [a], _ =>
      have only : closes ['-', '-', '>'] (['<', '!', '-', '-'] ++ [a]) = true ↔ '>' = a := by
        simp [closes, List.isSuffixOf]
      rw [only]
      simp [eq_comm]
  | [a, b], _ =>
      have both : closes ['-', '-', '>'] (['<', '!', '-', '-'] ++ [a, b]) = true ↔
          '>' = b ∧ '-' = a := by
        simp [closes, List.isSuffixOf]
      rw [both]
      simp [eq_comm, and_comm]

theorem split_markup (rest : Text) (first : rest ≠ ['>']) (second : rest ≠ ['-', '>']) :
    splitDelimiters (['<', '!', '-', '-'] ++ rest) =
      (.block, CommentStyle.markup.bodyOf rest) := by
  have parts : splitDelimiters (['<', '!', '-', '-'] ++ rest) =
      (.block, if closes ['-', '-', '>'] (['<', '!', '-', '-'] ++ rest) then Text.dropEnd 3 rest
        else rest) := by
    simp [splitDelimiters]
  have same : closes ['-', '-', '>'] (['<', '!', '-', '-'] ++ rest) =
      closes ['-', '-', '>'] rest := by
    by_cases room : 3 ≤ rest.length
    · exact closes_append ['<', '!', '-', '-'] ['-', '-', '>'] rest room
    · have short : rest.length < 3 := Nat.lt_of_not_le room
      rw [closes_of_short ['-', '-', '>'] rest short, Bool.eq_false_iff, ne_eq,
        closes_short_markup rest short]
      rintro (only | only)
      · exact first only
      · exact second only
  rw [parts, same]
  rfl

/-- A comment in a known style is taken apart after its opener, unless it is one of the two texts in
which the closer reaches back into the opener. -/
theorem split_styled (style : CommentStyle) (rest : Text)
    (first : style.opener ++ rest ≠ "<!-->".toList)
    (second : style.opener ++ rest ≠ "<!--->".toList) :
    splitDelimiters (style.opener ++ rest) = (style.kind, style.bodyOf rest) := by
  cases style with
  | slashes => simp [splitDelimiters, CommentStyle.opener, CommentStyle.kind,
      CommentStyle.bodyOf, CommentStyle.closer, Text.dropEnd]
  | hash => simp [splitDelimiters, CommentStyle.opener, CommentStyle.kind,
      CommentStyle.bodyOf, CommentStyle.closer, Text.dropEnd]
  | stars => exact split_stars rest
  | markup =>
      apply split_markup
      · rintro rfl
        exact first rfl
      · rintro rfl
        exact second rfl

theorem split_other (t : Text) (other : ∀ style : CommentStyle, ¬ style.opener <+: t) :
    splitDelimiters t = (.line, t) := by
  have refuses (style : CommentStyle) : style.opener.isPrefixOf t = false := by
    rw [Bool.eq_false_iff, ne_eq, List.isPrefixOf_iff_prefix]
    exact other style
  have slashes := refuses .slashes
  have hash := refuses .hash
  have stars := refuses .stars
  have markup := refuses .markup
  simp only [CommentStyle.opener] at slashes hash stars markup
  simp [splitDelimiters, slashes, hash, stars, markup]

theorem split_enclosed (style : CommentStyle) (body : Text) :
    splitDelimiters (style.opener ++ body ++ style.closer) = (style.kind, body) := by
  have long (short : Text) (size : short.length < 7) (start : short.head? = some '<') :
      style.opener ++ (body ++ style.closer) ≠ short := by
    rintro rfl
    cases style with
    | slashes => cases start
    | hash => cases start
    | stars => cases start
    | markup =>
        simp only [CommentStyle.opener, CommentStyle.closer, List.length_append, List.length_cons,
          List.length_nil] at size
        omega
  rw [List.append_assoc, split_styled style _ (long _ (by decide) rfl) (long _ (by decide) rfl),
    style.bodyOf_closed]

namespace Delimited

theorem of_style (style : CommentStyle) (body closer : Text)
    (own : closer = [] ∨ closer = style.closer) :
    Delimited (style.opener ++ body ++ closer) style.kind style.opener body closer where
  knownOpener := by cases style <;> decide
  knownCloser := by
    rcases own with rfl | rfl
    · decide
    · cases style <;> decide
  whole := rfl
  block := by cases style <;> decide
  paired := by
    rcases own with rfl | rfl
    · intro closed
      exact absurd rfl closed
    · cases style <;> decide

theorem of_rest (style : CommentStyle) (rest : Text) :
    ∃ closer, Delimited (style.opener ++ rest) style.kind style.opener (style.bodyOf rest)
      closer := by
  cases ends : closes style.closer rest with
  | false =>
      have parts := of_style style rest [] (.inl rfl)
      simp only [List.append_nil] at parts
      exact ⟨[], by simpa [CommentStyle.bodyOf, ends] using parts⟩
  | true =>
      obtain ⟨body, rfl⟩ := (closes_iff _ _).mp ends
      rw [style.bodyOf_closed, ← List.append_assoc]
      exact ⟨style.closer, of_style style body style.closer (.inr rfl)⟩

theorem of_bare (t : Text) : Delimited t .line [] t [] where
  knownOpener := by decide
  knownCloser := by decide
  whole := (List.append_nil t).symm
  block := by decide
  paired := fun closed => absurd rfl closed

theorem length_of_empty_markup {rest opener closer : Text}
    (parts : Delimited ('<' :: rest) .block opener [] closer) :
    rest.length = 3 ∨ rest.length = 6 := by
  have markup : opener = ['<', '!', '-', '-'] := by
    rcases parts.block.mp rfl with stars | markup
    · have whole := parts.whole
      rw [stars] at whole
      cases whole
    · exact markup
  have size := congrArg List.length parts.whole
  by_cases closed : closer = []
  · simp only [markup, closed, List.length_append, List.length_cons, List.length_nil] at size
    omega
  · rcases parts.paired closed with ⟨stars, _⟩ | ⟨_, closes⟩
    · rw [stars] at markup
      cases markup
    · simp only [markup, closes, List.length_append, List.length_cons, List.length_nil] at size
      omega

end Delimited

/-- The parts of a comment make up its text again unless it is one of the two markup comments in
which the opener and the closer share characters; and what stands between the delimiters of a style
is the body. -/
theorem split_into_parts (t : Text) :
    ((∃ opener closer, Delimited t (splitDelimiters t).1 opener (splitDelimiters t).2 closer) ↔
      t ≠ "<!-->".toList ∧ t ≠ "<!--->".toList) ∧
    ∀ (style : CommentStyle) (body : Text),
      splitDelimiters (style.opener ++ body ++ style.closer) = (style.kind, body) := by
  refine ⟨⟨?_, ?_⟩, split_enclosed⟩
  · rintro ⟨opener, closer, parts⟩
    constructor
    · rintro rfl
      have size := Delimited.length_of_empty_markup parts
      simp at size
    · rintro rfl
      have size := Delimited.length_of_empty_markup parts
      simp at size
  · rintro ⟨first, second⟩
    by_cases styled : ∃ style : CommentStyle, style.opener <+: t
    · obtain ⟨style, rest, rfl⟩ := styled
      rw [split_styled style rest first second]
      exact ⟨style.opener, Delimited.of_rest style rest⟩
    · rw [split_other t fun style opens => styled ⟨style, opens⟩]
      exact ⟨[], [], Delimited.of_bare t⟩

/-- The opener and the closer share two characters here, and no other delimiters fit. -/
theorem split_loses_short_markup :
    ¬ ∃ opener closer, Delimited "<!-->".toList (splitDelimiters "<!-->".toList).1 opener
      (splitDelimiters "<!-->".toList).2 closer := by
  rintro ⟨opener, closer, parts⟩
  have size := Delimited.length_of_empty_markup parts
  simp at size

end Restatement
