import Mathlib.Data.List.DropRight
import Mathlib.Tactic.MkIffOfInductiveProp
import Restatement.Comment.Classification
import Restatement.Proofs.NormalForms

/-!
The lines of a block comment. Each line is read by itself: trimming the whole body first changes
nothing, so that the lines of two bodies with a newline between them are those of both. Hence lines
that were written under stars, or under indentation alone, are read back as they were.
-/

namespace Restatement

namespace Text

def Blank (t : Text) : Prop := ∀ c ∈ t, isBlank c = true

-- spelled out, since the instance that tries every character there is would come first
instance : DecidablePred Blank := fun t => List.decidableBAll (isBlank · = true) t

instance decidableVisible (end? : Option Char) : Decidable (∀ c ∈ end?, isBlank c = false) :=
  Option.decidableForallMem end?

section Trimmed

theorem trimStart_append (lead t : Text) (blank : Blank lead) :
    trimStart (lead ++ t) = trimStart t :=
  List.dropWhile_append_of_pos blank

theorem trimEnd_append (t trail : Text) (blank : Blank trail) :
    trimEnd (t ++ trail) = trimEnd t := by
  rw [trimEnd, List.reverse_append, List.dropWhile_append_of_pos]
  · rfl
  · intro c member
    exact blank c (List.mem_reverse.mp member)

theorem trimStart_eq_nil (t : Text) (blank : Blank t) : trimStart t = [] :=
  List.dropWhile_eq_nil_iff.mpr blank

theorem trimStart_of_head (t : Text) (visible : ∀ c ∈ t.head?, isBlank c = false) :
    trimStart t = t := by
  cases t with
  | nil => rfl
  | cons c rest => exact trimStart_visible c rest (visible c rfl)

theorem head_trimStart (t : Text) : ∀ c ∈ (trimStart t).head?, isBlank c = false := by
  intro c first
  have fails := List.head?_dropWhile_not isBlank t
  rw [trimStart] at first
  rw [Option.mem_def.mp first] at fails
  simpa using fails

theorem head_trimStart_append (t more : Text) (c : Char) (first : (trimStart t).head? = some c) :
    (trimStart (t ++ more)).head? = some c := by
  unfold trimStart at first ⊢
  rw [List.dropWhile_append]
  cases start : List.dropWhile isBlank t with
  | nil => simp [start] at first
  | cons d rest => simpa [start] using first

theorem trimStart_trimEnd (t : Text) : trimStart (trimEnd t) = trimEnd (trimStart t) := by
  induction t with
  | nil => rfl
  | cons c rest ih =>
      rw [trimEnd_cons]
      cases blank : isBlank c with
      | true =>
          rw [trimStart_blank c rest blank, ← ih]
          by_cases empty : trimEnd rest = []
          · simp [empty]
          · simp [empty, trimStart_blank c _ blank]
      | false =>
          rw [trimStart_visible c rest blank, trimEnd_cons]
          by_cases empty : trimEnd rest = []
          · simp [empty, blank, trimStart_visible c _ blank]
          · simp [empty, trimStart_visible c _ blank]

theorem trimEnd_of_last (t : Text) (visible : ∀ c ∈ t.getLast?, isBlank c = false) :
    trimEnd t = t := by
  apply List.rdropWhile_eq_self_iff.mpr
  intro nonempty
  have last := visible _ (List.getLast?_eq_getLast_of_ne_nil nonempty)
  simp [last]

theorem trimStart_parts (t : Text) : ∃ lead, Blank lead ∧ t = lead ++ trimStart t := by
  refine ⟨t.takeWhile isBlank, ?_, List.takeWhile_append_dropWhile.symm⟩
  intro c member
  exact List.mem_takeWhile_imp member

theorem trimEnd_parts (t : Text) : ∃ trail, Blank trail ∧ t = trimEnd t ++ trail := by
  refine ⟨t.rtakeWhile isBlank, ?_, List.rdropWhile_append_rtakeWhile.symm⟩
  intro c member
  exact List.mem_rtakeWhile_imp member

theorem trim_parts (t : Text) :
    ∃ lead trail, Blank lead ∧ Blank trail ∧ t = lead ++ trim t ++ trail := by
  obtain ⟨lead, before, front⟩ := trimStart_parts t
  obtain ⟨trail, after, back⟩ := trimEnd_parts (trimStart t)
  refine ⟨lead, trail, before, after, ?_⟩
  rw [trim, List.append_assoc, ← back, ← front]

theorem trimStart_trimStart (t : Text) : trimStart (trimStart t) = trimStart t :=
  trimStart_of_head _ (head_trimStart t)

theorem trim_trimStart (t : Text) : trim (trimStart t) = trim t := by
  rw [trim, trimStart_trimStart, trim]

theorem trim_append_lead (lead t : Text) (blank : Blank lead) : trim (lead ++ t) = trim t := by
  rw [trim, trimStart_append lead t blank, trim]

theorem trimStart_append_trail (t trail : Text) (blank : Blank trail) :
    trimStart (t ++ trail) = if trimStart t = [] then [] else trimStart t ++ trail := by
  have bare := trimStart_eq_nil trail blank
  unfold trimStart at bare ⊢
  rw [List.dropWhile_append]
  cases List.dropWhile isBlank t with
  | nil => simpa using bare
  | cons c rest => simp

theorem trim_append_trail (t trail : Text) (blank : Blank trail) : trim (t ++ trail) = trim t := by
  rw [trim, trimStart_append_trail t trail blank, trim]
  split
  case isTrue empty => rw [empty]
  case isFalse => exact trimEnd_append _ trail blank

end Trimmed

end Text

theorem Wording.dropStar_of_head (t : Text) (bare : t.head? ≠ some '*') : dropStar t = t := by
  unfold dropStar
  split
  case h_1 => exact absurd rfl bare
  case h_2 => rfl

theorem Wording.dropStar_trimEnd (t : Text) :
    dropStar (Text.trimEnd t) = Text.trimEnd (dropStar t) := by
  cases t with
  | nil => rfl
  | cons c rest =>
      by_cases star : c = '*'
      · rw [star, Text.trimEnd_cons]
        have visible : Text.isBlank '*' = false := by decide
        by_cases empty : Text.trimEnd rest = []
        · simp [empty, visible, dropStar]
        · simp [empty, dropStar]
      · have kept : (Text.trimEnd (c :: rest)).head? ≠ some '*' := by
          rw [Text.trimEnd_cons]
          split
          · split <;> simp [star]
          · simp [star]
        rw [dropStar_of_head _ kept, dropStar_of_head _ (by simpa using star)]

theorem Wording.afterDecoration_trim (t : Text) :
    afterDecoration (Text.trim t) = Text.trimEnd (afterDecoration t) := by
  rw [afterDecoration, Text.trim, Text.trimStart_trimEnd, Text.trimStart_trimStart,
    dropStar_trimEnd, Text.trimStart_trimEnd, afterDecoration]

def shownLine (line : Text) : Text := Text.trim (undecorate line)

/-- The blank that goes with a star is one of those that are trimmed. -/
theorem shownLine_eq (line : Text) :
    shownLine line = Text.trim (Wording.dropStar (Text.trimStart line)) := by
  simp only [shownLine, undecorate]
  split
  case h_1 c tail rest =>
      have dropped : Wording.dropStar (Text.trimStart line) = c :: tail := rest
      rw [rest, dropped]
      cases blank : Text.isBlank c with
      | false => simp
      | true => simp [blank, Text.trim, Text.trimStart_blank]
  case h_2 empty =>
      have dropped : Wording.dropStar (Text.trimStart line) = [] := empty
      rw [dropped]

theorem shownLine_append_lead (lead line : Text) (blank : Text.Blank lead) :
    shownLine (lead ++ line) = shownLine line := by
  rw [shownLine_eq, Text.trimStart_append lead line blank, shownLine_eq]

theorem shownLine_append_trail (line trail : Text) (blank : Text.Blank trail) :
    shownLine (line ++ trail) = shownLine line := by
  rw [shownLine_eq, shownLine_eq, Text.trimStart_append_trail line trail blank]
  cases start : Text.trimStart line with
  | nil => rfl
  | cons c rest =>
      have inside : Wording.dropStar (c :: rest ++ trail) =
          Wording.dropStar (c :: rest) ++ trail := by
        by_cases star : c = '*'
        · rw [star]
          rfl
        · rw [Wording.dropStar_of_head _ (by simpa using star),
            Wording.dropStar_of_head _ (by simpa using star)]
      rw [if_neg (List.cons_ne_nil c rest), inside, Text.trim_append_trail _ trail blank]

def shownLines (t : Text) : List Text :=
  ((Text.splitOn '\n' t).map shownLine).filter fun line => !line.isEmpty

theorem shownLines_append_cons (first second : Text) :
    shownLines (first ++ '\n' :: second) = shownLines first ++ shownLines second := by
  rw [shownLines, Text.splitOn_append_cons, List.map_append, List.filter_append]
  rfl

theorem shownLines_of_line (line : Text) (single : '\n' ∉ line) :
    shownLines line = [shownLine line].filter fun line => !line.isEmpty := by
  rw [shownLines, Text.splitOn_of_clean '\n' line single, List.map_singleton]

theorem line_induction {motive : Text → Prop} (line : ∀ first, '\n' ∉ first → motive first)
    (part : ∀ first rest, '\n' ∉ first → motive rest → motive (first ++ '\n' :: rest))
    (t : Text) : motive t := by
  induction t using Text.parted_induction fun c => c != '\n' with
  | word first passes =>
      apply line
      intro member
      simpa using passes _ member
  | part first c rest passes fails ih =>
      have newline : c = '\n' := by simpa using fails
      rw [newline]
      apply part first rest _ ih
      intro member
      simpa using passes _ member

theorem shownLines_cons_blank (c : Char) (t : Text) (blank : Text.isBlank c = true) :
    shownLines (c :: t) = shownLines t := by
  have lead : Text.Blank [c] := by simpa [Text.Blank] using blank
  by_cases newline : c = '\n'
  · rw [newline]
    exact shownLines_append_cons [] t
  · have single : ∀ line, '\n' ∉ line → shownLines (c :: line) = shownLines line := by
      intro line clean
      rw [shownLines_of_line line clean,
        shownLines_of_line (c :: line) (by simpa [Ne.symm newline] using clean)]
      exact congrArg (fun shown => [shown].filter _) (shownLine_append_lead [c] line lead)
    induction t using line_induction with
    | line first clean => exact single first clean
    | part first rest clean _ =>
        rw [← List.cons_append, shownLines_append_cons, single first clean,
          shownLines_append_cons]

theorem shownLines_concat_blank (t : Text) (c : Char) (blank : Text.isBlank c = true) :
    shownLines (t ++ [c]) = shownLines t := by
  have trail : Text.Blank [c] := by simpa [Text.Blank] using blank
  by_cases newline : c = '\n'
  · rw [newline, shownLines_append_cons]
    exact List.append_nil _
  · induction t using line_induction with
    | line first clean =>
        rw [shownLines_of_line first clean,
          shownLines_of_line (first ++ [c]) (by simpa [Ne.symm newline] using clean),
          shownLine_append_trail first [c] trail]
    | part first rest _ ih =>
        rw [List.append_assoc, List.cons_append, shownLines_append_cons, ih,
          shownLines_append_cons]

theorem shownLines_append_lead (lead t : Text) (blank : Text.Blank lead) :
    shownLines (lead ++ t) = shownLines t := by
  induction lead with
  | nil => rfl
  | cons c rest ih =>
      obtain ⟨here, later⟩ := List.forall_mem_cons.mp blank
      rw [List.cons_append, shownLines_cons_blank c _ here, ih later]

theorem shownLines_append_trail (t trail : Text) (blank : Text.Blank trail) :
    shownLines (t ++ trail) = shownLines t := by
  induction trail using List.reverseRecOn with
  | nil => rw [List.append_nil]
  | append_singleton rest c ih =>
      obtain ⟨earlier, last⟩ := List.forall_mem_append.mp blank
      rw [← List.append_assoc, shownLines_concat_blank _ c (last c List.mem_cons_self),
        ih earlier]

theorem shownLine_cons_star (line : Text) (bare : (Text.trimStart line).head? ≠ some '*') :
    shownLine ('*' :: line) = shownLine line := by
  rw [shownLine_eq, shownLine_eq, Text.trimStart_visible '*' line rfl,
    Wording.dropStar_of_head _ bare, Text.trim_trimStart]
  rfl

theorem shownLines_cons_star (t : Text) (bare : (Text.trimStart t).head? ≠ some '*') :
    shownLines ('*' :: t) = shownLines t := by
  have single : ∀ line, '\n' ∉ line → (Text.trimStart line).head? ≠ some '*' →
      shownLines ('*' :: line) = shownLines line := by
    intro line clean free
    rw [shownLines_of_line line clean, shownLines_of_line ('*' :: line) (by simpa using clean),
      shownLine_cons_star line free]
  induction t using line_induction with
  | line first clean => exact single first clean bare
  | part first rest clean _ =>
      have free : (Text.trimStart first).head? ≠ some '*' := by
        intro star
        exact bare (Text.head_trimStart_append first _ '*' star)
      rw [← List.cons_append, shownLines_append_cons, single first clean free,
        shownLines_append_cons]

/-- Trimming the whole of a body takes away no more than its lines lose by themselves. -/
theorem blockLines_eq (body : Text) : blockLines body = shownLines body := by
  obtain ⟨lead, trail, before, after, parts⟩ := Text.trim_parts body
  calc
    blockLines body = shownLines (Text.trim body) := rfl
    _ = shownLines (lead ++ Text.trim body ++ trail) := by
      rw [shownLines_append_trail _ trail after, shownLines_append_lead lead _ before]
    _ = shownLines body := by rw [← parts]

/-- The lines are those of what follows the decoration at the start of the body. -/
theorem blockLines_afterDecoration (body : Text)
    (bare : (Wording.afterDecoration body).head? ≠ some '*') :
    blockLines body = blockLines (Wording.afterDecoration body) := by
  have trimmed : ∀ t, shownLines (Text.trimStart t) = shownLines t := by
    intro t
    obtain ⟨lead, blank, parts⟩ := Text.trimStart_parts t
    rw [← shownLines_append_lead lead _ blank, ← parts]
  unfold Wording.afterDecoration at bare ⊢
  rw [blockLines_eq, blockLines_eq, trimmed (Wording.dropStar _), ← trimmed body]
  cases start : Text.trimStart body with
  | nil => rfl
  | cons c rest =>
      by_cases star : c = '*'
      · rw [start, star] at bare
        rw [star]
        exact shownLines_cons_star rest bare
      · rw [Wording.dropStar_of_head _ (by simpa using star)]

theorem blockLines_append_cons (first second : Text) :
    blockLines (first ++ '\n' :: second) = blockLines first ++ blockLines second := by
  simp only [blockLines_eq, shownLines_append_cons]

theorem blockLines_of_blank (t : Text) (blank : Text.Blank t) : blockLines t = [] := by
  rw [blockLines_eq, ← List.append_nil t, shownLines_append_lead t [] blank]
  rfl

theorem blockLines_of_line (line shown : Text) (single : '\n' ∉ line)
    (read : shownLine line = shown) (nonempty : shown ≠ []) : blockLines line = [shown] := by
  rw [blockLines_eq, shownLines_of_line line single, read]
  simpa using nonempty

theorem blockLines_starts (t : Text) (nonempty : t ≠ [])
    (visible : ∀ c ∈ t.head?, Text.isBlank c = false) (bare : t.head? ≠ some '*') :
    ∃ first tail others, t = first ++ tail ∧ (∀ c ∈ tail.head?, Text.isBlank c = true) ∧
      blockLines t = first :: others := by
  have single : ∀ line : Text, line ≠ [] → '\n' ∉ line →
      (∀ c ∈ line.head?, Text.isBlank c = false) → line.head? ≠ some '*' →
        blockLines line = [Text.trimEnd line] := by
    intro line some clean starts unstarred
    apply blockLines_of_line line _ clean
    · rw [shownLine_eq, Text.trimStart_of_head line starts, Wording.dropStar_of_head _ unstarred,
        Text.trim, Text.trimStart_of_head line starts]
    · obtain ⟨c, rest, rfl⟩ := List.exists_cons_of_ne_nil some
      rw [Text.trimEnd_cons, starts c rfl]
      split <;> simp
  induction t using line_induction with
  | line first clean =>
      obtain ⟨trail, blank, parts⟩ := Text.trimEnd_parts first
      refine ⟨Text.trimEnd first, trail, [], parts, ?_, single first nonempty clean visible bare⟩
      intro c here
      exact blank c (List.mem_of_mem_head? here)
  | part first rest clean _ =>
      obtain ⟨trail, blank, parts⟩ := Text.trimEnd_parts first
      cases first with
      | nil => cases visible '\n' rfl
      | cons c more =>
          refine ⟨Text.trimEnd (c :: more), trail ++ '\n' :: rest, blockLines rest, ?_, ?_, ?_⟩
          · rw [← List.append_assoc, ← parts]
          · intro b here
            cases trail with
            | nil =>
                cases here
                decide
            | cons d trail =>
                have same : d = b := Option.some.inj here
                exact same ▸ blank d List.mem_cons_self
          · rw [blockLines_append_cons,
              single (c :: more) (List.cons_ne_nil c more) clean visible bare]
            rfl

@[mk_iff]
structure IsWording (line : Text) : Prop where
  nonempty : line ≠ []
  single : '\n' ∉ line
  starts : ∀ c ∈ line.head?, Text.isBlank c = false
  ends : ∀ c ∈ line.getLast?, Text.isBlank c = false

instance : DecidablePred IsWording := fun line => decidable_of_iff' _ (isWording_iff line)

theorem IsWording.trim_eq {line : Text} (wording : IsWording line) : Text.trim line = line := by
  rw [Text.trim, Text.trimStart_of_head line wording.starts, Text.trimEnd_of_last line wording.ends]

structure IndentedLine where
  indent : Text
  words : Text
  blank : Text.Blank indent
  inLine : '\n' ∉ indent
  wording : IsWording words

namespace IndentedLine

theorem blockLines_starred (line : IndentedLine) :
    blockLines (line.indent ++ ['*', ' '] ++ line.words) = [line.words] := by
  apply blockLines_of_line _ _ _ _ line.wording.nonempty
  · simpa [line.inLine] using line.wording.single
  · have star : Text.trimStart ('*' :: ' ' :: line.words) = '*' :: ' ' :: line.words :=
      Text.trimStart_visible '*' _ rfl
    have space : Text.trim (' ' :: line.words) = Text.trim line.words :=
      Text.trim_append_lead [' '] line.words (by decide)
    rw [List.append_assoc, shownLine_append_lead line.indent _ line.blank, shownLine_eq]
    simp only [List.cons_append, List.nil_append, star, Wording.dropStar]
    rw [space, line.wording.trim_eq]

theorem blockLines_plain (line : IndentedLine) (unstarred : line.words.head? ≠ some '*') :
    blockLines (line.indent ++ line.words) = [line.words] := by
  apply blockLines_of_line _ _ _ _ line.wording.nonempty
  · simpa [line.inLine] using line.wording.single
  · rw [shownLine_append_lead line.indent _ line.blank, shownLine_eq,
      Text.trimStart_of_head _ line.wording.starts, Wording.dropStar_of_head _ unstarred,
      line.wording.trim_eq]

end IndentedLine

/-- The body of a block comment: a star or none on the line of the opener, then lines with the given
decoration after their indentation, and what stands before the closer. -/
def blockBody (starred : Bool) (decoration : Text) (lines : List IndentedLine) (ending : Text) :
    Text :=
  (if starred then ['*'] else []) ++ '\n' ::
    (lines.flatMap (fun line => line.indent ++ decoration ++ line.words ++ ['\n']) ++ ending)

theorem blockLines_blockBody (starred : Bool) (decoration : Text) (lines : List IndentedLine)
    (ending : Text) (blank : Text.Blank ending)
    (each : ∀ line ∈ lines,
      blockLines (line.indent ++ decoration ++ line.words) = [line.words]) :
    blockLines (blockBody starred decoration lines ending) = lines.map (·.words) := by
  have opening : blockLines (if starred then ['*'] else []) = [] := by
    cases starred <;> decide
  rw [blockBody, blockLines_append_cons, opening, List.nil_append]
  induction lines with
  | nil => exact blockLines_of_blank ending blank
  | cons line rest ih =>
      obtain ⟨here, later⟩ := List.forall_mem_cons.mp each
      rw [List.flatMap_cons, List.append_assoc, List.append_assoc _ ['\n'], List.singleton_append,
        blockLines_append_cons, here, ih later]
      rfl

theorem Comment.block_reads (comment : Comment) (first : Text) (rest : List Text)
    (block : comment.kind = .block) (lines : blockLines comment.body = first :: rest) :
    comment.firstLine = first ∧ comment.text = Text.joinWith [' '] (first :: rest) := by
  simp only [firstLine, text, block, lines, List.headD_cons, and_self]

/-- Lines of words written into a block comment come back: the first one as its first line, all of
them with single spaces as its text. They may stand under stars, of which only the decoration is
taken away, or under indentation alone if none of them starts with a star. -/
theorem block_lines_read_back (comment : Comment) (starred : Bool) (first : IndentedLine)
    (rest : List IndentedLine) (ending : Text) (blank : Text.Blank ending) :
    let lines := first :: rest
    let written := fun decoration =>
      { comment with kind := .block, body := blockBody starred decoration lines ending }
    ((written "* ").firstLine = first.words ∧
      (written "* ").text = Text.joinWith " " (lines.map (·.words))) ∧
    ((∀ line ∈ lines, line.words.head? ≠ some '*') →
      (written "").firstLine = first.words ∧
        (written "").text = Text.joinWith " " (lines.map (·.words))) := by
  intro lines written
  constructor
  · apply (written "* ").block_reads first.words (rest.map (·.words)) rfl
    exact blockLines_blockBody starred _ lines ending blank fun line _ => line.blockLines_starred
  · intro unstarred
    apply (written "").block_reads first.words (rest.map (·.words)) rfl
    apply blockLines_blockBody starred _ lines ending blank
    intro line member
    simpa using line.blockLines_plain (unstarred line member)

theorem block_lines_read_back_bullet :
    let first : IndentedLine := ⟨" ", "Loads it", by decide, by decide, by decide⟩
    let second : IndentedLine := ⟨"\t\u00A0", "* twice", by decide, by decide, by decide⟩
    let comment : Comment := ⟨⟨1, 0, 4, 3, 0, 40⟩, .block, "", false⟩
    let starred := { comment with body := "*\n * Loads it\n\t\u00A0* * twice\n \n " }
    let plain := { comment with body := "*\n Loads it\n \n " }
    starred.body = blockBody true "* " [first, second] " \n " ∧
      starred.firstLine = "Loads it".toList ∧ starred.text = "Loads it * twice".toList ∧
      plain.body = blockBody true "" [first] " \n " ∧ plain.text = "Loads it".toList := by
  intro first second comment starred plain
  have blank : Text.Blank " \n " := by decide
  obtain ⟨⟨line, text⟩, _⟩ := block_lines_read_back comment true first [second] " \n " blank
  obtain ⟨_, unstarred⟩ := block_lines_read_back comment true first [] " \n " blank
  exact ⟨by decide, line, text, by decide, (unstarred (by decide)).2⟩

end Restatement
