import Mathlib.Data.List.Infix
import Restatement.Pattern

/-!
What stops a pattern from being compiled. Apart from faults of its text, a pattern is stopped only
by a limit of the engine that it does exceed: a repetition count or a numeral that is too large, a
code point out of range, or two alphabets at once.
-/

namespace Restatement.Pattern

def Writes (pattern text : Text) : Prop := text.map Token.char <:+: tokenize pattern

inductive Counts (pattern : Text) : (low high : Text) → Prop
  | exactly (count : Text) (decimal : ∀ c ∈ count, isDecimal c = true)
      (written : Writes pattern ('{' :: count ++ ['}'])) : Counts pattern count count
  | between (low high : Text) (decimal : ∀ c ∈ low ++ high, isDecimal c = true)
      (written : Writes pattern ('{' :: low ++ ',' :: high ++ ['}'])) : Counts pattern low high

def TurnsOn (pattern : Text) (letter : Char) : Prop :=
  ∃ letters, Writes pattern (['(', '?'] ++ letters ++ [')']) ∧ letter ∈ letters

/-- The limits that a pattern exceeds, by what stands in it. -/
inductive Exceeds (pattern : Text) : Limit → Prop
  | repetitions (low high bound : Text) (counted : Counts pattern low high)
      (chosen : bound = low ∨ bound = high) (large : Width.repeatLimit ≤ numeral 10 bound) :
      Exceeds pattern .tooManyRepetitions
  | digits (low high bound : Text) (counted : Counts pattern low high)
      (chosen : bound = low ∨ bound = high) (long : Text.digitLimit < bound.length) :
      Exceeds pattern (.longNumeral bound.length)
  | code (digits : Text) (hex : ∀ c ∈ digits, isHex c = true) (eight : digits.length = 8)
      (written : .escape 'U' :: digits.map Token.char <:+: tokenize pattern)
      (large : 0x80000000 ≤ numeral 16 digits) : Exceeds pattern .codeTooLarge
  | alphabets (ascii : TurnsOn pattern 'a') (unicode : TurnsOn pattern 'u') :
      Exceeds pattern .alphabetConflict

def Failure.Explained (pattern : Text) : Failure → Prop
  | .invalid _ => True
  | .limit broken => Exceeds pattern broken

/-- A step of reading comes to a result as described or to a failure that is explained. -/
def Reads {α : Type} (pattern : Text) (described : α → Prop) : Except Failure α → Prop
  | .ok value => described value
  | .error failure => failure.Explained pattern

section Steps

variable {α β : Type} {pattern : Text}

theorem Reads.bind {described : α → Prop} {next : β → Prop} {step : Except Failure α}
    {rest : α → Except Failure β} (first : Reads pattern described step)
    (others : ∀ value, described value → Reads pattern next (rest value)) :
    Reads pattern next (step >>= rest) := by
  cases step with
  | ok value => exact others value first
  | error failure => exact first

theorem Reads.bind_ite {described : α → Prop} {next : β → Prop} {choice : Prop}
    [Decidable choice] {left right : Except Failure α} {rest : α → Except Failure β}
    (first : Reads pattern described (if choice then left else right))
    (others : ∀ value, described value → Reads pattern next (rest value)) :
    Reads pattern next (if choice then left >>= rest else right >>= rest) := by
  by_cases holds : choice
  · rw [if_pos holds] at first ⊢
    exact first.bind others
  · rw [if_neg holds] at first ⊢
    exact first.bind others

theorem Reads.weaken {described weaker : α → Prop} {step : Except Failure α}
    (reads : Reads pattern described step) (implies : ∀ value, described value → weaker value) :
    Reads pattern weaker step := by
  cases step with
  | ok value => exact implies value reads
  | error failure => exact reads

theorem Reads.map {described : β → Prop} {step : Except Failure α} {f : α → β}
    (reads : Reads pattern (fun value => described (f value)) step) :
    Reads pattern described (step.map f) := by
  cases step with
  | ok value => exact reads
  | error failure => exact reads

end Steps

namespace Cursor

def After (pattern : Text) (passed : List Token) (cursor : Cursor) : Prop :=
  passed ++ cursor.tokens <:+ tokenize pattern

variable {pattern : Text} {passed : List Token} {cursor : Cursor}

theorem After.forget (after : cursor.After pattern passed) : cursor.After pattern [] :=
  (List.suffix_append passed cursor.tokens).trans after

theorem After.infix (after : cursor.After pattern passed) : passed <:+: tokenize pattern :=
  (List.prefix_append passed cursor.tokens).isInfix.trans after.isInfix

theorem check_reads (after : cursor.After pattern passed) :
    Reads pattern (After pattern passed) cursor.check := by
  unfold check
  split
  · trivial
  · exact after

theorem start_reads (pattern : Text) : Reads pattern (After pattern []) (start pattern) :=
  check_reads (List.suffix_refl _)

theorem advance_reads (token : Token) (next : cursor.next? = some token)
    (after : cursor.After pattern passed) :
    Reads pattern (After pattern (passed ++ [token])) cursor.advance := by
  unfold advance
  cases tokens : cursor.tokens with
  | nil =>
      rw [next?, tokens] at next
      cases next
  | cons first rest =>
      rw [next?, tokens] at next
      cases next
      apply check_reads
      simpa [After, tokens] using after

theorem advance_stays (after : cursor.After pattern []) :
    Reads pattern (After pattern []) cursor.advance := by
  cases next : cursor.next? with
  | none =>
      rw [advance, List.head?_eq_none_iff.mp next]
      exact after
  | some token =>
      apply (advance_reads token next after).weaken
      intro moved past
      exact past.forget

theorem skip_reads (c : Char) (after : cursor.After pattern passed) :
    Reads pattern
      (fun result => result.2.After pattern (passed ++ if result.1 then [.char c] else []))
      (cursor.skip c) := by
  unfold skip
  split
  case isTrue next =>
      apply (advance_reads (.char c) next after).bind
      intro cursor moved
      exact moved
  case isFalse =>
      simpa [Reads] using after

theorem takeWhile_reads (p : Char → Bool) (count : Nat) (after : cursor.After pattern passed) :
    Reads pattern
      (fun result => (∀ c ∈ result.1, p c = true) ∧
        result.2.After pattern (passed ++ result.1.map .char))
      (cursor.takeWhile p count) := by
  induction count generalizing cursor passed with
  | zero => simpa [takeWhile, Reads] using after
  | succ count ih =>
      unfold takeWhile
      split
      case h_1 c next =>
          split
          case isTrue holds =>
              apply (advance_reads (.char c) next after).bind
              intro moved past
              apply (ih past).bind
              rintro ⟨taken, last⟩ ⟨all, beyond⟩
              refine ⟨List.forall_mem_cons.mpr ⟨holds, all⟩, ?_⟩
              simpa using beyond
          case isFalse => simpa [Reads] using after
      case h_2 => simpa [Reads] using after

theorem takeUntil_reads (terminator : Char) (what : Text) (fuel : Nat) (sofar : Text)
    (after : cursor.After pattern []) :
    Reads pattern (fun result => result.2.After pattern [])
      (cursor.takeUntil terminator what fuel sofar) := by
  induction fuel generalizing cursor sofar with
  | zero => trivial
  | succ fuel ih =>
      unfold takeUntil
      split
      case h_1 =>
          split <;> trivial
      case h_2 token next =>
          apply (advance_reads token next after).bind
          intro moved past
          split
          · split
            · trivial
            · exact past.forget
          · exact ih _ past.forget

theorem name_reads (terminator : Char) (what : String) (after : cursor.After pattern []) :
    Reads pattern (fun result => result.2.After pattern []) (cursor.name terminator what) :=
  takeUntil_reads terminator _ _ _ after

end Cursor

section Escapes

variable {pattern : Text} {cursor : Cursor}

theorem digitOf_lt (c : Char) (hex : isHex c = true) : digitOf c < 16 := by
  have values : '0'.val.toNat = 48 ∧ '9'.val.toNat = 57 ∧ 'a'.val.toNat = 97 ∧
      'f'.val.toNat = 102 ∧ 'A'.val.toNat = 65 ∧ 'F'.val.toNat = 70 := by decide
  simp only [isHex, isDecimal, Bool.or_eq_true, Bool.and_eq_true, decide_eq_true_eq, Char.le_def,
    UInt32.le_iff_toNat_le, values] at hex
  simp only [digitOf, isDecimal, Bool.and_eq_true, decide_eq_true_eq, Char.le_def,
    UInt32.le_iff_toNat_le, Char.toNat, values]
  split
  · omega
  · split <;> omega

theorem numeral_lt (digits : Text) (hex : ∀ c ∈ digits, isHex c = true) :
    numeral 16 digits < Nat.pow 16 digits.length := by
  induction digits using List.reverseRecOn with
  | nil => decide
  | append_singleton front last ih =>
      have before := ih fun c member => hex c (List.mem_append_left _ member)
      have digit := digitOf_lt last (hex last (List.mem_append_right _ List.mem_cons_self))
      have step : numeral 16 (front ++ [last]) = 16 * numeral 16 front + digitOf last :=
        List.foldl_concat ..
      have grown : Nat.pow 16 (front ++ [last]).length = Nat.pow 16 front.length * 16 := by
        rw [List.length_append]
        rfl
      rw [step, grown]
      omega

theorem readHex_reads (c : Char) (count : Nat)
    (known : count ≤ 4 ∨ c = 'U' ∧ count = 8) (after : cursor.After pattern [.escape c]) :
    Reads pattern (fun result => result.2.After pattern []) (readHex c count cursor) := by
  apply (cursor.takeWhile_reads isHex count after).bind
  rintro ⟨digits, last⟩ ⟨hex, past⟩
  dsimp only
  split
  case isTrue complete =>
      split
      · exact past.forget
      · split
        case isTrue large =>
            rcases known with few | ⟨rfl, rfl⟩
            · have small := numeral_lt digits hex
              have bound : Nat.pow 16 digits.length ≤ 16 ^ 4 :=
                Nat.pow_le_pow_right (by decide) (complete ▸ few)
              omega
            · exact Exceeds.code digits hex complete past.infix large
        case isFalse => trivial
  case isFalse => trivial

theorem readNamed_reads [CharacterNames] (after : cursor.After pattern []) :
    Reads pattern (fun result => result.2.After pattern []) (readNamed cursor) := by
  apply (cursor.skip_reads '{' after).bind
  rintro ⟨opened, last⟩ past
  dsimp only
  split
  · trivial
  · apply (last.name_reads '}' "character name" past.forget).bind
    rintro ⟨name, last⟩ past
    dsimp only
    split
    · exact past
    · trivial

theorem readCodeEscape_reads [CharacterNames] (c : Char) (after : cursor.After pattern [.escape c])
    (result : Except Failure (Nat × Cursor)) (read : readCodeEscape? c cursor = some result) :
    Reads pattern (fun result => result.2.After pattern []) result := by
  unfold readCodeEscape? at read
  split at read
  · cases read
    exact readHex_reads 'x' 2 (.inl (by decide)) after
  · cases read
    exact readHex_reads 'u' 4 (.inl (by decide)) after
  · cases read
    exact readHex_reads 'U' 8 (.inr ⟨rfl, rfl⟩) after
  · cases read
    exact readNamed_reads after.forget
  · cases read

theorem plainEscape_reads (c : Char) (after : cursor.After pattern []) :
    Reads pattern (fun result => result.2.After pattern []) (plainEscape c cursor) := by
  unfold plainEscape
  split
  · trivial
  · exact after

theorem readClassEscape_reads [CharacterNames] (c : Char)
    (after : cursor.After pattern [.escape c]) :
    Reads pattern (fun result => result.2.After pattern []) (readClassEscape c cursor) := by
  unfold readClassEscape
  split
  · exact after.forget
  · exact after.forget
  case h_3 result _ _ read =>
      apply Reads.map
      exact readCodeEscape_reads c after result read
  case h_4 =>
      split
      · apply (cursor.takeWhile_reads isOctal 2 after.forget).bind
        rintro ⟨digits, last⟩ ⟨_, past⟩
        dsimp only
        split
        · trivial
        · exact past.forget
      · apply Reads.map
        exact plainEscape_reads c after.forget

end Escapes

structure Flags.Chosen (pattern : Text) (flags : Flags) : Prop where
  ascii : flags.ascii = true → TurnsOn pattern 'a'
  unicode : flags.unicode = true → TurnsOn pattern 'u'
  locale : flags.locale = false

/-- The reader stands somewhere in the pattern, and what its flags are is chosen there. -/
structure Progress.Sound (pattern : Text) (p : Progress) : Prop where
  place : p.cursor.After pattern []
  flags : p.flags.Chosen pattern

section Readers

variable {pattern : Text} {p : Progress}

theorem checkLookbehind_reads (group : Nat) :
    Reads pattern (fun _ => True) (p.checkLookbehind group) := by
  unfold Progress.checkLookbehind
  split
  · trivial
  · split
    · trivial
    · split <;> trivial

theorem readNumbered_reads (c : Char) (sound : p.Sound pattern) :
    Reads pattern (Progress.Sound pattern) (readNumbered p c) := by
  apply (p.cursor.takeWhile_reads isDecimal 1 sound.place).bind
  rintro ⟨second, cursor⟩ ⟨_, past⟩
  refine Reads.bind_ite
    (?_ : Reads pattern (fun result : Text × Cursor => result.2.After pattern []) _) ?_
  · split
    · apply (cursor.takeWhile_reads isOctal 1 past.forget).weaken
      intro result taken
      exact taken.2.forget
    · exact past.forget
  · rintro ⟨third, last⟩ beyond
    dsimp only
    split
    · split
      · trivial
      · exact ⟨beyond, sound.flags⟩
    · split
      · split
        · trivial
        · apply (checkLookbehind_reads _).bind
          intro _ _
          exact ⟨past.forget, sound.flags⟩
      · trivial

theorem readEscape_reads [CharacterNames] (c : Char) (after : p.cursor.After pattern [.escape c])
    (flags : p.flags.Chosen pattern) :
    Reads pattern (Progress.Sound pattern) (readEscape p c) := by
  unfold readEscape
  split
  · exact ⟨after.forget, flags⟩
  · exact ⟨after.forget, flags⟩
  · exact ⟨after.forget, flags⟩
  case h_4 result _ _ _ read =>
      apply (readCodeEscape_reads c after result read).bind
      rintro ⟨code, cursor⟩ past
      exact ⟨past, flags⟩
  case h_5 =>
      split
      · apply (p.cursor.takeWhile_reads isOctal 2 after.forget).bind
        rintro ⟨digits, cursor⟩ ⟨_, past⟩
        exact ⟨past.forget, flags⟩
      · split
        · exact readNumbered_reads c ⟨after.forget, flags⟩
        · apply (plainEscape_reads c after.forget).bind
          rintro ⟨code, cursor⟩ past
          exact ⟨past, flags⟩

theorem readMember_reads [CharacterNames] (token : Token) (cursor : Cursor)
    (after : cursor.After pattern [token]) :
    Reads pattern (fun result => result.2.After pattern []) (readMember token cursor) := by
  cases token with
  | char c => exact after.forget
  | escape c => exact readClassEscape_reads c after
  | dangling => exact after.forget

theorem readSet_reads [CharacterNames] (start fuel : Nat) (items : List ClassItem) (cursor : Cursor)
    (after : cursor.After pattern []) :
    Reads pattern (fun result => result.2.After pattern []) (readSet start fuel items cursor) := by
  induction fuel generalizing items cursor with
  | zero => trivial
  | succ fuel ih =>
      unfold readSet
      split
      case h_1 => trivial
      case h_2 token next =>
          apply (cursor.advance_reads token next after).bind
          intro cursor past
          split
          · exact past.forget
          · apply (readMember_reads token cursor past).bind
            rintro ⟨item, cursor⟩ past
            apply (cursor.skip_reads '-' past).bind
            rintro ⟨dash, cursor⟩ past
            dsimp only
            split
            · exact ih _ _ past.forget
            · split
              case h_1 => trivial
              case h_2 last next =>
                  apply (cursor.advance_reads last next past.forget).bind
                  intro cursor past
                  split
                  · exact past.forget
                  · apply (readMember_reads last cursor past).bind
                    rintro ⟨other, cursor⟩ past
                    dsimp only
                    split
                    · split
                      · trivial
                      · exact ih _ _ past
                    · trivial

theorem readClass_reads [CharacterNames] (sound : p.Sound pattern) :
    Reads pattern (Progress.Sound pattern) (readClass p) := by
  apply (p.cursor.skip_reads '^' sound.place).bind
  rintro ⟨negated, cursor⟩ past
  apply (readSet_reads _ _ [] cursor past.forget).bind
  rintro ⟨items, cursor⟩ past
  exact ⟨past, sound.flags⟩

theorem readBound_reads (low high bound : Text) (counted : Counts pattern low high)
    (chosen : bound = low ∨ bound = high) : Reads pattern (fun _ => True) (readBound bound) := by
  unfold readBound
  split
  case isTrue long => exact Exceeds.digits low high bound counted chosen long
  case isFalse =>
      split
      case isTrue large => exact Exceeds.repetitions low high bound counted chosen large
      case isFalse => trivial

theorem readBounds_reads (cursor : Cursor) (after : cursor.After pattern [.char '{']) :
    Reads pattern (fun result => ∀ least most last, result = some (least, most, last) →
      last.After pattern []) (readBounds cursor) := by
  apply (cursor.takeWhile_reads isDecimal _ after).bind
  rintro ⟨low, first⟩ ⟨lowDigits, past⟩
  apply (first.skip_reads ',' past).bind
  rintro ⟨comma, second⟩ past
  refine Reads.bind_ite (?_ : Reads pattern (fun result : Text × Cursor =>
    result.2.After pattern (([.char '{'] ++ low.map .char ++ if comma then [.char ','] else []) ++
      if comma then result.1.map .char else []) ∧
    (∀ c ∈ result.1, isDecimal c = true) ∧ (comma = false → result.1 = low)) _) ?_
  -- without a comma nothing more is read, and the lower bound is the upper one as well
  · cases comma with
    | true =>
        apply (second.takeWhile_reads isDecimal _ past).weaken
        rintro ⟨high, third⟩ ⟨digits, past⟩
        exact ⟨past, digits, nofun⟩
    | false => exact ⟨by simpa using past, lowDigits, fun _ => rfl⟩
  · rintro ⟨high, third⟩ ⟨past, highDigits, same⟩
    apply (third.skip_reads '}' past).bind
    rintro ⟨closed, last⟩ past
    dsimp only at past highDigits same lowDigits ⊢
    cases closed with
    | false => exact nofun
    | true =>
        have counted : Counts pattern low high := by
          cases comma with
          | true =>
              refine .between low high ?_ ?_
              · intro c member
                exact (List.mem_append.mp member).elim (lowDigits c) (highDigits c)
              · simpa [Writes] using past.infix
          | false =>
              rw [same rfl]
              refine .exactly low lowDigits ?_
              simpa [Writes] using past.infix
        apply (readBound_reads low high low counted (.inl rfl)).bind
        intro least _
        split
        · rintro _ _ _ ⟨⟩
          exact past.forget
        · apply (readBound_reads low high high counted (.inr rfl)).bind
          intro most _
          split
          · trivial
          · rintro _ _ _ ⟨⟩
            exact past.forget

theorem repeatLast_reads (here least : Nat) (most : Option Nat) (sound : p.Sound pattern) :
    Reads pattern (Progress.Sound pattern) (repeatLast p here least most) := by
  unfold repeatLast
  split
  · trivial
  · trivial
  · trivial
  · apply (p.cursor.skip_reads '?' sound.place).bind
    rintro ⟨reluctant, cursor⟩ past
    refine Reads.bind_ite
      (?_ : Reads pattern (fun result : Bool × Cursor => result.2.After pattern []) _) ?_
    · split
      · exact past.forget
      · apply (cursor.skip_reads '+' past.forget).weaken
        intro result moved
        exact moved.forget
    · rintro ⟨possessive, cursor⟩ past
      exact ⟨past, sound.flags⟩

theorem readRepetition_reads (sign : Char) (after : p.cursor.After pattern [.char sign])
    (known : sign = '?' ∨ sign = '*' ∨ sign = '+' ∨ sign = '{') (flags : p.flags.Chosen pattern) :
    Reads pattern (Progress.Sound pattern) (readRepetition p sign) := by
  have sound : p.Sound pattern := ⟨after.forget, flags⟩
  unfold readRepetition
  split
  · exact repeatLast_reads _ _ _ sound
  · exact repeatLast_reads _ _ _ sound
  · exact repeatLast_reads _ _ _ sound
  case h_4 question star plus =>
      obtain rfl : sign = '{' := by tauto
      split
      · exact ⟨sound.place, flags⟩
      · apply (readBounds_reads p.cursor after).bind
        intro bounds past
        split
        · exact ⟨sound.place, flags⟩
        case h_2 least most cursor =>
            exact repeatLast_reads _ _ _ ⟨past least most cursor rfl, flags⟩

structure Flags.Lettered (letters : Text) (flags : Flags) : Prop where
  ascii : flags.ascii = true → 'a' ∈ letters
  unicode : flags.unicode = true → 'u' ∈ letters
  locale : flags.locale = false

theorem Flags.cleared_lettered (letters : Text) : cleared.Lettered letters :=
  ⟨nofun, nofun, rfl⟩

theorem Flags.ofLetter_lettered (letter : Char) (flag : Flags)
    (known : ofLetter? letter = some flag)
    (neutral : letter ≠ 'L') : flag.Lettered [letter] := by
  unfold ofLetter? at known
  split at known
  case h_2 => exact absurd rfl neutral
  all_goals cases known
  all_goals exact ⟨by decide, by decide, rfl⟩

theorem Flags.Lettered.union {first second : Text} {on flag : Flags}
    (before : on.Lettered first) (last : flag.Lettered second) :
    (on.union flag).Lettered (first ++ second) := by
  refine ⟨?_, ?_, ?_⟩
  · intro ascii
    rcases Bool.or_eq_true_iff.mp ascii with old | new
    · exact List.mem_append_left _ (before.ascii old)
    · exact List.mem_append_right _ (last.ascii new)
  · intro unicode
    rcases Bool.or_eq_true_iff.mp unicode with old | new
    · exact List.mem_append_left _ (before.unicode old)
    · exact List.mem_append_right _ (last.unicode new)
  · exact Bool.or_eq_false_iff.mpr ⟨before.locale, last.locale⟩

theorem readFlagsOff_reads (fuel : Nat) (off : Flags) (token : Token) (cursor : Cursor)
    (after : cursor.After pattern []) :
    Reads pattern (fun result => result.2.After pattern [])
      (readFlagsOff fuel off token cursor) := by
  induction fuel generalizing off token cursor with
  | zero => trivial
  | succ fuel ih =>
      unfold readFlagsOff
      dsimp only
      split
      · split
        · exact after
        · trivial
      · split
        · trivial
        · split
          case h_1 => trivial
          case h_2 next found =>
              apply (cursor.advance_reads next found after).bind
              intro cursor past
              exact ih _ _ _ past.forget

theorem readFlagsOn_reads (fuel : Nat) (on : Flags) (before : Text) (letter : Char)
    (cursor : Cursor) (lettered : on.Lettered before)
    (after : cursor.After pattern ((['(', '?'] ++ before ++ [letter]).map .char)) :
    Reads pattern
      (fun result => ∃ letters, result.1.Lettered letters ∧
        result.2.2.After pattern ((['(', '?'] ++ letters ++ [result.2.1]).map .char))
      (readFlagsOn fuel on letter cursor) := by
  induction fuel generalizing on before letter cursor with
  | zero => trivial
  | succ fuel ih =>
      unfold readFlagsOn
      split
      case h_1 => trivial
      case h_2 flag known =>
          split
          case isTrue => trivial
          case isFalse neutral =>
              have more := lettered.union (Flags.ofLetter_lettered letter flag known neutral)
              dsimp only
              split
              case isTrue => trivial
              case isFalse =>
                  split
                  case h_1 => trivial
                  case h_2 token next =>
                      apply (cursor.advance_reads token next after).bind
                      intro cursor past
                      split
                      case h_1 c =>
                          have place : cursor.After pattern
                              ((['(', '?'] ++ (before ++ [letter]) ++ [c]).map .char) := by
                            simpa using past
                          split
                          · exact ⟨_, more, place⟩
                          · split
                            · exact ih _ _ _ _ more place
                            · trivial
                      case h_2 => trivial

def FlagChange.Written (pattern : Text) : FlagChange → Prop
  | .wholePattern on =>
      ∃ letters, Writes pattern (['(', '?'] ++ letters ++ [')']) ∧ on.Lettered letters
  | .group _ _ => True

theorem flagGroup_reads (on off : Flags) (cursor : Cursor) (after : cursor.After pattern []) :
    Reads pattern (fun result : FlagChange × Cursor =>
        result.1.Written pattern ∧ result.2.After pattern [])
      (if off.template then Cursor.refuse .globalOff (cursor.position - 1)
      else if on.meets off then Cursor.refuse .onAndOff (cursor.position - 1)
      else pure (.group on off, cursor)) := by
  split
  · trivial
  · split
    · trivial
    · exact ⟨trivial, after⟩

theorem readFlags_reads (letter : Char) (cursor : Cursor)
    (after : cursor.After pattern (['(', '?', letter].map .char)) :
    Reads pattern (fun result => result.1.Written pattern ∧ result.2.After pattern [])
      (readFlags letter cursor) := by
  refine Reads.bind_ite (?_ : Reads pattern (fun result : Flags × Char × Cursor =>
    (result.2.1 = ')' → (FlagChange.wholePattern result.1).Written pattern) ∧
      result.2.2.After pattern []) _) ?_
  · split
    · exact ⟨nofun, after.forget⟩
    · apply (readFlagsOn_reads _ _ [] letter cursor (Flags.cleared_lettered []) after).weaken
      rintro ⟨on, delimiter, last⟩ ⟨letters, lettered, past⟩
      refine ⟨?_, past.forget⟩
      rintro rfl
      exact ⟨letters, past.infix, lettered⟩
  · rintro ⟨on, delimiter, last⟩ ⟨written, past⟩
    dsimp only
    split
    case isTrue whole => exact ⟨written whole, past⟩
    case isFalse =>
        split
        · trivial
        · split
          · split
            case h_1 => trivial
            case h_2 token next =>
                apply (last.advance_reads token next past).bind
                intro first past
                apply (readFlagsOff_reads _ _ token first past.forget).bind
                intro result past
                exact flagGroup_reads on result.1 result.2 past
          · exact flagGroup_reads on .cleared last past

theorem openCapture_reads (start : Nat) (name : Option Text) (sound : p.Sound pattern) :
    Reads pattern (Progress.Sound pattern) (openCapture p start name) := by
  unfold openCapture
  dsimp only
  split
  · exact ⟨sound.place, sound.flags⟩
  · split
    · trivial
    · exact ⟨sound.place, sound.flags⟩

theorem checkName_reads (name : Text) (cursor : Cursor) :
    Reads pattern (fun _ => True) (checkName name cursor) := by
  unfold checkName
  split <;> trivial

theorem readNamedGroup_reads (start : Nat) (sound : p.Sound pattern) :
    Reads pattern (Progress.Sound pattern) (readNamedGroup p start) := by
  apply (p.cursor.skip_reads '<' sound.place).bind
  rintro ⟨opened, cursor⟩ past
  dsimp only
  split
  · apply (cursor.name_reads '>' "group name" past.forget).bind
    rintro ⟨name, cursor⟩ past
    apply (checkName_reads name cursor).bind
    intro _ _
    exact openCapture_reads start (some name) ⟨past, sound.flags⟩
  · apply (cursor.skip_reads '=' past.forget).bind
    rintro ⟨reference, cursor⟩ past
    dsimp only
    split
    · apply (cursor.name_reads ')' "group name" past.forget).bind
      rintro ⟨name, cursor⟩ past
      apply (checkName_reads name cursor).bind
      intro _ _
      split
      · trivial
      · split
        · trivial
        · apply (checkLookbehind_reads _).bind
          intro _ _
          exact ⟨past, sound.flags⟩
    · split
      case h_1 => trivial
      case h_2 token next =>
          apply (cursor.advance_reads token next past.forget).bind
          intro _ _
          trivial

theorem enterCondition_reads (start group : Nat) (sound : p.Sound pattern) :
    Reads pattern (Progress.Sound pattern)
      (p.checkLookbehind group >>= fun _ =>
        pure (p.enter (.condition group none) start p.verbose)) := by
  apply (checkLookbehind_reads group).bind
  intro _ _
  exact ⟨sound.place, sound.flags⟩

theorem readConditional_reads (start : Nat) (sound : p.Sound pattern) :
    Reads pattern (Progress.Sound pattern) (readConditional p start) := by
  apply (p.cursor.name_reads ')' "group name" sound.place).bind
  rintro ⟨name, cursor⟩ past
  have entered : ∀ group references, Reads pattern (Progress.Sound pattern) _ :=
    fun group references =>
      enterCondition_reads (p := { p with cursor, references }) start group ⟨past, sound.flags⟩
  dsimp only
  split
  · split
    · trivial
    case h_2 group _ => exact entered group p.references
  · split
    · trivial
    case h_2 group _ _ =>
        split
        · trivial
        · exact entered group _
    · trivial

theorem skipComment_reads (start fuel : Nat) (cursor : Cursor) (after : cursor.After pattern []) :
    Reads pattern (Cursor.After pattern []) (skipComment start fuel cursor) := by
  induction fuel generalizing cursor with
  | zero => trivial
  | succ fuel ih =>
      unfold skipComment
      split
      case h_1 => trivial
      case h_2 token next =>
          apply (cursor.advance_reads token next after).bind
          intro cursor past
          split
          · exact past.forget
          · exact ih cursor past.forget

theorem readLookBehind_reads (start : Nat) (sound : p.Sound pattern) :
    Reads pattern (Progress.Sound pattern) (readLookBehind p start) := by
  unfold readLookBehind
  split
  case h_1 => trivial
  case h_2 token next =>
      apply (p.cursor.advance_reads token next sound.place).bind
      intro cursor past
      split
      · exact ⟨past.forget, sound.flags⟩
      · trivial

theorem Flags.Chosen.turnOn {flags on : Flags} (chosen : flags.Chosen pattern)
    (written : (FlagChange.wholePattern on).Written pattern) :
    (flags.union on).Chosen pattern := by
  obtain ⟨letters, stands, lettered⟩ := written
  refine ⟨?_, ?_, ?_⟩
  · intro ascii
    rcases Bool.or_eq_true_iff.mp ascii with old | new
    · exact chosen.ascii old
    · exact ⟨letters, stands, lettered.ascii new⟩
  · intro unicode
    rcases Bool.or_eq_true_iff.mp unicode with old | new
    · exact chosen.unicode old
    · exact ⟨letters, stands, lettered.unicode new⟩
  · exact Bool.or_eq_false_iff.mpr ⟨chosen.locale, lettered.locale⟩

theorem readFlagGroup_reads (start : Nat) (letter : Char)
    (after : p.cursor.After pattern (['(', '?', letter].map .char))
    (flags : p.flags.Chosen pattern) :
    Reads pattern (Progress.Sound pattern) (readFlagGroup p start letter) := by
  apply (readFlags_reads letter p.cursor after).bind
  rintro ⟨change, cursor⟩ ⟨written, past⟩
  cases change with
  | wholePattern on =>
      dsimp only
      split
      · trivial
      · exact ⟨past, flags.turnOn written⟩
  | group on off => exact ⟨past, flags⟩

theorem readGroup_reads (after : p.cursor.After pattern [.char '('])
    (flags : p.flags.Chosen pattern) :
    Reads pattern (Progress.Sound pattern) (readGroup p) := by
  apply (p.cursor.skip_reads '?' after).bind
  rintro ⟨extended, cursor⟩ past
  cases extended with
  | false => exact openCapture_reads _ none ⟨past.forget, flags⟩
  | true =>
      dsimp only
      rw [if_neg (by decide)]
      split
      case h_1 => trivial
      case h_2 token next =>
          apply (cursor.advance_reads token next past).bind
          intro cursor past
          have sound : Progress.Sound pattern { p with cursor } := ⟨past.forget, flags⟩
          split
          · exact readNamedGroup_reads _ sound
          · exact ⟨sound.place, flags⟩
          · apply (skipComment_reads _ _ cursor sound.place).bind
            intro cursor past
            exact ⟨past, flags⟩
          · exact ⟨sound.place, flags⟩
          · exact ⟨sound.place, flags⟩
          · exact readLookBehind_reads _ sound
          · exact readConditional_reads _ sound
          · exact ⟨sound.place, flags⟩
          case h_9 letter _ _ _ _ _ _ _ _ =>
              split
              · exact readFlagGroup_reads _ letter past flags
              · trivial
          · trivial

theorem closeGroup_sound (frame : Frame) (frames : List Frame) (sound : p.Sound pattern) :
    (closeGroup p frame frames).Sound pattern := by
  unfold closeGroup
  dsimp only
  split <;> exact ⟨sound.place, sound.flags⟩

theorem readBar_reads (here : Nat) (sound : p.Sound pattern) :
    Reads pattern (Progress.Sound pattern) (readBar p here) := by
  unfold readBar
  split
  · split
    · exact ⟨sound.place, sound.flags⟩
    · trivial
    · exact ⟨sound.place, sound.flags⟩
  · exact ⟨sound.place, sound.flags⟩

theorem skipLine_reads (fuel : Nat) (cursor : Cursor) (after : cursor.After pattern []) :
    Reads pattern (Cursor.After pattern []) (skipLine fuel cursor) := by
  induction fuel generalizing cursor with
  | zero => exact after
  | succ fuel ih =>
      unfold skipLine
      split
      case h_1 => exact after
      case h_2 token next =>
          apply (cursor.advance_reads token next after).bind
          intro cursor past
          split
          · exact past.forget
          · exact ih cursor past.forget

theorem readToken_reads [CharacterNames] (token : Token) (after : p.cursor.After pattern [token])
    (flags : p.flags.Chosen pattern) :
    Reads pattern (Progress.Sound pattern) (readToken p token) := by
  have sound : p.Sound pattern := ⟨after.forget, flags⟩
  cases token with
  | escape c => exact readEscape_reads c after flags
  | dangling => exact sound
  | char c =>
      unfold readToken
      dsimp only
      split
      · exact sound
      · split
        · apply (skipLine_reads _ p.cursor sound.place).bind
          intro cursor past
          exact ⟨past, flags⟩
        · split
          · exact readClass_reads sound
          · exact readGroup_reads after flags
          · exact ⟨sound.place, flags⟩
          · exact ⟨sound.place, flags⟩
          · exact ⟨sound.place, flags⟩
          · exact readRepetition_reads _ after (by decide) flags
          · exact readRepetition_reads _ after (by decide) flags
          · exact readRepetition_reads _ after (by decide) flags
          · exact readRepetition_reads _ after (by decide) flags
          · exact ⟨sound.place, flags⟩

theorem settleFlags_reads (flags : Flags) (chosen : flags.Chosen pattern) :
    Reads pattern (fun _ => True) (settleFlags flags) := by
  unfold settleFlags
  rw [chosen.locale]
  split
  case isTrue impossible => cases impossible
  case isFalse =>
      split
      · trivial
      case isFalse ascii =>
          split
          case isTrue unicode =>
              have narrow : flags.ascii = true := by simpa using ascii
              exact Exceeds.alphabets (chosen.ascii narrow) (chosen.unicode unicode)
          case isFalse => trivial

theorem finish_reads (sound : p.Sound pattern) : Reads pattern (fun _ => True) (finish p) := by
  unfold finish
  split
  · trivial
  · apply (settleFlags_reads p.flags sound.flags).bind
    intro flags _
    split <;> trivial

theorem readAll_reads [CharacterNames] (fuel : Nat) (sound : p.Sound pattern) :
    Reads pattern (fun _ => True) (readAll fuel p) := by
  -- each token that is read leaves a reader that is sound again, with one unit of fuel less
  induction fuel generalizing p with
  | zero => exact finish_reads sound
  | succ fuel ih =>
      unfold readAll
      split
      case h_1 => exact finish_reads sound
      case h_2 next =>
          split
          · apply (settleFlags_reads p.flags sound.flags).bind
            intro _ _
            trivial
          · apply (p.cursor.advance_reads (.char ')') next sound.place).bind
            intro cursor past
            exact ih (closeGroup_sound _ _ ⟨past.forget, sound.flags⟩)
      case h_3 =>
          have bar := readBar_reads p.cursor.position sound
          dsimp only
          cases result : readBar p p.cursor.position with
          | error failure =>
              rw [result] at bar
              exact bar
          | ok q =>
              rw [result] at bar
              apply (q.cursor.advance_stays bar.place).bind
              intro cursor past
              exact ih ⟨past, bar.flags⟩
      case h_4 token _ _ next =>
          apply (p.cursor.advance_reads token next sound.place).bind
          intro cursor past
          apply (readToken_reads (p := { p with cursor }) token past sound.flags).bind
          intro read sound
          exact ih sound

end Readers

theorem parse_reads [CharacterNames] (pattern : Text) :
    Reads pattern (fun _ => True) (parse pattern (.ofBits 0)) := by
  apply (Cursor.start_reads pattern).bind
  intro cursor past
  have sound : Progress.Sound pattern { cursor, verbose := false, flags := .ofBits 0 } := by
    refine ⟨past, ?_, ?_, rfl⟩
    · nofun
    · nofun
  apply (readAll_reads pattern.length sound).bind
  rintro ⟨node, flags⟩ _
  dsimp only
  split <;> trivial

/-- Without flags of its own, a pattern breaks a limit of the engine only by exceeding it. -/
theorem exceeds_of_limit [CharacterNames] (pattern : Text) (limit : Limit)
    (broken : compile pattern (.ofBits 0) = .error (.limit limit)) : Exceeds pattern limit := by
  have reads := parse_reads pattern
  rw [compile] at broken
  cases parsed : parse pattern (.ofBits 0) with
  | ok result =>
      rw [parsed] at broken
      cases broken
  | error failure =>
      rw [parsed] at broken reads
      cases broken
      exact reads

end Restatement.Pattern
