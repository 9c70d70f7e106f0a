import Mathlib.Data.List.TakeWhile
import Restatement.Proofs.Backtracking
import Restatement.SyntaxTree.Capture

/-!
The content of a string literal is what stands between its quotes, whatever that is; a text without
quotes is its own content. The content is what the second group of one pattern holds.
-/

namespace Restatement

namespace Literal

def marks : Text := ['"', '\'', '`']

/-- A quote around a body. A threefold mark encloses anything, a single one what does not start with
the mark. -/
inductive Encloses : (quote body : Text) → Prop where
  | triple (mark : Char) (body : Text) (known : mark ∈ ['"', '\'']) :
      Encloses [mark, mark, mark] body
  | single (mark : Char) (body : Text) (known : mark ∈ marks) (other : body.head? ≠ some mark) :
      Encloses [mark] body

theorem beforeEnd_eq_some (quote t body : Text) :
    beforeEnd? quote t = some body ↔ t = body ++ quote := by
  unfold beforeEnd?
  split
  · rename_i ends
    obtain ⟨front, rfl⟩ := List.isSuffixOf_iff_suffix.mp ends
    simp [eq_comm]
  · rename_i ends
    simp only [reduceCtorEq, false_iff]
    rintro rfl
    exact ends (List.isSuffixOf_iff_suffix.mpr (List.suffix_append body quote))

/-- A quote that ends in another character than a line end is found at one place at most. -/
theorem body_eq_some (quote t body : Text) (visible : quote ≠ []) (inline : '\n' ∉ quote) :
    body? quote t = some body ↔ t = body ++ quote ∨ t = body ++ quote ++ ['\n'] := by
  have broken (front rest : Text) : front ++ quote ≠ rest ++ ['\n'] := by
    intro same
    have last := congrArg List.getLast? same
    rw [List.getLast?_append, List.getLast?_concat, List.getLast?_eq_some_getLast visible,
      Option.some_or] at last
    exact inline (Option.some.inj last ▸ List.getLast_mem visible)
  rw [body?, Option.or_eq_some_iff, beforeEnd_eq_some]
  constructor
  · rintro (direct | ⟨_, other⟩)
    · exact .inl direct
    · split at other
      · rename_i ends
        obtain ⟨front, rfl⟩ := List.getLast?_eq_some_iff.mp ends
        rw [List.dropLast_concat, beforeEnd_eq_some] at other
        exact .inr (by rw [other])
      · cases other
  · rintro (direct | rfl)
    · exact .inl direct
    · right
      constructor
      · rw [Option.eq_none_iff_forall_ne_some]
        intro front found
        exact broken front _ ((beforeEnd_eq_some _ _ _).mp found).symm
      · rw [if_pos List.getLast?_concat, List.dropLast_concat, beforeEnd_eq_some]

theorem body_of_closed (quote t : Text) (visible : quote ≠ []) (inline : '\n' ∉ quote) (count : Nat)
    (closed : t.drop count = quote ∨ t.drop count = quote ++ ['\n']) :
    body? quote t = some (t.take count) := by
  have split := List.take_append_drop count t
  rw [body_eq_some quote t _ visible inline]
  rcases closed with same | same
  · exact .inl (by rw [← same, split])
  · exact .inr (by rw [List.append_assoc, ← same, split])

theorem closed_of_body (quote t body : Text) (visible : quote ≠ []) (inline : '\n' ∉ quote)
    (found : body? quote t = some body) :
    body.length ≤ t.length ∧
      (t.drop body.length = quote ∨ t.drop body.length = quote ++ ['\n']) := by
  rcases (body_eq_some quote t body visible inline).mp found with rfl | rfl
  · exact ⟨by simp, .inl List.drop_left⟩
  · rw [List.append_assoc]
    exact ⟨by simp, .inr List.drop_left⟩

theorem enclosed_self (quote body : Text) : enclosed? quote (quote ++ body ++ quote) = some body := by
  have opens : quote.isPrefixOf (quote ++ body ++ quote) = true := by
    rw [List.isPrefixOf_iff_prefix, List.append_assoc]
    exact List.prefix_append quote _
  have closes := (beforeEnd_eq_some quote (body ++ quote) body).mpr rfl
  rw [enclosed?, if_pos opens, List.append_assoc, List.drop_left, body?, closes, Option.some_or]

theorem enclosed_of_other (quote t : Text) (other : quote.isPrefixOf t = false) :
    enclosed? quote t = none := by
  simp [enclosed?, other]

theorem enclosed_first (earlier later : List Text) (quote body : Text)
    (order : quotes = earlier ++ quote :: later)
    (others : ∀ other ∈ earlier, other.isPrefixOf (quote ++ body ++ quote) = false) :
    (quotes.findSome? fun other => enclosed? other (quote ++ body ++ quote)) = some body := by
  have passed : (earlier.findSome? fun other => enclosed? other (quote ++ body ++ quote)) = none :=
    List.findSome?_eq_none_iff.mpr fun other member => enclosed_of_other _ _ (others other member)
  rw [order, List.findSome?_append, passed, List.findSome?_cons, enclosed_self]
  rfl

theorem triple_not_prefix (mark : Char) (body : Text) (other : body.head? ≠ some mark) :
    List.isPrefixOf [mark, mark, mark] ([mark] ++ body ++ [mark]) = false := by
  cases body with
  | nil => simp
  | cons c rest =>
      have differs : mark ≠ c := fun same => other (by rw [same, List.head?_cons])
      simp [List.isPrefixOf_cons_cons, differs]

theorem Encloses.first {quote body : Text} (encloses : Encloses quote body) :
    (quotes.findSome? fun other => enclosed? other (quote ++ body ++ quote)) = some body := by
  cases encloses with
  | triple mark body known =>
      simp only [List.mem_cons, List.not_mem_nil, or_false] at known
      rcases known with rfl | rfl
      · exact enclosed_first [] ["'''", "\"", "'", "`"] _ body rfl (by simp)
      · apply enclosed_first ["\"\"\""] ["\"", "'", "`"] _ body rfl
        simp only [List.forall_mem_cons]
        exact ⟨rfl, by simp⟩
  | single mark body known other =>
      have triple := triple_not_prefix mark body other
      simp only [marks, List.mem_cons, List.not_mem_nil, or_false] at known
      rcases known with rfl | rfl | rfl
      · apply enclosed_first ["\"\"\"", "'''"] ["'", "`"] _ body rfl
        simp only [List.forall_mem_cons]
        exact ⟨triple, rfl, by simp⟩
      · apply enclosed_first ["\"\"\"", "'''", "\""] ["`"] _ body rfl
        simp only [List.forall_mem_cons]
        exact ⟨rfl, triple, rfl, by simp⟩
      · apply enclosed_first ["\"\"\"", "'''", "\"", "'"] [] _ body rfl
        simp only [List.forall_mem_cons]
        exact ⟨rfl, rfl, rfl, rfl, by simp⟩

theorem quotes_marked : ∀ quote ∈ quotes, ∃ mark ∈ marks, quote.head? = some mark := by
  simp only [quotes, List.forall_mem_cons]
  exact ⟨⟨'"', by decide, rfl⟩, ⟨'\'', by decide, rfl⟩, ⟨'"', by decide, rfl⟩,
    ⟨'\'', by decide, rfl⟩, ⟨'`', by decide, rfl⟩, by simp⟩

theorem not_letter_of_mark : ∀ mark ∈ marks, isLetter mark = false := by
  simp only [marks, List.forall_mem_cons]
  exact ⟨rfl, rfl, rfl, by simp⟩

theorem not_opened (quote : Text) (known : quote ∈ quotes) (t : Text)
    (plain : ∀ c, t.head? = some c → c ∉ marks) : quote.isPrefixOf t = false := by
  obtain ⟨mark, marked, head⟩ := quotes_marked quote known
  rw [Bool.eq_false_iff, ne_eq, List.isPrefixOf_iff_prefix]
  rintro ⟨rest, rfl⟩
  exact plain mark (by rw [List.head?_append, head, Option.some_or]) marked

theorem Encloses.starts {quote body : Text} (encloses : Encloses quote body) :
    ∃ mark rest, quote = mark :: rest ∧ mark ∈ marks := by
  cases encloses with
  | triple mark body known => exact ⟨mark, [mark, mark], rfl, List.mem_append_left ['`'] known⟩
  | single mark body known other => exact ⟨mark, [], rfl, known⟩

theorem content_of_enclosed (letters quote body : Text)
    (alphabetic : ∀ c ∈ letters, isLetter c = true) (encloses : Encloses quote body) :
    content (letters ++ quote ++ body ++ quote) = body := by
  have stays : (quote ++ body ++ quote).dropWhile isLetter = quote ++ body ++ quote := by
    obtain ⟨mark, rest, rfl, marked⟩ := encloses.starts
    exact List.dropWhile_cons_of_neg (by simp [not_letter_of_mark mark marked])
  have dropped : (letters ++ quote ++ body ++ quote).dropWhile isLetter =
      quote ++ body ++ quote := by
    rw [List.append_assoc, List.append_assoc, List.dropWhile_append_of_pos alphabetic,
      ← List.append_assoc, stays]
  rw [content, dropped, encloses.first, Option.getD_some]

theorem content_of_plain (t : Text) (plain : ∀ c ∈ t, c ∉ marks) : content t = t := by
  have nothing : (quotes.findSome? fun quote => enclosed? quote (t.dropWhile isLetter)) = none := by
    rw [List.findSome?_eq_none_iff]
    intro quote known
    apply enclosed_of_other
    apply not_opened quote known
    intro c head
    exact plain c ((List.dropWhile_suffix isLetter).mem (List.mem_of_mem_head? head))
  rw [content, nothing, Option.getD_none]

def patternText : Text := "^[A-Za-z]*(\\\"\\\"\\\"|'''|\\\"|'|`)(.*)\\1$".toList

open Pattern

def closingNode : Node :=
  .sequence (.backReference 1 ⟨1, 3⟩) (.sequence (.anchor .lineEnd) .empty)

def bodyNode : Node :=
  .sequence (.capture 2 (.sequence (.repetition .greedy 0 none .any) .empty)) closingNode

def letterNode : Node := .oneOf ⟨false, [.range 65 90, .range 97 122]⟩

def quoteNode : Node := .ofTexts "\"\"\"" ["'''", "\"", "'", "`"]

def pattern : Pattern where
  node := .sequence (.anchor .lineStart) (.sequence (.repetition .greedy 0 none letterNode)
    (.sequence (.capture 1 quoteNode) bodyNode))
  flags := { dotAll := true, unicode := true }

theorem compile_patternText [CharacterNames] :
    Pattern.compile patternText (.ofBits 16) = .ok pattern := by
  rfl

theorem run_letters : letterNode.run pattern.flags = passing isLetter := by
  have same (c : Char) :
      CharClass.accepts pattern.flags ⟨false, [.range 65 90, .range 97 122]⟩ c = isLetter c := by
    simp [CharClass.accepts, itemsAccept, pattern, ClassItem.accepts, isLetter, Char.le_def,
      UInt32.le_iff_toNat_le]
    exact Bool.or_comm _ _
  rw [letterNode, run_oneOf, funext same]

theorem run_closing (quote : Text) (place : Place)
    (captured : place.groups.lookup 1 = some quote) :
    closingNode.run pattern.flags some place =
      if place.after = quote ∨ place.after = quote ++ ['\n'] then
        some (place.forward quote.length) else none := by
  have copied : closingNode.run pattern.flags some place =
      if quote.isPrefixOf place.after then
        (if Anchor.lineEnd.holds pattern.flags (place.forward quote.length) then
          some (place.forward quote.length) else none) else none :=
    run_backReference 1 ⟨1, 3⟩ pattern.flags rfl quote _ place captured
  by_cases opens : quote <+: place.after
  · obtain ⟨rest, split⟩ := opens
    have ends : Anchor.lineEnd.holds pattern.flags (place.forward quote.length) = true ↔
        rest = [] ∨ rest = ['\n'] := by
      simp [Anchor.holds, pattern, ← split]
    have whole : (place.after = quote ∨ place.after = quote ++ ['\n']) ↔
        rest = [] ∨ rest = ['\n'] := by
      simp [← split]
    have prefixed : quote.isPrefixOf place.after = true :=
      List.isPrefixOf_iff_prefix.mpr ⟨rest, split⟩
    simp only [copied, prefixed, ends, whole, if_true]
  · have whole : ¬ (place.after = quote ∨ place.after = quote ++ ['\n']) := by
      rintro (same | same)
      · exact opens (same ▸ List.prefix_refl quote)
      · exact opens (same ▸ List.prefix_append quote ['\n'])
    rw [copied, if_neg whole, if_neg fun prefixed => opens (List.isPrefixOf_iff_prefix.mp prefixed)]

abbrev Answers : Option Place → Option Text → Prop :=
  Option.Rel fun found answer => found.groups.lookup 2 = some answer

def reached (place : Place) (count : Nat) : Place :=
  { place.forward count with groups := (2, place.after.take count) :: place.groups }

theorem run_bodyNode (place : Place) :
    bodyNode.run pattern.flags some place =
      ((List.range (place.after.length + 1)).reverse.map (reached place)).findSome?
        (closingNode.run pattern.flags some) := by
  let mark (found : Place) : Place :=
    { found with
      groups := (2, place.after.take (found.position - place.position)) :: found.groups }
  have marked : (place.stops fun _ => true).map mark =
      (List.range (place.after.length + 1)).reverse.map (reached place) := by
    rw [Place.stops, List.map_map, List.takeWhile_eq_self_iff.mpr fun _ _ => rfl]
    apply List.map_congr_left
    intro count member
    have room : count ≤ place.after.length := by
      simp only [List.mem_reverse, List.mem_range] at member
      omega
    simp [mark, reached, place.position_forward count room]
  have steps : bodyNode.run pattern.flags some place =
      (Node.repetition .greedy 0 none .any).run pattern.flags
        (fun found => closingNode.run pattern.flags some (mark found)) place := rfl
  rw [steps, run_greedy .any pattern.flags _ (run_any pattern.flags rfl), ← marked,
    List.findSome?_map]
  rfl

theorem closing_reached (quote : Text) (place : Place)
    (captured : place.groups.lookup 1 = some quote) (count : Nat) :
    closingNode.run pattern.flags some (reached place count) =
      if place.after.drop count = quote ∨ place.after.drop count = quote ++ ['\n'] then
        some ((reached place count).forward quote.length) else none := by
  rw [run_closing quote (reached place count) captured]
  simp [reached]

theorem body_answers (quote : Text) (visible : quote ≠ []) (inline : '\n' ∉ quote) (place : Place)
    (captured : place.groups.lookup 1 = some quote) :
    Answers (bodyNode.run pattern.flags some place) (body? quote place.after) := by
  have closing := closing_reached quote place captured
  rw [run_bodyNode]
  cases result : ((List.range (place.after.length + 1)).reverse.map (reached place)).findSome?
      (closingNode.run pattern.flags some) with
  | some found =>
      obtain ⟨tried, member, success⟩ := List.exists_of_findSome?_eq_some result
      obtain ⟨count, _, rfl⟩ := List.mem_map.mp member
      rw [closing count] at success
      split at success
      · rename_i closed
        rw [body_of_closed quote place.after visible inline count closed,
          ← Option.some.inj success]
        exact .some (by rw [Place.groups_forward]; rfl)
      · cases success
  | none =>
      cases answer : body? quote place.after with
      | none => exact .none
      | some body =>
          -- the body's own length is one of the places that were tried
          obtain ⟨room, closed⟩ := closed_of_body quote place.after body visible inline answer
          have tried : reached place body.length ∈
              (List.range (place.after.length + 1)).reverse.map (reached place) := by
            apply List.mem_map_of_mem
            rw [List.mem_reverse, List.mem_range]
            exact Nat.lt_succ_of_le room
          have failure := List.findSome?_eq_none_iff.mp result _ tried
          rw [closing body.length, if_pos closed] at failure
          cases failure

theorem quotes_visible : ∀ quote ∈ quotes, quote ≠ [] ∧ '\n' ∉ quote := by decide

def opened (place found : Place) : Place :=
  { found with groups := (1, place.after.take (found.position - place.position)) :: found.groups }

theorem run_quoteNode (place : Place) :
    (Node.sequence (.capture 1 quoteNode) bodyNode).run pattern.flags some place =
      quotes.findSome? fun quote =>
        if quote.isPrefixOf place.after then
          bodyNode.run pattern.flags some (opened place (place.forward quote.length))
        else none :=
  run_ofTexts "\"\"\"" ["'''", "\"", "'", "`"] pattern.flags rfl
    (fun found => bodyNode.run pattern.flags some (opened place found)) place

theorem quote_answers (quote : Text) (known : quote ∈ quotes) (place : Place) :
    Answers
      (if quote.isPrefixOf place.after then
        bodyNode.run pattern.flags some (opened place (place.forward quote.length)) else none)
      (enclosed? quote place.after) := by
  obtain ⟨visible, inline⟩ := quotes_visible quote known
  rw [enclosed?]
  split
  · rename_i opens
    obtain ⟨rest, split⟩ := List.isPrefixOf_iff_prefix.mp opens
    have room : quote.length ≤ place.after.length := by simp [← split]
    have captured : (opened place (place.forward quote.length)).groups.lookup 1 = some quote := by
      simp [opened, place.position_forward quote.length room, ← split]
    have answers := body_answers quote visible inline _ captured
    simpa [opened] using answers
  · exact .none

theorem answers_findSome (attempt : Text → Option Place) (answer : Text → Option Text)
    (texts : List Text) (each : ∀ t ∈ texts, Answers (attempt t) (answer t)) :
    Answers (texts.findSome? attempt) (texts.findSome? answer) := by
  induction texts with
  | nil => exact .none
  | cons t rest ih =>
      have here := each t List.mem_cons_self
      have there := ih fun later member => each later (List.mem_cons_of_mem t member)
      rw [List.findSome?_cons, List.findSome?_cons]
      cases first : attempt t <;> cases second : answer t <;> rw [first, second] at here
      · exact there
      · cases here
      · cases here
      · exact here

theorem quote_blocked (place : Place) (c : Char) (after : Text) (next : place.after = c :: after)
    (letter : isLetter c = true) :
    (Node.sequence (.capture 1 quoteNode) bodyNode).run pattern.flags some place = none := by
  have unmarked : c ∉ marks := by
    intro marked
    rw [not_letter_of_mark c marked] at letter
    cases letter
  rw [run_quoteNode, List.findSome?_eq_none_iff]
  intro quote known
  have other : quote.isPrefixOf place.after = false := by
    apply not_opened quote known
    intro first head
    rw [next, List.head?_cons] at head
    exact Option.some.inj head ▸ unmarked
  rw [other]
  rfl

/-- Of the letters at the start all are taken, since the pattern cannot go on before one of them. -/
theorem pattern_answers (t : Text) :
    Answers (pattern.node.run pattern.flags some (.start t))
      (quotes.findSome? fun quote => enclosed? quote (t.dropWhile isLetter)) := by
  let place := (Place.start t).forward (t.takeWhile isLetter).length
  have steps : pattern.node.run pattern.flags some (.start t) =
      (Node.sequence (.capture 1 quoteNode) bodyNode).run pattern.flags some place := by
    calc
      pattern.node.run pattern.flags some (.start t) =
          (Node.repetition .greedy 0 none letterNode).run pattern.flags _ (.start t) := rfl
      _ = ((Place.start t).stops isLetter).findSome? _ :=
        run_greedy letterNode pattern.flags isLetter run_letters _ (.start t)
      _ = _ := Place.findSome_stops isLetter _ (.start t) quote_blocked
  have left : place.after = t.dropWhile isLetter := by
    calc
      place.after = t.drop (t.takeWhile isLetter).length := Place.after_forward _ _
      _ = (t.takeWhile isLetter ++ t.dropWhile isLetter).drop (t.takeWhile isLetter).length := by
        rw [List.takeWhile_append_dropWhile]
      _ = t.dropWhile isLetter := List.drop_left
  rw [steps, run_quoteNode, ← left]
  exact answers_findSome _ _ quotes fun quote known => quote_answers quote known place

theorem content_eq_group (t : Text) : content t = (pattern.group? 2 t).getD t := by
  have same {found : Option Place} {answer : Option Text} (answers : Answers found answer) :
      (found.bind fun place => place.groups.lookup 2) = answer := by
    cases answers with
    | none => rfl
    | some holds => exact holds
  rw [content, group?, same (pattern_answers t)]

end Literal

/-- A literal that is a quoted text is the body alone, one without quotes is its own text, and in
general it is what the second group of the pattern holds, or its text where the pattern does not
match. -/
theorem literal_without_quotes [CharacterNames] (grammar : Grammar) (source : Bytes)
    (tree : SyntaxTree) (literal : grammar.isLiteral tree.root.type = true) :
    (∀ letters quote body, (∀ c ∈ letters, Literal.isLetter c = true) →
      Literal.Encloses quote body → tree.text source = letters ++ quote ++ body ++ quote →
        tree.literal? grammar source = some body) ∧
    ((∀ c ∈ tree.text source, c ∉ Literal.marks) →
      tree.literal? grammar source = some (tree.text source)) ∧
    ∃ pattern, Pattern.compile Literal.patternText (.ofBits 16) = .ok pattern ∧
      tree.literal? grammar source =
        some ((pattern.group? 2 (tree.text source)).getD (tree.text source)) := by
  have value : tree.literal? grammar source = some (Literal.content (tree.text source)) := by
    rw [SyntaxTree.literal?, if_pos literal]
  refine ⟨?_, ?_, Literal.pattern, Literal.compile_patternText, ?_⟩
  · intro letters quote body alphabetic encloses parts
    rw [value, parts, Literal.content_of_enclosed letters quote body alphabetic encloses]
  · intro plain
    rw [value, Literal.content_of_plain _ plain]
  · rw [value, Literal.content_eq_group]

theorem literal_without_quotes_threefold :
    let body := "\"a\\\"\n\"".toList
    let raw := ['r'] ++ ['"', '"', '"'] ++ body ++ ['"', '"', '"']
    let source := Utf8.encode ("x = ".toList ++ raw)
    let tree := SyntaxTree.node
      ⟨"string".toList, some "right".toList, true, false, 4, 17, ⟨0, 4⟩, ⟨1, 4⟩⟩ []
    (Language.python.grammar.isLiteral tree.root.type = true ∧ tree.text source = raw) ∧
      tree.literal? Language.python.grammar source = some body := by
  intro body raw source tree
  have literal : Language.python.grammar.isLiteral tree.root.type = true := by decide +kernel
  have text : tree.text source = raw := by decide +kernel
  have letters : ∀ c ∈ ['r'], Literal.isLetter c = true := by simp [Literal.isLetter]
  refine ⟨⟨literal, text⟩, ?_⟩
  let _ := CharacterNames.none
  exact (literal_without_quotes _ source tree literal).1 ['r'] ['"', '"', '"'] body letters
    (.triple '"' body List.mem_cons_self) text

end Restatement
