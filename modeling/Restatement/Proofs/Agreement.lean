import Restatement.Command
import Restatement.Proofs.Attribution
import Restatement.Proofs.DocumentOrder
import Restatement.Proofs.Isolation
import Restatement.Proofs.Loading

/-!
The commands `check` and `explain` agree. A check finds a comment exactly when no filter spares it
and `explain`, asked about the line on which the comment starts, shows that it restates a construct;
and both name the same kind of construct.
-/

namespace Restatement

namespace SyntaxTree

mutual

def nodes : SyntaxTree → List SyntaxNode
  | .node top children => top :: nodesAll children

def nodesAll : List SyntaxTree → List SyntaxNode
  | [] => []
  | tree :: rest => nodes tree ++ nodesAll rest

end

mutual

theorem comments_from_nodes (grammar : Grammar) (source : Bytes) :
    ∀ (tree : SyntaxTree) (earlier : List Token),
      ∀ comment ∈ tree.comments grammar source earlier,
        ∃ node ∈ tree.nodes, ∃ before, comment = commentOf source before node
  | .node top children, earlier, comment, member => by
      simp only [comments] at member
      split at member
      · exact ⟨top, List.mem_cons_self, earlier, List.mem_singleton.mp member⟩
      · obtain ⟨node, below, found⟩ :=
          commentsAll_from_nodes grammar source children earlier comment member
        exact ⟨node, List.mem_cons_of_mem top below, found⟩

theorem commentsAll_from_nodes (grammar : Grammar) (source : Bytes) :
    ∀ (trees : List SyntaxTree) (earlier : List Token),
      ∀ comment ∈ commentsAll grammar source earlier trees,
        ∃ node ∈ nodesAll trees, ∃ before, comment = commentOf source before node
  | [], _, _, member => by cases member
  | tree :: rest, earlier, comment, member => by
      rcases List.mem_append.mp member with first | later
      · obtain ⟨node, inside, found⟩ :=
          comments_from_nodes grammar source tree earlier comment first
        exact ⟨node, List.mem_append_left _ inside, found⟩
      · obtain ⟨node, inside, found⟩ :=
          commentsAll_from_nodes grammar source rest _ comment later
        exact ⟨node, List.mem_append_right _ inside, found⟩

end

end SyntaxTree

theorem ParsedFile.contains_start (serial : Nat) (path : Text) (language : Language)
    (source : Text) (tree : SyntaxTree)
    (ordered : ∀ node ∈ tree.nodes, node.start.row ≤ node.stop.row) (comment : Comment)
    (member : comment ∈ (ParsedFile.ofTree serial path language source tree).comments) :
    comment.span.containsLine comment.span.startLine = true := by
  rcases tree with ⟨top, children⟩
  simp only [ParsedFile.ofTree, Grammar.lower_eq] at member
  obtain ⟨node, below, before, rfl⟩ :=
    SyntaxTree.commentsAll_from_nodes _ _ children [] comment member
  have rows := ordered node (List.mem_cons_of_mem top below)
  simp only [SyntaxTree.commentOf, SyntaxNode.span, Span.containsLine, Bool.and_eq_true]
  exact ⟨decide_eq_true (by omega), decide_eq_true (by omega)⟩

/-- A file of a known language that can be read and parsed. -/
structure FileTree.Holds (tree : FileTree) (path : Path) (language : Language) (content : Text)
    (parsing : Parsing) : Prop where
  detected : Language.detect? path = some language
  read : ∃ entry, tree.open? path = .ok entry ∧
    FileTree.textOf Linter.defaultEncoding entry = .ok content ∧ entry.parsing = some parsing

theorem FileTree.textOf_default (entry : FileEntry) :
    textOf Linter.defaultEncoding entry =
      match Encoding.utf8.decode entry.bytes with
      | .error error => .error (.undecodable error)
      | .ok content => .ok (Text.unifyNewlines content) := rfl

theorem Language.ofName_name (language : Language) : ofName? language.name = some language := by
  cases language <;> decide

theorem Source.findings_eq (rule : Rule) (source : Except FileFailure Source) :
    Source.findings rule source =
      (source.bind (Source.parse 0)).map fun parsed => rule.findings parsed.1 := by
  cases source with
  | error failure => rfl
  | ok source => rfl

namespace FileTree.Holds

variable {tree : FileTree} {path : Path} {language : Language} {content : Text} {parsing : Parsing}

theorem parsed (held : tree.Holds path language content parsing) (given : Option Text)
    (named : given = none ∨ given = some language.name) :
    ∃ events, (Source.read tree path given Linter.defaultEncoding).bind (Source.parse 0) =
      .ok (ParsedFile.ofTree 0 path.toText language content parsing.tree, events) := by
  obtain ⟨entry, opened, decoded, parsed⟩ := held.read
  have known : given.or ((Language.detect? path).map Language.name) = some language.name := by
    rw [held.detected]
    rcases named with rfl | rfl <;> rfl
  simp only [Source.read, known, opened, decoded, parsed, Except.bind, Source.parse,
    Language.ofName_name]
  exact ⟨_, rfl⟩

theorem report (held : tree.Holds path language content parsing) (settings : Settings)
    (thresholds : Thresholds) (patterns : List CompiledPattern) :
    let file := ParsedFile.ofTree 0 path.toText language content parsing.tree
    (Submission.file tree path).report (Rule.ofPatterns settings thresholds patterns) =
      ⟨path.toText, some language.name,
        file.comments.filterMap (Reference.verdict? settings thresholds patterns file.outline),
        none⟩ := by
  intro file
  obtain ⟨events, parsed⟩ := held.parsed (some language.name) (.inr rfl)
  simp only [Submission.report, held.detected, Option.map_some, Source.findings_eq, parsed,
    Except.map, Report.ofOutcome, Rule.findings, Rule.ofPatterns_verdict]
  rfl

end FileTree.Holds

def explained (file : ParsedFile) (line : Int) (sensitivity : Sensitivity) : Outcome :=
  let comments := file.comments.filter fun comment => comment.span.containsLine line
  if comments.isEmpty then ⟨lines ["No comment on line " ++ Text.ofInt line], [], 1⟩
  else
    ⟨lines (comments.flatMap fun comment =>
      explanation sensitivity (.ofOutline file.outline) (comment, comment.classify)), [], 0⟩

theorem explainLine_gives [CharacterNames] (caches : Caches) (faithful : caches.Faithful)
    (file : ParsedFile) (line : Int) (sensitivity : Sensitivity) :
    (explainLine caches file line sensitivity).Gives (explained file line sensitivity) := by
  simp only [explainLine, explained]
  split
  · exact ⟨rfl, faithful⟩
  · have index := caches.indexFile_gives faithful file
    have classified := (caches.indexFile file).caches.classifyEach_gives index.faithful
      (file.comments.filter fun comment => comment.span.containsLine line)
    refine ⟨?_, classified.faithful⟩
    simp only [index.value, classified.value, List.flatMap_map]

theorem FileTree.Holds.explains [CharacterNames] {tree : FileTree} {path : Path}
    {language : Language} {content : Text} {parsing : Parsing}
    (held : tree.Holds path language content parsing) (line : Int) (sensitivity : Sensitivity)
    (library : Settings.Library) (past : Past) (environment : List (Text × Text)) :
    (Command.explain ⟨path, line, sensitivity⟩).run library past.caches ⟨tree, environment⟩ =
      .ok (explained (ParsedFile.ofTree 0 path.toText language content parsing.tree) line
        sensitivity) := by
  obtain ⟨events, parsed⟩ := held.parsed none (.inl rfl)
  simp only [Command.run, ExplainOptions.run, parsed,
    (explainLine_gives _ past.caches_faithful _ line sensitivity).value]

theorem FileTree.Holds.discovered {tree : FileTree} {path : Path} {language : Language}
    {content : Text} {parsing : Parsing} (held : tree.Holds path language content parsing) :
    tree.discover [path] = .found [path] := by
  obtain ⟨entry, opened, _, _⟩ := held.read
  apply tree.discover_plain
  intro other member
  rw [List.mem_singleton.mp member]
  exact tree.directory_of_opened path entry opened

def Rule.run (rule : Rule) (tree : FileTree) (paths : List Path) : Run where
  reports := (tree.discover paths).files.map fun path => (Submission.file tree path).report rule
  warnings := rule.warnings

theorem Linter.lintPaths_run [CharacterNames] (linter : Linter)
    (faithful : linter.caches.Faithful) (tree : FileTree) (paths : List Path) :
    (linter.lintPaths tree paths).1 =
      match (tree.discover paths).obstacle with
      | none => .ok (linter.rule.run tree paths)
      | some obstacle => .error obstacle := by
  have steps :=
    (linter.lintAll_steps faithful ((tree.discover paths).files.map (.file tree))).1
  rw [(linter.lintPaths_eq tree paths).2, steps, List.map_map]
  rfl

theorem Linter.create_eq [CharacterNames] (settings : Settings) (patterns : List CompiledPattern)
    (compiled : settings.ignorePatterns.mapM (CompiledPattern.compile · 0) = .ok patterns) :
    ∃ linter, (create settings).1 = .ok linter ∧
      linter.rule = Rule.ofPatterns settings {} patterns := by
  have initial := Caches.empty_faithful settings.patternCapacity settings.remarkCapacity
  have given := (Rule.create_gives settings {} _ initial).value
  rw [compiled] at given
  simp only [create, given]
  exact ⟨_, rfl, rfl⟩

/-- The settings with which a check runs, and its ignore patterns once compiled. A pattern at fault
is among them; a pattern that breaks a limit of the engine is not compiled at all. -/
structure CheckOptions.Prepared [CharacterNames] (options : CheckOptions)
    (library : Settings.Library) (workplace : Workplace) (settings : Settings)
    (patterns : List CompiledPattern) : Prop where
  loaded : ∃ declared, Settings.load library options.overrides workplace = .ok declared ∧
    declared.usable? = some settings
  compiled : settings.ignorePatterns.mapM (CompiledPattern.compile · 0) = .ok patterns

def CheckOptions.outcome (options : CheckOptions) (run : Run) : Outcome :=
  if options.asJson then run.jsonOutcome else run.textOutcome

theorem Settings.Declared.usable_sensitivity (declared : Settings.Declared) (settings : Settings)
    (usable : declared.usable? = some settings) : settings.sensitivity = declared.sensitivity := by
  simp only [usable?, bind, Option.bind_eq_some_iff] at usable
  obtain ⟨_, _, _, _, made⟩ := usable
  cases made
  rfl

namespace CheckOptions.Prepared

variable [CharacterNames] {options : CheckOptions} {library : Settings.Library}
  {workplace : Workplace} {settings : Settings} {patterns : List CompiledPattern}

theorem ends (prepared : options.Prepared library workplace settings patterns) (caches : Caches) :
    ∃ linter : Linter, linter.caches.Faithful ∧
      linter.rule = Rule.ofPatterns settings {} patterns ∧
      (Command.check options).run library caches workplace =
        ((linter.lintPaths workplace.tree options.paths).1.mapError .searching).map
          options.outcome := by
  obtain ⟨declared, loaded, usable⟩ := prepared.loaded
  obtain ⟨linter, created, rule⟩ := Linter.create_eq settings patterns prepared.compiled
  refine ⟨linter, Linter.create_faithful settings linter created, rule, ?_⟩
  simp only [Command.run, CheckOptions.run, loaded, usable, created]
  cases (linter.lintPaths workplace.tree options.paths).1 <;> rfl

theorem runs (prepared : options.Prepared library workplace settings patterns) (caches : Caches)
    (clear : (workplace.tree.discover options.paths).obstacle = none) :
    (Command.check options).run library caches workplace =
      .ok (options.outcome
        ((Rule.ofPatterns settings {} patterns).run workplace.tree options.paths)) := by
  obtain ⟨linter, faithful, rule, ends⟩ := prepared.ends caches
  rw [ends, linter.lintPaths_run faithful, clear, rule]
  rfl

theorem stops (prepared : options.Prepared library workplace settings patterns) (caches : Caches)
    (obstacle : Obstacle)
    (met : (workplace.tree.discover options.paths).obstacle = some obstacle) :
    (Command.check options).run library caches workplace = .error (.searching obstacle) := by
  obtain ⟨linter, faithful, _, ends⟩ := prepared.ends caches
  rw [ends, linter.lintPaths_run faithful, met]
  rfl

theorem sensitivity (prepared : options.Prepared library workplace settings patterns) (depth : Nat)
    (lawful : library.Lawful depth) (asked : Sensitivity)
    (given : options.sensitivity = some asked) : settings.sensitivity = asked := by
  obtain ⟨declared, loaded, usable⟩ := prepared.loaded
  rw [declared.usable_sensitivity settings usable]
  exact options.sensitivity_wins asked given library depth lawful workplace declared loaded

end CheckOptions.Prepared

/-- The lines shown of a comment say that it restates a construct of that kind. -/
def ShowsObvious (shown : List Text) (sensitivity : Sensitivity) (kind : ConstructKind) : Prop :=
  ∃ heading place glosses : Text, shown =
    [heading, "  Construct: " ++ kind.name ++ " (" ++ place, "  Glosses: " ++ glosses,
      "  Obvious (" ++ sensitivity.name ++ "): yes"]

theorem ConstructKind.takeWhile_name (kind : ConstructKind) (rest : Text) :
    (kind.name ++ ' ' :: rest).takeWhile (· != ' ') = kind.name := by
  cases kind <;> rfl

theorem ConstructKind.ofName_name (kind : ConstructKind) : ofName? kind.name = some kind := by
  cases kind <;> decide

theorem kind_of_shown (first second : ConstructKind) (place other : Text)
    (same : first.name ++ (" (".toList ++ place) = second.name ++ (" (".toList ++ other)) :
    first = second := by
  have names : first.name = second.name :=
    calc first.name
      _ = (first.name ++ (" (".toList ++ place)).takeWhile (· != ' ') :=
        (first.takeWhile_name ('(' :: place)).symm
      _ = (second.name ++ (" (".toList ++ other)).takeWhile (· != ' ') := by rw [same]
      _ = second.name := second.takeWhile_name ('(' :: other)
  have found := first.ofName_name
  rw [names, second.ofName_name] at found
  exact (Option.some.inj found).symm

theorem explanation_shows_iff (sensitivity : Sensitivity) (index : LineIndex) (comment : Comment)
    (kind : ConstructKind) :
    ShowsObvious (explanation sensitivity index (comment, comment.classify)) sensitivity kind ↔
      ∃ construct, adjacent? comment index = some construct ∧
        isObvious {} sensitivity comment.firstLine construct.glosses = true ∧
        construct.kind = kind := by
  constructor
  · rintro ⟨heading, place, glosses, shown⟩
    simp only [explanation] at shown
    cases found : adjacent? comment index with
    | none =>
        rw [found] at shown
        simp [constructLines] at shown
    | some construct =>
        rw [found] at shown
        simp only [constructLines, List.cons.injEq, and_true, List.append_assoc] at shown
        obtain ⟨-, kinds, -, verdict⟩ := shown
        refine ⟨construct, rfl, ?_, ?_⟩
        · cases obvious : isObvious {} sensitivity comment.firstLine construct.glosses with
          | true => rfl
          | false =>
              rw [obvious] at verdict
              have answers := List.append_cancel_left (List.append_cancel_left verdict)
              exact absurd answers (by decide)
        · exact kind_of_shown construct.kind kind _ place (List.append_cancel_left kinds)
  · rintro ⟨construct, found, obvious, rfl⟩
    have yes : ("): yes".toList : Text) = "): ".toList ++ "yes".toList := by decide
    simp only [ShowsObvious, explanation, found, constructLines, obvious, if_true, yes,
      List.append_assoc]
    exact ⟨_, _, _, rfl⟩

/-- The two commands agree on every comment of every file that can be read and parsed: the comment
is found exactly when it is not spared and is shown, on the line on which it starts, as restating a
construct, and the construct found is of the kind shown. Nothing else that is to be checked may be
in the way of the search for files. -/
theorem check_agrees_with_explain [CharacterNames] (options : CheckOptions)
    (library : Settings.Library) (depth : Nat) (lawful : library.Lawful depth)
    (workplace : Workplace) (settings : Settings) (patterns : List CompiledPattern)
    (prepared : options.Prepared library workplace settings patterns) (past : Past) (path : Path)
    (language : Language) (content : Text) (parsing : Parsing)
    (held : workplace.tree.Holds path language content parsing)
    (listed : path ∈ (workplace.tree.discover options.paths).files)
    (unobstructed : (workplace.tree.discover options.paths).obstacle = none)
    (ordered : ∀ node ∈ parsing.tree.nodes, node.start.row ≤ node.stop.row) :
    let file := ParsedFile.ofTree 0 path.toText language content parsing.tree
    let run := (Rule.ofPatterns settings {} patterns).run workplace.tree options.paths
    let verdict? := Reference.verdict? settings {} patterns file.outline
    let shown := fun comment : Comment => explanation settings.sensitivity
      (LineIndex.ofOutline file.outline) (comment, comment.classify)
    (∀ sensitivity, options.sensitivity = some sensitivity → settings.sensitivity = sensitivity) ∧
    (Command.check options).run library past.caches workplace = .ok (options.outcome run) ∧
    ⟨path.toText, some language.name, file.comments.filterMap verdict?, none⟩ ∈ run.reports ∧
    ∀ comment ∈ file.comments,
      let line := comment.span.startLine
      let onLine := file.comments.filter fun other => other.span.containsLine line
      comment ∈ onLine ∧
      (Command.explain ⟨path, line, settings.sensitivity⟩).run library past.caches workplace =
        .ok ⟨lines (onLine.flatMap shown), [], 0⟩ ∧
      ∀ kind,
        (∃ finding, verdict? comment = some finding ∧ finding.span = comment.span ∧
          finding.construct = kind) ↔
        ShowsObvious (shown comment) settings.sensitivity kind ∧
          Reference.isSpared settings patterns comment = false := by
  intro file run verdict? shown
  refine ⟨prepared.sensitivity depth lawful, ?_, ?_, ?_⟩
  · exact prepared.runs past.caches unobstructed
  · have report := held.report settings {} patterns
    rw [← report]
    exact List.mem_map_of_mem listed
  · intro comment member line onLine
    have present : comment ∈ onLine :=
      List.mem_filter.mpr ⟨member,
        ParsedFile.contains_start 0 path.toText language content parsing.tree ordered comment
          member⟩
    refine ⟨present, ?_, ?_⟩
    · have some : onLine.isEmpty = false := by
        simpa using List.ne_nil_of_mem present
      rw [held.explains]
      simp only [explained, onLine, file, line, some]
      rfl
    · intro kind
      rw [explanation_shows_iff]
      constructor
      · rintro ⟨finding, verdict, -, rfl⟩
        obtain ⟨judged, construct, found, obvious, rfl⟩ :=
          (Reference.verdict_eq_some_iff ..).mp verdict
        exact ⟨⟨construct, found, obvious, rfl⟩, judged⟩
      · rintro ⟨⟨construct, found, obvious, rfl⟩, judged⟩
        let finding := Reference.finding settings {} comment construct
        have verdict : verdict? comment = some finding :=
          (Reference.verdict_eq_some_iff ..).mpr ⟨judged, construct, found, obvious, rfl⟩
        exact ⟨finding, verdict, rfl, rfl⟩

def Workplace.restating : Workplace where
  tree :=
    { files := [(["a.py"], ⟨Utf8.encode "# return\nreturn\n", some .restating⟩)]
      directories := [] }
  environment := []

def CheckOptions.ignoring (patterns : List Text) : CheckOptions where
  paths := [.ofText "a.py"]
  sensitivity := none
  noLeading := false
  noTrailing := false
  ignorePatterns := patterns
  asJson := false

theorem check_agrees_with_explain_return :
    let _ : CharacterNames := .none
    let library := Settings.Library.standard Settings.usualDepth
    let options : CheckOptions := { CheckOptions.ignoring [] with sensitivity := some .high }
    let settings : Settings := { sensitivity := .high }
    let file := ParsedFile.ofTree 0 "a.py" .python "# return\nreturn\n"
      Parsing.restating.tree
    let comment : Comment := ⟨⟨1, 0, 1, 8, 0, 8⟩, .line, " return", false⟩
    let index := LineIndex.ofOutline file.outline
    options.Prepared library .restating settings [] ∧
      Workplace.restating.tree.Holds (.ofText "a.py") .python "# return\nreturn\n"
        Parsing.restating ∧
      comment ∈ file.comments ∧
      (Reference.verdict? settings {} [] file.outline comment).map (·.construct) = some .return ∧
      ShowsObvious (explanation .high index (comment, comment.classify)) .high .return := by
  intro _ library options settings file comment index
  have prepared : options.Prepared library .restating settings [] :=
    ⟨⟨{ sensitivity := .high }, by decide +kernel, rfl⟩, rfl⟩
  have held : Workplace.restating.tree.Holds (.ofText "a.py") .python "# return\nreturn\n"
      Parsing.restating :=
    ⟨by decide +kernel, ⟨_, rfl, by decide +kernel, rfl⟩⟩
  have discovered : Workplace.restating.tree.discover options.paths =
      .found [.ofText "a.py"] :=
    held.discovered
  have ordered : ∀ node ∈ Parsing.restating.tree.nodes,
      node.start.row ≤ node.stop.row := by
    decide +kernel
  have member : comment ∈ file.comments := by decide +kernel
  have found : (Reference.verdict? settings {} [] file.outline comment).map (·.construct) =
      some .return := by
    decide +kernel
  obtain ⟨_, _, _, each⟩ := check_agrees_with_explain options library Settings.usualDepth
    (Settings.standard_lawful _) .restating settings [] prepared
    ⟨⟨200, by decide⟩, ⟨300, by decide⟩, []⟩ (.ofText "a.py") .python "# return\nreturn\n"
    Parsing.restating held (by rw [discovered]; exact List.mem_cons_self)
    (by rw [discovered]; rfl) ordered
  obtain ⟨_, _, agree⟩ := each comment member
  obtain ⟨finding, verdict, kind⟩ := Option.map_eq_some_iff.mp found
  have span : finding.span = comment.span := by
    obtain ⟨_, _, _, _, rfl⟩ := (Reference.verdict_eq_some_iff ..).mp verdict
    rfl
  exact ⟨prepared, held, member, found, ((agree .return).mp ⟨finding, verdict, span, kind⟩).1⟩

/-- A repetition count that is too large for the engine ends a check before it finds anything, while
the comment is shown as restating the statement and nothing spares it. -/
theorem check_stops_at_repetition_limit :
    let _ : CharacterNames := .none
    let library := Settings.Library.standard Settings.usualDepth
    let options := CheckOptions.ignoring ["a{4294967295}"]
    let settings : Settings := { ignorePatterns := ["a{4294967295}"] }
    let comment : Comment := ⟨⟨1, 0, 1, 8, 0, 8⟩, .line, " return", false⟩
    Settings.load library options.overrides .restating =
        .ok { ignorePatterns := ["a{4294967295}"] } ∧
      (Command.check options).run library .usual .restating =
        .error (.pattern .tooManyRepetitions) ∧
      (Command.explain ⟨.ofText "a.py", comment.span.startLine, settings.sensitivity⟩).run library
          .usual .restating =
        .ok ⟨lines ["Comment: 'return' (line, leading, noise)",
          "  Construct: return (return_statement) at line 2",
          "  Glosses: return, return value, return result, returns",
          "  Obvious (medium): yes"], [], 0⟩ ∧
      Reference.isSpared settings [] comment = false := by
  decide +kernel

end Restatement
