import PodManual.Proofs.Extract.Written

/-!
# The pattern of an instruction line

An instruction line can be described in two ways.  One is a grammar: an equals sign, a
maximal run of word characters, and a rest in which no line feed is left after
stripping.  The other is a pattern of runs that are as long or as short as possible,
matched by a search that tries one way after the other and settles on the first that
leads to the end.

Main statement: the reading of a line accepts exactly the grammar, and it gives what the
groups of the pattern hold when the search settles.
-/

namespace PodManual

/-!
## Patterns

The ways in which a pattern matches stand in the order in which a search with
backtracking tries them, so the search settles on the first one.
-/

/-- A pattern. -/
inductive Pattern where
  /-- The beginning of the text. -/
  | beginning
  /-- The end of the text, or the place before a line feed at the end. -/
  | ending
  /-- One character of a class. -/
  | one (accepts : Char -> Bool)
  /-- Characters of a class: a greedy run is tried as long as it can be, any other as
  short as it can be. -/
  | many (greedy : Bool) (accepts : Char -> Bool)
  /-- A part whose text is kept. -/
  | group (inner : Pattern)
  /-- One pattern after the other. -/
  | inTurn (first second : Pattern)

namespace Pattern

/-- One way to match: what is read, what is left, and what the groups hold. -/
structure Way where
  read : Text
  left : Text
  groups : List Text
  deriving DecidableEq, Repr

def oneOrMore (greedy : Bool) (accepts : Char -> Bool) : Pattern :=
  .inTurn (.one accepts) (.many greedy accepts)

/-- The ways to read characters of a class, each with what it leaves: at every character
the run goes on or stops, and what is tried first is the difference. -/
def runs (greedy : Bool) (accepts : Char -> Bool) : Text -> List (Text × Text)
  | [] => [([], [])]
  | c :: rest =>
      let more :=
        if accepts c then (runs greedy accepts rest).map fun run => (c :: run.1, run.2)
        else []
      if greedy then more ++ [([], c :: rest)] else ([], c :: rest) :: more

/-- The ways in which a pattern matches after a text that has been read. -/
def ways : Pattern -> Text -> Text -> List Way
  | .beginning, before, t => if before = [] then [⟨[], t, []⟩] else []
  | .ending, _, t => if t = [] ∨ t = ['\n'] then [⟨[], t, []⟩] else []
  | .one _, _, [] => []
  | .one accepts, _, c :: rest => if accepts c then [⟨[c], rest, []⟩] else []
  | .many greedy accepts, _, t =>
      (runs greedy accepts t).map fun run => ⟨run.1, run.2, []⟩
  | .group inner, before, t =>
      (inner.ways before t).map fun way => { way with groups := way.read :: way.groups }
  | .inTurn first second, before, t =>
      (first.ways before t).flatMap fun way =>
        (second.ways (before ++ way.read) way.left).map fun next =>
          ⟨way.read ++ next.read, next.left, way.groups ++ next.groups⟩

/-- What the groups hold when the search settles, after a text that has been read. -/
def capturesAfter (pattern : Pattern) (before t : Text) : Option (List Text) :=
  (pattern.ways before t).head?.map Way.groups

/-- What the groups of a pattern hold when a text matches it from its beginning. -/
def captures (pattern : Pattern) (t : Text) : Option (List Text) :=
  pattern.capturesAfter [] t

/-- The search goes through the ways of the first pattern, and settles on the first one
after which the second pattern matches. -/
theorem capturesAfter_inTurn (first second : Pattern) (before t : Text) :
    (inTurn first second).capturesAfter before t =
      (first.ways before t).findSome? fun way =>
        (second.capturesAfter (before ++ way.read) way.left).map (way.groups ++ ·) := by
  rw [capturesAfter, ways, List.head?_flatMap, List.map_findSome?]
  congr 1
  funext way
  simp [capturesAfter, List.head?_map, Option.map_map, Function.comp_def]

/-- A greedy run keeps all that it can, if a search that fails there also fails wherever
the run gives something back. -/
theorem findSome?_greedy {β : Type} (accepts : Char -> Bool) (t : Text)
    (next : Text × Text -> Option β)
    (h : next (t.takeWhile accepts, t.dropWhile accepts) = none ->
      forall read back, next (read, back ++ t.dropWhile accepts) = none) :
    (runs true accepts t).findSome? next =
      next (t.takeWhile accepts, t.dropWhile accepts) := by
  induction t generalizing next with
  | nil => simp [runs]
  | cons c rest ih =>
      by_cases hc : accepts c = true
      · rw [List.takeWhile_cons_of_pos hc, List.dropWhile_cons_of_pos hc] at h ⊢
        have hmore := ih (fun run => next (c :: run.1, run.2))
          fun hnone read back => h hnone (c :: read) back
        simp only [runs, hc, if_true, List.findSome?_append, List.findSome?_map,
          Function.comp_def, hmore]
        cases hnext : next (c :: rest.takeWhile accepts, rest.dropWhile accepts) with
        | some found => simp
        | none =>
            have hstop := h hnext [] (c :: rest.takeWhile accepts)
            rw [List.cons_append, List.takeWhile_append_dropWhile] at hstop
            simp [hstop]
      · rw [List.takeWhile_cons_of_neg hc, List.dropWhile_cons_of_neg hc]
        simp [runs, hc]

end Pattern

/-!
## The pattern of an instruction line
-/

namespace Instruction

def trailingPattern : Pattern :=
  .inTurn (.many true Text.isBlank) .ending

/-- A title as short as it can be, and white space after it up to the end. -/
def barePattern : Pattern :=
  .inTurn (.group (.many false (· != '\n'))) trailingPattern

def titlePattern : Pattern :=
  .inTurn (.many true Text.isBlank) barePattern

def linePattern : Pattern :=
  .inTurn .beginning
    (.inTurn (.one (· == '='))
      (.inTurn (.group (.oneOrMore true Text.isWord)) titlePattern))

/-- The tag and the title that the groups of the pattern hold. -/
def ofPattern? (line : Text) : Option (Text × Text) :=
  match linePattern.captures line with
  | some [tag, title] => some (tag, Text.strip title)
  | _ => none

theorem capturesAfter_ending_of_not_allBlank (before : Text) {t : Text}
    (h : Text.allBlank t = false) : Pattern.ending.capturesAfter before t = none := by
  have hne : ¬ (t = [] ∨ t = ['\n']) := by
    rintro (rfl | rfl) <;> cases h
  rw [Pattern.capturesAfter, Pattern.ways, if_neg hne]
  rfl

theorem capturesAfter_trailingPattern (before t : Text) :
    trailingPattern.capturesAfter before t =
      if Text.allBlank t then some [] else none := by
  rw [trailingPattern, Pattern.capturesAfter_inTurn, Pattern.ways, List.findSome?_map]
  cases hblank : Text.allBlank t with
  | true =>
      have hrest := Text.dropWhile_of_allBlank hblank
      rw [Pattern.findSome?_greedy]
      · simp [hrest, Pattern.capturesAfter, Pattern.ways]
      · simp [hrest, Pattern.capturesAfter, Pattern.ways]
  | false =>
      have hrest : Text.allBlank (t.dropWhile Text.isBlank) = false := by
        rw [Text.allBlank_dropWhile, hblank]
      have hback : forall back, Text.allBlank (back ++ t.dropWhile Text.isBlank) = false := by
        intro back
        rw [Text.allBlank_append, hrest, Bool.and_false]
      rw [Pattern.findSome?_greedy]
      · simp [capturesAfter_ending_of_not_allBlank _ hrest]
      · intro _ read back
        simp [capturesAfter_ending_of_not_allBlank _ (hback back)]

/-- The shortest title after which only white space is left is the text without the
white space at its end; there is none if that has a line feed in it. -/
theorem findSome?_lazy {β : Type} (t : Text) (found : Text -> β) :
    (Pattern.runs false (· != '\n') t).findSome?
        (fun run => if Text.allBlank run.2 then some (found run.1) else none) =
      if '\n' ∈ Text.dropEnd Text.isBlank t then none
      else some (found (Text.dropEnd Text.isBlank t)) := by
  induction t generalizing found with
  | nil => rfl
  | cons c rest ih =>
      cases hblank : Text.allBlank (c :: rest) with
      | true =>
          simp [Pattern.runs, hblank, Text.dropEnd_of_allBlank hblank]
      | false =>
          have hend := Text.dropEnd_cons hblank
          by_cases hc : c = '\n'
          · subst hc
            simp [Pattern.runs, hblank, hend]
          · have hne : (c != '\n') = true := by simpa using hc
            have hc' : '\n' ≠ c := fun heq => hc heq.symm
            simp only [Pattern.runs, hne, if_true, Bool.false_eq_true, if_false,
              List.findSome?_cons, hblank, List.findSome?_map, Function.comp_def,
              ih (fun read => found (c :: read)), hend, List.mem_cons, hc', false_or]

theorem capturesAfter_barePattern (before t : Text) :
    barePattern.capturesAfter before t =
      if '\n' ∈ Text.dropEnd Text.isBlank t then none
      else some [Text.dropEnd Text.isBlank t] := by
  rw [barePattern, Pattern.capturesAfter_inTurn, Pattern.ways, Pattern.ways,
    List.map_map, List.findSome?_map]
  rw [← findSome?_lazy t fun title => [title]]
  congr 1
  funext run
  simp only [Function.comp_def, capturesAfter_trailingPattern]
  cases Text.allBlank run.2 <;> rfl

/-- The white space before a title gives nothing back: a line feed that stays in the
rest stays in it when white space comes before. -/
theorem capturesAfter_titlePattern (before t : Text) :
    titlePattern.capturesAfter before t =
      if '\n' ∈ Text.strip t then none else some [Text.strip t] := by
  rw [titlePattern, Pattern.capturesAfter_inTurn, Pattern.ways, List.findSome?_map]
  simp only [Function.comp_def, capturesAfter_barePattern, List.nil_append, Option.map_id']
  rw [Pattern.findSome?_greedy]
  · rfl
  · intro hnone read back
    rw [ite_eq_left_iff] at hnone
    rw [if_pos]
    apply Text.mem_dropEnd_append
    by_contra hnot
    cases hnone hnot

theorem capturesAfter_tagged (before t : Text) :
    (Pattern.inTurn (.group (.oneOrMore true Text.isWord)) titlePattern).capturesAfter
        before t =
      if t.takeWhile Text.isWord = [] then none
      else if '\n' ∈ Text.strip (t.dropWhile Text.isWord) then none
      else some [t.takeWhile Text.isWord, Text.strip (t.dropWhile Text.isWord)] := by
  cases t with
  | nil => rfl
  | cons c rest =>
      rw [Pattern.capturesAfter_inTurn]
      by_cases hc : Text.isWord c = true
      · rw [List.takeWhile_cons_of_pos hc, List.dropWhile_cons_of_pos hc,
          if_neg (List.cons_ne_nil _ _)]
        simp only [Pattern.ways, Pattern.oneOrMore, hc, if_true, List.flatMap_cons,
          List.flatMap_nil, List.append_nil, List.map_map, List.findSome?_map,
          Function.comp_def, capturesAfter_titlePattern, List.singleton_append]
        rw [Pattern.findSome?_greedy]
        · split <;> rfl
        · intro hnone read back
          rw [Option.map_eq_none_iff, ite_eq_left_iff] at hnone ⊢
          intro hnot
          exact absurd (Text.mem_strip_append back (by_contra fun h => by cases hnone h)) hnot
      · rw [List.takeWhile_cons_of_neg hc]
        simp [Pattern.ways, Pattern.oneOrMore, hc]

theorem captures_linePattern_of_equals (rest : Text) :
    linePattern.captures ('=' :: rest) =
      (Pattern.inTurn (.group (.oneOrMore true Text.isWord)) titlePattern).capturesAfter
        ['='] rest := by
  rw [Pattern.captures, linePattern, Pattern.capturesAfter_inTurn]
  simp [Pattern.ways, Pattern.capturesAfter_inTurn (.one _)]

theorem captures_linePattern_of_other {line : Text} (h : line.head? ≠ some '=') :
    linePattern.captures line = none := by
  have hways : Pattern.ways (.one (· == '=')) [] line = [] := by
    cases line with
    | nil => rfl
    | cons c rest =>
        have hc : ¬ (c == '=') = true := by simpa using h
        rw [Pattern.ways, if_neg hc]
  rw [Pattern.captures, linePattern, Pattern.capturesAfter_inTurn]
  simp [Pattern.ways, Pattern.capturesAfter_inTurn (.one _), hways]

theorem ofPattern?_eq_ofLine? (line : Text) : ofPattern? line = ofLine? line := by
  by_cases hhead : line.head? = some '='
  · rcases List.head?_eq_some_iff.mp hhead with ⟨rest, rfl⟩
    rw [ofPattern?, captures_linePattern_of_equals, capturesAfter_tagged]
    simp only [ofLine?, List.contains_iff_mem]
    by_cases htag : rest.takeWhile Text.isWord = []
    · rw [if_pos htag, if_pos htag]
    · rw [if_neg htag, if_neg htag]
      by_cases htitle : '\n' ∈ Text.strip (rest.dropWhile Text.isWord)
      · rw [if_pos htitle, if_pos htitle]
      · rw [if_neg htitle, if_neg htitle]
        simp only [Text.strip_strip]
  · rw [ofPattern?, captures_linePattern_of_other hhead]
    cases hline : ofLine? line with
    | none => rfl
    | some found =>
        rcases ofLine?_eq_some.mp hline with ⟨rest, rfl, _⟩
        exact absurd rfl hhead

/-!
## The grammar of an instruction line
-/

/-- The line is an equals sign, a maximal run of word characters, and a rest. -/
structure Splits (line tag rest : Text) : Prop where
  line_eq : line = '=' :: (tag ++ rest)
  tag_ne_nil : tag ≠ []
  tag_isWord : forall c, c ∈ tag -> Text.isWord c = true
  rest_stops : forall c, c ∈ rest.head? -> Text.isWord c = false

theorem splits_takeWhile {rest : Text} (h : rest.takeWhile Text.isWord ≠ []) :
    Splits ('=' :: rest) (rest.takeWhile Text.isWord) (rest.dropWhile Text.isWord) where
  line_eq := by rw [List.takeWhile_append_dropWhile]
  tag_ne_nil := h
  tag_isWord := List.all_eq_true.mp List.all_takeWhile
  rest_stops := by
    intro c hc
    have hnot := List.head?_dropWhile_not Text.isWord rest
    rw [Option.mem_def.mp hc] at hnot
    exact hnot

theorem ofLine?_eq_some_iff_splits {line tag title : Text} :
    ofLine? line = some (tag, title) <->
      exists rest, Splits line tag rest ∧ Text.strip rest = title ∧ '\n' ∉ title := by
  rw [ofLine?_eq_some]
  constructor
  · rintro ⟨rest, rfl, rfl, rfl, htag, htitle⟩
    exact ⟨_, splits_takeWhile htag, rfl, htitle⟩
  · rintro ⟨rest, hsplits, rfl, htitle⟩
    rcases Text.takeWhile_dropWhile_append hsplits.tag_isWord hsplits.rest_stops with
      ⟨htag, hrest⟩
    exact ⟨tag ++ rest, hsplits.line_eq, htag, by rw [hrest], hsplits.tag_ne_nil, htitle⟩

/-- A line is read exactly if it has a tag after an equals sign and no line feed is left
in the stripped rest; then the reading is this tag and this stripped rest.  It is also
what the groups of the pattern hold, the second one stripped. -/
theorem ofLine?_accepts_grammar (line : Text) :
    (ofLine? line ≠ none <->
      exists tag rest, Splits line tag rest ∧ '\n' ∉ Text.strip rest) ∧
    (forall tag title, ofLine? line = some (tag, title) <->
      exists rest, Splits line tag rest ∧ Text.strip rest = title ∧ '\n' ∉ title) ∧
    ofPattern? line = ofLine? line := by
  refine ⟨⟨?_, ?_⟩, fun _ _ => ofLine?_eq_some_iff_splits, ofPattern?_eq_ofLine? line⟩
  · intro hne
    rcases Option.ne_none_iff_exists'.mp hne with ⟨⟨tag, title⟩, hline⟩
    rcases ofLine?_eq_some_iff_splits.mp hline with ⟨rest, hsplits, rfl, htitle⟩
    exact ⟨tag, rest, hsplits, htitle⟩
  · rintro ⟨tag, rest, hsplits, hstrip⟩
    rw [ofLine?_eq_some_iff_splits.mpr ⟨rest, hsplits, rfl, hstrip⟩]
    exact Option.some_ne_none _

-- A line feed between white space is passed over, one between other characters is not.
example : linePattern.captures "=item \n a b\n\n".toList =
    some ["item".toList, "a b".toList] := by decide +kernel

example : linePattern.captures "=item a\nb".toList = none := by decide +kernel

end Instruction
end PodManual
