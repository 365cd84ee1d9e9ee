import EndpointDocs.Proofs.Glossary.Marked
import EndpointDocs.Proofs.Html.Tags
import Mathlib.Data.Nat.Init

/-!
What colons do in running text. The tokens of a text are runs of colons, each with another token
behind it, and a last run of colons. In each run every second colon shows the one after it; a colon
that is left over marks the token behind the run if it is a term, and stays as it is at the end of
the text. The spans of marked terms are the only tags, and outside of them stand the shown tokens.
-/
namespace EndpointDocs.Glossary

/-- How the token after a colon is shown. -/
def afterColon (isTerm : String → Bool) (token : String) : Piece :=
  if isTerm token then .term token else .word token

/-- Colons and the token behind them. -/
structure ColonRun where
  colons : Nat
  token : String
  deriving DecidableEq, Repr

namespace ColonRun

def tokens (run : ColonRun) : List String :=
  List.replicate run.colons ":" ++ [run.token]

def pieces (isTerm : String → Bool) (run : ColonRun) : List Piece :=
  List.replicate (run.colons / 2) (afterColon isTerm ":") ++
    [if run.colons % 2 = 1 then afterColon isTerm run.token else .word run.token]

end ColonRun

theorem pieces_cons_of_ne (isTerm : String → Bool) {token : String} (notColon : token ≠ ":")
    (rest : List String) :
    pieces isTerm (token :: rest) =
      (.word token :: (pieces isTerm rest).1, (pieces isTerm rest).2) := by
  cases rest with
  | nil => simp [pieces, notColon]
  | cons next rest => simp [pieces, notColon]

theorem pieces_colon_cons (isTerm : String → Bool) (next : String) (rest : List String) :
    pieces isTerm (":" :: next :: rest) =
      (afterColon isTerm next :: (pieces isTerm rest).1, (pieces isTerm rest).2) := by
  simp [pieces, afterColon]

/-- The induction takes the colons of the run two at a time, as they are consumed. -/
theorem pieces_run_append (isTerm : String → Bool) (colons : Nat) {token : String}
    (notColon : token ≠ ":") (rest : List String) :
    pieces isTerm (List.replicate colons ":" ++ token :: rest) =
      (ColonRun.pieces isTerm ⟨colons, token⟩ ++ (pieces isTerm rest).1,
        (pieces isTerm rest).2) := by
  induction colons using Nat.twoStepInduction with
  | zero => simpa [ColonRun.pieces] using pieces_cons_of_ne isTerm notColon rest
  | one => simpa [ColonRun.pieces] using pieces_colon_cons isTerm token rest
  | more colons ih _ =>
    have half : (colons + 2) / 2 = colons / 2 + 1 := by omega
    have parity : (colons + 2) % 2 = colons % 2 := by omega
    rw [List.replicate_succ, List.replicate_succ, List.cons_append, List.cons_append,
      pieces_colon_cons, ih]
    simp only [ColonRun.pieces, half, parity, List.replicate_succ, List.cons_append]

theorem pieces_last_run (isTerm : String → Bool) (colons : Nat) :
    pieces isTerm (List.replicate colons ":") =
      (List.replicate (colons / 2) (afterColon isTerm ":"), decide (colons % 2 = 1)) := by
  induction colons using Nat.twoStepInduction with
  | zero => rfl
  | one => simp [pieces]
  | more colons ih _ =>
    have half : (colons + 2) / 2 = colons / 2 + 1 := by omega
    have parity : (colons + 2) % 2 = colons % 2 := by omega
    rw [List.replicate_succ, List.replicate_succ, pieces_colon_cons, ih]
    simp only [half, parity, List.replicate_succ]

/-- Each run shows its pieces, whatever the other runs are. -/
theorem pieces_runs (isTerm : String → Bool) (runs : List ColonRun) (last : Nat)
    (named : ∀ run ∈ runs, run.token ≠ ":") :
    pieces isTerm (runs.flatMap ColonRun.tokens ++ List.replicate last ":") =
      (runs.flatMap (ColonRun.pieces isTerm) ++
          List.replicate (last / 2) (afterColon isTerm ":"),
        decide (last % 2 = 1)) := by
  induction runs with
  | nil => exact pieces_last_run isTerm last
  | cons run runs ih =>
    have restNamed : ∀ other ∈ runs, other.token ≠ ":" := fun other listed =>
      named other (List.mem_cons_of_mem _ listed)
    have first := pieces_run_append isTerm run.colons (named run List.mem_cons_self)
      (runs.flatMap ColonRun.tokens ++ List.replicate last ":")
    rw [ih restNamed] at first
    simpa [ColonRun.tokens, List.append_assoc] using first

/-- Every list of tokens is a list of runs. -/
theorem exists_runs (tokens : List String) :
    ∃ (runs : List ColonRun) (last : Nat),
      (∀ run ∈ runs, run.token ≠ ":") ∧
        tokens = runs.flatMap ColonRun.tokens ++ List.replicate last ":" := by
  induction tokens with
  | nil => exact ⟨[], 0, by simp, rfl⟩
  | cons token rest ih =>
    obtain ⟨runs, last, named, split⟩ := ih
    by_cases isColon : token = ":"
    · subst isColon
      -- The colon joins the run that follows it, which is the last one if there are no others.
      cases runs with
      | nil => exact ⟨[], last + 1, by simp, by simp [split, List.replicate_succ]⟩
      | cons run runs =>
        refine ⟨⟨run.colons + 1, run.token⟩ :: runs, last, ?_, ?_⟩
        · simpa using named
        · simp [split, ColonRun.tokens, List.replicate_succ]
    · refine ⟨⟨0, token⟩ :: runs, last, ?_, ?_⟩
      · simpa [isColon] using named
      · simp [split, ColonRun.tokens]

/-- The texts with a mark behind the last of them, or the mark alone if there is none. -/
def endWith (mark : String) : List String → List String
  | [] => [mark]
  | [text] => [text ++ mark]
  | text :: next :: rest => text :: endWith mark (next :: rest)

theorem intercalate_endWith (mark : String) (texts : List String) :
    " ".intercalate (endWith mark texts) = " ".intercalate texts ++ mark := by
  fun_induction endWith mark texts with
  | case1 => simp
  | case2 text => simp
  | case3 text next rest ih =>
    obtain ⟨first, tail, shape⟩ : ∃ first tail, endWith mark (next :: rest) = first :: tail := by
      cases rest with
      | nil => exact ⟨_, _, rfl⟩
      | cons _ _ => exact ⟨_, _, rfl⟩
    rw [shape, String.intercalate_cons_cons, ← shape, ih, String.intercalate_cons_cons]
    simp [String.append_assoc]

/-- What a last run leaves over. -/
def leftOver (last : Nat) : String :=
  if last % 2 = 1 then ":" else ""

/-- The texts, with the colon behind them that a last run leaves over. -/
def withLeftOver (last : Nat) (texts : List String) : List String :=
  if last % 2 = 1 then endWith ":" texts else texts

theorem intercalate_withLeftOver (last : Nat) (texts : List String) :
    " ".intercalate (withLeftOver last texts) = " ".intercalate texts ++ leftOver last := by
  by_cases odd : last % 2 = 1
  · simp [withLeftOver, leftOver, odd, intercalate_endWith]
  · simp [withLeftOver, leftOver, odd]

theorem escape_leftOver (last : Nat) :
    '<' ∉ (leftOver last).toList ∧ (Html.escape (leftOver last)).source = leftOver last := by
  unfold leftOver
  split
  · decide
  · decide

def Piece.text : Piece → String
  | .word text => text
  | .term text => text

/-- What stands inside the tag that opens a marked term. -/
def spanName : String :=
  "span class=\"glossary\""

def spanEndName : String :=
  "/span"

/-- The tags of a piece: a marked term has one that opens and one that closes. -/
def Piece.tags : Piece → List (List Char)
  | .word _ => []
  | .term _ => [spanName.toList, spanEndName.toList]

theorem toList_html_term (text : String) (rest : List Char) :
    (Piece.term text).html.source.toList ++ rest =
      '<' :: (spanName.toList ++ '>' ::
        ((Html.escape text).source.toList ++ '<' :: (spanEndName.toList ++ '>' :: rest))) := by
  have source : (Piece.term text).html.source =
      spanStart ++ (Html.escape text).source ++ spanEnd := rfl
  have start : spanStart.toList = '<' :: (spanName.toList ++ ['>']) := rfl
  have ending : spanEnd.toList = '<' :: (spanEndName.toList ++ ['>']) := rfl
  rw [source, String.toList_append, String.toList_append, start, ending]
  simp only [List.append_assoc, List.cons_append, List.nil_append]

theorem spanName_closed : '>' ∉ spanName.toList ∧ '>' ∉ spanEndName.toList := by
  decide

theorem tags_piece (piece : Piece) (rest : List Char) :
    Html.tags (piece.html.source.toList ++ rest) = piece.tags ++ Html.tags rest := by
  cases piece with
  | word text => exact Html.tags_text (Html.not_mem_escape rfl text) rest
  | term text =>
    rw [toList_html_term, Html.tags_tag spanName_closed.1,
      Html.tags_text (Html.not_mem_escape rfl text), Html.tags_tag spanName_closed.2]
    rfl

theorem withoutTags_piece (piece : Piece) (rest : List Char) :
    Html.withoutTags (piece.html.source.toList ++ rest) =
      (Html.escape piece.text).source.toList ++ Html.withoutTags rest := by
  cases piece with
  | word text => exact Html.withoutTags_text (Html.not_mem_escape rfl text) rest
  | term text =>
    rw [toList_html_term, Html.withoutTags_tag spanName_closed.1,
      Html.withoutTags_text (Html.not_mem_escape rfl text),
      Html.withoutTags_tag spanName_closed.2]
    rfl

theorem intercalate_map_cons (view : Piece → String) (piece next : Piece) (rest : List Piece) :
    " ".intercalate ((piece :: next :: rest).map view) =
      view piece ++ " " ++ " ".intercalate ((next :: rest).map view) :=
  String.intercalate_cons_cons

theorem tags_pieces (shown : List Piece) (rest : List Char) :
    Html.tags ((" ".intercalate (shown.map (·.html.source))).toList ++ rest) =
      shown.flatMap Piece.tags ++ Html.tags rest := by
  induction shown with
  | nil => simp
  | cons piece shown ih =>
    cases shown with
    | nil => simpa using tags_piece piece rest
    | cons next shown =>
      have blank : '<' ∉ " ".toList := by decide
      rw [intercalate_map_cons, String.toList_append, String.toList_append, List.append_assoc,
        List.append_assoc, tags_piece, Html.tags_text blank, ih, ← List.append_assoc,
        ← List.flatMap_cons]

/-- Without the tags of its spans the text shows the tokens, escaped. -/
theorem withoutTags_pieces (shown : List Piece) (rest : List Char) :
    Html.withoutTags ((" ".intercalate (shown.map (·.html.source))).toList ++ rest) =
      (Html.escape (" ".intercalate (shown.map Piece.text))).source.toList ++
        Html.withoutTags rest := by
  induction shown with
  | nil => rfl
  | cons piece shown ih =>
    cases shown with
    | nil => simpa using withoutTags_piece piece rest
    | cons next shown =>
      have blank : '<' ∉ " ".toList := by decide
      have escaped : (Html.escape " ").source = " " := by decide
      rw [intercalate_map_cons, intercalate_map_cons, Html.escape_append, Html.escape_append,
        escaped]
      simp only [String.toList_append, List.append_assoc]
      rw [withoutTags_piece, Html.withoutTags_text blank, ih]

theorem tags_shown (shown : List Piece) (last : Nat) :
    Html.tags (" ".intercalate (shown.map (·.html.source)) ++ leftOver last).toList =
      shown.flatMap Piece.tags := by
  have rest := Html.tags_text (escape_leftOver last).1 []
  rw [List.append_nil] at rest
  rw [String.toList_append, tags_pieces, rest, Html.tags, List.append_nil]

theorem withoutTags_shown (shown : List Piece) (last : Nat) :
    Html.withoutTags (" ".intercalate (shown.map (·.html.source)) ++ leftOver last).toList =
      (Html.escape (" ".intercalate (shown.map Piece.text) ++ leftOver last)).source.toList := by
  have rest := Html.withoutTags_text (escape_leftOver last).1 []
  rw [List.append_nil] at rest
  rw [String.toList_append, withoutTags_pieces, rest, Html.escape_append, (escape_leftOver last).2,
    String.toList_append, Html.withoutTags, List.append_nil]

theorem source_highlight (glossary : Glossary) {text : String} {shown : List Piece} {last : Nat}
    (read : pieces glossary.isTerm (Token.tokens text) = (shown, decide (last % 2 = 1))) :
    (glossary.highlight text).source =
      " ".intercalate (shown.map (·.html.source)) ++ leftOver last := by
  simp only [highlight, read, leftOver, decide_eq_true_eq]

/-- What highlighting does with the tokens of a text, which are runs of colons, each with another
token behind it, and a last run. Each run and the last one show their pieces, joined by blanks; a
colon that is left over at the end stands behind the last piece. The only tags are those around
the terms that are marked, and the rest is the text of the pieces, escaped. -/
theorem highlight_by_colon_runs (glossary : Glossary) (text : String) :
    ∃ (runs : List ColonRun) (last : Nat) (shown : List Piece),
      (∀ run ∈ runs, run.token ≠ ":") ∧
      Token.tokens text = runs.flatMap ColonRun.tokens ++ List.replicate last ":" ∧
      shown = runs.flatMap (ColonRun.pieces glossary.isTerm) ++
        List.replicate (last / 2) (afterColon glossary.isTerm ":") ∧
      let source := (glossary.highlight text).source
      source = " ".intercalate (withLeftOver last (shown.map (·.html.source))) ∧
      Html.tags source.toList = shown.flatMap Piece.tags ∧
      '<' ∉ Html.withoutTags source.toList ∧ '>' ∉ Html.withoutTags source.toList ∧
      String.ofList (Html.unescape (Html.withoutTags source.toList)) =
        " ".intercalate (withLeftOver last (shown.map Piece.text)) := by
  obtain ⟨runs, last, named, split⟩ := exists_runs (Token.tokens text)
  have read := pieces_runs glossary.isTerm runs last named
  rw [← split] at read
  have source := source_highlight glossary read
  refine ⟨runs, last, _, named, split, rfl, ?_, ?_, ?_, ?_, ?_⟩
  · rw [source, intercalate_withLeftOver]
  · rw [source, tags_shown]
  · rw [source, withoutTags_shown]
    exact Html.not_mem_escape rfl _
  · rw [source, withoutTags_shown]
    exact Html.not_mem_escape rfl _
  · rw [source, withoutTags_shown, Html.unescape_escape, intercalate_withLeftOver]

end EndpointDocs.Glossary
