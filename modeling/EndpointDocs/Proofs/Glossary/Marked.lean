import EndpointDocs.Glossary.Highlight
import EndpointDocs.Proofs.Html.Escape
import EndpointDocs.Proofs.Text.Occurrence
import Mathlib.Data.List.Forall2

/-!
What a glossary adds to running text: spans around some of its stretches, and nothing else. Under
any glossary the text is the one that stands there without a glossary, with stretches of it in
spans, so deleting the tags of the spans gives that text back.
-/
namespace EndpointDocs.Glossary

def spanStart : String :=
  "<span class=\"glossary\">"

def spanEnd : String :=
  "</span>"

/-- `html` is `bare`, which opens no tag, with some stretches of it in spans. -/
inductive Marked : List Char → List Char → Prop
  | nil : Marked [] []
  | char {c : Char} {html bare : List Char} (plain : c ≠ '<') (rest : Marked html bare) :
      Marked (c :: html) (c :: bare)
  | span {inner html bare : List Char} (content : inner ≠ []) (plain : '<' ∉ inner)
      (rest : Marked html bare) :
      Marked (spanStart.toList ++ inner ++ spanEnd.toList ++ html) (inner ++ bare)

namespace Marked

theorem append {html bare html' bare' : List Char} (first : Marked html bare)
    (second : Marked html' bare') : Marked (html ++ html') (bare ++ bare') := by
  induction first with
  | nil => exact second
  | char plain _ ih => exact .char plain ih
  | @span inner html bare content plain _ ih =>
    rw [List.append_assoc _ html, List.append_assoc inner]
    exact .span content plain ih

theorem refl {text : List Char} (plain : '<' ∉ text) : Marked text text := by
  induction text with
  | nil => exact .nil
  | cons c rest ih =>
    rw [List.mem_cons, not_or] at plain
    exact .char (Ne.symm plain.1) (ih plain.2)

/-- A span stands around some text, so marking does not hide that there is none. -/
theorem eq_nil_iff {html bare : List Char} (marked : Marked html bare) : html = [] ↔ bare = [] := by
  cases marked with
  | nil => simp
  | char => simp
  | span content => simp [content]

theorem delete_spanStart_spanEnd (rest : List Char) :
    Text.delete spanStart.toList (spanEnd.toList ++ rest) =
      spanEnd.toList ++ Text.delete spanStart.toList rest := by
  have notHere : spanStart.toList.isPrefixOf (spanEnd.toList ++ rest) = false := rfl
  have shape : spanEnd.toList ++ rest = '<' :: ("/span>".toList ++ rest) := rfl
  rw [shape] at notHere ⊢
  rw [Text.delete, notHere, Bool.and_false, if_neg (by decide)]
  exact congrArg _ (Text.delete_append_of_not_mem _ _ _ (by decide))

/-- Deleting the tags of the spans leaves the bare text. -/
theorem delete_spans {html bare : List Char} (marked : Marked html bare) :
    Text.delete spanEnd.toList (Text.delete spanStart.toList html) = bare := by
  have start : spanStart.toList = '<' :: "span class=\"glossary\">".toList := rfl
  have ending : spanEnd.toList = '<' :: "/span>".toList := rfl
  induction marked with
  | nil => simp [Text.delete]
  | char plain _ ih =>
    rw [start, Text.delete_cons_of_ne _ _ plain, ← start, ending, Text.delete_cons_of_ne _ _ plain,
      ← ending, ih]
  | @span inner html bare content plain _ ih =>
    have opened : Text.delete spanStart.toList
          (spanStart.toList ++ inner ++ spanEnd.toList ++ html) =
        inner ++ (spanEnd.toList ++ Text.delete spanStart.toList html) := by
      rw [List.append_assoc, List.append_assoc, start, Text.delete_mark_append,
        Text.delete_append_of_not_mem _ _ _ plain, ← start, delete_spanStart_spanEnd]
    rw [opened, ending, Text.delete_append_of_not_mem _ _ _ plain, Text.delete_mark_append,
      ← ending, ih]

theorem intercalate {htmls bares : List String}
    (marked : List.Forall₂ (fun html bare => Marked html.toList bare.toList) htmls bares) :
    Marked (" ".intercalate htmls).toList (" ".intercalate bares).toList := by
  induction marked with
  | nil => exact .nil
  | @cons html bare htmls bares first rest ih =>
    cases rest with
    | nil => simpa using first
    | cons second rest =>
      rw [String.intercalate_cons_cons, String.intercalate_cons_cons]
      simp only [String.toList_append] at ih ⊢
      exact (first.append (.refl (by decide))).append ih

end Marked

theorem marked_word (text : String) :
    Marked (Piece.word text).html.source.toList (Piece.word text).html.source.toList :=
  .refl (Html.not_mem_escape rfl text)

theorem marked_term {text : String} (content : text ≠ "") :
    Marked (Piece.term text).html.source.toList (Piece.word text).html.source.toList := by
  have span := Marked.span (Html.escape_ne_empty content) (Html.not_mem_escape rfl text) .nil
  rw [List.append_nil, List.append_nil] at span
  have source : (Piece.term text).html.source =
      spanStart ++ (Html.escape text).source ++ spanEnd := rfl
  rw [source, String.toList_append, String.toList_append]
  exact span

/-- A token is shown as a word or as a term; a glossary only decides which. -/
theorem marked_pieces (isTerm : String → Bool) (tokens : List String)
    (content : ∀ token ∈ tokens, token ≠ "") :
    List.Forall₂ (fun piece bare => Marked piece.html.source.toList bare.html.source.toList)
        (pieces isTerm tokens).1 (pieces (fun _ => false) tokens).1 ∧
      (pieces isTerm tokens).2 = (pieces (fun _ => false) tokens).2 := by
  fun_induction pieces isTerm tokens with
  | case1 => simp [pieces]
  | case2 => simp [pieces]
  | case3 token notColon => simpa [pieces, notColon] using marked_word token
  | case4 next rest shown last found ih =>
    have below := ih fun token listed => content token (by simp [listed])
    rw [found] at below
    refine ⟨?_, by simpa [pieces] using below.2⟩
    simp only [pieces, if_true, Bool.false_eq_true, if_false]
    refine List.Forall₂.cons ?_ below.1
    cases isTerm next with
    | true => exact marked_term (content next (by simp))
    | false => exact marked_word next
  | case5 token next rest notColon shown last found ih =>
    have below := ih fun token listed => content token (by simp [listed])
    rw [found] at below
    simp only [pieces, if_neg notColon]
    exact ⟨.cons (marked_word token) below.1, below.2⟩

/-- Under any glossary a text is shown as without one, with some stretches in spans. -/
theorem marked_highlight (glossary : Glossary) (text : String) :
    Marked (glossary.highlight text).source.toList
      (Glossary.empty.highlight text).source.toList := by
  have noTerms : Glossary.empty.isTerm = fun _ => false := rfl
  obtain ⟨shown, last⟩ := marked_pieces glossary.isTerm (Token.tokens text)
    fun _ => Token.ne_empty_of_mem_tokens
  simp only [highlight, noTerms, last, String.toList_append]
  refine (Marked.intercalate ?_).append (.refl ?_)
  · exact List.forall₂_map_left_iff.2 (List.forall₂_map_right_iff.2 shown)
  · split <;> decide

end EndpointDocs.Glossary
