import EndpointDocs.Html.Basic

/-!
What escaping guarantees: escaped text has no brackets and no quotes, text that says something still
does, and the escapes can be undone.
-/
namespace EndpointDocs.Html

def isMarkup (c : Char) : Bool :=
  c == '<' || c == '>' || c == '"' || c == '\''

theorem filter_isMarkup_textEntity (c : Char) : (textEntity c).filter isMarkup = [] := by
  unfold textEntity
  split
  case h_6 notLt notGt notQuote notDouble =>
    simp_all [isMarkup]
  all_goals decide

theorem filter_isMarkup_escape (text : String) :
    (escape text).source.toList.filter isMarkup = [] := by
  simp [escape, List.filter_flatMap, filter_isMarkup_textEntity]

theorem not_mem_escape {c : Char} (markup : isMarkup c = true) (text : String) :
    c ∉ (escape text).source.toList := by
  intro listed
  exact List.filter_eq_nil_iff.1 (filter_isMarkup_escape text) c listed markup

theorem textEntity_ne_nil (c : Char) : textEntity c ≠ [] := by
  unfold textEntity
  split <;> simp

theorem escape_ne_empty {text : String} (content : text ≠ "") :
    (escape text).source.toList ≠ [] := by
  obtain ⟨c, rest, shape⟩ : ∃ c rest, text.toList = c :: rest :=
    List.exists_cons_of_ne_nil (by simpa using content)
  simp [escape, shape, textEntity_ne_nil c]

theorem escape_append (first second : String) :
    (escape (first ++ second)).source = (escape first).source ++ (escape second).source := by
  simp [escape]

/-- The text that an escaped text shows. -/
def unescape : List Char → List Char
  | '&' :: 'a' :: 'm' :: 'p' :: ';' :: rest => '&' :: unescape rest
  | '&' :: 'l' :: 't' :: ';' :: rest => '<' :: unescape rest
  | '&' :: 'g' :: 't' :: ';' :: rest => '>' :: unescape rest
  | '&' :: '#' :: '3' :: '9' :: ';' :: rest => '\'' :: unescape rest
  | '&' :: '#' :: '3' :: '4' :: ';' :: rest => '"' :: unescape rest
  | c :: rest => c :: unescape rest
  | [] => []

theorem unescape_cons {c : Char} (plain : c ≠ '&') (rest : List Char) :
    unescape (c :: rest) = c :: unescape rest := by
  rw [unescape] <;> simp [plain]

theorem unescape_textEntity (c : Char) (rest : List Char) :
    unescape (textEntity c ++ rest) = c :: unescape rest := by
  unfold textEntity
  split
  case h_6 notAmp _ _ _ _ => exact unescape_cons notAmp rest
  all_goals rfl

theorem unescape_escape (text : String) :
    String.ofList (unescape (escape text).source.toList) = text := by
  have chars (text : List Char) : unescape (text.flatMap textEntity) = text := by
    induction text with
    | nil => rfl
    | cons c rest ih => rw [List.flatMap_cons, unescape_textEntity, ih]
  rw [escape, String.toList_ofList, chars, String.ofList_toList]

theorem any_head?_append {mark : List Char} (markup : mark.head?.any isMarkup = true)
    (rest : List Char) : (mark ++ rest).head?.any isMarkup = true := by
  cases mark with
  | nil => cases markup
  | cons c mark => exact markup

/-- Different texts are escaped differently, also in front of markup: what is escaped ends where the
markup begins. -/
theorem escape_append_inj {text other : String} {rest rest' : List Char}
    (markup : rest.head?.any isMarkup = true) (markup' : rest'.head?.any isMarkup = true)
    (equal : (escape text).source.toList ++ rest = (escape other).source.toList ++ rest') :
    text = other ∧ rest = rest' := by
  have cut (text : String) {rest : List Char} (markup : rest.head?.any isMarkup = true) :
      ((escape text).source.toList ++ rest).takeWhile (fun c => !isMarkup c) =
        (escape text).source.toList := by
    rw [List.takeWhile_append_of_pos]
    · cases rest with
      | nil => cases markup
      | cons c rest =>
        have stops : isMarkup c = true := markup
        simp [stops]
    · intro c listed
      cases isMarked : isMarkup c with
      | false => rfl
      | true => exact absurd listed (not_mem_escape isMarked text)
  have same : (escape text).source.toList = (escape other).source.toList := by
    rw [← cut text markup, equal, cut other markup']
  refine ⟨?_, ?_⟩
  · rw [← unescape_escape text, same, unescape_escape]
  · rw [same] at equal
    exact List.append_cancel_left equal

/-- Code inside a code block has no brackets. -/
theorem not_mem_code {c : Char} (bracket : c = '<' ∨ c = '>') (code : List Char) :
    c ∉ code.flatMap codeEntity := by
  have none (shown : Char) : c ∉ codeEntity shown := by
    unfold codeEntity
    split
    case h_4 notLt notGt =>
      rw [List.mem_singleton]
      rintro rfl
      rcases bracket with rfl | rfl <;> contradiction
    all_goals rcases bracket with rfl | rfl <;> decide
  simp [none]

/-- The escapes of code can be undone. -/
theorem unescape_code (code : List Char) : unescape (code.flatMap codeEntity) = code := by
  have first (c : Char) (rest : List Char) :
      unescape (codeEntity c ++ rest) = c :: unescape rest := by
    unfold codeEntity
    split
    case h_4 notAmp _ _ => exact unescape_cons notAmp rest
    all_goals rfl
  induction code with
  | nil => rfl
  | cons c rest ih => rw [List.flatMap_cons, first, ih]

end EndpointDocs.Html
