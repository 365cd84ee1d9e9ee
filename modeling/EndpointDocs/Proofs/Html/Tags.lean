import EndpointDocs.Proofs.Text.Cut

/-!
The tags of a fragment and the text outside them, read from the left: a tag reaches from a `<` to
the next `>`. Fragments that are put together from tags and from text without `<` give back exactly
these tags and this text.
-/
namespace EndpointDocs.Html

/-- What stands inside the tags of a fragment, in order. -/
def tags : List Char → List (List Char)
  | [] => []
  | c :: rest =>
    if c = '<' then Text.before '>' rest :: tags (Text.behind '>' rest) else tags rest
termination_by text => text.length
decreasing_by
  · have := Text.length_behind_le '>' rest
    simp only [List.length_cons]
    omega
  · simp

/-- What stands outside the tags of a fragment. -/
def withoutTags : List Char → List Char
  | [] => []
  | c :: rest => if c = '<' then withoutTags (Text.behind '>' rest) else c :: withoutTags rest
termination_by text => text.length
decreasing_by
  · have := Text.length_behind_le '>' rest
    simp only [List.length_cons]
    omega
  · simp

/-- The names of the attributes of a tag, if their values have no blanks. -/
def attributes (tag : List Char) : List (List Char) :=
  ((tag.splitOn ' ').drop 1).map (Text.before '=')

theorem tags_tag {name : List Char} (closed : '>' ∉ name) (rest : List Char) :
    tags ('<' :: (name ++ '>' :: rest)) = name :: tags rest := by
  rw [tags, if_pos rfl, Text.before_append closed, Text.behind_append closed]

theorem withoutTags_tag {name : List Char} (closed : '>' ∉ name) (rest : List Char) :
    withoutTags ('<' :: (name ++ '>' :: rest)) = withoutTags rest := by
  rw [withoutTags, if_pos rfl, Text.behind_append closed]

theorem tags_text {text : List Char} (plain : '<' ∉ text) (rest : List Char) :
    tags (text ++ rest) = tags rest := by
  induction text with
  | nil => rfl
  | cons c text ih =>
    rw [List.mem_cons, not_or] at plain
    rw [List.cons_append, tags, if_neg (Ne.symm plain.1), ih plain.2]

theorem withoutTags_text {text : List Char} (plain : '<' ∉ text) (rest : List Char) :
    withoutTags (text ++ rest) = text ++ withoutTags rest := by
  induction text with
  | nil => rfl
  | cons c text ih =>
    rw [List.mem_cons, not_or] at plain
    rw [List.cons_append, withoutTags, if_neg (Ne.symm plain.1), ih plain.2, List.cons_append]

end EndpointDocs.Html
