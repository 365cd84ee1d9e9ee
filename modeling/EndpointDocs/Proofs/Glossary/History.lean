import EndpointDocs.Proofs.Glossary.Loading
import Mathlib.Data.Finset.Card

/-!
A glossary as a function of its history. Whatever is added and loaded, and wherever a source ends
early, only the additions that were made count: a word is a term if it was added, the last addition
in a term's own spelling defines it, and without one the last addition in any spelling does. The two
maps of a glossary stay in step, so that a lower-case form always leads to a term.
-/
namespace EndpointDocs.Glossary

/-- The last addition that satisfies `p`. -/
def latest (p : String × String → Bool) (history : List (String × String)) :
    Option (String × String) :=
  history.reverse.find? p

/-- The last addition of a kind is the last one of every narrower kind that it belongs to. -/
theorem latest_narrow {p q : String × String → Bool} {history : List (String × String)}
    {addition : String × String} (last : latest q history = some addition)
    (belongs : p addition = true) (narrower : ∀ other, p other = true → q other = true) :
    latest p history = some addition := by
  rw [latest, List.find?_eq_some_iff_append] at last ⊢
  obtain ⟨_, later, earlier, shape, noneLater⟩ := last
  refine ⟨belongs, later, earlier, shape, ?_⟩
  intro other listed
  rw [Bool.not_eq_true', Bool.eq_false_iff]
  intro isOne
  have notWider := noneLater other listed
  rw [narrower other isOne] at notWider
  cases notWider

theorem terms_addAll (glossary : Glossary) (history : List (String × String)) :
    (glossary.addAll history).terms =
      history.foldl (fun map addition => map.put addition.1 addition.2) glossary.terms := by
  induction history generalizing glossary with
  | nil => rfl
  | cons addition rest ih => exact ih _

theorem folded_addAll (glossary : Glossary) (history : List (String × String)) :
    (glossary.addAll history).folded =
      history.foldl (fun map addition => map.put (Text.lower addition.1) addition.1)
        glossary.folded := by
  induction history generalizing glossary with
  | nil => rfl
  | cons addition rest ih => exact ih _

/-- After additions a term has the definition that was added last, or the one it had before. -/
theorem get?_terms_addAll (glossary : Glossary) (history : List (String × String))
    (term : String) :
    (glossary.addAll history).terms.get? term =
      ((latest (fun addition => addition.1 = term) history).map (·.2)).or
        (glossary.terms.get? term) := by
  rw [terms_addAll]
  exact OrderedMap.get?_foldl_put _ _ _ _ _

/-- After additions a lower-case form leads to the spelling that was added last, or to the one it
led to before. -/
theorem get?_folded_addAll (glossary : Glossary) (history : List (String × String))
    (form : String) :
    (glossary.addAll history).folded.get? form =
      ((latest (fun addition => Text.lower addition.1 = form) history).map (·.1)).or
        (glossary.folded.get? form) := by
  rw [folded_addAll]
  exact OrderedMap.get?_foldl_put _ _ _ _ _

/-- The addition that defines a term: the last one in its own spelling, or else the last one in a
spelling with the same lower case. -/
def defining (history : List (String × String)) (term : String) : Option (String × String) :=
  (latest (fun addition => addition.1 = term) history).or
    (latest (fun addition => Text.lower addition.1 = Text.lower term) history)

section FromEmpty

variable (history : List (String × String))

theorem get?_terms_of_history (term : String) :
    (empty.addAll history).terms.get? term =
      (latest (fun addition => addition.1 = term) history).map (·.2) := by
  rw [get?_terms_addAll]
  exact Option.or_none

theorem get?_folded_of_history (form : String) :
    (empty.addAll history).folded.get? form =
      (latest (fun addition => Text.lower addition.1 = form) history).map (·.1) := by
  rw [get?_folded_addAll]
  exact Option.or_none

theorem isTerm_of_history (word : String) :
    (empty.addAll history).isTerm word = true ↔ word ∈ history.map (·.1) := by
  simp [isTerm, OrderedMap.has, get?_terms_of_history, latest]

/-- The terms are counted once each: no key comes twice, and the keys are what was added. -/
theorem size_of_history :
    (empty.addAll history).size = (history.map (·.1)).toFinset.card := by
  have keys : (empty.addAll history).terms.keys.toFinset = (history.map (·.1)).toFinset := by
    ext word
    rw [List.mem_toFinset, List.mem_toFinset, OrderedMap.mem_keys_iff]
    exact isTerm_of_history history word
  have distinct : (empty.addAll history).terms.keys.Nodup := (empty.addAll history).terms.distinct
  rw [← keys, List.toFinset_card_of_nodup distinct]
  exact (List.length_map _).symm

/-- The last addition with a lower-case form is the last one in its own spelling, so its definition
is the one found under that spelling. -/
theorem get?_terms_of_folded {form spelling : String}
    (leads : (empty.addAll history).folded.get? form = some spelling) :
    (empty.addAll history).terms.get? spelling =
      (latest (fun addition => Text.lower addition.1 = form) history).map (·.2) := by
  rw [get?_folded_of_history, Option.map_eq_some_iff] at leads
  obtain ⟨addition, last, rfl⟩ := leads
  have sameForm : Text.lower addition.1 = form := by simpa using List.find?_some last
  have exact : latest (fun other => other.1 = addition.1) history = some addition := by
    refine latest_narrow last (by simp) ?_
    intro other same
    have spelled : other.1 = addition.1 := by simpa using same
    simp [spelled, sameForm]
  rw [get?_terms_of_history, exact, last]

theorem isTerm_of_folded {form spelling : String}
    (leads : (empty.addAll history).folded.get? form = some spelling) :
    (empty.addAll history).isTerm spelling = true := by
  rw [isTerm, OrderedMap.has, get?_terms_of_folded history leads]
  rw [get?_folded_of_history, Option.map_eq_some_iff] at leads
  obtain ⟨addition, last, _⟩ := leads
  rw [last]
  rfl

/-- A term is defined by the last addition of its spelling, or else of any spelling. -/
theorem define_of_history (term : String) :
    (empty.addAll history).define term = ((defining history term).map (·.2)).getD "" := by
  unfold define defining
  rw [get?_terms_of_history]
  cases latest (fun addition => addition.1 = term) history with
  | some addition => rfl
  | none =>
    cases leads : (empty.addAll history).folded.get? (Text.lower term) with
    | some spelling =>
      simp only [Option.map_none, get?_terms_of_folded history leads, Option.none_or]
    | none =>
      rw [get?_folded_of_history, Option.map_eq_none_iff] at leads
      simp [leads]

end FromEmpty

/-- What can be done to a glossary. A loading sees the files as they are at its time. -/
inductive Operation where
  | add (term definition : String)
  | load (tree : Tree) (path : Path)
  | loadAll (tree : Tree) (paths : List Path)

namespace Operation

/-- The glossary that an operation leaves, whether the loading failed or not. -/
def apply (glossary : Glossary) : Operation → Glossary
  | .add term definition => glossary.add term definition
  | .load tree path => (glossary.load tree path).1
  | .loadAll tree paths => (glossary.loadAll tree paths).1

/-- The additions that an operation makes, in order. -/
def additions : Operation → List (String × String)
  | .add term definition => [(term, definition)]
  | .load tree path => additionsFrom tree path
  | .loadAll tree paths => additionsFromAll tree paths

theorem apply_eq_addAll (glossary : Glossary) (operation : Operation) :
    operation.apply glossary = glossary.addAll operation.additions := by
  cases operation with
  | add term definition => rfl
  | load tree path => exact glossary.load_eq_addAll tree path
  | loadAll tree paths => exact glossary.loadAll_eq_addAll tree paths

theorem foldl_apply_eq_addAll (glossary : Glossary) (operations : List Operation) :
    operations.foldl apply glossary = glossary.addAll (operations.flatMap additions) := by
  induction operations generalizing glossary with
  | nil => rfl
  | cons operation rest ih =>
    rw [List.foldl_cons, ih, apply_eq_addAll, List.flatMap_cons, addAll_append]

end Operation

end EndpointDocs.Glossary
