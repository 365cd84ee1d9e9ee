import EndpointDocs.Proofs.Text.Trim
import EndpointDocs.Text.Utf8
import Mathlib.Data.List.Lex

/-!
Texts among the texts of code points. Each function on texts of code points gives on a text what the
function on texts gives, and a text of code points can be encoded exactly if it is a text.
-/
namespace EndpointDocs

namespace CodePoint

theorem le_refl (a : CodePoint) : a ≤ a :=
  Nat.le_refl a.number

theorem not_le {a b : CodePoint} : ¬ a ≤ b ↔ b < a :=
  Nat.not_le

theorem not_lt {a b : CodePoint} : ¬ a < b ↔ b ≤ a :=
  Nat.not_lt

/-- No character has the number of a half. -/
theorem number_injective : Function.Injective number := by
  intro a b same
  have char_ne (c : Char) (index : Fin 0x800) : c.toNat ≠ 0xD800 + index.val := by
    have scalar : c.toNat < 0xD800 ∨ 0xDFFF < c.toNat ∧ c.toNat < 0x110000 := c.valid
    omega
  cases a with
  | char c =>
    cases b with
    | char d => exact congrArg _ (Char.toNat_inj.1 same)
    | half index => exact absurd same (char_ne c index)
  | half index =>
    cases b with
    | char d => exact absurd same.symm (char_ne d index)
    | half other => exact congrArg _ (Fin.ext (Nat.add_left_cancel same))

/-- Code points in the order of their numbers. -/
@[reducible]
def linearOrder : LinearOrder CodePoint where
  le_refl := le_refl
  le_trans a b c := Nat.le_trans
  lt_iff_le_not_ge a b := Nat.lt_iff_le_and_not_ge
  le_antisymm a b le ge := number_injective (Nat.le_antisymm le ge)
  le_total a b := Nat.le_total a.number b.number
  toDecidableLE := inferInstance

end CodePoint

namespace Wide

section Order

variable {a b c : Wide}

theorem lt_trans (less : a < b) (less' : b < c) : a < c :=
  letI := CodePoint.linearOrder
  LT.lt.trans less less'

theorem lt_irrefl (a : Wide) : ¬ a < a :=
  letI := CodePoint.linearOrder
  fun less => LT.lt.ne less rfl

theorem lt_asymm (less : a < b) : ¬ b < a :=
  fun greater => lt_irrefl a (lt_trans less greater)

theorem lt_or_gt (different : a ≠ b) : a < b ∨ b < a :=
  letI := CodePoint.linearOrder
  lt_or_gt_of_ne different

end Order

@[simp]
theorem chars?_map_char (text : List Char) : chars? (text.map .char) = some text := by
  induction text with
  | nil => rfl
  | cons c text ih => simp [chars?, ih]

@[simp]
theorem chars?_ofString (text : String) : chars? (ofString text) = some text.toList :=
  chars?_map_char _

theorem eq_map_char_of_chars? {text : Wide} {chars : List Char} (plain : text.chars? = some chars) :
    text = chars.map .char := by
  induction text generalizing chars with
  | nil =>
    cases plain
    rfl
  | cons point text ih =>
    cases point with
    | half index => cases plain
    | char c =>
      obtain ⟨rest, restPlain, rfl⟩ := Option.map_eq_some_iff.1 plain
      rw [ih restPlain]
      rfl

theorem ofString_injective : Function.Injective ofString := by
  intro first second same
  have chars := congrArg chars? same
  rw [chars?_ofString, chars?_ofString] at chars
  exact String.toList_injective (Option.some.inj chars)

@[simp]
theorem ofString_inj {first second : String} : ofString first = ofString second ↔ first = second :=
  ofString_injective.eq_iff

@[simp]
theorem ofString_append (first second : String) :
    ofString (first ++ second) = ofString first ++ ofString second := by
  simp [ofString]

@[simp]
theorem ofString_eq_nil_iff {text : String} : ofString text = [] ↔ text = "" := by
  simp [ofString]

@[simp]
theorem char_mem_ofString {c : Char} {text : String} :
    CodePoint.char c ∈ ofString text ↔ c ∈ text.toList := by
  simp [ofString]

@[simp]
theorem after?_ofString (mark : String) (text : List Char) :
    (ofString mark).after? text = Text.after? mark.toList text := by
  simp [after?]

@[simp]
theorem starts_ofString (mark : String) (text : List Char) :
    (ofString mark).starts text = mark.toList.isPrefixOf text := by
  simp [starts]

theorem exists_of_no_half {text : Wide} (allChars : ∀ index, .half index ∉ text) :
    ∃ plain : String, text = plain := by
  induction text with
  | nil => exact ⟨"", rfl⟩
  | cons point text ih =>
    obtain ⟨plain, rfl⟩ := ih fun index listed => allChars index (List.mem_cons_of_mem _ listed)
    cases point with
    | half index => exact absurd List.mem_cons_self (allChars index)
    | char c => exact ⟨String.ofList (c :: plain.toList), by simp [ofString]⟩

@[simp]
theorem replaced_ofString (text : String) : (ofString text).replaced = text := by
  have chars : text.toList.map ((fun point : CodePoint => point.char?.getD '�') ∘ .char) =
      text.toList.map id :=
    List.map_congr_left fun _ _ => rfl
  rw [replaced, ofString, List.map_map, chars, List.map_id, String.ofList_toList]

theorem isTrimmed_ofString {text : String}
    (trimmed : Text.IsTrimmed CodePoint.isBlank (ofString text)) :
    Text.IsTrimmed Text.isBlank text.toList := by
  constructor
  · intro c first
    exact trimmed.start (.char c) (by simpa [ofString] using first)
  · intro c last
    exact trimmed.stop (.char c) (by simpa [ofString] using last)

end Wide

namespace Text.Utf8

/-- A text has no halves but those that are let through exactly if no fault is found. -/
theorem encodeFault?_eq_none_iff (passes : Fin 0x800 → Bool) (start : Nat) (text : Wide) :
    encodeFault? passes start text = none ↔ ∀ index, .half index ∈ text → passes index = true := by
  induction text generalizing start with
  | nil => simp [encodeFault?]
  | cons point text ih =>
    cases point with
    | char c => simp [encodeFault?, ih]
    | half index =>
      by_cases passed : passes index = true
      · simp [encodeFault?, passed, ih]
      · simp [encodeFault?, passed]

@[simp]
theorem encodeWide_map_char (text : List Char) :
    encodeWide (text.map .char) = .ok (encode text) := by
  have whole : encodeFault? (fun _ => false) 0 (text.map .char) = none := by
    simp [encodeFault?_eq_none_iff]
  have chars : (text.map CodePoint.char).filterMap CodePoint.char? = text := by
    simp [List.filterMap_map, Function.comp_def, CodePoint.char?]
  rw [encodeWide, whole, chars]

@[simp]
theorem encodeWide_ofString (text : String) :
    encodeWide (Wide.ofString text) = .ok (encode text.toList) :=
  encodeWide_map_char _

/-- What cannot be encoded has a half. -/
theorem encodeWide_error_iff {text : Wide} :
    (∃ fault, encodeWide text = .error fault) ↔ ∃ index, .half index ∈ text := by
  rw [encodeWide]
  cases found : encodeFault? (fun _ => false) 0 text with
  | some fault =>
    have some : encodeFault? (fun _ => false) 0 text ≠ none := by simp [found]
    rw [Ne, encodeFault?_eq_none_iff] at some
    simpa using some
  | none =>
    have none := (encodeFault?_eq_none_iff _ _ _).1 found
    simpa using none

/-- What can be encoded is a text. -/
theorem exists_of_encodeWide {text : Wide} {bytes : List UInt8}
    (encoded : encodeWide text = .ok bytes) :
    ∃ plain : String, text = Wide.ofString plain ∧ bytes = encode plain.toList := by
  obtain ⟨plain, rfl⟩ : ∃ plain : String, text = Wide.ofString plain := by
    refine Wide.exists_of_no_half fun index listed => ?_
    obtain ⟨fault, failed⟩ := encodeWide_error_iff.2 ⟨index, listed⟩
    cases encoded.symm.trans failed
  rw [encodeWide_ofString] at encoded
  exact ⟨plain, rfl, (Except.ok.inj encoded).symm⟩

end Text.Utf8

end EndpointDocs
