import EndpointDocs.Json.Lexeme

/-!
Cutting a text into lexemes loses nothing: put together in order they are the text, well-formed or
not. Each character goes to the end of what has been read. Lexemes are held back only while none is
finished behind them, so that none is overtaken.
-/
namespace EndpointDocs.Json

/-- The text of lexemes that are listed with the newest first. -/
def textOf (newestFirst : List Lexeme) : List Char :=
  newestFirst.reverse.flatMap Lexeme.text

@[simp] theorem textOf_nil : textOf [] = [] :=
  rfl

@[simp] theorem textOf_cons (lexeme : Lexeme) (older : List Lexeme) :
    textOf (lexeme :: older) = textOf older ++ lexeme.text := by
  simp [textOf]

@[simp] theorem textOf_append (newer older : List Lexeme) :
    textOf (newer ++ older) = textOf older ++ textOf newer := by
  simp [textOf]

/-- Lexemes of other kinds have the same text. -/
theorem textOf_map {change : Lexeme → Lexeme} (kept : ∀ lexeme, (change lexeme).text = lexeme.text)
    (lexemes : List Lexeme) : textOf (lexemes.map change) = textOf lexemes := by
  induction lexemes with
  | nil => rfl
  | cons lexeme rest ih => rw [List.map_cons, textOf_cons, textOf_cons, ih, kept]

/-- The lexemes that are finished as soon as they end. -/
def Mode.isImmediate : Mode → Bool
  | .constant | .number _ | .punctuation => true
  | _ => false

namespace Reading

/-- All that has been read: what is finished, what is held back, and the current lexeme. -/
def text (r : Reading) : List Char :=
  textOf r.finished ++ textOf r.held ++ r.current.reverse

/-- Nothing is held back behind a lexeme that will be finished at once. -/
def Ordered (r : Reading) : Prop :=
  r.mode.isImmediate = true → r.held = []

theorem text_extend (r : Reading) (mode : Mode) (c : Char) :
    (r.extend mode c).text = r.text ++ [c] := by
  simp [text, extend]

theorem text_flush (r : Reading) : r.flush.text = r.text := by
  simp [text, flush]

theorem text_flushNames (r : Reading) : r.flushNames.text = r.text := by
  have renamed : ∀ lexeme : Lexeme,
      (if lexeme.kind = .string then { lexeme with kind := .name } else lexeme : Lexeme).text =
        lexeme.text := by
    intro lexeme
    split <;> rfl
  simp [text, flushNames, textOf_map renamed]

theorem text_hold (r : Reading) (kind : Kind) : (r.hold kind).text = r.text := by
  simp [text, hold]

theorem text_finish {r : Reading} (free : r.held = []) (kind : Kind) :
    (r.finish kind).text = r.text := by
  simp [text, finish, free]

theorem text_queue (r : Reading) (kind : Kind) : (r.queue kind).text = r.text := by
  rw [queue]
  split
  · rename_i free
    exact text_finish (List.isEmpty_iff.1 free) kind
  · exact text_hold r kind

theorem mode_queue (r : Reading) (kind : Kind) : (r.queue kind).mode = .idle := by
  rw [queue]
  split <;> rfl

/-- What a reading becomes when it takes one more character: the character is the last one of the
text, and nothing is held back that could be overtaken. -/
structure Takes (r : Reading) (c : Char) (next : Reading) : Prop where
  text : next.text = r.text ++ [c]
  ordered : next.Ordered

theorem Takes.of_idle {r next : Reading} {c : Char} (text : next.text = r.text ++ [c])
    (idle : next.mode = .idle) : Takes r c next where
  text := text
  ordered := by
    intro immediate
    rw [idle] at immediate
    cases immediate

theorem takes_extend {r ready : Reading} (same : ready.text = r.text) {mode : Mode} (c : Char)
    (free : mode.isImmediate = true → ready.held = []) : Takes r c (ready.extend mode c) where
  text := by rw [text_extend, same]
  ordered := free

/-- Whatever begins with the next character, it is behind all that has been read. -/
theorem takes_begin {r ready : Reading} (same : ready.text = r.text) (c : Char) :
    Takes r c (ready.begin c) := by
  have flushed : ready.flush.text = r.text := (text_flush ready).trans same
  have renamed : ready.flushNames.text = r.text := (text_flushNames ready).trans same
  unfold begin
  split
  · exact takes_extend same c nofun
  split
  · exact takes_extend same c nofun
  split
  · exact takes_extend flushed c fun _ => rfl
  split
  · exact takes_extend flushed c fun _ => rfl
  split
  · exact takes_extend renamed c fun _ => rfl
  split
  · exact takes_extend flushed c fun _ => rfl
  split
  · exact takes_extend same c nofun
  · refine .of_idle ?_ rfl
    rw [text_finish rfl, text_extend, flushed]

/-- One step takes one character. The cases are the modes: in those that are finished at once
nothing is held back, and the others go through the queue. -/
theorem takes_step {r : Reading} (ordered : r.Ordered) (c : Char) : Takes r c (r.step c) := by
  cases mode : r.mode with
  | idle =>
    simp only [step, mode]
    exact takes_begin rfl c
  | string escape =>
    cases escape with
    | outside =>
      simp only [step, mode]
      split
      · exact takes_extend rfl c nofun
      split
      · exact .of_idle (by rw [text_hold, text_extend]) rfl
      · exact takes_extend rfl c nofun
    | opened =>
      simp only [step, mode]
      split <;> exact takes_extend rfl c nofun
    | digits left =>
      simp only [step, mode]
      split <;> exact takes_extend rfl c nofun
  | space =>
    simp only [step, mode]
    split
    · exact takes_extend rfl c nofun
    · exact takes_begin (text_queue r .space) c
  -- From here on lexemes are finished at once, so nothing may be held back before them.
  | constant =>
    have free : r.held = [] := ordered (by rw [mode]; rfl)
    simp only [step, mode]
    split
    · exact takes_extend rfl c fun _ => free
    · exact takes_begin (text_finish free .constant) c
  | number float =>
    have free : r.held = [] := ordered (by rw [mode]; rfl)
    simp only [step, mode]
    split
    · exact takes_extend rfl c fun _ => free
    split
    · exact takes_extend rfl c fun _ => free
    · exact takes_begin (text_finish free _) c
  | punctuation =>
    have free : r.held = [] := ordered (by rw [mode]; rfl)
    simp only [step, mode]
    split
    · exact takes_extend rfl c fun _ => free
    · exact takes_begin (text_finish free .punctuation) c
  | lineComment =>
    simp only [step, mode]
    split
    · exact takes_begin (text_queue r .lineComment) c
    · exact takes_extend rfl c nofun
  | blockComment armed =>
    simp only [step, mode]
    split
    · exact takes_extend rfl c nofun
    split
    · exact .of_idle (by rw [text_queue, text_extend]) (mode_queue ..)
    · exact takes_extend rfl c nofun
  | slash =>
    simp only [step, mode]
    split
    · exact takes_extend rfl c nofun
    split
    · exact takes_extend rfl c nofun
    -- A slash that begins no comment is an error, and what was held back comes out before it.
    · exact takes_begin ((text_finish rfl .error).trans (text_flush r)) c

/-- What a reading has read after more of the text. -/
theorem text_foldl_step {r : Reading} (ordered : r.Ordered) (more : List Char) :
    (more.foldl step r).text = r.text ++ more := by
  induction more generalizing r with
  | nil => simp
  | cons c rest ih =>
    have taken := takes_step ordered c
    rw [List.foldl_cons, ih taken.ordered, taken.text, List.append_assoc, List.singleton_append]

theorem flatMap_text_close (r : Reading) : r.close.flatMap Lexeme.text = r.text := by
  rw [close]
  split
  · rename_i nothing
    rw [← text_flush r, text, flush, List.isEmpty_iff.1 nothing]
    simp [textOf]
  · rw [← text_flush r, ← text_finish (r := r.flush) rfl (lastKind r.mode)]
    simp [text, textOf, finish, flush]

end Reading

/-- The lexemes of a text, put together, are the text. -/
theorem flatMap_text_lexemes (text : List Char) :
    (lexemes text).flatMap Lexeme.text = text := by
  have ordered : Reading.start.Ordered := by
    intro immediate
    cases immediate
  rw [lexemes, Reading.flatMap_text_close, Reading.text_foldl_step ordered]
  rfl

end EndpointDocs.Json
