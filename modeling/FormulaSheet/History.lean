/-!
Undo and redo over the text of a table. While a draft is open, edits replace the present text
without a step of their own; closing it records the text before the draft as one step.
-/

namespace FormulaSheet

/-- The texts behind and ahead of the present one, the nearest first. A limit of zero keeps all. -/
structure History where
  limit : Nat := 500
  past : List String := []
  present : String := ""
  future : List String := []
  anchor : Option String := none
  deriving DecidableEq, Repr

namespace History

def new (limit : Nat) (text : String) : History := { limit := limit, present := text }

def canUndo (h : History) : Bool := !h.past.isEmpty

def canRedo (h : History) : Bool := !h.future.isEmpty

def isDrafting (h : History) : Bool := h.anchor.isSome

/-- Forgets the oldest texts beyond the limit. -/
def capped (limit : Nat) (past : List String) : List String :=
  if limit = 0 then past else past.take limit

/-- Makes `text` the present one; the answer tells whether that was a change. -/
def set (h : History) (text : String) : Bool × History :=
  if text = h.present then (false, h)
  else
    let past := if h.isDrafting then h.past else capped h.limit (h.present :: h.past)
    (true, { h with past := past, present := text, future := [] })

/-- Makes a text out of the present one the present one. -/
def edit (h : History) (f : String → String) : Bool × History := h.set (f h.present)

/-- Opens a draft unless one is open. -/
def startDraft (h : History) : History :=
  match h.anchor with
  | some _ => h
  | none => { h with anchor := some h.present }

/-- Closes the draft; its text before is one step when it differs. -/
def commitDraft (h : History) : History :=
  match h.anchor with
  | none => h
  | some text =>
    if text = h.present then { h with anchor := none }
    else { h with past := capped h.limit (text :: h.past), future := [], anchor := none }

/-- Goes one step back and drops an open draft. -/
def undo (h : History) : Bool × History :=
  match h.past with
  | [] => (false, h)
  | text :: past =>
    (true, { h with
      past := past, present := text, future := h.present :: h.future, anchor := none })

/-- Goes one step ahead and drops an open draft. -/
def redo (h : History) : Bool × History :=
  match h.future with
  | [] => (false, h)
  | text :: future =>
    (true, { h with
      past := capped h.limit (h.present :: h.past), present := text, future := future,
      anchor := none })

/-- Forgets everything and starts from `text`. -/
def reset (h : History) (text : String) : History := new h.limit text

end History

end FormulaSheet
