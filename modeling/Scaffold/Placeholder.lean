import Scaffold.Text.Lines

/-!
# Placeholders

The places in a text that something else is put in. There are three forms: a block of code, an
expression, and the name of a token. The marker is read without regard to case.

* `splitAtBrace` finds the brace that ends the code of a placeholder; braces inside it are balanced.
* `Form.pieces` cuts a text into plain pieces and holes; joined again they give the text back.
-/

namespace Scaffold.Placeholder

open Chars

/-- The forms of placeholders. -/
inductive Form where
  | block | expression | name
  deriving DecidableEq, Repr

/-- A piece of a text: as it stands, or a hole with what is written in it. -/
inductive Piece where
  | plain (s : List Char)
  | hole (s : List Char)
  deriving DecidableEq, Repr

/-! ### Openers -/

/-- What follows the letters `mp` in lower case, if the text starts with them in any case. -/
def afterWord? : (word : List Char) → List Char → Option (List Char)
  | [], s => some s
  | _ :: _, [] => none
  | w :: word, c :: s =>
    if c = w || c = Char.ofNat (w.toNat - 32) && 'a' ≤ w && w ≤ 'z' then afterWord? word s else none

/-- What follows the opener of the form, if the text starts with it. -/
def Form.afterOpener? : Form → List Char → Option (List Char)
  | .block, s => afterWord? "\x7bmp.py|".toList s
  | .expression, s =>
    match afterWord? "\x7bmp.py".toList s with
    | some rest =>
      match rest.dropWhile isBlank with
      | ':' :: rest => some rest
      | _ => none
    | none => none
  | .name, s => afterWord? "\x7bmp:".toList s

/-- The text in front of the first opener and the text behind it. -/
def Form.findOpener? (form : Form) : List Char → Option (List Char × List Char)
  | [] => none
  | c :: s =>
    match form.afterOpener? (c :: s) with
    | some rest => some ([], rest)
    | none => (form.findOpener? s).map fun (before, rest) => (c :: before, rest)

/-! ### Closing braces -/

/-- The text in front of the brace that closes, and the text behind it; `depth` counts the braces that
    are open. -/
def splitAtBrace (depth : Nat) : List Char → Option (List Char × List Char)
  | [] => none
  | c :: s =>
    if c = '\x7d' && depth == 0 then some ([], s)
    else
      let depth := if c = '\x7b' then depth + 1 else if c = '\x7d' then depth - 1 else depth
      (splitAtBrace depth s).map fun (code, rest) => (c :: code, rest)

/-- The name in front of the first closing brace, which is not empty, and the text behind the
    brace. -/
def splitAtNameEnd (s : List Char) : Option (List Char × List Char) :=
  let name := s.takeWhile (· != '\x7d')
  match s.dropWhile (· != '\x7d') with
  | _ :: rest => if name.isEmpty then none else some (name, rest)
  | [] => none

/-- What stands in a placeholder, behind its opener, and what stands behind it. -/
def Form.close? : Form → List Char → Option (List Char × List Char)
  | .name, s => splitAtNameEnd s
  | _, s => splitAtBrace 0 s

/-! ### What is left is shorter -/

/-- What stands behind a word is shorter by the word. -/
theorem length_afterWord? {word s rest : List Char} (h : afterWord? word s = some rest) :
    rest.length + word.length = s.length := by
  induction word generalizing s with
  | nil => simp_all [afterWord?]
  -- The word is passed letter by letter, in either case.
  | cons w word ih =>
    cases s with
    | nil => simp [afterWord?] at h
    | cons c s =>
      simp only [afterWord?] at h
      split at h
      · simp [← ih h, Nat.add_assoc]
      · simp at h

/-- What stands behind an opener is shorter. -/
theorem length_afterOpener? {form : Form} {s rest : List Char}
    (h : form.afterOpener? s = some rest) : rest.length < s.length := by
  cases form with
  | block => have := length_afterWord? h; simp at this; omega
  | name => have := length_afterWord? h; simp at this; omega
  -- Behind the word there may be blanks, and then a colon.
  | expression =>
    simp only [Form.afterOpener?] at h
    split at h
    · rename_i r hr
      have h₁ := length_afterWord? hr
      split at h
      · rename_i r' hr'
        have h₂ := (List.dropWhile_sublist isBlank (l := r)).length_le
        rw [hr'] at h₂
        simp only [Option.some.injEq] at h
        subst h
        simp at h₁ h₂
        omega
      · simp at h
    · simp at h

/-- What stands behind the next opener is shorter. -/
theorem length_findOpener? {form : Form} {s before rest : List Char}
    (h : form.findOpener? s = some (before, rest)) : rest.length < s.length := by
  induction s generalizing before with
  | nil => simp [Form.findOpener?] at h
  -- Either the opener is here, or it comes later.
  | cons c s ih =>
    simp only [Form.findOpener?] at h
    split at h
    · rename_i r hr
      have := length_afterOpener? hr
      simp_all
    · simp only [Option.map_eq_some_iff] at h
      obtain ⟨⟨b, r⟩, hr, he⟩ := h
      obtain ⟨rfl, rfl⟩ := Prod.mk.inj he
      exact Nat.lt_succ_of_lt (ih hr)

/-- What stands behind a brace is shorter. -/
theorem length_splitAtBrace {depth : Nat} {s code rest : List Char}
    (h : splitAtBrace depth s = some (code, rest)) : rest.length < s.length := by
  induction s generalizing depth code with
  | nil => simp [splitAtBrace] at h
  | cons c s ih =>
    simp only [splitAtBrace] at h
    split at h
    · simp_all
    -- Behind another character the rest is the same.
    · simp only [Option.map_eq_some_iff] at h
      obtain ⟨⟨b, r⟩, hr, he⟩ := h
      obtain ⟨rfl, rfl⟩ := Prod.mk.inj he
      exact Nat.lt_succ_of_lt (ih hr)

/-- What stands behind a placeholder is shorter. -/
theorem length_close? {form : Form} {s code rest : List Char}
    (h : form.close? s = some (code, rest)) : rest.length < s.length := by
  cases form with
  | block => exact length_splitAtBrace h
  | expression => exact length_splitAtBrace h
  | name =>
    simp only [Form.close?, splitAtNameEnd] at h
    split at h
    -- The name ends at the first brace.
    · rename_i c r hr
      have h₂ := (List.dropWhile_sublist (· != '\x7d') (l := s)).length_le
      rw [hr] at h₂
      rw [List.length_cons] at h₂
      split at h
      · simp at h
      · simp only [Option.some.injEq, Prod.mk.injEq] at h
        rw [← h.2]
        omega
    · simp at h

/-! ### Pieces -/

/-- Cuts a text at its code placeholders. From an opener on that is never closed, the text stays as it
    is. -/
def codePieces (form : Form) (s : List Char) : List Piece :=
  match _hf : form.findOpener? s with
  | none => [.plain s]
  | some (before, body) =>
    match _hc : form.close? body with
    | none => [.plain s]
    | some (code, rest) => .plain before :: .hole code :: codePieces form rest
termination_by s.length
decreasing_by
  have := length_findOpener? _hf
  have := length_close? _hc
  omega

/-- Cuts a text at the names of tokens. An opener that is not closed, or has no name in it, is plain
    text. -/
def namePieces (plain : List Char) : List Char → List Piece
  | [] => [.plain plain.reverse]
  | c :: s =>
    match _ho : Form.name.afterOpener? (c :: s) with
    | none => namePieces (c :: plain) s
    | some body =>
      match _hc : splitAtNameEnd body with
      | none => namePieces (c :: plain) s
      | some (name, rest) => .plain plain.reverse :: .hole name :: namePieces [] rest
termination_by s => s.length
decreasing_by
  · simp
  · simp
  · have := length_afterOpener? _ho
    have := @length_close? .name _ _ _ _hc
    simp_all
    omega

/-- The pieces of a text for placeholders of one form. -/
def Form.pieces : Form → List Char → List Piece
  | .name, s => namePieces [] s
  | form, s => codePieces form s

/-! ### Texts without openers -/

/-- Every opener starts with a brace. -/
theorem afterOpener?_eq_none {form : Form} {c : Char} (hc : c ≠ '\x7b') (s : List Char) :
    form.afterOpener? (c :: s) = none := by
  have hword : ∀ word, afterWord? ('\x7b' :: word) (c :: s) = none := by
    -- All openers start with the same brace, which has no other case.
    intro word
    have hlower : ('\x7b' ≤ 'z') = False := by decide
    simp [afterWord?, hc, hlower]
  cases form with
  | block => exact hword _
  | name => exact hword _
  | expression =>
    have hpython : afterWord? "\x7bmp.py".toList (c :: s) = none := hword _
    simp only [Form.afterOpener?, hpython]

/-- Without a brace there is no opener. -/
theorem findOpener?_eq_none {form : Form} {s : List Char} (h : '\x7b' ∉ s) :
    form.findOpener? s = none := by
  induction s with
  | nil => rfl
  | cons c s ih =>
    rw [List.mem_cons, not_or] at h
    rw [Form.findOpener?, afterOpener?_eq_none (Ne.symm h.1)]
    simp [ih h.2]

/-- Without a brace, the text is plain. -/
theorem namePieces_of_notMem {s : List Char} (h : '\x7b' ∉ s) (plain : List Char) :
    namePieces plain s = [.plain (plain.reverse ++ s)] := by
  induction s generalizing plain with
  | nil => simp [namePieces]
  | cons c s ih =>
    rw [List.mem_cons, not_or] at h
    rw [namePieces]
    split
    · rw [ih h.2]
      simp
    · rename_i hopener
      rw [afterOpener?_eq_none (Ne.symm h.1)] at hopener
      cases hopener

/-- A text without braces is one plain piece. -/
theorem pieces_of_notMem {s : List Char} (h : '\x7b' ∉ s) (form : Form) :
    form.pieces s = [.plain s] := by
  -- Without an opener the text is one plain piece.
  have hcode : codePieces form s = [.plain s] := by
    rw [codePieces]
    split
    · rfl
    · rename_i hopener
      rw [findOpener?_eq_none h] at hopener
      cases hopener
  cases form with
  | block => exact hcode
  | expression => exact hcode
  | name => exact namePieces_of_notMem h []

end Scaffold.Placeholder
