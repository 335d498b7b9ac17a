import Scaffold.Proofs.Yaml.Plain
import Scaffold.Proofs.Yaml.Quoted
import Scaffold.Proofs.Yaml.Scanning

namespace Scaffold.Yaml

/-!
# Scalars on a line

The scanner reads a scalar that is written on one line, or between quotes, as one token. It may be a key with its colon
behind it, or a value at the end of its line or of the text.

* `Inline` — what such scalars are written as, and their tokens;
* `Inline.key` — a scalar as a key;
* `Inline.value_line`, `Inline.value_last` — a scalar as a value.
-/

/-- Between quotes, the text `s` is written as `written`. -/
structure IsQuotation (single : Bool) (s written : List Char) : Prop where
  starts : written.head? = some (quoteMark single)
  ends : written.getLast? = some (quoteMark single)
  reads (behind : List Char) (hbehind : behind.head? ≠ some '\x27') (i l k : Nat) :
    ∃ l' k', readQuoted single ⟨written ++ behind, i, l, k⟩
        = .ok (s, ⟨behind, i + Chars.byteLength written, l', k'⟩) ∧
      l ≤ l' ∧ (s.any isBreak = false → l' = l ∧ k < k')

/-- A text between single quotes. -/
theorem isQuotation_singleQuoted {n : Nat} (hn : 0 < n) {s : List Char} (hs : SingleFits s) :
    IsQuotation true s (singleQuoted n s) :=
  ⟨rfl, List.getLast?_concat, fun _ hbehind i l k => readQuoted_singleQuoted hn hs hbehind i l k⟩

/-- A text between double quotes. -/
theorem isQuotation_doubleQuoted (s : List Char) : IsQuotation false s (doubleQuoted s) :=
  ⟨rfl, List.getLast?_concat, fun behind _ i l k => readQuoted_doubleQuoted s behind i l k⟩

/-- On its line, the scalar `s` is written as `written`. -/
inductive Inline : ScalarStyle → (s written : List Char) → Prop where
  | plain {s : List Char} (hs : PlainFits s) : Inline .plain s s
  | quoted {single : Bool} {s written : List Char} (h : IsQuotation single s written) :
      Inline (if single then .singleQuoted else .doubleQuoted) s written

/-- A scalar on one line does not end with a line break. -/
theorem Inline.getLast? {style : ScalarStyle} {s written : List Char} (h : Inline style s written) :
    ∀ c ∈ written.getLast?, isBreak c = false := by
  cases h with
  | plain hs => exact fun c hc => hs.inline c (List.mem_of_getLast? hc)
  | @quoted single _ _ h =>
    rw [h.ends]
    rintro c ⟨⟩
    cases single <;> decide

/-! ### The start of a scalar -/

/-- A scalar without quotes starts a token. -/
theorem PlainFits.isTokenStart {x : Char} {w : List Char} (hs : PlainFits (x :: w)) : isTokenStart x = true := by
  have hx : x ∈ x :: w := List.mem_cons_self
  have hmark : x ≠ '\ufeff' := by
    rintro rfl
    exact absurd (hs.printable _ hx) (by decide)
  obtain ⟨hspace, hbreak, hhash⟩ := hs.head?_append [] x rfl
  simp [Yaml.isTokenStart, hspace, hbreak, hhash, hmark]

/-- A text without quotes is not taken for a document marker, whatever stands behind it. -/
theorem PlainFits.atMarker {s tail : List Char} (hs : PlainFits s) (htail : ∀ c ∈ tail.head?, c ≠ '-' ∧ c ≠ '.')
    {mark : Char} (hmark : mark = '-' ∨ mark = '.') (i l k : Nat) :
    (⟨s ++ tail, i, l, k⟩ : Cursor).atMarker mark = false := by
  rw [Bool.eq_false_iff]
  intro hmarker
  simp only [Cursor.atMarker, Bool.and_eq_true, beq_iff_eq] at hmarker
  obtain ⟨⟨-, htake⟩, -⟩ := hmarker
  have hne : mark ∉ tail.head? := fun h => by
    rcases hmark with rfl | rfl
    · exact (htail _ h).1 rfl
    · exact (htail _ h).2 rfl
  -- The text may be shorter than the mark; then what follows would have to go on with it.
  rcases s with _ | ⟨a, _ | ⟨b, _ | ⟨c, s⟩⟩⟩
  · exact hs.ne rfl
  · cases tail with
    | nil => simp at htake
    | cons d tail => simp_all
  · cases tail with
    | nil => simp at htake
    | cons d tail => simp_all
  · obtain ⟨rfl, rfl, rfl⟩ : a = mark ∧ b = mark ∧ c = mark := by simpa using htake
    exact hs.marker _ rfl hmark ⟨s, rfl⟩

/-- A scalar without quotes is no marker of a document, whatever follows it. -/
theorem PlainFits.atAnyMarker {s tail : List Char} (hs : PlainFits s) (htail : ∀ c ∈ tail.head?, c ≠ '-' ∧ c ≠ '.')
    (i l k : Nat) : (⟨s ++ tail, i, l, k⟩ : Cursor).atAnyMarker = false := by
  rw [Cursor.atAnyMarker, hs.atMarker htail (.inl rfl), hs.atMarker htail (.inr rfl), Bool.or_self]

namespace Scan

variable {stack : List Nat} {k : Nat}

/-- A plain scalar starts with a character that has no meaning, or with a sign that has no blank behind it. -/
theorem startsPlain_of_sign {s : Scan} {x : Char} {next : Option Char} (hflow : s.inFlow = false)
    (hstart : x ∉ "#,[]\x7b\x7d&*!|>\x27\"%@\x60".toList) (hedge : isEdge (some x) = false)
    (hsign : x = '?' ∨ x = ':' ∨ x = '-' → isEdge next = false) : s.startsPlain x next = true := by
  -- The three signs may start a plain scalar if something stands directly behind them.
  by_cases hx : x = '?' ∨ x = ':' ∨ x = '-'
  · have hnext := hsign hx
    have hspace : next.any isSpaceOrTab = false := by
      cases next with
      | none => rfl
      | some d =>
        rw [isEdge, Bool.or_eq_false_iff] at hnext
        exact hnext.1
    rcases hx with rfl | rfl | rfl <;> simp [startsPlain, hnext, hspace, hflow]
  · have hnone : "-?:,[]\x7b\x7d#&*!|>\x27\"%@\x60".toList.contains x = false := by
      rw [Bool.eq_false_iff, Ne, List.contains_iff_mem]
      intro hmem
      have hsplit : ∀ c ∈ "-?:,[]\x7b\x7d#&*!|>\x27\"%@\x60".toList,
          (c = '?' ∨ c = ':' ∨ c = '-') ∨ c ∈ "#,[]\x7b\x7d&*!|>\x27\"%@\x60".toList :=
        List.all_iff_forall_prop.1 (by decide)
      exact (hsplit x hmem).elim hx hstart
    rw [startsPlain, hnone, hedge]
    rfl

/-- In front of a text that may stand without quotes, a plain scalar is read. -/
theorem fetchHere_plain {tokens : List Token} {allowed : Bool} {x : Char} {w tail : List Char} (hs : PlainFits (x :: w))
    (htail : ∀ c ∈ tail.head?, c ≠ '-' ∧ c ≠ '.') (i l : Nat) :
    (block tokens stack none allowed ⟨x :: (w ++ tail), i, l, k⟩).fetchHere
      = (block tokens stack none allowed ⟨x :: (w ++ tail), i, l, k⟩).fetchPlain := by
  have hdash := hs.atMarker htail (.inl rfl) i l k
  have hdot := hs.atMarker htail (.inr rfl) i l k
  rw [List.cons_append] at hdash hdot
  -- Behind a sign there is no blank, in the scalar or after it.
  have hsign : x = '?' ∨ x = ':' ∨ x = '-' → isEdge (w ++ tail).head? = false := by
    intro hx
    have hedge := hs.sign x w rfl hx
    cases w with
    | nil => cases hedge
    | cons d w => exact hedge
  have hstart := hs.start x rfl
  have hmark (c : Char) (hc : c ∈ "#,[]\x7b\x7d&*!|>\x27\"%@\x60".toList) : x ≠ c := fun h => hstart (h ▸ hc)
  obtain ⟨hspace, hbreak, -⟩ := hs.head?_append [] x rfl
  have hnext : (x :: (w ++ tail))[1]? = (w ++ tail).head? := by
    rw [List.getElem?_cons_succ, List.head?_eq_getElem?]
  have hplain : startsPlain (block tokens stack none allowed ⟨x :: (w ++ tail), i, l, k⟩) x (w ++ tail).head? = true :=
    startsPlain_of_sign (inFlow_block _ _ _ _ _) hstart (by rw [isEdge, hspace, hbreak, Bool.or_self]) hsign
  -- A sign with a blank behind it would be an indicator.
  have hindicator (mark : Char) (hc : mark = '?' ∨ mark = ':' ∨ mark = '-') :
      (decide (x = mark) && isEdge (w ++ tail).head?) = false := by
    rw [Bool.and_eq_false_imp, decide_eq_true_eq]
    rintro rfl
    exact hsign hc
  -- No test for another token succeeds at this character.
  simp only [fetchHere, cursor_block, Cursor.peek, Cursor.peekAt, List.head?_cons, hnext, inFlow_block, hdash, hdot,
    hplain, hindicator '?' (.inl rfl), hindicator ':' (.inr (.inl rfl)), hindicator '-' (.inr (.inr rfl)),
    hmark '%' (by decide), hmark '[' (by decide), hmark ']' (by decide), hmark '\x7b' (by decide),
    hmark '\x7d' (by decide), hmark ',' (by decide), hmark '*' (by decide), hmark '&' (by decide),
    hmark '!' (by decide), hmark '|' (by decide), hmark '>' (by decide), hmark '\x27' (by decide),
    hmark '"' (by decide), decide_false, Bool.false_or, Bool.and_false, Bool.false_and, Bool.false_eq_true, if_false,
    if_true]

/-- In front of a quote, a quoted scalar is read. -/
theorem fetchHere_quoted {tokens : List Token} {allowed : Bool} (single : Bool) (rest : List Char) (i l : Nat) :
    (block tokens stack none allowed ⟨quoteMark single :: rest, i, l, k⟩).fetchHere
      = (block tokens stack none allowed ⟨quoteMark single :: rest, i, l, k⟩).fetchQuoted single := by
  cases single <;> simp [fetchHere, Cursor.peek, Cursor.atMarker, quoteMark]

/-- A quote starts a token. -/
theorem isTokenStart_quoteMark (single : Bool) : isTokenStart (quoteMark single) = true := by
  cases single <;> decide

end Scan

/-- What is less is not greater. -/
theorem all_le_of_all_lt {o? : Option Nat} {k : Nat} (h : o?.all (· < k) = true) : o?.all (· ≤ k) = true := by
  cases o? with
  | none => rfl
  | some o => exact decide_eq_true (Nat.le_of_lt (by simpa using h))

open Scan in
/-- A quoted scalar to the right of what is around. -/
theorem IsQuotation.value {single : Bool} {s written : List Char} (h : IsQuotation single s written) {stack : List Nat}
    {allowed : Bool} {k : Nat} {kinds : List TokenKind} (hk : stack.head?.all (· < k) = true) {behind : List Char}
    (hbehind : behind.head? ≠ some '\x27') (hread : ReadsBehind stack behind kinds) :
    ReadsAt stack allowed (written ++ behind) k
      (.scalar (.ofList s) (if single then .singleQuoted else .doubleQuoted) :: kinds) := by
  obtain ⟨w, rfl⟩ := List.head?_eq_some_iff.1 h.starts
  have hlength : behind.length < (quoteMark single :: (w ++ behind)).length := by
    simp only [List.length_cons, List.length_append]
    omega
  rw [List.cons_append]
  refine ReadsAt.token (isTokenStart_quoteMark single) (all_le_of_all_lt hk) nofun hlength (fun tokens i l => ?_) hread
  obtain ⟨l', k', hquotedRead, hl, -⟩ := h.reads behind hbehind i l k
  rw [List.cons_append] at hquotedRead
  -- A quoted scalar that may be a key is noted as one, and given up at the end of its line.
  refine ⟨pendingKey? tokens stack allowed ⟨quoteMark single :: (w ++ behind), i, l, k⟩, false,
    i + Chars.byteLength (quoteMark single :: w), l', k', l', ?_, ?_⟩
  · exact fun key hkey => ⟨(isLoose_pendingKey? hk key hkey).1, Nat.le_trans (isLoose_pendingKey? hk key hkey).2 hl⟩
  · rw [fetchHere_quoted, fetchQuoted_block hquotedRead]

section Rules

open Scan

variable {style : ScalarStyle} {s written : List Char} (h : Inline style s written) {stack : List Nat} {k : Nat}
  {kinds : List TokenKind}

include h

/-- A scalar with a colon behind it is a key, if it is on one line and not too long. -/
theorem Inline.key (hsize : Chars.byteLength written ≤ 1024) (hs : s.any isBreak = false)
    (hk : stack.head?.all (· ≤ k) = true) {y : Char} (hy : isEdge (some y) = true) {behind : List Char}
    (hread : ∀ k', k < k' → ReadsAt (opened stack k) false (y :: behind) k' kinds) :
    ReadsAt stack true (written ++ ':' :: y :: behind) k
      (openedKinds stack k .blockMappingStart ++ .key :: .scalar (.ofList s) style :: .value :: kinds) := by
  -- Plain and quoted scalars are read by readers of their own; both end in front of the colon.
  cases h with
  | plain hplain =>
    obtain ⟨x, w, rfl⟩ := List.exists_cons_of_ne_nil hplain.ne
    have hlength : behind.length + 2 < (x :: (w ++ ':' :: y :: behind)).length := by
      simp only [List.length_cons, List.length_append]
      omega
    rw [List.cons_append]
    refine ReadsAt.key hplain.isTokenStart hk nofun hy hlength (fun tokens i l => ?_) hread
    have hplainRead := hplain.readPlain_key stack.head? i l k hk hy behind (hplain.atAnyMarker (by simp) i l k)
    refine ⟨i + Chars.byteLength (x :: w), k + (x :: w).length, Nat.add_le_add_left hsize i, by simp, ?_⟩
    rw [List.cons_append] at hplainRead
    rw [fetchHere_plain hplain (by simp), fetchPlain_block hplainRead]
    rfl
  | @quoted single s written hquoted =>
    obtain ⟨w, rfl⟩ := List.head?_eq_some_iff.1 hquoted.starts
    have hlength : behind.length + 2 < (quoteMark single :: (w ++ ':' :: y :: behind)).length := by
      simp only [List.length_cons, List.length_append]
      omega
    rw [List.cons_append]
    refine ReadsAt.key (isTokenStart_quoteMark single) hk nofun hy hlength (fun tokens i l => ?_) hread
    obtain ⟨l', k', hquotedRead, -, hline⟩ := hquoted.reads (':' :: y :: behind) (by simp) i l k
    -- A key without breaks ends on its line.
    obtain ⟨rfl, hk'⟩ := hline hs
    refine ⟨i + Chars.byteLength (quoteMark single :: w), k', Nat.add_le_add_left hsize i, hk', ?_⟩
    rw [List.cons_append] at hquotedRead
    rw [fetchHere_quoted, fetchQuoted_block hquotedRead]
    rfl

/-- A scalar at the end of its line, above a line that is not indented by more than what is around. -/
theorem Inline.value_line {allowed : Bool} (hk : stack.head?.all (· < k) = true) {m : Nat}
    (hm : stack.head?.any (m ≤ ·) = true) {x : Char} {rest : List Char} (hx : isTokenStart x = true)
    (hread : ReadsAt stack true (x :: rest) m kinds) :
    ReadsAt stack allowed (written ++ '\n' :: (List.replicate m ' ' ++ x :: rest)) k
      (.scalar (.ofList s) style :: kinds) := by
  have hle := all_le_of_all_lt hk
  -- Behind a plain scalar, the reader looks at the next line before it ends; a quoted one has ended already.
  cases h with
  | plain hplain =>
    obtain ⟨c, w, rfl⟩ := List.exists_cons_of_ne_nil hplain.ne
    have hgap : ∀ d ∈ (x :: rest).head?, isSpaceOrTab d = false ∧ isBreak d = false := by
      rintro d ⟨⟩
      simp only [isTokenStart, Bool.not_eq_true', Bool.or_eq_false_iff] at hx
      exact hx.1.1
    -- The line break is passed with the scalar, and the next line starts where the indentation ends.
    have hlength : (x :: rest).length < (c :: (w ++ '\n' :: (List.replicate m ' ' ++ x :: rest))).length := by
      simp only [List.length_cons, List.length_append, List.length_replicate]
      omega
    rw [List.cons_append]
    refine ReadsAt.tokenLine hplain.isTokenStart hle (by simp) hlength (fun tokens i l => ?_) hread
    have hplainRead := hplain.readPlain_line stack.head? i l k hle hm hgap (hplain.atAnyMarker (by simp) i l k)
    refine ⟨pendingKey? tokens stack allowed ⟨c :: (w ++ '\n' :: (List.replicate m ' ' ++ x :: rest)), i, l, k⟩,
      i + Chars.byteLength (c :: w) + 1 + m, l + 1, l, isLoose_pendingKey? hk, Nat.lt_succ_self l, ?_⟩
    rw [List.cons_append] at hplainRead
    rw [fetchHere_plain hplain (by simp), fetchPlain_block hplainRead]
  | quoted hquoted => exact hquoted.value hk (by simp) (ReadsBehind.line m hx hread)

/-- A scalar at the end of the text. -/
theorem Inline.value_last {allowed : Bool} (hk : stack.head?.all (· < k) = true) :
    ReadsAt stack allowed written k
      (.scalar (.ofList s) style :: (List.replicate stack.length .blockEnd ++ [.streamEnd])) := by
  have hstop := ReadsBehind.stop stack
  -- At the end of the text all open collections are closed.
  cases h with
  | plain hplain =>
    obtain ⟨c, w, rfl⟩ := List.exists_cons_of_ne_nil hplain.ne
    refine ReadsAt.token hplain.isTokenStart (all_le_of_all_lt hk) nofun (by simp) (fun tokens i l => ?_) hstop
    have hmarker := @PlainFits.atAnyMarker (c :: w) [] hplain (by simp) i l k
    rw [List.append_nil] at hmarker
    have hplainRead := hplain.readPlain_last stack.head? i l k (all_le_of_all_lt hk) hmarker
    have hhere : (block tokens stack none allowed ⟨c :: (w ++ []), i, l, k⟩).fetchHere
        = (block tokens stack none allowed ⟨c :: (w ++ []), i, l, k⟩).fetchPlain :=
      fetchHere_plain hplain (by simp) i l
    rw [List.append_nil] at hhere
    refine ⟨pendingKey? tokens stack allowed ⟨c :: w, i, l, k⟩, false, i + Chars.byteLength (c :: w), l,
      k + (c :: w).length, l, isLoose_pendingKey? hk, ?_⟩
    rw [hhere, fetchPlain_block hplainRead]
  | quoted hquoted =>
    have hvalue : ReadsAt stack allowed (written ++ []) k _ := hquoted.value hk nofun hstop
    rwa [List.append_nil] at hvalue

end Rules

end Scaffold.Yaml
