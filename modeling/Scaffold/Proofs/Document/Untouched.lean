import Scaffold.Proofs.Document.BlockContents
import Scaffold.Proofs.Document.Leads

namespace Scaffold.Document

/-!
# Texts that normalization leaves alone

A text may be left alone wherever it stands, inside a block scalar or outside of one. This is known line by line: a
line may be quiet, or it may open a block scalar that the lines behind it lie in.

* `IsUntouched` — the lines of the text stay as they are, whatever block scalar is open in front of them;
* `isUntouched_of_lines`, `isUntouched_block` — quiet lines, and a block scalar;
* `IsUntouched.append_line` — such texts one behind the other;
* `opensBlock_of_mark` — a line that opens a block scalar;
* `normalize_of_isUntouched` — such a text without tabs is its own normal form.
-/

open Chars

/-- Normalization leaves the lines of the text as they are, whatever block scalar they are in. -/
def IsUntouched (text : List Char) : Prop :=
  ∀ block?, normalizeLines block? (splitOn '\n' text) = splitOn '\n' text

theorem normalize_of_isUntouched {text : List Char} (h : IsUntouched text) (htab : '\t' ∉ text) :
    normalize (.ofList text) = .ofList text := by
  rw [normalize, String.toList_ofList, normalizeChars, expandTabs_eq_self_iff.2 htab, h none, joinWith_splitOn]

/-! ### Lines one behind the other -/

theorem IsUntouched.append_line {s t : List Char} (hs : IsUntouched s) (ht : IsUntouched t) :
    IsUntouched (s ++ '\n' :: t) := by
  intro block?
  rw [splitOn_append_cons, normalizeLines_append, hs block?, ht]

/-- The line break at the end of a text does not matter. -/
theorem IsUntouched.of_append_line {s : List Char} (h : IsUntouched (s ++ ['\n'])) : IsUntouched s := by
  intro block?
  have hlines := h block?
  rw [splitOn_append_cons, normalizeLines_append] at hlines
  exact (List.append_inj hlines (length_normalizeLines block? (splitOn '\n' s))).1

/-- Lines whose values start with no placeholder. -/
theorem isUntouched_of_lines {text : List Char} (h : ∀ line ∈ splitOn '\n' text, isQuiet line = true) :
    IsUntouched text := by
  intro block?
  generalize splitOn '\n' text = lines at h ⊢
  induction lines generalizing block? with
  | nil => rfl
  | cons line lines ih =>
    obtain ⟨hline, hlines⟩ := List.forall_mem_cons.1 h
    rw [normalizeLines_cons, normalizeLine, quoteLine_of_isQuiet hline, ite_self, ih _ hlines]

theorem isUntouched_of_isQuiet {line : List Char} (hline : '\n' ∉ line) (h : isQuiet line = true) : IsUntouched line :=
  isUntouched_of_lines (by simpa [splitOn_of_notMem hline] using h)

/-! ### Block scalars -/

theorem normalizeLines_of_inside {parent : Nat} {lines : List (List Char)}
    (h : ∀ line ∈ lines, insideBlock parent line = true) : normalizeLines (some parent) lines = lines := by
  induction lines with
  | nil => rfl
  | cons line lines ih =>
    obtain ⟨hline, hlines⟩ := List.forall_mem_cons.1 h
    have hinside : (some parent).any (insideBlock · line) = true := hline
    rw [normalizeLines, if_pos hinside, ih hlines]

/-- A line that opens a block scalar, with the lines that lie in it. The last of them may also lie outside, where it
    must be quiet. -/
theorem isUntouched_block {text header last : List Char} {lines : List (List Char)}
    (htext : splitOn '\n' text = header :: (lines ++ [last])) (hopens : opensBlock header = true)
    (hlines : ∀ line ∈ lines, insideBlock (indentation header) line = true)
    (hlast : insideBlock (indentation header) last = true ∨ isQuiet last = true) : IsUntouched text := by
  intro block?
  obtain ⟨parent, hle, hparent⟩ := @blockAfter_opened block? header [] hopens nofun
  have hheader : normalizeLine block? header = header := by
    rw [normalizeLine, hopens, Bool.or_true, if_pos rfl]
  have hbehind : blockBehind block? header = some parent := hparent
  -- The line may be inside of a block scalar itself, which its lines are then inside of, too.
  have hinside : ∀ line ∈ lines, insideBlock parent line = true := fun line hline =>
    insideBlock_of_le hle (hlines line hline)
  have hend : normalizeLines (some parent) [last] = [last] := by
    rcases hlast with hlast | hlast
    · exact normalizeLines_of_inside (List.forall_mem_singleton.2 (insideBlock_of_le hle hlast))
    · rw [normalizeLines_cons, normalizeLine, quoteLine_of_isQuiet hlast, ite_self]
      rfl
  rw [htext, normalizeLines_cons, hheader, hbehind, normalizeLines_append, normalizeLines_of_inside hinside,
    blockAfter_of_inside hinside, hend]

/-- A line with the mark of a block scalar behind a colon or a dash and a blank. -/
theorem opensBlock_of_mark {front header : List Char} (hfront : ∀ c ∈ front.getLast?, c = ':' ∨ c = '-')
    (hne : front ≠ []) (hheader : behindIndicator header = true) :
    opensBlock (front ++ ' ' :: '|' :: header) = true := by
  -- The blank in front of the sign is trimmed off, and what remains ends with a colon or a dash.
  have hbefore : beforeIndicator (front ++ [' ']) = true := by
    have hspace : ∀ c ∈ [' '], isBlank c = true := List.forall_mem_singleton.2 (by decide)
    have htrim : trimEnd (front ++ [' ']) = front := by
      rw [trimEnd, dropEndWhile_append_of_all front hspace]
      refine dropEndWhile_of_last fun c hc => ?_
      rcases hfront c hc with rfl | rfl <;> decide
    obtain ⟨c, hc⟩ := Option.ne_none_iff_exists'.1 (mt List.getLast?_eq_none_iff.1 hne)
    have hmark := hfront c hc
    rw [beforeIndicator, htrim, hc, List.getLast?_concat]
    rcases hmark with rfl | rfl <;> simp [isBlank]
  -- The scan reaches the sign with the front of the line behind it, whatever it met on the way.
  have hmark (before s : List Char) : opensBlockFrom before (s ++ '|' :: header) = true ∨
      beforeIndicator (before.reverse ++ s) = false := by
    induction s generalizing before with
    | nil =>
      cases hbefore : beforeIndicator (before.reverse ++ []) with
      | false => exact .inr rfl
      | true =>
        rw [List.append_nil] at hbefore
        exact .inl (by simp [opensBlockFrom, hbefore, hheader])
    | cons c s ih =>
      have hstep := ih (c :: before)
      rw [List.reverse_cons, List.append_assoc] at hstep
      exact hstep.imp_left fun h => by rw [List.cons_append, opensBlockFrom, h, Bool.or_true]
  have hopens := hmark [] (front ++ [' '])
  rw [List.reverse_nil, List.nil_append, hbefore, List.append_assoc] at hopens
  exact hopens.resolve_right (by simp)

end Scaffold.Document
