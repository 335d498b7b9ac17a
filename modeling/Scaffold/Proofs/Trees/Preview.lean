import Scaffold.Proofs.FileName
import Scaffold.Proofs.Text.Pieces
import Scaffold.Proofs.Trees

namespace Scaffold

/-!
# Trees and their drawings

A drawing has a line for each file and folder of a tree, from the root down. Where names are clean and have no line
breaks, nothing of a line is lost: the spaces in front of it say how deep it is, and the slash behind it that it is a
folder. And the lines of a tree say what it looks like: how deep they are tells where each folder ends.

* `Tree.outline` — a tree without contents and templates: names, kinds, nesting and order;
* `Tree.rows` — the lines of a drawing before they are written; `Tree.outline_eq_of_rows`, that they say all of the
  outline;
* `Tree.Row.text_inj` — a line says all of its row;
* `Tree.render_eq_iff`, `Tree.lines_render` — what a drawing says of a tree.
-/

namespace Tree

/-! ### Outlines -/

mutual

/-- The tree without what its drawing does not show. -/
def outline : Tree → Tree
  | .file name _ _ => .file name "" none
  | .folder name children _ => .folder name (outlineOf children) none

/-- The outlines of some trees. -/
def outlineOf : List Tree → List Tree
  | [] => []
  | t :: ts => outline t :: outlineOf ts

end

/-! ### Rows -/

/-- A line of a drawing: how deep it is, the name in it, and what the name is of. -/
structure Row where
  depth : Nat
  name : String
  isFolder : Bool

namespace Row

/-- A line as it is written. -/
def text (r : Row) : List Char :=
  List.replicate (2 * r.depth) ' ' ++ (r.name.toList ++ if r.isFolder then ['/'] else [])

/-- A row whose name is clean, and has no line break in it. -/
structure IsPlain (r : Row) : Prop where
  clean : FileName.IsClean r.name
  unbroken : '\n' ∉ r.name.toList

end Row

mutual

/-- The rows of a tree at a depth, from the root down. -/
def rows (depth : Nat) : Tree → List Row
  | .file name _ _ => [⟨depth, name, false⟩]
  | .folder name children _ => ⟨depth, name, true⟩ :: rowsOf (depth + 1) children

/-- The rows of some trees. -/
def rowsOf (depth : Nat) : List Tree → List Row
  | [] => []
  | t :: ts => rows depth t ++ rowsOf depth ts

end

mutual

/-- A drawing is its rows, one after the other. -/
theorem renderAt_eq (depth : Nat) : ∀ t : Tree,
    renderAt depth t = (rows depth t).flatMap fun r => r.text ++ ['\n']
  | .file name _ _ => by simp [renderAt, rows, renderLine, Row.text]
  | .folder name children _ => by
    rw [renderAt, rows, List.flatMap_cons, renderAll_eq (depth + 1) children]
    simp [renderLine, Row.text]

/-- Trees are drawn row by row. -/
theorem renderAll_eq (depth : Nat) : ∀ ts : List Tree,
    renderAll depth ts = (rowsOf depth ts).flatMap fun r => r.text ++ ['\n']
  | [] => rfl
  | t :: ts => by rw [renderAll, rowsOf, List.flatMap_append, renderAt_eq depth t, renderAll_eq depth ts]

end

mutual

/-- The rows have the names of the tree, in the same order. -/
theorem map_name_rows (depth : Nat) : ∀ t : Tree, (rows depth t).map Row.name = t.names
  | .file name _ _ => rfl
  | .folder name children _ => by rw [rows, names, List.map_cons, map_name_rowsOf (depth + 1) children]

/-- There is a row for each name. -/
theorem map_name_rowsOf (depth : Nat) : ∀ ts : List Tree, (rowsOf depth ts).map Row.name = namesOf ts
  | [] => rfl
  | t :: ts => by rw [rowsOf, namesOf, List.map_append, map_name_rows depth t, map_name_rowsOf depth ts]

end

mutual

/-- The rows that are not of folders are as many as the files. -/
theorem countP_rows (depth : Nat) : ∀ t : Tree, (rows depth t).countP (!·.isFolder) = t.countFiles
  | .file name _ _ => rfl
  | .folder name children _ => by
    rw [rows, countFiles, List.countP_cons, countP_rowsOf (depth + 1) children]
    rfl

/-- There is a row without a slash for each file. -/
theorem countP_rowsOf (depth : Nat) : ∀ ts : List Tree, (rowsOf depth ts).countP (!·.isFolder) = countFilesIn ts
  | [] => rfl
  | t :: ts => by rw [rowsOf, countFilesIn, List.countP_append, countP_rows depth t, countP_rowsOf depth ts]

end

mutual

/-- The rows show no more than the outline. -/
theorem rows_outline (depth : Nat) : ∀ t : Tree, rows depth t.outline = rows depth t
  | .file name _ _ => rfl
  | .folder name children _ => by rw [outline, rows, rows, rowsOf_outlineOf (depth + 1) children]

/-- The rows show no more than the outlines. -/
theorem rowsOf_outlineOf (depth : Nat) : ∀ ts : List Tree, rowsOf depth (outlineOf ts) = rowsOf depth ts
  | [] => rfl
  | t :: ts => by rw [outlineOf, rowsOf, rowsOf, rows_outline depth t, rowsOf_outlineOf depth ts]

end

/-! ### What rows say of a tree -/

/-- The first row, if there is one, is less deep. So it is not one of a tree at the depth. -/
def Row.Above (depth : Nat) (rs : List Row) : Prop := ∀ r ∈ rs.head?, r.depth < depth

/-- A tree starts with the row of its root. -/
theorem exists_rows_eq (depth : Nat) (t : Tree) :
    ∃ isFolder below, rows depth t = ⟨depth, t.name, isFolder⟩ :: below := by
  cases t with
  | file name content t? => exact ⟨false, [], rfl⟩
  | folder name children t? => exact ⟨true, rowsOf (depth + 1) children, rfl⟩

/-- The first row of a tree is not above the tree. -/
theorem not_above_rows (depth : Nat) (t : Tree) (rest : List Row) : ¬ Row.Above depth (rows depth t ++ rest) := by
  obtain ⟨isFolder, below, hrows⟩ := exists_rows_eq depth t
  rw [hrows]
  intro h
  exact Nat.lt_irrefl depth (h _ rfl)

/-- Behind trees at a depth come rows that are less deep than what is in them. -/
theorem above_rowsOf (depth : Nat) (ts : List Tree) {rest : List Row} (h : Row.Above depth rest) :
    Row.Above (depth + 1) (rowsOf depth ts ++ rest) := by
  cases ts with
  | nil => exact fun r hr => Nat.lt_succ_of_lt (h r hr)
  | cons t ts =>
    obtain ⟨isFolder, below, hrows⟩ := exists_rows_eq depth t
    rw [rowsOf, hrows]
    intro r hr
    cases hr
    exact Nat.lt_succ_self depth

mutual

/-- **Rows say where a tree ends.** Rows that start with those of two trees at a depth, each with rows behind them
    that are less deep than what is in the tree, start with trees that look the same. -/
theorem outline_eq_of_rows : ∀ (t u : Tree) {depth : Nat} {rest rest' : List Row},
    Row.Above (depth + 1) rest → Row.Above (depth + 1) rest' →
    rows depth t ++ rest = rows depth u ++ rest' → t.outline = u.outline ∧ rest = rest'
  -- The first rows agree in name and kind; a folder hands the rows below it on to its children.
  | .file name _ _, .file name' _ _, _, _, _, _, _, h => by
    obtain ⟨hrow, hrest⟩ := List.cons.inj h
    exact ⟨by rw [outline, outline, (Row.mk.inj hrow).2.1], hrest⟩
  | .file _ _ _, .folder _ _ _, _, _, _, _, _, h => by
    obtain ⟨hrow, -⟩ := List.cons.inj h
    exact absurd (Row.mk.inj hrow).2.2 Bool.false_ne_true
  | .folder _ _ _, .file _ _ _, _, _, _, _, _, h => by
    obtain ⟨hrow, -⟩ := List.cons.inj h
    exact absurd (Row.mk.inj hrow).2.2.symm Bool.false_ne_true
  | .folder name children _, .folder name' children' _, _, _, _, hrest, hrest', h => by
    obtain ⟨hrow, hbelow⟩ := List.cons.inj h
    obtain ⟨hsame, heq⟩ := outlineOf_eq_of_rows children children' hrest hrest' hbelow
    exact ⟨by rw [outline, outline, (Row.mk.inj hrow).2.1, hsame], heq⟩

/-- The rows tell the outlines, if what follows them is above. -/
theorem outlineOf_eq_of_rows : ∀ (ts us : List Tree) {depth : Nat} {rest rest' : List Row},
    Row.Above depth rest → Row.Above depth rest' →
    rowsOf depth ts ++ rest = rowsOf depth us ++ rest' → outlineOf ts = outlineOf us ∧ rest = rest'
  | [], [], _, _, _, _, _, h => ⟨rfl, h⟩
  | [], u :: us, depth, rest, rest', hrest, _, h => by
    have hrows : rest = rows depth u ++ (rowsOf depth us ++ rest') := by rwa [← List.append_assoc]
    exact absurd (hrows ▸ hrest) (not_above_rows depth u _)
  | t :: ts, [], depth, rest, rest', _, hrest', h => by
    have hrows : rest' = rows depth t ++ (rowsOf depth ts ++ rest) := by
      rw [← List.append_assoc]
      exact h.symm
    exact absurd (hrows ▸ hrest') (not_above_rows depth t _)
  | t :: ts, u :: us, depth, rest, rest', hrest, hrest', h => by
    rw [rowsOf, rowsOf, List.append_assoc, List.append_assoc] at h
    -- What comes behind the first tree is another one at the depth, or what comes behind them all.
    have habove := above_rowsOf depth ts hrest
    have habove' := above_rowsOf depth us hrest'
    obtain ⟨hfirst, hbehind⟩ := outline_eq_of_rows t u habove habove' h
    obtain ⟨hothers, heq⟩ := outlineOf_eq_of_rows ts us hrest hrest' hbehind
    exact ⟨by rw [outlineOf, outlineOf, hfirst, hothers], heq⟩

end

/-! ### What a line says of its row -/

namespace Row

variable {r r' : Row}

/-- A plain name has a character. -/
theorem IsPlain.toList_ne_nil (h : r.IsPlain) : r.name.toList ≠ [] := fun hnil =>
  h.clean.nonempty (String.toList_inj.1 hnil)

/-- A plain name has no slash. -/
theorem IsPlain.slash_notMem (h : r.IsPlain) : '/' ∉ r.name.toList := fun hmem =>
  h.clean.valid '/' hmem (by decide)

/-- The spaces in front of a line are those of its depth, since no name starts with a blank. -/
theorem IsPlain.takeWhile_text (h : r.IsPlain) :
    r.text.takeWhile (· == ' ') = List.replicate (2 * r.depth) ' ' := by
  -- A row starts with its indentation, and its name does not start with a blank.
  have hspaces : ∀ c ∈ List.replicate (2 * r.depth) ' ', (c == ' ') = true := fun c hc => by
    rw [List.eq_of_mem_replicate hc]
    rfl
  obtain ⟨c, name, hname⟩ := List.exists_cons_of_ne_nil h.toList_ne_nil
  have hc : (c == ' ') = false := by
    have hblank := h.clean.head_not_blank c (by rw [hname]; rfl)
    rw [beq_eq_false_iff_ne]
    rintro rfl
    exact absurd hblank (by decide)
  rw [text, List.takeWhile_append_of_pos hspaces, hname, List.cons_append, List.takeWhile_cons_of_neg (by simp [hc]),
    List.append_nil]

/-- A line ends with a slash if it is that of a folder, and with the end of the name else. -/
theorem IsPlain.getLast?_text (h : r.IsPlain) :
    r.text.getLast? = if r.isFolder then some '/' else r.name.toList.getLast? := by
  rw [text, List.getLast?_append]
  cases r.isFolder with
  | true => simp
  | false =>
    obtain ⟨c, hc⟩ := Option.ne_none_iff_exists'.1 (List.getLast?_eq_none_iff.not.2 h.toList_ne_nil)
    simp [hc]

/-- The slash at the end of a row tells whether it is that of a folder. -/
theorem IsPlain.getLast?_text_eq_slash_iff (h : r.IsPlain) :
    r.text.getLast? = some '/' ↔ r.isFolder = true := by
  rw [h.getLast?_text]
  cases r.isFolder with
  | true => simp
  | false =>
    have hlast : r.name.toList.getLast? ≠ some '/' := fun hlast => h.slash_notMem (List.mem_of_getLast? hlast)
    simp [hlast]

/-- **A line says all of its row.** -/
theorem text_inj (h : r.IsPlain) (h' : r'.IsPlain) (heq : r.text = r'.text) : r = r' := by
  have hspaces := h.takeWhile_text
  rw [heq, h'.takeWhile_text] at hspaces
  -- Depth and kind are read off the ends of the line, and the name is what is between them.
  have hdepth : r.depth = r'.depth := by
    have hlength := congrArg List.length hspaces
    rw [List.length_replicate, List.length_replicate] at hlength
    omega
  have hfolder : r.isFolder = r'.isFolder := by
    rw [Bool.eq_iff_iff, ← h.getLast?_text_eq_slash_iff, ← h'.getLast?_text_eq_slash_iff, heq]
  have hname : r.name = r'.name := by
    rw [text, text, hdepth, hfolder] at heq
    exact String.toList_inj.1 (List.append_cancel_right (List.append_cancel_left heq))
  cases r
  cases r'
  exact Row.mk.injEq .. ▸ ⟨hdepth, hname, hfolder⟩

/-- A row is one line. -/
theorem IsPlain.break_notMem_text (h : r.IsPlain) : '\n' ∉ r.text := by
  have hmark : '\n' ∉ if r.isFolder then ['/'] else [] := by
    split <;> decide
  simp only [text, List.mem_append, not_or]
  exact ⟨fun hmem => absurd (List.eq_of_mem_replicate hmem) (by decide), h.unbroken, hmark⟩

/-- No line ends with a carriage return, since no name ends with a blank. -/
theorem IsPlain.getLast?_text_ne_return (h : r.IsPlain) : r.text.getLast? ≠ some '\r' := by
  rw [h.getLast?_text]
  cases r.isFolder with
  | true => simp
  | false =>
    intro hlast
    exact absurd (h.clean.last_not_blank '\r' (by simpa using hlast)) (by decide)

/-- Plain rows can be told by their texts. -/
theorem map_text_inj {rs rs' : List Row} (h : ∀ r ∈ rs, r.IsPlain) (h' : ∀ r ∈ rs', r.IsPlain)
    (heq : rs.map text = rs'.map text) : rs = rs' := by
  induction rs generalizing rs' with
  | nil => exact (List.map_eq_nil_iff.1 heq.symm).symm
  | cons r rs ih =>
    cases rs' with
    | nil => cases heq
    | cons r' rs' =>
      rw [List.forall_mem_cons] at h h'
      obtain ⟨hfirst, hrest⟩ := List.cons.inj heq
      rw [text_inj h.1 h'.1 hfirst, ih h.2 h'.2 hrest]

end Row

/-! ### What a drawing says -/

/-- The names in the tree are clean, and have no line breaks in them. -/
def HasPlainNames (t : Tree) : Prop := ∀ n ∈ t.names, FileName.IsClean n ∧ '\n' ∉ n.toList

section Drawings

variable {t u : Tree}

/-- A tree with plain names has plain rows. -/
theorem HasPlainNames.isPlain (h : t.HasPlainNames) {depth : Nat} : ∀ r ∈ rows depth t, r.IsPlain := fun r hr => by
  have hname : r.name ∈ t.names := map_name_rows depth t ▸ List.mem_map_of_mem hr
  exact ⟨(h r.name hname).1, (h r.name hname).2⟩

/-- The lines of a drawing are its rows as they are written. -/
theorem lines_render (h : t.HasPlainNames) : Chars.lines t.render.toList = (rows 0 t).map Row.text := by
  have hrender : t.render.toList = ((rows 0 t).map Row.text).flatMap (· ++ ['\n']) := by
    rw [render, String.toList_ofList, renderAt_eq, List.flatMap_map]
  rw [hrender]
  refine Chars.lines_flatMap ?_ ?_
  · exact List.forall_mem_map.2 fun r hr => (h.isPlain r hr).break_notMem_text
  · exact List.forall_mem_map.2 fun r hr => (h.isPlain r hr).getLast?_text_ne_return

/-- **Drawings and outlines.** Trees with plain names are drawn the same if and only if they look the same. -/
theorem render_eq_iff (ht : t.HasPlainNames) (hu : u.HasPlainNames) :
    t.render = u.render ↔ t.outline = u.outline := by
  constructor
  · intro h
    have hlines := lines_render ht
    rw [h, lines_render hu] at hlines
    have hrows : rows 0 t = rows 0 u := Row.map_text_inj ht.isPlain hu.isPlain hlines.symm
    have hnil : Row.Above (0 + 1) [] := fun r hr => by cases hr
    exact (outline_eq_of_rows t u hnil hnil (congrArg (· ++ []) hrows)).1
  · intro h
    rw [render, render, renderAt_eq, renderAt_eq, ← rows_outline 0 t, h, rows_outline]

/-- The lines of a drawing without a slash at their ends are those of the files. -/
theorem countP_lines_render (h : t.HasPlainNames) :
    (Chars.lines t.render.toList).countP (fun line => line.getLast? ≠ some '/') = t.countFiles := by
  rw [lines_render h, List.countP_map, ← countP_rows 0 t]
  refine List.countP_congr fun r hr => ?_
  have hlast := (h.isPlain r hr).getLast?_text_eq_slash_iff
  cases hfolder : r.isFolder <;> simp [hlast, hfolder]

end Drawings

end Tree

end Scaffold
