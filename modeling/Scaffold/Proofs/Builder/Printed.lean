import Scaffold.Builder
import Scaffold.Proofs.Document.Normal
import Scaffold.Proofs.Yaml.WordList

namespace Scaffold

/-!
# Printed lists

Code that has no value gives the items that it printed. What it printed is stripped of the blanks around it before
it is read, and the blanks in front of the first line are its indentation: a list whose lines are all indented
alike loses its shape, and all but its first line become part of the first name.

* `Document.parse_lines` — a printed list is the list of its names, with its last line break or without it;
* `Document.parse_shiftedLines` — with its first line moved to the left it is a list of one text;
* `Builder.readAsPrinted_iff` — an output is read as it was printed if the blanks around it do not matter;
* `Builder.scriptItems_printed` — for printed lists they matter if and only if their lines are indented;
* `Builder.scriptItems_merges` — two files that become one.
-/

open Yaml (IsWord isWordChar listLines dashedLines dashedWords)
open Document (Item)

/-! ### Blanks at the ends -/

namespace Chars

/-- A blank behind the last character is trimmed. -/
theorem trimEnd_concat {s : List Char} {c d : Char} (hlast : s.getLast? = some c) (hc : isBlank c = false)
    (hd : isBlank d = true) : trimEnd (s ++ [d]) = s := by
  obtain ⟨front, rfl⟩ := List.getLast?_eq_some_iff.1 hlast
  simp [trimEnd, dropEndWhile, hd, hc]

/-- Blanks in front of the first character are trimmed. -/
theorem trimStart_blanks (n : Nat) {s : List Char} (hs : ∀ c ∈ s.head?, isBlank c = false) :
    trimStart (List.replicate n ' ' ++ s) = s := by
  have hspace : isBlank ' ' = true := by decide
  rw [trimStart, List.dropWhile_append_of_pos (by simp [hspace])]
  cases s with
  | nil => rfl
  | cons c s => simp [hs c rfl]

end Chars

namespace Yaml

/-- The lines of a list end with the last character of a word. -/
theorem getLast?_dashedLines (n : Nat) {words : List (List Char)} (hwords : ∀ w ∈ words, IsWord w) {w : List Char}
    (hw : IsWord w) : ∃ c, (w ++ dashedLines n words).getLast? = some c ∧ isWordChar c = true := by
  -- The induction is on the names; the text ends with the last of them.
  induction words generalizing w with
  | nil =>
    obtain ⟨c, hc⟩ := Option.isSome_iff_exists.1 (List.getLast?_isSome.2 hw.ne_nil)
    exact ⟨c, by simpa [dashedLines] using hc, hw.2 c (List.mem_of_getLast? hc)⟩
  | cons w' words ih =>
    obtain ⟨c, hc, hword⟩ := ih (fun v hv => hwords v (List.mem_cons_of_mem _ hv)) (hwords w' List.mem_cons_self)
    refine ⟨c, ?_, hword⟩
    have hlines : w ++ dashedLines n (w' :: words)
        = (w ++ '\n' :: (List.replicate n ' ' ++ ['-', ' '])) ++ (w' ++ dashedLines n words) := by
      simp [dashedLines]
    rw [hlines, List.getLast?_append, hc, Option.some_or]

/-- Without the blanks around it, a list starts with its first dash and ends with its last word. -/
theorem trim_listLines (n : Nat) {words : List (List Char)} (hwords : ∀ w ∈ words, IsWord w) {w : List Char}
    (hw : IsWord w) :
    Chars.trim (listLines n (w :: words)) = '-' :: ' ' :: (w ++ dashedLines n words) := by
  have hlines : listLines n (w :: words)
      = List.replicate n ' ' ++ (('-' :: ' ' :: (w ++ dashedLines n words)) ++ ['\n']) := by
    rw [listLines_cons]
    simp
  obtain ⟨c, hc, hword⟩ := getLast?_dashedLines n hwords hw
  -- The last character is one of a name, so only the line break behind it is cut off.
  have hlast : ('-' :: ' ' :: (w ++ dashedLines n words)).getLast? = some c := by
    show (['-', ' '] ++ (w ++ dashedLines n words)).getLast? = some c
    rw [List.getLast?_append, hc, Option.some_or]
  rw [Chars.trim, hlines, Chars.trimStart_blanks n (by simp; decide),
    Chars.trimEnd_concat hlast (isBlank_of_isWordChar hword) (by decide)]

/-- The words of one item, as they are put together. -/
theorem joinWith_eq_dashedWords (w : List Char) (words : List (List Char)) :
    Chars.joinWith [' ', '-', ' '] (w :: words) = w ++ dashedWords words := by
  induction words generalizing w with
  | nil => simp [Chars.joinWith, dashedWords]
  | cons w' words ih =>
    rw [Chars.joinWith, ih]
    · simp [dashedWords]
    · simp

end Yaml

/-! ### What is read of a printed list -/

/-- Names that need no quotes: words that stand for themselves. -/
def IsSimpleName (name : String) : Prop :=
  IsWord name.toList ∧ Yaml.Scalar.isNullWord name = false ∧ Yaml.Scalar.boolWord? name = none

/-- Whether a name is simple can be computed. -/
instance (name : String) : Decidable (IsSimpleName name) := inferInstanceAs (Decidable (_ ∧ _ ∧ _))

/-- A list as code prints it: each name on a line, behind a dash, all lines indented by the same number of blanks. -/
def printedList (indent : Nat) (names : List String) : String :=
  .ofList (listLines indent (names.map String.toList))

/-- The items of files without a content. -/
def fileItems (names : List String) : List Item := names.map fun name => .implicitFile (.string name)

/-- A simple name is read as a string. -/
theorem IsSimpleName.resolve {name : String} (h : IsSimpleName name) :
    Yaml.Scalar.resolve name = .value (.string name) := by
  obtain ⟨hword, hnull, hbool⟩ := h
  obtain ⟨c, rest, hname, hletter, -⟩ := hword.exists_cons
  exact Yaml.Scalar.resolve_of_letter hletter hname hnull hbool

/-- Simple names are words. -/
theorem isWord_of_mem_map {names : List String} (hnames : ∀ name ∈ names, IsSimpleName name) :
    ∀ w ∈ names.map String.toList, IsWord w := by
  intro w hw
  obtain ⟨name, hmem, rfl⟩ := List.mem_map.1 hw
  exact (hnames name hmem).1

/-- One piece is joined without a separator. -/
theorem Text.joinWith_singleton (sep piece : String) : Text.joinWith sep [piece] = piece :=
  String.ofList_toList

/-- Simple names with dashes between them are a text and nothing else. -/
theorem resolve_joinWith {name : String} (hname : IsSimpleName name) (names : List String) :
    Yaml.Scalar.resolve (Text.joinWith " - " (name :: names))
      = .value (.string (Text.joinWith " - " (name :: names))) := by
  cases names with
  | nil =>
    rw [Text.joinWith_singleton]
    exact hname.resolve
  | cons name' names =>
    -- The joined text starts with the letter that its first name starts with.
    obtain ⟨c, rest, hc, hletter, -⟩ := hname.1.exists_cons
    have htext : (Text.joinWith " - " (name :: name' :: names)).toList
        = c :: (rest ++ dashedWords ((name' :: names).map String.toList)) := by
      rw [Text.joinWith, List.map_cons, String.toList_ofList]
      show Chars.joinWith [' ', '-', ' '] (name.toList :: (name' :: names).map String.toList) = _
      rw [Yaml.joinWith_eq_dashedWords, hc, List.cons_append]
    have hspace : ' ' ∈ (Text.joinWith " - " (name :: name' :: names)).toList := by
      rw [htext]
      simp [dashedWords]
    -- None of the words for null and the truth values has a blank in it.
    have hword (t : String) (ht : ' ' ∉ t.toList) : Text.joinWith " - " (name :: name' :: names) ≠ t := by
      rintro rfl
      exact ht hspace
    refine Yaml.Scalar.resolve_of_letter hletter htext ?_ ?_
    · simp [Yaml.Scalar.isNullWord, hword "null" (by decide), hword "Null" (by decide), hword "NULL" (by decide),
        hword "~" (by decide)]
    · simp [Yaml.Scalar.boolWord?, hword "true" (by decide), hword "True" (by decide), hword "TRUE" (by decide),
        hword "false" (by decide), hword "False" (by decide), hword "FALSE" (by decide)]

namespace Document

/-- Lines of words, with dashes between them, are read as they are. -/
theorem parse_of_lineChars {text : String} (hchars : ∀ c ∈ text.toList, Yaml.isLineChar c = true)
    (hdash : '-' ∈ text.toList) {items : List Yaml.FlatItem} {l : Nat}
    (htokens : Yaml.TokenStream.ofText text.toList = ⟨Yaml.listTokens items l, none⟩)
    (hitems : ∀ x ∈ items, Yaml.Scalar.resolve x.text = .value (.string x.text)) :
    parse text = .ok (.sequence (items.map fun x => .string x.text)) := by
  -- Nothing in such a text is changed before it is read.
  have hnormal : normalize text = text := by
    have hmarks : ['\t', '\x7b', '|', '>'].all (!Yaml.isLineChar ·) = true := by decide
    refine normalize_eq_self fun c hc hmem => ?_
    simpa [hchars c hmem] using List.all_eq_true.1 hmarks c hc
  have hblank : Text.allBlank text = false := by
    rw [Text.allBlank, Chars.allBlank, List.all_eq_false]
    exact ⟨'-', hdash, by decide⟩
  rw [parse]
  simp only [hnormal, hblank, Bool.false_eq_true, if_false, Yaml.parse_of_tokens htokens hitems]

/-- Texts in a list are items that are files. -/
theorem items?_texts (texts : List String) :
    items? (.sequence (texts.map .string)) = some (fileItems texts) := by
  have hvalues : Item.ofValues (texts.map .string) = fileItems texts := by
    induction texts with
    | nil => rfl
    | cons text texts ih =>
      rw [List.map_cons, Item.ofValues, ih]
      rfl
  rw [items?, itemValues?, Option.map_some, hvalues]

section Names

variable {name : String} (hname : IsSimpleName name) {names : List String}
  (hnames : ∀ name ∈ names, IsSimpleName name) (indent : Nat)

include hname hnames

/-- A printed list is a list of its names, with the line break at its end or without it. -/
theorem parse_lines {ending : List Char} (hending : ending = [] ∨ ending = ['\n']) :
    parse (.ofList (List.replicate indent ' ' ++ '-' :: ' ' ::
        (name.toList ++ (dashedLines indent (names.map String.toList) ++ ending))))
      = .ok (.sequence ((name :: names).map .string)) := by
  -- Names are single words, and stay texts when they are resolved.
  have hwords := isWord_of_mem_map hnames
  have htexts : (Yaml.wordItems 0 (name.toList :: names.map String.toList)).map (·.text) = name :: names := by
    rw [Yaml.map_text_wordItems, List.map_cons, List.map_map]
    simp
  have hitems : ∀ x ∈ Yaml.wordItems 0 (name.toList :: names.map String.toList),
      Yaml.Scalar.resolve x.text = .value (.string x.text) := by
    intro x hx
    have hmem : x.text ∈ name :: names := htexts ▸ List.mem_map_of_mem hx
    rcases List.mem_cons.1 hmem with heq | hmem
    · exact heq ▸ hname.resolve
    · exact (hnames _ hmem).resolve
  -- The text is cut into the tokens of a list.
  have htokens : Yaml.TokenStream.ofText (String.ofList (List.replicate indent ' ' ++ '-' :: ' ' ::
        (name.toList ++ (dashedLines indent (names.map String.toList) ++ ending)))).toList
      = ⟨Yaml.listTokens (Yaml.wordItems 0 (name.toList :: names.map String.toList)) (names.length + 1), none⟩ := by
    rw [String.toList_ofList, Yaml.TokenStream.ofText_lines indent hwords hname.1 hending, List.length_map]
  have hvalues : (Yaml.wordItems 0 (name.toList :: names.map String.toList)).map (fun x => Yaml.Value.string x.text)
      = (name :: names).map .string := by
    rw [← htexts, List.map_map]
    rfl
  rw [← hvalues]
  refine parse_of_lineChars (fun c hc => ?_) (by simp) htokens hitems
  rw [String.toList_ofList, List.mem_append, ← List.append_assoc, ← List.cons_append, ← List.cons_append,
    List.mem_append, List.mem_replicate] at hc
  rcases hc with ⟨-, rfl⟩ | hc | hc
  · decide
  · exact Yaml.isLineChar_of_mem_fromDash hwords hname.1 hc
  · rcases hending with rfl | rfl
    · cases hc
    · obtain rfl : c = '\n' := by simpa using hc
      decide

/-- A list whose lines are indented, all but the first, is a list of one text. -/
theorem parse_shiftedLines (hindent : 0 < indent) :
    parse (.ofList ('-' :: ' ' :: (name.toList ++ dashedLines indent (names.map String.toList))))
      = .ok (.sequence [.string (Text.joinWith " - " (name :: names))]) := by
  have hwords := isWord_of_mem_map hnames
  -- With the first line moved to the margin, the other lines belong to its name.
  have htext : String.ofList (name.toList ++ dashedWords (names.map String.toList))
      = Text.joinWith " - " (name :: names) :=
    congrArg String.ofList (Yaml.joinWith_eq_dashedWords _ _).symm
  have htokens : Yaml.TokenStream.ofText
        (String.ofList ('-' :: ' ' :: (name.toList ++ dashedLines indent (names.map String.toList)))).toList
      = ⟨Yaml.listTokens [⟨.ofList (name.toList ++ dashedWords (names.map String.toList)), 0, names.length⟩]
          (names.length + 1), none⟩ := by
    rw [String.toList_ofList, Yaml.TokenStream.ofText_dashedLines hindent hwords hname.1, List.length_map]
  rw [← htext]
  refine parse_of_lineChars ?_ (by simp) htokens ?_
  · rw [String.toList_ofList]
    exact fun c hc => Yaml.isLineChar_of_mem_fromDash hwords hname.1 hc
  · intro x hx
    obtain rfl := List.mem_singleton.1 hx
    rw [htext]
    exact resolve_joinWith hname names

end Names

end Document

/-- The items that a text gives, if it is a list of items. -/
def Document.itemsOfText? (text : String) : Option (List Item) :=
  (Document.parse text).toOption.bind Document.items?

namespace Builder

/-- What was printed is read as it was printed: it gives its items, and it is refused, as a list that it is not, if
    and only if it has none. -/
def ReadAsPrinted (output : String) : Prop :=
  (scriptItems ⟨none, output⟩).toOption = Document.itemsOfText? output ∧
  ((∃ reason, scriptItems ⟨none, output⟩ = .error (.invalidItems scriptDocument reason)) ↔
    Document.itemsOfText? output = none)

/-- The output of code is read without the blanks around it, and it is refused if what is left gives no items. -/
theorem scriptItems_output {output : String} (houtput : Text.trim output ≠ "") :
    (scriptItems ⟨none, output⟩).toOption = Document.itemsOfText? (Text.trim output) ∧
    ∀ e, scriptItems ⟨none, output⟩ = .error e → ∃ reason, e = .invalidItems scriptDocument reason := by
  have hnonempty : (Text.trim output).isEmpty = false := by
    rw [Bool.eq_false_iff, Ne, String.isEmpty_iff]
    exact houtput
  -- What was printed is read without its margin; the two ways to read it agree.
  simp only [scriptItems, hnonempty, Bool.false_eq_true, if_false, Document.itemsOfText?]
  cases Document.parse (Text.trim output) with
  | error e => exact ⟨rfl, fun _ h => ⟨_, (Except.error.inj h).symm⟩⟩
  | ok v =>
    cases hitems : Document.items? v with
    | none =>
      simp only [hitems]
      exact ⟨hitems.symm, fun _ h => ⟨_, (Except.error.inj h).symm⟩⟩
    | some items =>
      simp only [hitems]
      exact ⟨hitems.symm, fun _ h => by cases h⟩

/-- So it is read as it was printed if and only if it gives the same with and without them. -/
theorem readAsPrinted_iff {output : String} (houtput : Text.trim output ≠ "") :
    ReadAsPrinted output ↔ Document.itemsOfText? (Text.trim output) = Document.itemsOfText? output := by
  obtain ⟨hitems, hrefused⟩ := scriptItems_output houtput
  rw [ReadAsPrinted, hitems]
  refine ⟨And.left, fun hsame => ⟨hsame, ?_⟩⟩
  -- A result that differs from the plain reading would be an error of its own.
  rw [← hsame, ← hitems]
  cases hresult : scriptItems ⟨none, output⟩ with
  | error e =>
    obtain ⟨reason, rfl⟩ := hrefused e hresult
    exact ⟨fun _ => rfl, fun _ => ⟨reason, rfl⟩⟩
  | ok items =>
    constructor
    · rintro ⟨reason, h⟩
      cases h
    · intro h
      cases h

section Names

variable {name : String} (hname : IsSimpleName name) {names : List String}
  (hnames : ∀ name ∈ names, IsSimpleName name) (indent : Nat)

include hname hnames

/-- A printed list without the blanks around it: the first dash has lost its indentation. -/
theorem trim_printedList :
    Text.trim (printedList indent (name :: names))
      = .ofList ('-' :: ' ' :: (name.toList ++ dashedLines indent (names.map String.toList))) := by
  have hwords := isWord_of_mem_map hnames
  rw [Text.trim, printedList, String.toList_ofList, List.map_cons, Yaml.trim_listLines indent hwords hname.1]

/-- A printed list is a list of files, however far its lines are indented. -/
theorem itemsOfText?_printedList :
    Document.itemsOfText? (printedList indent (name :: names)) = some (fileItems (name :: names)) := by
  rw [Document.itemsOfText?, printedList, List.map_cons, Yaml.listLines_cons,
    Document.parse_lines hname hnames indent (.inr rfl)]
  exact Document.items?_texts _

/-- A printed list is not blank. -/
theorem trim_printedList_ne_empty : Text.trim (printedList indent (name :: names)) ≠ "" := by
  rw [trim_printedList hname hnames indent]
  intro hempty
  simpa using congrArg String.toList hempty

/-- Without the blanks around it, it is that list only if its lines are not indented. Otherwise it is one file. -/
theorem itemsOfText?_trim_printedList :
    Document.itemsOfText? (Text.trim (printedList indent (name :: names)))
      = some (fileItems (if indent = 0 then name :: names else [Text.joinWith " - " (name :: names)])) := by
  rw [Document.itemsOfText?, trim_printedList hname hnames indent]
  -- At the start of the line the list is read as printed; behind blanks the lines fold into one text.
  by_cases hindent : indent = 0
  · subst hindent
    have hlines := Document.parse_lines hname hnames 0 (.inl rfl)
    rw [List.append_nil, List.replicate_zero, List.nil_append] at hlines
    rw [hlines]
    exact Document.items?_texts _
  · rw [if_neg hindent, Document.parse_shiftedLines hname hnames indent (Nat.pos_of_ne_zero hindent)]
    exact Document.items?_texts [Text.joinWith " - " (name :: names)]

/-- The items of a printed list: its names, or one name if the list is indented. -/
theorem scriptItems_printedList :
    scriptItems ⟨none, printedList indent (name :: names)⟩
      = .ok (fileItems (if indent = 0 then name :: names else [Text.joinWith " - " (name :: names)])) := by
  have hread := (scriptItems_output (trim_printedList_ne_empty hname hnames indent)).1
  rw [itemsOfText?_trim_printedList hname hnames indent] at hread
  -- A list that could be read is no error, and the items are those that were read.
  cases hresult : scriptItems ⟨none, printedList indent (name :: names)⟩ with
  | error e =>
    rw [hresult] at hread
    cases hread
  | ok items =>
    rw [hresult] at hread
    rw [Option.some.inj hread]

/-- A printed list is read as it was printed if it is not indented or has one item only. -/
theorem readAsPrinted_printedList :
    ReadAsPrinted (printedList indent (name :: names)) ↔ indent = 0 ∨ (name :: names).length = 1 := by
  rw [readAsPrinted_iff (trim_printedList_ne_empty hname hnames indent),
    itemsOfText?_trim_printedList hname hnames indent, itemsOfText?_printedList hname hnames indent,
    Option.some.injEq]
  by_cases hindent : indent = 0
  · simp [hindent]
  · simp only [hindent, if_false, false_or]
    constructor
    · intro hsame
      -- One item or several: a single text on one side is a single text on the other.
      simpa [fileItems] using (congrArg List.length hsame).symm
    · intro hlength
      obtain rfl : names = [] := by simpa using hlength
      rw [Text.joinWith_singleton]

end Names

/-- **Printed items.** The output of code is read without the blanks around it, so it is read as it was printed if
    and only if it gives the same with and without them. A printed list of files does if and only if its lines are
    not indented, or there is one line only: as it was printed it is the list of the files, but what is read of
    lines that are indented is one file with all the names in its name. -/
theorem scriptItems_printed (output : String) (names : List String) (indent : Nat) :
    (Text.trim output ≠ "" →
      (scriptItems ⟨none, output⟩).toOption = Document.itemsOfText? (Text.trim output) ∧
      (ReadAsPrinted output ↔
        Document.itemsOfText? (Text.trim output) = Document.itemsOfText? output)) ∧
    (names ≠ [] → (∀ name ∈ names, IsSimpleName name) →
      Document.itemsOfText? (printedList indent names) = some (fileItems names) ∧
      scriptItems ⟨none, printedList indent names⟩
        = .ok (fileItems (if indent = 0 then names else [Text.joinWith " - " names])) ∧
      (ReadAsPrinted (printedList indent names) ↔ indent = 0 ∨ names.length = 1)) := by
  refine ⟨fun houtput => ⟨(scriptItems_output houtput).1, readAsPrinted_iff houtput⟩, fun hne hnames => ?_⟩
  obtain ⟨name, names, rfl⟩ := List.exists_cons_of_ne_nil hne
  have hname : IsSimpleName name := hnames name List.mem_cons_self
  have hnames' : ∀ name' ∈ names, IsSimpleName name' := fun n hn => hnames n (List.mem_cons_of_mem _ hn)
  exact ⟨itemsOfText?_printedList hname hnames' indent, scriptItems_printedList hname hnames' indent,
    readAsPrinted_printedList hname hnames' indent⟩

/-- Two files, printed with two blanks in front of their lines, are not read as they were printed. -/
theorem scriptItems_printed_files :
    printedList 2 ["a.txt", "b.txt"] = "  - a.txt\n  - b.txt\n" ∧
    Text.trim "  - a.txt\n  - b.txt\n" = "- a.txt\n  - b.txt" ∧
    (scriptItems ⟨none, "  - a.txt\n  - b.txt\n"⟩).toOption
      = Document.itemsOfText? "- a.txt\n  - b.txt" ∧
    Document.itemsOfText? "  - a.txt\n  - b.txt\n" = some (fileItems ["a.txt", "b.txt"]) ∧
    scriptItems ⟨none, "  - a.txt\n  - b.txt\n"⟩ = .ok (fileItems ["a.txt - b.txt"]) ∧
    ¬ ReadAsPrinted "  - a.txt\n  - b.txt\n" := by
  have hprinted : printedList 2 ["a.txt", "b.txt"] = "  - a.txt\n  - b.txt\n" := by decide +kernel
  have htrim : Text.trim "  - a.txt\n  - b.txt\n" = "- a.txt\n  - b.txt" := by decide +kernel
  have hnames : ∀ name ∈ ["a.txt", "b.txt"], IsSimpleName name := by
    have ha : IsSimpleName "a.txt" := by decide +kernel
    have hb : IsSimpleName "b.txt" := by decide +kernel
    simp [ha, hb]
  have hjoined : Text.joinWith " - " ["a.txt", "b.txt"] = "a.txt - b.txt" := by decide +kernel
  obtain ⟨houtput, hlines⟩ := scriptItems_printed "  - a.txt\n  - b.txt\n" ["a.txt", "b.txt"] 2
  have hread := (houtput (by decide +kernel)).1
  obtain ⟨hlist, hsingle, hsame⟩ := hlines (by simp) hnames
  rw [hprinted, if_neg (by decide), hjoined] at hsingle
  rw [hprinted] at hlist hsame
  rw [htrim] at hread
  exact ⟨hprinted, htrim, hread, hlist, hsingle, fun h => absurd (hsame.1 h) (by decide)⟩

/-- The names of items that are files without a content. -/
def fileNames? (items : List Item) : Option (List String) :=
  items.mapM fun
    | .implicitFile (.string name) => some name
    | _ => none

/-- **Lines that merge.** A printed list of two files gives two items as it was printed and as it would be
    printed without indentation; what is read of it is one item. -/
theorem scriptItems_merges :
    (Document.itemsOfText? "  - a.txt\n  - b.txt\n").bind fileNames? = some ["a.txt", "b.txt"] ∧
    (scriptItems ⟨none, "- a.txt\n- b.txt\n"⟩).map fileNames? = .ok (some ["a.txt", "b.txt"]) ∧
    (scriptItems ⟨none, "  - a.txt\n  - b.txt\n"⟩).map fileNames? = .ok (some ["a.txt - b.txt"]) := by
  refine ⟨?_, ?_, ?_⟩ <;> decide +kernel

end Builder

end Scaffold
