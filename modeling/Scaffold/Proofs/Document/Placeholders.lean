import Scaffold.Proofs.Document.Written

namespace Scaffold.Document

/-!
# Names that start with a placeholder

A name that starts with a placeholder gets single quotes from normalization, and these are the quotes in which it would
be written: its first brace does not allow it to stand alone. So the document is the text of the collection with the
name in it, and is read as that collection, whatever else is in the name.

* `quoteLine_of_uncut` — a line whose value is a name with neither comment nor key;
* `choose_of_startsPlaceholder`, `writeString_of_startsPlaceholder` — the form of such a name;
* `parse_placeholderName` — a name as an item of a list, and as the name of a file.
-/

open Chars Yaml

/-! ### The line -/

/-- A value without a comment and without the end of a key gets quotes as a whole. -/
theorem quoteLine_of_uncut {lead name : List Char} (hvalue : lineValue (lead ++ name) = name)
    (hstarts : startsPlaceholder name = true) (hend : ∀ c ∈ name.getLast?, isBlank c = false)
    (hcomment : (splitComment 0 false name).2 = []) (hkey : (splitKey 0 name).2 = []) :
    quoteLine (lead ++ name) = lead ++ quote name := by
  -- The lead, the trimmed value, the comment and the key are each read off the parts that rejoin to the line.
  have hlead : (splitLead (lead ++ name)).1 = lead := by
    have happend := splitLead_append (lead ++ name)
    rw [lineValue] at hvalue
    rw [hvalue] at happend
    exact List.append_cancel_right happend
  have htrim : trimEnd name = name := dropEndWhile_of_last hend
  have hname : (splitComment 0 false name).1 = name := by
    have happend := splitComment_append 0 false name
    rwa [hcomment, List.append_nil] at happend
  have hwhole : (splitKey 0 name).1 = name := by
    have happend := splitKey_append 0 name
    rwa [hkey, List.append_nil] at happend
  rw [lineValue] at hvalue
  simp [quoteLine, hlead, hvalue, hstarts, htrim, hname, hcomment, hwhole, hkey]

/-- A document of one line. -/
theorem normalize_line {line : List Char} (htab : '\t' ∉ line) (hline : '\n' ∉ line)
    (hopens : opensBlock line = false) : normalize (.ofList line) = .ofList (quoteLine line) := by
  rw [normalize, String.toList_ofList, normalizeChars, expandTabs_eq_self_iff.2 htab, splitOn_of_notMem hline]
  simp [normalizeLines, hopens, joinWith]

/-! ### The form of the name -/

section Form

variable {name : String} (hvisible : ∀ c ∈ name.toList, isVisible c = true)
  (hstarts : startsPlaceholder name.toList = true)

include hvisible hstarts

/-- A name that starts with a placeholder is written in single quotes. -/
theorem choose_of_startsPlaceholder : Form.choose name = .single := by
  have hnotMem {c : Char} (hc : isVisible c = false) : c ∉ name.toList := fun hmem => by
    rw [hvisible c hmem] at hc
    cases hc
  have hbreak : name.toList.contains '\n' = false := by simpa using hnotMem (by decide)
  have hunbroken : ∀ c ∈ name.toList, isBreak c = false := fun c hc => isBreak_of_isVisible (hvisible c hc)
  have hspecial : name.toList.any (!isPrintable ·) = false :=
    List.any_eq_false.2 fun c hc => by simp [isPrintable_of_isVisible (hvisible c hc)]
  have hsingle : (Form.traits name.toList).singleAllowed = true := by
    simp only [Form.traits, hspecial, Form.hasPair_of_forall (.inr hunbroken), Form.hasPair_of_forall (.inl hunbroken),
      Bool.or_false, Bool.not_false]
  -- The brace would be read as the start of a mapping.
  have hplain : (Form.traits name.toList).plainAllowed = false := by
    obtain ⟨m, p, d, rest, hname, -⟩ := startsPlaceholder_iff.1 hstarts
    have hbrace : (neighbours none name.toList).any Neighbours.isIndicator = true := by
      rw [hname, neighbours, List.any_cons]
      rfl
    simp only [Form.traits, hbrace, Bool.or_true, Bool.not_true]
  rw [Form.choose, hbreak, hplain, hsingle]
  simp

/-- The quotes of normalization are those in which the name is written. -/
theorem writeString_of_startsPlaceholder (n : Nat) : writeString n name = quote name.toList := by
  rw [writeString, choose_of_startsPlaceholder hvisible hstarts]
  show singleQuoted n name.toList = quote name.toList
  rw [singleQuoted, singleBody_of_no_break n fun c hc => isBreak_of_isVisible (hvisible c hc)]
  rfl

end Form

/-! ### The document -/

theorem isBlank_of_isVisible {c : Char} (h : isVisible c = true) (hspace : c ≠ ' ') : isBlank c = false := by
  simp only [isVisible, Bool.and_eq_true, decide_eq_true_eq] at h
  have hlow : ¬ c ≤ '\r' := fun hle => absurd (Char.le_trans h.1 hle) (by decide)
  have hhigh {d : Char} (hd : ¬ d ≤ '~') : ¬ d ≤ c := fun hle => hd (Char.le_trans hle h.2)
  have hne {d : Char} (hd : ¬ d ≤ '~') : c ≠ d := by
    rintro rfl
    exact hd h.2
  have hrange : ¬ ('\u2000' ≤ c) := hhigh (by decide)
  simp [isBlank, hspace, hlow, hrange, hne (d := '\u0085') (by decide), hne (d := '\u00a0') (by decide),
    hne (d := '\u1680') (by decide), hne (d := '\u2028') (by decide), hne (d := '\u2029') (by decide),
    hne (d := '\u202f') (by decide), hne (d := '\u205f') (by decide), hne (d := '\u3000') (by decide)]

/-- A list with a name in it, and a list with a file of this name. -/
theorem isData_names (name : String) : IsData Node.depthLimit (.sequence [.string name]) ∧
    IsData Node.depthLimit (.sequence [.mapping [(.string "file", .string name)]]) := by
  have hfields : ∀ f ∈ [("file", Value.string name)], IsData 126 f.2 := by
    simpa using IsData.string name
  have hmapping : IsData 127 (.mapping [(.string "file", .string name)]) := .mapping (by simp) hfields
  exact ⟨.sequence (n := 127) (by simpa using IsData.string name), .sequence (n := 127) (by simpa using hmapping)⟩

/-- The document is what would be written of the collection, once the name has its quotes. -/
theorem parse_of_lead {lead name : String} {v : Value} (hv : IsData Node.depthLimit v)
    (hcollection : v.isCollection = true) (hwritten : v.write = lead.toList ++ quote name.toList)
    (hlead : ∀ c ∈ lead.toList, isVisible c = true) (hvisible : ∀ c ∈ name.toList, isVisible c = true)
    (hopens : opensBlock (lead ++ name).toList = false)
    (hquote : quoteLine (lead.toList ++ name.toList) = lead.toList ++ quote name.toList) :
    parse (lead ++ name) = .ok v := by
  rw [String.toList_append] at hopens
  -- The tab and the line break are no visible characters, so normalization sees one line without tabs.
  have hnotMem {c : Char} (hc : isVisible c = false) : c ∉ lead.toList ++ name.toList := by
    intro hmem
    have hmark : isVisible c = true := (List.mem_append.1 hmem).elim (hlead c) (hvisible c)
    rw [hmark] at hc
    cases hc
  refine parse_of_normalize hv hcollection ?_
  rw [← String.ofList_toList (s := lead ++ name), String.toList_append,
    normalize_line (hnotMem (by decide)) (hnotMem (by decide)) hopens, hquote, hwritten]

/-- **Names that start with a placeholder.** A name of visible characters that starts with a placeholder, has no blank
    at its end and neither a comment nor the end of a key in it outside of braces, is read as it is: as an item of a
    list, and as the name of a file. -/
theorem parse_placeholderName {name : String} (hvisible : ∀ c ∈ name.toList, ' ' ≤ c ∧ c ≤ '~')
    (hstarts : "\x7bmp:".toList <+: name.toList ∨ "\x7bmp.".toList <+: name.toList)
    (hend : name.toList.getLast? ≠ some ' ') (hcomment : (splitComment 0 false name.toList).2 = [])
    (hkey : (splitKey 0 name.toList).2 = []) :
    (opensBlock ("- " ++ name).toList = false → parse ("- " ++ name) = .ok (.sequence [.string name])) ∧
      (opensBlock ("- file: " ++ name).toList = false →
        parse ("- file: " ++ name) = .ok (.sequence [.mapping [(.string "file", .string name)]])) := by
  -- The hypotheses about the name are those that the lemmas on lines and on writing ask for.
  have hvisible' : ∀ c ∈ name.toList, isVisible c = true := fun c hc => by simpa [isVisible] using hvisible c hc
  have hstarts' : startsPlaceholder name.toList = true := by
    rcases hstarts with ⟨rest, hrest⟩ | ⟨rest, hrest⟩ <;> rw [← hrest] <;> rfl
  have hend' : ∀ c ∈ name.toList.getLast?, isBlank c = false := by
    intro c hc
    have hspace : c ≠ ' ' := by
      rintro rfl
      exact hend hc
    exact isBlank_of_isVisible (hvisible' c (List.mem_of_getLast? hc)) hspace
  obtain ⟨rest, hname⟩ : ∃ rest, name.toList = '\x7b' :: rest := by
    obtain ⟨m, p, d, rest, hname, -⟩ := startsPlaceholder_iff.1 hstarts'
    exact ⟨_, hname⟩
  -- Behind the dash and the key the value starts with the brace.
  have hvalue : lineValue name.toList = name.toList := by
    rw [hname]
    exact lineValue_of_mark (by decide) (by decide) fun h => absurd h (by decide)
  have hitem : lineValue ("- ".toList ++ name.toList) = name.toList := (lineValue_dash (by decide) _).trans hvalue
  have hfile : lineValue ("- file: ".toList ++ name.toList) = name.toList := by
    have hlead : "- file: ".toList ++ name.toList
        = '-' :: ' ' :: 'f' :: ("ile".toList ++ ':' :: ' ' :: name.toList) := rfl
    have hbehind : ("ile".toList ++ ':' :: ' ' :: name.toList).dropWhile isKeyChar = ':' :: ' ' :: name.toList :=
      List.dropWhile_append_of_pos (List.all_eq_true.1 (by decide))
    rw [hlead, lineValue_dash (by decide), lineValue_of_head (by decide) fun h => absurd h (by decide),
      leadingKey_of_colon (by decide) hbehind, hname]
    rfl
  -- What is written for the string is the quoted name, as normalization makes it of the bare one.
  have hwritten (n : Nat) : writeString n name = quote name.toList :=
    writeString_of_startsPlaceholder hvisible' hstarts' n
  have hdata := isData_names name
  refine ⟨fun hopens => ?_, fun hopens => ?_⟩
  · refine parse_of_lead hdata.1 rfl ?_ (List.all_eq_true.1 (by decide)) hvisible' hopens
      (quoteLine_of_uncut hitem hstarts' hend' hcomment hkey)
    rw [← hwritten 2]
    rfl
  · refine parse_of_lead hdata.2 rfl ?_ (List.all_eq_true.1 (by decide)) hvisible' hopens
      (quoteLine_of_uncut hfile hstarts' hend' hcomment hkey)
    rw [← hwritten 4]
    rfl

/-- A name with a quote, a bracket and a brace that is closed twice, and with a colon and a hash inside of braces. -/
theorem parse_placeholderName_mixed :
    let name := "\x7bmp.py: t['a: b'] # \x7d#1, it's \x7d [x"
    parse ("- " ++ name) = .ok (.sequence [.string name]) ∧
      parse ("- file: " ++ name) = .ok (.sequence [.mapping [(.string "file", .string name)]]) := by
  intro name
  have hvisible : ∀ c ∈ name.toList, ' ' ≤ c ∧ c ≤ '~' := List.all_iff_forall_prop.1 (by decide)
  have hread := parse_placeholderName hvisible (.inr (by decide)) (by decide) (by decide) (by decide)
  exact ⟨hread.1 (by decide), hread.2 (by decide)⟩

end Scaffold.Document
