import Scaffold.Proofs.Template.HeaderReading
import Scaffold.Proofs.Template.Importing
import Scaffold.Proofs.Template.Sessions

namespace Scaffold.Template

/-!
# Code that does not use the preamble

Where code uses none of the names that the preamble gives a value, it does the same with the preamble as without it.

* `exportsOf`, `mentions` — the names that a preamble gives a value, and those that stand in the tags of code;
* `shadow_start` — behind the import, the machine is the one without a preamble but for what the code cannot see;
* `runCode_preamble` — blocks that succeed without the preamble succeed with it, with the same output and result.
-/

open Session

variable {p : String → Prop} {templates : List (String × Source)} {bindings : Names} {source : Source}

/-- Whether a name stands in a tag of code. -/
def mentions (code name : String) : Bool := (TokenList.ofSource codeName code).tokens.any (·.token.isWord name)

/-! ### Reading -/

/-- Code without the words that do not satisfy `p` uses none but names that satisfy it. -/
theorem uses_of_read (hinclude : ¬ p "include") (himport : ¬ p "import") {template code : String}
    (hwords : ∀ t ∈ (TokenList.ofSource template code).tokens, ∀ w, t.token = .word w → p w)
    (h : Source.read template code = .ok source) :
    Statement.UsesAll p source.body ∧ ∀ b ∈ source.blocks, Statement.UsesAll p b.2 := by
  obtain ⟨-, t, hbody, hblocks⟩ := read_eq_ok_iff.1 h
  have hstart : (Reader.start (TokenList.ofSource template code)).Uses p := ⟨hwords, by simp [Reader.start]⟩
  have hends := ends_iff.1 (Reader.reads_statements hinclude himport Reader.maxNesting [] _ hstart)
  rw [Reader.Gets] at hbody
  rw [hbody] at hends
  obtain ⟨ht, -, huses⟩ := hends
  exact ⟨huses _ rfl, hblocks ▸ ht.blocks⟩

/-- The words of the code are names that it mentions. -/
theorem word_of_mentions {code : String} (h : ∀ name, mentions code name = true → p name) :
    ∀ t ∈ (TokenList.ofSource codeName code).tokens, ∀ w, t.token = .word w → p w := by
  intro t ht w hw
  refine h w (List.any_eq_true.2 ⟨t, ht, ?_⟩)
  simp [hw, Token.isWord]

/-! ### The machine behind the import -/

/-- The names that the context defines stand for texts. -/
theorem own_bindingsOf (ctx : Context) : ∀ e ∈ bindingsOf ctx, e.2.Own := by
  intro e he
  obtain rfl := List.mem_singleton.1 he
  refine Value.own_ofNamed fun x hx => ?_
  obtain ⟨y, -, rfl⟩ := List.mem_map.1 hx
  exact Value.own_text _

/-- The scope of code that has been given names. -/
def startScope (names bindings : Names) : Scope := { Scope.empty with names := names, backing := .names bindings }

/-- A machine at the start of a template, behind an import that gives names values. -/
def Machine.startBehind (templates : List (String × Source)) (bindings : Names) (source : Source) (names : Names)
    (insertedCells : Array Cell) : Machine :=
  { Machine.start templates bindings false source with
    scopes := [startScope names bindings], insertedCells := insertedCells }

/-- Names that code does not use, other templates and their cells make no difference that it can see. -/
theorem shadow_start (hbindings : ∀ e ∈ bindings, e.2.Own) (hblocks : ∀ b ∈ source.blocks, Statement.UsesAll p b.2)
    (templates : List (String × Source)) {names : Names} (hnames : ∀ name, p name → names.lookup name = none)
    (insertedCells : Array Cell) :
    Shadow p (Machine.start [] bindings false source) (.startBehind templates bindings source names insertedCells) := by
  have hscope : (startScope [] bindings).Plain p :=
    ⟨by simp [startScope], hbindings, by simp [startScope, Scope.empty], by simp [startScope, Scope.empty]⟩
  have halike : (startScope [] bindings).Alike p (startScope names bindings) :=
    ⟨rfl, rfl, rfl, fun name hname => hnames name hname⟩
  refine ⟨⟨rfl, rfl, rfl, rfl, fun s hs => List.mem_singleton.1 hs ▸ hscope, by simp [Machine.start],
    fun b hb v hv => ?_⟩, templates, insertedCells, [startScope names bindings], .cons halike .nil, rfl⟩
  obtain ⟨c, hc, rfl⟩ := List.mem_map.1 hb
  obtain rfl := List.mem_singleton.1 hv
  exact hblocks c hc

/-! ### Code behind the import -/

/-- What a run gives is the same in machines that look alike. -/
theorem result_eq {m m' : Machine} (h : Shadow p m m') (hdebug : ¬ p "debug") (hresult : p resultName) :
    (m'.lookup? resultName).mapM (fun v => toYaml (m'.resolve v)) =
      (m.lookup? resultName).mapM (fun v => toYaml (m.resolve v)) := by
  rw [h.lookup? hresult]
  cases hv : m.lookup? resultName with
  | none => rfl
  | some v => simp only [Option.mapM_some, h.resolve (h.plain.own_lookup? hdebug hresult hv)]

/-- If the machine behind what stands in front of code is the one without a preamble but for what the code cannot see,
    the code gives the same. -/
theorem execute_of_shadow (hdebug : ¬ p "debug") (hresult : p resultName) {header code : String} {source' : Source}
    {m' : Machine} {r : CodeResult} (hread : Source.read codeName code = .ok source)
    (huses : Statement.UsesAll p source.body) (hread' : Source.read codeName (header ++ code) = .ok source')
    (hshadow : Shadow p (Machine.start [] bindings false source) m')
    (hbehind : ∀ r, Eval.runWithin (Machine.maxDepth + 1) source.body m' = .ok r →
      Eval.runWithin (Machine.maxDepth + 1) source'.body (Machine.start templates bindings false source') = .ok r)
    (h : Session.execute ⟨[], bindings, ""⟩ code = .ok r) :
    Session.execute ⟨templates, bindings, header⟩ code = .ok r := by
  have hfollows := Eval.follows_runWithin hdebug (Machine.maxDepth + 1) source.body huses _ m' hshadow
  obtain ⟨_, n, hsource, hrun, hvalue, hout⟩ := execute_eq_ok_iff.1 h
  rw [String.empty_append, hread] at hsource
  cases hsource
  -- Whatever the code does, it does not extend another template.
  obtain ⟨flow, hrun⟩ := (runSource_eq_ok_iff fun flow k hk => by
    obtain ⟨_, _, hk', -⟩ := hfollows flow k hk
    exact hk'.plain.parent?).1 hrun
  obtain ⟨n', hn', hn, -⟩ := hfollows flow n hrun
  -- What stands in front of the code leads to a machine in which the code runs as it does alone.
  have hrun' := hbehind _ hn'
  refine execute_eq_ok_iff.2 ⟨source', n', hread', (runSource_eq_ok_iff fun flow' k hk => ?_).2 ⟨flow, hrun'⟩,
    (result_eq hn hdebug hresult).trans hvalue, hn.out.trans hout⟩
  rw [hrun'] at hk
  cases hk
  exact hn.parent?

/-- The names that code sees alike with the preamble and without it. -/
def IsUnchanged (names : List String) (name : String) : Prop :=
  (name ∈ names → name = resultName) ∧ name ∉ ["debug", "include", "import"]

/-- An empty text has no tokens. -/
theorem tokens_empty : (TokenList.ofSource codeName "").tokens = [] := by
  rfl

/-- An empty code has no statements. -/
theorem read_empty : Source.read codeName "" = .ok ⟨codeName, [], []⟩ := by
  rfl

/-- If an empty block runs behind the header, all the import does is to give the names values. -/
theorem exists_import {names : List String} (hne : names ≠ [])
    (hnames : ∀ name ∈ names, Reader.isImportable name = true)
    (h : ∃ r, Session.execute ⟨templates, bindings,
      tag ("from \"" ++ preambleName ++ "\" import " ++ Text.joinWith ", " names)⟩ "" = .ok r) :
    ∃ (ns : Names) (insertedCells : Array Cell), (∀ name, name ∉ names → ns.lookup name = none) ∧
      ∀ source : Source, source.name = codeName →
        (importOf names).exec (Eval.runWithin Machine.maxDepth) (Machine.start templates bindings false source) =
          .ok (.done, .startBehind templates bindings source ns insertedCells) := by
  obtain ⟨r, hr⟩ := h
  obtain ⟨_, _, hsource, hrun, -⟩ := execute_eq_ok_iff.1 hr
  -- The header alone is read and run, and shows what the import does.
  have hread := read_header (p := fun _ => False) id id hne hnames rfl (by simp [tokens_empty]) read_empty
  cases hread.symm.trans hsource
  obtain ⟨_, hrun⟩ := exists_of_runSource hrun
  obtain ⟨flow, k, hexec⟩ := exists_of_runWithin_cons hrun
  obtain ⟨ns, insertedCells, hns, himports⟩ := Eval.exec_importNames (Eval.framed_runWithin _) rfl rfl rfl hexec
  refine ⟨ns, insertedCells, fun name hname => (hns name fun x hx heq => hname ?_).trans rfl, fun source hsource => ?_⟩
  · obtain ⟨other, hother, rfl⟩ := List.mem_map.1 hx
    exact heq ▸ hother
  · have himport := himports (source.blocks.map fun b => (b.1, ⟨[(source.name, b.2)], 0⟩))
    rw [← hsource] at himport
    exact himport

/-- **Sessions.** Code that succeeds without the preamble succeeds with it, with the same output and result, if it is
    sheltered and uses none of the names that the preamble gives a value. -/
theorem execute_preamble {ctx : Context} {names : List String}
    (hnames : ∀ name ∈ names, name ≠ resultName → Reader.isImportable name = true)
    (himport : ∃ r₀, Session.execute ⟨templates, bindingsOf ctx, headerOf names⟩ "" = .ok r₀) {code : String}
    (hsheltered : TokenList.isSheltered (TokenList.withoutLastBreak code.toList) = true)
    (hmentions : ∀ name, mentions code name = true → IsUnchanged names name) {r : CodeResult}
    (h : Session.execute ⟨[], bindingsOf ctx, ""⟩ code = .ok r) :
    Session.execute ⟨templates, bindingsOf ctx, headerOf names⟩ code = .ok r := by
  -- The names that are not the code's own are those of the language and those of the preamble.
  have hdebug : ¬ IsUnchanged names "debug" := fun h => h.2 (by simp)
  have hinclude : ¬ IsUnchanged names "include" := fun h => h.2 (by simp)
  have hno : ¬ IsUnchanged names "import" := fun h => h.2 (by simp)
  have hresult : IsUnchanged names resultName := ⟨fun _ => rfl, by decide⟩
  have hwords := word_of_mentions hmentions
  obtain ⟨source, _, hread, -⟩ := execute_eq_ok_iff.1 h
  rw [String.empty_append] at hread
  obtain ⟨hbody, hblocks⟩ := uses_of_read hinclude hno hwords hread
  have hbindings := own_bindingsOf ctx
  obtain ⟨imported, himported⟩ : ∃ imported, imported = names.filter (· != resultName) := ⟨_, rfl⟩
  have hheader : headerOf names = if imported.isEmpty then ""
      else tag ("from \"" ++ preambleName ++ "\" import " ++ Text.joinWith ", " imported) := by
    rw [himported]
    rfl
  -- Without names to import there is no header, and the machine is the one without a preamble.
  by_cases hne : imported = []
  · rw [hheader, hne]
    refine execute_of_shadow hdebug hresult hread hbody (by simpa using hread) ?_ (fun _ h => h) h
    exact shadow_start hbindings hblocks templates (fun _ _ => List.lookup_nil) #[]
  · rw [List.isEmpty_eq_false_iff.2 hne, if_neg Bool.false_ne_true] at hheader
    have himportable : ∀ name ∈ imported, Reader.isImportable name = true := by
      intro name hname
      rw [himported, List.mem_filter] at hname
      exact hnames name hname.1 (by simpa using hname.2)
    rw [hheader] at himport ⊢
    obtain ⟨ns, insertedCells, hns, hexec⟩ := exists_import hne himportable himport
    have hread' := read_header hinclude hno hne himportable hsheltered hwords hread
    have hname := (read_eq_ok_iff.1 hread).1
    refine execute_of_shadow hdebug hresult hread hbody hread'
      (shadow_start hbindings hblocks templates (fun name hp => hns name fun hmem => ?_) insertedCells)
      (fun r hr => ?_) h
    -- An imported name is not one of those that the code uses.
    · rw [himported, List.mem_filter] at hmem
      exact absurd (hp.1 hmem.1) (by simpa using hmem.2)
    · exact (runWithin_cons (hexec source hname)).trans hr

/-! ### A preamble that gives one name a value -/

/-- A preamble that assigns one name. -/
def smallPreamble : String := "\x7b% set a = 1 %\x7d"

/-- What it is read as. -/
def smallSource : Source := ⟨preambleName, [.assign (.name "a") (.literal 1 (.int 1))], []⟩

/-- The templates of a session with this preamble. -/
def smallTemplates : List (String × Source) := [(preambleName, smallSource)]

/-- Whether a result is the source of the preamble; this can be computed. -/
def isSmallPreamble : Except Fault Source → Bool
  | .ok ⟨"__preamble__", [.assign (.name "a") (.literal 1 (.int 1))], []⟩ => true
  | _ => false

/-- The preamble is read. -/
theorem read_smallPreamble : Source.read preambleName smallPreamble = .ok smallSource := by
  have h : isSmallPreamble (Source.read preambleName smallPreamble) = true := by decide +kernel
  generalize Source.read preambleName smallPreamble = read at h ⊢
  unfold isSmallPreamble at h
  split at h
  · rfl
  · cases h

/-- Running the preamble leaves its name in the scope. -/
theorem runSource_smallPreamble : runSource smallTemplates bindings true smallSource =
    .ok { Machine.start smallTemplates bindings true smallSource with
      scopes := [startScope [("a", .int 1)] bindings] } := by
  rw [runSource, runWithin_succ]
  simp [Eval.runTemplate, Statement.execAll, Statement.exec, Eval.eval, Expr.eval, apply_bind, apply_map, Except.map,
    Eval.assignTo, Target.assign, Eval.store, Machine.store, Names.put, Machine.start, Scope.empty, smallSource,
    startScope]

/-- The preamble exports its name. -/
theorem exportsOf_smallPreamble (ctx : Context) : exportsOf ctx smallPreamble = .ok ["a"] :=
  exportsOf_eq_ok_iff.2 ⟨_, _, read_smallPreamble, runSource_smallPreamble, by simp [Machine.exports, startScope]⟩

/-- A session with this preamble has a header that imports the name. -/
theorem openWith_smallPreamble (ctx : Context) :
    openWith ctx (some smallPreamble) = .ok ⟨smallTemplates, bindingsOf ctx, headerOf ["a"]⟩ := by
  have hopen : openWith ctx (some smallPreamble) = _ :=
    openWith_eq_ok rfl read_smallPreamble runSource_smallPreamble
  simpa [Machine.exports, startScope, smallTemplates] using hopen

/-- What the import of `a` leaves behind. -/
theorem exec_importOf_small : (importOf ["a"]).exec (Eval.runWithin Machine.maxDepth)
      (Machine.start smallTemplates bindings false source) =
    .ok (.done, .startBehind smallTemplates bindings source [("a", .int 1)] #[]) := by
  simp only [Machine.maxDepth]
  rw [show (500 : Nat) = 499 + 1 from rfl, runWithin_succ]
  simp [importOf, Statement.exec, Eval.eval, Expr.eval, apply_bind, apply_map, Eval.discarded, Eval.withOutput,
    Eval.importedNames, Eval.within, Eval.checkDepth, Eval.atLine, Eval.insertNamed, Eval.templateNames,
    Eval.findTemplate, Eval.ofResult, Eval.insert, Eval.withoutClosure, Eval.summarized, Eval.insertionCost,
    Eval.runTemplate, Statement.execAll, Eval.assignTo, Target.assign, Eval.store, Machine.start, Machine.startBehind,
    Machine.depth, Machine.maxDepth, Machine.store, Machine.lookup?, Machine.inScope?, Names.put, Scope.empty,
    Value.text, Value.text?, smallTemplates, smallSource, startScope, preambleName]

/-- Statements that write a text and do nothing else. -/
def Writes (xs : List Statement) (out : String) : Prop :=
  ∀ m, Eval.runWithin (Machine.maxDepth + 1) xs m = .ok (.done, { m with out := m.out ++ out })

/-- No code writes nothing. -/
theorem writes_nil : Writes [] "" := by
  intro m
  rw [String.append_empty]
  rfl

/-- A text is written in front of what the rest writes. -/
theorem Writes.text {xs : List Statement} {out : String} (h : Writes xs out) (s : String) :
    Writes (.text s :: xs) (s ++ out) := by
  intro m
  refine (runWithin_cons (k := { m with out := m.out ++ s }) rfl).trans ((h _).trans ?_)
  rw [String.append_assoc]

/-- A branch whose condition holds writes what it holds. -/
theorem writes_branch {out : String} {yes : List Statement} (h : Writes yes out) (line : Nat) (no : List Statement) :
    Writes [.branch (.literal line (.bool true)) yes no] out := by
  intro m
  -- A literal stands for itself in every machine.
  have hresolve : m.resolve (.bool true) = .bool true := by
    unfold Machine.resolve
    split <;> rfl
  have htruth : Eval.truth (.bool true) m = .ok (true, m) := by
    show Except.ok ((m.resolve (.bool true)).isTrue, m) = _
    rw [hresolve]
    rfl
  have hexec : (Statement.branch (.literal line (.bool true)) yes no).exec (Eval.runWithin Machine.maxDepth) m =
      .ok (.done, { m with out := m.out ++ out }) := by
    rw [Statement.exec]
    exact (apply_bind_of_eq_ok rfl).trans ((apply_bind_of_eq_ok htruth).trans (h m))
  exact runWithin_cons hexec

/-- Code that writes a text behind what stands in front of it. -/
theorem execute_of_writes {header code out : String} {xs : List Statement} {m : Machine}
    (hread : Source.read codeName (header ++ code) = .ok source) (hwrites : Writes xs out)
    (hfront : Eval.runWithin (Machine.maxDepth + 1) source.body (Machine.start templates bindings false source) =
      Eval.runWithin (Machine.maxDepth + 1) xs m)
    (hparent : m.parent? = none) (hout : m.out = "") (hresult : m.lookup? resultName = none) :
    Session.execute ⟨templates, bindings, header⟩ code = .ok ⟨none, out⟩ := by
  have hrun := hfront.trans (hwrites m)
  refine execute_eq_ok_iff.2 ⟨_, _, hread, (runSource_eq_ok_iff fun flow n hn => ?_).2 ⟨_, hrun⟩, ?_, ?_⟩
  · cases hrun.symm.trans hn
    exact hparent
  · have hsame : ({ m with out := m.out ++ out } : Machine).lookup? resultName = m.lookup? resultName := rfl
    -- The result is a variable like any other, and nothing has set it.
    rw [hsame, hresult]
    rfl
  · rw [hout]
    exact String.empty_append

/-- Code that does not depend on its machine, in a session without a preamble. -/
theorem execute_plain {ctx : Context} {code out : String} {xs : List Statement}
    (hread : Source.read codeName code = .ok ⟨codeName, xs, []⟩) (h : Writes xs out) :
    Session.execute ⟨[], bindingsOf ctx, ""⟩ code = .ok ⟨none, out⟩ :=
  execute_of_writes (by rwa [String.empty_append]) h rfl rfl rfl rfl

/-- The same code behind the header of the preamble. -/
theorem execute_small {ctx : Context} {code out : String} {xs : List Statement}
    (hread : Source.read codeName (headerOf ["a"] ++ code) = .ok ⟨codeName, importOf ["a"] :: xs, []⟩)
    (h : Writes xs out) :
    Session.execute ⟨smallTemplates, bindingsOf ctx, headerOf ["a"]⟩ code = .ok ⟨none, out⟩ :=
  execute_of_writes hread h (runWithin_cons exec_importOf_small) rfl rfl rfl

/-! ### A tag that keeps its indentation -/

/-- A block that starts with a tag behind two blanks. -/
def indentedBlock : String := "  \x7b% if true %\x7d\nx\n\x7b% endif %\x7d"

/-- Whether a result is the source of the indented block; this can be computed. -/
def isBareBlock : Except Fault Source → Bool
  | .ok ⟨"<string>", [.branch (.literal 1 (.bool true)) [.text "x\n"] []], []⟩ => true
  | _ => false

/-- Whether a result is the source of the indented block behind a header; this can be computed. -/
def isHeadedBlock : Except Fault Source → Bool
  | .ok ⟨"<string>", [.importNames (.literal 1 (.string false "__preamble__")) [("a", "a")], .text "  ",
      .branch (.literal 1 (.bool true)) [.text "x\n"] []], []⟩ => true
  | _ => false

/-- On a line of its own, a block tag takes the blanks in front of it away. -/
theorem read_bareBlock : Source.read codeName indentedBlock =
    .ok ⟨codeName, [.branch (.literal 1 (.bool true)) [.text "x\n"] []], []⟩ := by
  have h : isBareBlock (Source.read codeName indentedBlock) = true := by decide +kernel
  generalize Source.read codeName indentedBlock = read at h ⊢
  unfold isBareBlock at h
  split at h
  · rfl
  · cases h

/-- Behind a header on the same line, a block tag leaves the blanks in front of it. -/
theorem read_headedBlock : Source.read codeName (headerOf ["a"] ++ indentedBlock) =
    .ok ⟨codeName, [importOf ["a"], .text "  ", .branch (.literal 1 (.bool true)) [.text "x\n"] []], []⟩ := by
  have hheader : headerOf ["a"] = tag ("from \"" ++ preambleName ++ "\" import " ++ Text.joinWith ", " ["a"]) := rfl
  have hlast : TokenList.withoutLastBreak (headerOf ["a"] ++ indentedBlock).toList =
      (headerOf ["a"]).toList ++ indentedBlock.toList := by decide +kernel
  have htokens : TokenList.ofSource codeName (headerOf ["a"] ++ indentedBlock) =
      TokenList.prepend (TokenList.headerTokens ["a"])
        (TokenList.scanned codeName .outside (⟨indentedBlock.toList, 1, false⟩ : TokenList.Source).skipBreak) := by
    -- The names of the header are words, so it is scanned as the tokens that were meant.
    rw [TokenList.ofSource_eq, hlast, hheader, TokenList.scanned_header (List.cons_ne_nil _ _)]
    rintro name hname
    obtain rfl := List.mem_singleton.1 hname
    decide
  -- What was read is compared part by part, since a result has no decidable equality.
  have h : isHeadedBlock (Source.read codeName (headerOf ["a"] ++ indentedBlock)) = true := by
    rw [Source.read, htokens]
    decide +kernel
  generalize Source.read codeName (headerOf ["a"] ++ indentedBlock) = read at h ⊢
  unfold isHeadedBlock at h
  split at h
  · rfl
  · cases h

/-! ### Blocks -/

/-- **The preamble.** For a preamble that runs, with which an empty block runs as well, and that gives values to names
    that can be imported: a block that succeeds without the preamble succeeds with it, with the same output and the
    same result, if none of the names, `debug`, `include` and `import` stands in its tags, and if it is sheltered. -/
theorem runCode_preamble {ctx : Context} {preamble : String} {names : List String}
    (hexports : exportsOf ctx preamble = .ok names)
    (hnames : ∀ name ∈ names, name ≠ resultName → Reader.isImportable name = true) {s s' s₀ : Option Session}
    {origin code : String}
    (hempty : ∃ r₀, (((⟨engine, some preamble⟩ : Filler (Option Session)).runCode ctx origin "").run s₀).1 = .ok r₀)
    (hsheltered : TokenList.isSheltered (TokenList.withoutLastBreak (dedentBlock code.toList)) = true)
    (hmentions : ∀ name, mentions (.ofList (dedentBlock code.toList)) name = true → IsUnchanged names name)
    {r : CodeResult} (h : (((⟨engine, none⟩ : Filler (Option Session)).runCode ctx origin code).run s).1 = .ok r) :
    (((⟨engine, some preamble⟩ : Filler (Option Session)).runCode ctx origin code).run s').1 = .ok r := by
  rw [runCode_eq_ok_iff] at h ⊢
  obtain ⟨_, hnone, hexecute⟩ := h
  cases hnone
  -- A blank preamble opens no session.
  cases hblank : Text.allBlank preamble with
  | true => exact ⟨_, openWith_of_allBlank hblank, hexecute⟩
  | false =>
    -- The names are what the preamble has exported, so it could be read and run.
    obtain ⟨source, m, hread, hrun, rfl⟩ := exportsOf_eq_ok_iff.1 hexports
    have hopen := openWith_eq_ok hblank hread hrun
    obtain ⟨r₀, hempty⟩ := hempty
    obtain ⟨_, hopen', hempty⟩ := runCode_eq_ok_iff.1 hempty
    cases hopen.symm.trans hopen'
    exact ⟨_, hopen, execute_preamble hnames ⟨r₀, hempty⟩ (by simpa using hsheltered) hmentions hexecute⟩

/-- A block that prints a letter does so with this preamble as well. -/
theorem runCode_preamble_letter :
    exportsOf .empty smallPreamble = .ok ["a"] ∧
    (((⟨engine, none⟩ : Filler (Option Session)).runCode .empty "block" "x").run none).1 = .ok ⟨none, "x"⟩ ∧
    (((⟨engine, some smallPreamble⟩ : Filler (Option Session)).runCode .empty "block" "x").run none).1 =
      .ok ⟨none, "x"⟩ := by
  have hdedent : String.ofList (dedentBlock "x".toList) = "x" := by decide +kernel
  have hread : Source.read codeName "x" = .ok ⟨codeName, [.text "x"], []⟩ := rfl
  have htokens : (TokenList.ofSource codeName "x").tokens = [⟨.text "x", 1⟩] := rfl
  have hletter : (((⟨engine, none⟩ : Filler (Option Session)).runCode .empty "block" "x").run none).1 =
      -- Text is written as it is.
      .ok ⟨none, "x"⟩ :=
    runCode_eq_ok_iff.2 ⟨_, rfl, execute_plain (by rw [hdedent]; exact hread) (writes_nil.text "x")⟩
  have hempty : (((⟨engine, some smallPreamble⟩ : Filler (Option Session)).runCode .empty "block" "").run none).1 =
      .ok ⟨none, ""⟩ := by
    refine runCode_eq_ok_iff.2 ⟨_, openWith_smallPreamble _, execute_small ?_ writes_nil⟩
    exact read_header (p := fun _ => False) id id (List.cons_ne_nil _ _) (by decide) rfl (by simp [tokens_empty])
      read_empty
  refine ⟨exportsOf_smallPreamble _, hletter, runCode_preamble (exportsOf_smallPreamble _) ?_ ⟨_, hempty⟩ ?_ ?_ hletter⟩
  · decide
  · decide +kernel
  · intro name hname
    rw [mentions, hdedent, htokens] at hname
    cases hname

/-- The preamble gives `a` a value, which the block does not mention, and still the block prints something else
    with it: the import in front of the block keeps its first tag from taking the blanks in front of it. -/
theorem runCode_indentedBlock :
    'a' ∉ indentedBlock.toList ∧
    (((⟨engine, none⟩ : Filler (Option Session)).runCode .empty "block" indentedBlock).run none).1 =
      .ok ⟨none, "x\n"⟩ ∧
    (((⟨engine, some smallPreamble⟩ : Filler (Option Session)).runCode .empty "block" indentedBlock).run none).1 =
      .ok ⟨none, "  x\n"⟩ := by
  have hdedent : String.ofList (dedentBlock indentedBlock.toList) = indentedBlock := by decide +kernel
  have hwrites : Writes [.branch (.literal 1 (.bool true)) [.text "x\n"] []] "x\n" :=
    writes_branch (writes_nil.text "x\n") 1 []
  -- The two runs differ in the blanks in front of the tag.
  refine ⟨by decide, runCode_eq_ok_iff.2 ⟨_, rfl, ?_⟩, runCode_eq_ok_iff.2 ⟨_, openWith_smallPreamble _, ?_⟩⟩
  · rw [hdedent]
    exact execute_plain read_bareBlock hwrites
  · rw [hdedent]
    exact execute_small read_headedBlock (hwrites.text "  ")

end Scaffold.Template
