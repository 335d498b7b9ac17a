import Scaffold.Config
import Scaffold.Proofs.Table

namespace Scaffold

/-!
# Which definition of a token counts

Two steps decide what a token of a configuration stands for, and they do not agree on when two names are the
same. The inline definitions and those of the tokens file go into one table, where names are texts; from there
they are defined one after the other in a context, where case and the blanks around a name are nothing.

* `Context.body?_defineAll` — in a context the last definition counts, whatever case its name is in;
* `Config.allTokens_eq` — the table is that of the inline definitions with those of the file behind them;
* `Context.body?_defineAll_ofList` — but a table keeps each spelling where it came up first, so what counts of a
  table is the spelling that came up last, with the last definition in this very spelling;
* `Config.resolve_eq` — so it is for the tokens of a configuration, and the last definition counts where it
  has the newest spelling of its name;
* `Config.resolve_stale` — where it has an older spelling, it need not count.
-/

namespace Context

/-! ### Definitions one after the other -/

/-- The last definition of the token called `name`, whatever case the names are in. -/
def lastDefinition? (name : String) (definitions : List (String × TokenBody)) :
    Option (String × TokenBody) :=
  (definitions.filter (key ·.1 = key name)).getLast?

/-- Of the ways in which a name is written, the one that came up last. -/
def newestSpelling? (name : String) (definitions : List (String × TokenBody)) : Option String :=
  ((definitions.map Prod.fst).eraseDups.filter (key · = key name)).getLast?

/-- What the last definition in the newest spelling of a name says. -/
def newestBody? (name : String) (definitions : List (String × TokenBody)) : Option TokenBody :=
  (newestSpelling? name definitions).bind fun spelling =>
    ((definitions.filter (·.1 = spelling)).getLast?).map Prod.snd

theorem lastDefinition?_append (name : String) (earlier later : List (String × TokenBody)) :
    lastDefinition? name (earlier ++ later)
      = (lastDefinition? name later).or (lastDefinition? name earlier) := by
  simp only [lastDefinition?, List.filter_append, List.getLast?_append]

/-- A definition is what its name stands for, as a text or as code, until another one of the name. -/
theorem body?_define (ctx : Context) (spelling name : String) (body : TokenBody) :
    (ctx.define spelling body).body? name
      = if key name = key spelling then some body else ctx.body? name := by
  -- A text takes the place of code of the same key, and code that of a text.
  cases body with
  | text s =>
    simp only [define, body?, code?, value?, Table.get?_erase, Table.get?_insert]
    by_cases hkey : key name = key spelling
    · simp only [hkey, if_true, Option.map_some]
    · simp only [hkey, if_false]
  | code s =>
    simp only [define, body?, code?, value?, Table.get?_erase, Table.get?_insert]
    by_cases hkey : key name = key spelling
    · simp only [hkey, if_true]
    · simp only [hkey, if_false]

/-- **In a context the last definition counts**, whatever case its name is in. -/
theorem body?_defineAll (ctx : Context) (definitions : List (String × TokenBody)) (name : String) :
    (ctx.defineAll definitions).body? name
      = ((lastDefinition? name definitions).map Prod.snd).or (ctx.body? name) := by
  -- The induction is on the definitions, from the last one.
  induction definitions using List.reverseRecOn with
  | nil => rfl
  | append_singleton definitions d ih =>
    obtain ⟨spelling, body⟩ := d
    have hstep : ctx.defineAll (definitions ++ [(spelling, body)])
        = (ctx.defineAll definitions).define spelling body := List.foldl_append
    rw [hstep, body?_define, ih, lastDefinition?_append]
    by_cases hkey : key name = key spelling
    · simp [lastDefinition?, hkey]
    · simp [lastDefinition?, hkey, Ne.symm hkey]

/-! ### Definitions out of a table -/

/-- Of a table without repeated names, the last entry of a token is found by its spelling. -/
theorem lastDefinition?_entries {t : Table TokenBody} (ht : t.keys.Nodup) (name : String) :
    (lastDefinition? name t.entries).map Prod.snd
      = ((t.keys.filter (key · = key name)).getLast?).bind t.get? := by
  -- The last spelling of the key is that of its last definition.
  have hspelling : (t.keys.filter (key · = key name)).getLast?
      = (lastDefinition? name t.entries).map Prod.fst := by
    simp only [Table.keys, List.filter_map, List.getLast?_map, lastDefinition?, Function.comp_def]
  rw [hspelling]
  cases hlast : lastDefinition? name t.entries with
  | none => rfl
  | some d =>
    have hmem : d ∈ t.entries := (List.mem_filter.1 (List.mem_of_getLast? hlast)).1
    exact (Table.get?_of_mem ht hmem).symm

/-- **Definitions out of a table.** What counts of definitions that went through a table is the last one in the
    newest spelling. -/
theorem body?_defineAll_ofList (ctx : Context) (definitions : List (String × TokenBody))
    (name : String) :
    (ctx.defineAll (Table.ofList definitions).entries).body? name
      = (newestBody? name definitions).or (ctx.body? name) := by
  have hget : (Table.ofList definitions).get?
      = fun spelling => ((definitions.filter (·.1 = spelling)).getLast?).map Prod.snd :=
    funext (Table.get?_ofList definitions)
  rw [body?_defineAll, lastDefinition?_entries (Table.nodup_keys_ofList definitions),
    Table.keys_ofList, hget, newestBody?, newestSpelling?]

/-- If the last definition of a token has the newest spelling of its name, the two are the same. -/
theorem newestBody?_eq {name : String} {definitions : List (String × TokenBody)}
    (h : newestSpelling? name definitions = (lastDefinition? name definitions).map Prod.fst) :
    newestBody? name definitions = (lastDefinition? name definitions).map Prod.snd := by
  rw [newestBody?, h]
  cases hlast : lastDefinition? name definitions with
  | none => rfl
  | some d =>
    have hkey : key d.1 = key name := by
      simpa using (List.mem_filter.1 (List.mem_of_getLast? hlast)).2
    -- The definitions in this spelling are among those of the token, and the last of these is one of them.
    have hfilter : definitions.filter (·.1 = d.1)
        = (definitions.filter (key ·.1 = key name)).filter (·.1 = d.1) := by
      rw [List.filter_filter]
      refine List.filter_congr fun e _ => ?_
      by_cases he : e.1 = d.1
      · simp [he, hkey]
      · simp [he]
    obtain ⟨front, hfront⟩ := List.getLast?_eq_some_iff.1 hlast
    show ((definitions.filter (·.1 = d.1)).getLast?).map Prod.snd = some d.2
    rw [hfilter, hfront, List.filter_append]
    simp

end Context

/-! ### The tokens of a configuration -/

/-- A reader of nodes with a function behind it reads a text with that function behind it. -/
theorem Yaml.parseWith_map {α β : Type} (f : α → β) (reader : Yaml.Node → Except Yaml.Fault α)
    (text : String) :
    Yaml.parseWith (fun n => (reader n).map f) text = (Yaml.parseWith reader text).map f := by
  simp only [Yaml.parseWith]
  generalize Yaml.EventStream.ofTokens (Yaml.TokenStream.ofText text.toList) = stream
  -- What was read is mapped, and the faults behind it stay.
  cases reader (Yaml.Node.ofEvents stream) with
  | error fault => rfl
  | ok x =>
    simp only [Except.map, bind, Except.bind]
    cases stream.fault? with
    | some fault => rfl
    | none =>
      cases stream.more with
      | true => rfl
      | false => rfl

namespace Config

/-- The definitions in a mapping, one for each entry. -/
def definitionsOf (n : Yaml.Node) : Except Yaml.Fault (List (String × TokenBody)) := do
  (← yamlEntries n).mapM fun (k, v) => do
    let name ← yamlKey k
    let body ← orRefuse "no token definition" (TokenBody.ofValue? (← v.content))
    return (name, body)

/-- The definitions in the text of a tokens file, in their order. -/
def readDefinitions (path text : String) : Except Error (List (String × TokenBody)) :=
  if Text.allBlank text then .ok []
  else match Yaml.parseWith definitionsOf text with
    | .ok definitions => .ok definitions
    | .error fault =>
      .error (.config ("Invalid custom tokens in " ++ path ++ ": " ++ fault.problem))

/-- The definitions in the tokens file, if there is one. -/
def fileDefinitions (c : Config) (fs : Files.FileSystem) : Except Error (List (String × TokenBody)) :=
  match c.tokensFile? with
  | none => .ok []
  | some path => do readDefinitions path (← readFile fs path)

theorem yamlTokens_eq (n : Yaml.Node) : yamlTokens n = (definitionsOf n).map Table.ofList := by
  rw [yamlTokens, definitionsOf]
  cases yamlEntries n with
  | error fault => rfl
  | ok entries => rfl

theorem parseTokens_eq (path text : String) :
    parseTokens path text = (readDefinitions path text).map Table.ofList := by
  have hparse : Yaml.parseWith yamlTokens text
      = (Yaml.parseWith definitionsOf text).map Table.ofList := by
    rw [← Yaml.parseWith_map, funext yamlTokens_eq]
  rw [parseTokens, readDefinitions, hparse]
  -- A blank file has no definitions.
  by_cases hblank : Text.allBlank text
  · simp only [hblank, if_true]
    rfl
  · simp only [hblank]
    cases Yaml.parseWith definitionsOf text with
    | error fault => rfl
    | ok definitions => rfl

/-- The table of the tokens is that of the inline definitions with those of the tokens file behind them. -/
theorem allTokens_eq (c : Config) (inline : List (String × TokenBody)) (fs : Files.FileSystem) :
    { c with tokens := .ofList inline }.allTokens fs
      = (c.fileDefinitions fs).map fun more => Table.ofList (inline ++ more) := by
  rw [allTokens, fileDefinitions]
  cases c.tokensFile? with
  | none => simp only [Except.map, List.append_nil]
  | some path =>
    cases htext : readFile fs path with
    | error e => simp only [htext, bind, Except.bind, Except.map]
    | ok text =>
      simp only [htext, parseTokens_eq, bind, Except.bind]
      cases readDefinitions path text with
      | error e => rfl
      | ok more =>
        -- The definitions of the file are put behind those given inline, as in one list.
        have hmore : (Table.ofList inline).insertAll (Table.ofList more).entries
            = Table.ofList (inline ++ more) := by
          rw [Table.insertAll_ofList, Table.ofList_append]
        simp only [Except.map, pure, Except.pure, hmore]

/-- What a name stands for in the context of the built-in tokens and those of a configuration. -/
def resolve (c : Config) (fs : Files.FileSystem) (title description name : String) :
    Except Error (Option TokenBody) :=
  (c.allTokens fs).map fun tokens =>
    ((Context.ofTitle title description).defineAll tokens.entries).body? name

/-- **Which definition counts.** For each name it is the last definition in the newest spelling of the name, among
    the inline definitions with those of the tokens file behind them; without one it is what is built in. Where
    the last definition of all has the newest spelling, it is the one that counts: one in the tokens file if there
    is any, else an inline one. -/
theorem resolve_eq (c : Config) (inline : List (String × TokenBody)) (fs : Files.FileSystem)
    (title description name : String) :
    let builtIn := (Context.ofTitle title description).body? name
    let resolved := { c with tokens := .ofList inline }.resolve fs title description name
    resolved = ((c.fileDefinitions fs).map fun more =>
      (Context.newestBody? name (inline ++ more)).or builtIn) ∧
    ∀ more, c.fileDefinitions fs = .ok more →
      Context.newestSpelling? name (inline ++ more)
        = (Context.lastDefinition? name (inline ++ more)).map Prod.fst →
      resolved = .ok (((Context.lastDefinition? name more).map Prod.snd).or
        (((Context.lastDefinition? name inline).map Prod.snd).or builtIn)) := by
  intro builtIn resolved
  -- The table of all definitions is made into a context.
  have hresolved : resolved = (c.fileDefinitions fs).map fun more =>
      (Context.newestBody? name (inline ++ more)).or builtIn := by
    simp only [resolved, resolve, allTokens_eq]
    cases c.fileDefinitions fs with
    | error e => simp only [Except.map]
    | ok more => simp only [Except.map, Context.body?_defineAll_ofList, builtIn]
  refine ⟨hresolved, ?_⟩
  intro more hmore hnewest
  -- The newest spelling is the one defined last, in the file if it defines the name at all.
  rw [hresolved, hmore, Except.map, Context.newestBody?_eq hnewest, Context.lastDefinition?_append]
  cases Context.lastDefinition? name more with
  | none => simp only [Option.map_none, Option.none_or]
  | some d => simp only [Option.map_some, Option.some_or]

/-! ### A name in several spellings -/

/-- A configuration that defines one token in two spellings, and names a tokens file. -/
def twiceSpelled : Config where
  tokensFile? := some "tokens.yaml"
  tokens := .ofList [("Email", .text "one"), ("email", .text "two")]

def tokensFileOf (text : String) : Files.FileSystem := ⟨[(["tokens.yaml"], .file (.text text))], []⟩

/-- A tokens file in a third spelling: its definition is the last one and it counts. -/
theorem resolve_newest :
    twiceSpelled.fileDefinitions (tokensFileOf "EMAIL: three\n") = .ok [("EMAIL", .text "three")] ∧
    twiceSpelled.resolve (tokensFileOf "EMAIL: three\n") "Demo" "" "email" = .ok (some (.text "three")) := by
  have hmore : twiceSpelled.fileDefinitions (tokensFileOf "EMAIL: three\n")
      = .ok [("EMAIL", .text "three")] := by decide +kernel
  refine ⟨hmore, ?_⟩
  exact (resolve_eq twiceSpelled [("Email", .text "one"), ("email", .text "two")]
    (tokensFileOf "EMAIL: three\n") "Demo" "" "email").2 _ hmore (by decide +kernel)

/-- **A stale definition.** A tokens file that repeats the older one of two inline spellings changes nothing: the
    inline definition in the newer spelling still counts, and not the one in the tokens file. -/
theorem resolve_stale :
    twiceSpelled.fileDefinitions (tokensFileOf "Email: three\n") = .ok [("Email", .text "three")] ∧
    Context.lastDefinition? "email" [("Email", .text "three")] = some ("Email", .text "three") ∧
    twiceSpelled.resolve (tokensFileOf "Email: three\n") "Demo" "" "email" = .ok (some (.text "two")) := by
  refine ⟨?_, ?_, ?_⟩ <;> decide +kernel

end Config

end Scaffold
