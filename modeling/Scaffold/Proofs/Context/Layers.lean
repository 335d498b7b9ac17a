import Scaffold.Proofs.Config.Precedence

namespace Scaffold

/-!
# Contexts in layers

A context starts with the tokens that are built in, and whatever narrows it lays more definitions on top: custom
tokens, overrides, the tokens of a file. Each definition changes two tables, that of the texts and that of the
code, and keeps them in step.

* `Context.IsSplit` — no name is twice in a table, and none is in both tables; `Context.isSplit_layered`, that it
  is so in all contexts;
* `Context.value?_define`, `Context.code?_define`, `Context.filter_values_define` — what one definition changes,
  and what it leaves alone;
* `Context.view_defineAll` — what is decided by the last definition after each one is so after all of them;
* `Context.layered_tables` — the tables of a context, whatever layers it has.
-/

namespace TokenBody

/-- The text of a token, if it has one. -/
def asText? : TokenBody → Option String
  | .text s => some s
  | .code _ => none

/-- The code of a token, if it has some. -/
def asCode? : TokenBody → Option String
  | .text _ => none
  | .code s => some s

end TokenBody

namespace Context

/-! ### One definition -/

/-- The tables share no name, and neither has one twice. -/
structure IsSplit (ctx : Context) : Prop where
  values_nodup : ctx.values.keys.Nodup
  codes_nodup : ctx.codes.keys.Nodup
  not_both : ∀ k, ¬ (k ∈ ctx.values.keys ∧ k ∈ ctx.codes.keys)

/-- Without names, none has both a text and code. -/
theorem isSplit_empty : IsSplit empty where
  values_nodup := List.nodup_nil
  codes_nodup := List.nodup_nil
  not_both _ h := List.not_mem_nil h.1

/-- What is put into the one table is taken out of the other. -/
theorem not_both_of_insert {α β : Type} {t : Table α} {u : Table β}
    (h : ∀ k, ¬ (k ∈ t.keys ∧ k ∈ u.keys)) (name : String) (value : α) (k : String) :
    ¬ (k ∈ (t.insert name value).keys ∧ k ∈ (u.erase name).keys) := by
  rintro ⟨hinsert, herase⟩
  rw [Table.keys_erase, List.mem_filter, bne_iff_ne] at herase
  rcases Table.mem_keys_insert.1 hinsert with heq | hold
  · exact herase.2 heq
  · exact h k ⟨hold, herase.1⟩

/-- A definition keeps the tables apart. -/
theorem IsSplit.define {ctx : Context} (h : ctx.IsSplit) (name : String) (body : TokenBody) :
    (ctx.define name body).IsSplit := by
  have nodup_erase {t : Table String} (ht : t.keys.Nodup) : (t.erase (key name)).keys.Nodup := by
    rw [Table.keys_erase]
    exact ht.filter _
  -- A definition enters one table and leaves the other, which keeps the two disjoint.
  cases body with
  | text s =>
    exact ⟨Table.nodup_keys_insert h.values_nodup _ s, nodup_erase h.codes_nodup,
      not_both_of_insert h.not_both (key name) s⟩
  | code s =>
    have hswap : ∀ k, ¬ (k ∈ ctx.codes.keys ∧ k ∈ ctx.values.keys) := fun k hk => h.not_both k hk.symm
    exact ⟨nodup_erase h.values_nodup, Table.nodup_keys_insert h.codes_nodup _ s,
      fun k hk => not_both_of_insert hswap (key name) s k hk.symm⟩

/-- A definition gives its name a text or takes it away, and no other name. -/
theorem value?_define (ctx : Context) (spelling name : String) (body : TokenBody) :
    (ctx.define spelling body).value? name
      = if key name = key spelling then body.asText? else ctx.value? name := by
  cases body with
  | text s => exact Table.get?_insert ctx.values (key spelling) (key name) s
  | code s => exact Table.get?_erase ctx.values (key spelling) (key name)

/-- Behind a definition, the name has its code, or none if it was defined as a text. -/
theorem code?_define (ctx : Context) (spelling name : String) (body : TokenBody) :
    (ctx.define spelling body).code? name
      = if key name = key spelling then body.asCode? else ctx.code? name := by
  cases body with
  | text s => exact Table.get?_erase ctx.codes (key spelling) (key name)
  | code s => exact Table.get?_insert ctx.codes (key spelling) (key name) s

/-- The texts of the other names stay as they are, in their order. -/
theorem filter_values_define (ctx : Context) (name : String) (body : TokenBody) :
    (ctx.define name body).values.entries.filter (·.1 ≠ key name)
      = ctx.values.entries.filter (·.1 ≠ key name) := by
  cases body with
  | text s => exact Table.filter_insertInto (key name) s ctx.values.entries
  | code s =>
    show (ctx.values.entries.filter (·.1 != key name)).filter (·.1 ≠ key name) = _
    rw [List.filter_filter]
    refine List.filter_congr fun e _ => ?_
    by_cases he : e.1 = key name <;> simp [he]

/-! ### Definitions one after the other -/

/-- Definitions in two stretches. -/
theorem defineAll_append (ctx : Context) (definitions more : List (String × TokenBody)) :
    ctx.defineAll (definitions ++ more) = (ctx.defineAll definitions).defineAll more :=
  List.foldl_append

/-- Definitions leave no name with both a text and code. -/
theorem IsSplit.defineAll {ctx : Context} (h : ctx.IsSplit) (definitions : List (String × TokenBody)) :
    (ctx.defineAll definitions).IsSplit := by
  induction definitions generalizing ctx with
  | nil => exact h
  | cons d definitions ih => exact ih (h.define d.1 d.2)

/-- What each definition of a name decides, and no other definition touches, is decided by the last definition of
    the name. -/
theorem view_defineAll {α : Type} (view : Context → α) (decided : TokenBody → α) (name : String)
    (h : ∀ ctx spelling body, view (ctx.define spelling body)
      = if key name = key spelling then decided body else view ctx)
    (ctx : Context) (definitions : List (String × TokenBody)) :
    view (ctx.defineAll definitions)
      = ((lastDefinition? name definitions).map (decided ·.2)).getD (view ctx) := by
  -- The last definition decides, so the induction is from behind.
  induction definitions using List.reverseRecOn with
  | nil => rfl
  | append_singleton definitions d ih =>
    obtain ⟨spelling, body⟩ := d
    have hstep : ctx.defineAll (definitions ++ [(spelling, body)])
        = (ctx.defineAll definitions).define spelling body := defineAll_append ctx definitions _
    rw [hstep, h, ih, lastDefinition?_append]
    by_cases hkey : key name = key spelling
    · simp [lastDefinition?, hkey]
    · simp [lastDefinition?, hkey, Ne.symm hkey]

/-! ### Layers -/

/-- What narrows a context. -/
inductive Layer where
  /-- Custom tokens, each a text or code. -/
  | tokens (definitions : List (String × TokenBody))
  | overrides (values : List (String × String))
  /-- The tokens of the file with the name. -/
  | file (name : String)

/-- The context with a layer on top. -/
def under (ctx : Context) : Layer → Context
  | .tokens definitions => ctx.defineAll definitions
  | .overrides values => ctx.overriding values
  | .file name => ctx.inFile name

/-- The context of the built-in tokens with layers on top. -/
def layered (title description : String) (layers : List Layer) : Context :=
  layers.foldl under (ofTitle title description)

/-- The definitions of the built-in tokens. -/
def builtIn (title description : String) : List (String × TokenBody) :=
  [("title", .text title), ("description", .text description), ("formatted_name", .text (slug title))]

/-- The definitions that a file brings with it: its name, and what is in front of the last dot of its name and
    behind it. -/
def fileDefinitions (name : String) : List (String × TokenBody) :=
  let (stem, extension) :=
    ((Files.Path.ofText name).fileName?.map Files.stemAndExtension).getD ("", none)
  [("filename", .text name), ("file_stem", .text stem), ("file_ext", .text (extension.getD ""))]

/-- The definitions of a layer, in their order. -/
def Layer.definitions : Layer → List (String × TokenBody)
  | .tokens definitions => definitions
  | .overrides values => values.map fun (name, value) => (name, .text value)
  | .file name => fileDefinitions name

/-- All definitions of a context in layers, from the first to the last. -/
def definitionsOf (title description : String) (layers : List Layer) : List (String × TokenBody) :=
  builtIn title description ++ layers.flatMap Layer.definitions

/-- A layer is a list of definitions. -/
theorem under_eq (ctx : Context) (layer : Layer) : ctx.under layer = ctx.defineAll layer.definitions := by
  cases layer with
  | tokens definitions => rfl
  | overrides values => rfl
  | file name => rfl

/-- Layers one after the other are a list of definitions. -/
theorem foldl_under (ctx : Context) (layers : List Layer) :
    layers.foldl under ctx = ctx.defineAll (layers.flatMap Layer.definitions) := by
  induction layers generalizing ctx with
  | nil => rfl
  | cons layer layers ih => rw [List.foldl_cons, ih, under_eq, List.flatMap_cons, defineAll_append]

/-- Layers are definitions one after the other, from no tokens at all. -/
theorem layered_eq (title description : String) (layers : List Layer) :
    layered title description layers = empty.defineAll (definitionsOf title description layers) := by
  rw [layered, foldl_under, definitionsOf, defineAll_append]
  rfl

/-- Behind any layers, no name has both a text and code. -/
theorem isSplit_layered (title description : String) (layers : List Layer) :
    (layered title description layers).IsSplit := by
  rw [layered_eq]
  exact isSplit_empty.defineAll _

/-- What is seen of a name in a context is what its last definition decides, and nothing if it has none. -/
theorem view_layered {α : Type} (view : Context → Option α) (decided : TokenBody → Option α) (name : String)
    (hempty : view empty = none)
    (hdefine : ∀ ctx spelling body, view (ctx.define spelling body)
      = if key name = key spelling then decided body else view ctx)
    (title description : String) (layers : List Layer) :
    view (layered title description layers)
      = (lastDefinition? name (definitionsOf title description layers)).bind (decided ·.2) := by
  rw [layered_eq, view_defineAll view decided name hdefine, hempty]
  cases lastDefinition? name (definitionsOf title description layers) with
  | none => rfl
  | some d => rfl

/-- A name has the text that its last definition is, if that is one. -/
theorem value?_layered (title description : String) (layers : List Layer) (name : String) :
    (layered title description layers).value? name
      = (lastDefinition? name (definitionsOf title description layers)).bind (·.2.asText?) :=
  view_layered (·.value? name) (·.asText?) name rfl (fun ctx spelling => ctx.value?_define spelling name)
    title description layers

/-- A name has the code of its last definition, if that is code. -/
theorem code?_layered (title description : String) (layers : List Layer) (name : String) :
    (layered title description layers).code? name
      = (lastDefinition? name (definitionsOf title description layers)).bind (·.2.asCode?) :=
  view_layered (·.code? name) (·.asCode?) name rfl (fun ctx spelling => ctx.code?_define spelling name)
    title description layers

/-- **The tables of a context.** Whatever layers a context has, no name is in both of its tables, nor twice in one. A
    name has the text or the code that its last definition gave it, whatever the case of the name and the blanks
    around it, and nothing without a definition. One more definition decides about its own name only, and leaves
    the texts of all others as they are, in their order. -/
theorem layered_tables (title description : String) (layers : List Layer) :
    let ctx := layered title description layers
    let given := definitionsOf title description layers
    ctx.IsSplit ∧
    (∀ name, ctx.value? name = (lastDefinition? name given).bind (·.2.asText?) ∧
      ctx.code? name = (lastDefinition? name given).bind (·.2.asCode?)) ∧
    ∀ spelling body,
      (∀ name, (ctx.define spelling body).value? name
          = (if key name = key spelling then body.asText? else ctx.value? name) ∧
        (ctx.define spelling body).code? name
          = if key name = key spelling then body.asCode? else ctx.code? name) ∧
      (ctx.define spelling body).values.entries.filter (·.1 ≠ key spelling)
        = ctx.values.entries.filter (·.1 ≠ key spelling) := by
  intro ctx given
  refine ⟨isSplit_layered title description layers, fun name => ⟨?_, ?_⟩, fun spelling body => ?_⟩
  · exact value?_layered title description layers name
  · exact code?_layered title description layers name
  · exact ⟨fun name => ⟨value?_define ctx spelling name body, code?_define ctx spelling name body⟩,
      filter_values_define ctx spelling body⟩

/-- A text hides the code that the name stood for, in any spelling. -/
example :
    let ctx := layered "Demo" "" [.tokens [("Year", .code "2000 + 26")], .overrides [(" YEAR ", "1999")]]
    ctx.value? "year" = some "1999" ∧ ctx.code? "year" = none := by decide +kernel

end Context

end Scaffold
