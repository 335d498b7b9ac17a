import Scaffold.Proofs.Template.Own

namespace Scaffold.Template

/-!
# Filters and values of a template's own

Filters give values that are made of the value in front of the bar and of their arguments.

* `Takes` — a step that takes arguments gives something that satisfies `P`, if the arguments are of the
  template's own;
* `own_filter?` — filters give values of a template's own for values of its own.
-/

open Value

/-! ### Arguments -/

/-- Arguments that are values of the template's own. -/
structure Arguments.Own (args : Arguments) : Prop where
  positional : ∀ v ∈ args.positional, v.Own
  named : ∀ e ∈ args.named?.getD [], e.2.Own

/-- All arguments in one list; those with a name are one mapping at its end. -/
theorem Arguments.Own.values {args : Arguments} (h : args.Own) : ∀ v ∈ args.values, v.Own := by
  intro v hv
  rcases List.mem_append.1 hv with hv | hv
  · exact h.positional v hv
  -- The named arguments count as one more value, a mapping of them.
  · obtain ⟨named, hnamed, rfl⟩ := Option.map_eq_some_iff.1 (Option.mem_toList.1 hv)
    refine own_ofNamed fun e he => h.named e ?_
    rw [hnamed]
    exact he

/-- Arguments without names. -/
theorem Arguments.own_ofList {values : List Value} (h : ∀ v ∈ values, v.Own) : (Arguments.ofList values).Own :=
  ⟨h, by simp [Arguments.ofList]⟩

namespace Parameters

variable {α β : Type}

/-- For arguments of the template's own, `x` gives something that satisfies `P` and leaves such arguments. -/
def Takes (x : Parameters α) (P : α → Prop) : Prop := ∀ args :
    Arguments, args.Own → Gives x args fun a rest => P a ∧ rest.Own

variable {P : α → Prop} {Q : β → Prop}

/-- A value that no argument is taken for. -/
theorem takes_pure {a : α} (h : P a) : Takes (pure a) P := fun _ hargs => gives_pure.2 ⟨h, hargs⟩

/-- A fault gives nothing. -/
theorem takes_throw {fault : Fault} : Takes (throw fault : Parameters α) P := fun _ _ => gives_throw

/-- A result that does not depend on the arguments. -/
theorem takes_lift {x : Except Fault α} (h : Returns x P) : Takes (liftM x) P :=
  fun _ hargs => gives_lift.2 (h.imp fun _ ha => ⟨ha, hargs⟩)

/-- A result that takes no argument and of which nothing is known. -/
theorem takes_any {x : Except Fault α} : Takes (liftM x) fun _ => True := takes_lift returns_any

/-- One step behind the other, on the arguments that are left. -/
theorem Takes.bind {x : Parameters α} {f : α → Parameters β} (h : Takes x P) (hf : ∀ a, P a → Takes (f a) Q) :
    Takes (x >>= f) Q :=
  fun args hargs => (h args hargs).bind fun a rest hrest => hf a hrest.1 rest hrest.2

/-- What follows from the property of a value is one of its properties. -/
theorem Takes.imp {P' : α → Prop} {x : Parameters α} (h : Takes x P) (hP : ∀ a, P a → P' a) : Takes x P' :=
  fun args hargs => (h args hargs).imp fun a _ ha => ⟨hP a ha.1, ha.2⟩

/-- One step for each item; the induction is on the items. -/
theorem takes_mapM {xs : List α} {f : α → Parameters β} (h : ∀ a ∈ xs, Takes (f a) Q) :
    Takes (xs.mapM f) fun ys => ∀ y ∈ ys, Q y := by
  induction xs with
  | nil => exact takes_pure (by simp)
  | cons a xs ih =>
    rw [List.mapM_cons]
    refine (h a List.mem_cons_self).bind fun y hy => ?_
    refine (ih fun b hb => h b (List.mem_cons_of_mem _ hb)).bind fun ys hys => ?_
    exact takes_pure (List.forall_mem_cons.2 ⟨hy, hys⟩)

/-- What passes a condition is part of what there was. -/
theorem takes_filterM {xs : List α} {f : α → Parameters Bool} (h : ∀ a ∈ xs, Takes (f a) fun _ => True) :
    Takes (xs.filterM f) fun ys => ∀ y ∈ ys, y ∈ xs := by
  -- The list is filtered by a loop that collects what it keeps in reverse.
  have haux (xs acc : List α) (h : ∀ a ∈ xs, Takes (f a) fun _ => True) :
      Takes (List.filterAuxM f xs acc) fun ys => ∀ y ∈ ys, y ∈ xs ∨ y ∈ acc := by
    induction xs generalizing acc with
    | nil => exact takes_pure fun y hy => .inr hy
    | cons a xs ih =>
      obtain ⟨ha, hxs⟩ := List.forall_mem_cons.1 h
      refine ha.bind fun b _ => (ih _ hxs).imp fun ys hys y hy => ?_
      rcases hys y hy with h | h
      · exact .inl (List.mem_cons_of_mem _ h)
      · cases b with
        | false => exact .inr h
        | true => exact (List.mem_cons.1 h).imp_left fun hy => List.mem_cons.2 (.inl hy)
  refine (haux xs [] h).bind fun ys hys => takes_pure fun y hy => ?_
  exact (hys y (List.mem_reverse.1 hy)).resolve_right List.not_mem_nil

/-- The next argument, if there is one. -/
theorem takes_next? : Takes next? fun v? => ∀ v, v? = some v → v.Own := by
  rintro ⟨positional, named?⟩ hargs v? rest h
  -- Positional arguments are taken first; then the named ones come as a mapping.
  cases positional with
  | cons v positional =>
    obtain ⟨hv, hpositional⟩ := List.forall_mem_cons.1 hargs.positional
    cases h
    exact ⟨fun w hw => (by cases hw; exact hv), hpositional, hargs.named⟩
  | nil =>
    -- There is one mapping of named arguments at most.
    cases named? with
    | none =>
      cases h
      exact ⟨fun w hw => (by cases hw), hargs⟩
    | some named =>
      cases h
      exact ⟨fun w hw => (by cases hw; exact own_ofNamed hargs.named), by simp, by simp⟩

/-- The next argument, which has to be there. -/
theorem takes_value : Takes value Own := by
  refine takes_next?.bind fun v? hv => ?_
  cases v? with
  | none => exact takes_throw
  | some v => exact takes_pure (hv v rfl)

/-- The next argument, converted, if there is one. -/
theorem takes_optional {convert : Value → Except Fault α} (h : ∀ v, v.Own → Returns (convert v) P) :
    Takes (optional convert) fun a? => ∀ a, a? = some a → P a := by
  refine takes_next?.bind fun v? hv => ?_
  -- An argument that is left out, undefined or none is no value.
  split
  · exact takes_pure (by simp)
  · exact takes_pure (by simp)
  · exact takes_pure (by simp)
  · rename_i v _ _
    exact (takes_lift (h v (hv v rfl))).bind fun a ha => takes_pure fun b hb => by cases hb; exact ha

/-- An argument of which nothing is known but that it is there. -/
theorem takes_optional_any {convert : Value → Except Fault α} : Takes (optional convert) fun _ => True :=
  (takes_optional fun _ _ => returns_any).imp fun _ _ => trivial

/-- All arguments without a name that are left. -/
theorem takes_rest : Takes rest fun vs => ∀ v ∈ vs, v.Own := by
  rintro args hargs vs left h
  cases h
  exact ⟨hargs.values, Arguments.own_ofList (by simp)⟩

/-- All arguments with a name. -/
theorem takes_namedArguments : Takes namedArguments fun named => ∀ e ∈ named, e.2.Own := by
  rintro args hargs named left h
  cases h
  exact ⟨hargs.named, hargs.positional, by simp⟩

/-- No argument with a name may be left. -/
theorem takes_refuseNamed : Takes refuseNamed fun _ => True := by
  rintro args hargs u left h
  unfold refuseNamed at h
  rw [apply_bind] at h
  dsimp only [apply_get] at h
  -- A named argument is refused; without one nothing changes.
  split at h
  · cases h
  · cases h
    exact ⟨trivial, hargs⟩

/-- An argument that has to be a text. -/
theorem takes_text : Takes text fun _ => True :=
  takes_refuseNamed.bind fun _ _ => takes_value.bind fun _ _ => takes_lift returns_any

/-- An argument that has to be a number. -/
theorem takes_nat : Takes nat fun _ => True := takes_value.bind fun _ _ => takes_lift returns_any

/-- An argument that may be left out and has to be a text. -/
theorem takes_optionalText : Takes optionalText fun _ => True := takes_refuseNamed.bind fun _ _ => takes_optional_any

/-- The end of the arguments: none may be left. -/
theorem takes_finish : Takes finish fun _ => True := by
  rintro args hargs u left h
  unfold finish at h
  rw [apply_bind] at h
  dsimp only [apply_get] at h
  -- The end is reached when no argument is left.
  split at h
  · cases h
    exact ⟨trivial, hargs⟩
  · cases h

/-- What steps give for arguments of the template's own. -/
theorem Takes.run {x : Parameters α} (h : Takes x P) {args : Arguments} (hargs : args.Own) :
    Returns (run x args) P := by
  intro a ha
  unfold Parameters.run at ha
  cases hrun : StateT.run (do let a ← x; finish; return a) args with
  | error fault =>
    rw [hrun] at ha
    cases ha
  | ok r =>
    rw [hrun] at ha
    cases ha
    -- The arguments are taken, and nothing may be left of them.
    have hx : Takes (do let a ← x; finish; return a) P :=
      h.bind fun a ha => takes_finish.bind fun _ _ => takes_pure ha
    exact (hx args hargs r.1 r.2 hrun).1

end Parameters

/-! ### Filters on texts -/

/-- For values and arguments of the template's own, the filter gives a value of its own. -/
def Filter.Own (f : Filter) : Prop :=
  ∀ mode v args, v.Own → Arguments.Own args → Returns (f mode v args) Value.Own

namespace TextFilter

open Parameters

/-- A text that is as safe as the value it was made of is no object at all. -/
theorem own_likewise (v : Value) (s : String) : (likewise v s).Own := by
  unfold likewise
  split
  · exact own_string _ _
  · exact own_text _

/-- A list of texts. -/
theorem own_texts (pieces : List (List Char)) : (texts pieces).Own := by
  refine own_sequence.2 fun v hv => ?_
  obtain ⟨p, -, rfl⟩ := List.mem_map.1 hv
  exact own_text _

/-- Replacing makes a text. -/
theorem own_replace : Filter.Own replace := by
  intro mode v args hv hargs
  refine Takes.run ?_ hargs
  refine takes_value.bind fun piece _ => takes_value.bind fun new _ => ?_
  dsimp only
  -- Under escaping, one safe text makes the result safe.
  split
  · exact takes_pure (own_string _ _)
  · exact takes_pure (own_text _)

/-- Trimming makes a text. -/
theorem own_trim : Filter.Own trim := by
  intro mode v args hv hargs
  refine Takes.run (takes_optionalText.bind fun set? _ => ?_) hargs
  split
  · exact takes_pure (own_likewise _ _)
  · exact takes_pure (own_likewise _ _)

/-- Splitting makes a list of texts. -/
theorem own_split : Filter.Own split := by
  intro mode v args hv hargs
  refine Takes.run (takes_optionalText.bind fun sep? _ => takes_optional_any.bind fun limit? _ => ?_) hargs
  exact takes_pure (own_texts _)

/-- Indenting makes a text. -/
theorem own_indent : Filter.Own indent := by
  intro mode v args hv hargs
  refine Takes.run (takes_namedArguments.bind fun named _ => takes_optional_any.bind fun width? _ =>
    takes_optional_any.bind fun first? _ => takes_optional_any.bind fun blank? _ => ?_) hargs
  refine takes_any.bind fun width _ => takes_any.bind fun first _ => takes_any.bind fun blank _ => ?_
  exact takes_any.bind fun _ _ => takes_pure (own_likewise _ _)

/-- Escaping makes a text. -/
theorem own_escape : Filter.Own escape := by
  intro mode v args hv hargs
  refine returns_any.bind fun _ _ => ?_
  split
  · exact returns_pure.2 (own_string _ _)
  · exact returns_any.bind fun _ _ => returns_pure.2 (own_string _ _)
  · exact returns_pure.2 (own_string _ _)

/-- Marking as safe keeps the text. -/
theorem own_safe : Filter.Own safe := by
  intro mode v args hv hargs
  exact returns_any.bind fun _ _ => returns_pure.2 (own_string _ _)

/-- The text of a value as JSON. -/
theorem own_json : Filter.Own json := by
  intro mode v args hv hargs
  refine Takes.run (takes_namedArguments.bind fun named _ => takes_optional_any.bind fun first _ => ?_) hargs
  refine takes_any.bind fun _ _ => takes_any.bind fun l _ => takes_any.bind fun s _ => ?_
  exact takes_pure (own_string _ _)

/-- The text of a value for an address. -/
theorem own_urlEncode : Filter.Own urlEncode := by
  intro mode v args hv hargs
  refine returns_any.bind fun _ _ => ?_
  split
  all_goals exact returns_pure.2 (own_text _)

/-- Formatting makes a text of the arguments. -/
theorem own_format : Filter.Own format := by
  intro mode v args hv hargs
  exact returns_any.bind fun _ _ => returns_any.bind fun _ _ => returns_pure.2 (own_likewise _ _)

/-- Filters that change a text. -/
theorem own_onText (f : String → String) : Filter.Own (onText f) := by
  intro mode v args hv hargs
  exact returns_any.bind fun _ _ => returns_pure.2 (own_text _)

/-- Filters that change a text and keep its mark. -/
theorem own_keepingSafe (f : String → String) : Filter.Own (keepingSafe f) := by
  intro mode v args hv hargs
  exact returns_any.bind fun _ _ => returns_pure.2 (own_likewise _ _)

/-- The lines of a text. -/
theorem own_lines : Filter.Own lines := by
  intro mode v args hv hargs
  exact returns_any.bind fun _ _ => returns_pure.2 (own_texts _)

/-- All filters of texts. -/
theorem own_all : ∀ f ∈ all, Filter.Own f.2 := by
  simp only [all, List.forall_mem_cons, own_onText, own_keepingSafe, own_safe, own_escape, own_replace,
    own_trim, own_split,
    own_lines, own_indent, own_json, own_urlEncode, own_format]
  simp

end TextFilter

/-! ### Filters on lists -/

namespace ListFilter

open Parameters

/-- A filter without arguments of its own. -/
theorem own_plain {f : Value → Except Fault Value} (h : ∀ v, v.Own → Returns (f v) Value.Own) : Filter.Own (plain f) :=
  fun _ v _ hv _ => returns_any.bind fun _ _ => h v hv

/-- A length is a number. -/
theorem returns_length {v : Value} : Returns (length v) Own := by
  unfold length
  split
  · exact returns_ok.2 (own_int _)
  · exact returns_error

/-- A list has the items of the value. -/
theorem returns_toList {v : Value} (hv : v.Own) : Returns (toList v) Own :=
  (returns_items hv).bind fun _ h => returns_pure.2 (own_sequence.2 h)

/-- Reversing keeps the items. -/
theorem returns_reverse {v : Value} (hv : v.Own) : Returns (reverse v) Own := by
  unfold reverse
  -- Texts are turned around character by character, other values item by item.
  split
  · exact returns_ok.2 own_undefined
  · exact returns_ok.2 own_none
  · exact returns_ok.2 (own_string _ _)
  · split
    · rename_i items h
      exact returns_ok.2 (own_list.2 fun w hw => own_items? hv h w (List.mem_reverse.1 hw))
    · exact returns_error

/-- The first item. -/
theorem returns_first {v : Value} (hv : v.Own) : Returns (first v) Own := by
  unfold first
  split
  · exact returns_error
  · exact returns_error
  · split
    · rename_i items h
      exact returns_ok.2 (own_getD (fun w hw => own_items? hv h w (List.mem_of_head? hw)) own_undefined)
    · exact returns_error

/-- The last item. -/
theorem returns_last {v : Value} (hv : v.Own) : Returns (last v) Own := by
  unfold last
  split
  · exact returns_ok.2 (own_getD (fun w hw => own_chars _ w (List.mem_of_getLast? hw)) own_undefined)
  · exact returns_ok.2 (own_getD (fun w hw => own_list.1 hv w (List.mem_of_getLast? hw)) own_undefined)
  · exact returns_error

/-- The least or greatest item is an item, or undefined if there is none. -/
theorem own_extreme {greatest : Bool} {items : List Value} (h : ∀ v ∈ items, v.Own) : (extreme greatest items).Own := by
  cases items with
  | nil => exact own_undefined
  | cons v vs =>
    obtain ⟨hv, hvs⟩ := List.forall_mem_cons.1 h
    -- The best value so far is one of the items, and so is the next one.
    refine List.foldlRecOn vs _ hv fun best hbest w hw => ?_
    split_ifs
    all_goals first | exact hvs w hw | exact hbest

/-- Sorting keeps the items. -/
theorem own_sort : Filter.Own sort := by
  intro mode v args hv hargs
  refine Takes.run (takes_namedArguments.bind fun named _ =>
    (takes_lift (returns_items hv)).bind fun items hitems => ?_) hargs
  refine takes_any.bind fun _ _ => takes_any.bind fun _ _ => takes_any.bind fun _ _ => takes_any.bind fun _ _ => ?_
  exact takes_pure (own_sequence.2 fun w hw => hitems w (List.mem_mergeSort.1 hw))

/-- Keys and values, as lists of two. -/
theorem own_pairs {entries : List (Value × Value)} (h : ∀ e ∈ entries, e.1.Own ∧ e.2.Own) :
    ∀ v ∈ entries.map fun (k, w) => Value.sequence [k, w], v.Own := by
  intro v hv
  obtain ⟨e, he, rfl⟩ := List.mem_map.1 hv
  simp [(h e he).1, (h e he).2]

/-- Sorting a mapping keeps its keys and values, as pairs. -/
theorem own_dictSort : Filter.Own dictSort := by
  intro mode v args hv hargs
  refine Takes.run (takes_namedArguments.bind fun named _ => ?_) hargs
  -- The entries are sorted by key or by value, but stay the same entries.
  split
  · rename_i entries hentries
    refine takes_any.bind fun _ _ => takes_any.bind fun _ _ => takes_any.bind fun _ _ => takes_any.bind fun _ _ => ?_
    refine takes_pure (own_sequence.2 (own_pairs fun e he => own_entries? hv hentries e ?_))
    exact List.mem_mergeSort.1 he
  · exact takes_throw

/-- The pairs of a mapping are lists of its keys and values. -/
theorem returns_pairs {v : Value} (hv : v.Own) : Returns (pairs v) Own := by
  unfold pairs
  split
  · rename_i entries h
    exact returns_ok.2 (own_list.2 (own_pairs (own_entries? hv h)))
  · exact returns_error

/-- The items that are kept are among the items; the induction is on these. -/
theorem mem_of_mem_distinct {key : Value → Value} {seen items : List Value} {v : Value}
    (h : v ∈ distinct key seen items) :
    v ∈ items := by
  induction items generalizing seen with
  | nil => cases h
  | cons w items ih =>
    rw [distinct] at h
    -- An item that was seen before is left out.
    split at h
    · exact List.mem_cons_of_mem _ (ih h)
    · exact (List.mem_cons.1 h).elim (fun h => h ▸ List.mem_cons_self) fun h => List.mem_cons_of_mem _ (ih h)

/-- Leaving out what is there twice keeps items. -/
theorem own_unique : Filter.Own unique := by
  intro mode v args hv hargs
  refine Takes.run (takes_namedArguments.bind fun named _ => ?_) hargs
  refine takes_any.bind fun _ _ => takes_any.bind fun _ _ => takes_any.bind fun _ _ => ?_
  refine (takes_lift (returns_items hv)).bind fun items hitems => ?_
  exact takes_pure (own_sequence.2 fun w hw => hitems w (mem_of_mem_distinct hw))

/-- What a path leads to is inside of the value. -/
theorem returns_path {v : Value} (hv : v.Own) (p : String) : Returns (path v p) Own :=
  returns_foldlM hv fun _ hw step _ => returns_item hw (pathKey step)

/-- What a path leads to, or the value in its place. -/
theorem own_pathOr {default v : Value} (hdefault : default.Own) (hv : v.Own) (p : String) :
    (pathOr default v p).Own := by
  unfold pathOr
  -- A path that leads nowhere gives the default.
  split
  · exact hdefault
  · exact hdefault
  · rename_i w _ h
    exact returns_path hv p w h

/-- Keys and members of runs. -/
theorem own_runs {same : Value → Value → Bool} {key : Value → Value} {items : List Value} (h : ∀ v ∈ items, v.Own)
    (hkey : ∀ v, v.Own → (key v).Own) : ∀ run ∈ runs same key items, run.1.Own ∧ ∀ w ∈ run.2, w.Own := by
  -- The induction is on the items; a run is a key with the items that have it.
  induction items with
  | nil => simp [runs]
  | cons v items ih =>
    obtain ⟨hv, hitems⟩ := List.forall_mem_cons.1 h
    have ih := ih hitems
    rw [runs]
    split
    · rename_i k members rest heq
      rw [heq] at ih
      obtain ⟨hrun, hrest⟩ := List.forall_mem_cons.1 ih
      split
      · exact List.forall_mem_cons.2 ⟨⟨hkey v hv, List.forall_mem_cons.2 ⟨hv, hrun.2⟩⟩, hrest⟩
      · exact List.forall_mem_cons.2 ⟨⟨hkey v hv, by simpa using hv⟩, ih⟩
    · simpa using ⟨hkey v hv, hv⟩

/-- Groups are made of the items and of what a path leads to inside of them. -/
theorem own_groupBy : Filter.Own groupBy := by
  intro mode v args hv hargs
  refine Takes.run (takes_namedArguments.bind fun named hnamed => takes_optional_any.bind fun path? _ => ?_) hargs
  refine takes_any.bind fun caseSensitive _ => ?_
  extract_lets grouped
  -- The filter goes on in the same way, wherever the path comes from.
  have hgrouped (path : String) : Takes (grouped path) Value.Own := by
    refine takes_any.bind fun _ _ => (takes_lift (returns_items hv)).bind fun items hitems => takes_pure ?_
    refine own_sequence.2 fun w hw => ?_
    -- The key of an item is found in the item, or it is the default.
    have hkey (u : Value) (hu : u.Own) : (pathOr ((named.lookup "default").getD .undefined) u path).Own :=
      own_pathOr (own_getD (fun _ h => own_of_lookup hnamed h) own_undefined) hu path
    obtain ⟨⟨k, members⟩, hrun, rfl⟩ := List.mem_map.1 hw
    obtain ⟨hk, hmembers⟩ := own_runs (fun u hu => hitems u (List.mem_mergeSort.1 hu)) hkey _ hrun
    refine own_list.2 (List.forall_mem_cons.2 ⟨own_getD (fun u hu => ?_) hk, by simpa using hmembers⟩)
    obtain ⟨last, hlast, rfl⟩ := Option.map_eq_some_iff.1 hu
    exact hkey last (hmembers last (List.mem_of_getLast? hlast))
  split
  · exact hgrouped _
  · split
    · exact takes_any.bind fun path _ => hgrouped path
    · exact takes_throw.bind (P := fun _ => True) fun path _ => hgrouped path

/-! ### Rows and columns -/

/-- The items of the rows are the items; the induction is on how many rows there may be. -/
theorem mem_of_mem_rows {n bound : Nat} {items row : List Value} {v : Value} (hrow : row ∈ rows n bound items)
    (hv : v ∈ row) : v ∈ items := by
  induction bound generalizing items with
  | zero => cases hrow
  | succ bound ih =>
    cases items with
    | nil => cases hrow
    | cons w items =>
      rw [rows] at hrow
      -- A row is a beginning of the items; the next rows are made of what is behind it.
      · rcases List.mem_cons.1 hrow with rfl | hrow
        · exact List.mem_of_mem_take hv
        · exact List.mem_of_mem_drop (ih hrow)
      · exact List.cons_ne_nil _ _

/-- A row that is made longer has the value that it is filled with. -/
theorem own_fillRow {n : Nat} {fill? : Option Value} {row : List Value} (hfill : ∀ v, fill? = some v → v.Own)
    (h : ∀ v ∈ row, v.Own) : ∀ v ∈ fillRow n fill? row, v.Own := by
  cases fill? with
  | none => exact h
  | some fill =>
    -- A short row is filled up with one value.
    refine List.forall_mem_append.2 ⟨h, fun v hv => ?_⟩
    rw [List.eq_of_mem_replicate hv]
    exact hfill fill rfl

/-- Rows of a given length. -/
theorem own_batch : Filter.Own batch := by
  intro mode v args hv hargs
  refine Takes.run (takes_nat.bind fun n _ => (takes_optional (P := Value.Own) fun _ hw => returns_pure.2 hw).bind
    fun fill? hfill => ?_) hargs
  dsimp only
  split
  · exact takes_throw.bind (P := fun _ => False) fun _ h => h.elim
  · refine (takes_lift (returns_items hv)).bind fun items hitems => takes_pure (own_sequence.2 fun w hw => ?_)
    -- A row holds items, with the fill value behind them if it is short.
    obtain ⟨row, hrow, rfl⟩ := List.mem_map.1 hw
    exact own_sequence.2 (own_fillRow hfill fun u hu => hitems u (mem_of_mem_rows hrow hu))

/-- Columns have items, and the value that they are filled with. -/
theorem own_columns {size longer n : Nat} {fill? : Option Value} {items column : List Value}
    (hfill : ∀ v, fill? = some v → v.Own) (h : ∀ v ∈ items, v.Own)
      (hcolumn : column ∈ columns size longer fill? n items) :
    ∀ v ∈ column, v.Own := by
  -- A column takes its items from the front and leaves the rest to the other columns.
  induction n generalizing longer items with
  | zero => cases hcolumn
  | succ n ih =>
    rw [columns] at hcolumn
    rcases List.mem_cons.1 hcolumn with rfl | hcolumn
    · intro v hv
      split at hv
      · rcases List.mem_append.1 hv with hv | hv
        · exact h v (List.mem_of_mem_take hv)
        · exact hfill v (Option.mem_toList.1 hv)
      · exact h v (List.mem_of_mem_take hv)
    · exact ih (fun v hv => h v (List.mem_of_mem_drop hv)) hcolumn

/-- Columns of items. -/
theorem own_slice : Filter.Own slice := by
  intro mode v args hv hargs
  refine Takes.run (takes_nat.bind fun n _ => (takes_optional (P := Value.Own) fun _ hw => returns_pure.2 hw).bind
    fun fill? hfill => ?_) hargs
  dsimp only
  split
  · exact takes_throw.bind (P := fun _ => False) fun _ h => h.elim
  · refine (takes_lift (returns_items hv)).bind fun items hitems => takes_pure (own_sequence.2 fun w hw => ?_)
    -- As in a batch, with columns for rows.
    obtain ⟨column, hcolumn, rfl⟩ := List.mem_map.1 hw
    exact own_sequence.2 (own_columns hfill hitems hcolumn)

/-- Joining makes a text. -/
theorem own_join : Filter.Own join := by
  intro mode v args hv hargs
  refine Takes.run (takes_optional_any.bind fun joiner? _ => ?_) hargs
  dsimp only
  split
  · exact takes_throw
  · split
    · exact takes_pure (own_string _ _)
    · exact takes_pure (own_text _)

/-- What a value has as items, or a fault in their place. -/
theorem own_itemsOrFault {v : Value} (hv : v.Own) : ∀ w ∈ itemsOrFault v, w.Own := by
  unfold itemsOrFault
  split
  · rename_i items h
    exact returns_items hv items h
  · simp

/-- Lists one behind the other. -/
theorem own_chain : Filter.Own chain := by
  intro mode v args hv hargs
  refine Takes.run (takes_rest.bind fun more hmore => ?_) hargs
  have hall : ∀ w ∈ v :: more, w.Own := List.forall_mem_cons.2 ⟨hv, hmore⟩
  dsimp only
  -- Either all values are mappings, which become one, or their items follow each other.
  split
  · refine takes_pure (own_map.2 ?_)
    refine List.foldlRecOn (motive := fun (entries : List (Value × Value)) => ∀ e ∈ entries, e.1.Own ∧ e.2.Own) _ _
      (by simp)
      fun entries hentries es hes => ?_
    obtain ⟨w, hw, hes⟩ := List.mem_filterMap.1 hes
    exact own_putAll hentries (own_entries? (hall w hw) hes)
  · refine takes_pure (own_list.2 fun w hw => ?_)
    obtain ⟨u, hu, hw⟩ := List.mem_flatMap.1 hw
    exact own_itemsOrFault (hall u hu) w hw

/-- The lists of the items at one place have items of the lists. -/
theorem own_transposed {n : Nat} {lists : List (List Value)} (h : ∀ items ∈ lists, ∀ v ∈ items, v.Own) :
    ∀ v ∈ transposed n lists, v.Own := by
  -- A row takes the heads of all lists and leaves their tails to the other rows.
  induction n generalizing lists with
  | zero => simp [transposed]
  | succ n ih =>
    rw [transposed]
    split
    · rename_i heads hheads
      refine List.forall_mem_cons.2 ⟨own_sequence.2 fun v hv => ?_, ih fun items hitems v hv => ?_⟩
      · obtain ⟨items, hitems, hhead⟩ := exists_of_mem_mapM hheads hv
        exact h items hitems v (List.mem_of_head? hhead)
      · obtain ⟨whole, hwhole, rfl⟩ := List.mem_map.1 hitems
        exact h whole hwhole v (List.mem_of_mem_tail hv)
    · simp

/-- Lists side by side. -/
theorem own_zip : Filter.Own zip := by
  intro mode v args hv hargs
  refine Takes.run (takes_rest.bind fun more hmore => ?_) hargs
  have hall : ∀ w ∈ v :: more, w.Own := List.forall_mem_cons.2 ⟨hv, hmore⟩
  refine (takes_mapM fun w hw => takes_lift (returns_items (hall w hw))).bind fun lists hlists => ?_
  exact takes_pure (own_list.2 (own_transposed hlists))

/-! ### Numbers and missing values -/

/-- An absolute value is a number. -/
theorem returns_absolute {v : Value} : Returns (absolute v) Own := by
  unfold absolute
  -- The smallest number has no absolute value in range.
  split
  · split
    · exact returns_error
    · exact returns_ok.2 (own_int _)
  · exact returns_ok.2 (own_float _)
  · exact returns_error

/-- Rounding makes a number. -/
theorem own_round : Filter.Own round := by
  intro mode v args hv hargs
  refine Takes.run (takes_optional_any.bind fun places? _ => ?_) hargs
  dsimp only
  split
  · exact takes_pure (own_int _)
  · exact takes_pure (own_float _)
  · exact takes_throw

/-- A whole number. -/
theorem returns_toInt {v : Value} : Returns (toInt v) Own := by
  unfold toInt
  split
  · exact returns_ok.2 (own_int _)
  · exact returns_ok.2 (own_int _)
  · exact returns_ok.2 (own_int _)
  · exact returns_ok.2 (own_int _)
  · exact returns_ok.2 (own_int _)
  -- A text is read as a whole number, or as a number whose places are dropped.
  · split
    · exact returns_ok.2 (own_int _)
    · exact returns_ok.2 (own_int _)
    · exact returns_error
  · exact returns_error

/-- A number with a fraction. -/
theorem returns_toFloat {v : Value} : Returns (toFloat v) Own := by
  unfold toFloat
  split
  · exact returns_ok.2 (own_float _)
  · exact returns_ok.2 (own_float _)
  · split
    · exact returns_ok.2 (own_float _)
    · exact returns_error
  · split
    · exact returns_ok.2 (own_float _)
    · exact returns_error

/-- A sum is a number, or one of the items. -/
theorem returns_sum {v : Value} (hv : v.Own) : Returns (sum v) Own := by
  refine (returns_items hv).bind fun items hitems => returns_foldlM (own_int 0) fun total htotal w hw => ?_
  split
  · exact returns_ok.2 htotal
  · split
    · exact returns_add htotal (hitems w hw)
    · exact returns_error

/-- A value, or the one in its place. -/
theorem own_default : Filter.Own default := by
  intro mode v args hv hargs
  refine Takes.run (takes_namedArguments.bind fun named hnamed => takes_next?.bind fun other? hother =>
    takes_next?.bind fun lax? _ => takes_any.bind fun _ _ => ?_) hargs
  dsimp only
  -- An undefined value is replaced, and with the second argument every one that counts as false.
  split
  · refine takes_pure (own_getD (fun w hw => ?_) (own_text _))
    cases other? with
    | none => exact own_of_lookup hnamed hw
    | some u => exact hother w hw
  · exact takes_pure hv

/-- One entry of a value. -/
theorem own_entry_ : Filter.Own entry_ := by
  intro mode v args hv hargs
  exact Takes.run (takes_value.bind fun key _ => takes_lift (returns_item hv key)) hargs

/-! ### Filters that apply others -/

/-- The items that a test holds for, or does not hold for. -/
theorem own_select (test? : String → Option ValueTest) (byAttribute keep : Bool) :
    Filter.Own (select test? byAttribute keep) := by
  intro mode v args hv hargs
  refine Takes.run ?_ hargs
  extract_lets chosen
  -- The filter goes on in the same way with an attribute and without one.
  have hchosen (path? : Option String) : Takes (chosen path?) Value.Own := by
    refine takes_optionalText.bind fun name? _ => takes_rest.bind fun more _ => ?_
    extract_lets kept
    have hkept (test : Value → Except Fault Bool) : Takes (kept test) Value.Own := by
      -- Of the items that are asked about, those that pass are kept.
      refine (takes_lift (returns_items hv)).bind fun items hitems => (takes_filterM fun w _ => ?_).bind
        fun passed hpassed => takes_pure (own_sequence.2 fun w hw => hitems w (hpassed w hw))
      extract_lets judged
      have hjudged (subject : Value) : Takes (judged subject) fun _ => True :=
        takes_any.bind fun _ _ => takes_pure trivial
      split
      · exact takes_any.bind fun subject _ => hjudged subject
      · exact hjudged w
    split
    · exact hkept _
    · split
      · exact hkept _
      · exact takes_throw.bind (P := fun _ => True) fun test _ => hkept test
  split
  · exact Takes.bind (P := fun _ => True) (fun args hargs => ((takes_text args hargs).imp fun _ _ h => h).map)
      fun path? _ => hchosen path?
  · exact hchosen none

/-- One entry of a value, or the value in its place. -/
theorem returns_entryOr {default v : Value} (hdefault : default.Own) (hv : v.Own) (key : Value) :
    Returns (entryOr default v key) Own := by
  unfold entryOr
  extract_lets found
  -- The entry is looked up by its path or as an item.
  have hfound : Returns found Own := by
    simp only [found]
    split
    · exact returns_path hv _
    · exact returns_item hv _
  clear_value found
  split
  · exact returns_ok.2 hdefault
  · rename_i w _
    exact returns_ok.2 (returns_ok.1 hfound)
  · split
    · exact returns_error
    · exact returns_ok.2 hdefault

/-- A filter or an entry of each item. -/
theorem own_mapItems {filter? : String → Option Filter} (h : ∀ name f, filter? name = some f → Filter.Own f) :
    Filter.Own (mapItems filter?) := by
  intro mode v args hv hargs
  refine Takes.run (takes_namedArguments.bind fun named hnamed => takes_rest.bind fun positional hpositional => ?_)
    hargs
  -- Either an attribute is mapped, or a filter with its arguments.
  split
  · rename_i key _
    dsimp only
    split
    · exact takes_throw.bind (P := fun _ => False) fun _ h => h.elim
    -- With an attribute, the part of each item or the default is kept.
    · refine takes_any.bind fun _ _ => (takes_lift (returns_items hv)).bind fun items hitems => ?_
      refine (takes_mapM fun w hw => takes_lift ?_).bind fun ws hws => takes_pure (own_sequence.2 hws)
      exact returns_entryOr (own_getD (fun _ h => own_of_lookup hnamed h) own_undefined) (hitems w hw) key
  · split
    · rename_i name more
      obtain ⟨-, hmore⟩ := List.forall_mem_cons.1 hpositional
      extract_lets applied
      have happlied (name : String) : Takes (applied name) Value.Own := by
        simp only [applied]
        split
        · exact takes_throw
        · rename_i f hf
          refine (takes_lift (returns_items hv)).bind fun items hitems => ?_
          refine (takes_mapM fun w hw => takes_lift ?_).bind fun ws hws => takes_pure (own_sequence.2 hws)
          exact h name f hf mode w _ (hitems w hw) (Arguments.own_ofList hmore)
      split
      · exact happlied _
      · exact takes_throw.bind (P := fun _ => True) fun name _ => happlied name
    · exact takes_throw

/-- All filters. -/
theorem own_all : ∀ f ∈ all, Filter.Own f.2 := by
  -- The smallest and the greatest item are items.
  have hextreme (greatest : Bool) (v : Value) (hv : v.Own) :
      Returns (do return extreme greatest (← v.items) : Except Fault Value) Value.Own :=
    (returns_items hv).bind fun _ h => returns_pure.2 (own_extreme h)
  simp only [all, List.forall_mem_cons, own_plain fun _ _ => returns_length, own_dictSort,
    own_plain fun _ hv => returns_pairs hv, own_plain fun _ hv => returns_reverse hv, own_join, own_default, own_round,
    own_plain fun _ _ => returns_absolute, own_plain fun _ _ => returns_toInt, own_plain fun _ _ => returns_toFloat,
    own_entry_, own_plain fun _ hv => returns_first hv, own_plain fun _ hv => returns_last hv, own_sort,
    own_plain fun _ hv => returns_toList hv, own_batch, own_slice, own_plain fun _ hv => returns_sum hv, own_unique,
    own_groupBy, own_chain, own_zip, true_and]
  refine ⟨own_plain (hextreme false), own_plain (hextreme true), own_plain fun v _ => returns_ok.2 ?_,
    own_plain fun v _ => returns_ok.2 (own_bool _), own_plain fun v _ => returns_ok.2 (own_text _), by simp⟩
  split
  · exact own_string _ _
  · exact own_text _

end ListFilter

/-- A filter that is found by its name is one of the list. -/
theorem own_of_mem {filters : List (String × Filter)} (h : ∀ f ∈ filters, Filter.Own f.2) {name : String} {f : Filter}
    (hf : filters.lookup name = some f) : Filter.Own f := by
  obtain ⟨_, _, rfl, -⟩ := List.lookup_eq_some_iff.1 hf
  exact h (name, f) (by simp)

/-- **Filters.** Filters give values of the template's own for values of its own. -/
theorem own_filter? {name : String} {f : Filter} (h : Registry.filter? name = some f) : Filter.Own f := by
  -- A filter that applies another one has one level less for it.
  have hwithin (n : Nat) : ∀ name f, Registry.filterWithin n name = some f → Filter.Own f := by
    induction n with
    | zero => intro name f hf; cases hf
    | succ n ih =>
      intro name f hf
      unfold Registry.filterWithin at hf
      -- The four filters that select and reject take a test by its name.
      split at hf
      · cases hf
        exact ListFilter.own_select _ _ _
      · cases hf
        exact ListFilter.own_select _ _ _
      · cases hf
        exact ListFilter.own_select _ _ _
      · cases hf
        exact ListFilter.own_select _ _ _
      · cases hf
        exact ListFilter.own_mapItems ih
      · rcases Option.or_eq_some_iff.1 hf with hf | ⟨-, hf⟩
        · exact own_of_mem TextFilter.own_all hf
        · exact own_of_mem ListFilter.own_all hf
  exact hwithin 100 name f h

end Scaffold.Template
