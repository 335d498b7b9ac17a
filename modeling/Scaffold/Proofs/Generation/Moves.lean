import Scaffold.Generation
import Scaffold.Proofs.Files.Folders
import Scaffold.Proofs.Generation.Variants
import Scaffold.Proofs.Steps
import Scaffold.Proofs.Trees
import Mathlib.Logic.Relation

namespace Scaffold.Generation

/-!
# Moves of a run

A run that writes a tree is made of four kinds of moves. What holds of each of them holds of the whole
run, whatever its outcome.

* `Move` — the moves: a question, folders that are added, something that is removed, a file that is written;
* `Moves.keeps` — no move makes a link or moves the working folder, and each entry stays in a folder;
* `generate_moves` — every run of `generate` is made of moves, if the names in the tree are normal and the
  file system has no links.
-/

open Files (Path FileSystem Location Entry)
open Files.Path (IsNormal)
open Conflict (Decision Question Callback)

variable {σ : Type}

/-! ### Steps that look and change -/

section Steps

variable {run : Run σ}

/-- A change of the files goes through, or it stops the run with a fault. -/
theorem ends_change {f : FileSystem → Option Files.Fault × FileSystem}
    {Q : Except Halt Unit → Run σ → Prop} :
    Ends (change f) run Q ↔
      match (f run.files).1 with
      | some fault => Q (.error (.failed (.io fault))) { run with files := (f run.files).2 }
      | none => Q (.ok ()) { run with files := (f run.files).2 } := by
  simp only [change, ends_bind, ends_get, ends_set]
  rcases f run.files with ⟨_ | fault, files⟩
  · exact ends_pure
  · exact ends_throw

/-- A change that may not be possible goes through, or it stops the run with a fault. -/
theorem ends_attempt {f : FileSystem → Except Files.Fault FileSystem}
    {Q : Except Halt Unit → Run σ → Prop} :
    Ends (attempt f) run Q ↔
      match f run.files with
      | .ok files => Q (.ok ()) { run with files := files }
      | .error fault => Q (.error (.failed (.io fault))) run := by
  rw [attempt, ends_change]
  cases f run.files <;> exact Iff.rfl

/-- A removal on the way does not change what comes out. -/
theorem value_of_remove_if {α : Type} {path : Path} {c : Prop} [Decidable c] {a : α} :
    Ends (if c then do
        change (·.remove path)
        return a
      else return a : Writing σ α) run fun r _ => ∀ b, r = .ok b → b = a := by
  -- A removal that fails gives no value.
  by_cases hc : c
  · rw [if_pos hc, ends_bind, ends_change]
    split
    · exact fun b hb => by cases hb
    · exact ends_pure.2 fun b hb => (Except.ok.inj hb).symm
  · rw [if_neg hc]
    exact ends_pure.2 fun b hb => (Except.ok.inj hb).symm

/-- The run after a question was asked, with the answer. -/
def Run.ask (run : Run σ) (callback : Callback σ) (question : Question) : Decision × Run σ :=
  let (answer, s) := callback run.files question run.callback
  (answer, { run with callback := s, events := run.events ++ [.asked question answer] })

/-- A decision is asked for, and the answer is kept; without a callback there is nothing to ask. -/
theorem ends_decide {plan : Plan σ} {path : Path} {isFolder : Bool}
    {Q : Except Halt Decision → Run σ → Prop} :
    Ends (decide plan path isFolder) run Q ↔
      match plan.callback? with
      | none => Q (.ok (if isFolder then .merge else .overwrite)) run
      | some callback =>
        Q (.ok (run.ask callback ⟨path, plan.destination, isFolder⟩).1)
          (run.ask callback ⟨path, plan.destination, isFolder⟩).2 := by
  rw [decide]
  cases plan.callback? with
  | none => exact ends_pure
  | some callback =>
    simp only [ends_bind, ends_get]
    show Ends (_ >>= _) run Q ↔ _
    simp only [ends_bind, ends_set, ends_pure]
    exact Iff.rfl

end Steps

/-! ### Paths below the destination -/

/-- The path leads along `way` from the destination. -/
structure Inside (plan : Plan σ) (path : Path) (way : List String) : Prop where
  absolute : path.absolute = plan.destination.absolute
  follow : ∀ at_, FileSystem.follow at_ path.pieces =
    FileSystem.follow at_ plan.destination.pieces ++ way
  plain : plan.destination.IsPlain → path.IsPlain

namespace Inside

variable {plan : Plan σ} {path : Path} {way : List String} {name : String}

/-- The destination is inside of itself. -/
theorem destination (plan : Plan σ) : Inside plan plan.destination [] where
  absolute := rfl
  follow _ := (List.append_nil _).symm
  plain := id

/-- A name behind a path inside of the destination. -/
theorem join (h : Inside plan path way) (hname : IsNormal name) :
    Inside plan (path.join name) (way ++ [name]) where
  absolute := (path.absolute_join hname).trans h.absolute
  follow at_ := by rw [FileSystem.follow_join at_ path hname, h.follow, List.append_assoc]
  plain hp := (h.plain hp).join hname

/-- A trimmed path inside of the destination. -/
theorem trimmed (h : Inside plan path way) : Inside plan path.trimmed way where
  absolute := h.absolute
  follow at_ := (FileSystem.follow_of_trims at_ path.trims_trimPieces).trans (h.follow at_)
  plain hp := (h.plain hp).trimmed

/-- A path inside of the destination is about what the way to it leads to from there. -/
theorem placeOf_eq (h : Inside plan path way) (fs : FileSystem) :
    fs.placeOf path = fs.placeOf plan.destination ++ way := by
  rw [FileSystem.placeOf, FileSystem.placeOf, h.follow, FileSystem.baseOf_congr rfl h.absolute]

end Inside

/-! ### Moves -/

/-- The decision that a run came to on a path: the answer of the callback that it asked, or the fixed one
    where there is no callback. -/
def Decided (plan : Plan σ) (run : Run σ) (path : Path) (isFolder : Bool) (answer : Decision) : Prop :=
  match plan.callback? with
  | none => answer = if isFolder then .merge else .overwrite
  | some _ => Event.asked ⟨path, plan.destination, isFolder⟩ answer ∈ run.events

/-- Whether a decision means that `e` is removed to make room for a folder or a file. -/
def Clears (isFolder : Bool) (answer : Decision) (e : Entry) : Prop :=
  match answer with
  | .overwrite => isFolder = true ∨ e = .folder
  | .merge => if isFolder then e ≠ .folder else e = .folder
  | .keep => isFolder = true ∧ e ≠ .folder
  | .skip | .cancel => False

/-- A decision by which a file is written in the place of another one. -/
def Replaces (answer : Decision) : Prop := answer = .overwrite ∨ answer = .merge

/-- Whether a run may write a file to the path: nothing stands there, or it was decided so. -/
def MayWrite (plan : Plan σ) (run : Run σ) (path : Path) : Prop :=
  run.files.occupied path = false ∨ ∃ answer, Decided plan run path false answer ∧ Replaces answer

/-- One move of a run. Whatever it is about has a name in a folder that is the destination or below it. -/
inductive Move (plan : Plan σ) : Run σ → Run σ → Prop
  /-- The callback is asked about something that stands there. -/
  | ask {run : Run σ} {callback : Callback σ} {folder : Path} {way : List String} {name : String}
      {isFolder : Bool} (hinside : Inside plan folder way) (hname : IsNormal name)
      (hcallback : plan.callback? = some callback)
      (hsome : run.files.entryAt? (run.files.placeOf (folder.join name)) ≠ none) :
      Move plan run (run.ask callback ⟨folder.join name, plan.destination, isFolder⟩).2
  /-- Folders are added on the way to a place at or below the destination. -/
  | grow {run : Run σ} {folder : Path} {way : List String} {files : FileSystem}
      (hinside : Inside plan folder way)
      (hgrows : run.files.Grows files (run.files.Passes folder)) :
      Move plan run { run with files := files }
  /-- What stands there is removed, as it was decided. -/
  | remove {run : Run σ} {folder : Path} {way : List String} {name : String} {isFolder : Bool}
      {answer : Decision} {e : Entry} (hinside : Inside plan folder way) (hname : IsNormal name)
      (hdecided : Decided plan run (folder.join name) isFolder answer)
      (hentry : run.files.entryAt? (run.files.placeOf (folder.join name)) = some e)
      (hclears : Clears isFolder answer e) :
      Move plan run { run with files := run.files.cut (run.files.placeOf (folder.join name)) }
  /-- The folders around a file are added and the file is written, where nothing stands or as it was
      decided. -/
  | write {run : Run σ} {folder : Path} {way : List String} {name content : String} {files : FileSystem}
      (hinside : Inside plan folder way) (hname : IsNormal name)
      (hgrows : run.files.Grows files (run.files.Passes folder))
      (hmay : MayWrite plan run (folder.join name))
      (hreach : files.Reachable (folder.join name))
      (hentry : files.entryAt? (files.placeOf (folder.join name)) ≠ some .folder) :
      Move plan run
        { run with
          files := files.put (files.placeOf (folder.join name)) (.file (.text content))
          written := run.written + 1
          events := run.events ++ [.wrote (run.written + 1) plan.total] }

/-- The run comes from the other one by moves. -/
abbrev Moves (plan : Plan σ) : Run σ → Run σ → Prop := Relation.ReflTransGen (Move plan)

/-- A name behind a path is never about the root. -/
theorem placeOf_join_ne_nil {files : FileSystem} {folder : Path} {name : String}
    (hname : IsNormal name) : files.placeOf (folder.join name) ≠ [] := by
  rw [FileSystem.placeOf_join _ _ hname]
  simp

section Kept

variable {plan : Plan σ} {run run' : Run σ}

/-- A move does not change the working folder. -/
theorem Move.workingFolder (h : Move plan run run') :
    run'.files.workingFolder = run.files.workingFolder := by
  cases h with
  | ask => rfl
  | grow _ hgrows => exact hgrows.workingFolder
  | remove => rfl
  | write _ _ hgrows => exact hgrows.workingFolder

/-- A move makes no link. -/
theorem Move.linkFree (h : Move plan run run') (hfs : run.files.LinkFree) : run'.files.LinkFree := by
  cases h with
  | ask => exact hfs
  | grow _ hgrows => exact hgrows.linkFree hfs
  | remove _ hname => exact hfs.cut (placeOf_join_ne_nil hname)
  | write _ hname hgrows => exact (hgrows.linkFree hfs).put (placeOf_join_ne_nil hname) (by simp)

/-- A move leaves every entry in a folder. -/
theorem Move.rooted (h : Move plan run run') (hfs : run.files.Rooted) : run'.files.Rooted := by
  cases h with
  | ask => exact hfs
  | grow _ hgrows => exact hgrows.rooted hfs
  | remove _ hname => exact hfs.cut (placeOf_join_ne_nil hname)
  | write _ hname hgrows _ hreach hentry =>
    rw [FileSystem.placeOf_join _ _ hname] at hentry ⊢
    exact (hgrows.rooted hfs).put (hreach.parent hname) (.inr hentry)

/-- What a callback was asked stays asked. -/
theorem Move.events (h : Move plan run run') {event : Event} (hevent : event ∈ run.events) :
    event ∈ run'.events := by
  cases h with
  | ask => exact List.mem_append_left _ hevent
  | grow => exact hevent
  | remove => exact hevent
  | write => exact List.mem_append_left _ hevent

/-- **Kept by moves.** No move makes a link or moves the working folder, and each entry stays in a
    folder. -/
theorem Moves.keeps (h : Moves plan run run') :
    run'.files.workingFolder = run.files.workingFolder ∧
      (run.files.LinkFree → run'.files.LinkFree) ∧ (run.files.Rooted → run'.files.Rooted) := by
  induction h with
  | refl => exact ⟨rfl, id, id⟩
  | tail _ hmove ih =>
    obtain ⟨hworking, hlinks, hrooted⟩ := ih
    exact ⟨hmove.workingFolder.trans hworking, fun hfs => hmove.linkFree (hlinks hfs),
      fun hfs => hmove.rooted (hrooted hfs)⟩

end Kept

/-! ### Steps that make moves -/

/-- Started from `run`, the step `x` makes moves only, whether or not it fails. If it gives a value, `P`
    holds of that and of the run then. -/
def Proceeds {α : Type} (plan : Plan σ) (run : Run σ) (x : Writing σ α) (P : α → Run σ → Prop) : Prop :=
  Ends x run fun r run' => Moves plan run run' ∧ ∀ a, r = .ok a → P a run'

section Proceeding

variable {α β : Type} {plan : Plan σ} {run : Run σ} {P P' : α → Run σ → Prop} {Q : β → Run σ → Prop}

/-- A value is made without a move. -/
theorem proceeds_pure {a : α} (h : P a run) : Proceeds plan run (pure a) P :=
  ends_pure.2 ⟨.refl, fun b hb => by cases hb; exact h⟩

/-- A run that stops makes no move. -/
theorem proceeds_throw {i : Halt} : Proceeds plan run (throw i) P :=
  ends_throw.2 ⟨.refl, fun _ h => by cases h⟩

/-- What follows from what is known at the end. -/
theorem Proceeds.imp {x : Writing σ α} (hx : Proceeds plan run x P)
    (h : ∀ a run', P a run' → P' a run') : Proceeds plan run x P' :=
  Ends.imp hx fun _ run' hr => ⟨hr.1, fun a ha => h a run' (hr.2 a ha)⟩

/-- What is known of the value of a step from elsewhere. -/
theorem Proceeds.and_ends {x : Writing σ α} {R : α → Prop} (hx : Proceeds plan run x P)
    (h : Ends x run fun r _ => ∀ a, r = .ok a → R a) :
    Proceeds plan run x fun a run' => P a run' ∧ R a :=
  Ends.imp (Ends.and hx h) fun _ _ hr => ⟨hr.1.1, fun a ha => ⟨hr.1.2 a ha, hr.2 a ha⟩⟩

/-- Moves after moves are moves. -/
theorem Proceeds.bind {x : Writing σ α} {f : α → Writing σ β} (hx : Proceeds plan run x P)
    (hf : ∀ a run', Moves plan run run' → P a run' → Proceeds plan run' (f a) Q) :
    Proceeds plan run (x >>= f) Q := by
  refine Ends.bind hx ?_ ?_
  · intro a run' h
    refine Ends.imp (hf a run' h.1 (h.2 a rfl)) ?_
    intro r run'' hr
    exact ⟨h.1.trans hr.1, hr.2⟩
  · intro i run' h
    exact ⟨h.1, fun b hb => by cases hb⟩

/-- A look at the run. -/
theorem proceeds_get_bind {f : Run σ → Writing σ β} (hf : Proceeds plan run (f run) Q) :
    Proceeds plan run (get >>= f) Q :=
  ends_bind.2 (ends_get.2 hf)

end Proceeding

/-! ### Making room -/

section MakingRoom

variable {plan : Plan σ} {run : Run σ} {folder : Path} {way : List String} {name : String}
  {isFolder : Bool} (hinside : Inside plan folder way) (hname : IsNormal name)
include hinside hname

/-- A decision on something that stands changes nothing but the callback and the history. -/
theorem decide_proceeds (hsome : run.files.entryAt? (run.files.placeOf (folder.join name)) ≠ none) :
    Proceeds plan run (decide plan (folder.join name) isFolder) fun answer run' =>
      run'.files = run.files ∧ Decided plan run' (folder.join name) isFolder answer := by
  rw [Proceeds, ends_decide]
  cases hcallback : plan.callback? with
  | none =>
    -- Without a callback nothing is asked.
    refine ⟨.refl, fun answer h => ⟨rfl, ?_⟩⟩
    cases h
    rw [Decided, hcallback]
  | some callback =>
    -- What was decided is the last event.
    refine ⟨.single (.ask hinside hname hcallback hsome), fun answer h => ⟨rfl, ?_⟩⟩
    cases h
    rw [Decided, hcallback]
    exact List.mem_append_right _ (List.mem_singleton.2 rfl)

/-- A removal that was decided is a move, or fails and is none. -/
theorem remove_proceeds {answer : Decision} (hfs : run.files.LinkFree)
    (hdecided : Decided plan run (folder.join name) isFolder answer)
    (hclears : ∀ e, run.files.entryAt? (run.files.placeOf (folder.join name)) = some e →
      Clears isFolder answer e) :
    Proceeds plan run (change (·.remove (folder.join name))) fun _ run' =>
      run'.events = run.events := by
  rw [Proceeds, ends_change]
  -- Either there is something that is removed, or nothing happens.
  rcases FileSystem.remove_cases hfs hname with ⟨hsome, hremove⟩ | ⟨fault, hremove⟩
  · obtain ⟨e, he⟩ := Option.ne_none_iff_exists'.1 hsome
    rw [hremove]
    exact ⟨.single (.remove hinside hname hdecided he (hclears e he)), fun _ _ => rfl⟩
  · rw [hremove]
    exact ⟨.refl, fun _ _ => rfl⟩

/-- What is in the way is removed, if it is of the wrong kind. -/
theorem remove_if_proceeds {α : Type} {c : Prop} [Decidable c] {a : α} {P : α → Run σ → Prop}
    {answer : Decision} (hfs : run.files.LinkFree)
    (hdecided : Decided plan run (folder.join name) isFolder answer)
    (hclears : c → ∀ e, run.files.entryAt? (run.files.placeOf (folder.join name)) = some e →
      Clears isFolder answer e)
    (hP : ∀ run', run'.events = run.events → P a run') :
    Proceeds plan run
      (if c then do
        change (·.remove (folder.join name))
        return a
      else return a) P := by
  by_cases hc : c
  -- Either the place is cleared, which its entry permits, or nothing happens.
  · rw [if_pos hc]
    refine (remove_proceeds hinside hname hfs hdecided (hclears hc)).bind ?_
    exact fun _ run' _ hevents => proceeds_pure (hP run' hevents)
  · rw [if_neg hc]
    exact proceeds_pure (hP run rfl)

/-- Where something stands, making room begins with a decision on it. -/
theorem occupied_proceeds {α : Type} {f : Decision → Writing σ α} {P : α → Run σ → Prop}
    (hfs : run.files.LinkFree) (hocc : run.files.occupied (folder.join name) = true)
    (hf : ∀ answer run', run'.files.LinkFree → run'.files.Reachable (folder.join name) →
      Decided plan run' (folder.join name) isFolder answer → Proceeds plan run' (f answer) P) :
    Proceeds plan run (decide plan (folder.join name) isFolder >>= f) P := by
  obtain ⟨hreach, hsome⟩ := (FileSystem.occupied_iff hfs).1 hocc
  refine (decide_proceeds hinside hname hsome).bind ?_
  rintro answer run' _ ⟨hfiles, hdecided⟩
  rw [← hfiles] at hfs hreach
  exact hf answer run' hfs hreach hdecided

/-- Making room for a folder is made of moves. -/
theorem clearForFolder_proceeds (hfs : run.files.LinkFree) :
    Proceeds plan run (clearForFolder plan (folder.join name)) fun _ _ => True := by
  refine proceeds_get_bind ?_
  by_cases hocc : run.files.occupied (folder.join name) = true
  · simp only [hocc, Bool.not_true, Bool.false_eq_true, if_false]
    refine occupied_proceeds hinside hname hfs hocc ?_
    intro answer run' hfs' hreach hdecided
    -- A folder is merged into what stands there only if that is one.
    have hmismatch : (!run'.files.isFolder (folder.join name)) = true →
        ∀ e, run'.files.entryAt? (run'.files.placeOf (folder.join name)) = some e →
          e ≠ .folder := by
      rintro hnot e he rfl
      rw [(FileSystem.isFolder_iff hfs').2 ⟨hreach, he⟩] at hnot
      cases hnot
    -- Only what the answer clears is removed.
    cases answer with
    | overwrite =>
      refine (remove_proceeds hinside hname hfs' hdecided fun e _ => .inl rfl).bind ?_
      exact fun _ _ _ _ => proceeds_pure trivial
    | merge =>
      refine proceeds_get_bind (remove_if_proceeds hinside hname hfs' hdecided ?_ fun _ _ => trivial)
      exact hmismatch
    | keep =>
      refine proceeds_get_bind (remove_if_proceeds hinside hname hfs' hdecided ?_ fun _ _ => trivial)
      exact fun hnot e he => ⟨rfl, hmismatch hnot e he⟩
    | skip => exact proceeds_pure trivial
    | cancel => exact proceeds_throw
  · simp only [hocc, Bool.not_false, if_true]
    exact proceeds_pure trivial

/-- Making room for a file is made of moves. The file may be written to the path in the answer, which is
    in the same folder. -/
theorem clearForFile_proceeds (hfs : run.files.LinkFree) :
    Proceeds plan run (clearForFile plan (folder.join name)) fun target? run' =>
      ∀ target ∈ target?, ∃ folder' name', Inside plan folder' way ∧ IsNormal name' ∧
        target = folder'.join name' ∧ MayWrite plan run' target := by
  refine proceeds_get_bind ?_
  by_cases hocc : run.files.occupied (folder.join name) = true
  · simp only [hocc, Bool.not_true, Bool.false_eq_true, if_false]
    refine occupied_proceeds hinside hname hfs hocc ?_
    intro answer run' hfs' hreach hdecided
    -- A folder has to go before a file is written in its place.
    have hfolder : run'.files.isFolder (folder.join name) = true →
        ∀ e, run'.files.entryAt? (run'.files.placeOf (folder.join name)) = some e →
          e = .folder := by
      intro his e he
      rw [((FileSystem.isFolder_iff hfs').1 his).2] at he
      cases he
      rfl
    -- Where the answer is to replace, the file may be written to the same path.
    have hreplace : Replaces answer → ∀ run'' : Run σ, run''.events = run'.events →
        ∀ target ∈ some (folder.join name), ∃ folder' name', Inside plan folder' way ∧
          IsNormal name' ∧ target = folder'.join name' ∧ MayWrite plan run'' target := by
      intro hreplaces run'' hevents target htarget
      obtain rfl := Option.mem_some_iff.1 htarget
      refine ⟨folder, name, hinside, hname, rfl, .inr ⟨answer, ?_, hreplaces⟩⟩
      rw [Decided] at hdecided ⊢
      rwa [hevents]
    cases answer with
    | overwrite =>
      refine proceeds_get_bind
        (remove_if_proceeds hinside hname hfs' hdecided ?_ (hreplace (.inl rfl)))
      exact fun his e he => .inr (hfolder his e he)
    | merge =>
      refine proceeds_get_bind
        (remove_if_proceeds hinside hname hfs' hdecided ?_ (hreplace (.inr rfl)))
      exact hfolder
    -- The file is put beside the one that is kept, under a name that leads nowhere yet.
    | keep =>
      refine proceeds_get_bind (proceeds_pure ?_)
      obtain ⟨m, heq, hleads⟩ := freeVariant_eq run'.files folder hname
      have hvariant := isNormal_variantName hname m
      rw [heq]
      intro target htarget
      obtain rfl := Option.mem_some_iff.1 htarget
      refine ⟨folder.trimmed, variantName name m, hinside.trimmed, hvariant, rfl, .inl ?_⟩
      rw [FileSystem.occupied_eq_leads hfs', hleads]
    | skip => exact proceeds_pure (by simp)
    | cancel => exact proceeds_throw
  · simp only [hocc, Bool.not_false, if_true]
    refine proceeds_pure ?_
    intro target htarget
    obtain rfl := Option.mem_some_iff.1 htarget
    exact ⟨folder, name, hinside, hname, rfl, .inl (by simpa using hocc)⟩

end MakingRoom

/-! ### Writing -/

section Writing

variable {plan : Plan σ} {run : Run σ} {folder : Path} {way : List String} {name : String}

/-- Making folders is one move, whether or not it fails halfway. -/
theorem makeFolders_proceeds (hinside : Inside plan folder way) (hfs : run.files.LinkFree) :
    Proceeds plan run (change (·.makeFolders folder)) fun _ _ => True := by
  have hgrows := FileSystem.makeFolders_grows hfs folder
  rw [Proceeds, ends_change]
  split <;> exact ⟨.single (.grow hinside hgrows), fun _ _ => trivial⟩

/-- Writing a file that may be written is one move: without a fault it is written, by a path that the system
    takes, and with one no more than folders were added. -/
theorem writeFile_proceeds {content : String} (hinside : Inside plan folder way)
    (hname : IsNormal name) (hfs : run.files.LinkFree) (hmay : MayWrite plan run (folder.join name)) :
    Proceeds plan run (writeFile plan (folder.join name) content)
      fun _ _ => (folder.join name).Fits := by
  have hgrows := FileSystem.makeFolders_grows hfs folder.trimmed
  -- What is made lies on the way to the folder, which the file's path passes.
  have hgrows' := hgrows.mono fun _ hpasses =>
    hpasses.of_isPrefix folder.trimmed_absolute folder.trims_trimPieces.isPrefix
  rw [Proceeds, writeFile, Path.parent?_join folder hname]
  simp only [ends_bind, ends_change, ends_attempt, ends_modify]
  cases hmake : (run.files.makeFolders folder.trimmed).1 with
  | some fault => exact ⟨.single (.grow hinside hgrows'), fun _ h => by cases h⟩
  | none =>
    dsimp only
    -- The folder is there, and the file is written in it or not.
    split
    · rename_i files hwrite
      obtain ⟨hreach, hentry, rfl⟩ :=
        (FileSystem.writeText_eq_ok_iff (hgrows.linkFree hfs) hname).1 hwrite
      exact ⟨.single (.write hinside hname hgrows' hmay hreach hentry), fun _ _ => hreach.fits⟩
    · exact ⟨.single (.grow hinside hgrows'), fun _ h => by cases h⟩

end Writing

mutual

/-- **Writing a tree** is made of moves, if its names are normal. -/
theorem writeTree_proceeds {plan : Plan σ} :
    ∀ (t : Tree) {run : Run σ} {folder : Path} {way : List String}, Inside plan folder way →
      run.files.LinkFree → (∀ n ∈ t.names, IsNormal n) →
      Proceeds plan run (writeTree plan folder t) fun _ _ => True
  | .file name content t?, run, folder, way, hinside, hfs, hnames => by
    have hname : IsNormal name := hnames name (by simp [Tree.names])
    rw [writeTree]
    -- Something may have to be cleared, and it decides where the file is written.
    refine (clearForFile_proceeds hinside hname hfs).bind ?_
    rintro (_ | target) run' hmoves htarget?
    · exact proceeds_pure trivial
    · obtain ⟨folder', name', hinside', hname', rfl, hmay⟩ := htarget? target rfl
      exact (writeFile_proceeds hinside' hname' (hmoves.keeps.2.1 hfs) hmay).imp
        fun _ _ _ => trivial
  | .folder name children t?, run, folder, way, hinside, hfs, hnames => by
    have hname : IsNormal name := hnames name (by simp [Tree.names])
    have hchildren : ∀ n ∈ Tree.namesOf children, IsNormal n := fun n hn =>
      hnames n (by simp [Tree.names, hn])
    rw [writeTree]
    refine (clearForFolder_proceeds hinside hname hfs).bind ?_
    rintro (_ | _) run' hmoves _
    · exact proceeds_pure trivial
    -- The folder is made in the system in which its place was cleared.
    · have hfs' := hmoves.keeps.2.1 hfs
      refine (makeFolders_proceeds (hinside.join hname) hfs').bind ?_
      intro _ run'' hmade _
      exact writeTrees_proceeds children (hinside.join hname) (hmade.keeps.2.1 hfs') hchildren

/-- Trees that are written one after the other. -/
theorem writeTrees_proceeds {plan : Plan σ} :
    ∀ (ts : List Tree) {run : Run σ} {folder : Path} {way : List String}, Inside plan folder way →
      run.files.LinkFree → (∀ n ∈ Tree.namesOf ts, IsNormal n) →
      Proceeds plan run (writeTrees plan folder ts) fun _ _ => True
  | [], run, folder, way, hinside, hfs, hnames => by
    rw [writeTrees]
    exact proceeds_pure trivial
  | t :: ts, run, folder, way, hinside, hfs, hnames => by
    -- The names of a list are those of its first tree and of the others.
    have ht : ∀ n ∈ t.names, IsNormal n := fun n hn => hnames n (by simp [Tree.namesOf, hn])
    have hts : ∀ n ∈ Tree.namesOf ts, IsNormal n := fun n hn =>
      hnames n (by simp [Tree.namesOf, hn])
    rw [writeTrees]
    refine (writeTree_proceeds t hinside hfs ht).bind ?_
    intro _ run' hmoves _
    exact writeTrees_proceeds ts hinside (hmoves.keeps.2.1 hfs) hts

end

/-! ### Whole runs -/

/-- What stays the same during the run of a generation. -/
def planOf (root : Tree) (destination : Path) (callback? : Option (Callback σ)) : Plan σ :=
  ⟨destination, root.countFiles, callback?⟩

/-- What a generation does: it makes the destination and writes the trees. -/
def writing (root : Tree) (destination : Path) (callback? : Option (Callback σ)) : Writing σ Unit := do
  change (·.makeFolders destination)
  writeTrees (planOf root destination callback?) destination root.children

/-- What stopped a step, if anything did. -/
def stopped? : Except Halt Unit → Option Halt
  | .ok _ => none
  | .error i => some i

/-- A run is not stopped if it comes to its end. -/
theorem stopped?_eq_none_iff {r : Except Halt Unit} : stopped? r = none ↔ r = .ok () := by
  cases r <;> simp [stopped?]

/-- The outcome of a generation tells how its step ended. -/
theorem generate_iff {root : Tree} {destination : Path} {callback? : Option (Callback σ)}
    {files : FileSystem} {s : σ} {Q : Option Halt → Run σ → Prop} :
    Q (generate root destination callback? files s).interrupt?
        (generate root destination callback? files s).run ↔
      Ends (writing root destination callback?) ⟨files, 0, [], s⟩ fun r run => Q (stopped? r) run := by
  rw [ends_iff, generate, writing, planOf]
  split
  · rename_i hrun
    rw [hrun]
    exact Iff.rfl
  · rename_i hrun
    rw [hrun]
    exact Iff.rfl

/-- The outcome of a generation, from the run of its step. -/
theorem generate_eq (root : Tree) (destination : Path) (callback? : Option (Callback σ))
    (files : FileSystem) (s : σ) :
    (generate root destination callback? files s).interrupt? =
        stopped? ((writing root destination callback?).run ⟨files, 0, [], s⟩).1 ∧
      (generate root destination callback? files s).run =
        ((writing root destination callback?).run ⟨files, 0, [], s⟩).2 := by
  refine (generate_iff (Q := fun i run =>
    i = stopped? ((writing root destination callback?).run ⟨files, 0, [], s⟩).1 ∧
      run = ((writing root destination callback?).run ⟨files, 0, [], s⟩).2)).2 ?_
  exact ends_iff.2 ⟨rfl, rfl⟩

/-- **Runs of a generation.** Whatever the outcome, the run is made of moves. -/
theorem generate_moves {root : Tree} {destination : Path} {callback? : Option (Callback σ)}
    {files : FileSystem} {s : σ} (hfs : files.LinkFree)
    (hnames : ∀ n ∈ Tree.namesOf root.children, IsNormal n) :
    Moves (planOf root destination callback?) ⟨files, 0, [], s⟩
      (generate root destination callback? files s).run := by
  have hinside : Inside (planOf root destination callback?) destination [] := .destination _
  have hsteps : Proceeds (planOf root destination callback?) ⟨files, 0, [], s⟩
      (writing root destination callback?) fun _ _ => True := by
    refine (makeFolders_proceeds hinside hfs).bind ?_
    intro _ run hmoves _
    exact writeTrees_proceeds root.children hinside (hmoves.keeps.2.1 hfs) hnames
  refine (generate_iff (Q := fun _ => Moves (planOf root destination callback?) ⟨files, 0, [], s⟩)).2 ?_
  -- However the run ends, it has moved step by step.
  refine Ends.imp hsteps ?_
  rintro (i | _) run ⟨hmoves, _⟩
  · exact hmoves
  · exact hmoves

end Scaffold.Generation
