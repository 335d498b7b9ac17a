import Scaffold.Proofs.Generation.Moves

namespace Scaffold.Generation

/-!
# Existing files

With a callback, no file that was there before a run is changed or removed without an answer that allows it:
one about the file itself, or one about a folder around it.

* `Permits` — the answers that cost a file;
* `Move.keeps_file` — a move keeps a file, or the callback has given such an answer;
* `generate_keeps_file` — so does a run, whatever its outcome. In between, the file is what it was before
  the run: nothing that is written in its place goes unasked.
-/

open Files (Path FileSystem Location Entry Content)
open Files.Path (IsNormal)
open Conflict (Decision Question Callback)

variable {σ : Type}

/-- Whether the answer to a question allows to change or remove the file at `place`: the question is about
    the file itself and it is replaced, or about a folder around it that is removed. -/
def Permits (files : FileSystem) (place : Location) (question : Question) (answer : Decision) : Prop :=
  (files.placeOf question.path = place ∧
      (answer = .overwrite ∨ answer = .merge ∨ answer = .keep ∧ question.isFolder = true)) ∨
    (files.placeOf question.path <+: place ∧ files.placeOf question.path ≠ place ∧
      (answer = .overwrite ∨ answer = .merge ∧ question.isFolder = false))

/-- Whether the callback has given an answer during the run that costs the file at `place`. -/
def Permitted (callback : Callback σ) (run : Run σ) (place : Location) : Prop :=
  ∃ question answer, Event.asked question answer ∈ run.events ∧
    (∃ files s, (callback files question s).1 = answer) ∧ Permits run.files place question answer

section Runs

variable {plan : Plan σ} {callback : Callback σ} {run run' : Run σ} {place : Location} {content : Content}

/-- Each answer in the history is one that the callback gave. -/
def Truthful (callback : Callback σ) (run : Run σ) : Prop :=
  ∀ question answer, Event.asked question answer ∈ run.events →
    ∃ files s, (callback files question s).1 = answer

theorem Move.truthful (h : Move plan run run') (hcallback : plan.callback? = some callback)
    (htrue : Truthful callback run) : Truthful callback run' := by
  cases h with
  | @ask callback' folder way name isFolder hinside hname hcallback' =>
    obtain rfl : callback = callback' := by
      rw [hcallback] at hcallback'
      exact Option.some.inj hcallback'
    intro question answer hasked
    -- The answer was given before, or it is the one that was given now.
    rcases List.mem_append.1 hasked with hbefore | hnow
    · exact htrue question answer hbefore
    · obtain ⟨rfl, rfl⟩ := Event.asked.inj (List.mem_singleton.1 hnow)
      exact ⟨run.files, run.callback, rfl⟩
  | grow => exact htrue
  | remove => exact htrue
  | write =>
    intro question answer hasked
    rcases List.mem_append.1 hasked with hbefore | hnow
    · exact htrue question answer hbefore
    · cases List.mem_singleton.1 hnow

/-- What was permitted stays permitted. -/
theorem Permitted.of_move (h : Move plan run run') (hpermitted : Permitted callback run place) :
    Permitted callback run' place := by
  obtain ⟨question, answer, hasked, hgiven, hpermits⟩ := hpermitted
  refine ⟨question, answer, h.events hasked, hgiven, ?_⟩
  rw [Permits] at hpermits ⊢
  rwa [FileSystem.placeOf_congr h.workingFolder]

/-- A decision on a file or on what is around it, by which the file is lost. -/
theorem permitted_of_decided (hcallback : plan.callback? = some callback)
    (htrue : Truthful callback run) {path : Path} {isFolder : Bool} {answer : Decision}
    (hdecided : Decided plan run path isFolder answer)
    (hpermits : Permits run.files place ⟨path, plan.destination, isFolder⟩ answer) :
    Permitted callback run place := by
  rw [Decided, hcallback] at hdecided
  exact ⟨_, answer, hdecided, htrue _ _ hdecided, hpermits⟩

/-- A file that is removed was asked about, or a folder around it was. -/
theorem permits_of_clears (hrooted : run.files.Rooted)
    (hfile : run.files.entryAt? place = some (.file content)) {question : Question} {answer : Decision}
    {e : Entry} (hentry : run.files.entryAt? (run.files.placeOf question.path) = some e)
    (hclears : Clears question.isFolder answer e) (hcut : run.files.placeOf question.path <+: place) :
    Permits run.files place question answer := by
  -- The answer was about the file itself, or about a folder around it.
  by_cases hsame : run.files.placeOf question.path = place
  · rw [hsame, hfile] at hentry
    cases hentry
    refine .inl ⟨hsame, ?_⟩
    cases answer with
    | overwrite => exact .inl rfl
    | merge => exact .inr (.inl rfl)
    | keep => exact .inr (.inr ⟨rfl, hclears.1⟩)
    | skip => exact hclears.elim
    | cancel => exact hclears.elim
  · obtain ⟨way, rfl⟩ := hcut
    have hway : way ≠ [] := by
      rintro rfl
      exact hsame (List.append_nil _).symm
    -- What is around an entry is a folder.
    have hfolder := hrooted.folder_above hway (by rw [hfile]; simp)
    rw [hfolder] at hentry
    cases hentry
    refine .inr ⟨List.prefix_append _ _, hsame, ?_⟩
    cases answer with
    | overwrite => exact .inl rfl
    | merge =>
      refine .inr ⟨rfl, ?_⟩
      by_contra hisFolder
      rw [Clears, if_pos (by simpa using hisFolder)] at hclears
      exact hclears rfl
    | keep => exact absurd rfl hclears.2
    | skip => exact hclears.elim
    | cancel => exact hclears.elim

/-- **One move.** A file is kept, unless the callback gave an answer that costs it. -/
theorem Move.keeps_file (h : Move plan run run') (hp : plan.destination.IsPlain)
    (hcallback : plan.callback? = some callback) (htrue : Truthful callback run)
    (hfs : run.files.LinkFree) (hrooted : run.files.Rooted)
    (hfile : run.files.entryAt? place = some (.file content)) :
    run'.files.entryAt? place = some (.file content) ∨ Permitted callback run' place := by
  have hmove := h
  -- The cases follow the moves; only a removal and a writing can change the file.
  cases h with
  | ask => exact .inl hfile
  | grow _ hgrows => exact .inl (hgrows.entryAt?_of_some hfile)
  | @remove folder way name isFolder answer e hinside hname hdecided hentry hclears =>
    rw [FileSystem.entryAt?_cut _ _ _ (placeOf_join_ne_nil hname)]
    by_cases hcut : (run.files.placeOf (folder.join name)).isPrefixOf place = true
    · refine .inr (Permitted.of_move hmove (permitted_of_decided hcallback htrue hdecided ?_))
      exact permits_of_clears hrooted hfile hentry hclears (List.isPrefixOf_iff_prefix.1 hcut)
    · rw [if_neg hcut]
      exact .inl hfile
  | @write folder way name text files hinside hname hgrows hmay hreach hentry =>
    rw [FileSystem.entryAt?_put _ _ _ _ (placeOf_join_ne_nil hname)]
    -- The file is at the place that is written, or somewhere else.
    by_cases hsame : place = files.placeOf (folder.join name)
    · have htarget := hsame.trans (FileSystem.placeOf_congr hgrows.workingFolder (folder.join name))
      rcases hmay with hfree | ⟨answer, hdecided, hreplaces⟩
      · -- A file that stands there would have been noticed.
        have hsome : run.files.entryAt? (run.files.placeOf (folder.join name)) ≠ none := by
          rw [← htarget, hfile]
          simp
        have hfolder := hsome
        rw [FileSystem.placeOf_join _ _ hname] at hfolder
        have hopen := hrooted.isOpen (hinside.plain hp) (hrooted _ _ hfolder)
        have hocc := (FileSystem.occupied_iff hfs).2 ⟨hopen.reachable_join hname hreach.fits, hsome⟩
        rw [hfree] at hocc
        cases hocc
      · refine .inr (Permitted.of_move hmove (permitted_of_decided hcallback htrue hdecided ?_))
        exact .inl ⟨htarget.symm, hreplaces.imp id .inl⟩
    · rw [if_neg hsame]
      exact .inl (hgrows.entryAt?_of_some hfile)

theorem Moves.keeps_file (h : Moves plan run run') (hp : plan.destination.IsPlain)
    (hcallback : plan.callback? = some callback) (htrue : Truthful callback run)
    (hfs : run.files.LinkFree) (hrooted : run.files.Rooted)
    (hfile : run.files.entryAt? place = some (.file content)) :
    Truthful callback run' ∧
      (run'.files.entryAt? place = some (.file content) ∨ Permitted callback run' place) := by
  -- The induction is on the moves: what was permitted stays permitted.
  induction h with
  | refl => exact ⟨htrue, .inl hfile⟩
  | tail hmoves hmove ih =>
    obtain ⟨_, hlinks, hroots⟩ := Moves.keeps hmoves
    refine ⟨hmove.truthful hcallback ih.1, ?_⟩
    rcases ih.2 with hkept | hpermitted
    · exact hmove.keeps_file hp hcallback ih.1 (hlinks hfs) (hroots hrooted) hkept
    · exact .inr (hpermitted.of_move hmove)

end Runs

/-- **Existing files.** Whatever the outcome of a run with a callback, a file that existed before is the same
    afterwards, or the callback was asked about it and gave an answer that allows to replace it, or was asked
    about a folder around it and gave one that allows to remove that. -/
theorem generate_keeps_file {root : Tree} {destination : Path} {callback : Callback σ}
    {files : FileSystem} {s : σ} (hp : destination.IsPlain) (hfs : files.LinkFree)
    (hrooted : files.Rooted) (hnames : ∀ n ∈ Tree.namesOf root.children, IsNormal n)
    {place : Location} {content : Content} (hfile : files.entryAt? place = some (.file content)) :
    (generate root destination (some callback) files s).run.files.entryAt? place =
        some (.file content) ∨
      ∃ question answer,
        Event.asked question answer ∈ (generate root destination (some callback) files s).run.events ∧
        (∃ files s, (callback files question s).1 = answer) ∧
        Permits files place question answer := by
  have hmoves : Moves (planOf root destination (some callback)) ⟨files, 0, [], s⟩
      (generate root destination (some callback) files s).run := generate_moves hfs hnames
  have htrue : Truthful callback (⟨files, 0, [], s⟩ : Run σ) := fun _ _ h => by cases h
  rcases (Moves.keeps_file hmoves hp rfl htrue hfs hrooted hfile).2 with hkept | hpermitted
  · exact .inl hkept
  · obtain ⟨question, answer, hasked, hgiven, hpermits⟩ := hpermitted
    -- The permission speaks of places, which are the same in both systems.
    refine .inr ⟨question, answer, hasked, hgiven, ?_⟩
    rw [Permits] at hpermits ⊢
    rwa [FileSystem.placeOf_congr (Moves.keeps hmoves).1] at hpermits

/-! ### A file that is given up -/

/-- Replaces the first file that is in the way and skips the others. -/
def firstOnly : Callback Nat := fun _ _ asked => (if asked = 0 then .overwrite else .skip, asked + 1)

def twoFiles : FileSystem where
  entries := [(["out"], .folder), (["out", "a"], .file (.text "old")), (["out", "b"], .file (.text "old"))]
  workingFolder := []

def twoFilesTree : Tree := .folder "root" [.file "a" "new" none, .file "b" "new" none] none

/-- The first file is asked about and replaced, the second one is asked about and stays. -/
theorem generate_keeps_file_firstOnly :
    (⟨true, ["out"]⟩ : Path).IsPlain ∧ twoFiles.LinkFree ∧ twoFiles.Rooted ∧
    (∀ n ∈ Tree.namesOf twoFilesTree.children, IsNormal n) ∧
    twoFiles.entryAt? ["out", "a"] = some (.file (.text "old")) ∧
    (generate twoFilesTree ⟨true, ["out"]⟩ (some firstOnly) twoFiles 0).run.files.entries =
      [(["out", "a"], .file (.text "new")), (["out"], .folder), (["out", "b"], .file (.text "old"))] ∧
    ((generate twoFilesTree ⟨true, ["out"]⟩ (some firstOnly) twoFiles 0).run.files.entryAt?
        ["out", "a"] = some (.file (.text "old")) ∨
      ∃ question answer,
        Event.asked question answer ∈
          (generate twoFilesTree ⟨true, ["out"]⟩ (some firstOnly) twoFiles 0).run.events ∧
        (∃ files s, (firstOnly files question s).1 = answer) ∧
        Permits twoFiles ["out", "a"] question answer) := by
  have hp : (⟨true, ["out"]⟩ : Path).IsPlain := by decide
  have hfs : twoFiles.LinkFree := FileSystem.linkFree_of_entries (by simp [twoFiles])
  have hrooted : twoFiles.Rooted := FileSystem.rooted_of_entries (by decide)
  have hnames : ∀ n ∈ Tree.namesOf twoFilesTree.children, IsNormal n := by decide
  have hfile : twoFiles.entryAt? ["out", "a"] = some (.file (.text "old")) := by decide
  exact ⟨hp, hfs, hrooted, hnames, hfile, by decide +kernel,
    generate_keeps_file hp hfs hrooted hnames hfile⟩

end Scaffold.Generation
