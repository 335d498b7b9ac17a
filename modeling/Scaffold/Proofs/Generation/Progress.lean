import Scaffold.Proofs.Generation.Script
import Mathlib.Algebra.GroupWithZero.Nat

namespace Scaffold

/-!
# Progress

A run tells after each file how many it has written so far, of how many in all. The total is counted on the tree
before the run starts, and the run may leave out nodes, so that the two have to be brought together.

* `Tree.placed` — the nodes of a tree with the paths that they are asked about by;
* `Wrote` — the files that a run wrote on its way, each by a write that went well; `Wrote.progress`, that the
  run told just these, one after the other;
* `Ledger` — the same together with the questions that were answered with a skip;
* `writeTree_ledger` — what a tree is written or skipped of;
* `generate_progress` — the progress of a whole run; `generate_progress_file`, that a root that is a file is not
  written.
-/

open Files (Path FileSystem)
open Conflict (Decision Question Callback)

/-! ### Nodes and their paths -/

namespace Tree

mutual

/-- The nodes of a tree that is written into `folder`, each with its path, a folder in front of what is in it. -/
def placed (folder : Path) : Tree → List (Path × Tree)
  | .file name content t? => [(folder.join name, .file name content t?)]
  | .folder name children t? =>
    (folder.join name, .folder name children t?) :: placedAll (folder.join name) children

/-- The nodes of some trees with their paths, in the order in which they are written. -/
def placedAll (folder : Path) : List Tree → List (Path × Tree)
  | [] => []
  | t :: ts => placed folder t ++ placedAll folder ts

end

/-- So many files are in the nodes. -/
def filesIn (nodes : List (Path × Tree)) : Nat := (nodes.map fun node => node.2.countFiles).sum

/-- The files among nodes are counted in two stretches. -/
theorem filesIn_append (nodes more : List (Path × Tree)) :
    filesIn (nodes ++ more) = filesIn nodes + filesIn more := by
  rw [filesIn, List.map_append, List.sum_append]
  rfl

/-- The node itself comes first. -/
theorem singleton_sublist_placed (folder : Path) (t : Tree) :
    [(folder.join t.name, t)].Sublist (t.placed folder) := by
  cases t with
  | file name content t? => exact List.Sublist.refl _
  | folder name children t? => exact (List.nil_sublist _).cons_cons _

end Tree

namespace Generation

variable {σ : Type}

/-! ### Files that were written -/

/-- What a run tells about its progress. -/
def Event.progress? : Event → Option (Nat × Nat)
  | .asked _ _ => none
  | .wrote written total => some (written, total)

/-- The question, if it was answered with a skip. -/
def Event.skipped? : Event → Option Question
  | .asked question .skip => some question
  | _ => none

/-- The run comes from the other one by what runs do, and on the way just these texts were written, each to its
    path and without a fault. -/
inductive Wrote (plan : Plan σ) (start : Run σ) : List (Path × String) → Run σ → Prop
  | start : Wrote plan start [] start
  | makeFolders {news : List (Path × String)} {run : Run σ} (h : Wrote plan start news run) (path : Path) :
      Wrote plan start news { run with files := (run.files.makeFolders path).2 }
  | remove {news : List (Path × String)} {run : Run σ} (h : Wrote plan start news run) (path : Path) :
      Wrote plan start news { run with files := (run.files.remove path).2 }
  | ask {news : List (Path × String)} {run : Run σ} (h : Wrote plan start news run) {callback : Callback σ}
      (hcallback : plan.callback? = some callback) (path : Path) (isFolder : Bool) :
      Wrote plan start news (run.ask callback ⟨path, plan.destination, isFolder⟩).2
  | write {news : List (Path × String)} {run : Run σ} (h : Wrote plan start news run) {path : Path}
      {content : String} {files : FileSystem} (hwrite : run.files.writeText path content = .ok files) :
      Wrote plan start (news ++ [(path, content)]) (recorded plan { run with files := files })

namespace Wrote

variable {plan : Plan σ} {start run run' : Run σ} {news later : List (Path × String)}

/-- Two stretches of writing. -/
theorem trans (h : Wrote plan start news run) (h' : Wrote plan run later run') :
    Wrote plan start (news ++ later) run' := by
  -- On the later part, which is put behind the first one step by step.
  induction h' with
  | start => rwa [List.append_nil]
  | makeFolders _ path ih => exact ih.makeFolders path
  | remove _ path ih => exact ih.remove path
  | ask _ hcallback path isFolder ih => exact ih.ask hcallback path isFolder
  | write _ hwrite ih =>
    rw [← List.append_assoc]
    exact ih.write hwrite

/-- **One call for each file.** The run counts the files that it writes from one to the next, and tells each time
    of how many. -/
theorem progress (h : Wrote plan start news run) :
    run.written = start.written + news.length ∧
      run.events.filterMap Event.progress? = start.events.filterMap Event.progress? ++
        (List.range news.length).map fun i => (start.written + i + 1, plan.total) := by
  induction h with
  | start => simp
  | makeFolders _ _ ih => exact ih
  | remove _ _ ih => exact ih
  | @ask news run _ callback hcallback path isFolder ih =>
    refine ⟨ih.1, ?_⟩
    -- A question is no progress.
    show (run.events ++ [_]).filterMap Event.progress? = _
    rw [List.filterMap_append, ih.2]
    exact List.append_nil _
  | @write news run _ path content files hwrite ih =>
    obtain ⟨hwritten, hevents⟩ := ih
    refine ⟨?_, ?_⟩
    · show run.written + 1 = _
      rw [hwritten, List.length_append, List.length_singleton]
      omega
    · show (run.events ++ [Event.wrote (run.written + 1) plan.total]).filterMap Event.progress? = _
      rw [List.filterMap_append, hevents, hwritten, List.length_append, List.length_singleton,
        List.range_succ, List.map_append, List.append_assoc]
      rfl

end Wrote

/-! ### Ledgers -/

/-- What was written between two runs, and which questions were answered with a skip. -/
structure Ledger (plan : Plan σ) (run run' : Run σ) (news : List (Path × String)) (skips : List Question) :
    Prop where
  wrote : Wrote plan run news run'
  skipped : run'.events.filterMap Event.skipped? = run.events.filterMap Event.skipped? ++ skips

namespace Ledger

variable {plan : Plan σ} {run run' run'' : Run σ} {news later : List (Path × String)}
  {skips skips' : List Question}

/-- Nothing is written, and nothing is skipped. -/
theorem refl (plan : Plan σ) (run : Run σ) : Ledger plan run run [] [] :=
  ⟨.start, (List.append_nil _).symm⟩

/-- Two stretches of the run. -/
theorem trans (h : Ledger plan run run' news skips) (h' : Ledger plan run' run'' later skips') :
    Ledger plan run run'' (news ++ later) (skips ++ skips') where
  wrote := h.wrote.trans h'.wrote
  skipped := by rw [h'.skipped, h.skipped, List.append_assoc]

end Ledger

section Steps

variable (plan : Plan σ) {run : Run σ}

/-- A change of the files is no write, whether or not it comes to a fault. -/
theorem change_ledger {f : FileSystem → Option Files.Fault × FileSystem}
    (hwrote : Wrote plan run [] { run with files := (f run.files).2 }) :
    Ends (change f) run fun _ run' => Ledger plan run run' [] [] := by
  have hledger : Ledger plan run { run with files := (f run.files).2 } [] [] :=
    ⟨hwrote, (List.append_nil _).symm⟩
  rw [ends_change]
  split
  · exact hledger
  · exact hledger

/-- Making folders is not counted. -/
theorem makeFolders_ledger (path : Path) :
    Ends (change (·.makeFolders path)) run fun _ run' => Ledger plan run run' [] [] :=
  change_ledger plan (Wrote.start.makeFolders path)

/-- Removing is not counted. -/
theorem remove_ledger (path : Path) :
    Ends (change (·.remove path)) run fun _ run' => Ledger plan run run' [] [] :=
  change_ledger plan (Wrote.start.remove path)

/-- What an answer adds to the questions that were skipped. -/
def skipsOf (question : Question) (answer : Decision) : List Question :=
  if answer = .skip then [question] else []

/-- What an answer skips. -/
theorem filterMap_skipped?_asked (question : Question) (answer : Decision) :
    [Event.asked question answer].filterMap Event.skipped? = skipsOf question answer := by
  cases answer <;> rfl

/-- A decision is answered; the files stay, and only what it skips is counted. -/
theorem decide_ledger (path : Path) (isFolder : Bool) :
    Ends (decide plan path isFolder) run fun r run' =>
      ∃ answer, r = .ok answer ∧
        Ledger plan run run' [] (skipsOf ⟨path, plan.destination, isFolder⟩ answer) := by
  rw [ends_decide]
  cases hcallback : plan.callback? with
  | none =>
    -- What is decided without a callback is never a skip.
    refine ⟨_, rfl, ?_⟩
    cases isFolder <;> exact .refl plan run
  | some callback =>
    refine ⟨_, rfl, Wrote.start.ask hcallback path isFolder, ?_⟩
    show (run.events ++ [_]).filterMap Event.skipped? = _
    rw [List.filterMap_append, filterMap_skipped?_asked]
    rfl

/-- A removal on the way to a value is in no ledger. -/
theorem remove_if_ledger {α : Type} {c : Prop} [Decidable c] {a : α} (path : Path) :
    Ends (if c then do
        change (·.remove path)
        return a
      else return a) run fun r run' => Ledger plan run run' [] [] ∧ ∀ b, r = .ok b → b = a := by
  refine Ends.and ?_ value_of_remove_if
  -- A removal is entered in no list, whether or not it takes place.
  by_cases hc : c
  · rw [if_pos hc]
    refine (remove_ledger plan path).bind ?_ ?_
    · exact fun _ run' hledger => ends_pure.2 hledger
    · exact fun _ run' hledger => hledger
  · rw [if_neg hc]
    exact ends_pure.2 (.refl plan run)

/-- Making room writes nothing. A folder is left out exactly if the question about it is answered with a skip. -/
theorem clearForFolder_ledger (path : Path) :
    Ends (clearForFolder plan path) run fun r run' =>
      r = .ok false ∧ Ledger plan run run' [] [⟨path, plan.destination, true⟩] ∨
        r ≠ .ok false ∧ Ledger plan run run' [] [] := by
  simp only [clearForFolder, ends_bind, ends_get]
  -- Nothing is in the way, or the answer decides what happens to it.
  by_cases hocc : run.files.occupied path = true
  · simp only [hocc, Bool.not_true, Bool.false_eq_true, if_false]
    refine (decide_ledger plan path true).bind ?_ (fun i run' h => by cases h.choose_spec.1)
    rintro answer run' ⟨_, hanswer, hledger⟩
    cases hanswer
    -- Only an answer to skip is entered in a list; the other answers go on with the folder or end the run.
    cases answer with
    | overwrite =>
      refine (remove_ledger plan path).bind ?_ ?_
      · exact fun _ run'' h => ends_pure.2 (.inr ⟨by simp, hledger.trans h⟩)
      · exact fun _ run'' h => .inr ⟨by simp, hledger.trans h⟩
    | merge | keep =>
      simp only [ends_bind, ends_get]
      refine (remove_if_ledger plan path).imp ?_
      rintro r run'' ⟨h, hvalue⟩
      exact .inr ⟨fun hr => absurd (hvalue false hr) (by simp), hledger.trans h⟩
    | skip => exact ends_pure.2 (.inl ⟨rfl, hledger⟩)
    | cancel => exact ends_throw.2 (.inr ⟨by simp, hledger⟩)
  · simp only [hocc, Bool.not_false, if_true]
    exact ends_pure.2 (.inr ⟨by simp, .refl plan run⟩)

/-- So it is with a file. -/
theorem clearForFile_ledger (path : Path) :
    Ends (clearForFile plan path) run fun r run' =>
      r = .ok none ∧ Ledger plan run run' [] [⟨path, plan.destination, false⟩] ∨
        r ≠ .ok none ∧ Ledger plan run run' [] [] := by
  simp only [clearForFile, ends_bind, ends_get]
  by_cases hocc : run.files.occupied path = true
  · simp only [hocc, Bool.not_true, Bool.false_eq_true, if_false]
    refine (decide_ledger plan path false).bind ?_ (fun i run' h => by cases h.choose_spec.1)
    rintro answer run' ⟨_, hanswer, hledger⟩
    cases hanswer
    cases answer with
    -- A folder in the way of a file is removed in both cases.
    | overwrite | merge =>
      simp only [ends_bind, ends_get]
      refine (remove_if_ledger plan path).imp ?_
      rintro r run'' ⟨h, hvalue⟩
      exact .inr ⟨fun hr => absurd (hvalue none hr) (by simp), hledger.trans h⟩
    | keep =>
      simp only [ends_bind, ends_get]
      exact ends_pure.2 (.inr ⟨by simp, hledger⟩)
    | skip => exact ends_pure.2 (.inl ⟨rfl, hledger⟩)
    | cancel => exact ends_throw.2 (.inr ⟨by simp, hledger⟩)
  · simp only [hocc, Bool.not_false, if_true]
    exact ends_pure.2 (.inr ⟨by simp, .refl plan run⟩)

/-- A file is written exactly if there is no fault. -/
theorem writeFile_ledger (path : Path) (content : String) :
    Ends (writeFile plan path content) run fun r run' =>
      r = .ok () ∧ Ledger plan run run' [(path, content)] [] ∨ r ≠ .ok () ∧ Ledger plan run run' [] [] := by
  -- What is left to do once the folders around the file are there.
  have hwrite : ∀ made : Run σ, Ledger plan run made [] [] →
      Ends (do attempt (·.writeText path content); modify (recorded plan)) made fun r run' =>
        r = .ok () ∧ Ledger plan run run' [(path, content)] [] ∨
          r ≠ .ok () ∧ Ledger plan run run' [] [] := by
    intro made hmade
    rw [ends_bind, ends_attempt]
    split
    · rename_i files hfiles
      refine ends_modify.2 (.inl ⟨rfl, hmade.wrote.write hfiles, ?_⟩)
      show (made.events ++ [_]).filterMap Event.skipped? = _
      rw [List.filterMap_append, hmade.skipped]
      exact List.append_nil _
    · exact .inr ⟨by simp, hmade⟩
  rw [writeFile]
  cases path.parent? with
  | none => exact hwrite run (.refl plan run)
  | some parent =>
    refine (makeFolders_ledger plan parent).bind ?_ ?_
    · exact fun _ made hmade => hwrite made hmade
    · exact fun _ made hmade => .inr ⟨by simp, hmade⟩

end Steps

/-! ### Trees -/

/-- The question that is asked about a node. -/
def questionOn (destination : Path) (node : Path × Tree) : Question := ⟨node.1, destination, !node.2.isFile⟩

/-- The part of a run in which `nodes` with `count` files were to be written, with the result `r`: what was
    written, no more than that, and which of the nodes were skipped. Without a fault, nothing is missing. -/
def Accounts (plan : Plan σ) (nodes : List (Path × Tree)) (count : Nat) (run : Run σ) (r : Except Halt Unit)
    (run' : Run σ) : Prop :=
  ∃ news skipped, Ledger plan run run' news (skipped.map (questionOn plan.destination)) ∧
    news.length ≤ count ∧ skipped.Sublist nodes ∧ (r = .ok () → count = news.length + Tree.filesIn skipped)

namespace Accounts

variable {plan : Plan σ} {run run' run'' : Run σ} {r : Except Halt Unit} {nodes more : List (Path × Tree)}
  {count extra : Nat}

/-- Where nothing is to be written, nothing is missing. -/
theorem nil : Accounts plan [] 0 run r run :=
  ⟨[], [], .refl plan run, Nat.le_refl _, List.Sublist.refl _, fun _ => rfl⟩

/-- A step that writes nothing, in front. -/
theorem of_ledger (h : Ledger plan run run' [] []) (h' : Accounts plan nodes count run' r run'') :
    Accounts plan nodes count run r run'' := by
  obtain ⟨news, skipped, hledger, hrest⟩ := h'
  exact ⟨news, skipped, h.trans hledger, hrest⟩

/-- A fault before anything was written. -/
theorem of_error (h : Ledger plan run run' [] []) (hr : r ≠ .ok ()) : Accounts plan nodes count run r run' :=
  ⟨[], [], h, Nat.zero_le _, List.nil_sublist _, fun hok => absurd hok hr⟩

/-- A node that is skipped: all its files are left out. -/
theorem of_skip {folder : Path} {t : Tree} {q : Question}
    (hq : q = questionOn plan.destination (folder.join t.name, t)) (h : Ledger plan run run' [] [q]) :
    Accounts plan (t.placed folder) t.countFiles run r run' := by
  refine ⟨[], [(folder.join t.name, t)], ?_, Nat.zero_le _, Tree.singleton_sublist_placed folder t, ?_⟩
  · rwa [List.map_singleton, ← hq]
  · intro _
    simp [Tree.filesIn]

/-- Parts of a run add up. -/
theorem append (h : Accounts plan nodes count run (.ok ()) run')
    (h' : Accounts plan more extra run' r run'') :
    Accounts plan (nodes ++ more) (count + extra) run r run'' := by
  obtain ⟨news, skipped, hledger, hle, hsub, hcount⟩ := h
  obtain ⟨later, skipped', hledger', hle', hsub', hcount'⟩ := h'
  -- What was written and what was left out are put together, in the order of the nodes.
  refine ⟨news ++ later, skipped ++ skipped', ?_, ?_, hsub.append hsub', fun hr => ?_⟩
  · rw [List.map_append]
    exact hledger.trans hledger'
  · rw [List.length_append]
    omega
  · rw [List.length_append, Tree.filesIn_append, hcount rfl, hcount' hr]
    omega

/-- What is not come to any more after a fault is left open. -/
theorem append_error (h : Accounts plan nodes count run r run') (hr : r ≠ .ok ()) :
    Accounts plan (nodes ++ more) (count + extra) run r run' := by
  obtain ⟨news, skipped, hledger, hle, hsub, _⟩ := h
  refine ⟨news, skipped, hledger, Nat.le_add_right_of_le hle, ?_, fun hok => absurd hok hr⟩
  exact hsub.trans (List.sublist_append_left _ _)

end Accounts

section Trees

variable {plan : Plan σ}

mutual

/-- **Writing a tree.** Each file in it is written or in a node that is skipped, unless the run stops early. -/
theorem writeTree_ledger : ∀ (t : Tree) (folder : Path) (run : Run σ),
    Ends (writeTree plan folder t) run (Accounts plan (t.placed folder) t.countFiles run)
  | .file name content t?, folder, run => by
    rw [writeTree, ends_bind]
    refine (clearForFile_ledger plan (folder.join name)).imp ?_
    rintro r run' (⟨rfl, hskip⟩ | ⟨hr, hledger⟩)
    · exact ends_pure.2 (.of_skip rfl hskip)
    -- The run was interrupted before the file was written.
    · rcases r with i | target?
      · exact .of_error hledger (by simp)
      · -- It is not skipped, so that there is a path to write to, its own or a variant.
        obtain ⟨target, rfl⟩ : ∃ target, target? = some target :=
          Option.ne_none_iff_exists'.1 fun hnone => hr (by rw [hnone])
        refine (writeFile_ledger plan target content).imp ?_
        rintro r' run'' (⟨rfl, hwrite⟩ | ⟨hr', hfault⟩)
        · exact ⟨[(target, content)], [], hledger.trans hwrite, Nat.le_refl _, List.nil_sublist _,
            fun _ => rfl⟩
        · exact .of_error (hledger.trans hfault) hr'
  | .folder name children t?, folder, run => by
    rw [writeTree, ends_bind]
    refine (clearForFolder_ledger plan (folder.join name)).imp ?_
    rintro r run' (⟨rfl, hskip⟩ | ⟨hr, hledger⟩)
    · exact ends_pure.2 (.of_skip rfl hskip)
    -- The run was interrupted, or the folder was left out, which was another case.
    · rcases r with i | (_ | _)
      · exact .of_error hledger (by simp)
      · exact absurd rfl hr
      · -- The folder itself is no file. What is left are its children.
        refine (makeFolders_ledger plan (folder.join name)).bind (fun _ run'' hmade => ?_) fun i run'' hmade => ?_
        · refine (writeTrees_ledger children (folder.join name) run'').imp ?_
          intro r' run''' hrest
          obtain ⟨news, skipped, hrest, hle, hsub, hcount⟩ := Accounts.of_ledger (hledger.trans hmade) hrest
          exact ⟨news, skipped, hrest, hle, hsub.cons _, hcount⟩
        · exact .of_error (hledger.trans hmade) (by simp)

/-- Trees that are written one after the other. -/
theorem writeTrees_ledger : ∀ (ts : List Tree) (folder : Path) (run : Run σ),
    Ends (writeTrees plan folder ts) run
      (Accounts plan (Tree.placedAll folder ts) (Tree.countFilesIn ts) run)
  | [], folder, run => by
    rw [writeTrees]
    exact ends_pure.2 .nil
  | t :: ts, folder, run => by
    rw [writeTrees]
    -- The lists of the first tree go before those of the others; after a fault only its own are left.
    refine (writeTree_ledger t folder run).bind ?_ ?_
    · intro _ run' h
      exact (writeTrees_ledger ts folder run').imp fun _ _ h' => h.append h'
    · exact fun _ run' h => h.append_error (by simp)

end

end Trees

/-! ### Whole runs -/

/-- A file in the root is counted, if it is not the root itself. -/
theorem countFilesIn_children_le (root : Tree) : Tree.countFilesIn root.children ≤ root.countFiles := by
  cases root with
  | file _ _ _ => exact Nat.zero_le _
  | folder _ _ _ => exact Nat.le_refl _

/-- **Progress.** Whatever the names in the tree, the links in the file system, the answers and the outcome, a run
    tells its progress once after each file that it wrote, and counts them up from one, each time of the number of
    files in the tree. It never writes more than these. If it gets to its end, then what is missing are the files
    in the nodes that were skipped, where the root is a folder. -/
theorem generate_progress (root : Tree) (destination : Path) (callback? : Option (Callback σ))
    (files : FileSystem) (s : σ) :
    let o := generate root destination callback? files s
    ∃ (news : List (Path × String)) (skipped : List (Path × Tree)),
      Wrote (planOf root destination callback?) ⟨files, 0, [], s⟩ news o.run ∧
      o.run.events.filterMap Event.progress? =
        (List.range news.length).map (fun i => (i + 1, root.countFiles)) ∧
      news.length ≤ root.countFiles ∧
      skipped.Sublist (Tree.placedAll destination root.children) ∧
      o.run.events.filterMap Event.skipped? = skipped.map (questionOn destination) ∧
      (o.success = true → root.isFile = false →
        root.countFiles - news.length = (skipped.map fun node => node.2.countFiles).sum) := by
  intro o
  let plan := planOf root destination callback?
  let start : Run σ := ⟨files, 0, [], s⟩
  -- The root is passed over, and the destination is made without a question.
  have hsteps : Ends (writing root destination callback?) start
      (Accounts plan (Tree.placedAll destination root.children) (Tree.countFilesIn root.children) start) := by
    refine (makeFolders_ledger plan destination).bind ?_ ?_
    · exact fun _ run hmade => (writeTrees_ledger root.children destination run).imp fun _ _ => .of_ledger hmade
    · exact fun _ run hmade => .of_error hmade (by simp)
  obtain ⟨hstop, hrun⟩ := generate_eq root destination callback? files s
  obtain ⟨news, skipped, hledger, hle, hsub, hcount⟩ := ends_iff.1 hsteps
  rw [← hrun] at hledger
  obtain ⟨_, hprogress⟩ := hledger.wrote.progress
  refine ⟨news, skipped, hledger.wrote, ?_, hle.trans (countFilesIn_children_le root), hsub, ?_, ?_⟩
  · rw [hprogress]
    simp [start, plan, planOf]
  · rw [hledger.skipped]
    rfl
  -- Each file below the root is written or lies in what was skipped.
  · intro hsuccess hroot
    have hok := stopped?_eq_none_iff.1 (hstop.symm.trans (Option.isNone_iff_eq_none.1 hsuccess))
    have htotal : root.countFiles = Tree.countFilesIn root.children := by
      cases root with
      | file _ _ _ => cases hroot
      | folder _ _ _ => rfl
    rw [htotal, hcount hok, Nat.add_sub_cancel_left]
    rfl

/-- A root that is a file is counted and not written, and no question is asked about it. -/
theorem generate_progress_file :
    let root : Tree := .file "r" "x" none
    let o := generate root ⟨true, ["out"]⟩ (none : Option (Callback Unit)) .empty ()
    o.success = true ∧ o.run.events = [] ∧ o.run.written = 0 ∧ root.countFiles = 1 := by
  decide +kernel

end Generation

end Scaffold
