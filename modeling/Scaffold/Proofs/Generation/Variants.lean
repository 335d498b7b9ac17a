import Scaffold.Generation
import Scaffold.Proofs.Files.Walks
import Mathlib.Data.List.Perm.Subperm
import Mathlib.Data.List.Nodup

namespace Scaffold.Generation

/-!
# Numbered variants

A file that is kept beside another one gets the first numbered variant of its name that is free.

* `variantName` — the variants of a name; they are normal names, and no two of them are the same;
* `variant_eq` — the variants of a path stand beside it;
* `freeVariant_first` — the free variant is the first of them that leads to nothing. There is one, since there are
  more variants to try than entries in the file system.
-/

open Files (Path FileSystem Location)
open Files.Path (IsNormal)

/-! ### Names of variants -/

/-- The `n`-th variant of a name. -/
def variantName (name : String) (n : Nat) : String :=
  (Files.stemAndExtension name).1 ++ " (" ++ toString n ++ ")" ++
    (Files.stemAndExtension name).2.elim "" ("." ++ ·)

/-- The stem and the extension of a name are made of its characters. -/
theorem mem_of_mem_stemAndExtension {name : String} {c : Char} :
    (c ∈ (Files.stemAndExtension name).1.toList → c ∈ name.toList) ∧
      ∀ extension ∈ (Files.stemAndExtension name).2, c ∈ extension.toList → c ∈ name.toList := by
  unfold Files.stemAndExtension
  dsimp only
  split
  · simp
  · constructor
    · intro hc
      rw [String.toList_ofList] at hc
      exact List.mem_of_mem_take hc
    · intro extension hext hc
      rw [Option.mem_some_iff] at hext
      rw [← hext, String.toList_ofList, List.mem_reverse] at hc
      exact List.mem_reverse.1 ((List.takeWhile_prefix _).subset hc)

theorem slash_notMem_toString (n : Nat) : '/' ∉ (toString n).toList := by
  intro h
  have hdigit := Nat.isDigit_of_mem_toDigits (b := 10) (by decide) (by decide)
    (show '/' ∈ Nat.toDigits 10 n by rwa [← Nat.toList_repr])
  exact absurd hdigit (by decide)

/-- The variants of a normal name are normal: each of them holds a bracket, and none a slash. -/
theorem isNormal_variantName {name : String} (h : IsNormal name) (n : Nat) :
    IsNormal (variantName name n) := by
  -- The number stands in brackets, so that the variant is neither empty nor made of dots.
  have hbracket : '(' ∈ (variantName name n).toList := by simp [variantName]
  refine ⟨?_, ?_, ?_, ?_⟩
  · intro heq
    rw [heq] at hbracket
    exact absurd hbracket (by decide)
  · intro heq
    rw [heq] at hbracket
    exact absurd hbracket (by decide)
  · intro heq
    rw [heq] at hbracket
    exact absurd hbracket (by decide)
  · intro hslash
    have hmem := @mem_of_mem_stemAndExtension name '/'
    simp only [variantName, String.toList_append, List.mem_append] at hslash
    -- A slash would stand in the stem or in the extension, both cut out of the name.
    rcases hslash with (((hstem | hopen) | hnumber) | hclose) | hext
    · exact h.no_slash (hmem.1 hstem)
    · exact absurd hopen (by decide)
    · exact slash_notMem_toString n hnumber
    · exact absurd hclose (by decide)
    · cases he : (Files.stemAndExtension name).2 with
      | none => simp [he] at hext
      | some extension =>
        rw [he, Option.elim_some, String.toList_append, List.mem_append] at hext
        rcases hext with hdot | hext
        · exact absurd hdot (by decide)
        · exact h.no_slash (hmem.2 extension he hext)

/-- No two variants of a name are the same. -/
theorem variantName_injective (name : String) {n m : Nat}
    (h : variantName name n = variantName name m) : n = m := by
  have hlist := congrArg String.toList h
  simp only [variantName, String.toList_append, List.append_assoc] at hlist
  have hrest := List.append_cancel_left (List.append_cancel_left hlist)
  have hnumber := List.append_cancel_right hrest
  have hdigits : Nat.toDigits 10 n = Nat.toDigits 10 m := by
    rw [← Nat.toList_repr, ← Nat.toList_repr]
    exact hnumber
  rw [← Nat.ofDigitChars_ten_toDigits (n := n), hdigits, Nat.ofDigitChars_ten_toDigits]

/-! ### Paths of variants -/

section Paths

variable {p parent : Path} {name : String} (hfile : p.fileName? = some name)
  (hparent : p.parent? = some parent)
include hfile hparent

/-- The variants of a path stand beside it. -/
theorem variant_eq (n : Nat) : variant p n = parent.join (variantName name n) := by
  rw [variant, hfile]
  show p.withFileName (variantName name n) = _
  rw [Path.withFileName, hfile, hparent]
  rfl

/-- The search goes past variants that lead to something. It ends with the first one that does not, unless its
    fuel is used up before. -/
theorem freeVariantFrom_eq (files : FileSystem) (fuel n : Nat) :
    ∃ m, n ≤ m ∧ freeVariantFrom files p fuel n = parent.join (variantName name m) ∧
      (∀ i, n ≤ i → i < m → files.leads (parent.join (variantName name i)) = true) ∧
      (files.leads (parent.join (variantName name m)) = false ∨ m = n + fuel) := by
  induction fuel generalizing n with
  -- With no budget left the last number is taken untested; else the search goes on behind a taken name.
  | zero =>
    refine ⟨n, Nat.le_refl n, variant_eq hfile hparent n, fun i hle hlt => ?_, .inr rfl⟩
    omega
  | succ fuel ih =>
    rw [freeVariantFrom, variant_eq hfile hparent]
    by_cases hleads : files.leads (parent.join (variantName name n)) = true
    · rw [if_pos hleads]
      obtain ⟨m, hle, heq, hbefore, hend⟩ := ih (n + 1)
      refine ⟨m, by omega, heq, fun i hi hlt => ?_, hend.imp_right fun hm => by omega⟩
      rcases Nat.eq_or_lt_of_le hi with rfl | hi
      · exact hleads
      · exact hbefore i hi hlt
    · rw [if_neg hleads]
      refine ⟨n, Nat.le_refl n, rfl, fun i hle hlt => ?_, .inl (by simpa using hleads)⟩
      omega

end Paths

/-! ### Free variants -/

/-- What stands at a location other than the root is an entry of the file system. -/
theorem mem_places_of_entryAt? {files : FileSystem} {place : Location} (hplace : place ≠ [])
    (h : files.entryAt? place ≠ none) : place ∈ files.entries.map Prod.fst := by
  rw [FileSystem.entryAt?, if_neg hplace, Option.ne_none_iff_exists'] at h
  obtain ⟨e, he⟩ := h
  obtain ⟨before, after, hentries, _⟩ := List.lookup_eq_some_iff.1 he
  rw [hentries]
  simp

/-- What leads to something is an entry with that name, be it a link. -/
theorem exists_entry_of_leads {files : FileSystem} {folder : Path} {name : String} (hname : IsNormal name)
    (h : files.leads (folder.join name) = true) :
    ∃ place ∈ files.entries.map Prod.fst, place.getLast? = some name := by
  obtain ⟨place, hlocate, hentry⟩ := FileSystem.occupied_iff_locate.1 (FileSystem.occupied_of_leads h)
  obtain ⟨_, hwalk⟩ := FileSystem.locate_eq_ok_iff_walks.1 hlocate
  rw [folder.pieces_join hname] at hwalk
  obtain ⟨mid, rfl, _⟩ := hwalk.exists_eq_concat hname.not_isIdle hname.ne_up
  exact ⟨_, mem_places_of_entryAt? (by simp) hentry, List.getLast?_concat⟩

/-- There are more variants than entries, so that not all of them lead to something. -/
theorem exists_variant_not_leads (files : FileSystem) (folder : Path) {name : String} (hname : IsNormal name) :
    ∃ i < files.entries.length + 1,
      files.leads (folder.join (variantName name (1 + i))) = false := by
  by_contra hall
  simp only [not_exists, not_and, Bool.not_eq_false] at hall
  -- The variants that were tried are distinct, and each of them is the name of an entry.
  let names := (List.range (files.entries.length + 1)).map fun i => some (variantName name (1 + i))
  have hnodup : names.Nodup := by
    refine List.nodup_range.map fun i j hij => ?_
    have := variantName_injective name (Option.some.inj hij)
    omega
  have hsub : names ⊆ (files.entries.map Prod.fst).map List.getLast? := by
    intro last hlast
    obtain ⟨i, hi, rfl⟩ := List.mem_map.1 hlast
    obtain ⟨place, hplace, hname'⟩ :=
      exists_entry_of_leads (isNormal_variantName hname (1 + i)) (hall i (List.mem_range.1 hi))
    exact List.mem_map.2 ⟨place, hplace, hname'⟩
  have hlength := (hnodup.subperm hsub).length_le
  simp only [names, List.length_map, List.length_range] at hlength
  omega

/-- **Free variants.** A file that is kept beside another one goes to the first variant that leads to nothing. -/
theorem freeVariant_first (files : FileSystem) {p parent : Path} {name : String}
    (hfile : p.fileName? = some name) (hparent : p.parent? = some parent) (hname : IsNormal name) :
    ∃ m, 1 ≤ m ∧ freeVariant files p = parent.join (variantName name m) ∧
      files.leads (parent.join (variantName name m)) = false ∧
      ∀ i, 1 ≤ i → i < m → files.leads (parent.join (variantName name i)) = true := by
  obtain ⟨m, hle, heq, hbefore, hfree | hend⟩ :=
    freeVariantFrom_eq hfile hparent files (files.entries.length + 1) 1
  · exact ⟨m, hle, heq, hfree, hbefore⟩
  · obtain ⟨i, hi, hfalse⟩ := exists_variant_not_leads files parent hname
    rw [hbefore (1 + i) (by omega) (by omega)] at hfalse
    cases hfalse

/-- The free variant of a name in a folder. -/
theorem freeVariant_eq (files : FileSystem) (p : Path) {name : String} (hname : IsNormal name) :
    ∃ m, freeVariant files (p.join name) = p.trimmed.join (variantName name m) ∧
      files.leads (p.trimmed.join (variantName name m)) = false := by
  obtain ⟨m, _, heq, hfree, _⟩ :=
    freeVariant_first files (p.fileName?_join hname) (p.parent?_join hname) hname
  exact ⟨m, heq, hfree⟩

end Scaffold.Generation
