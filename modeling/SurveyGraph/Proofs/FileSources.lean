import SurveyGraph.Survey.FileName
import SurveyGraph.Proofs.Outcome
import Mathlib.Data.List.Basic
/-!
# What a file of products is made from

Name and header of a file of products list types and runs. The lists are compared entry by entry as far as both go: a file is
refused if they differ there. That one is longer goes unnoticed, and the files are those of the name.
-/
open List

namespace SurveyGraph.FileName

variable {files : List (FileKind × String)} {header : Header} {name : String}

/-- A file is the one of an entry of a name or a header. -/
def IsSource (entry : String × Int) (file : FileKind × String) : Prop :=
  FileKind.ofType? entry.1 = some file.1 ∧ file.1.nameOfRun (.int entry.2) = .ok file.2

section Agree

variable {α β : Type} [BEq α] [LawfulBEq α] [BEq β] [LawfulBEq β]

lemma agree_iff : ∀ xs ys : List α, agree xs ys = true ↔ xs <+: ys ∨ ys <+: xs
  | [], ys => by simp [agree]
  | x :: xs, [] => by simp [agree]
  | x :: xs, y :: ys => by
    have ih := agree_iff xs ys
    simp only [agree] at ih ⊢
    rw [zip_cons_cons, all_cons, Bool.and_eq_true, ih, beq_iff_eq, cons_prefix_cons, cons_prefix_cons,
      eq_comm, ← and_or_left]

lemma agree_iff_eq {xs ys : List α} (hlen : xs.length = ys.length) : agree xs ys = true ↔ xs = ys := by
  rw [agree_iff]
  constructor
  · rintro (h | h)
    · exact h.eq_of_length hlen
    · exact (h.eq_of_length hlen.symm).symm
  · rintro rfl
    exact .inl (prefix_refl xs)

lemma agree_pairs (xs ys : List (α × β)) : agree xs ys = true ↔
    agree (xs.map (·.2)) (ys.map (·.2)) = true ∧ agree (xs.map (·.1)) (ys.map (·.1)) = true := by
  simp only [agree, zip_map, all_map, all_eq_true, Function.comp_apply, Prod.map_fst, Prod.map_snd,
    beq_iff_eq, ← forall_and, Prod.ext_iff]
  exact forall_congr' fun p => forall_congr' fun _ => and_comm

end Agree

lemma sourceOf_ok_iff {entry : String × Int} {file : FileKind × String} :
    sourceOf entry = .ok file ↔ IsSource entry file := by
  simp only [sourceOf, IsSource]
  split
  case h_1 k hk =>
    rw [hk]
    constructor
    · intro h
      obtain ⟨name, hname, h⟩ := bind_ok h
      cases h
      exact ⟨rfl, hname⟩
    · rintro ⟨hkind, hname⟩
      cases hkind
      rw [bind_of_ok hname]
      rfl
  case h_2 hk =>
    rw [hk]
    constructor
    · intro h
      cases h
    · rintro ⟨h, -⟩
      cases h

lemma sourcesOf_eq {named listed : List (String × Int)}
    (hname : runsInName name = .ok named) (hheader : runsInHeader header = .ok listed) : sourcesOf header name =
      if agree (named.map (·.2)) (listed.map (·.2)) then
        if agree (named.map (·.1)) (listed.map (·.1)) then named.mapM sourceOf else refuse FileCause.otherTypes
      else refuse FileCause.otherRuns := by
  rw [sourcesOf, bind_of_ok hname, bind_of_ok hheader]
  cases agree (named.map (·.2)) (listed.map (·.2)) <;> cases agree (named.map (·.1)) (listed.map (·.1)) <;> rfl

lemma mapM_sourceOf_ok_iff {entries : List (String × Int)} :
    entries.mapM sourceOf = .ok files ↔ Forall₂ IsSource entries files :=
  ⟨fun h => (mapM_ok h).imp fun _ _ => sourceOf_ok_iff.mp, fun h => mapM_of_forall₂ (h.imp fun _ _ => sourceOf_ok_iff.mpr)⟩

lemma sourcesOf_ok_iff :
    sourcesOf header name = .ok files ↔ ∃ named listed, runsInName name = .ok named ∧ runsInHeader header = .ok listed ∧
      (named <+: listed ∨ listed <+: named) ∧ Forall₂ IsSource named files := by
  simp only [← agree_iff, agree_pairs, ← mapM_sourceOf_ok_iff]
  constructor
  · intro h
    obtain ⟨named, hname, h'⟩ := bind_ok h
    obtain ⟨listed, hheader, -⟩ := bind_ok h'
    rw [sourcesOf_eq hname hheader] at h
    split at h
    · split at h
      · exact ⟨named, listed, hname, hheader, ⟨‹_›, ‹_›⟩, h⟩
      · cases h
    · cases h
  · rintro ⟨named, listed, hname, hheader, ⟨hruns, htypes⟩, hfiles⟩
    rw [sourcesOf_eq hname hheader, if_pos hruns, if_pos htypes, hfiles]

/-- A file of products is read exactly if its name and header agree as far as both go, and is made from the
files of its name, in order. With equally many entries they are the same, or the file is refused for its runs
or, if only these differ, its types. -/
theorem sources_agree (header : Header) (name : String) :
    (∀ files, sourcesOf header name = .ok files ↔ ∃ named listed, runsInName name = .ok named ∧
      runsInHeader header = .ok listed ∧ (named <+: listed ∨ listed <+: named) ∧ List.Forall₂ IsSource named files) ∧
    ∀ named listed, runsInName name = .ok named → runsInHeader header = .ok listed → named.length = listed.length →
      (named.map (·.2) ≠ listed.map (·.2) → sourcesOf header name = refuse FileCause.otherRuns) ∧
      (named.map (·.2) = listed.map (·.2) → named ≠ listed → sourcesOf header name = refuse FileCause.otherTypes) ∧
      ∀ files, sourcesOf header name = .ok files ↔ named = listed ∧ List.Forall₂ IsSource named files := by
  refine ⟨fun files => sourcesOf_ok_iff, fun named listed hname hheader hlen => ?_⟩
  have hruns : agree (named.map (·.2)) (listed.map (·.2)) = true ↔ named.map (·.2) = listed.map (·.2) :=
    agree_iff_eq (by simpa using hlen)
  have hboth : agree named listed = true ↔ named = listed := agree_iff_eq hlen
  refine ⟨fun h => ?_, fun h hne => ?_, fun files => ?_⟩
  · rw [sourcesOf_eq hname hheader, if_neg (h ∘ hruns.mp)]
  · have htypes : ¬agree (named.map (·.1)) (listed.map (·.1)) = true :=
      fun htypes => hne (hboth.mp ((agree_pairs named listed).mpr ⟨hruns.mpr h, htypes⟩))
    rw [sourcesOf_eq hname hheader, if_pos (hruns.mpr h), if_neg htypes]
  · rw [sourcesOf_ok_iff, hname, hheader, ← hboth, agree_iff]
    simp

/-- The header of a file made from a single spectrum and perhaps another file. -/
def headerWith (second : Option Value) : Header
  | "L1_REF_0" => some (.text "single_1002813.fit")
  | "L1_REF_1" => second
  | _ => none

theorem sources_agree_two :
    runsInName "single_1002813__stacked_1002814_aps.fits" = .ok [("single", 1002813), ("stacked", 1002814)] ∧
    sourcesOf (headerWith (some (.text "stacked_1002814.fit"))) "single_1002813__stacked_1002814_aps.fits" =
      .ok [(.single, "single_1002813.fit"), (.stack, "stack_1002814.fit")] := by
  have hname : runsInName "single_1002813__stacked_1002814_aps.fits" = .ok [("single", 1002813), ("stacked", 1002814)] :=
    eq_ok_of_gives (by decide +kernel)
  have hheader : runsInHeader (headerWith (some (.text "stacked_1002814.fit"))) = .ok [("single", 1002813), ("stacked", 1002814)] :=
    eq_ok_of_gives (by decide +kernel)
  have hfiles : List.Forall₂ IsSource [("single", 1002813), ("stacked", 1002814)]
      [(.single, "single_1002813.fit"), (.stack, "stack_1002814.fit")] :=
    .cons ⟨rfl, eq_ok_of_gives (by decide +kernel)⟩ (.cons ⟨rfl, eq_ok_of_gives (by decide +kernel)⟩ .nil)
  exact ⟨hname, (((sources_agree _ _).2 _ _ hname hheader rfl).2.2 _).mpr ⟨rfl, hfiles⟩⟩

/-- A name may list a file that the header does not. -/
theorem exists_unlisted_source : ∃ header name files named listed, sourcesOf header name = .ok files ∧
    runsInName name = .ok named ∧ runsInHeader header = .ok listed ∧ named.length = 2 ∧ listed.length = 1 ∧
    files.length = 2 :=
  ⟨headerWith none, "single_1002813__single_1002814_aps.fits", [(.single, "single_1002813.fit"), (.single, "single_1002814.fit")],
    [("single", 1002813), ("single", 1002814)], [("single", 1002813)], eq_ok_of_gives (by decide +kernel),
    eq_ok_of_gives (by decide +kernel), eq_ok_of_gives (by decide +kernel), rfl, rfl, rfl⟩

end SurveyGraph.FileName
