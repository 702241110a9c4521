import Mathlib.Data.Finset.Card
import Mathlib.Data.Finset.Range
import SurveyGraph.Proofs.Schemas
import SurveyGraph.Proofs.SearchFinds
/-!
# Classes within reach

The search for the classes within reach goes into depth, and a class is finished when the search has come back from it. So
each finished class comes after all that it leads to (`Finished`): where the search ends, it has met exactly what is within
reach. Where two classes lead to each other, it has no end.
-/
open Relation List

namespace SurveyGraph.Registry

variable {reg : Registry} {order : ClassId → List ClassId → List ClassId} {a b c d e : ClassId} {done : List ClassId}
  (back : List MemberDecl)

/-- The second class is a parent, child or product of the first, and no template. -/
def Next (reg : Registry) (a b : ClassId) : Prop :=
  (∃ m ∈ reg.members a, memberClass? m = some b) ∧ (reg.get b).isTemplate = false

/-- Steps to non-templates lead from the first class to the second. -/
def Reaches (reg : Registry) : ClassId → ClassId → Prop := ReflTransGen reg.Next

lemma mem_nextClasses : b ∈ reg.nextClasses false a ↔ reg.Next a b := by
  simp [nextClasses, Next, mem_eraseDups]

/-! ## The order of the finished classes -/

/-- Each class has been finished after all others that it leads to. -/
inductive Finished (reg : Registry) : List ClassId → Prop
  | nil : Finished reg []
  | snoc {done : List ClassId} {d : ClassId} (before : Finished reg done) (next : ∀ e, reg.Next d e → e = d ∨ e ∈ done) :
    Finished reg (done ++ [d])

lemma Finished.next (h : Finished reg done) (hd : d ∈ done) (he : reg.Next d e) :
    e ∈ done ∧ (e = d ∨ done.idxOf e < done.idxOf d) := by
  induction h with
  | nil => cases hd
  | @snoc done x _ hnext ih =>
    by_cases hmem : d ∈ done
    · obtain ⟨hin, hlt⟩ := ih hmem
      rw [idxOf_append_of_mem hin, idxOf_append_of_mem hmem]
      exact ⟨mem_append_left _ hin, hlt⟩
    · obtain rfl : d = x := by simpa [hmem] using hd
      rcases hnext e he with rfl | hin
      · exact ⟨hd, .inl rfl⟩
      · refine ⟨mem_append_left _ hin, .inr ?_⟩
        rw [idxOf_append_of_mem hin, idxOf_append_of_notMem hmem]
        exact (idxOf_lt_length_iff.mpr hin).trans_le (Nat.le_add_right _ _)

lemma Finished.reaches (h : Finished reg done) (hd : d ∈ done) (he : reg.Reaches d e) :
    e ∈ done ∧ (e = d ∨ done.idxOf e < done.idxOf d) := by
  induction he with
  | refl => exact ⟨hd, .inl rfl⟩
  | tail _ hstep ih =>
    obtain ⟨hin, hle⟩ := ih
    obtain ⟨hin', hle'⟩ := h.next hin hstep
    refine ⟨hin', ?_⟩
    rcases hle with rfl | hlt
    · exact hle'
    · rcases hle' with rfl | hlt'
      · exact .inr hlt
      · exact .inr (hlt'.trans hlt)

lemma Finished.antisymm (h : Finished reg done) (hd : d ∈ done) (hde : reg.Reaches d e) (hed : reg.Reaches e d) : d = e := by
  obtain ⟨he, hlt | hlt⟩ := h.reaches hd hde
  · exact hlt.symm
  · rcases (h.reaches he hed).2 with heq | hlt'
    · exact heq
    · omega

/-! ## What a search has met -/

/-- What a search from a class has met and finished, with what was finished before. -/
structure Found (reg : Registry) (c : ClassId) (before : List ClassId) (s : List ClassId × List ClassId) : Prop where
  met : ∀ d ∈ s.1, reg.Reaches c d
  old : ∀ d ∈ before, d ∈ s.2
  new : ∀ d ∈ s.2, d ∈ before ∨ d ∈ s.1
  finished : Finished reg before → Finished reg s.2

/-- A search that has come back has met its class, and finished all that it leads to. -/
structure Closed (reg : Registry) (c : ClassId) (before : List ClassId) (s : List ClassId × List ClassId) : Prop
    extends Found reg c before s where
  self : c ∈ s.1
  next : ∀ e, reg.Next c e → e = c ∨ e ∈ s.2

variable {search : ClassId → List ClassId → Except Fault (List ClassId × List ClassId)} {s s' : List ClassId × List ClassId}

lemma Found.step (h : Found reg c done s) (hd : reg.Next c d) (hsearch : ∀ {s'}, search d s.2 = .ok s' → Closed reg d s.2 s')
    (hs : visit search c s d = .ok s') : Found reg c done s' ∧ (d = c ∨ d ∈ s'.2) ∧ ∀ e ∈ s.2, e ∈ s'.2 := by
  unfold Registry.visit at hs
  split at hs
  · rename_i hskip
    cases hs
    exact ⟨h, by simpa [or_comm] using hskip, fun _ he => he⟩
  · cases hfound : search d s.2 with
    | error e =>
      rw [hfound] at hs
      cases hs
    | ok t =>
      rw [hfound] at hs
      cases hs
      have ht := hsearch hfound
      refine ⟨⟨fun e he => ?_, fun e he => ?_, fun e he => ?_, fun hdone => ?_⟩, ?_, ?_⟩
      · rcases mem_append.mp he with he | he
        · exact h.met e he
        · exact .head hd (ht.met e he)
      · exact mem_append_left _ (ht.old e (h.old e he))
      · rcases mem_append.mp he with he | he
        · rcases ht.new e he with he | he
          · exact (h.new e he).imp_right (mem_append_left _)
          · exact .inr (mem_append_right _ he)
        · exact .inr (mem_append_right _ (mem_singleton.mp he ▸ ht.self))
      · exact .snoc (ht.finished (h.finished hdone)) ht.next
      · exact .inr (by simp)
      · exact fun e he => mem_append_left _ (ht.old e he)

lemma Found.visitAll {ds : List ClassId} (h : Found reg c done s) (hds : ∀ d ∈ ds, reg.Next c d)
    (hsearch : ∀ {d done s'}, search d done = .ok s' → Closed reg d done s') (hs : ds.foldlM (visit search c) s = .ok s') :
    Found reg c done s' ∧ (∀ d ∈ ds, d = c ∨ d ∈ s'.2) ∧ ∀ e ∈ s.2, e ∈ s'.2 := by
  induction ds generalizing s with
  | nil =>
    cases hs
    exact ⟨h, by simp, fun _ he => he⟩
  | cons d ds ih =>
    obtain ⟨t, ht, hs⟩ := bind_ok hs
    obtain ⟨hfound, hd, hkeep⟩ := h.step (hds d (by simp)) hsearch ht
    obtain ⟨hfound', hrest, hkeep'⟩ := ih hfound (fun e he => hds e (by simp [he])) hs
    refine ⟨hfound', forall_mem_cons.mpr ⟨hd.imp_right (hkeep' d), hrest⟩, fun e he => hkeep' e (hkeep e he)⟩

lemma closed_of_reachWithin (horder : ∀ c l d, d ∈ order c l ↔ d ∈ l) {fuel : Nat}
    (h : reg.reachWithin order false fuel c done = .ok s) : Closed reg c done s := by
  induction fuel generalizing c done s with
  | zero => cases h
  | succ fuel ih =>
    unfold reachWithin at h
    split at h
    · cases h
    · obtain ⟨t, ht, rfl⟩ : ∃ t, (order c (reg.nextClasses false c)).foldlM (visit (reg.reachWithin order false fuel) c)
          ([], done) = .ok t ∧ ((c :: t.1).eraseDups, t.2) = s := by
        cases hfold : (order c (reg.nextClasses false c)).foldlM (visit (reg.reachWithin order false fuel) c) ([], done) with
        | error e =>
          rw [hfold] at h
          cases h
        | ok t =>
          rw [hfold] at h
          exact ⟨t, rfl, Except.ok.inj h⟩
      have hstart : Found reg c done ([], done) := ⟨by simp, fun _ h => h, fun _ h => .inl h, fun h => h⟩
      obtain ⟨hfound, hnext, -⟩ :=
        hstart.visitAll (fun d hd => mem_nextClasses.mp ((horder _ _ d).mp hd)) (fun hs => ih hs) ht
      refine ⟨⟨fun d hd => ?_, hfound.old, fun d hd => ?_, hfound.finished⟩, ?_, fun e he => ?_⟩
      · rcases mem_cons.mp (mem_eraseDups.mp hd) with rfl | hd
        · exact .refl
        · exact hfound.met d hd
      · exact (hfound.new d hd).imp_right fun hd => mem_eraseDups.mpr (.tail _ hd)
      · exact mem_eraseDups.mpr (.head _)
      · exact hnext e ((horder _ _ e).mpr (mem_nextClasses.mpr he))

lemma Closed.next_or_done (h : Closed reg c [] s) (hd : reg.Reaches c d) : d = c ∨ d ∈ s.2 := by
  induction hd with
  | refl => exact .inl rfl
  | tail _ hstep ih =>
    rcases ih with rfl | hin
    · exact h.next _ hstep
    · exact .inr ((h.finished .nil).next hin hstep).1

lemma Closed.mem_iff (h : Closed reg c [] s) : d ∈ s.1 ↔ reg.Reaches c d := by
  refine ⟨h.met d, fun hd => ?_⟩
  rcases h.next_or_done hd with rfl | hin
  · exact h.self
  · exact (h.new d hin).resolve_left (by simp)

/-- No two classes within reach lead to each other. -/
def Straight (reg : Registry) (c : ClassId) : Prop := ∀ d e, reg.Reaches c d → reg.Reaches d e → reg.Reaches e d → d = e

lemma Closed.straight (h : Closed reg c [] s) : reg.Straight c := by
  intro d e hd hde hed
  rcases h.next_or_done hd with rfl | hin
  · rcases h.next_or_done hde with rfl | hin
    · rfl
    · exact ((h.finished .nil).antisymm hin hed hde).symm
  · exact (h.finished .nil).antisymm hin hde hed

lemma straight_of_rank (rank : ClassId → Nat) (h : ∀ a b, reg.Next a b → b = a ∨ rank b < rank a) : reg.Straight c := by
  have hreach : ∀ {a b}, reg.Reaches a b → b = a ∨ rank b < rank a := by
    intro a b hab
    induction hab with
    | refl => exact .inl rfl
    | tail _ hstep ih =>
      rcases h _ _ hstep with rfl | hlt
      · exact ih
      · exact .inr (ih.elim (fun heq => heq ▸ hlt) hlt.trans)
  intro d e _ hde hed
  rcases hreach hde with rfl | hlt
  · rfl
  · rcases hreach hed with rfl | hlt'
    · rfl
    · omega

/-! ## Searches that come back -/

open Classical in
/-- How many classes of the registry are within reach. -/
noncomputable def extent (reg : Registry) (c : ClassId) : Nat := {d ∈ Finset.range reg.classes.size | reg.Reaches c d}.card

lemma extent_le : reg.extent c ≤ reg.classes.size := by
  classical
  exact (Finset.card_filter_le _ _).trans_eq (Finset.card_range _)

lemma lt_of_next (h : reg.Next a b) : a < reg.classes.size := by
  obtain ⟨⟨m, hm, _⟩, _⟩ := h
  refine Nat.lt_of_not_le fun hle => ?_
  simp [members, get_of_size_le hle, rootClass] at hm

lemma extent_lt (h : reg.Next a b) (hback : ¬reg.Reaches b a) : reg.extent b < reg.extent a := by
  refine Finset.card_lt_card (Finset.ssubset_iff_of_subset (fun d hd => ?_) |>.mpr ⟨a, ?_, ?_⟩)
  · simp only [Finset.mem_filter] at hd ⊢
    exact ⟨hd.1, .head h hd.2⟩
  · simp only [Finset.mem_filter, Finset.mem_range]
    exact ⟨lt_of_next h, .refl⟩
  · simp [hback]

/-- All members of all classes are classes or relations to classes. -/
def AllResolved (reg : Registry) : Prop := ∀ c, ∀ m ∈ reg.members c, (memberClass? m).isSome

variable {fuel : Nat} {E : FaultKind → Prop}

/-- A search fails only as one from a class next to it does. -/
lemma AllResolved.search_finds (h : reg.AllResolved) (hnext : ∀ d ∈ order c (reg.nextClasses false c), d ≠ c → ∀ done,
    Finds E (fun _ => True) (reg.reachWithin order false fuel d done)) :
    Finds E (fun _ => True) (reg.reachWithin order false (fuel + 1) c done) := by
  have hmembers : ¬(reg.members c).any (fun m => (memberClass? m).isNone) := by
    simpa [Option.isSome_iff_ne_none] using h c
  unfold reachWithin
  rw [if_neg hmembers]
  refine Finds.map (Finds.foldlM (fun s d hd => ?_) _)
  unfold visit
  split
  · trivial
  · rename_i hskip
    exact Finds.map (hnext d hd (by rintro rfl; simp at hskip) s.2)

lemma AllResolved.search_deep (h : reg.AllResolved) :
    Finds (· = .tooDeep) (fun _ => True) (reg.reachWithin order false fuel c done) := by
  induction fuel generalizing c done with
  | zero => exact rfl
  | succ fuel ih => exact h.search_finds fun _ _ _ _ => ih

/-- With more depth than classes within reach, a search comes back if no two lead to each other. -/
lemma AllResolved.search_ends (h : reg.AllResolved) (horder : ∀ c l d, d ∈ order c l ↔ d ∈ l) (hfuel : reg.extent c < fuel)
    (hc : reg.Straight c) : Finds (fun _ => False) (fun _ => True) (reg.reachWithin order false fuel c done) := by
  induction fuel generalizing c done with
  | zero => omega
  | succ fuel ih =>
    refine h.search_finds fun d hd hne done => ?_
    have hd := mem_nextClasses.mp ((horder _ _ d).mp hd)
    have hback : ¬reg.Reaches d c := fun hback => hne (hc c d .refl (.single hd) hback).symm
    exact ih ((extent_lt hd hback).trans_le (Nat.lt_succ_iff.mp hfuel)) fun x y hx => hc x y (.head hd hx)

/-- In any order, a search gives exactly the classes within reach, if no two lead to each other; otherwise no
depth is enough. -/
theorem search_exact (hresolved : reg.AllResolved) (horder : ∀ c l d, d ∈ order c l ↔ d ∈ l) (c : ClassId) :
    (reg.Straight c → ∀ fuel, reg.classes.size < fuel → ∃ met done, reg.reachWithin order false fuel c [] = .ok (met, done) ∧
      ∀ d, d ∈ met ↔ reg.Reaches c d) ∧
    (¬reg.Straight c → ∀ fuel, ∃ e, reg.reachWithin order false fuel c [] = .error e ∧ e.kind = .tooDeep) := by
  refine ⟨fun hc fuel hfuel => ?_, fun hc fuel => ?_⟩
  · have hends : Finds (fun _ => False) (fun _ => True) (reg.reachWithin order false fuel c []) :=
      hresolved.search_ends horder (Nat.lt_of_le_of_lt extent_le hfuel) hc
    rcases hends.ok_or_error with ⟨s, hs⟩ | ⟨_, _, hno⟩
    · exact ⟨s.1, s.2, hs, fun d => (closed_of_reachWithin horder hs).mem_iff⟩
    · exact hno.elim
  · rcases hresolved.search_deep.ok_or_error with ⟨s, hs⟩ | hdeep
    · exact absurd (closed_of_reachWithin horder hs).straight hc
    · exact hdeep

/-- Fields with a first run, runs perhaps with other children, and nights. -/
def fieldsDeclared : List Declaration :=
  [{ name := "Field", pluralName := some "fields", idname := some (.text "number")
     children := some [.rel { kind := .oneOf, node := .text "Run", idname := some "first" }] },
    { name := "Run", pluralName := some "runs", idname := some (.text "number"), children := some back },
    { name := "Night", pluralName := some "nights", idname := some (.text "number")
      parents := some [.rel { kind := .oneOf, node := .text "Field" }] }]

def fieldsRegistry : Registry := (after ((fieldsDeclared back).mapM declare) Registry.empty).2

lemma fields_members {back : List MemberDecl} {P : ClassId → Member → Prop} (hsize : (fieldsRegistry back).classes.size = 4)
    (h : ∀ a < 4, ∀ m ∈ (fieldsRegistry back).members a, P a m) : ∀ a, ∀ m ∈ (fieldsRegistry back).members a, P a m := by
  intro a m hm
  refine h a (Nat.lt_of_not_le fun hle => ?_) m hm
  simp [members, get_of_size_le (hsize ▸ hle), rootClass] at hm

theorem search_exact_night : ∃ met done,
    (fieldsRegistry []).reachWithin (fun _ => List.reverse) false 5 3 [] = .ok (met, done) ∧
      ∀ d, d ∈ met ↔ (fieldsRegistry []).Reaches 3 d := by
  have hsize : (fieldsRegistry []).classes.size = 4 := by decide +kernel
  have hresolved : (fieldsRegistry []).AllResolved := fields_members hsize (by decide +kernel)
  refine (search_exact hresolved (fun _ _ _ => List.mem_reverse) 3).1 ?_ 5 (by rw [hsize]; decide)
  refine straight_of_rank (fun c => [0, 2, 1, 3].getD c 0) fun a b hab => .inr ?_
  obtain ⟨⟨m, hm, hb⟩, -⟩ := hab
  exact fields_members (P := fun a m => ∀ b ∈ memberClass? m, [0, 2, 1, 3].getD b 0 < [0, 2, 1, 3].getD a 0) hsize
    (by decide +kernel) a m hm b hb

/-- If runs have fields as children, a search from fields never comes back. -/
theorem exists_search_circling : (fieldsRegistry [.name "Field"]).Schema ∧ (fieldsRegistry [.name "Field"]).AllResolved ∧
    (fieldsRegistry [.name "Field"]).Next 1 2 ∧ (fieldsRegistry [.name "Field"]).Next 2 1 ∧
    ∃ e, (fieldsRegistry [.name "Field"]).reachable false 1 = .error e ∧ e.kind = .tooDeep := by
  let reg := fieldsRegistry [.name "Field"]
  have hresolved : reg.AllResolved := fields_members (by decide +kernel) (by decide +kernel)
  have hrun : reg.Next 1 2 := mem_nextClasses.mp (by decide +kernel)
  have hfield : reg.Next 2 1 := mem_nextClasses.mp (by decide +kernel)
  refine ⟨.ofDeclarations rfl (by decide +kernel), hresolved, hrun, hfield, ?_⟩
  have hdeep : Finds (· = .tooDeep) (fun _ => True) (reg.reachable false 1) :=
    hresolved.search_deep.map
  obtain ⟨e, he⟩ := error_of_not_gives (x := reg.reachable false 1) (by decide +kernel)
  rw [he] at hdeep
  exact ⟨e, he, hdeep⟩

end SurveyGraph.Registry
