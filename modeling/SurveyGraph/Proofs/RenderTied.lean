import Mathlib.Algebra.GroupWithZero.Nat
import Mathlib.Algebra.Order.BigOperators.Group.List
import Mathlib.Algebra.Order.Group.Nat
import SurveyGraph.Proofs.RenderAgain
/-!
# What tying a merge changes

The relations of a merge are looked for without its hash before they are tied, and with it afterwards. The name of the hash
has underscores, which neither joining nor setting in takes away. So the text of a merge with relations is never the same
before and after, and neither are the renderings.
-/
open List

namespace SurveyGraph.Text

/-! ## Underscores -/

def underscores (s : String) : Nat := s.toList.count '_'

@[simp] lemma underscores_append (s t : String) : underscores (s ++ t) = underscores s + underscores t := by
  simp [underscores]

lemma count_intercalate {sep : List Char} (h : '_' ∉ sep) : ∀ xs : List (List Char),
    (sep.intercalate xs).count '_' = (xs.map (List.count '_')).sum
  | [] => rfl
  | [x] => by simp [intercalate]
  | x :: y :: xs => by
    have ih := count_intercalate h (y :: xs)
    simp only [intercalate, intersperse_cons_cons, flatten_cons, count_append] at ih ⊢
    rw [ih, count_eq_zero.mpr h]
    simp

lemma underscores_join {sep : String} (h : '_' ∉ sep.toList) (xs : List String) :
    underscores (join sep xs) = (xs.map underscores).sum := by
  rw [underscores, join, String.toList_intercalate, count_intercalate h, map_map]
  rfl

lemma count_lines : ∀ cs : List Char, ((cs.splitOnP (· == '\n')).map (List.count '_')).sum = cs.count '_'
  | [] => rfl
  | c :: cs => by
    have ih := count_lines cs
    rw [splitOnP_cons_eq_if_modifyHead]
    split
    · rename_i hc
      have hne : ¬c = '_' := by
        rintro rfl
        cases hc
      simp [ih, hne]
    · cases hl : cs.splitOnP (· == '\n') with
      | nil => exact absurd hl (splitOnP_ne_nil _ _)
      | cons l ls =>
        rw [hl] at ih
        simp only [modifyHead_cons, map_cons, sum_cons, count_cons] at ih ⊢
        omega

lemma count_of_all_isIndent {cs : List Char} (h : ∀ c ∈ cs, isIndent c = true) : cs.count '_' = 0 :=
  count_eq_zero.mpr fun hm => absurd (h '_' hm) (by decide)

lemma count_blankLine (l : List Char) : (blankLine l).count '_' = l.count '_' := by
  unfold blankLine
  split
  · rename_i h
    rw [count_of_all_isIndent (all_eq_true.mp h)]
    rfl
  · rfl

lemma count_withoutStart {start : List Char} (h : ∀ c ∈ start, isIndent c = true) (l : List Char) :
    (withoutStart start l).count '_' = l.count '_' := by
  unfold withoutStart
  split
  · rename_i hp
    obtain ⟨rest, rfl⟩ := isPrefixOf_iff_prefix.mp hp
    rw [drop_left, count_append, count_of_all_isIndent h, Nat.zero_add]
  · rfl

lemma sharedStart_subset {x : Char} : ∀ {a b : List Char}, x ∈ sharedStart a b → x ∈ a
  | [], _, h => by simp [sharedStart] at h
  | _ :: _, [], h => by simp [sharedStart] at h
  | a :: as, b :: bs, h => by
    rw [sharedStart] at h
    split at h
    · rcases mem_cons.mp h with rfl | h
      · exact .head _
      · exact .tail _ (sharedStart_subset h)
    · cases h

lemma isIndent_of_mem_margin {lines : List (List Char)} : ∀ c ∈ margin lines, isIndent c = true := by
  have hfold (is : List (List Char)) : ∀ i : List Char, (∀ c ∈ i, isIndent c = true) →
      ∀ c ∈ is.foldl sharedStart i, isIndent c = true := by
    induction is with
    | nil => exact fun i hi => hi
    | cons j is ih => exact fun i hi => ih _ fun c hc => hi c (sharedStart_subset hc)
  unfold margin
  split
  · simp
  · rename_i i is h
    refine hfold is i fun c hc => ?_
    have hi : i ∈ (lines.filter (!·.isEmpty)).map (·.takeWhile isIndent) := h ▸ mem_cons_self
    obtain ⟨l, -, rfl⟩ := mem_map.mp hi
    exact all_eq_true.mp all_takeWhile c hc

lemma underscores_dedent (s : String) : underscores (dedent s) = underscores s := by
  unfold dedent
  rw [underscores_join (by decide), underscores, ← count_lines, map_map, map_map, map_map]
  refine congrArg List.sum (map_congr_left fun l _ => ?_)
  simp only [Function.comp_apply, underscores, String.toList_ofList]
  rw [count_withoutStart isIndent_of_mem_margin, count_blankLine]

lemma dedent_newline {s : String} {cs : List Char} (h : s.toList = '\n' :: cs) : ∃ ds, (dedent s).toList = '\n' :: ds := by
  unfold dedent
  rw [h, splitOnP_cons_eq_if_modifyHead, if_pos (by decide)]
  cases hl : cs.splitOnP (· == '\n') with
  | nil => exact absurd hl (splitOnP_ne_nil _ _)
  | cons l ls =>
    have hstart (m : List Char) : withoutStart m (blankLine []) = [] := by
      unfold withoutStart
      split <;> simp [blankLine]
    simp only [map_cons, hstart, join, String.toList_intercalate]
    exact ⟨_, by simp [intercalate]; rfl⟩

end SurveyGraph.Text

namespace SurveyGraph.Write

open Text

lemma withoutAliases_newline {s : String} {cs : List Char} (h : s.toList = '\n' :: cs) : withoutAliases s = s := by
  have hlower : Letter.lower (String.ofList (s.toList.take 4)) ≠ "with" := by
    rw [h, Letter.lower, take_succ_cons]
    intro hl
    have hl := congrArg (fun t => t.toList.head?) hl
    simp only [String.toList_ofList] at hl
    cases hl
  unfold withoutAliases
  simp [hlower]

/-! ## Merges with relations -/

lemma setNamed_of_forall_ne {α : Type} {name : String} {a : α} : ∀ {es : List (String × α)}, (∀ e ∈ es, e.1 ≠ name) →
    setNamed name a es = es ++ [(name, a)]
  | [], _ => rfl
  | (n, b) :: es, h => by
    have hn : (n == name) = false := by simpa using h (n, b) mem_cons_self
    rw [setNamed, hn, setNamed_of_forall_ne fun e he => h e (.tail _ he)]
    rfl

namespace Program

/-- A search with the hash has more underscores than without. -/
lemma underscores_withHash (p : Program) (hash : VarId) {es : List (String × VarId)} (h : ∀ e ∈ es, e.1 ≠ hashName) :
    underscores (p.entriesText es) < underscores (p.entriesText (withHash hash es)) := by
  have hname : 0 < underscores hashName := by decide
  rw [withHash, setNamed_of_forall_ne h]
  simp only [entriesText, braced, listed, underscores_append]
  rw [underscores_join (by decide), underscores_join (by decide)]
  simp only [map_append, map_cons, map_nil, sum_append, sum_cons, underscores_append]
  omega

variable {d : Dependence} {p : Program} {m : Merge} {text : String}

lemma underscores_soughtText (p : Program) (hne : d.relations ≠ []) (h : ∀ r ∈ d.relations, ∀ e ∈ r.ident, e.1 ≠ hashName) :
    underscores (p.soughtText { d with hashed := false }) < underscores (p.soughtText { d with hashed := true }) := by
  unfold soughtText
  rw [underscores_join (by decide), underscores_join (by decide), map_map, map_map]
  refine sum_lt_sum_of_ne_nil hne _ _ fun r hr => ?_
  have hhash := underscores_withHash p d.hash (h r hr)
  simp only [Function.comp_apply, relationText, underscores_append, Bool.false_eq_true, if_false, if_true]
  omega

lemma dependentMerge_eq (p : Program) (m : Merge) (h : d.relations.isEmpty = false) :
    ∃ lock node condition rest expansion, ∀ sought, p.dependentMerge m d sought =
      .ok (dedent (inLines [lock, node ++ sought ++ " " ++ condition, rest, expansion])) := by
  unfold dependentMerge
  rw [h]
  exact ⟨_, _, _, _, _, fun _ => rfl⟩

lemma underscores_inLines (ls : List String) : underscores (inLines ls) = (ls.map underscores).sum :=
  underscores_join (by decide) ls

lemma underscores_dependentMerge {sought sought' text' : String}
    (h : p.dependentMerge m d sought = .ok text) (h' : p.dependentMerge m d sought' = .ok text') :
    underscores text + underscores sought' = underscores text' + underscores sought := by
  cases hempty : d.relations.isEmpty with
  | true =>
    unfold dependentMerge at h
    rw [hempty] at h
    cases h
  | false =>
    obtain ⟨lock, node, condition, rest, expansion, heq⟩ := dependentMerge_eq p m hempty
    rw [heq] at h h'
    cases h
    obtain rfl := Except.ok.inj h'
    simp only [underscores_dedent, underscores_inLines, map_cons, map_nil, sum_cons, sum_nil,
      underscores_append]
    omega

lemma underscores_mergeText (p : Program) (m : Merge) (record given : String) :
    ∃ k, ∀ paragraph, underscores (p.mergeText m paragraph record given) = underscores paragraph + k := by
  unfold mergeText
  cases m.rule with
  | trackAndFlag => exact ⟨_, fun paragraph => by rw [underscores_dedent, underscores_append]⟩
  | overwrite | ignore => exact ⟨0, fun paragraph => underscores_dedent paragraph⟩

lemma underscores_mergeParagraph (before merge after : String) : underscores (mergeParagraph before merge after) =
    underscores before + underscores merge + underscores after := by
  have hgap : underscores "        " = 0 := by decide
  have hempty : underscores "" = 0 := by decide
  simp only [mergeParagraph, underscores_inLines, map_cons, map_nil, sum_cons, sum_nil,
    underscores_append, hgap, hempty]
  omega

/-- A merge reads differently once it is tied. -/
lemma underscores_mergeDependentText {text' : String} (h : ∀ r ∈ d.relations, ∀ e ∈ r.ident, e.1 ≠ hashName)
    (hd : d.hashed = false) (ht : p.mergeDependentText m d = .ok text)
    (ht' : p.mergeDependentText m { d with hashed := true } = .ok text') : underscores text < underscores text' := by
  obtain ⟨merge, hm, ht⟩ := bind_ok ht
  obtain ⟨after, ha, ht⟩ := bind_ok ht
  obtain ⟨merge', hm', ht'⟩ := bind_ok ht'
  obtain ⟨after', ha', ht'⟩ := bind_ok ht'
  obtain rfl : after = after' := Except.ok.inj (ha.symm.trans ha')
  cases ht
  obtain rfl := Except.ok.inj ht'
  have hmerge := underscores_dependentMerge hm hm'
  have hsought : underscores (p.soughtText d) < underscores (p.soughtText { d with hashed := true }) := by
    have hne : d.relations ≠ [] := by
      intro hnil
      unfold dependentMerge at hm
      rw [hnil] at hm
      cases hm
    have hlt := underscores_soughtText p hne h
    rwa [← hd] at hlt
  obtain ⟨k, hk⟩ := underscores_mergeText p m nodeRecord ("innode: " ++ p.varText m.out)
  rw [hk, hk, underscores_mergeParagraph, underscores_mergeParagraph]
  dsimp only
  omega

lemma mergeDependentText_newline (ht : p.mergeDependentText m d = .ok text) : ∃ cs, text.toList = '\n' :: cs := by
  obtain ⟨merge, -, ht⟩ := bind_ok ht
  obtain ⟨after, -, ht⟩ := bind_ok ht
  cases ht
  unfold mergeText
  cases m.rule <;> exact dedent_newline (by simp [mergeParagraph, inLines, join]; rfl)

end Program

/-! ## Renderings -/

variable {p : Program} {f : Naming} {g : Nat → Bool}

lemma texts_ok : ∀ {is : List Nat} {g : Nat → Bool} {texts : List String} {q : Program}, is.Nodup →
    after (is.mapM statementTextAt) (p.written f g) = (.ok texts, q) →
    Forall₂ (fun i t => p.textOf f i (g i) = .ok t) is texts ∧ q = p.written f (fun i => g i || is.contains i)
  | [], g, texts, q, _, h => by
    cases h
    simp
  | i :: is, g, texts, q, hnd, h => by
    obtain ⟨hi, hnd⟩ := nodup_cons.mp hnd
    rw [mapM_cons] at h
    obtain ⟨t, _, ht, h⟩ := after_bind_ok h
    obtain ⟨ts, _, hts, h⟩ := after_bind_ok h
    cases h
    rw [after_statementTextAt] at ht
    obtain ⟨ht, rfl⟩ := Prod.ext_iff.mp ht
    obtain ⟨hts, hq⟩ := texts_ok hnd hts
    have hother : ∀ j ∈ is, j ≠ i := by
      rintro j hj rfl
      exact hi hj
    refine ⟨.cons ht (((forall₂_and_left _ _).mpr ⟨hother, hts⟩).imp fun j t hjt => ?_),
      hq.trans (congrArg (p.written f) (funext fun j => ?_))⟩
    · have h := hjt.2
      rwa [Function.update_of_ne hjt.1] at h
    · by_cases hj : j = i <;> simp [hj]

lemma renderNamed_lines {tag : String} {batch : Value} {r : Rendered} {q : Program}
    (h : renderNamed tag true .none batch (p.written f g) = (.ok r, q)) : ∃ texts,
    Forall₂ (fun i t => p.textOf f i (g i) = .ok t) (range p.statements.size) texts ∧
    q = p.written f (fun i => g i || (range p.statements.size).contains i) ∧ r.lines = texts.map withoutAliases := by
  have hsize : (p.written f g).statements.size = p.statements.size := by simp [Program.written]
  have hrun : after statementTexts (p.written f g) =
      after ((range p.statements.size).mapM statementTextAt) (p.written f g) := by
    rw [← hsize]
    rfl
  unfold renderNamed at h
  cases ht : after statementTexts (p.written f g) with
  | mk x q' =>
    rw [ht] at h
    cases x with
    | error e => cases h
    | ok texts =>
      obtain ⟨hb, rfl⟩ := Prod.ext_iff.mp h
      obtain ⟨htexts, hq⟩ := texts_ok nodup_range (hrun.symm.trans ht)
      refine ⟨texts, htexts, hq, ?_⟩
      cases hb
      rfl

variable {i : Nat} {s : Statement}

lemma Program.returning_statement (h : p.statements[i]? = some s) : p.returning.statements[i]? = some s := by
  have hi : i < p.statements.size := (Array.getElem?_eq_some_iff.mp h).1
  unfold returning
  split
  · simp only [Array.getElem?_push_lt hi]
    rwa [Array.getElem?_eq_getElem hi] at h
  · exact h

lemma textOf_mergeDependent {m : Merge} {d : Dependence} (hs : p.statements[i]? = some s)
    (hform : s.form = .mergeDependent m d) : p.textOf f i false = (p.written f fun _ => false).words.mergeDependentText m d ∧
    p.textOf f i true = (p.written f fun _ => false).words.mergeDependentText m { d with hashed := true } := by
  obtain ⟨_, _, _, form⟩ := s
  obtain rfl := hform
  constructor
  all_goals
    unfold Program.textOf
    rw [hs]
    rfl

/-- Whether a merge is not tied yet, and its relations have no hash of their own. -/
def Statement.isUntied (s : Statement) : Bool :=
  match s.form with
  | .mergeDependent _ d => !d.hashed && d.relations.all (fun r => r.ident.all (fun e => e.1 != Program.hashName))
  | _ => false

lemma Statement.isUntied_iff : s.isUntied = true ↔ ∃ m d, s.form = .mergeDependent m d ∧
    d.hashed = false ∧ ∀ r ∈ d.relations, ∀ e ∈ r.ident, e.1 ≠ Program.hashName := by
  obtain ⟨_, _, _, form⟩ := s
  cases form with
  | mergeDependent m d => simp [isUntied]
  | _ => simp [isUntied]

/-- A merge that is not tied yet makes the second rendering differ. -/
lemma lines_ne_of_untied {p' : Program} {tag : String} {batch : Value} {r r' : Rendered}
    (h : after (render tag true .none batch) p = (.ok r, p')) (h' : (after (render tag true .none batch) p').1 = .ok r')
    (hs : p.statements[i]? = some s) (huntied : s.isUntied = true) : r.lines ≠ r'.lines := by
  obtain ⟨m, d, hform, hd, hrel⟩ := Statement.isUntied_iff.mp huntied
  obtain ⟨f, ⟨e, hone, -⟩ | ⟨hone, htwo⟩⟩ := render_named p tag true .none batch
  · rw [h] at hone
    cases hone
  obtain ⟨texts, htexts, rfl, hlines⟩ := renderNamed_lines (hone.symm.trans h)
  rw [htwo] at h'
  obtain ⟨texts', htexts', -, hlines'⟩ := renderNamed_lines (Prod.ext h' rfl)
  have hs := Program.returning_statement hs
  have hi : i < p.returning.statements.size := (Array.getElem?_eq_some_iff.mp hs).1
  obtain ⟨hfalse, htrue⟩ := textOf_mergeDependent hs hform
  have hlen : i < texts.length := by
    have := htexts.length_eq
    simp at this
    omega
  have hlen' : i < texts'.length := by
    have := htexts'.length_eq
    simp at this
    omega
  -- the texts of the merge in the two renderings
  have ht := htexts.get (by simpa using hi) hlen
  have ht' := htexts'.get (by simpa using hi) hlen'
  simp only [get_eq_getElem, getElem_range] at ht ht'
  rw [hfalse] at ht
  have hmem : (range p.returning.statements.size).contains i = true := by simpa using hi
  rw [hmem, Bool.false_or, htrue] at ht'
  intro hsame
  rw [hlines, hlines'] at hsame
  have hsame := congrArg (·[i]?) hsame
  simp only [getElem?_map, getElem?_eq_getElem hlen, getElem?_eq_getElem hlen', Option.map_some,
    Option.some.injEq] at hsame
  obtain ⟨cs, hcs⟩ := Program.mergeDependentText_newline ht
  obtain ⟨cs', hcs'⟩ := Program.mergeDependentText_newline ht'
  rw [withoutAliases_newline hcs, withoutAliases_newline hcs'] at hsame
  have hlt := Program.underscores_mergeDependentText hrel hd ht ht'
  rw [hsame] at hlt
  exact absurd hlt (Nat.lt_irrefl _)

/-- The first rendering can differ from the second: a node is looked for by its relations without the hash
that ties them, and then with it. -/
theorem exists_render_differs : ∃ (p : Program) (r r' : Rendered), (after (render "" true .none .none) p).1 = .ok r ∧
    (after (render "" true .none .none) (after (render "" true .none .none) p).2).1 = .ok r' ∧ r.lines ≠ r'.lines := by
  have huntied : relatedProgram.statements[2]?.any Statement.isUntied = true := by decide +kernel
  obtain ⟨s, hs, huntied⟩ := (Option.any_eq_true _ _).mp huntied
  have hfirst : gives (after (render "" true .none .none) relatedProgram).1 (fun _ => true) = true := by decide +kernel
  have hsecond : gives (after (render "" true .none .none) (after (render "" true .none .none) relatedProgram).2).1
      (fun _ => true) = true := by
    decide +kernel
  obtain ⟨r, hr, -⟩ := ok_of_gives hfirst
  obtain ⟨r', hr', -⟩ := ok_of_gives hsecond
  exact ⟨relatedProgram, r, r', hr, hr', lines_ne_of_untied (Prod.ext hr rfl) hr' hs huntied⟩

end SurveyGraph.Write
