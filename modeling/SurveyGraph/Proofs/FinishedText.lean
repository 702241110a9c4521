import SurveyGraph.Proofs.NamedLists
import SurveyGraph.Write.Render
/-!
# Data in texts that are finished

A text is finished by putting a tag after the names of procedures and taking marks and indentation out. If the text has no
marks and the tag is a word, data that the lines mention is mentioned in the text (`infix_of_finished`).
-/
open List

namespace SurveyGraph

namespace Text

variable {cs ds : List Char}

lemma occursIn_iff : occursIn cs ds = true ↔ cs <:+: ds := by
  induction ds with
  | nil => simp [occursIn]
  | cons d ds ih => rw [occursIn, Bool.or_eq_true, isPrefixOf_iff_prefix, ih, infix_cons_iff]

/-- What stands in texts that are put together in lines, and in no two lines, stands in one of them. -/
lemma exists_infix_of_intercalate (hcs : cs ≠ []) (hline : '\n' ∉ cs) {ls : List (List Char)}
    (h : cs <:+: ['\n'].intercalate ls) : ∃ l ∈ ls, cs <:+: l := by
  induction ls with
  | nil => exact absurd (infix_nil.mp h) hcs
  | cons l ls ih =>
    cases ls with
    | nil => exact ⟨l, mem_singleton_self l, by simpa using h⟩
    | cons l' ls =>
      rw [intercalate_cons_cons, append_assoc, singleton_append, infix_append_iff_ne_nil, infix_cons_iff] at h
      have hhead {ds es : List Char} (hds : ds ≠ []) (h : ds <+: '\n' :: es) : '\n' ∈ ds := by
        cases ds with
        | nil => exact absurd rfl hds
        | cons d ds => simp [(cons_prefix_cons.mp h).1]
      rcases h with h | (h | h) | ⟨a, b, -, hb, rfl, -, h⟩
      · exact ⟨l, mem_cons_self, h⟩
      · exact absurd (hhead hcs h) hline
      · obtain ⟨k, hk, h⟩ := ih h
        exact ⟨k, mem_cons_of_mem _ hk, h⟩
      · exact absurd (mem_append_right a (hhead hb h)) hline

lemma infix_intercalate {ls : List (List Char)} (h : cs ∈ ls) : cs <:+: ds.intercalate ls := by
  induction ls with
  | nil => cases h
  | cons l ls ih =>
    cases ls with
    | nil => simp_all
    | cons l' ls =>
      rw [intercalate_cons_cons]
      rcases mem_cons.mp h with rfl | h
      · exact infix_append_of_infix_left infix_append_left
      · exact infix_append_of_infix_right (ih h)

/-- A line of a text is part of it, and it is one line. -/
lemma infix_of_mem_splitOn (h : cs ∈ splitOn '\n' ds) : cs <:+: ds ∧ '\n' ∉ cs := by
  refine ⟨(intercalate_splitOn '\n' : _ = ds) ▸ infix_intercalate h, ?_⟩
  induction ds generalizing cs with
  | nil => simp_all
  | cons d ds ih =>
    rw [splitOn_cons_eq_if_modifyHead] at h
    split at h <;> rename_i hd
    · rcases mem_cons.mp h with rfl | h
      exacts [not_mem_nil, ih h]
    · cases hs : splitOn '\n' ds with
      | nil => simp_all
      | cons k ks =>
        rw [hs, modifyHead_cons, mem_cons] at h
        rw [hs] at ih
        rcases h with rfl | h
        · rw [mem_cons, not_or]
          exact ⟨fun e => hd (beq_iff_eq.mpr e.symm), ih mem_cons_self⟩
        · exact ih (mem_cons_of_mem k h)

lemma blankLine_suffix (cs : List Char) : blankLine cs <:+ cs := by
  unfold blankLine
  split
  exacts [nil_suffix, suffix_rfl]

lemma withoutStart_suffix (cs ds : List Char) : withoutStart cs ds <:+ ds := by
  unfold withoutStart
  split
  exacts [drop_suffix _ _, suffix_rfl]

/-- So it is if indentation is taken away. -/
lemma infix_of_dedent {s l : String} (h : l ∈ cutAt '\n' (dedent s)) : l.toList <:+: s.toList ∧ '\n' ∉ l.toList := by
  obtain ⟨cs, hcs, rfl⟩ := mem_map.mp h
  rw [String.toList_ofList]
  rw [dedent, join, String.toList_intercalate] at hcs
  obtain ⟨hcs, hline⟩ := infix_of_mem_splitOn hcs
  refine ⟨?_, hline⟩
  rcases eq_or_ne cs [] with rfl | hne
  · exact nil_infix
  obtain ⟨k', hk', hcs⟩ := exists_infix_of_intercalate hne hline hcs
  simp only [map_map, mem_map, Function.comp_apply, String.toList_ofList] at hk'
  obtain ⟨k, hk, rfl⟩ := hk'
  have hline := hcs.trans (withoutStart_suffix _ _).isInfix
  exact (hline.trans (blankLine_suffix k).isInfix).trans (infix_of_mem_splitOn hk).1

end Text

namespace Write

open Text.Glyph

variable {tag cs ds : List Char}

lemma notMem_of_isWord {c : Char} (h : ∀ c ∈ cs, isWord c = true) (hc : isWord c = false) : c ∉ cs :=
  fun hmem => Bool.false_ne_true (hc.symm.trans (h c hmem))

lemma customCall?_eq_some {n : Nat} (h : customCall? cs = some n) : cs.take n ++ '(' :: cs.drop (n + 1) = cs ∧
    ∃ name, cs.take n = "custom.".toList ++ name ∧ ∀ c ∈ name, isWord c = true := by
  unfold customCall? at h
  split at h <;> [rename_i hstart; cases h]
  obtain ⟨rest, rfl⟩ := isPrefixOf_iff_prefix.mp hstart
  simp only [show drop 7 ("custom.".toList ++ rest) = rest from rfl] at h
  split at h <;> [rename_i hname; cases h]
  have hn := Option.some.inj h
  simp only [hn, Bool.and_eq_true, beq_iff_eq, head?_eq_some_iff] at hname
  obtain ⟨-, after, hafter⟩ := hname
  refine ⟨?_, rest.takeWhile isWord, ?_, fun c hc => mem_takeWhile_imp hc⟩
  · rw [← tail_drop, hafter, tail_cons, ← hafter, take_append_drop]
  · calc
      take n ("custom.".toList ++ rest) = "custom.".toList ++ rest.take (rest.takeWhile isWord).length :=
        hn ▸ (take_length_add_append _ : take ("custom.".toList.length + _) _ = _)
      _ = _ := by rw [← prefix_iff_eq_take.mp ( takeWhile_prefix _)]

lemma tagCalls_skip (n : Nat) (cs : List Char) : tagCalls tag n cs = tagCalls tag 0 (cs.drop n) := by
  induction cs generalizing n with
  | nil => cases n <;> rfl
  | cons c cs ih => cases n with
    | zero => rfl
    | succ n => exact ih n

/-- A text ends, or goes on with a character that stays, or a procedure is called. No data and no mark is in the name of a
procedure. -/
lemma tagCalls_induction {motive : List Char → Prop} (done : motive [])
    (char : ∀ c rest, (∀ tag, tagCalls tag 0 (c :: rest) = c :: tagCalls tag 0 rest) → motive rest → motive (c :: rest))
    (call : ∀ name rest, "custom.".toList <+: name → '$' ∉ name → '-' ∉ name →
      (∀ tag, tagCalls tag 0 (name ++ '(' :: rest) = name ++ (tag ++ '(' :: tagCalls tag 0 rest)) → motive rest →
      motive (name ++ '(' :: rest)) : ∀ cs, motive cs
  | [] => done
  | c :: rest => by
    cases hcall : customCall? (c :: rest) with
    | none => exact char c rest (fun tag => by simp only [tagCalls, hcall]) (tagCalls_induction done char call rest)
    | some n =>
      have heq (tag : List Char) : tagCalls tag 0 (c :: rest) =
          (c :: rest).take n ++ (tag ++ '(' :: tagCalls tag 0 ((c :: rest).drop (n + 1))) := by
        simp [tagCalls, hcall, tagCalls_skip n rest]
      obtain ⟨hrest, name, hname, hword⟩ := customCall?_eq_some hcall
      rw [hname] at heq hrest
      have hsign {s : Char} (hs : s ∉ "custom.".toList) (hs' : isWord s = false) : s ∉ "custom.".toList ++ name :=
        fun h => (mem_append.mp h).elim hs (notMem_of_isWord hword hs')
      rw [← hrest]
      exact call _ _ (prefix_append _ _) (hsign (by decide) (by decide +kernel)) (hsign (by decide) (by decide +kernel))
        (fun tag => hrest.symm ▸ heq tag) (tagCalls_induction done char call ((c :: rest).drop (n + 1)))
  termination_by cs => cs.length

/-- What a tagged text starts with, the text starts with, up to the first procedure. -/
lemma prefix_of_tagCalls (hds : ¬ "custom.".toList <:+: ds) (h : ds <+: tagCalls tag 0 cs) : ds <+: cs := by
  induction cs using tagCalls_induction generalizing ds with
  | done => exact h
  | char c rest heq ih =>
    rw [heq] at h
    cases ds with
    | nil => exact nil_prefix
    | cons d ds =>
      obtain ⟨rfl, hrest⟩ := cons_prefix_cons.mp h
      exact cons_prefix_cons.mpr ⟨rfl, ih (fun h => hds (infix_cons h)) hrest⟩
  | call name rest hname _ _ heq _ =>
    rw [heq] at h
    rcases prefix_or_prefix_of_prefix h (prefix_append name _) with h | h
    · exact h.trans (prefix_append _ _)
    · exact absurd (hname.trans h).isInfix hds

lemma infix_of_append {c : Char} {xs ys : List Char} (hxs : c ∉ xs) (h : c :: ds <:+: xs ++ ys) : c :: ds <:+: ys := by
  rcases infix_append_iff_ne_nil.mp h with h | h | ⟨a, b, ha, -, hab, h, -⟩
  · exact absurd (h.subset mem_cons_self) hxs
  · exact h
  · obtain ⟨c, a, rfl⟩ := exists_cons_of_ne_nil ha
    rw [cons_append, cons.injEq] at hab
    exact absurd (h.subset (hab.1 ▸ mem_cons_self)) hxs

/-- Data in a tagged text is in the text. -/
lemma infix_of_tagCalls (htag : '$' ∉ tag) (hds : ¬ "custom.".toList <:+: '$' :: ds) (h : '$' :: ds <:+: tagCalls tag 0 cs) :
    '$' :: ds <:+: cs := by
  induction cs using tagCalls_induction with
  | done => exact h
  | char c rest heq ih =>
    rw [heq, infix_cons_iff, ← heq tag] at h
    rcases h with h | h
    · exact (prefix_of_tagCalls hds h).isInfix
    · exact infix_cons (ih h)
  | call name rest _ hdata _ heq ih =>
    rw [heq, ← singleton_append (l := tagCalls tag 0 rest)] at h
    have hrest := infix_of_append (by decide) (infix_of_append htag (infix_of_append hdata h))
    exact infix_append_of_infix_right (infix_cons (ih hrest))

lemma cutList_append {xs : List Char} (hxs : '-' ∉ xs) (ys piece : List Char) :
    Text.cutList tagMark.toList 0 piece (xs ++ ys) = Text.cutList tagMark.toList 0 (xs.reverse ++ piece) ys := by
  induction xs generalizing piece with
  | nil => rfl
  | cons x xs ih =>
    rw [mem_cons, not_or] at hxs
    have hx : tagMark.toList.isPrefixOf (x :: (xs ++ ys)) = false := by
      rw [← Bool.not_eq_true, isPrefixOf_iff_prefix]
      exact fun h => hxs.1 (cons_prefix_cons.mp h).1
    simp [Text.cutList, hx, ih hxs.2]

/-- Only the marks before tags are taken out of a tagged text if the text itself has no marks. -/
lemma flatten_cutList_tagCalls (htag : '-' ∉ tag) (hcs : ¬ tagMark.toList <:+: cs) (piece : List Char) :
    (Text.cutList tagMark.toList 0 piece (tagCalls (tagMark.toList ++ tag) 0 cs)).flatten = piece.reverse ++ tagCalls tag 0 cs := by
  induction cs using tagCalls_induction generalizing piece with
  | done => simp [Text.cutList, tagCalls]
  | char c rest heq ih =>
    have hc : tagMark.toList.isPrefixOf (c :: tagCalls (tagMark.toList ++ tag) 0 rest) = false := by
      rw [← heq, ← Bool.not_eq_true, isPrefixOf_iff_prefix]
      exact fun h => hcs (prefix_of_tagCalls (by decide) h).isInfix
    simp [heq, Text.cutList, hc, ih fun h => hcs (infix_cons h)]
  | call name rest _ _ hname heq ih =>
    have hrest : ¬ tagMark.toList <:+: rest := fun h => hcs (infix_append_of_infix_right (infix_cons h))
    rw [heq, heq, cutList_append hname, append_assoc]
    have hmark (ys piece : List Char) :
        Text.cutList tagMark.toList 0 piece (tagMark.toList ++ ys) = piece.reverse :: Text.cutList tagMark.toList 0 [] ys := rfl
    rw [hmark, cutList_append htag, ← singleton_append (l := tagCalls (_ ++ _) 0 rest), cutList_append (by decide),
      flatten_cons, ih hrest]
    simp

/-- Data in a line of a finished text is in one of the texts that were put together. -/
lemma infix_of_finished {tag l : String} {texts : List String} (htag : ∀ c ∈ tag.toList, isWord c = true)
    (hmark : ¬ tagMark.toList <:+: (inLines texts).toList) (hds : ¬ "custom.".toList <:+: '$' :: ds)
    (hl : l ∈ Text.cutAt '\n' (finished tag (inLines texts))) (h : '$' :: ds <:+: l.toList) :
    ∃ t ∈ texts, '$' :: ds <:+: t.toList := by
  obtain ⟨hl, hline⟩ := Text.infix_of_dedent hl
  have hjoin (s : String) (hs : ¬ tagMark.toList <:+: s.toList) : (Text.replaceAll (String.ofList
      (tagCalls (tagMark ++ tag).toList 0 s.toList)) tagMark "").toList = tagCalls tag.toList 0 s.toList := by
    have hflat (ls : List (List Char)) : [].intercalate ls = ls.flatten := by
      induction ls with
      | nil => rfl
      | cons l ls ih => cases ls <;> simp_all
    rw [Text.replaceAll, if_neg (by decide), Text.cutOn, Text.join, String.toList_intercalate, String.toList_append,
      String.toList_ofList]
    simpa [hflat] using flatten_cutList_tagCalls (notMem_of_isWord htag (by decide +kernel)) hs []
  rw [hjoin _ hmark] at hl
  have hdata := infix_of_tagCalls (notMem_of_isWord htag (by decide +kernel)) hds (h.trans hl)
  rw [inLines, Text.join, String.toList_intercalate] at hdata
  obtain ⟨t, ht, hdata⟩ := Text.exists_infix_of_intercalate (cons_ne_nil _ _) (fun hmem => hline (h.subset hmem)) hdata
  obtain ⟨s, hs, rfl⟩ := mem_map.mp ht
  exact ⟨s, hs, hdata⟩

end Write
end SurveyGraph
