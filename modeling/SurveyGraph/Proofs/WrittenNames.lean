import SurveyGraph.Proofs.FinishedText
import SurveyGraph.Proofs.Legible
/-!
# Names in a program that is written down

A name is a hint in small letters with a number. Data and the variables that statements mention share the counts
(`Numbered`), so two with one hint have different numbers, and if no hint ends in a digit the hint can be told from the
number. Then all names are different, and data is found under its name (`render_names_apart`). Marks are taken out of the
text alone, so data with a mark in its name is not found (`exists_data_not_found`).
-/
open List

namespace SurveyGraph.Write
open Function

variable {p q : Program} {v w : VarId} {f f' : Naming} {g : Nat → Bool} {counts counts' : NameCounts}
  {S : VarId → Prop}

/-! ## Hints with numbers -/

def Program.smallHint (p : Program) (v : VarId) : String :=
  match (p.get v).hint with
  | .text hint => Text.Letter.lower hint
  | _ => ""

lemma Program.smallHint_eq {hint : String} (h : (p.get v).hint = .text hint) : p.smallHint v = Text.Letter.lower hint := by
  rw [Program.smallHint, h]

def given (counts : NameCounts) (hint : String) : Nat := (counts.lookup hint).getD 0

lemma nextName_name (counts : NameCounts) (hint : String) :
    (nextName counts hint).1 = hint ++ toString (given counts hint) := rfl

lemma given_nextName (counts : NameCounts) (hint other : String) :
    given (nextName counts hint).2 other = if other = hint then given counts hint + 1 else given counts other := by
  rw [given, nextName, lookup_setNamed]
  split <;> rfl

/-- The names of some variables of the program are their hints with given numbers, no number twice after one
hint. -/
def Numbered (p : Program) (S : VarId → Prop) (counts : NameCounts) (f : VarId → Option String) : Prop :=
  ∃ num : VarId → Nat,
    (∀ v, S v → ∀ name, f v = some name → name = p.smallHint v ++ toString (num v) ∧ num v < given counts (p.smallHint v) ∧
      v < p.vars.size) ∧
    ∀ v w, S v → S w → (f v).isSome → (f w).isSome → p.smallHint v = p.smallHint w → num v = num w → v = w

lemma numbered_start (h : ∀ v, S v → f v = none) : Numbered p S counts f := by
  refine ⟨fun _ => 0, fun v hv name hname => ?_, fun v w hv _ hsome => ?_⟩
  · rw [h v hv] at hname
    cases hname
  · rw [h v hv] at hsome
    cases hsome

lemma Numbered.name (h : Numbered p S counts f) {hint : String} (hhint : (p.get v).hint = .text hint) :
    Numbered p S (nextName counts (Text.Letter.lower hint)).2
      (update f v (some (nextName counts (Text.Letter.lower hint)).1)) := by
  obtain ⟨num, hname, hapart⟩ := h
  rw [← Program.smallHint_eq hhint]
  refine ⟨update num v (given counts (p.smallHint v)), fun u hu name hu' => ?_, fun u w hu hw hsu hsw hlow hnum => ?_⟩
  · rw [given_nextName]
    by_cases huv : u = v
    · subst huv
      rw [update_self] at hu' ⊢
      cases hu'
      rw [if_pos rfl]
      exact ⟨nextName_name _ _, Nat.lt_succ_self _, Program.lt_of_hint hhint⟩
    · rw [update_of_ne huv] at hu' ⊢
      obtain ⟨rfl, hlt, hsize⟩ := hname u hu name hu'
      refine ⟨rfl, ?_, hsize⟩
      split
      · rename_i hsame
        exact Nat.lt_succ_of_lt (hsame ▸ hlt)
      · exact hlt
  · -- A variable named before has a smaller number than the one that is named now.
    have hsmaller : ∀ {x}, S x → x ≠ v → (update f v (some (nextName counts (p.smallHint v)).1) x).isSome →
        p.smallHint x = p.smallHint v → num x < given counts (p.smallHint v) := by
      intro x hx hxv hsome hlow
      rw [update_of_ne hxv] at hsome
      obtain ⟨name, hsome⟩ := Option.isSome_iff_exists.mp hsome
      exact hlow ▸ (hname x hx name hsome).2.1
    by_cases huv : u = v
    · by_cases hwv : w = v
      · exact huv.trans hwv.symm
      · have hlt := hsmaller hw hwv hsw (huv ▸ hlow.symm)
        rw [huv, update_self, update_of_ne hwv] at hnum
        exact absurd hnum (Nat.ne_of_gt hlt)
    · by_cases hwv : w = v
      · have hlt := hsmaller hu huv hsu (hwv ▸ hlow)
        rw [hwv, update_self, update_of_ne huv] at hnum
        exact absurd hnum (Nat.ne_of_lt hlt)
      · rw [update_of_ne huv] at hsu hnum
        rw [update_of_ne hwv] at hsw hnum
        exact hapart u w hu hw hsu hsw hlow hnum

/-- Hints that end in no digit can be told from numbers, so that different variables have different names. -/
lemma Numbered.eq (h : Numbered p S counts f)
    (hhints : ∀ v, S v → ∀ c, (p.smallHint v).toList.getLast? = some c → c.isDigit = false) (hv : S v) (hw : S w) {name : String}
    (hvname : f v = some name) (hwname : f w = some name) : v = w := by
  obtain ⟨num, hname, hapart⟩ := h
  have heq : p.smallHint v ++ toString (num v) = p.smallHint w ++ toString (num w) :=
    (hname v hv name hvname).1.symm.trans (hname w hw name hwname).1
  obtain ⟨hlow, hnum⟩ := append_toString_inj (hhints v hv) (hhints w hw) heq
  exact hapart v w hv hw (by simp [hvname]) (by simp [hwname]) hlow hnum

lemma Numbered.lt (h : Numbered p S counts f) (hv : S v) {name : String} (hname : f v = some name) : v < p.vars.size := by
  obtain ⟨num, hall, -⟩ := h
  exact (hall v hv name hname).2.2

/-! ## Naming all variables -/

/-- Naming goes from some names to others: what has a name keeps one, and names stay numbered. -/
def Advances (p : Program) (S : VarId → Prop) (counts : NameCounts) (f : VarId → Option String) (counts' : NameCounts)
    (f' : VarId → Option String) : Prop :=
  (∀ v, (f v).isSome → (f' v).isSome) ∧ (Numbered p S counts f → Numbered p S counts' f')

lemma Advances.refl : Advances p S counts f counts f := ⟨fun _ h => h, id⟩

lemma Advances.trans {counts'' : NameCounts} {f'' : Naming} (h : Advances p S counts f counts' f')
    (h' : Advances p S counts' f' counts'' f'') : Advances p S counts f counts'' f'' :=
  ⟨fun v hv => h'.1 v (h.1 v hv), fun hn => h'.2 (h.2 hn)⟩

lemma advances_name {hint : String} (hhint : (p.get v).hint = .text hint) (counts : NameCounts) (f : Naming) :
    Advances p S counts f (nextName counts (Text.Letter.lower hint)).2
      (update f v (some (nextName counts (Text.Letter.lower hint)).1)) := by
  refine ⟨fun u hu => ?_, fun h => h.name hhint⟩
  by_cases huv : u = v <;> simp [huv, hu]

lemma nameData_advances (S : VarId → Prop) : ∀ {vs : List VarId} {counts : NameCounts} {f : Naming},
    after (vs.foldlM nameVariable counts) (p.written f g) = (.ok counts', q) →
    ∃ f', q = p.written f' g ∧ Advances p S counts f counts' f' ∧ ∀ v ∈ vs, (f' v).isSome
  | [], counts, f, h => by
    cases h
    exact ⟨f, rfl, .refl, by simp⟩
  | v :: vs, counts, f, h => by
    rw [foldlM_cons, after_bind] at h
    by_cases hhint : ∃ hint, (p.get v).hint = .text hint
    · obtain ⟨hint, hhint⟩ := hhint
      rw [after_nameVariable hhint] at h
      obtain ⟨f', rfl, hrest, hall⟩ := nameData_advances S h
      refine ⟨f', rfl, (advances_name hhint counts f).trans hrest, fun u hu => ?_⟩
      rcases mem_cons.mp hu with rfl | hu
      · exact hrest.1 u (by simp)
      · exact hall u hu
    · rw [after_nameVariable_error (not_exists.mp hhint)] at h
      cases h

lemma nameThings_advances (S : VarId → Prop) : ∀ {ts : List Thing} {counts : NameCounts} {f : Naming},
    after (ts.foldlM nameThing counts) (p.written f g) = (.ok counts', q) →
    ∃ f', q = p.written f' g ∧ Advances p S counts f counts' f' ∧
      ∀ v, .var v ∈ ts → (p.get v).kind.parent? = none → (f' v).isSome
  | [], counts, f, h => by
    cases h
    exact ⟨f, rfl, .refl, by simp⟩
  | t :: ts, counts, f, h => by
    rw [foldlM_cons, after_bind] at h
    rcases nameThing_cases p f t with ht | ⟨v, hint, rfl, hv, hhint, ht⟩ | ht
    · rw [ht.after_nameThing] at h
      obtain ⟨f', rfl, hrest, hall⟩ := nameThings_advances S h
      refine ⟨f', rfl, hrest, fun u hu hparent => ?_⟩
      rcases mem_cons.mp hu with rfl | hu
      · rcases ht with hderived | ⟨_, hsome⟩
        · rw [hparent] at hderived
          cases hderived
        · exact hrest.1 u hsome
      · exact hall u hu hparent
    · rw [ht, after_nameVariable hhint] at h
      obtain ⟨f', rfl, hrest, hall⟩ := nameThings_advances S h
      refine ⟨f', rfl, (advances_name hhint counts f).trans hrest, fun u hu hparent => ?_⟩
      rcases mem_cons.mp hu with heq | hu
      · cases heq
        exact hrest.1 v (by simp)
      · exact hall u hu hparent
    · rw [ht] at h
      cases h

/-- What gets a name in writing down: data, and underived variables in statements. -/
def Program.Uses (p : Program) (v : VarId) : Prop :=
  v ∈ p.data ∨ (p.get v).kind.parent? = none ∧ ∃ s ∈ p.statements, .var v ∈ s.mentioned

lemma Program.uses_iff : p.Uses v ↔ v ∈ p.data.toList ∨
    (p.get v).kind.parent? = none ∧ .var v ∈ p.statements.toList.flatMap Statement.mentioned := by
  simp [Uses, mem_flatMap]

@[simp] lemma Program.uses_written : (p.written f g).Uses v ↔ p.Uses v := by
  rw [uses_iff, uses_iff, written_kind, written_mentioned, written_data]

lemma nameVariables_numbered (h : after nameVariables (p.written f g) = (.ok (), q)) (hfresh : ∀ v, p.Uses v → f v = none) :
    ∃ counts f', q = p.written f' g ∧ Numbered p p.Uses counts f' ∧ ∀ v, p.Uses v → (f' v).isSome := by
  unfold nameVariables at h
  rw [after_get_bind] at h
  obtain ⟨counts, o, hdata, h⟩ := after_bind_ok h
  obtain ⟨f₁, rfl, hdata, hnamed⟩ := nameData_advances p.Uses hdata
  obtain ⟨counts', o, hthings, h⟩ := after_bind_ok h
  rw [Program.written_mentioned] at hthings
  obtain ⟨f₂, rfl, hthings, hmentioned⟩ := nameThings_advances p.Uses hthings
  cases h
  refine ⟨counts', f₂, rfl, (hdata.trans hthings).2 (numbered_start hfresh), fun v hv => ?_⟩
  rcases Program.uses_iff.mp hv with hv | ⟨hparent, hv⟩
  · exact hthings.1 v (hnamed v hv)
  · exact hmentioned v hv hparent

/-! ## Data by name -/

/-- The entry sent for data that texts mention. -/
def Program.sent? (p : Program) (texts : List String) (v : VarId) : Option (String × Thing) :=
  match (p.get v).kind with
  | .data value =>
    let name := (p.get v).name.getD ""
    if (texts.map String.toList).any (Text.occursIn name.toList) then some (name, value) else none
  | _ => none

lemma Program.dataIn_eq (p : Program) (texts : List String) : p.dataIn texts =
    (p.data.toList.filterMap (p.sent? texts)).foldl (fun acc e => setNamed e.1 e.2 acc) [] := by
  rw [foldl_filterMap]
  refine congrArg (List.foldl · [] _) (funext fun acc => funext fun v => ?_)
  unfold sent?
  dsimp only
  cases (p.get v).kind with
  | data value =>
    dsimp only
    split <;> rfl
  | _ => rfl

lemma Program.sent?_eq_some {texts : List String} {name : String} {value : Thing} (hnamed : (p.get v).name.isSome) :
    p.sent? texts v = some (name, value) ↔ (p.get v).name = some name ∧ (p.get v).kind = .data value ∧
      ∃ t ∈ texts, Text.occursIn name.toList t.toList = true := by
  obtain ⟨n, hn⟩ := Option.isSome_iff_exists.mp hnamed
  unfold sent?
  rw [hn]
  cases hkind : (p.get v).kind with
  | data x =>
    simp only [Option.getD_some, any_map, any_eq_true, comp_apply, Option.ite_none_right_eq_some,
      Option.some.injEq, Prod.mk.injEq, VarKind.data.injEq]
    constructor
    · rintro ⟨hoccurs, rfl, rfl⟩
      exact ⟨rfl, rfl, hoccurs⟩
    · rintro ⟨rfl, rfl, hoccurs⟩
      exact ⟨hoccurs, rfl, rfl⟩
  | _ => simp

/-- Where all data has different names, exactly what is mentioned is sent, under its name. -/
lemma Program.lookup_dataIn {texts : List String} {name : String} {value : Thing}
    (hnamed : ∀ v ∈ p.data, (p.get v).name.isSome)
    (hapart : ∀ v ∈ p.data, ∀ w ∈ p.data, ∀ name, (p.get v).name = some name → (p.get w).name = some name → v = w) :
    (p.dataIn texts).lookup name = some value ↔ ∃ v ∈ p.data, (p.get v).name = some name ∧ (p.get v).kind = .data value ∧
      ∃ t ∈ texts, Text.occursIn name.toList t.toList = true := by
  have hmem : ∀ {e}, e ∈ p.data.toList.filterMap (p.sent? texts) ↔ ∃ v ∈ p.data, p.sent? texts v = some e := by
    simp
  rw [Program.dataIn_eq]
  constructor
  · intro h
    rcases lookup_foldl_setNamed h with ⟨e, he, rfl, rfl⟩ | h
    · obtain ⟨v, hv, hsent⟩ := hmem.mp he
      exact ⟨v, hv, (sent?_eq_some (hnamed v hv)).mp hsent⟩
    · cases h
  · rintro ⟨v, hv, hsent⟩
    have he := hmem.mpr ⟨v, hv, (sent?_eq_some (hnamed v hv)).mpr hsent⟩
    refine lookup_foldl_of_injOn (f := Prod.fst) (fun d hd e he heq => ?_) he
    obtain ⟨u, hu, hd⟩ := hmem.mp hd
    obtain ⟨w, hw, he⟩ := hmem.mp he
    obtain ⟨huname, hukind, -⟩ := (sent?_eq_some (hnamed u hu)).mp hd
    obtain ⟨hwname, hwkind, -⟩ := (sent?_eq_some (hnamed w hw)).mp he
    obtain rfl := hapart u hu w hw _ huname (heq ▸ hwname)
    exact VarKind.data.inj (hukind.symm.trans hwkind)

/-! ## Renderings -/

section Renderings

variable {tag : String} {asLines : Bool} {batchSize batch : Value} {r : Rendered}

lemma Program.get_returning (p : Program) (v : VarId) : p.returning.get v = p.get v := by
  unfold returning
  split <;> rfl

lemma Program.data_returning (p : Program) : p.returning.data = p.data := by
  unfold returning
  split <;> rfl

lemma Program.Uses.returning (h : p.Uses v) : p.returning.Uses v := by
  rw [Uses, get_returning, data_returning]
  refine h.imp_right ?_
  rintro ⟨hparent, s, hs, hv⟩
  refine ⟨hparent, s, ?_, hv⟩
  unfold Program.returning
  split
  · exact Array.mem_push_of_mem _ hs
  · exact hs

lemma Program.uses_or_time (h : p.returning.Uses v) : p.Uses v ∨ v = Program.time := by
  unfold returning at h
  split at h
  · rcases h with hdata | ⟨hparent, s, hs, hv⟩
    · exact .inl (.inl hdata)
    · rcases Array.mem_push.mp hs with hs | rfl
      · exact .inl (.inr ⟨hparent, s, hs, hv⟩)
      · exact .inr (by simpa [Statement.mentioned, Statement.returns] using hv)
  · exact .inl h

/-- Writing down names a program first, then puts its statements into words, and bundles them. -/
lemma render_ok (h : after (render tag asLines batchSize batch) p = (.ok r, q)) : ∃ o texts,
    after nameVariables p.returning = (.ok (), o) ∧ after statementTexts o = (.ok texts, q) ∧
    ∀ asLines', after (render tag asLines' batchSize batch) p = (q.bundle tag asLines' batchSize batch texts, q) := by
  rw [after_render] at h
  cases hnames : after nameVariables p.returning with
  | mk x o =>
    rw [hnames] at h
    cases x with
    | error e => cases h
    | ok x =>
      dsimp only [renderNamed] at h
      cases htexts : after statementTexts o with
      | mk y o' =>
        rw [htexts] at h
        cases y with
        | error e => cases h
        | ok texts =>
          obtain ⟨-, rfl⟩ := Prod.mk.inj h
          refine ⟨o, texts, rfl, htexts, fun asLines' => ?_⟩
          rw [after_render, hnames]
          dsimp only [renderNamed]
          rw [htexts]

lemma Program.bundle_ok {texts : List String} (h : p.bundle tag asLines batchSize batch texts = .ok r) : ∃ kept,
    p.bundle tag true batchSize batch texts = .ok { lines := kept, params := r.params } ∧ r.params = p.dataIn kept ∧
    r.lines = if asLines then kept else Text.cutAt '\n' (finished tag (inLines kept)) := by
  obtain ⟨part, hpart, h⟩ := bind_ok h
  refine ⟨part.map withoutAliases, ?_⟩
  have hlines : p.bundle tag true batchSize batch texts =
      .ok { lines := part.map withoutAliases, params := p.dataIn (part.map withoutAliases) } := by
    rw [bundle, hpart]
    rfl
  cases asLines with
  | true =>
    injection h with h
    rw [← h]
    exact ⟨hlines, rfl, rfl⟩
  | false =>
    injection h with h
    rw [← h]
    dsimp only
    exact ⟨hlines, rfl, rfl⟩

lemma statementTexts_written {texts : List String} (h : after statementTexts (p.written f g) = (.ok texts, q)) :
    ∃ g', q = p.written f g' := by
  obtain ⟨g', r, -, ⟨c, hc, -⟩, -⟩ := asks_again p f (range (p.written f g).statements.size) g
  have hsame : after statementTexts (p.written f g) = (c, p.written f g') := hc
  exact ⟨g', (congrArg Prod.snd (h.symm.trans hsame) :)⟩

/-- No variable has a name yet, and no hint ends in a digit. -/
structure Program.Unnamed (p : Program) : Prop where
  fresh : ∀ v, p.Uses v ∨ v = Program.time → (p.get v).name = none
  hints : ∀ v, p.Uses v ∨ v = Program.time → ∀ hint, (p.get v).hint = .text hint →
    ∀ c, (Text.Letter.lower hint).toList.getLast? = some c → c.isDigit = false

/-- Finishing texts makes no mention of data of this name: the tag is a word, the texts have no marks, and there is no
procedure in the name. -/
def Spares (tag : String) (texts : List String) (name : String) : Prop :=
  (∀ c ∈ tag.toList, Text.Glyph.isWord c = true) ∧ ¬ tagMark.toList <:+: (inLines texts).toList ∧
    ¬ "custom.".toList <:+: '$' :: name.toList

/-- A program without names yet, in which no hint ends in a digit, is written down: all its data and all
underived variables in statements have names, no two the same; and under the name of data, exactly if the
texts mention it, its value is sent. So it is if the lines mention it, as long as finishing them spares the name. -/
theorem render_names_apart (h : p.Unnamed) (tag : String) (asLines : Bool) (batchSize batch : Value) :
    (p.Legible → ∃ r q, after (render tag asLines .none .none) p = (.ok r, q)) ∧
    ∀ r q, after (render tag asLines batchSize batch) p = (.ok r, q) →
      q.data = p.data ∧ (∀ v, p.Uses v → q.Uses v) ∧
      (∀ v, q.Uses v → ∃ name, (q.get v).name = some name ∧ ∀ w, q.Uses w → (q.get w).name = some name → w = v) ∧
      ∃ texts, after (render tag true batchSize batch) p = (.ok { lines := texts, params := r.params }, q) ∧
        r.lines = (if asLines then texts else Text.cutAt '\n' (finished tag (inLines texts))) ∧
        (∀ name value, r.params.lookup name = some value ↔ ∃ v ∈ q.data, (q.get v).name = some name ∧
          (q.get v).kind = .data value ∧ ∃ t ∈ texts, Text.occursIn name.toList t.toList = true) ∧
        ∀ v ∈ q.data, ∀ name value, (q.get v).name = some name → (q.get v).kind = .data value →
          asLines = true ∨ Spares tag texts name → ∀ l ∈ r.lines, '$' :: name.toList <:+: l.toList →
            r.params.lookup name = some value := by
  refine ⟨fun h => h.render tag asLines, fun r q hr => ?_⟩
  obtain ⟨o, texts, hnames, htexts, hbundle⟩ := render_ok hr
  rw [← p.returning.written_self] at hnames
  obtain ⟨counts, f, rfl, hnumbered, hsome⟩ := nameVariables_numbered hnames fun v hv => by
    rw [Program.names, Program.get_returning]
    exact h.fresh v (Program.uses_or_time hv)
  obtain ⟨g, rfl⟩ := statementTexts_written htexts
  have hdigits : ∀ v, p.returning.Uses v → ∀ c, (p.returning.smallHint v).toList.getLast? = some c → c.isDigit = false := by
    intro v hv c hc
    unfold Program.smallHint at hc
    split at hc
    · rename_i hint hhint
      rw [Program.get_returning] at hhint
      exact h.hints v (Program.uses_or_time hv) hint hhint c hc
    · cases hc
  have hname : ∀ {v}, p.returning.Uses v → ((p.returning.written f g).get v).name = f v := by
    intro v hv
    obtain ⟨name, hv'⟩ := Option.isSome_iff_exists.mp (hsome v hv)
    rw [Program.written_get_of_lt (hnumbered.lt hv hv')]
  have hapart : ∀ v w, p.returning.Uses v → p.returning.Uses w → ∀ name,
      ((p.returning.written f g).get v).name = some name → ((p.returning.written f g).get w).name = some name → v = w := by
    intro v w hv hw name hvname hwname
    exact hnumbered.eq hdigits hv hw ((hname hv).symm.trans hvname) ((hname hw).symm.trans hwname)
  have hdata : ∀ v ∈ (p.returning.written f g).data, p.returning.Uses v := fun v hv => .inl hv
  refine ⟨Program.data_returning p, fun v hv => Program.uses_written.mpr hv.returning, fun v hv => ?_, ?_⟩
  · rw [Program.uses_written] at hv
    obtain ⟨name, hv'⟩ := Option.isSome_iff_exists.mp (hsome v hv)
    refine ⟨name, (hname hv).trans hv', fun w hw hw' => ?_⟩
    exact hapart w v (Program.uses_written.mp hw) hv name hw' ((hname hv).trans hv')
  · have hok := (congrArg Prod.fst ((hbundle asLines).symm.trans hr) :)
    obtain ⟨kept, hkept, hparams, hlines⟩ := Program.bundle_ok hok
    have hlookup (name : String) (value : Thing) : r.params.lookup name = some value ↔ _ :=
      hparams ▸ Program.lookup_dataIn (fun v hv => hname (hdata v hv) ▸ hsome v (hdata v hv))
        fun v hv w hw => hapart v w (hdata v hv) (hdata w hw)
    refine ⟨kept, (hbundle true).trans (by rw [hkept]), hlines, hlookup, ?_⟩
    intro v hv name value hv' hvalue hspared l hl hmention
    have hmentioned : ∃ t ∈ kept, '$' :: name.toList <:+: t.toList := by
      cases asLines with
      | true => exact ⟨l, by simpa [hlines] using hl, hmention⟩
      | false =>
        obtain ⟨htag, hmark, hname⟩ := hspared.resolve_left Bool.false_ne_true
        exact infix_of_finished htag hmark hname (by simpa [hlines] using hl) hmention
    obtain ⟨t, ht, hmention⟩ := hmentioned
    exact (hlookup name value).mpr ⟨v, hv, hv', hvalue, t, ht, Text.occursIn_iff.mpr ((suffix_cons _ _).isInfix.trans hmention)⟩

/-- A program that sends two values under two hints and gives them back. -/
def twoValues (first second : String) : Program :=
  (after (do
    let a ← newData (.plain (.int 1)) (.text first)
    let b ← newData (.plain (.int 2)) (.text second)
    setReturns [.var a, .var b] []) (Program.start Registry.empty (.text "ignore"))).2

lemma twoValues_unnamed {first second : String}
    (h : ∀ v < 3, ((twoValues first second).smallHint v).toList.getLast?.all (!·.isDigit) = true) :
    (twoValues first second).Unnamed where
  fresh v _ := by
    match v with
    | 0 | 1 | 2 => rfl
    | v + 3 => rfl
  hints v _ hint hhint c hc := by
    have hv := h v (Program.lt_of_hint hhint)
    rw [Program.smallHint_eq hhint, hc] at hv
    simpa using hv

theorem render_names_apart_twoValues : ∃ r q, after (render "" false .none .none) (twoValues "mydata" "MyData") = (.ok r, q) ∧
    (∀ v, q.Uses v → ∃ name, (q.get v).name = some name ∧ ∀ w, q.Uses w → (q.get w).name = some name → w = v) ∧
    (∃ l ∈ r.lines, "$mydata1".toList <:+: l.toList) ∧
    ∃ value, (q.get 2).kind = .data value ∧ r.params.lookup "mydata1" = some value := by
  obtain ⟨r, q, hr, hline⟩ := ok_of_gives_fst (x := after (render "" false .none .none) (twoValues "mydata" "MyData"))
    (p := fun r => r.lines.any fun l => Text.occursIn "$mydata1".toList l.toList) (by decide +kernel)
  obtain ⟨l, hl, hline⟩ := any_eq_true.mp hline
  obtain ⟨-, hall⟩ := render_names_apart (@twoValues_unnamed "mydata" "MyData" (by decide +kernel)) "" false .none .none
  obtain ⟨-, -, hapart, texts, htexts, -, -, hsent⟩ := hall r q hr
  have hq : 2 ∈ (after (render "" false .none .none) (twoValues "mydata" "MyData")).2.data ∧
      ((after (render "" false .none .none) (twoValues "mydata" "MyData")).2.get 2).name = some "mydata1" ∧
      ((after (render "" false .none .none) (twoValues "mydata" "MyData")).2.get 2).kind.isData = true := by
    decide +kernel
  have hmark : gives (after (render "" true .none .none) (twoValues "mydata" "MyData")).1
      (fun r => !Text.occursIn tagMark.toList (inLines r.lines).toList) = true := by
    decide +kernel
  rw [hr] at hq
  rw [htexts] at hmark
  obtain ⟨hmem, hname, hkind⟩ := hq
  obtain ⟨value, hvalue⟩ : ∃ value, (q.get 2).kind = .data value := by
    revert hkind
    cases (q.get 2).kind <;> simp [VarKind.isData]
  have hspared : Spares "" texts "mydata1" :=
    ⟨by simp, fun h => by simp [gives, Text.occursIn_iff.mpr h] at hmark, by decide +kernel⟩
  have hline := Text.occursIn_iff.mp hline
  exact ⟨r, q, hr, hapart, ⟨l, hl, hline⟩, value, hvalue, hsent 2 hmem _ value hname hvalue (.inr hspared) l hl hline⟩

/-- Two values are read as one, since the mark in the name of one is taken out where the text mentions it. -/
theorem exists_data_not_found : ∃ p r q, Program.Unnamed p ∧ after (render "" false .none .none) p = (.ok r, q) ∧
    r.lines = ["WITH *, timestamp() as time0", "RETURN $ab0, $ab0"] ∧ r.params.map Prod.fst = ["a-----b0", "ab0"] := by
  obtain ⟨r, q, hr, hread⟩ := ok_of_gives_fst (x := after (render "" false .none .none) (twoValues "a-----b" "ab"))
    (p := fun r => r.lines == ["WITH *, timestamp() as time0", "RETURN $ab0, $ab0"] &&
      r.params.map Prod.fst == ["a-----b0", "ab0"])
    (by decide +kernel)
  rw [Bool.and_eq_true, beq_iff_eq, beq_iff_eq] at hread
  exact ⟨_, r, q, twoValues_unnamed (by decide +kernel), hr, hread⟩

end Renderings

end SurveyGraph.Write
