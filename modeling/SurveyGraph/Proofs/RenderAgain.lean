import Mathlib.Logic.Function.Basic
import SurveyGraph.Proofs.WriteGrowth
import SurveyGraph.Write.Render
/-!
# Writing a program down again

Writing a program down changes it: a statement that gives the time back may be added, variables get names, and merges are
tied to their relations. `Program.written` is a program with other names and some of its merges tied; naming and asking for
texts lead from one such form to another.

Names stay, so a second rendering leaves the program as it is. The texts are the same too, unless a merge has been tied in
between (`exists_render_differs`).
-/
open List

namespace SurveyGraph.Write
open Text.Letter Function SurveyGraph.Write.Statement

/-- Names for some variables. -/
abbrev Naming := VarId → Option String

variable {p : Program} {v : VarId} {f : Naming} {g : Nat → Bool} (s : Statement) {α : Type} {ts : List Thing}
  {is : List Nat} {e : Fault}

/-! ## Programs with other names and ties -/

/-- The statement once its text has been asked for. -/
def Statement.tied : Statement :=
  match s.form with
  | .mergeDependent m d => { s with form := .mergeDependent m { d with hashed := true } }
  | _ => s

/-- Whether asking for its text leaves it as it is. -/
def Statement.isTied : Bool :=
  match s.form with
  | .mergeDependent _ d => d.hashed
  | _ => true

lemma Statement.tied_of_isTied {s : Statement} (h : s.isTied = true) : s.tied = s := by
  obtain ⟨_, _, _, form⟩ := s
  cases form with
  | mergeDependent m d =>
    obtain ⟨labels, relations, absent, dummy, holder, unnamed, hash, hashed⟩ := d
    cases h
    rfl
  | _ => rfl

@[simp] lemma Statement.tied_tied : s.tied.tied = s.tied := by
  obtain ⟨_, _, _, form⟩ := s
  cases form <;> rfl

@[simp] lemma Statement.mentioned_tied : s.tied.mentioned = s.mentioned := by
  obtain ⟨_, _, _, form⟩ := s
  cases form <;> rfl

@[simp] lemma Statement.isReturns_tied : s.tied.isReturns = s.isReturns := by
  obtain ⟨_, _, _, form⟩ := s
  cases form <;> rfl

namespace Program

def names (p : Program) (v : VarId) : Option String := (p.get v).name

/-- The program with other names and some statements tied. -/
def written (p : Program) (f : VarId → Option String) (g : Nat → Bool) : Program :=
  { p with
    vars := p.vars.mapIdx (fun v x => { x with name := f v })
    statements := p.statements.mapIdx (fun i s => if g i then s.tied else s) }

lemma written_get_of_lt (h : v < p.vars.size) : (p.written f g).get v = { p.get v with name := f v } := by
  simp [written, get, Array.getD, h]

lemma written_get_of_le (h : p.vars.size ≤ v) : (p.written f g).get v = default := get_of_le (by simpa [written] using h)

@[simp] lemma written_kind (v : VarId) : ((p.written f g).get v).kind = (p.get v).kind := by
  rcases Nat.lt_or_ge v p.vars.size with h | h
  · rw [written_get_of_lt h]
  · rw [written_get_of_le h, get_of_le h]

@[simp] lemma written_hint (v : VarId) : ((p.written f g).get v).hint = (p.get v).hint := by
  rcases Nat.lt_or_ge v p.vars.size with h | h
  · rw [written_get_of_lt h]
  · rw [written_get_of_le h, get_of_le h]

@[simp] lemma written_data : (p.written f g).data = p.data := rfl

lemma written_map {β : Type} {F : Statement → β} (hF : ∀ s : Statement, F s.tied = F s) :
    (p.written f g).statements.toList.map F = p.statements.toList.map F := by
  apply ext_getElem?
  intro i
  simp only [written, Array.toList_mapIdx, getElem?_map, getElem?_mapIdx, Option.map_map]
  refine congrArg (Option.map · _) (funext fun s => ?_)
  split
  · exact hF s
  · rfl

@[simp] lemma written_mentioned : (p.written f g).statements.toList.flatMap mentioned =
    p.statements.toList.flatMap mentioned := by
  rw [flatMap_def, written_map mentioned_tied, ← flatMap_def]

lemma written_self (p : Program) : p.written p.names (fun _ => false) = p := by
  have hvars : p.vars.mapIdx (fun v x => { x with name := p.names v }) = p.vars := by
    apply Array.ext_getElem?
    intro v
    rw [Array.getElem?_mapIdx]
    cases h : p.vars[v]? with
    | none => rfl
    | some x =>
      have hx : p.names v = x.name := by simp [names, get, Array.getD_eq_getD_getElem?, h]
      simp [hx]
  have hstatements : p.statements.mapIdx (fun _ s => s) = p.statements := by
    apply Array.ext_getElem?
    simp
  simp [written, hvars, hstatements]

lemma written_setName (name : Option String) :
    { p.written f g with vars := (p.written f g).vars.modify v (fun x => { x with name }) } =
      p.written (update f v name) g := by
  have hvars : (p.written f g).vars.modify v (fun x => { x with name }) = (p.written (update f v name) g).vars := by
    apply Array.ext_getElem?
    intro u
    simp only [written, Array.getElem?_modify, Array.getElem?_mapIdx]
    by_cases hu : v = u
    · subst hu
      simp [Option.map_map, comp_def]
    · rw [if_neg hu]
      simp [update_of_ne (Ne.symm hu)]
  rw [hvars]
  rfl

end Program

/-! ## Names are given once -/

lemma after_nameVariable {hint : String} (h : (p.get v).hint = .text hint) (counts : NameCounts) :
    after (nameVariable counts v) (p.written f g) = (.ok (nextName counts (lower hint)).2,
      p.written (update f v (some (nextName counts (lower hint)).1)) g) := by
  rw [← Program.written_hint] at h
  rw [← Program.written_setName]
  unfold nameVariable
  rw [after_get_bind]
  rw [h]
  rfl

lemma after_nameVariable_error (h : ∀ hint, (p.get v).hint ≠ .text hint) (counts : NameCounts) :
    after (nameVariable counts v) (p.written f g) = (.error (Cause.toFault FaultKind.missingAttribute), p.written f g) := by
  unfold nameVariable
  rw [after_get_bind]
  split
  · rename_i hint hh
    exact absurd (p.written_hint v ▸ hh) (h hint)
  · rfl

lemma after_nameData (p : Program) : ∀ (vs : List VarId) (counts : NameCounts),
    ∃ r, ∃ given : Naming, ∀ f g, after (vs.foldlM nameVariable counts) (p.written f g) =
      (r, p.written (fun v => (given v).or (f v)) g)
  | [], counts => ⟨.ok counts, fun _ => none, fun f g => by simp [after]; rfl⟩
  | v :: vs, counts => by
    by_cases h : ∃ hint, (p.get v).hint = .text hint
    · obtain ⟨hint, h⟩ := h
      obtain ⟨r, given, hr⟩ := after_nameData p vs (nextName counts (lower hint)).2
      refine ⟨r, fun u => (given u).or (if u = v then some (nextName counts (lower hint)).1 else none),
        fun f g => ?_⟩
      rw [foldlM_cons, after_bind, after_nameVariable h]
      simp only [hr]
      congr 2
      funext u
      cases given u with
      | some n => rfl
      | none => by_cases hu : u = v <;> simp [hu]
    · refine ⟨.error (Cause.toFault FaultKind.missingAttribute), fun _ => none, fun f g => ?_⟩
      rw [foldlM_cons, after_bind, after_nameVariable_error (not_exists.mp h)]
      rfl

/-- Whether a thing needs no name: it has one, or never gets one. -/
def Program.Passes (p : Program) (f : VarId → Option String) : Thing → Prop
  | .var v => (p.get v).kind.parent?.isSome ∨ v < p.vars.size ∧ (f v).isSome
  | .object _ | .cls _ | .plain (.path _) => True
  | _ => False

variable {t : Thing} {f' : Naming} {r : Except Fault Unit} {g' : Nat → Bool} {i : Nat}

lemma Program.Passes.after_nameThing (h : p.Passes f t) (counts : NameCounts) :
    after (nameThing counts t) (p.written f g) = (.ok counts, p.written f g) := by
  unfold nameThing
  split
  · rename_i v
    have hskip : (((p.written f g).get v).kind.parent?.isSome || ((p.written f g).get v).name.isSome) = true := by
      rcases h with h | ⟨hv, h⟩
      · rw [Program.written_kind, h, Bool.true_or]
      · rw [Program.written_get_of_lt hv, h, Bool.or_true]
    change after (if _ then _ else _) _ = _
    rw [if_pos hskip]
    rfl
  · rfl
  · rfl
  · rfl
  · simp [Passes] at h

lemma Program.Passes.mono (h : p.Passes f t) (hf : ∀ v, (f v).isSome → (f' v).isSome) : p.Passes f' t := by
  unfold Passes at h ⊢
  split <;> simp_all
  exact h.imp_right fun ⟨hv, h⟩ => ⟨hv, hf _ h⟩

lemma after_nameThing_var (h : ¬p.Passes f (.var v)) (counts : NameCounts) (g : Nat → Bool) :
    after (nameThing counts (.var v)) (p.written f g) = after (nameVariable counts v) (p.written f g) := by
  simp only [Program.Passes, not_or, not_and] at h
  have hname : ((p.written f g).get v).name.isSome = false := by
    rcases Nat.lt_or_ge v p.vars.size with hv | hv
    · rw [Program.written_get_of_lt hv]
      exact Bool.eq_false_iff.mpr (h.2 hv)
    · rw [Program.written_get_of_le hv]
      rfl
  change after (if _ then _ else _) _ = _
  rw [if_neg (by rw [Program.written_kind, hname, Bool.or_false]; exact h.1)]

lemma nameThing_cases (p : Program) (f : Naming) (t : Thing) : p.Passes f t ∨
    (∃ v hint, t = .var v ∧ f v = none ∧ (p.get v).hint = .text hint ∧ ∀ counts g,
      after (nameThing counts t) (p.written f g) = after (nameVariable counts v) (p.written f g)) ∨
    ∀ counts g, after (nameThing counts t) (p.written f g) =
      (.error (Cause.toFault FaultKind.missingAttribute), p.written f g) := by
  by_cases h : p.Passes f t
  · exact .inl h
  refine .inr ?_
  cases t with
  | var v =>
    have hstep := after_nameThing_var h
    simp only [Program.Passes, not_or, not_and] at h
    by_cases hh : ∃ hint, (p.get v).hint = .text hint
    · obtain ⟨hint, hh⟩ := hh
      exact .inl ⟨v, hint, rfl, by simpa using h.2 (Program.lt_of_hint hh), hh, hstep⟩
    · exact .inr fun counts g => (hstep counts g).trans (after_nameVariable_error (not_exists.mp hh) counts)
  | object o | cls c => exact absurd trivial h
  | plain x =>
    cases x with
    | path _ => exact absurd trivial h
    | _ => exact .inr fun counts g => rfl
  | list xs | tuple xs | dict es => exact .inr fun counts g => rfl

/-- Things are named, whatever statements are tied, and `r` comes of it. -/
def Program.Names (p : Program) (ts : List Thing) (counts : NameCounts) (f f' : VarId → Option String)
    (r : Except Fault Unit) : Prop :=
  ∀ g, ∃ c, after (ts.foldlM nameThing counts) (p.written f g) = (c, p.written f' g) ∧ c.map (fun _ => ()) = r

lemma Program.Names.cons {counts counts' : NameCounts} {f'' : Naming}
    (ht : ∀ g, after (nameThing counts t) (p.written f g) = (.ok counts', p.written f' g))
    (h : p.Names ts counts' f' f'' r) : p.Names (t :: ts) counts f f'' r := by
  intro g
  rw [foldlM_cons, after_bind, ht]
  exact h g

lemma Program.Names.error {counts : NameCounts}
    (ht : ∀ g, after (nameThing counts t) (p.written f g) = (.error e, p.written f g)) :
    p.Names (t :: ts) counts f f (.error e) := by
  intro g
  rw [foldlM_cons, after_bind, ht]
  exact ⟨_, rfl, rfl⟩

lemma names_again (p : Program) : ∀ (ts : List Thing) (counts : NameCounts) (f : Naming),
    ∃ k : Naming, ∃ r, p.Names ts counts f (fun v => (f v).or (k v)) r ∧
      ∀ counts', p.Names ts counts' (fun v => (f v).or (k v)) (fun v => (f v).or (k v)) r
  | [], counts, f => by
    refine ⟨fun _ => none, .ok (), fun g => ⟨.ok counts, ?_, rfl⟩, fun counts' g => ⟨.ok counts', rfl, rfl⟩⟩
    simp only [foldlM_nil, Option.or_none]
    rfl
  | t :: ts, counts, f => by
    rcases nameThing_cases p f t with ht | ⟨v, hint, rfl, hv, hh, ht⟩ | ht
    · obtain ⟨k, r, hfirst, hagain⟩ := names_again p ts counts f
      have hpass : p.Passes (fun v => (f v).or (k v)) t := ht.mono fun v hv => by simp [hv]
      exact ⟨k, r, hfirst.cons fun g => ht.after_nameThing counts,
        fun counts' => (hagain counts').cons fun g => hpass.after_nameThing counts'⟩
    · obtain ⟨k, r, hfirst, hagain⟩ := names_again p ts (nextName counts (lower hint)).2
        (update f v (some (nextName counts (lower hint)).1))
      have hk : (fun u => (update f v (some (nextName counts (lower hint)).1) u).or (k u)) =
          fun u => (f u).or (update k v (some (nextName counts (lower hint)).1) u) := by
        funext u
        by_cases hu : u = v <;> simp [hu, hv]
      rw [hk] at hfirst hagain
      refine ⟨_, r, hfirst.cons fun g => (ht counts g).trans (after_nameVariable hh counts), fun counts' => ?_⟩
      have hpass : p.Passes (fun u => (f u).or (update k v (some (nextName counts (lower hint)).1) u))
          (.var v) := .inr ⟨Program.lt_of_hint hh, by simp⟩
      exact (hagain counts').cons fun g => hpass.after_nameThing counts'
    · refine ⟨fun _ => none, .error (Cause.toFault FaultKind.missingAttribute), ?_, fun counts' => ?_⟩
      all_goals simp only [Option.or_none]
      · exact .error fun g => ht counts g
      · exact .error fun g => ht counts' g

lemma nameVariables_again (p : Program) (f : Naming) : ∃ f' r,
    (∀ g, after nameVariables (p.written f g) = (r, p.written f' g)) ∧
    ∀ g, after nameVariables (p.written f' g) = (r, p.written f' g) := by
  have hrun (f : Naming) (g : Nat → Bool) : after nameVariables (p.written f g) =
      after (p.data.toList.foldlM nameVariable [] >>= fun counts =>
        (p.statements.toList.flatMap mentioned).foldlM nameThing counts >>= fun _ => pure ())
      (p.written f g) := by
    rw [← p.written_mentioned]
    rfl
  obtain ⟨rd, given, hdata⟩ := after_nameData p p.data.toList []
  cases rd with
  | error e =>
    have h (f : Naming) (g : Nat → Bool) : after nameVariables (p.written f g) =
        (.error e, p.written (fun v => (given v).or (f v)) g) := by
      rw [hrun, after_bind, hdata]
    refine ⟨_, _, h f, fun g => ?_⟩
    rw [h]
    simp only [← Option.or_assoc, Option.or_self]
  | ok counts =>
    obtain ⟨k, r, hfirst, hagain⟩ := names_again p (p.statements.toList.flatMap mentioned) counts
      (fun v => (given v).or (f v))
    have h {f f' : Naming} (hn : p.Names (p.statements.toList.flatMap mentioned) counts
        (fun v => (given v).or (f v)) f' r) (g : Nat → Bool) : after nameVariables (p.written f g) = (r, p.written f' g) := by
      obtain ⟨c, hc, hr⟩ := hn g
      rw [hrun, after_bind, hdata]
      simp only [after_bind, hc]
      subst hr
      cases c <;> rfl
    refine ⟨_, r, h hfirst, h ?_⟩
    have hgiven : (fun v => (given v).or (((given v).or (f v)).or (k v))) = fun v => ((given v).or (f v)).or (k v) := by
      simp only [← Option.or_assoc, Option.or_self]
    rw [hgiven]
    exact hagain counts

/-! ## Texts -/

lemma Program.written_statement (i : Nat) : (p.written f g).statements[i]? =
    p.statements[i]?.map (fun s => if g i then s.tied else s) := by
  simp [written]

lemma Program.written_congr (h : ∀ i s, p.statements[i]? = some s →
    (if g i then s.tied else s) = if g' i then s.tied else s) : p.written f g = p.written f g' := by
  have hstatements : (p.written f g).statements = (p.written f g').statements := by
    apply Array.ext_getElem?
    intro i
    rw [written_statement, written_statement]
    cases hs : p.statements[i]? with
    | none => rfl
    | some s => exact congrArg some (h i s hs)
  exact congrArg (fun x => { p.written f g with statements := x }) hstatements

lemma Program.written_tie {s : Statement} (h : p.statements[i]? = some s) :
    { p.written f g with statements := (p.written f g).statements.modify i (fun _ => s.tied) } =
      p.written f (update g i true) := by
  have hstatements : (p.written f g).statements.modify i (fun _ => s.tied) =
      (p.written f (update g i true)).statements := by
    apply Array.ext_getElem?
    intro j
    rw [Array.getElem?_modify, written_statement, written_statement]
    by_cases hj : i = j
    · subst hj
      simp [h]
    · rw [if_neg hj, update_of_ne (Ne.symm hj)]
  rw [hstatements]
  rfl

lemma modify_eq_self {xs : Array α} {x : α} (h : xs[i]? = some x) : xs.modify i (fun _ => x) = xs := by
  apply Array.ext_getElem?
  intro j
  rw [Array.getElem?_modify]
  by_cases hj : i = j
  · subst hj
    simp [h]
  · rw [if_neg hj]

/-- The text of the statement at a place, tied or not. -/
def Program.textOf (p : Program) (f : VarId → Option String) (i : Nat) (tied : Bool) : Except Fault String :=
  match p.statements[i]? with
  | none => .ok ""
  | some s => (p.written f fun _ => false).words.statementText (if tied then s.tied else s)

lemma after_statementTextAt (p : Program) (f : Naming) (g : Nat → Bool) (i : Nat) :
    after (statementTextAt i) (p.written f g) = (p.textOf f i (g i), p.written f (update g i true)) := by
  have hget : after (get : WriteM Program) (p.written f g) = (.ok (p.written f g), p.written f g) := rfl
  have hwords : (p.written f g).words = (p.written f fun _ => false).words := rfl
  unfold statementTextAt Program.textOf
  rw [after_bind, hget]
  simp only [Program.written_statement]
  cases hs : p.statements[i]? with
  | none =>
    have hstate : p.written f (update g i true) = p.written f g := by
      refine Program.written_congr fun j s hj => ?_
      rw [update_of_ne]
      rintro rfl
      rw [hs] at hj
      cases hj
    rw [hstate]
    rfl
  | some s =>
    have hi : (p.written f g).statements[i]? = some (if g i then s.tied else s) := by
      rw [Program.written_statement, hs]
      rfl
    have htied : (if g i then s.tied else s).tied = s.tied := by split <;> simp
    have hstate := Program.written_tie (f := f) (g := g) hs
    rw [← htied] at hstate
    simp only [Option.map_some, hwords]
    rw [← hstate]
    generalize (if g i then s.tied else s) = t at hi
    -- whatever its text, the statement is tied exactly if it is a merge with relations
    generalize (p.written f fun _ => false).words.statementText t = x
    have hself := modify_eq_self hi
    obtain ⟨inputs, outputs, hidden, form⟩ := t
    cases form with
    | mergeDependent m d => cases x <;> rfl
    | _ =>
      simp only [tied]
      rw [hself]
      cases x <;> rfl

/-- Both actions succeed, or both fail for the same reason. -/
abbrev SameOutcome : Except Fault α → Except Fault α → Prop := Agree fun _ _ => True

lemma SameOutcome.refl : ∀ x : Except Fault α, SameOutcome x x
  | .ok _ => .ok trivial
  | .error e => .error e

lemma dependentMerge_outcome (p : Program) (m : Merge) (d : Dependence) (sought sought' : String) :
    SameOutcome (p.dependentMerge m d sought) (p.dependentMerge m d sought') := by
  unfold Program.dependentMerge
  cases d.relations.isEmpty with
  | true => exact .refuse _
  | false => exact .ok trivial

lemma mergeDependentText_outcome (p : Program) (m : Merge) (d : Dependence) (hashed : Bool) :
    SameOutcome (p.mergeDependentText m d) (p.mergeDependentText m { d with hashed }) :=
  (dependentMerge_outcome p m d _ _).bind fun _ _ _ =>
    (SameOutcome.refl (p.afterDependent m d)).bind fun _ _ _ => .ok trivial

lemma textOf_outcome (p : Program) (f : Naming) (i : Nat) (tied : Bool) :
    SameOutcome (p.textOf f i tied) (p.textOf f i true) := by
  cases tied with
  | true => exact .refl _
  | false =>
    unfold Program.textOf
    split
    · exact .ok trivial
    · rename_i s _
      obtain ⟨_, _, _, form⟩ := s
      cases form with
      | mergeDependent m d => exact mergeDependentText_outcome _ m d true
      | _ => exact .refl _

/-- The texts of statements are asked for. What comes of it is `r`. -/
def Program.Asks (p : Program) (f : VarId → Option String) (is : List Nat) (g g' : Nat → Bool) (r : Except Fault Unit) : Prop :=
  ∃ c, after (is.mapM statementTextAt) (p.written f g) = (c, p.written f g') ∧ c.map (fun _ => ()) = r

lemma Program.Asks.cons {text : String}
    (hi : p.textOf f i (g i) = .ok text) (h : p.Asks f is (update g i true) g' r) : p.Asks f (i :: is) g g' r := by
  obtain ⟨c, hc, rfl⟩ := h
  refine ⟨c.map (text :: ·), ?_, by cases c <;> rfl⟩
  rw [mapM_cons, after_bind, after_statementTextAt, hi]
  simp only [after_bind, hc]
  cases c <;> rfl

lemma Program.Asks.error (hi : p.textOf f i (g i) = .error e) : p.Asks f (i :: is) g (update g i true) (.error e) := by
  refine ⟨.error e, ?_, rfl⟩
  rw [mapM_cons, after_bind, after_statementTextAt, hi]

/-- Tied statements stay so when texts are asked for again, and the request ends as it did. -/
lemma asks_again (p : Program) (f : Naming) : ∀ (is : List Nat) (g : Nat → Bool),
    ∃ g' r, (∀ i, g i = true → g' i = true) ∧ p.Asks f is g g' r ∧ p.Asks f is g' g' r
  | [], g => ⟨g, .ok (), fun _ h => h, ⟨.ok [], rfl, rfl⟩, ⟨.ok [], rfl, rfl⟩⟩
  | i :: is, g => by
    have hstay {g' : Nat → Bool} (h : g' i = true) : update g' i true = g' := by
      rw [← h, update_eq_self]
    have hmono (j : Nat) (h : g j = true) : update g i true j = true := by
      by_cases hj : j = i <;> simp [hj, h]
    have hagain := textOf_outcome p f i (g i)
    cases hg : p.textOf f i (g i) with
    | error e =>
      rw [hg] at hagain
      refine ⟨update g i true, .error e, hmono, .error hg, ?_⟩
      have h : p.Asks f (i :: is) (update g i true) (update (update g i true) i true) (.error e) :=
        .error ((update_self i true g).symm ▸ hagain.of_error)
      rwa [hstay (update_self i true g)] at h
    | ok text =>
      rw [hg] at hagain
      obtain ⟨text', htext, -⟩ := hagain.of_ok
      obtain ⟨g', r, hle, hfirst, hsecond⟩ := asks_again p f is (update g i true)
      have hi : g' i = true := hle i (update_self i true g)
      refine ⟨g', r, fun j h => hle j (hmono j h), .cons hg hfirst, .cons (hi ▸ htext) ?_⟩
      rwa [hstay hi]

/-! ## Renderings -/

/-- The program with something that it gives back. -/
def Program.returning (p : Program) : Program :=
  if !((p.statements.back?.map isReturns).getD false) then
    { p with statements := p.statements.push (.returns [.var Program.time] []) }
  else p

lemma Program.written_returning (p : Program) : (p.returning.written f g).returning = p.returning.written f g := by
  have hlast : ((p.returning.statements.back?.map isReturns).getD false) = true := by
    unfold returning
    split
    · simp [returns, isReturns]
    · rename_i h
      simpa using h
  have hwritten : ((p.returning.written f g).statements.back?.map isReturns).getD false = true := by
    have hkeeps : isReturns ∘ (fun s => if g (p.returning.statements.size - 1) then s.tied else s) =
        isReturns := by
      funext s
      split
      · exact s.isReturns_tied
      · rfl
    have hsize : (p.returning.written f g).statements.size = p.returning.statements.size := by simp [written]
    rw [← hlast, Array.back?_eq_getElem?, Array.back?_eq_getElem?, hsize, written_statement, Option.map_map, hkeeps]
  rw [returning, hwritten]
  rfl

lemma Program.returning_tied (h : ∀ s ∈ p.statements.toList, s.tied = s) :
    ∀ s ∈ p.returning.statements.toList, s.tied = s := by
  intro s hs
  unfold returning at hs
  split at hs
  · simp only [Array.toList_push, mem_append, mem_singleton] at hs
    rcases hs with hs | rfl
    · exact h s hs
    · rfl
  · exact h s hs

/-- What is made of the texts of a program. -/
def Program.bundle (p : Program) (tag : String) (asLines : Bool) (batchSize batch : Value) (texts : List String) :
    Except Fault Rendered := do
  let texts ← batchOf texts texts.length batchSize batch
  let texts := texts.map withoutAliases
  let params := p.dataIn texts
  if asLines then return { lines := texts, params }
  return { lines := Text.cutAt '\n' (finished tag (inLines texts)), params }

/-- What is made of a program once its variables have names. -/
def renderNamed (tag : String) (asLines : Bool) (batchSize batch : Value) (q : Program) : Except Fault Rendered × Program :=
  match after statementTexts q with
  | (.ok texts, q) => (q.bundle tag asLines batchSize batch texts, q)
  | (.error e, q) => (.error e, q)

lemma renderNamed_of_asks (h : p.Asks f (range p.statements.size) g g' r) {tag : String} {asLines : Bool}
    {batchSize batch : Value} : (renderNamed tag asLines batchSize batch (p.written f g)).2 = p.written f g' := by
  obtain ⟨c, hc, -⟩ := h
  have hsize : (p.written f g).statements.size = p.statements.size := by simp [Program.written]
  have htexts : after statementTexts (p.written f g) = (c, p.written f g') := by
    rw [← hc, ← hsize]
    rfl
  unfold renderNamed
  rw [htexts]
  cases c <;> rfl

section Renderings

variable (p : Program) (tag : String) (asLines : Bool) (batchSize batch : Value)

lemma after_render : after (render tag asLines batchSize batch) p =
    match after nameVariables p.returning with
    | (.ok _, q) => renderNamed tag asLines batchSize batch q
    | (.error e, q) => (.error e, q) := by
  have hget (q : Program) : after (get : WriteM Program) q = (.ok q, q) := rfl
  have hrest (q : Program) : after (do
      nameVariables
      let texts ← statementTexts
      let texts ← batchOf texts texts.length batchSize batch
      let texts := texts.map withoutAliases
      let params := (← get).dataIn texts
      if asLines then return { lines := texts, params }
      return { lines := Text.cutAt '\n' (finished tag (inLines texts)), params }) q =
      match after nameVariables q with
      | (.ok _, q) => renderNamed tag asLines batchSize batch q
      | (.error e, q) => (.error e, q) := by
    rw [after_bind]
    rcases after nameVariables q with ⟨_ | _, q⟩
    · rfl
    simp only [renderNamed]
    rw [after_bind]
    rcases after statementTexts q with ⟨_ | texts, q⟩
    · rfl
    simp only [Program.bundle]
    cases batchOf texts texts.length batchSize batch with
    | error e => rfl
    | ok texts => cases asLines <;> rfl
  rw [← hrest]
  unfold render Program.returning
  rw [after_bind, hget]
  simp only []
  cases (p.statements.back?.map isReturns).getD false <;> rfl

/-- A rendering fails while it names variables, and so does the next; or it names them, and texts follow. In
the next one all names are there. -/
lemma render_named : ∃ f,
    (∃ e, after (render tag asLines batchSize batch) p = (.error e, p.returning.written f fun _ => false) ∧
      after (render tag asLines batchSize batch) (p.returning.written f fun _ => false) =
        (.error e, p.returning.written f fun _ => false)) ∨
    after (render tag asLines batchSize batch) p =
      renderNamed tag asLines batchSize batch (p.returning.written f fun _ => false) ∧
    ∀ g, after (render tag asLines batchSize batch) (p.returning.written f g) =
      renderNamed tag asLines batchSize batch (p.returning.written f g) := by
  obtain ⟨f, r, hfirst, hagain⟩ := nameVariables_again p.returning p.returning.names
  have hnamed := hfirst fun _ => false
  rw [p.returning.written_self] at hnamed
  refine ⟨f, ?_⟩
  cases r with
  | error e =>
    refine .inl ⟨e, ?_, ?_⟩
    · rw [after_render, hnamed]
    · rw [after_render, Program.written_returning, hagain]
  | ok u =>
    refine .inr ⟨?_, fun g => ?_⟩
    · rw [after_render, hnamed]
    · rw [after_render, Program.written_returning, hagain]

/-- The first rendering names variables and ties merges; the second finds all that done. -/
lemma render_twice : ∃ q,
    (after (render tag asLines batchSize batch) p).2 = q ∧ (after (render tag asLines batchSize batch) q).2 = q ∧
    ((∀ s ∈ p.statements.toList, s.tied = s) →
      after (render tag asLines batchSize batch) q = after (render tag asLines batchSize batch) p) := by
  obtain ⟨f, ⟨e, hone, htwo⟩ | ⟨hone, htwo⟩⟩ := render_named p tag asLines batchSize batch
  · exact ⟨_, by rw [hone], by rw [htwo], fun _ => by rw [hone, htwo]⟩
  · obtain ⟨g', r, -, hasks, hasks'⟩ := asks_again p.returning f (range p.returning.statements.size) fun _ => false
    refine ⟨p.returning.written f g', ?_, ?_, fun htied => ?_⟩
    · rw [hone, renderNamed_of_asks hasks]
    · rw [htwo, renderNamed_of_asks hasks']
    · have hsame : p.returning.written f g' = p.returning.written f fun _ => false :=
        Program.written_congr fun i s hs => by
          simp [Program.returning_tied htied s (Array.mem_toList_iff.mpr (Array.mem_of_getElem? hs))]
      rw [htwo, hone, hsame]

end Renderings

/-- A program that has been written down stays as it is when written down again, so that all later renderings
are the same, and the first too if no merge was still to be tied. -/
theorem render_again (p : Program) (tag : String) (asLines : Bool) (batchSize batch : Value) :
    let rendered := after (render tag asLines batchSize batch)
    (rendered (rendered p).2).2 = (rendered p).2 ∧
    ((∀ s ∈ p.statements.toList, s.isTied = true) → rendered (rendered p).2 = rendered p) := by
  obtain ⟨q, hq, hstate, hsame⟩ := render_twice p tag asLines batchSize batch
  subst hq
  exact ⟨hstate, fun h => hsame fun s hs => Statement.tied_of_isTied (h s hs)⟩

/-- A node is merged by itself, and another with its relation to the first. -/
def relatedMerges : WriteM Unit := do
  let a ← mergeNode (.list [.text "A"]) (.dict [(.text "id", .plain (.int 1))]) (.dict []) [] [] (.text "ignore")
  let relation : GivenRelation :=
    { other := .var a, type := .text "is_required_by", inward := true, ident := .dict [], properties := .dict [] }
  let _ ← mergeNode (.list [.text "B"]) (.dict [(.text "id", .plain (.int 2))]) (.dict []) [relation] [] (.text "ignore")

/-- The program with these merges. -/
def relatedProgram : Program := (after relatedMerges (.start default (.text "ignore"))).2

/-- Once it has been written down, its merges are tied. -/
theorem render_again_relatedProgram :
    let rendered := after (render "" false .none .none)
    let p := (rendered relatedProgram).2
    (∀ s ∈ p.statements.toList, s.isTied = true) ∧ rendered (rendered p).2 = rendered p := by
  have htied : ∀ s ∈ (after (render "" false .none .none) relatedProgram).2.statements.toList, s.isTied = true := by
    decide +kernel
  exact ⟨htied, (render_again _ "" false .none .none).2 htied⟩

end SurveyGraph.Write
