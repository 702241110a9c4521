import SurveyGraph.Proofs.IdentifyingRelations
import SurveyGraph.Proofs.WriteSucceeds
/-!
# Instances that can be made

The values of an instance that relations identify have to be what its class asks for (`Accepts`). It is then given all of
them (`works_fillInstance`), its factors are data and its relatives fit (`Equipped`), and it is merged together with its
relations if one of them identifies it (`works_writeInstance`).
-/
open List

namespace SurveyGraph.Write
open Text.Letter Registry

variable {α : Type} {p q : Program} {cls : ClassId} {spec : Specification} {f : Filling} {m : Member} {r : Relation} {t : Thing}
  {k name : String} {named es : List (String × Thing)} {y : Relative} {l : List GivenRelation} {ls : List String}
  {ms : List Member} {c : Class}

/-! ## Values that a class can be given -/

/-- The thing stands for a node that can be used. -/
def Program.HasNode (p : Program) (t : Thing) : Prop := ∃ v, p.standsFor t = some v ∧ p.isAccessible (.var v)

lemma Program.HasNode.onward (h : p.HasNode t) (hq : Onward p q) : q.HasNode t := by
  obtain ⟨v, hv, hreach⟩ := h
  refine ⟨v, ?_, hq.reach hreach⟩
  rw [← hv]
  unfold Program.standsFor Program.getInstance
  rw [hq.kept.instances]

lemma Program.HasNode.nodesOf (h : p.HasNode t) : ∃ v, p.nodesOf t = .ok (.var v) ∧ p.isAccessible (.var v) := by
  obtain ⟨v, hv, hreach⟩ := h
  refine ⟨v, ?_, hreach⟩
  cases t with
  | var u =>
    cases hv
    rfl
  | object o =>
    have hnode : (p.getInstance o).node = some v := hv
    unfold Program.nodesOf
    rw [hnode]
  | plain a | cls c | list xs | tuple xs | dict es => cases hv

lemma Program.HasNode.isKnown (h : p.HasNode t) : t.isKnown := by
  obtain ⟨v, hv, -⟩ := h
  cases t <;> first | rfl | cases hv

/-- Data: a value that is something, or a variable that can be used. -/
inductive Program.IsData (p : Program) : Thing → Prop
  | value {v : Value} (something : (Thing.plain v).isNothing = false) : p.IsData (.plain v)
  | var {v : VarId} (reach : p.isAccessible (.var v)) : p.IsData (.var v)

lemma Program.IsData.usable (h : p.IsData t) : Usable p t := by
  cases h with
  | value h => exact ⟨h, nofun⟩
  | var h => exact ⟨rfl, fun _ _ => h⟩

lemma Program.IsData.onward (h : p.IsData t) (hq : Onward p q) : q.IsData t := by
  cases h with
  | value h => exact .value h
  | var h => exact .var (hq.reach h)

lemma Program.IsData.nodesOf (h : p.IsData t) : p.nodesOf t = .ok t := by
  cases h <;> rfl

/-- Relatives for a relation: as many nodes as it allows, or a collection. -/
inductive Program.Fits (p : Program) (r : Relation) (value : Thing) : Prop
  | nodes (xs : List Thing) (max : Int) (list : value = .list xs) (nodes : ∀ x ∈ xs, p.HasNode x)
    (atLeast : r.min ≤ xs.length) (bound : r.max = some max) (atMost : xs.length ≤ max)
  | collection (v : VarId) (d : ClassId) (target : r.target = .cls d) (var : value = .var v)
    (collection : p.isCollection (.var v)) (reach : p.isAccessible (.var v))

lemma Program.Fits.onward {value : Thing} (h : p.Fits r value) (hp : p.Ready) (hq : Onward p q) : q.Fits r value := by
  cases h with
  | nodes xs max list nodes atLeast bound atMost =>
    exact .nodes xs max list (fun x hx => (nodes x hx).onward hq) atLeast bound atMost
  | collection v d target var collection reach =>
    refine .collection v d target var ?_ (hq.reach reach)
    change (q.get v).kind.isCollection
    rw [hq.kept.old.get v (hp.legible.lt_of_isAccessible reach)]
    exact collection

/-- What is given under a name is what the class asks for: a relative that fits, or data. Only optional
relatives may be left out. -/
def Program.Admits (p : Program) (spec : Specification) (name : String) (given : Option Thing) : Prop :=
  match relativeUnder spec name, given with
  | some m, none => ∃ r, m = .rel r ∧ (r.notReal ∨ r.isOptional)
  | some m, some value => (∀ r, m = .rel r → r.notReal = false) ∧ ∃ r, relationOf m = some r ∧ p.Fits r (asList m value)
  | none, some value => p.IsData value
  | none, none => False

lemma Program.Admits.onward {given : Option Thing} (h : p.Admits spec name given) (hp : p.Ready) (hq : Onward p q) :
    q.Admits spec name given := by
  unfold Program.Admits at h ⊢
  split at h
  · exact h
  · obtain ⟨hreal, r, hr, hfits⟩ := h
    exact ⟨hreal, r, hr, hfits.onward hp hq⟩
  · exact h.onward hq
  · exact h

/-! ## Giving the values -/

lemma works_checkCount {value : Thing} (h : p.Fits r value) : Works p (checkCount c name value r) (fun _ _ => True) := by
  refine .get_bind ?_
  cases h with
  | nodes xs max list nodes atLeast bound atMost =>
    have hmany : p.standsForMany (.list xs) = false := rfl
    have hcount : (Thing.list xs).count = some xs.length := rfl
    have hless : ¬ (xs.length : Int) < r.min := by omega
    have hmore : ¬ (xs.length : Int) > max := by omega
    rw [list]
    simp only [hmany, hcount, Option.getD_some, hless, bound, hmore, if_false, Bool.false_eq_true]
    exact .pure trivial
  | collection v d target var collection reach =>
    have hmany : p.standsForMany (.var v) = true := collection
    rw [var]
    simp only [hmany, if_true, target]
    refine .pure_bind (a := Thing.var v) ?_
    exact (works_validateNumber reach).bind fun _ q hq _ => works_validateType (hq.reach reach)

lemma expected_left {i : Instance} (h : r.notReal ∨ r.isOptional) :
    p.expected i name (some (.rel r)) false = .ok (true, r.kind == .multiple) := by
  rcases h with h | h <;> simp [Program.expected, h]

lemma expected_given {i : Instance} (hreal : ∀ r, m = .rel r → r.notReal = false) :
    p.expected i name (some m) true = .ok (false, isMultiple m) := by
  cases m with
  | cls c | name s => rfl
  | rel r => simp [Program.expected, hreal r rfl, isMultiple]

lemma requireMany_ok {value : Thing} (h : p.Fits r value) (relation : Option Relation) :
    p.requireMany name relation value = .ok () := by
  cases h with
  | nodes xs max list => rw [list]; rfl
  | collection v d target var => rw [var]; rfl

lemma works_fillValue {value : Thing} {isMany : Bool}
    (h : ∀ m r, relativeUnder spec name = some m → relationOf m = some r → isMany = isMultiple m ∧ p.Fits r (asList m value)) :
    Works p (fillValue c spec true f name value isMany) (fun _ _ => True) := by
  unfold fillValue
  cases hm : relativeUnder spec name with
  | none => exact .pure trivial
  | some m =>
    cases hr : relationOf m with
    | none =>
      simp only [Option.bind_some, hr]
      exact .pure trivial
    | some r =>
      obtain ⟨rfl, hfits⟩ := h m r hm hr
      simp only [Option.bind_some, hr]
      exact (works_checkCount hfits).bind fun _ _ _ _ => .pure trivial

lemma works_fillName {i : Instance} (h : p.Admits spec name (f.rest.lookup name)) :
    Works p (fillName i spec true f name) (fun f' _ => f' = f.filled spec name) := by
  suffices hworks : Works p (fillName i spec true f name) (fun _ _ => True) from
    (hworks.and_ok fun _ _ hok => fillName_ok hok).mono fun _ _ _ hf => hf.2
  unfold Program.Admits at h
  refine .get_bind ?_
  split at h
  · rename_i m hm hgiven
    obtain ⟨r, rfl, hskip⟩ := h
    rw [hm, hgiven]
    exact .lift_bind (expected_left hskip) (Works.pure trivial)
  · rename_i m value hm hgiven
    obtain ⟨hreal, r, hr, hfits⟩ := h
    rw [hm, hgiven]
    refine .lift_bind (expected_given hreal) (Works.lift_bind rfl ?_)
    have hfill : Works p (fillValue (p.reg.get i.cls) spec true f name value (isMultiple m)) (fun _ _ => True) := by
      refine works_fillValue fun m' r' hm' hr' => ?_
      cases hm.symm.trans hm'
      cases hr.symm.trans hr'
      exact ⟨rfl, hfits⟩
    dsimp only
    split
    · rename_i hmany
      have hvalue : asList m value = value := by simp [asList, hmany]
      exact .lift_bind (requireMany_ok (hvalue ▸ hfits) _) hfill
    · exact hfill
  · rename_i value hm hgiven
    rw [hm, hgiven]
    exact works_fillValue fun m r hm' => by cases hm.symm.trans hm'
  · exact h.elim

lemma works_fillNames {i : Instance} : ∀ {names : List String} {f : Filling} {p : Program}, names.Nodup →
    (∀ k ∈ names, p.Admits spec k (f.rest.lookup k)) →
    Works p (names.foldlM (fillName i spec true) f) (fun f' _ => f' = names.foldl (Filling.filled spec) f)
  | [], f, p, _, _ => .pure rfl
  | name :: names, f, p, hnd, h => by
    obtain ⟨hn, hnames⟩ := nodup_cons.mp hnd
    refine Works.ready fun hp => ?_
    refine (works_fillName (h name (.head _))).bind fun f' q hq hf => ?_
    subst hf
    refine works_fillNames hnames fun k hk => ?_
    have hne : k ≠ name := fun he => hn (he ▸ hk)
    rw [filled_rest, lookup_filter_ne hne]
    exact (h k (.tail _ hk)).onward hp hq

/-- A class that relations identify and that can be written: relations are resolved, labels begin with a
capital, and factors differ in small letters and from names of relations. -/
structure Describes (reg : Registry) (cls : ClassId) : Prop where
  settled : reg.pending = []
  resolved : ∀ m ∈ (reg.get cls).parents ++ (reg.get cls).children, (memberClass? m).isSome
  plain : (reg.get cls).preparation = .plain
  real : (reg.get cls).isTemplate = false
  strategy : reg.mergeStrategy cls = .ok .nodeWithRelations
  unversioned : (reg.get cls).versionOn = []
  labels : ∃ ls, checkLabels (.list ((reg.labels cls).map .text)) = .ok ls
  factors : ((reg.get cls).factors.map lower).Nodup
  apart : ∀ f ∈ (reg.get cls).factors, relativeUnder (reg.specification cls) (lower f) = none

/-- Values for an instance: what the class asks for, with none that identifies it collected. -/
structure Program.Accepts (p : Program) (cls : ClassId) (given : List (String × Thing)) : Prop where
  describes : Describes p.reg cls
  asked : ∀ e ∈ given, e.1 ∈ (p.reg.specification cls).names
  admits : ∀ k ∈ (p.reg.specification cls).names, p.Admits (p.reg.specification cls) k (given.lookup k)
  single : ∀ k ∈ (p.reg.get cls).identity.getD [], ∀ x, relativesGiven (p.reg.specification cls) given k = some x →
    p.isCollection x.1 = false

lemma awaited_of_resolved (h : ∀ m ∈ ms, (memberClass? m).isSome) : awaited ms = [] := by
  refine filterMap_eq_nil_iff.mpr fun m hm => ?_
  have hsome := h m hm
  cases m with
  | cls c | name s => rfl
  | rel r =>
    obtain ⟨_, target⟩ := r
    cases target with
    | cls d => rfl
    | awaiting s => cases hsome

lemma hasNames_of_resolved (h : ∀ m ∈ ms, (memberClass? m).isSome) : hasNames ms = true := by
  refine all_eq_true.mpr fun m hm => ?_
  have hsome := h m hm
  cases m with
  | cls c => rfl
  | name s => cases hsome
  | rel r =>
    obtain ⟨_, target⟩ := r
    cases target with
    | cls d => rfl
    | awaiting s => cases hsome

section Create

variable {given : List (String × Thing)} (hreg : Describes p.reg cls)

include hreg

lemma works_settleClass : Works p (settleClass cls) (fun _ q => q = p) := by
  refine .get_bind ?_
  have hnone : awaited (p.reg.get cls).parents ++ awaited (p.reg.get cls).children = [] := by
    rw [awaited_of_resolved fun m hm => hreg.resolved m (mem_append_left _ hm),
      awaited_of_resolved fun m hm => hreg.resolved m (mem_append_right _ hm)]
    rfl
  dsimp only
  rw [hnone]
  exact .pure rfl

/-- What an instance has been given from values. -/
def filling (spec : Specification) (given : List (String × Thing)) : Filling :=
  spec.names.foldl (Filling.filled spec) { rest := given }

omit hreg in
lemma rest_filling (h : ∀ e ∈ given, e.1 ∈ spec.names) : (filling spec given).rest = [] := by
  unfold filling
  rw [foldl_filled_rest]
  refine filter_eq_nil_iff.mpr fun e he => ?_
  simpa using h e he

lemma works_fillInstance (h : p.Accepts cls (named.filter (!·.2.isNothing))) :
    Works p (fillInstance cls { named } true) (fun x _ => x.1.cls = cls ∧ x.1.identifier = .nothing ∧
      x.1.fields = (filling (p.reg.specification cls) (named.filter (!·.2.isNothing))).fields ∧
      x.2 = filling (p.reg.specification cls) (named.filter (!·.2.isNothing))) := by
  have hidname := mergeStrategy_idname hreg.strategy
  have hall : (named.filter (!·.2.isNothing)).filter (fun e => some e.1 != none) = named.filter (!·.2.isNothing) :=
    filter_eq_self.mpr fun _ _ => rfl
  refine .get_bind ?_
  dsimp only
  unfold prepare
  rw [hreg.plain]
  refine .pure_bind (a := named) ?_
  refine (works_settleClass hreg).bind fun _ r _ hr => ?_
  subst hr
  refine .get_bind ?_
  rw [hasNames_of_resolved hreg.resolved, hidname, hall]
  refine .pure_bind (a := named.filter (!·.2.isNothing)) ?_
  refine (works_fillNames (names_nodup _) h.admits).bind fun f r' hr' hf => .get_bind ?_
  refine .lift_bind (a := ()) ?_ (Works.pure ⟨rfl, rfl, ?_, hf⟩)
  · have hrest : f.rest = [] := by
      rw [hf]
      exact rest_filling h.asked
    simp [Program.checkGiven, hrest, hidname, Thing.isNothing, Thing.nothing, pure, Except.pure]
  · rw [Instance.fieldsFrom, hidname, hf]
    rfl

end Create

/-! ## What is merged -/

/-- An instance that can be written: its factors are data, its relatives fit, and those that identify it are
not collected. -/
structure Program.Equipped (p : Program) (i : Instance) (f : Filling) : Prop where
  describes : Describes p.reg i.cls
  identifier : i.identifier = .nothing
  data : ∀ n ∈ (p.reg.get i.cls).factors, ∃ t, i.fields.lookup (lower n) = some t ∧ p.IsData t
  fits : ∀ isParent, ∀ e ∈ f.side isParent, p.Fits e.2.2 e.2.1
  single : ∀ isParent, ∀ e ∈ f.side isParent, e.1 ∈ (p.reg.get i.cls).identity.getD [] → ∃ xs, e.2.1 = .list xs

variable {i : Instance} {given : List (String × Thing)}

lemma Program.Equipped.onward (h : p.Equipped i f) (hp : p.Ready) (hq : Onward p q) : q.Equipped i f where
  describes := hq.kept.reg ▸ h.describes
  identifier := h.identifier
  data n hn := by
    rw [hq.kept.reg] at hn
    obtain ⟨t, ht, hdata⟩ := h.data n hn
    exact ⟨t, ht, hdata.onward hq⟩
  fits isParent e he := (h.fits isParent e he).onward hp hq
  single isParent e he hid := by
    rw [hq.kept.reg] at hid
    exact h.single isParent e he hid

lemma relativesGiven_eq_some {x : Thing × Relation} (h : relativesGiven spec given k = some x) :
    ∃ m value, relativeUnder spec k = some m ∧ given.lookup k = some value ∧ relationOf m = some x.2 ∧ x.1 = asList m value := by
  unfold relativesGiven at h
  split at h
  · cases h
  · simp only [Option.bind_eq_some_iff, Option.map_eq_some_iff] at h
    obtain ⟨m, hm, r, hr, value, hvalue, rfl⟩ := h
    exact ⟨m, value, hm, hvalue, hr, rfl⟩

lemma lower_mem_names {reg : Registry} {n : String} (hn : n ∈ (reg.get cls).factors) :
    lower n ∈ (reg.specification cls).names := by
  have hsome : ((reg.specification cls).factors.lookup (lower n)).isSome :=
    isSome_lookup_foldl_setNamed (.inl ⟨n, hn, rfl⟩)
  unfold Specification.names
  rw [mem_eraseDups]
  exact mem_append_left _ (mem_append_right _ (isSome_lookup_iff.mp hsome))

lemma Program.Accepts.equipped (h : p.Accepts cls given) (hcls : i.cls = cls) (hid : i.identifier = .nothing)
    (hfields : i.fields = (filling (p.reg.specification cls) given).fields) :
    p.Equipped i (filling (p.reg.specification cls) given) := by
  subst hcls
  have hfits (isParent : Bool) (e) (he : e ∈ (filling (p.reg.specification i.cls) given).side isParent) :
      relativesGiven (p.reg.specification i.cls) given e.1 = some e.2 ∧ p.Fits e.2.2 e.2.1 := by
    obtain ⟨hasked, hgiven⟩ := mem_given_side.mp he
    obtain ⟨m, value, hm, hvalue, hr, hlist⟩ := relativesGiven_eq_some hgiven
    have hadmits := h.admits e.1 (mem_names_of_asksFor hasked)
    unfold Program.Admits at hadmits
    rw [hm, hvalue] at hadmits
    obtain ⟨-, r, hr', hfits⟩ := hadmits
    cases hr.symm.trans hr'
    exact ⟨hgiven, hlist ▸ hfits⟩
  refine ⟨h.describes, hid, fun n hn => ?_, fun isParent e he => (hfits isParent e he).2, fun isParent e he hk => ?_⟩
  · have hmem := lower_mem_names hn
    have hadmits := h.admits _ hmem
    unfold Program.Admits at hadmits
    rw [h.describes.apart n hn] at hadmits
    rw [hfields, filling, foldl_filled_fields (names_nodup _), if_pos hmem]
    cases hvalue : given.lookup (lower n) with
    | none =>
      rw [hvalue] at hadmits
      exact hadmits.elim
    | some value =>
      rw [hvalue] at hadmits
      exact ⟨value, rfl, hadmits⟩
  · obtain ⟨hgiven, hfits⟩ := hfits isParent e he
    cases hfits with
    | nodes xs max list => exact ⟨xs, list⟩
    | collection v d target var collection =>
      have hsingle := h.single e.1 hk e.2 hgiven
      rw [var, collection] at hsingle
      cases hsingle

/-! ### The properties -/

/-- The entry holds data for a factor that identifies the instance, or for another. -/
def Program.IsFactor (p : Program) (i : Instance) (identifying : Bool) (e : String × Thing) : Prop :=
  p.IsData e.2 ∧ ∃ n ∈ (p.reg.get i.cls).factors, e.1 = lower n ∧
    (n ∈ (p.reg.get i.cls).identity.getD [] ↔ identifying)

/-- Entries as they are handed to a merge. -/
def asEntries (es : List (String × Thing)) : List (Thing × Thing) := es.map fun e => (.text e.1, e.2)

lemma Program.Equipped.factorsOf (h : p.Equipped i f) (identifying : Bool) :
    ∃ es, p.factorsOf i identifying = .ok (asEntries es) ∧ ∀ e ∈ es, p.IsFactor i identifying e := by
  unfold Program.factorsOf
  dsimp only
  generalize hchosen : List.filter _ (p.reg.get i.cls).factors = chosen
  have hmem (n : String) (hn : n ∈ chosen) : n ∈ (p.reg.get i.cls).factors ∧
      (n ∈ (p.reg.get i.cls).identity.getD [] ↔ identifying) := by
    rw [← hchosen] at hn
    obtain ⟨hn, hid⟩ := mem_filter.mp hn
    cases identifying <;> simp_all
  generalize hvalues : List.mapM (m := Except Fault) _ chosen = outcome
  obtain ⟨values, rfl⟩ : ∃ values, outcome = .ok values := by
    rw [← hvalues]
    refine ok_mapM_of_forall fun n hn => ?_
    obtain ⟨t, ht, -⟩ := h.data n (hmem n hn).1
    exact ⟨_, by rw [ht]⟩
  refine ⟨_, rfl, ?_⟩
  refine foldlRecOn (motive := fun acc => ∀ e ∈ acc, p.IsFactor i identifying e) values _ (by simp)
    fun acc hacc x hx e he => ?_
  obtain ⟨n, hn, hx⟩ := mem_of_mapM_ok hvalues hx
  obtain ⟨t, ht, hdata⟩ := h.data n (hmem n hn).1
  rw [ht] at hx
  cases hx
  split at he
  · exact hacc e he
  · rcases mem_setNamed he with rfl | he
    · exact ⟨hdata, n, (hmem n hn).1, rfl, (hmem n hn).2⟩
    · exact hacc e he

lemma Program.Equipped.identityOf (h : p.Equipped i f) :
    ∃ es, p.identityOf i = .ok (asEntries es) ∧ ∀ e ∈ es, p.IsFactor i true e := by
  obtain ⟨es, hes, hfactor⟩ := h.factorsOf true
  unfold Program.identityOf
  dsimp only
  rw [mergeStrategy_idname h.describes.strategy, h.identifier, hes]
  refine ⟨_, rfl, ?_⟩
  refine foldlRecOn (motive := fun acc => ∀ e ∈ acc, p.IsFactor i true e) (asEntries es) _ (by simp)
    fun acc hacc x hx e he => ?_
  obtain ⟨y, hy, rfl⟩ := mem_map.mp hx
  rcases mem_setNamed he with rfl | he
  · exact hfactor y hy
  · exact hacc e he

lemma nodesOf_asEntries (h : ∀ e ∈ es, p.IsData e.2) : p.nodesOf (.dict (asEntries es)) = .ok (.dict (asEntries es)) := by
  have hentries : p.nodesOfEntries (asEntries es) = .ok (asEntries es) := by
    induction es with
    | nil => rfl
    | cons e es ih =>
      have hkey : p.nodesOf (.text e.1) = .ok (.text e.1) := rfl
      have hrest := ih fun x hx => h x (.tail _ hx)
      unfold asEntries at hrest ⊢
      rw [map_cons, Program.nodesOfEntries, (h e (.head _)).nodesOf, hrest]
      rfl
  unfold Program.nodesOf
  rw [hentries]
  rfl

lemma readable_asEntries (h : ∀ e ∈ es, p.IsData e.2) : Readable p (asEntries es) := by
  intro x hx
  obtain ⟨e, he, rfl⟩ := mem_map.mp hx
  exact ⟨rfl, (h e he).usable⟩

lemma Program.Equipped.apart (h : p.Equipped i f) {ps : List (String × Thing)} (hes : ∀ e ∈ es, p.IsFactor i true e)
    (hps : ∀ e ∈ ps, p.IsFactor i false e) : Apart (asEntries es) (asEntries ps) := by
  intro x hx y hy hxy
  obtain ⟨e, he, rfl⟩ := mem_map.mp hx
  obtain ⟨e', he', rfl⟩ := mem_map.mp hy
  obtain ⟨-, n, hn, hname, hid⟩ := hes e he
  obtain ⟨-, n', hn', hname', hid'⟩ := hps e' he'
  have hlower : lower n = lower n' := by rw [← hname, ← hname']; exact hxy
  obtain rfl := inj_on_of_nodup_map h.describes.factors hn hn' hlower
  exact absurd (hid'.mp (hid.mpr rfl)) (by simp)

/-! ### The relations -/

/-- A relative with a node, or a collection. -/
def Program.Relatable (p : Program) (y : Relative) : Prop :=
  match y.place with
  | some _ => p.HasNode y.thing
  | none => ∃ v, y.thing = .var v ∧ p.isAccessible (.var v)

lemma Program.Relatable.onward (h : p.Relatable y) (hq : Onward p q) : q.Relatable y := by
  unfold Program.Relatable at h ⊢
  split at h
  · exact h.onward hq
  · obtain ⟨v, hv, hreach⟩ := h
    exact ⟨v, hv, hq.reach hreach⟩

lemma Program.Fits.relativesUnder {value : Thing} (h : p.Fits r value) (name : String) :
    ∃ rs, p.relativesUnder name value r = .ok rs ∧ ∀ y ∈ rs, p.Relatable y := by
  unfold Program.relativesUnder
  cases h with
  | nodes xs max list nodes =>
    rw [list]
    refine ⟨_, rfl, fun y hy => ?_⟩
    obtain ⟨⟨n, x⟩, hx, rfl⟩ := mem_map.mp hy
    exact nodes x (mem_of_getElem? (mem_withPlaces.mp hx))
  | collection v d target var collection reach =>
    rw [var, collection]
    refine ⟨_, rfl, fun y hy => ?_⟩
    rw [mem_singleton.mp hy]
    exact ⟨v, rfl, reach⟩

lemma identifying_works (isParent : Bool) (hy : p.HasNode y.thing) : ∃ g, identifying isParent y = .ok g := by
  have hknown := hy.isKnown
  unfold identifying
  cases hthing : y.thing <;> simp_all [Thing.isKnown]

section Parts

variable (h : p.Equipped i f) (isParent : Bool) (names : List String)

include h

lemma partUnder_works {e : String × Thing × Relation} (he : e ∈ f.side isParent) :
    ∃ part, p.partUnder (p.reg.get i.cls) names e.1 e.2.1 e.2.2 = .ok part ∧ ∀ y ∈ part.2, p.Relatable y := by
  obtain ⟨rs, hrs, hrelatable⟩ := (h.fits isParent e he).relativesUnder e.1
  have hsingle : (((p.reg.get i.cls).identity.getD []).contains e.1 && names.contains e.1 && p.isCollection e.2.1) = false := by
    by_cases hid : e.1 ∈ (p.reg.get i.cls).identity.getD []
    · obtain ⟨xs, hxs⟩ := h.single isParent e he hid
      simp [hxs, Program.isCollection]
    · simp [hid]
  unfold Program.partUnder
  dsimp only
  rw [hsingle, h.describes.unversioned, hrs]
  refine ⟨_, rfl, fun y hy => ?_⟩
  split at hy
  · cases hy
  · exact hrelatable y hy

/-- The relatives on one side: those that identify the instance, as relations, and the others. -/
lemma partRelatives_works : ∃ parts gs, p.partRelatives (p.reg.get i.cls) names (f.side isParent) = .ok parts ∧
    parts.1.mapM (identifying isParent ·) = .ok gs ∧ (∀ g ∈ gs, ∃ y : Link, g = y.given ∧ p.HasNode y.thing) ∧
    ∀ y ∈ parts.2, p.Relatable y := by
  obtain ⟨each, heach⟩ := ok_mapM_of_forall
    fun e he => by
      obtain ⟨part, hpart, -⟩ := partUnder_works h isParent names he
      exact ⟨part, hpart⟩
  have hparts : p.partRelatives (p.reg.get i.cls) names (f.side isParent) = .ok (each.flatMap (·.1), each.flatMap (·.2)) := by
    unfold Program.partRelatives
    rw [heach]
    rfl
  have hnode {e : String × Thing × Relation} {xs : List Thing} {n : Nat} {x : Thing} (he : e ∈ f.side isParent)
      (hid : e.1 ∈ (p.reg.get i.cls).identity.getD []) (hxs : relatives e.2.1 = .ok xs) (hx : xs[n]? = some x) : p.HasNode x := by
    obtain ⟨ys, hys⟩ := h.single isParent e he hid
    cases h.fits isParent e he with
    | nodes zs max list nodes =>
      rw [list] at hxs
      cases hxs
      exact nodes x (mem_of_getElem? hx)
    | collection v d target var =>
      rw [hys] at var
      cases var
  obtain ⟨gs, hgs⟩ := ok_mapM_of_forall fun y hy => by
    obtain ⟨e, he, hid, -, xs, n, x, hxs, hx, rfl⟩ := (mem_partRelatives hparts y).mp hy
    exact identifying_works isParent (hnode he hid hxs hx)
  refine ⟨_, gs, hparts, hgs, fun g hg => ?_, fun y hy => ?_⟩
  · obtain ⟨e, he, hid, -, xs, n, x, hxs, hx, rfl⟩ := (mem_identifying hparts hgs).mp hg
    exact ⟨_, rfl, hnode he hid hxs hx⟩
  · obtain ⟨part, hpart, hy⟩ := mem_flatMap.mp hy
    obtain ⟨e, he, hok⟩ := mem_of_mapM_ok heach hpart
    obtain ⟨part', hpart', hrelatable⟩ := partUnder_works h isParent names he
    cases hok.symm.trans hpart'
    exact hrelatable y hy

end Parts

lemma eachOnce_ne_nil (h : l ≠ []) : eachOnce l ≠ [] := by
  obtain ⟨g, l, rfl⟩ := exists_cons_of_ne_nil h
  obtain ⟨y, hy, -⟩ := exists_eachOnce (.head _)
  rintro hnil
  rw [hnil] at hy
  cases hy

lemma relations_work (h : ∀ g ∈ l, ∃ y : Link, g = y.given ∧ p.HasNode y.thing) :
    ∃ gs, ((eachOnce l).mapM fun r => do return { r with other := ← p.nodesOf r.other }) = .ok gs ∧
      ∀ g ∈ eachOnce gs, g.Mergeable p := by
  have hknown (g : GivenRelation) (hg : g ∈ l) : g.other.isKnown := by
    obtain ⟨y, rfl, hy⟩ := h g hg
    exact hy.isKnown
  have hnode (g : GivenRelation) (hg : g ∈ eachOnce l) : ∃ (y : Link) (v : VarId), p.isAccessible (.var v) ∧
      (do return { g with other := ← p.nodesOf g.other }) = Except.ok (ε := Fault) { y.given with other := .var v } := by
    obtain ⟨y, rfl, hy⟩ := h g (mem_of_eachOnce hknown hg)
    obtain ⟨v, hv, hreach⟩ := hy.nodesOf
    exact ⟨y, v, hreach, by rw [show y.given.other = y.thing from rfl, hv]; rfl⟩
  obtain ⟨gs, hgs⟩ := ok_mapM_of_forall
    fun g hg => by
      obtain ⟨y, v, -, hok⟩ := hnode g hg
      exact ⟨_, hok⟩
  have hmade (g : GivenRelation) (hg : g ∈ gs) : ∃ (y : Link) (v : VarId), p.isAccessible (.var v) ∧
      g = { y.given with other := .var v } := by
    obtain ⟨g', hg', hok⟩ := mem_of_mapM_ok hgs hg
    obtain ⟨y, v, hreach, hok'⟩ := hnode g' hg'
    exact ⟨y, v, hreach, Except.ok.inj (hok.symm.trans hok')⟩
  refine ⟨gs, hgs, fun g hg => ?_⟩
  have hg' := mem_of_eachOnce (fun g hg => by obtain ⟨y, v, -, rfl⟩ := hmade g hg; rfl) hg
  obtain ⟨y, v, hreach, rfl⟩ := hmade g hg'
  refine ⟨hreach, rfl, ⟨_, ident_eq _ _, fun e he => ?_⟩, rfl⟩
  obtain ⟨x, hx, rfl⟩ := mem_map.mp he
  refine ⟨rfl, ?_, nofun⟩
  rcases mem_append.mp hx with hx | hx
  · split at hx
    · rw [mem_singleton.mp hx]
      rfl
    · cases hx
  · rw [mem_singleton.mp hx]
    rfl

/-- What can be merged for an instance. -/
structure Program.Merges (p : Program) (d : Dependent) : Prop where
  properties : ∃ es ps, d.ident = .dict es ∧ d.properties = .dict ps ∧ Readable p es ∧ Readable p ps ∧ Apart es ps
  relations : ∀ g ∈ d.relations, g.Mergeable p
  others : ∀ x ∈ d.others, p.Relatable x.2

lemma Program.Equipped.dependent (h : p.Equipped i f) {absent : List Thing}
    (habsent : absences p.reg (p.reg.get i.cls) f = .ok absent) :
    ∃ d, p.dependent i f = .ok d ∧ p.Merges d ∧ d.absent = absent := by
  obtain ⟨above, aboveGiven, habove, haboveGiven, haboveNodes, haboveOthers⟩ :=
    partRelatives_works h true ((p.reg.get i.cls).parents.filterMap p.reg.memberName?)
  obtain ⟨below, belowGiven, hbelow, hbelowGiven, hbelowNodes, hbelowOthers⟩ :=
    partRelatives_works h false ((p.reg.get i.cls).children.filterMap p.reg.memberName?)
  obtain ⟨es, hes, hesFactor⟩ := h.identityOf
  obtain ⟨ps, hps, hpsFactor⟩ := h.factorsOf false
  obtain ⟨gs, hgs, hmergeable⟩ := relations_work fun g hg =>
    (mem_append.mp hg).elim (haboveNodes g) (hbelowNodes g)
  refine ⟨{ ident := .dict (asEntries es), properties := .dict (asEntries ps), relations := eachOnce gs, absent
            others := above.2.map (true, ·) ++ below.2.map (false, ·) }, ?_, ⟨⟨_, _, rfl, rfl, ?_, ?_, ?_⟩, hmergeable, ?_⟩, rfl⟩
  · have habove' : p.partRelatives (p.reg.get i.cls) ((p.reg.get i.cls).parents.filterMap p.reg.memberName?) f.parents
        = .ok above := habove
    have hbelow' : p.partRelatives (p.reg.get i.cls) ((p.reg.get i.cls).children.filterMap p.reg.memberName?) f.children
        = .ok below := hbelow
    unfold Program.dependent
    rw [bind_of_ok habove', bind_of_ok hbelow', bind_of_ok haboveGiven, bind_of_ok hbelowGiven, bind_of_ok habsent,
      bind_of_ok hes, bind_of_ok hps, bind_of_ok (nodesOf_asEntries fun e he => (hesFactor e he).1),
      bind_of_ok (nodesOf_asEntries fun e he => (hpsFactor e he).1), bind_of_ok hgs]
    rfl
  · exact readable_asEntries fun e he => (hesFactor e he).1
  · exact readable_asEntries fun e he => (hpsFactor e he).1
  · exact h.apart hesFactor hpsFactor
  · intro x hx
    rcases mem_append.mp hx with hx | hx
    · obtain ⟨y, hy, rfl⟩ := mem_map.mp hx
      exact haboveOthers y hy
    · obtain ⟨y, hy, rfl⟩ := mem_map.mp hx
      exact hbelowOthers y hy

/-! ## Merging -/

lemma labels_ne_nil {reg : Registry} (h : checkLabels (.list ((reg.labels cls).map .text)) = .ok ls) : ls ≠ [] := by
  have hpos : 0 < (reg.labels cls).length := by
    unfold labels ancestry
    split <;> simp
  have hlen := (mapM_ok (show ((reg.labels cls).map Thing.text).mapM checkLabel = .ok ls from h)).length_eq
  refine ne_nil_of_length_pos ?_
  rw [length_map] at hlen
  omega

section Merging

variable {rule : Rule} (hrule : Rule.ofValue p.rule = .ok rule) {d : Dependent}

include hrule

lemma works_relateOther {node : VarId} {isParent : Bool} (h : p.Relatable y) :
    Works p (relateOther node isParent y) (fun _ _ => True) := by
  have hread (q : Program) (place : Thing) (hplace : Usable q place) :
      Readable q (if y.ordered then [placeEntry place, nameEntry y.name] else [nameEntry y.name]) := by
    have hname : Usable q (.text y.name) := ⟨rfl, nofun⟩
    cases y.ordered with
    | false => simpa [Readable, nameEntry] using ⟨rfl, hname⟩
    | true => simpa [Readable, nameEntry, placeEntry] using ⟨⟨rfl, hplace⟩, rfl, hname⟩
  have hnone (q : Program) : Readable q [] := nofun
  have hapart (es : List (Thing × Thing)) : Apart es [] := nofun
  unfold relateOther
  unfold Program.Relatable at h
  cases hplace : y.place with
  | none =>
    rw [hplace] at h
    obtain ⟨v, hv, hreach⟩ := h
    rw [hv]
    exact works_relateAll hrule isParent node hreach fun place =>
      ⟨_, _, rfl, hapart _, fun q hq => ⟨hread q _ ⟨rfl, fun _ _ => hq⟩, hnone q⟩⟩
  | some n =>
    rw [hplace] at h
    obtain ⟨v, hv, -⟩ := h.nodesOf
    have hsome : y.thing.isNothing = false := by
      have hknown := h.isKnown
      cases hthing : y.thing <;> simp_all [Thing.isKnown, Thing.isNothing]
    have hcount : Usable p (placeOf n) := ⟨rfl, fun _ hvar => by cases hvar⟩
    rw [hsome]
    exact works_relate hrule isParent node hv (hread p _ hcount) (hnone p) (hapart _)

lemma works_mergeWithRelations (hr : rule ≠ .trackAndFlag)
    (hlabels : checkLabels (.list ((p.reg.labels i.cls).map .text)) = .ok ls) (hd : p.dependent i f = .ok d) (hm : p.Merges d)
    (hsome : d.relations ≠ []) (habsent : ∀ t ∈ d.absent, IsAbsence p t) :
    Works p (mergeWithRelations i f) (fun v q => ∃ s ∈ q.statements.toList, ∃ o, Extends o q ∧
      s.MergesWith o v d.relations d.absent) := by
  obtain ⟨es, ps, hes, hps, hesRead, hpsRead, hapart⟩ := hm.properties
  have hmerge : Works p (mergeNode (.list ((p.reg.labels i.cls).map .text)) d.ident d.properties d.relations d.absent p.rule)
      (fun _ _ => True) := by
    unfold mergeNode mergeIdentified
    have hempty : d.relations.isEmpty = false := by simpa using hsome
    rw [hempty, hes, hps]
    exact .bind (works_mergeDependent hrule hlabels (labels_ne_nil hlabels) hesRead hpsRead hapart hm.relations hsome
      habsent hr) fun _ _ _ _ => .pure trivial
  have hworks : Works p (mergeWithRelations i f) (fun _ _ => True) := by
    refine .get_bind (Works.lift_bind hd (hmerge.bind fun node q hq _ => ?_))
    refine .bind (Works.forM fun x hx o ho => ?_) fun _ _ _ _ => .pure trivial
    have hon := hq.trans ho
    exact works_relateOther (hon.kept.rule ▸ hrule) ((hm.others x hx).onward hon)
  refine (hworks.and_ok fun v q hok => mergeWithRelations_ok hok).mono fun v q _ ⟨_, d', hd', hs⟩ => ?_
  cases hd.symm.trans hd'
  exact hs

omit hrule in
lemma after_askStrategy (h : Describes p.reg cls) (looked : Bool) :
    after (onRegistry (askIdentity cls looked mergeStrategy)) p = (.ok .nodeWithRelations, p) := by
  have hsettle : p.reg.settle = .ok p.reg := by
    unfold settle
    rw [h.settled]
    rfl
  have hask : after (askIdentity cls looked mergeStrategy) p.reg = (.ok .nodeWithRelations, p.reg) := by
    rw [after_askIdentity, hsettle]
    dsimp only
    rw [h.strategy]
    split <;> rfl
  rw [after_onRegistry]
  change ((after (askIdentity cls looked mergeStrategy) p.reg).1,
    { p with reg := (after (askIdentity cls looked mergeStrategy) p.reg).2 }) = _
  rw [hask]

lemma works_writeInstance (h : Describes p.reg i.cls) (hr : rule ≠ .trackAndFlag) (hd : p.dependent i f = .ok d)
    (hm : p.Merges d) (hsome : d.relations ≠ []) (habsent : ∀ t ∈ d.absent, IsAbsence p t) :
    Works p (writeInstance i f) (fun node q => ∃ v, node = some v ∧ ∃ s ∈ q.statements.toList, ∃ o, Extends o q ∧
      s.MergesWith o v d.relations d.absent) := by
  obtain ⟨ls, hls⟩ := h.labels
  refine Works.ready fun hp => .get_bind ?_
  rw [hp.isOpen]
  refine .get_bind ?_
  refine .bind (Q := fun strategy q => strategy = .nodeWithRelations ∧ q = p)
    (fun hp => ⟨_, p, after_askStrategy h _, hp, .refl p, rfl, rfl⟩) fun strategy q _ ⟨hs, hq⟩ => ?_
  subst hs hq
  exact (works_mergeWithRelations hrule hr hls hd hm hsome habsent).bind fun v _ _ hs => .pure ⟨v, rfl, hs⟩

end Merging

end SurveyGraph.Write
