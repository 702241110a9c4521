import SurveyGraph.Proofs.SoundClasses
/-!
# Schemas

A schema is made of declarations that are accepted one after the other. Each adds a class under the next number that extends
classes with smaller numbers, under names in small letters; the others keep everything but their members (`Accepted`). So
every class lies below the root (`Orderly.mem_subclasses_root`).
-/
open Relation List

namespace SurveyGraph

namespace Declaration

open Registry (Settles)

variable {reg : Registry} {self : ClassId} {d : Declaration}

lemma keeps_passMembers : ∀ (fuel : Nat) (ms : List Member) (p : Progress), Keeps Settles (passMembers self fuel ms p)
  | 0, _, p => Keeps.pure p
  | _ + 1, [], p => Keeps.pure p
  | fuel + 1, m :: rest, p => by
    cases m with
    | name s => exact Keeps.refuse _
    | cls c => exact .get_bind fun _ => keeps_passMembers fuel rest _
    | rel r =>
      refine .get_bind fun _ => Keeps.bind (fun _ => leads_note _) fun _ => .get_bind fun _ => ?_
      split
      · exact Keeps.refuse _
      · exact keeps_passMembers fuel _ _

lemma leads_complete_same (reg : Registry) (self : ClassId) (draft : Class) (children parents : List Member) :
    Leads Settles reg (complete self draft children parents) (fun k _ => k.bases = draft.bases ∧
      k.singularName = draft.singularName ∧ k.pluralName = draft.pluralName) := by
  refine (keeps_passMembers _ children {} reg).bind fun below reg' _ _ => ?_
  refine (keeps_passMembers _ parents { names := below.names } reg').bind fun above reg'' _ _ => ?_
  exact Leads.get_bind (Leads.lift_bind fun _ _ => Leads.pure ⟨rfl, rfl, rfl⟩)

/-- Names that have been checked are in small letters, and differ. -/
lemma checkNames_ok {singular plural : String} (h : checkNames d singular plural = .ok ()) :
    Text.Letter.lower singular = singular ∧ Text.Letter.lower plural = plural ∧ plural ≠ singular := by
  unfold checkNames at h
  obtain ⟨hplural, h⟩ := unless_ok h
  obtain ⟨hsingular, h⟩ := unless_ok h
  obtain ⟨hne, -⟩ := unless_ok h
  simp only [bne_iff_ne, ne_eq, not_not] at hplural hsingular
  exact ⟨hsingular.symm, hplural.symm, by simpa using hne⟩

end Declaration

namespace Registry

open Declaration

variable {reg reg' t : Registry} {d : Declaration} {c n : Nat} {ds : List Declaration}

/-- A class was added under the next number. It extends classes that are there, with names in small letters;
these keep everything but their members. -/
structure Accepted (reg : Registry) (d : Declaration) (reg' : Registry) : Prop where
  size : reg'.classes.size = reg.classes.size + 1
  old : ∀ c < reg.classes.size, reg'.get c = { reg.get c with
    parents := (reg'.get c).parents, children := (reg'.get c).children, relativeNames := (reg'.get c).relativeNames }
  length : (reg'.get reg.classes.size).bases.length = d.bases.length
  bases : ∀ b ∈ (reg'.get reg.classes.size).bases, b < reg.classes.size
  singular : Text.Letter.lower (reg'.get reg.classes.size).singularName = (reg'.get reg.classes.size).singularName
  plural : Text.Letter.lower (reg'.get reg.classes.size).pluralName = (reg'.get reg.classes.size).pluralName

lemma length_basesNamed {names : List String} {bs : List ClassId}
    (h : after (names.mapM baseNamed) reg = (.ok bs, t)) : bs.length = names.length := by
  induction names generalizing reg bs t with
  | nil =>
    cases h
    rfl
  | cons name names ih =>
    rw [mapM_cons] at h
    obtain ⟨b, t₁, _, h⟩ := after_bind_ok h
    obtain ⟨rest, t₂, hrest, h⟩ := after_bind_ok h
    cases h
    exact congrArg (· + 1) (ih hrest)

lemma Alike.accepted_old {reg'' : Registry} (h : Alike reg reg')
    (hold : ∀ c < reg'.classes.size, reg''.get c = { reg'.get c with
      parents := (reg''.get c).parents, children := (reg''.get c).children, relativeNames := (reg''.get c).relativeNames }) :
    ∀ c < reg.classes.size, reg''.get c = { reg.get c with
      parents := (reg''.get c).parents, children := (reg''.get c).children, relativeNames := (reg''.get c).relativeNames } := by
  intro c hc
  rw [hold c (h.size ▸ hc), h.get c]

lemma finish_final {draft : Draft} (h : after (finish reg.classes.size draft) reg = (.ok (), t)) :
    ∃ final reg', after (complete reg.classes.size draft.cls draft.children draft.parents) (reg.pushed draft.cls) =
      (.ok final, reg') ∧ t = reg'.withFinal final := by
  rcases finish_cases reg draft with ⟨final, reg', hm, hfinish⟩ | ⟨e, reg', _, hfinish⟩
  · rw [hfinish] at h
    exact ⟨final, reg', hm, (Prod.mk.inj h).2.symm⟩
  · rw [hfinish] at h
    cases h

lemma finish_ok {draft : Draft} (h : after (finish reg.classes.size draft) reg = (.ok (), t)) :
    t.classes.size = reg.classes.size + 1 ∧ (∀ c < reg.classes.size, t.get c = { reg.get c with
      parents := (t.get c).parents, children := (t.get c).children, relativeNames := (t.get c).relativeNames }) ∧
    (t.get reg.classes.size).bases = draft.cls.bases ∧
    (t.get reg.classes.size).singularName = draft.cls.singularName ∧
    (t.get reg.classes.size).pluralName = draft.cls.pluralName := by
  obtain ⟨final, reg', hm, rfl⟩ := finish_final h
  obtain ⟨hsettles, hbases, hsingular, hplural⟩ := (leads_complete_same _ _ _ _ _).of_ok hm
  rw [get_withFinal_self hsettles]
  refine ⟨by unfold withFinal; simp [size_of_pushed hsettles], fun c hc => ?_, hbases, hsingular, hplural⟩
  rw [get_withFinal hsettles hc, (alike_of_settles hsettles).get, get_pushed reg _ hc]

/-- An accepted declaration: its members are made in registries like the first, and the class is completed in
the last. -/
structure Steps (reg : Registry) (d : Declaration) (reg' : Registry) (bases : List ClassId)
    (parents children produces : Option (List Member)) (draft : Draft) where
  (reg₀ reg₁ reg₂ reg₃ : Registry)
  alike₀ : Alike reg reg₀
  alike₁ : Alike reg reg₁
  alike : Alike reg reg₃
  bases_eq : after (d.bases.mapM baseNamed) reg = (.ok bases, reg₀)
  parents_eq : after (d.parents.mapM (·.mapM makeMember)) reg₀ = (.ok parents, reg₁)
  children_eq : after (d.children.mapM (·.mapM makeMember)) reg₁ = (.ok children, reg₂)
  draft_eq : d.draft reg₃ bases parents children produces = .ok draft
  finish_eq : after (finish reg₃.classes.size draft) reg₃ = (.ok (), reg')

lemma declare_steps (hpos : 0 < reg.classes.size) (h : after (declare d) reg = (.ok c, reg')) :
    ∃ bases parents children produces draft, ∃ st : Steps reg d reg' bases parents children produces draft, c = st.reg₃.classes.size := by
  obtain ⟨bases, reg₀, hbases, h⟩ := after_bind_ok h
  obtain ⟨hs₀, -⟩ := (leads_basesNamed hpos d.bases).of_ok hbases
  have hn₀ := (alike_of_settles hs₀).size
  have hparts : ∀ {t u : Registry} {ds : Option (List MemberDecl)} {ms : Option (List Member)},
      0 < t.classes.size → after (ds.mapM (·.mapM makeMember)) t = (.ok ms, u) → ReflTransGen Settles t u :=
    fun hpos hm => ((leads_makeMembers hpos _).of_ok hm).1
  obtain ⟨parents, reg₁, hparents, h⟩ := after_bind_ok h
  have hs₁ := hparts (by omega) hparents
  have hn₁ := (alike_of_settles hs₁).size
  obtain ⟨children, reg₂, hchildren, h⟩ := after_bind_ok h
  have hs₂ := hparts (by omega) hchildren
  have hn₂ := (alike_of_settles hs₂).size
  obtain ⟨produces, reg₃, hproduces, h⟩ := after_bind_ok h
  have hs₃ := hparts (by omega) hproduces
  have halike := alike_of_settles (((hs₀.trans hs₁).trans hs₂).trans hs₃)
  rw [after_get_bind] at h
  obtain ⟨draft, hdraft, h⟩ := after_lift_ok h
  obtain ⟨_, t, hfinish, h⟩ := after_bind_ok h
  cases h
  exact ⟨bases, parents, children, produces, draft, ⟨reg₀, reg₁, reg₂, reg₃, alike_of_settles hs₀,
    alike_of_settles (hs₀.trans hs₁), halike, hbases, hparents, hchildren, hdraft, hfinish⟩, rfl⟩

lemma declare_ok (hpos : 0 < reg.classes.size) (h : after (declare d) reg = (.ok c, reg')) :
    c = reg.classes.size ∧ Accepted reg d reg' := by
  obtain ⟨bases, _, _, _, draft, st, rfl⟩ := declare_steps hpos h
  have hlt := ((leads_basesNamed hpos d.bases).of_ok st.bases_eq).2
  obtain ⟨hsize, hold, hbases', hsingular, hplural⟩ := finish_ok st.finish_eq
  obtain ⟨hdbases, hnames, -⟩ := draft_ok st.draft_eq
  obtain ⟨hlowS, hlowP, -⟩ := checkNames_ok hnames
  have hn := st.alike.size
  refine ⟨hn, by rw [hsize, hn], st.alike.accepted_old hold, ?_, ?_, ?_, ?_⟩
  · rw [← hn, hbases', hdbases]
    exact length_basesNamed st.bases_eq
  · rw [← hn, hbases', hdbases, hn]
    exact hlt
  · rw [← hn, hsingular, hlowS]
  · rw [← hn, hplural, hlowP]

/-! ## Schemas -/

/-- Classes declared one after another, each as one that extends others, none refused. Relations may be
resolved in between. -/
inductive Schema : Registry → Prop
  | empty : Schema Registry.empty
  | declares {reg reg' : Registry} {d : Declaration} {c : ClassId} (before : Schema reg) (bases : d.bases ≠ [])
      (accepted : after (declare d) reg = (.ok c, reg')) : Schema reg'
  | settles {reg reg' : Registry} (before : Schema reg) (settled : reg.settle = .ok reg') : Schema reg'

lemma Schema.declareAll (h : Schema reg) (hbases : ∀ d ∈ ds, d.bases ≠ []) {cs : List ClassId}
    (hall : after (ds.mapM declare) reg = (.ok cs, reg')) : Schema reg' := by
  induction ds generalizing reg cs with
  | nil =>
    cases hall
    exact h
  | cons d ds ih =>
    rw [mapM_cons] at hall
    obtain ⟨c, t, hd, hall⟩ := after_bind_ok hall
    obtain ⟨cs, u, hds, hall⟩ := after_bind_ok hall
    cases hall
    exact ih (.declares h (hbases d (by simp)) hd) (fun e he => hbases e (by simp [he])) hds

lemma Schema.ofDeclarations (hbases : ds.all (!·.bases.isEmpty) = true)
    (h : gives (after (ds.mapM declare) Registry.empty).1 (fun _ => true) = true) :
    Schema (after (ds.mapM declare) Registry.empty).2 := by
  obtain ⟨cs, hcs, _⟩ := ok_of_gives h
  exact Schema.empty.declareAll (by simpa using hbases) (Prod.ext hcs rfl)

/-- Every class but the root extends classes with smaller numbers, and names are in small letters. -/
structure Orderly (reg : Registry) : Prop where
  root : 0 < reg.classes.size
  bases : ∀ c, 0 < c → c < reg.classes.size → (reg.get c).bases ≠ [] ∧ ∀ b ∈ (reg.get c).bases, b < c
  singular : ∀ c, Text.Letter.lower (reg.get c).singularName = (reg.get c).singularName
  plural : ∀ c, Text.Letter.lower (reg.get c).pluralName = (reg.get c).pluralName

lemma Orderly.alike (h : Orderly reg) (ha : Alike reg reg') : Orderly reg' where
  root := by
    rw [ha.size]
    exact h.root
  bases c hpos hc := by
    rw [ha.get c]
    exact h.bases c hpos (ha.size ▸ hc)
  singular c := by
    rw [ha.get c]
    exact h.singular c
  plural c := by
    rw [ha.get c]
    exact h.plural c

lemma Orderly.accepted (h : Orderly reg) (ha : Accepted reg d reg') (hbases : d.bases ≠ []) : Orderly reg' := by
  have hcases : ∀ c, c < reg.classes.size ∨ c = reg.classes.size ∨ reg'.get c = rootClass := by
    intro c
    rcases Nat.lt_trichotomy c reg.classes.size with hc | hc | hc
    · exact .inl hc
    · exact .inr (.inl hc)
    · exact .inr (.inr (get_of_size_le (by rw [ha.size]; omega)))
  refine ⟨by rw [ha.size]; omega, fun c hpos hc => ?_, fun c => ?_, fun c => ?_⟩
  · rw [ha.size] at hc
    rcases Nat.lt_succ_iff_lt_or_eq.mp hc with hc | rfl
    · rw [ha.old c hc]
      exact h.bases c hpos hc
    · refine ⟨fun hnil => hbases ?_, ha.bases⟩
      exact length_eq_zero_iff.mp (ha.length.symm.trans (by rw [hnil]; rfl))
  · rcases hcases c with hc | rfl | hroot
    · rw [ha.old c hc]
      exact h.singular c
    · exact ha.singular
    · rw [hroot]
      decide +kernel
  · rcases hcases c with hc | rfl | hroot
    · rw [ha.old c hc]
      exact h.plural c
    · exact ha.plural
    · rw [hroot]
      decide +kernel

lemma Schema.orderly (h : Schema reg) : Orderly reg := by
  induction h with
  | empty =>
    have hget : ∀ c, Registry.empty.get c = rootClass := by
      intro c
      cases c <;> rfl
    refine ⟨by decide, fun c hpos hc => ?_, fun c => ?_, fun c => ?_⟩
    · exact absurd hc (by change ¬c < 1; omega)
    · rw [hget]
      decide +kernel
    · rw [hget]
      decide +kernel
  | declares _ hbases haccepted ih => exact ih.accepted (declare_ok ih.root haccepted).2 hbases
  | settles _ hsettled ih => exact ih.alike (settle_alike hsettled)

/-! ## Below the root -/

lemma subclassesWithin_mono {b : ClassId} (hc : c ∈ reg.subclassesWithin n b) :
    ∀ {m : Nat}, n ≤ m → c ∈ reg.subclassesWithin m b := by
  induction n generalizing b with
  | zero => cases hc
  | succ n ih =>
    intro m hm
    obtain ⟨m, rfl⟩ : ∃ k, m = k + 1 := ⟨m - 1, by omega⟩
    obtain ⟨s, hs, hmem⟩ := mem_flatMap.mp hc
    refine mem_flatMap.mpr ⟨s, hs, ?_⟩
    rcases mem_cons.mp hmem with rfl | hmem
    · exact .head _
    · exact .tail _ (ih hmem (by omega))

lemma subclassesWithin_step {a b : ClassId} (hb : b ∈ reg.subclassesWithin n a)
    (hc : c ∈ reg.directSubclasses b) : c ∈ reg.subclassesWithin (n + 1) a := by
  induction n generalizing a with
  | zero => cases hb
  | succ n ih =>
    obtain ⟨s, hs, hmem⟩ := mem_flatMap.mp hb
    refine mem_flatMap.mpr ⟨s, hs, .tail _ ?_⟩
    rcases mem_cons.mp hmem with rfl | hmem
    · exact mem_flatMap.mpr ⟨c, hc, .head _⟩
    · exact ih hmem

lemma mem_declared : c ∈ reg.declared ↔ 0 < c ∧ c < reg.classes.size := by
  unfold declared
  constructor
  · intro h
    obtain ⟨i, hi, rfl⟩ := mem_iff_getElem.mp h
    simp only [length_drop, length_range, getElem_drop, getElem_range] at hi ⊢
    omega
  · rintro ⟨hpos, hlt⟩
    refine mem_iff_getElem.mpr ⟨c - 1, by simp; omega, ?_⟩
    simp only [getElem_drop, getElem_range]
    omega

lemma Orderly.mem_subclasses_root (h : Orderly reg) (hc : c ∈ reg.declared) : c ∈ reg.subclasses Registry.root := by
  have hwithin : ∀ c : Nat, c ∈ reg.declared → c ∈ reg.subclassesWithin c Registry.root := by
    intro c
    induction c using Nat.strongRecOn with
    | ind c ih =>
      intro hc
      obtain ⟨hpos, hlt⟩ := mem_declared.mp hc
      obtain ⟨hne, hbases⟩ := h.bases c hpos hlt
      obtain ⟨b, hb⟩ := exists_mem_of_ne_nil _ hne
      have hdirect : c ∈ reg.directSubclasses b := mem_filter.mpr ⟨hc, contains_iff_mem.mpr hb⟩
      have hbc := hbases b hb
      by_cases hroot : b = Registry.root
      · subst hroot
        obtain ⟨m, rfl⟩ : ∃ m, c = m + 1 := ⟨c - 1, by omega⟩
        exact mem_flatMap.mpr ⟨m + 1, hdirect, .head _⟩
      · have hbpos : 0 < b := Nat.pos_of_ne_zero hroot
        have hdeclared : b ∈ reg.declared := mem_declared.mpr ⟨hbpos, hbc.trans hlt⟩
        exact subclassesWithin_mono (subclassesWithin_step (ih b hbc hdeclared) hdirect) hbc
  exact subclassesWithin_mono (hwithin c hc) (Nat.le_of_lt (mem_declared.mp hc).2)

end Registry

end SurveyGraph
