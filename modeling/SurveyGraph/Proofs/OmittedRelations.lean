import SurveyGraph.Proofs.InstanceSucceeds
/-!
# Identifying relations that are left out

An instance may do without optional relations that identify it. The merge then rules out each of them (`create_rules_out`),
as long as what is left out are parents and one identifying relation at least is given (`exists_omission_refused`).
-/
open List

namespace SurveyGraph.Write

variable {α : Type} {p q : Program} {cls : ClassId} {spec : Specification} {r : Relation} {k name : String}
  {given : List (String × Thing)}

/-! ## The relations that are left out -/

/-- The name under which a relation is recorded. -/
def recordedName (k : String) (r : Relation) : String :=
  match r.idname with
  | some "" | none => k
  | some s => s

/-- The optional parent under a name, if it is not given. -/
def omittedUnder (reg : Registry) (cls : ClassId) (given : List (String × Thing)) (k : String) : Option (String × Relation) :=
  if (relativesGiven (reg.specification cls) given k).isSome then none
  else ((relationUnder reg (reg.get cls).parents k).filter (·.isOptional)).map (k, ·)

/-- The optional parents that identify an instance and are not given. -/
def omitted (reg : Registry) (cls : ClassId) (given : List (String × Thing)) : List (String × Relation) :=
  ((reg.get cls).identity.getD []).filterMap (omittedUnder reg cls given)

/-- That an instance is not related to a parent. -/
def withoutParent (reg : Registry) (x : String × Relation) : Thing :=
  .tuple [.text (reg.targetName x.2.target), .plain relationType, .plain (.bool true), .dict [nameEntry (recordedName x.1 x.2)]]

lemma isSome_relativesGiven (k : String) : (((filling spec given).parents.lookup k).isSome ||
    ((filling spec given).children.lookup k).isSome) = (relativesGiven spec given k).isSome := by
  have hparents : (filling spec given).parents.lookup k = _ := given_side true k
  have hchildren : (filling spec given).children.lookup k = _ := given_side false k
  rw [hparents, hchildren]
  cases hx : relativesGiven spec given k with
  | none => simp
  | some x =>
    obtain ⟨m, value, hm, -⟩ := relativesGiven_eq_some hx
    unfold relativeUnder at hm
    split at hm
    · rename_i hc
      simp [asksFor, hc]
    · split at hm
      · cases hm
      · simp [asksFor, hm]

section Omitted

variable {reg : Registry} (hresolved : ∀ m ∈ (reg.get cls).parents ++ (reg.get cls).children, (Registry.memberClass? m).isSome)

include hresolved

lemma absence_ok {isParent : Bool} (hr : relationUnder reg (reg.get cls).parents k = some r) :
    absence reg (some r) k isParent r = .ok (.tuple [.text (reg.targetName r.target), .plain relationType,
      .plain (.bool isParent), .dict [nameEntry (recordedName k r)]]) := by
  have hmem : Member.rel r ∈ (reg.get cls).parents := by
    obtain ⟨m, hm, hr⟩ := Option.bind_eq_some_iff.mp hr
    have hfound := mem_of_find?_eq_some hm
    cases m with
    | rel r' =>
      cases hr
      exact mem_reverse.mp hfound
    | cls c | name s => cases hr
  have hsome := hresolved _ (mem_append_left _ hmem)
  obtain ⟨_, target⟩ := r
  cases target with
  | awaiting s => cases hsome
  | cls d => rfl

lemma absencesUnder_ok (hchild : ∀ r, relationUnder reg (reg.get cls).children k = some r → r.isOptional = false) :
    absencesUnder reg (reg.get cls) k =
      .ok (((relationUnder reg (reg.get cls).parents k).filter (·.isOptional)).toList.map fun r => withoutParent reg (k, r)) := by
  have hbelow : (relationUnder reg (reg.get cls).children k).filter (·.isOptional) = none := by
    rw [Option.filter_eq_none_iff]
    intro r hr
    simp [hchild r hr]
  unfold absencesUnder
  dsimp only
  rw [hbelow]
  cases habove : relationUnder reg (reg.get cls).parents k with
  | none => rfl
  | some r =>
    cases hopt : r.isOptional with
    | false =>
      rw [Option.filter_some_neg (by simp [hopt])]
      rfl
    | true =>
      rw [Option.filter_some_pos hopt, Option.toList_some, mapM_cons, absence_ok hresolved habove]
      rfl

lemma absences_ok
    (hchildren : ∀ k ∈ (reg.get cls).identity.getD [], relativesGiven (reg.specification cls) given k = none →
      ∀ r, relationUnder reg (reg.get cls).children k = some r → r.isOptional = false) :
    absences reg (reg.get cls) (filling (reg.specification cls) given) =
      .ok ((omitted reg cls given).map (withoutParent reg)) := by
  have heach (k : String) (hk : k ∈ (reg.get cls).identity.getD []) :
      (if ((filling (reg.specification cls) given).parents.lookup k).isSome ||
          ((filling (reg.specification cls) given).children.lookup k).isSome then .ok []
        else absencesUnder reg (reg.get cls) k) = .ok ((omittedUnder reg cls given k).toList.map (withoutParent reg)) := by
    rw [isSome_relativesGiven]
    unfold omittedUnder
    cases hgiven : relativesGiven (reg.specification cls) given k with
    | some x => rfl
    | none =>
      rw [if_neg (by simp), absencesUnder_ok hresolved (hchildren k hk hgiven)]
      cases (relationUnder reg (reg.get cls).parents k).filter (·.isOptional) <;> rfl
  unfold absences omitted
  rw [bind_of_ok (mapM_of_forall_ok heach), filterMap_eq_flatMap_toList, map_flatMap]
  rfl

end Omitted

/-! ## Creating -/

lemma isAbsence_withoutParent {reg : Registry} (x : String × Relation) : IsAbsence p (withoutParent reg x) := by
  refine ⟨_, _, _, _, rfl, fun e he => ?_⟩
  obtain rfl := mem_singleton.mp he
  exact ⟨rfl, rfl, nofun⟩

/-- A relation that a node must not have: to a parent under a name not given. -/
def AntiRelation.RulesOut (q : Program) (x : String × Relation) (a : AntiRelation) : Prop :=
  a.label = .text (q.reg.targetName x.2.target) ∧ a.type = .plain relationType ∧ a.inward = true ∧
    ∃ es, a.properties = .entries es ∧ q.contents es = [("relation_id", .data (.text (recordedName x.1 x.2)))]

lemma rulesOut_of_madeOf {o : Program} {x : String × Relation} {a : AntiRelation} (h : a.MadeOf o (withoutParent q.reg x))
    (hq : Extends o q) : a.RulesOut q x := by
  obtain ⟨inward, properties, heach, hinward, hread⟩ := h
  obtain ⟨hlabel, htype, rfl, rfl⟩ : Thing.text (q.reg.targetName x.2.target) = a.label ∧ .plain relationType = a.type ∧
      .plain (.bool true) = inward ∧ .dict [nameEntry (recordedName x.1 x.2)] = properties := by
    simpa [withoutParent, Thing.each, Thing.sequence?] using heach
  refine ⟨hlabel.symm, htype.symm, hinward, ?_⟩
  cases hprops : a.properties with
  | given v =>
    rw [hprops] at hread
    cases hread
  | entries es =>
    rw [hprops] at hread
    have hvalues : (Properties.entries es).ReadFrom o
        (.dict ([("relation_id", Value.text (recordedName x.1 x.2))].map fun x => (.text x.1, .plain x.2))) := hread
    obtain ⟨hsize, hcontents⟩ := contents_of_readFrom hvalues
    exact ⟨es, rfl, (contents_extends hsize hq).trans hcontents⟩

lemma Program.Legible.addInstance (h : p.Legible) (x : Instance) :
    ({ p with instances := p.instances.push x } : Program).Legible :=
  ⟨h.time, h.hints, h.data, h.blocks, h.mentioned, h.writable⟩

lemma relations_ne_nil {i : Instance} {d : Dependent}
    (hd : p.dependent i (filling (p.reg.specification i.cls) given) = .ok d) (hsome : givenLinks p.reg i.cls given ≠ []) :
    d.relations ≠ [] := by
  obtain ⟨l, gs, hl, hgs, hrelations⟩ := dependent_ok hd
  obtain ⟨y, hy⟩ := exists_mem_of_ne_nil _ hsome
  have hmem : y.given ∈ l := (hl _).mpr ⟨y, hy, rfl⟩
  have hpos := length_pos_of_ne_nil (eachOnce_ne_nil (ne_nil_of_mem hmem))
  rw [(mapM_ok hgs).length_eq] at hpos
  rw [hrelations]
  exact eachOnce_ne_nil (ne_nil_of_length_pos hpos)

/-- An instance with what its class asks for and a relation that identifies it is created and written down,
whatever optional parents it lacks: each is ruled out once, by label, direction and name. -/
theorem create_rules_out {rule : Rule} (named : List (String × Thing)) (hp : p.Ready)
    (hrule : Rule.ofValue p.rule = .ok rule) (hr : rule ≠ .trackAndFlag) (h : p.Accepts cls (named.filter (!·.2.isNothing)))
    (hsome : givenLinks p.reg cls (named.filter (!·.2.isNothing)) ≠ []) (hchildren : ∀ k ∈ (p.reg.get cls).identity.getD [],
      relativesGiven (p.reg.specification cls) (named.filter (!·.2.isNothing)) k = none →
        ∀ r, relationUnder p.reg (p.reg.get cls).children k = some r → r.isOptional = false) :
    ∃ i q, after (create cls { named }) p = (.ok i, q) ∧ q.Ready ∧
      (∀ tag asLines, ∃ text q', after (render tag asLines .none .none) q = (.ok text, q')) ∧
      ∃ node, (q.getInstance i).node = some node ∧ ∃ s ∈ q.statements.toList, s.merged? = some node ∧
        List.Forall₂ (AntiRelation.RulesOut q) (omitted p.reg cls (named.filter (!·.2.isNothing))) s.ruledOut := by
  obtain ⟨⟨x, f⟩, p₁, hfilled, hp₁, hon, hcls, hid, hfields, hf⟩ := works_fillInstance h.describes h hp
  subst hcls
  have hreg := hon.kept.reg
  have hequipped := (h.equipped rfl hid hfields).onward hp hon
  rw [← hf] at hequipped
  have habsences := absences_ok h.describes.resolved hchildren
  rw [← hf, ← hreg] at habsences
  obtain ⟨d, hd, hmerges, habsent⟩ := hequipped.dependent habsences
  have hrelations : d.relations ≠ [] := by
    rw [hf, ← hreg] at hd
    exact relations_ne_nil hd (hreg ▸ hsome)
  have hout : ∀ t ∈ d.absent, IsAbsence p₁ t := by
    rw [habsent]
    intro t ht
    obtain ⟨y, -, rfl⟩ := List.mem_map.mp ht
    exact isAbsence_withoutParent y
  obtain ⟨_, p₂, hwritten, hp₂, hon₂, v, rfl, s, hs, o, ho, hmade⟩ := works_writeInstance (hon.kept.rule ▸ hrule)
    hequipped.describes hr hd hmerges hrelations hout hp₁
  have hlegible := hp₂.legible.addInstance { x with node := some v }
  refine ⟨p₂.instances.size, { p₂ with instances := p₂.instances.push { x with node := some v } }, ?_, ⟨hp₂.isOpen, hlegible⟩,
    hlegible.render, v, by simp [Program.getInstance], s, hs, hmade.merged, ?_⟩
  · unfold create makeInstance
    rw [after_bind, after_bind, hfilled]
    dsimp only
    rw [if_neg (by simp), after_get_bind, hreg, h.describes.real, if_neg (by simp), after_bind, hwritten]
    rfl
  · have hruled := hmade.ruledOut
    rw [habsent, List.forall₂_map_left_iff, hreg] at hruled
    refine hruled.imp fun y a ha => rulesOut_of_madeOf ?_ ⟨ho.size, ho.get, ho.data⟩
    rw [hon₂.kept.reg, hreg]
    exact ha

/-! ## Stars and what they are part of -/

/-- Stars, and three classes that stars identify: pairs by the centre and maybe a companion, systems by the
centre and maybe a planet below, and groups by a companion alone. -/
def pairRegistry : Registry :=
  let centre : MemberDecl := .rel { kind := .oneOf, node := .text "Star", idname := some "centre" }
  let maybe (name : String) : MemberDecl := .rel { kind := .optional, node := .text "Star", idname := some name }
  (after (do
    let _ ← declare { name := "Star", pluralName := some "stars", idname := some (.text "number") }
    let _ ← declare { name := "Pair", pluralName := some "pairs", factors := some ["epoch"]
                      parents := some [centre, maybe "companion"], identity := some (some ["epoch", "centre", "companion"]) }
    let _ ← declare { name := "System", pluralName := some "systems", parents := some [centre], children := some [maybe "planet"]
                      identity := some (some ["centre", "planet"]) }
    let _ ← declare { name := "Group", pluralName := some "groups", parents := some [maybe "companion"]
                      identity := some (some ["companion"]) }) Registry.empty).2

def withFoundStar : Program :=
  (after (matchNode (.list [.text "Star"]) (.dict []) false) (Program.start pairRegistry (.text "ignore"))).2

lemma works_matchNode {labels : Thing} {l : String} {ls : List String} (hlabels : checkLabels labels = .ok (l :: ls)) :
    Works p (matchNode labels (.dict []) false) (fun _ _ => True) := by
  refine works_opened ?_
  refine Works.lift_bind hlabels ((works_readProperties fun _ he => by cases he).bind fun r q₁ _ ⟨hin, _⟩ => ?_)
  refine Works.lift_bind rfl ((works_newPlain l).bind fun out q₂ hq₂ hout => ?_)
  refine (works_addStatement (fun t ht => hq₂.reach (hin t ht)) ?_ fun _ => ⟨_, rfl⟩).bind fun _ _ _ _ => Works.pure trivial
  simpa using hout

lemma ready_withFoundStar : withFoundStar.Ready := by
  have hlabels : checkLabels (.list [.text "Star"]) = .ok ["Star"] := eq_ok_of_gives (by decide +kernel)
  obtain ⟨_, q, hok, hready, -⟩ := works_matchNode hlabels ⟨rfl, legible_start pairRegistry (.text "ignore")⟩
  unfold withFoundStar
  rw [hok]
  exact hready

lemma admits_one {v : VarId} (hv : p.isAccessible (.var v)) (h : (relativeUnder spec name).any fun m => !isMultiple m &&
      (relationOf m).any fun r => !r.notReal && r.min == 1 && r.max == some 1) : p.Admits spec name (some (.var v)) := by
  unfold Program.Admits
  cases hm : relativeUnder spec name with
  | none =>
    rw [hm] at h
    cases h
  | some m =>
    rw [hm] at h
    cases hr : relationOf m with
    | none => simp [hr] at h
    | some r =>
      obtain ⟨hmany, ⟨hreal, hmin⟩, hmax⟩ : isMultiple m = false ∧ (r.notReal = false ∧ r.min = 1) ∧ r.max = some 1 := by
        simpa [hr] using h
      refine ⟨fun r' hr' => ?_, r, hr, .nodes [.var v] 1 (by simp [asList, hmany]) ?_ (by simp [hmin]) hmax (by simp)⟩
      · subst hr'
        cases hr
        exact hreal
      · intro x hx
        rw [mem_singleton.mp hx]
        exact ⟨v, rfl, hv⟩

lemma admits_none (h : (relativeUnder spec name).any fun | .rel r => r.isOptional | _ => false) : p.Admits spec name none := by
  unfold Program.Admits
  cases hm : relativeUnder spec name with
  | none =>
    rw [hm] at h
    cases h
  | some m =>
    rw [hm] at h
    cases m with
    | rel r => exact ⟨r, rfl, .inr h⟩
    | cls c | name s => cases h

def loneStar : List (String × Thing) := [("epoch", .plain (.int 2000)), ("centre", .var 1)]

lemma accepts_loneStar : withFoundStar.Accepts 2 loneStar := by
  have hnames : (withFoundStar.reg.specification 2).names = ["centre", "companion", "epoch"] := by decide +kernel
  refine ⟨⟨by decide +kernel, by decide +kernel, by decide +kernel, by decide +kernel, eq_ok_of_gives (by decide +kernel),
    by decide +kernel, ⟨["Pair", "Hierarchy"], eq_ok_of_gives (by decide +kernel)⟩, by decide +kernel, by decide +kernel⟩,
    ?_, ?_, fun k hk x hx => ?_⟩
  · rw [hnames]
    decide
  · rw [hnames]
    simp only [mem_cons, not_mem_nil, or_false, forall_eq_or_imp, forall_eq]
    refine ⟨admits_one (by decide +kernel) (by decide +kernel), admits_none (by decide +kernel), ?_⟩
    unfold Program.Admits
    rw [show relativeUnder (withFoundStar.reg.specification 2) "epoch" = none by decide +kernel]
    exact .value rfl
  · have hall : ∀ k ∈ (withFoundStar.reg.get 2).identity.getD [],
        (relativesGiven (withFoundStar.reg.specification 2) loneStar k).all (!withFoundStar.isCollection ·.1) := by
      decide +kernel
    have hplain := hall k hk
    rw [hx] at hplain
    simpa using hplain

/-- A pair without a companion is created and written down, and only a companion is ruled out. -/
theorem create_rules_out_companion : (omitted withFoundStar.reg 2 loneStar).map (·.1) = ["companion"] ∧
    ∃ i q, after (create 2 { named := loneStar }) withFoundStar = (.ok i, q) ∧
      (∃ text q', after (render "" true .none .none) q = (.ok text, q')) ∧
      ∃ node, (q.getInstance i).node = some node ∧ ∃ s ∈ q.statements.toList, s.merged? = some node ∧
        List.Forall₂ (AntiRelation.RulesOut q) (omitted withFoundStar.reg 2 loneStar) s.ruledOut := by
  have hrule : Rule.ofValue withFoundStar.rule = .ok .ignore := eq_ok_of_gives (by decide +kernel)
  have hempty : (givenLinks withFoundStar.reg 2 loneStar).isEmpty = false := by decide +kernel
  have hlinks : givenLinks withFoundStar.reg 2 loneStar ≠ [] := by simpa using hempty
  have hbelow : ∀ k ∈ (withFoundStar.reg.get 2).identity.getD [],
      (relationUnder withFoundStar.reg (withFoundStar.reg.get 2).children k).all (!·.isOptional) := by
    decide +kernel
  obtain ⟨i, q, hok, -, hrender, hmerge⟩ := create_rules_out loneStar ready_withFoundStar hrule (by decide)
    accepts_loneStar hlinks fun k hk _ r hr => by
      have hnot := hbelow k hk
      rw [hr] at hnot
      simpa using hnot
  exact ⟨by decide +kernel, i, q, hok, hrender _ _, hmerge⟩

/-- Whether a name may be left out: that of an optional relation that identifies. -/
def mayBeLeftOut (reg : Registry) (cls : ClassId) (k : String) : Bool :=
  ((reg.get cls).identity.getD []).contains k && (relativeUnder (reg.specification cls) k).any fun
    | .rel r => r.isOptional
    | _ => false

/-- A system without a planet is not created, and a group without a companion is not written down. -/
theorem exists_omission_refused : (∃ (p : Program) (cls : ClassId) (named : List (String × Thing)), p.Ready ∧
      p.reg.mergeStrategy cls = .ok .nodeWithRelations ∧
      (∀ k ∈ (p.reg.specification cls).names, (named.lookup k).isSome ∨ mayBeLeftOut p.reg cls k) ∧
      ∃ e, (after (create cls { named }) p).1 = .error e) ∧
    ∃ (p : Program) (cls : ClassId) (named : List (String × Thing)), p.Ready ∧
      p.reg.mergeStrategy cls = .ok .nodeWithRelations ∧
      (∀ k ∈ (p.reg.specification cls).names, (named.lookup k).isSome ∨ mayBeLeftOut p.reg cls k) ∧
      ∃ i q, after (create cls { named }) p = (.ok i, q) ∧ ∃ e, (after (render "" true .none .none) q).1 = .error e := by
  refine ⟨⟨withFoundStar, 3, [("centre", .var 1)], ready_withFoundStar, eq_ok_of_gives (by decide +kernel),
    by decide +kernel, ?_⟩, withFoundStar, 4, [], ready_withFoundStar, eq_ok_of_gives (by decide +kernel), by decide +kernel, ?_⟩
  · exact error_of_not_gives (by decide +kernel)
  · have hcreated : after (create 4 {}) withFoundStar = (.ok 0, (after (create 4 {}) withFoundStar).2) := by
      rw [← eq_ok_of_gives (x := (after (create 4 {}) withFoundStar).1) (by decide +kernel)]
    exact ⟨0, _, hcreated, error_of_not_gives (by decide +kernel)⟩

end SurveyGraph.Write
