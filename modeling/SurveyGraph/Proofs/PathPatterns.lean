import SurveyGraph.Catalogue.Arrows
import SurveyGraph.Proofs.After
import SurveyGraph.Proofs.RouteEnds
/-!
# Patterns between classes

The pattern of a path begins at a node of the one class and ends at a node of the other (`pathsBetween_ends`), if none of the
two extends the other and the target has no classes below it or does not lie upward of the source. Otherwise a path may lead
the other way, or have one class only (`exists_path_misdirected`).
-/
open Relation List

namespace SurveyGraph

open ClassGraph Layer

variable {reg : Registry} {a b : ClassId} {singular : Bool} {ds : List Atlas.Directed} {x : Atlas.Directed} {m : Atlas}

/-! ## The layers of the atlas -/

namespace Atlas

/-- A link of the graph of all classes. -/
def Known (reg : Registry) (l : Link) : Prop := Declared reg l ∧ l ∈ (ClassGraph.ofRegistry reg).linksFrom l.src

/-- A link of the graph of all classes to one instance at most. -/
def KnownSingular (reg : Registry) (l : Link) : Prop := Known reg l ∧ l.weight = some (.finite 0)

lemma ofRegistry_known (reg : Registry) : (ClassGraph.ofRegistry reg).Out (Known reg) := (ofRegistry_out reg).present

lemma orElse_ok {α : Type} {x y : Except Fault α} {r : α} (h : orElse x y = .ok r) : x = .ok r ∨ y = .ok r := by
  unfold orElse at h
  split at h
  · split at h
    · exact .inr h
    · exact .inl h
  · exact .inl h

/-- Routes are found in one layer; singular ones in a layer of singular links. -/
lemma routes_layer {rs : List Route} (h : (ofRegistry reg).routes a b singular = .ok rs) :
    ∃ v : Layer, v.Sound (Known reg) ∧ (singular = true → v.Sound (KnownSingular reg)) ∧ v.routes reg a b = .ok rs := by
  have hknown := ofRegistry_known reg
  have hsingular : ∀ v : Layer, v.Sound (KnownSingular reg) → v.routes reg a b = .ok rs →
      ∃ v : Layer, v.Sound (Known reg) ∧ (singular = true → v.Sound (KnownSingular reg)) ∧ v.routes reg a b = .ok rs :=
    fun v hv h => ⟨v, hv.mono fun _ hl => hl.1, fun _ => hv, h⟩
  rcases orElse_ok h with h | h
  · exact hsingular _ (ofGraph_sound hknown.singular.nonOptional) h
  · split at h
    · exact hsingular _ (ofGraph_sound hknown.singular) h
    · rename_i hplural
      rcases orElse_ok h with h | h
      · exact hsingular _ (ofGraph_sound hknown.singular) h
      · rcases orElse_ok h with h | h
        · exact ⟨_, ofGraph_sound hknown.nonOptional, fun hs => absurd hs hplural, h⟩
        · exact ⟨_, ofGraph_sound hknown, fun hs => absurd hs hplural, h⟩

lemma mem_directed (h : m.directed a b singular = .ok ds) (hx : x ∈ ds) :
    ∃ rs r steps, m.routes a b singular = .ok rs ∧ r ∈ rs ∧ m.turn b r = .ok (x.classes, steps, x.reversed) ∧
      m.stepsSingular steps = .ok x.singular := by
  obtain ⟨rs, hrs, h⟩ := bind_ok h
  obtain ⟨_, h⟩ := unless_ok h
  obtain ⟨turned, hturned, h⟩ := bind_ok h
  obtain ⟨⟨classes, steps, reversed⟩, hmem, h⟩ := mem_of_mapM_ok h hx
  obtain ⟨single, hsingle, h⟩ := bind_ok h
  cases h
  obtain ⟨r, hr, hturn⟩ := mem_of_mapM_ok hturned hmem
  exact ⟨rs, r, steps, hrs, hr, hturn, hsingle⟩

lemma turn_classes {r : Route} {classes : List ClassId} {steps : List (ClassId × ClassId × Nat)}
    {reversed : Bool} (h : m.turn b r = .ok (classes, steps, reversed)) :
    classes = if r.classes.head? = some b then r.classes.reverse else r.classes := by
  unfold turn at h
  split at h
  · rename_i hhead
    obtain ⟨back, _, h⟩ := bind_ok h
    cases h
    rw [if_pos (beq_iff_eq.mp hhead)]
  · rename_i hhead
    cases h
    rw [if_neg fun heq => hhead (beq_iff_eq.mpr heq)]

lemma directed_leadsTo (hab : ¬reg.Extends a b) (hba : ¬reg.Extends b a)
    (hbelow : (∀ c, reg.Extends c b → c = b) ∨ ¬(ClassGraph.ofRegistry reg).Chain (fun l => l.type ∈ [.childOf, .isA]) a b)
    (h : (ofRegistry reg).directed a b singular = .ok ds) (hx : x ∈ ds) : LeadsTo reg a b x.classes := by
  obtain ⟨rs, r, steps, hrs, hr, hturn, _⟩ := mem_directed h hx
  obtain ⟨v, hv, _, hroutes⟩ := routes_layer hrs
  have hbelow : (∀ c, reg.Extends c b → c = b) ∨ a ∉ v.up.ancestors b := by
    refine hbelow.imp_right fun hchain hmem => hchain ?_
    exact (hv.intoUp.mono fun l hl => ⟨hl.2, hl.1.2⟩).ancestors hmem
  have hleads := hv.routes_leadsTo (fun l hl => hl.1) hab hba hbelow hroutes hr
  rw [turn_classes hturn]
  split
  · rename_i hhead
    rw [if_pos hhead] at hleads
    exact hleads.reverse
  · rename_i hhead
    rw [if_neg hhead] at hleads
    exact hleads

end Atlas

/-! ## The text of a pattern -/

namespace PathPattern

lemma steps_last : ∀ {nodes : List (String × Bool)} {labels ts : List String} {node : String × Bool},
    nodes.getLast? = some node → steps nodes labels = .ok ts → ∃ rest, ts = rest ++ ["(\x7bout_var\x7d:" ++ node.1 ++ ")"]
  | [], _, _, _, hlast, _ => by cases hlast
  | [_], [], _, _, _, h => by cases h
  | [(n, f)], label :: _, ts, node, hlast, h => by
    cases h
    cases hlast
    exact ⟨[_], rfl⟩
  | _ :: _ :: _, [], _, _, _, h => by cases h
  | (n, f) :: next :: nodes, label :: labels, ts, node, hlast, h => by
    rw [steps] at h
    · obtain ⟨rest, hrest, h⟩ := bind_ok h
      cases h
      rw [getLast?_cons_cons] at hlast
      obtain ⟨before, rfl⟩ := steps_last hlast hrest
      exact ⟨_, (append_assoc _ _ _).symm⟩
    · exact nofun

/-- A pattern begins and ends with nodes for the two variables; the last has the label of the last class. -/
lemma render_ends {middle : List String} {first last : String} {forwards : List Bool} {descriptor : Value} {s : String}
    (h : render (first :: middle ++ [last]) forwards descriptor = .ok s) :
    ∃ text, s = "(\x7bin_var\x7d)" ++ text ++ "(\x7bout_var\x7d:" ++ last ++ ")" := by
  unfold render at h
  obtain ⟨hlength, h⟩ := unless_ok h
  obtain ⟨ts, hts, h⟩ := bind_ok h
  have hlength : forwards.length = middle.length + 1 := by simpa using hlength
  obtain ⟨fs, f, rfl⟩ : ∃ fs f, forwards = fs ++ [f] := by
    have hne : forwards ≠ [] := ne_nil_of_length_pos (by omega)
    exact ⟨_, _, (dropLast_append_getLast hne).symm⟩
  have hzip : (first :: middle ++ [last]).tail.zip (fs ++ [f]) = middle.zip fs ++ [(last, f)] := by
    rw [cons_append, tail_cons, zip_append (by simpa using hlength.symm)]
    rfl
  rw [hzip] at hts
  obtain ⟨rest, rfl⟩ := steps_last getLast?_concat hts
  cases h
  simp [String.join_append, String.append_assoc]

end PathPattern

/-! ## Paths between named classes -/

namespace Catalogue

variable {d : Catalogue} {source target : String} {descriptor : Value} {ps : List PathPattern}

lemma pathsBetween_patterns (hsource : d.classOf source = .ok a) (htarget : d.classOf target = .ok b)
    (h : d.pathsBetween source target singular descriptor = .ok ps) : d.patterns a b singular descriptor = .ok ps := by
  obtain ⟨s, hs, hsource⟩ := bind_ok hsource
  obtain ⟨t, ht, htarget⟩ := bind_ok htarget
  unfold pathsBetween at h
  rw [hs, ht] at h
  obtain ⟨s', hs', h⟩ := bind_ok h
  obtain ⟨t', ht', h⟩ := bind_ok h
  cases hs'
  cases ht'
  rw [hsource, htarget] at h
  obtain ⟨a', ha, h⟩ := bind_ok h
  obtain ⟨b', hb, h⟩ := bind_ok h
  cases ha
  cases hb
  split at h
  · rename_i heq
    cases h
    exact heq
  · split at h
    · cases h
    · obtain ⟨_, _, h⟩ := bind_ok h
      cases h

lemma mem_patterns {p : PathPattern} (h : d.patterns a b singular descriptor = .ok ps) (hp : p ∈ ps) :
    ∃ ds, ∃ x ∈ ds, d.atlas.directed a b singular = .ok ds ∧ p.classes = x.classes ∧ p.singular = x.singular ∧
      ∃ forwards, PathPattern.render (x.classes.map d.reg.nameOf) forwards descriptor = .ok p.arrows := by
  obtain ⟨ds, hds, h⟩ := bind_ok h
  obtain ⟨x, hx, hpattern⟩ := mem_of_mapM_ok h hp
  obtain ⟨arrows, harrows, hpattern⟩ := bind_ok hpattern
  cases hpattern
  exact ⟨ds, x, hx, hds, rfl, rfl, _, harrows⟩

lemma exists_of_leadsTo {classes : List ClassId} (h : LeadsTo reg a b classes) : ∃ first middle last,
    classes = first :: middle ++ [last] ∧ reg.Extends first a ∧ reg.Extends last b := by
  obtain ⟨first, last, hends, hfirst, hlast⟩ := h.ends
  have htwo := h.two
  obtain ⟨hhead, hend⟩ := hends
  cases classes with
  | nil => cases hhead
  | cons c rest =>
    obtain rfl : c = first := Option.some.inj hhead
    have hne : rest ≠ [] := by
      rintro rfl
      simp at htwo
    refine ⟨c, rest.dropLast, last, ?_, hfirst, hlast⟩
    rw [getLast?_cons_of_ne_nil hne, getLast?_eq_some_getLast hne, Option.some.injEq] at hend
    rw [← hend, cons_append, dropLast_append_getLast]

/-- A path between two classes of which none extends the other has two classes at least. It begins with the
one or a class below it and ends with the other or a class below that, and so does its pattern. The target
must have no classes below it, or no chain from child to parent may lead up to it from the source. -/
theorem pathsBetween_ends (d : Catalogue) (hatlas : d.atlas = Atlas.ofRegistry d.reg) (hsource : d.classOf source = .ok a)
    (htarget : d.classOf target = .ok b) (hab : ¬d.reg.Extends a b) (hba : ¬d.reg.Extends b a)
    (hbelow : (∀ c, d.reg.Extends c b → c = b) ∨ ¬(ClassGraph.ofRegistry d.reg).Chain (fun l => l.type ∈ [.childOf, .isA]) a b)
    (h : d.pathsBetween source target singular descriptor = .ok ps) :
    ∀ p ∈ ps, ∃ first middle last, p.classes = first :: middle ++ [last] ∧ d.reg.Extends first a ∧ d.reg.Extends last b ∧
      ∃ text, p.arrows = "(\x7bin_var\x7d)" ++ text ++ "(\x7bout_var\x7d:" ++ d.reg.nameOf last ++ ")" := by
  intro p hp
  obtain ⟨ds, x, hx, hds, hclasses, _, forwards, harrows⟩ := mem_patterns (pathsBetween_patterns hsource htarget h) hp
  rw [hatlas] at hds
  obtain ⟨first, middle, last, heq, hfirst, hlast⟩ := exists_of_leadsTo (Atlas.directed_leadsTo hab hba hbelow hds hx)
  refine ⟨first, middle, last, hclasses.trans heq, hfirst, hlast, ?_⟩
  rw [heq, List.map_append] at harrows
  exact PathPattern.render_ends harrows

/-- A class with an id, and nothing else. -/
def plainClass (name : String) : Declaration :=
  { name, pluralName := some (Text.Letter.lower name ++ "s"), idname := some (.text "id") }

def plainRegistry (ds : List Declaration) : Registry := (after (ds.mapM declare) Registry.empty).2

/-- Runs, and files; only raw files have instances, and a run. -/
def runsAndFiles : Registry := plainRegistry [plainClass "Run", { plainClass "File" with isTemplate := true },
  { plainClass "RawFile" with bases := ["File"], children := some [.name "Run"] }]

/-- The catalogue of classes that have nothing but names. -/
def plainCatalogue (reg : Registry) : Catalogue where
  reg := reg
  atlas := Atlas.ofRegistry reg
  classes := reg.declared
  byClass := reg.declared.map (fun c => (reg.nameOf c, c))
  singular := reg.declared.map (fun c => ((reg.get c).singularName, c))
  plural := []
  factorClasses := []
  factors := []
  pluralFactors := []
  idnames := []
  pluralIdnames := []
  relatives := []
  pluralRelatives := []

lemma leaf_of_small {reg : Registry} {b : ClassId} (h : ∀ c < reg.classes.size, b ∉ (reg.get c).bases) (c : ClassId) :
    b ∉ (reg.get c).bases := by
  rcases Nat.lt_or_ge c reg.classes.size with hc | hc
  · exact h c hc
  · rw [Registry.get_of_size_le hc]
    exact not_mem_nil

-- one lemma, so that the classes are declared only once in all of the checks
lemma runsAndFiles_checks : (∀ cs ∈ [[1, 0], [3, 2, 0]], ∀ c ∈ cs, ∀ b ∈ (runsAndFiles.get c).bases, b ∈ cs) ∧
    (∀ c < runsAndFiles.classes.size, 1 ∉ (runsAndFiles.get c).bases) ∧
    gives ((plainCatalogue runsAndFiles).classOf "RawFile") (fun c => decide (c = 3)) = true ∧
    gives ((plainCatalogue runsAndFiles).classOf "Run") (fun c => decide (c = 1)) = true ∧
    gives ((plainCatalogue runsAndFiles).pathsBetween "RawFile" "Run" false .none) (!·.isEmpty) = true ∧
    gives ((plainCatalogue runsAndFiles).pathsBetween "Run" "File" false .none)
      (· == [⟨"(\x7bin_var\x7d)-[\x7bname\x7d]->(\x7bout_var\x7d:Run)", false, [3, 1]⟩]) = true ∧
    gives ((plainCatalogue runsAndFiles).pathsBetween "File" "RawFile" false .none)
      (· == [⟨"(\x7bin_var\x7d)", false, [3]⟩]) = true := by
  decide +kernel

lemma runsAndFiles_apart {c : ClassId} (hc : c = 2 ∨ c = 3) : ¬runsAndFiles.Extends 1 c ∧ ¬runsAndFiles.Extends c 1 := by
  have hclosed := runsAndFiles_checks.1
  refine ⟨fun h => ?_, fun h => ?_⟩
  · have hmem := h.mem [1, 0] (hclosed _ (by simp)) (by simp)
    rcases hc with rfl | rfl <;> simp at hmem
  · have hmem := h.mem [3, 2, 0] (hclosed _ (by simp)) (by rcases hc with rfl | rfl <;> simp)
    simp at hmem

theorem pathsBetween_ends_rawFile : ∃ ps, (plainCatalogue runsAndFiles).pathsBetween "RawFile" "Run" false .none = .ok ps ∧
    ps ≠ [] ∧ ∀ p ∈ ps, ∃ first middle last, p.classes = first :: middle ++ [last] ∧ runsAndFiles.Extends first 3 ∧
      runsAndFiles.Extends last 1 ∧
      ∃ text, p.arrows = "(\x7bin_var\x7d)" ++ text ++ "(\x7bout_var\x7d:" ++ runsAndFiles.nameOf last ++ ")" := by
  obtain ⟨-, hleaf, hsource, htarget, hfound, -⟩ := runsAndFiles_checks
  obtain ⟨ps, hps, hne⟩ := ok_of_gives hfound
  obtain ⟨hrun, hfile⟩ := runsAndFiles_apart (.inr rfl)
  refine ⟨ps, hps, by simpa using hne, ?_⟩
  exact pathsBetween_ends (plainCatalogue runsAndFiles) rfl (eq_ok_of_gives hsource) (eq_ok_of_gives htarget) hfile hrun
    (.inl fun c hc => hc.eq_of_leaf (leaf_of_small hleaf)) hps

/-- From a run to files the path that is found leads the other way. From files to raw files there is a path of
one class. -/
theorem exists_path_misdirected : (¬runsAndFiles.Extends 1 2 ∧ ¬runsAndFiles.Extends 2 1 ∧ ∃ p,
      (plainCatalogue runsAndFiles).pathsBetween "Run" "File" false .none = .ok [p] ∧
      p.classes = [3, 1] ∧ ¬runsAndFiles.Extends 3 1 ∧ ¬runsAndFiles.Extends 1 2 ∧
      p.arrows = "(\x7bin_var\x7d)-[\x7bname\x7d]->(\x7bout_var\x7d:Run)") ∧
    ∃ p, (plainCatalogue runsAndFiles).pathsBetween "File" "RawFile" false .none = .ok [p] ∧ p.classes = [3] := by
  obtain ⟨-, -, -, -, -, hdown, hone⟩ := runsAndFiles_checks
  obtain ⟨ps, hps, hp⟩ := ok_of_gives hdown
  obtain ⟨qs, hqs, hq⟩ := ok_of_gives hone
  rw [beq_iff_eq] at hp hq
  subst hp hq
  obtain ⟨hrun, hfile⟩ := runsAndFiles_apart (.inl rfl)
  exact ⟨⟨hrun, hfile, _, hps, rfl, (runsAndFiles_apart (.inr rfl)).2, hrun, rfl⟩, _, hqs, rfl⟩

end Catalogue

end SurveyGraph
