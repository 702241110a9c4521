import SurveyGraph.Proofs.QueryScope
/-!
# An aggregation keeps what is used after it

The line of an aggregation drops all variables but those that it lists. Where nothing that is used has been dropped, that is
enough: every variable of a text that can be used where the aggregation goes back to is held by a node that the line keeps
(`Passage.drawn_held`).

Texts are followed from node to node. Where an aggregation does nothing, its text leads through operations (`Feeds`) to the
nodes that `hosts` finds, which are kept in its place.
-/
open Relation List

namespace SurveyGraph.Plan
open SurveyGraph.Statement

variable {p : Plan} {order rest done : List Nat} {d w b n fuel k : Nat} {t : String}

/-- A walk through a plan whose aggregations go up, along orderly statements. -/
structure Passage (p : Plan) (order : List Nat) : Prop where
  sound : p.Sound
  anchored : p.Anchored
  up : p.GoesUp
  course : p.graph.Course order
  orderly : p.Orderly order

lemma Built.passage (hb : Built p) (hup : p.GoesUp) {r : Nat} (hwalk : (p.needed r).walk none none = .ok order)
    (hcheck : (p.needed r).checkWalk order = .ok ()) (ho : p.Orderly order) : p.Passage order := by
  have hs := hb.sound
  have hcourse := Digraph.walk_course (hs.needed_climbing hup r) ((hs.nodes ▸ nodup_range).filter _) hwalk hcheck
  exact ⟨hs, hb.anchored, hup, hcourse.of_restrictedTo hs.closed hup, ho⟩

/-- A node reached by going on, by a filter or by an aggregation. -/
def IsHost (p : Plan) (k : Nat) : Prop := p.isReachedBy k [.traversal, .filter, .aggregate] = true

/-- Something leads from `k` to `d` directly, or through nodes that are no hosts. -/
def Feeds (p : Plan) (d k : Nat) : Prop :=
  ∃ o, ReflTransGen (fun x y => p.graph.Forward y x ∧ ¬ p.IsHost y) d o ∧ p.graph.Forward k o

/-- A node that has been passed and stands at `w` holds a variable. -/
def HeldAt (p : Plan) (done : List Nat) (w : Nat) (v : String) : Prop :=
  ∃ k ∈ done, p.Stands w k ∧ p.Holds k ∧ (p.slots k).head? = some (.text v)

lemma Feeds.through {j : Nat} (h : p.Feeds d k) (hk : ¬ p.IsHost k) (hj : p.graph.Forward j k) : p.Feeds d j := by
  obtain ⟨o, hdo, hko⟩ := h
  exact ⟨k, hdo.tail ⟨hko, hk⟩, hj⟩

lemma mem_hosts_succ : k ∈ p.hosts (fuel + 1) n ↔
    ∃ m, p.graph.Forward m n ∧ (p.IsHost m ∧ k = m ∨ ¬ p.IsHost m ∧ k ∈ p.hosts fuel m) := by
  simp only [hosts, mem_flatMap, mem_filter, Digraph.inArcs, bne_iff_ne, beq_iff_eq, IsHost, Digraph.Forward]
  constructor
  · rintro ⟨e, ⟨⟨he, hdst⟩, hw⟩, hk⟩
    refine ⟨e.src, ⟨e, he, hw, rfl, hdst⟩, ?_⟩
    split at hk
    · rename_i hhost
      exact .inl ⟨hhost, by simpa using hk⟩
    · rename_i hhost
      exact .inr ⟨hhost, hk⟩
  · rintro ⟨m, ⟨e, he, hw, rfl, hdst⟩, hk⟩
    refine ⟨e, ⟨⟨he, hdst⟩, hw⟩, ?_⟩
    rcases hk with ⟨hhost, rfl⟩ | ⟨hhost, hk⟩
    · rw [if_pos hhost]
      simp
    · rw [if_neg hhost]
      exact hk

lemma Sound.forward_of_label (hs : p.Sound) {e : Arc Statement} {s : Statement} (he : e ∈ p.graph.arcs)
    (hl : e.label = some s) : p.graph.Forward e.src e.dst := by
  refine ⟨e, he, fun hw => ?_, rfl, rfl⟩
  rcases hs.kind e he s hl with hd | hk
  · rw [hw] at hd
    cases hd
  · rw [hw, s.not_allows_wrt] at hk
    cases hk

/-! ## The statements of an orderly walk -/

namespace Passage

variable {e : Arc Statement} {s : Statement} {v : String} (h : p.Passage order)

include h

lemma madeBy (he : e ∈ p.graph.arcs) (hl : e.label = some s) (hmem : e.dst ∈ order) : p.MadeBy e.dst e s := by
  obtain ⟨_, a, _, _, hstep⟩ := h.course.entered h.up hmem (h.sound.forward_of_label he hl)
  obtain ⟨d, s', hmade, _⟩ := h.sound.madeBy hstep
  obtain rfl := hmade.eq_of_label h.sound he rfl (by simp [hl])
  obtain rfl : s' = s := Option.some.inj (hmade.label.symm.trans hl)
  exact hmade

lemma gives_mem (heq : order = done ++ rest) (hmade : p.MadeBy n e s) (hn : n ∈ done) (hk : p.Gives e t k) :
    k ∈ done ∧ p.graph.Forward k n := by
  have hforward : p.graph.Forward k n := by
    rcases hk.1 with rfl | hneeds
    · exact hmade.step.forward
    · exact hmade.dst ▸ hneeds.forward
  exact ⟨h.course.mem_of_forward heq hn hforward, hforward⟩

lemma not_bare (he : e ∈ p.graph.arcs) (hl : e.label = some s) (hmem : e.dst ∈ order) (ht : .text t ∈ s.inputs) :
    ¬ p.Bare e t := by
  rintro ⟨hno, hparam⟩
  rcases h.orderly.given e he hmem s hl t ht with ⟨k, hk⟩ | hp
  · exact hno k hk
  · exact hparam hp

lemma carries (hmade : p.MadeBy n e s) (hold : p.Holds n) {x : Slot} (hx : x ∈ s.passesOn) :
    e.type ≠ .operation ∧ e.type ≠ .aggregate ∧ s.outputs.head? = some x := by
  have hop : e.type ≠ .operation := by
    intro ht
    have hreached : p.isReachedBy n [.operation] = true :=
      (hmade.isReachedBy_iff h.sound (by simp) (by simp)).mpr (by simp [ht])
    rw [hold.1] at hreached
    cases hreached
  have hallows := hmade.allows h.sound
  refine ⟨hop, fun ht => ?_, ?_⟩
  · have hnull : s.isNull = true := by
      cases s <;> simp_all [allows, passesOn, isNull]
    have hfolded := (hmade.isFolded_iff h.sound).mpr ⟨ht, hnull⟩
    rw [hold.2] at hfolded
    cases hfolded
  · cases s <;> simp_all [allows, passesOn, outputs]

lemma head_of_draws (hv : p.Draws k v) (hk : k ∈ order) (hold : p.Holds k) : (p.slots k).head? = some (.text v) := by
  induction hv with
  | «variable» he hl hv =>
    rw [(h.madeBy he hl hk).slots h.sound]
    exact bound?_outputs hv
  | @through e s t v j he hl ht hj _ ih =>
    have hmade := h.madeBy he hl hk
    obtain ⟨hop, hagg, hhead⟩ := h.carries hmade hold ht
    obtain ⟨t', heq, hcarried⟩ := h.orderly.carried e he hk s hl hop hagg _ ht
    obtain rfl : t = t' := by simpa using heq
    obtain ⟨hjmem, _⟩ := h.gives_mem (append_nil order).symm hmade hk hj
    have hvt := (ih hjmem (hcarried j hj)).symm.trans hj.2
    rw [hmade.slots h.sound, hhead, hvt]
  | bare he hl hv hb => exact absurd hb (h.not_bare he hl hk (passesOn_subset _ hv))

lemma target_of_back (hmade : p.MadeBy b e s) (hback : p.graph.Back b w) : s.target? = some w := by
  obtain ⟨e', s', hmade', htarget⟩ := h.sound.madeBy_of_back h.up hback
  obtain ⟨rfl, rfl⟩ := hmade.unique h.sound hmade'
  exact htarget

lemma aggregate_back {a : Nat} (hb : b ∈ order) (hstep : p.graph.Step a b) {input : Slot} {template name out : String}
    (hmade : p.MadeBy b e (.aggregate input w template name out)) : p.graph.Back b w ∧ ReflTransGen p.graph.Step w a := by
  have htype : e.type = .aggregate := by
    have hallows := hmade.allows h.sound
    cases ht : e.type <;> simp_all [Statement.allows]
  obtain ⟨w', hback⟩ := h.orderly.returns e hmade.mem (hmade.dst ▸ hb) htype
  rw [hmade.dst] at hback
  obtain rfl : w = w' := by simpa [Statement.target?] using h.target_of_back hmade hback
  refine ⟨hback, ?_⟩
  obtain ⟨y, hwy, hyb⟩ := TransGen.tail'_iff.mp (h.up b w hback)
  rwa [h.sound.parent hstep hyb]

/-! ## Hosts -/

lemma below_length (hd : d ∈ order) {below : List Nat} (hnd : below.Nodup)
    (hlt : ∀ x ∈ below, x < p.nodes.length ∧ order.idxOf d < order.idxOf x) : below.length < p.nodes.length := by
  have hcons : (d :: below).Nodup := nodup_cons.mpr ⟨fun hmem => Nat.lt_irrefl _ (hlt d hmem).2, hnd⟩
  have hsub : d :: below ⊆ range p.nodes.length := by
    intro x hx
    rcases mem_cons.mp hx with rfl | hx
    · exact mem_range.mpr (h.sound.mem_nodes.mp (h.course.mem x hd))
    · exact mem_range.mpr (hlt x hx).1
  have hlen := (Nodup.subperm hcons hsub).length_le
  rwa [length_range] at hlen

/-- `hosts` finds every host that feeds a node of the walk. The nodes in `below`, passed on the way up, pay
for the fuel, as nodes come later the further down they are. -/
lemma mem_hosts_of_feeds (hf : p.Feeds d k) (hk : p.IsHost k) (hd : d ∈ order)
    {below : List Nat} (hnd : below.Nodup) (hlt : ∀ x ∈ below, x < p.nodes.length ∧ order.idxOf d < order.idxOf x)
    (hfuel : p.nodes.length < fuel + below.length) : k ∈ p.hosts fuel d := by
  obtain ⟨o, hdo, hko⟩ := hf
  induction hdo using ReflTransGen.head_induction_on generalizing below fuel with
  | refl =>
    have hlen := h.below_length hd hnd hlt
    obtain ⟨fuel, rfl⟩ : ∃ n, fuel = n + 1 := ⟨fuel - 1, by omega⟩
    exact mem_hosts_succ.mpr ⟨k, hko, .inl ⟨hk, rfl⟩⟩
  | @head d x hdx _ ih =>
    have hlen := h.below_length hd hnd hlt
    obtain ⟨fuel, rfl⟩ : ∃ n, fuel = n + 1 := ⟨fuel - 1, by omega⟩
    have hidx := h.course.idxOf_lt hd hdx.1
    refine mem_hosts_succ.mpr ⟨x, hdx.1, .inr ⟨hdx.2, ?_⟩⟩
    have hcons : (d :: below).Nodup := nodup_cons.mpr ⟨fun hmem => Nat.lt_irrefl _ (hlt d hmem).2, hnd⟩
    refine ih (h.course.mem_of_forward (append_nil order).symm hd hdx.1) hcons ?_ ?_
    · intro y hy
      rcases mem_cons.mp hy with rfl | hy
      · exact ⟨h.sound.mem_nodes.mp (h.course.mem y hd), hidx⟩
      · exact ⟨(hlt y hy).1, hidx.trans (hlt y hy).2⟩
    · simp only [length_cons]
      omega

/-! ## What is kept -/

lemma depends (hf : p.Fresh order) (hk : k ∈ order) (hneeds : p.graph.Needs d k) :
    ReflTransGen p.graph.Step d k ∨ ∃ m, ReflTransGen p.graph.Step m k ∧ p.CountsTo d m := by
  obtain ⟨pre, a, post, heq, hstep⟩ := h.course.entered h.up hk hneeds.forward
  rcases hf.depends pre a k post heq hstep d hneeds with hup | ⟨m, hm, hc, _⟩
  · exact .inl (hup.tail hstep)
  · exact .inr ⟨m, hm.tail hstep, hc⟩

lemma counted {m x : Nat} (hmade : p.MadeBy k e s) (hback : p.graph.Back k m)
    (hx : x ∈ if s.isNull then p.hosts (p.nodes.length + 1) k else [k]) : p.Counted m x :=
  ⟨k, hback, _, hmade.standIns_eq h.sound h.anchored, hx⟩

lemma holds_of_bound (hmade : p.MadeBy k e s) (hk : k ∈ order) (hv : s.bound? = some v) :
    p.Holds k ∧ p.IsHost k ∧ s.isNull = false := by
  have hallows := hmade.allows h.sound
  have hop := (h.orderly.bound e hmade.mem (hmade.dst ▸ hk) s hmade.label v hv).2
  have hnull : s.isNull = false := by cases s <;> simp_all [bound?, isNull]
  refine ⟨⟨?_, ?_⟩, ?_, hnull⟩
  · rw [Bool.eq_false_iff, ne_eq, hmade.isReachedBy_iff h.sound (by simp) (by simp)]
    simpa using hop
  · rw [Bool.eq_false_iff, ne_eq, hmade.isFolded_iff h.sound]
    simp [hnull]
  · rw [IsHost, hmade.isReachedBy_iff h.sound (by simp) (by simp)]
    cases s <;> cases ht : e.type <;> simp_all [bound?, allows]

lemma folded_of_host (hmade : p.MadeBy k e s) (hhost : p.IsHost k) (hold : ¬ p.Holds k) :
    p.isFolded k = true ∧ s.isNull = true := by
  have htype := (hmade.isReachedBy_iff h.sound (by simp) (by simp)).mp hhost
  have hop : p.isReachedBy k [.operation] = false := by
    rw [Bool.eq_false_iff, ne_eq, hmade.isReachedBy_iff h.sound (by simp) (by simp), mem_singleton]
    intro ht
    simp [ht] at htype
  have hf : p.isFolded k = true := by
    by_contra hf
    exact hold ⟨hop, by simpa using hf⟩
  exact ⟨hf, ((hmade.isFolded_iff h.sound).mp hf).2⟩

/-- A variable in the text of a node is held at `w`, if the node lies above `w` or counts to a node there, or
feeds a node whose hosts all stand at `w`. -/
lemma drawn_held (hf : p.Fresh order) (heq : order = done ++ rest) (hv : p.Draws k v) (hk : k ∈ done) :
    ((ReflTransGen p.graph.Step k w ∨ ∃ m, ReflTransGen p.graph.Step m w ∧ p.CountsTo k m) → p.HeldAt done w v) ∧
    ∀ d ∈ done, p.Feeds d k → (∀ x ∈ p.hosts (p.nodes.length + 1) d, p.Stands w x) → p.HeldAt done w v := by
  have hmem : ∀ {x}, x ∈ done → x ∈ order := fun hx => heq ▸ mem_append_left _ hx
  have hhosts : ∀ {d x}, d ∈ done → p.Feeds d x → p.IsHost x → x ∈ p.hosts (p.nodes.length + 1) d := fun hd hf hx =>
    h.mem_hosts_of_feeds hf hx (hmem hd) nodup_nil (by simp) (by simp)
  induction hv with
  | @«variable» e s v he hl hv =>
    have hmade := h.madeBy he hl (hmem hk)
    obtain ⟨hold, hhost, hnull⟩ := h.holds_of_bound hmade (hmem hk) hv
    have hhead := h.head_of_draws (.variable he hl hv) (hmem hk) hold
    refine ⟨fun hnear => ⟨_, hk, ?_, hold, hhead⟩,
      fun d hd hfeeds hstand => ⟨_, hk, hstand _ (hhosts hd hfeeds hhost), hold, hhead⟩⟩
    rcases hnear with hup | ⟨m, hm, hback | ⟨hc, _⟩⟩
    · exact .inl hup
    · exact .inr ⟨m, hm, h.counted hmade hback (by simp [hnull])⟩
    · exact .inr ⟨m, hm, hc⟩
  | @through e s t v j he hl ht hj hdraws ih =>
    have hmade := h.madeBy he hl (hmem hk)
    obtain ⟨hjmem, hforward⟩ := h.gives_mem heq hmade hk hj
    obtain ⟨ihnear, ihfeeds⟩ := ih hjmem
    have hfeed : p.Feeds e.dst j := ⟨e.dst, .refl, hforward⟩
    have hheld : p.Holds e.dst → p.Stands w e.dst → p.HeldAt done w v := fun hold hstand =>
      ⟨_, hk, hstand, hold, h.head_of_draws (.through he hl ht hj hdraws) (hmem hk) hold⟩
    -- an aggregation that does nothing: its hosts are counted where it goes back to
    have hfolded : ∀ m, ReflTransGen p.graph.Step m w → p.graph.Back e.dst m → p.HeldAt done w v := by
      intro m hm hback
      have htarget := h.target_of_back hmade hback
      have hnull : s.isNull = true := by cases s <;> simp_all [passesOn, Statement.target?, isNull]
      exact ihfeeds _ hk hfeed fun x hx => .inr ⟨m, hm, h.counted hmade hback (by simpa [hnull] using hx)⟩
    have habove : ReflTransGen p.graph.Step e.dst w → p.HeldAt done w v := by
      intro hup
      rcases hj.1 with rfl | hneeds
      · exact ihnear (.inl (hup.head hmade.step))
      · rcases h.depends hf (hmem hk) hneeds with hj | ⟨m, hm, hc⟩
        · exact ihnear (.inl (hj.trans hup))
        · exact ihnear (.inr ⟨m, hm.trans hup, hc⟩)
    refine ⟨?_, fun d hd hfeeds hstand => ?_⟩
    · rintro (hup | ⟨m, hm, hback | ⟨hc, hold⟩⟩)
      · exact habove hup
      · exact hfolded m hm hback
      · exact hheld hold (.inr ⟨m, hm, hc⟩)
    · by_cases hhost : p.IsHost e.dst
      · have hs := hstand _ (hhosts hd hfeeds hhost)
        by_cases hold : p.Holds e.dst
        · exact hheld hold hs
        · obtain ⟨hnothing, hnull⟩ := h.folded_of_host hmade hhost hold
          rcases hs with hup | ⟨m, hm, hc⟩
          · exact habove hup
          · rcases h.orderly.nested m _ (hmem hk) hc hnothing with ⟨t', hback, hup⟩ | hall
            · exact hfolded t' (hup.trans hm) hback
            · refine ihfeeds _ hk hfeed fun x hx => (hall _ (hmade.standIns_eq h.sound h.anchored) x ?_).below hm
              simpa [hnull] using hx
      · exact ihfeeds d hd (hfeeds.through hhost hforward) hstand
  | bare he hl hv hb => exact absurd hb (h.not_bare he hl (hmem hk) (Statement.passesOn_subset _ hv))

lemma head_ne_node (hk : k ∈ order) (hold : p.Holds k) (n : Nat) : (p.slots k).head? ≠ some (.node n) := by
  intro hhead
  have hn := h.sound.refs k n (mem_of_mem_head? hhead)
  obtain ⟨e, he, hl⟩ := h.anchored.first k (by omega) (h.sound.mem_nodes.mp (h.course.mem k hk))
  obtain ⟨s, hl⟩ := Option.isSome_iff_exists.mp hl
  obtain ⟨hmem, hdst⟩ : e ∈ p.graph.arcs ∧ e.dst = k := by
    simpa [Digraph.inArcs] using mem_of_mem_head? he
  subst hdst
  have hmade := h.madeBy hmem hl hk
  rw [hmade.slots h.sound] at hhead
  -- only a filter or a reference could have a number for its text, and these pass on variables
  have hpasses : Slot.node n ∈ s.passesOn := by
    cases s <;> simp_all [outputs, passesOn]
  obtain ⟨hop, hagg, _⟩ := h.carries hmade hold hpasses
  obtain ⟨t, ht, _⟩ := h.orderly.carried e hmem hk s hl hop hagg _ hpasses
  cases ht

/-- An aggregation keeps the nodes that have been passed, hold a variable and stand at its target. -/
lemma keptNodes_ok (hb : b ∈ order) (hback : p.graph.Back b w) (done : List Nat) :
    ∃ ks, p.keptNodes w done = .ok ks ∧ ∀ k, k ∈ ks ↔ p.Stands w k ∧ p.Holds k ∧ k ∈ done := by
  have hup := h.up b w hback
  refine h.sound.keptNodes_ok h.anchored h.up (fun x t hxw => ?_) done
  exact h.course.not_back_of_steps hb (hup.trans_right hxw)

/-- The line of an aggregation lists every variable held at its target, but for its own. -/
lemma kept_ok (heq : order = done ++ rest) (hb : b ∈ order) (hback : p.graph.Back b w) (out : String) :
    ∃ names, p.kept w done out = .ok names ∧ ∀ v, p.HeldAt done w v → v ∈ names ++ [out] := by
  obtain ⟨ks, hks, hmem⟩ := h.keptNodes_ok hb hback done
  have hdone : ∀ {x}, x ∈ done → x ∈ order := fun hx => heq ▸ mem_append_left _ hx
  obtain ⟨names, hnames, hiff⟩ := Plan.kept_ok hks
    (fun k hk => h.head_ne_node (hdone ((hmem k).mp hk).2.2) ((hmem k).mp hk).2.1) out
  refine ⟨names, hnames, ?_⟩
  rintro v ⟨k, hk, hstand, hold, hhead⟩
  by_cases hv : v = out
  · simp [hv]
  · exact mem_append_left _ ((hiff v).mpr ⟨hv, k, (hmem k).mpr ⟨hstand, hold, hk⟩, hhead⟩)

end Passage

end SurveyGraph.Plan
