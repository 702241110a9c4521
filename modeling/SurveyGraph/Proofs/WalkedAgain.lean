import SurveyGraph.Proofs.ScopeKept
/-!
# Branches that are walked again

When an aggregation goes back past a result, that result is dropped, and the branch where it is made is opened again if
something not done is reached from there. So where a walk goes down to a node from which something new is reached through
nodes that are not done (`Serves`), nothing that the node depends on has been dropped (`Guarded`).

Branches are opened again too for what is reached only through nodes that are done. Walking them serves nothing, and what
they depend on may have been dropped.
-/
open Relation List

namespace SurveyGraph.Digraph

variable {σ : Type} {g : Digraph σ} {w w' : Walk} {done done' order order' : List Nat} {n m x y t : Nat}

/-- From a node, one where the order has not been is reached through nodes that are not done. -/
inductive Serves (g : Digraph σ) (done order : List Nat) : Nat → Prop
  | new {n : Nat} (hn : n ∉ done) (ho : n ∉ order) : Serves g done order n
  | on {n m : Nat} (hn : n ∉ done) (hnm : g.Forward n m) (hm : Serves g done order m) : Serves g done order n

/-- Since an order came to `x`, nothing went back past `m`. -/
def Remains (g : Digraph σ) (order : List Nat) (m x : Nat) : Prop :=
  ∃ pre post, order = pre ++ x :: post ∧ ∀ b ∈ post, ∀ t, g.Back b t → ReflTransGen g.Step m t

/-- When the walk last was at a node above the place where it goes on, all that was aggregated and could serve
something remained. What was not done then is not done now, or has been passed since. -/
def Guarded (g : Digraph σ) (w : Walk) : Prop :=
  ∀ pre u post, w.order = pre ++ u :: post → u ∉ post → ReflTransGen g.Step u w.node →
    (∀ t, g.Back w.node t → ReflTransGen g.Step u t) → ∀ x m y, g.Back x m → g.Forward x y → x ∈ w.doneNodes →
    x ∉ post → g.Serves (u :: w.doneNodes.filter (· ∉ post)) w.order y →
    ReflTransGen g.Step m u ∧ g.Remains (pre ++ [u]) m x

lemma Serves.mono (h : g.Serves done' order' n) (hd : done ⊆ done') (ho : order ⊆ order') : g.Serves done order n := by
  induction h with
  | new hn hnew => exact .new (fun h => hn (hd h)) fun h => hnew (ho h)
  | on hn hnm _ ih => exact .on (fun h => hn (hd h)) hnm ih

lemma Serves.reaches (h : g.Serves done order n) (hm : m ∈ done) :
    ∃ z, z ∉ done ∧ z ∉ order ∧ ReflTransGen (fun a b => g.Forward a b ∧ a ≠ m ∧ b ≠ m) n z := by
  have hne : ∀ {k}, k ∉ done → k ≠ m := fun hk hkm => hk (hkm ▸ hm)
  induction h with
  | new hn hnew => exact ⟨_, hn, hnew, .refl⟩
  | @on n k hn hnk hk ih =>
    obtain ⟨z, hz, hnew, hpath⟩ := ih
    have hk' : k ∉ done := by cases hk <;> assumption
    exact ⟨z, hz, hnew, hpath.head ⟨hnk, hne hn, hne hk'⟩⟩

lemma Remains.snoc (h : g.Remains order m x) (hn : ∀ t, g.Back n t → ReflTransGen g.Step m t) :
    g.Remains (order ++ [n]) m x := by
  obtain ⟨pre, post, rfl, hpost⟩ := h
  refine ⟨pre, post ++ [n], by simp, fun b hb => ?_⟩
  rcases mem_append.mp hb with hb | hb
  · exact hpost b hb
  · exact mem_singleton.mp hb ▸ hn

lemma mem_reachableFrom (h : g.Closed) : m ∈ g.reachableFrom n ↔ ReflTransGen g.Arrow n m := by
  have hall : ∀ x ∈ n :: g.nodes, ∀ y ∈ g.successors x, y ∈ n :: g.nodes :=
    fun x _ y hy => .tail _ (h.arrow (mem_successors.mp hy)).2
  rw [reachableFrom, Shortest.mem_closure_iff hall (by simp) (by simp)]
  simp only [mem_successors]

/-- A node of a branch is opened again if something new is reached from it through nodes not done. -/
lemma mem_reopened (hc : g.Closed) {branch : List Nat} (hx : x ∈ branch.dropLast) (hne : x ≠ w.node) (hxy : g.Forward x y)
    (hs : g.Serves done order y) (hnode : w.node ∈ done)
    (hnew : ∀ z, z ∉ done → z ∉ order → z ∉ w.doneNodes ∧ z ∉ branch) : x ∈ g.reopened w branch := by
  have hclosed : (g.forward.filterNodes (· != w.node)).Closed := by
    intro e he
    simp only [filterNodes, mem_filter, Bool.and_eq_true] at he ⊢
    exact ⟨⟨((hc.filterArcs _) e he.1).1, he.2.1⟩, ((hc.filterArcs _) e he.1).2, he.2.2⟩
  have harrow : ∀ {a b}, g.Forward a b ∧ a ≠ w.node ∧ b ≠ w.node → (g.forward.filterNodes (· != w.node)).Arrow a b := by
    rintro a b ⟨⟨e, he, hw, rfl, rfl⟩, ha, hb⟩
    exact ⟨e, by simp [filterNodes, forward, filterArcs, he, hw, ha, hb], rfl, rfl⟩
  obtain ⟨z, hz, hzo, hpath⟩ := hs.reaches hnode
  have hy : y ≠ w.node := by
    rintro rfl
    cases hs <;> contradiction
  have hxz := hpath.head ⟨hxy, hne, hy⟩
  have hzn : z ∈ g.nodes := by
    obtain ⟨b, _, hbz⟩ := TransGen.tail'_iff.mp (TransGen.head' (r := fun a b => g.Forward a b ∧ a ≠ w.node ∧ b ≠ w.node)
      ⟨hxy, hne, hy⟩ hpath)
    exact (hc.arrow hbz.1.arrow).2
  refine mem_filter.mpr ⟨by simpa using hx, any_eq_true.mpr ⟨z, ?_, ?_⟩⟩
  · exact (mem_reachableFrom hclosed).mpr (ReflTransGen.mono (fun _ _ h => harrow h) _ _ hxz)
  · simp [undone, hzn, (hnew z hz hzo).1, (hnew z hz hzo).2]

section Moves

variable (hg : g.Climbing) (hd : g.Descent w) (h : g.Guarded w)

include hg hd

/-- Where an arc back leaves the branch since `t`, it leads below `t`. -/
lemma Descent.backs_below {pre post : List Nat} (ht : g.Back w.node t) (horder : w.order = pre ++ t :: post) (hpost : t ∉ post)
    {b s : Nat} (hb : b ∈ post) (hbs : g.Back b s) : ReflTransGen g.Step t s := by
  have hbelow : ∀ x ∈ post, TransGen g.Step t x :=
    (hd.below pre t post horder hpost).resolve_right (fun h => h (hg.up _ _ ht).to_reflTransGen)
  obtain ⟨l₁, l₂, rfl⟩ := append_of_mem hb
  cases l₂ with
  | nil =>
    have hend : w.order = (pre ++ t :: l₁) ++ [b] := by simp [horder]
    obtain ⟨l, hl⟩ := hd.ends hend (by simp)
    obtain rfl : b = w.node := by simpa using congrArg List.getLast? hl
    rw [hg.oneBack _ _ _ hbs ht]
  | cons c l₂ =>
    obtain rfl := hd.backs (pre ++ t :: l₁) b c l₂ (by simp [horder]) s hbs
    exact (hbelow c (by simp)).to_reflTransGen

/-- The walk last was at a node above before it last was below. -/
lemma Descent.last_above {pre post pre' post' : List Nat} {u : Nat} (hu : w.order = pre ++ u :: post) (hpost : u ∉ post)
    (ht : w.order = pre' ++ t :: post') (hpost' : t ∉ post') (hut : TransGen g.Step u t)
    (htn : ReflTransGen g.Step t w.node) : t :: post' ⊆ post := by
  have hnot : u ∉ t :: post' := by
    intro hmem
    rcases mem_cons.mp hmem with rfl | hmem
    · exact Nat.lt_irrefl _ (hg.lt hut)
    · have htu := (hd.below pre' t post' ht hpost').resolve_right (fun h => h htn) u hmem
      exact Nat.lt_irrefl _ ((hg.lt hut).trans (hg.lt htu))
  have heq : pre ++ u :: post = pre' ++ t :: post' := hu.symm.trans ht
  rcases append_eq_append_iff.mp heq with ⟨l, hl, hl'⟩ | ⟨l, hl, hl'⟩
  · cases l with
    | nil =>
      obtain ⟨rfl, -⟩ := cons.inj (hl'.trans (nil_append _))
      exact absurd mem_cons_self hnot
    | cons a l =>
      obtain ⟨rfl, rfl⟩ := cons.inj hl'
      exact fun _ hz => mem_append_right l hz
  · refine absurd ?_ hnot
    rw [hl']
    exact mem_append_right l mem_cons_self

include h

lemma Guarded.down (hb : g.backOptions w = []) (hn : n ∈ g.stepOptions w) (hnode : w'.node = n)
    (horder : w'.order = w.order ++ [n]) (hmem : ∀ k, k ∈ w'.doneNodes → k ∈ w.doneNodes ∨ k = w.node ∨ k = n)
    (hsub : w.doneNodes ++ [w.node] ⊆ w'.doneNodes) : g.Guarded w' := by
  obtain ⟨hstep, hnot⟩ := mem_stepOptions.mp hn
  obtain ⟨ord, hlast⟩ := hd.last
  have hno := hd.no_back hb
  intro pre u post heq hu hun hback x m y hxm hxy hx hxp hs
  rw [hnode] at hun hback
  rw [horder] at heq hs
  have hxw : x ≠ w.node := by
    rintro rfl
    exact hno m hxm
  rcases snoc_eq_split heq with ⟨rfl, rfl, rfl⟩ | ⟨post, rfl, hold⟩
  · -- nothing goes back from where the walk has come to
    have hun' : ∀ t, ¬ g.Back u t := fun t ht =>
      Nat.lt_irrefl _ ((hg.lt (hg.up u t ht)).trans_le (by
        rcases reflTransGen_iff_eq_or_transGen.mp (hback t ht) with rfl | htr
        · exact le_rfl
        · exact (hg.lt htr).le))
    have hxd : x ∈ w.doneNodes := by
      rcases hmem x hx with hx | hx | rfl
      · exact hx
      · exact absurd hx hxw
      · exact absurd hxm (hun' m)
    have hs' : g.Serves (w.node :: w.doneNodes.filter (· ∉ [])) w.order y := by
      refine hs.mono (fun k hk => ?_) (by simp)
      have : k ∈ w.doneNodes ++ [w.node] := by simpa [or_comm] using hk
      exact mem_cons_of_mem _ (by simpa using hsub this)
    obtain ⟨hmw, hrem⟩ := h ord w.node [] hlast (by simp) .refl (fun t ht => absurd ht (hno t)) x m y hxm hxy hxd
      (by simp) hs'
    rw [← hlast] at hrem
    exact ⟨hmw.tail hstep, hrem.snoc fun t ht => absurd ht (hun' t)⟩
  · simp only [mem_append, mem_singleton, not_or] at hu hxp
    have huw : ReflTransGen g.Step u w.node := by
      rcases reflTransGen_iff_eq_or_transGen.mp hun with rfl | hun
      · exact absurd rfl hu.2
      · exact hg.above hstep hun
    have hxd : x ∈ w.doneNodes := ((hmem x hx).resolve_right (by simp [hxw, hxp.2]))
    refine h pre u post hold hu.1 huw (fun t ht => absurd ht (hno t)) x m y hxm hxy hxd hxp.1 (hs.mono (fun k hk => ?_) (by simp))
    rcases mem_cons.mp hk with rfl | hk
    · simp
    · obtain ⟨hk, hkp⟩ : k ∈ w.doneNodes ∧ k ∉ post := by simpa using hk
      have hkn : k ≠ n := fun hkn => hnot (hkn ▸ hk)
      exact mem_cons_of_mem _ (by simp [hsub (mem_append_left _ hk), hkp, hkn])

lemma Guarded.up (ht : g.Back w.node t) {pre₀ post₀ : List Nat} (horder : w.order = pre₀ ++ t :: post₀) (hpost : t ∉ post₀) :
    g.Guarded ((w.reopen t (g.reopened w (t :: post₀))).go t) := by
  have hup : TransGen g.Step t w.node := hg.up _ _ ht
  have htno : ∀ s, ¬ g.Back t s := fun s => hd.free t s hup
  have hagain : ∀ {k}, k ∈ g.reopened w (t :: post₀) → k ∈ t :: post₀ := fun hk => mem_of_mem_dropLast (reopened_subset hk)
  have hdone : ∀ k, k ∈ ((w.reopen t (g.reopened w (t :: post₀))).go t).doneNodes ↔
      (k ∈ w.doneNodes ∧ k ∉ g.reopened w (t :: post₀)) ∨ k = w.node := by
    simp [Walk.go]
  obtain ⟨l₀, hl⟩ := hd.ends horder (cons_ne_nil t post₀)
  intro pre u post heq hu hun _ x m y hxm hxy hx hxp hs
  simp only [Walk.go_order, Walk.reopen_order] at heq hs
  have hun : ReflTransGen g.Step u t := hun
  rcases snoc_eq_split heq with ⟨rfl, rfl, rfl⟩ | ⟨post, rfl, hold⟩
  · by_cases hxw : x = w.node
    · obtain ⟨ord, hlast⟩ := hd.last
      subst hxw
      rw [hg.oneBack _ _ _ hxm ht]
      exact ⟨.refl, ord, [u], by simp [hlast], by simpa using fun s hs => absurd hs (htno s)⟩
    obtain ⟨hxd, hxa⟩ := ((hdone x).mp hx).resolve_right hxw
    by_cases hxp₀ : x ∈ post₀
    · -- what was aggregated on the branch is opened again
      refine absurd (mem_reopened hg.closed ?_ hxw hxy hs (mem_cons_of_mem _ ?_) fun z hz hzo => ?_) hxa
      · have hmem := mem_cons_of_mem u hxp₀
        rw [hl] at hmem ⊢
        simpa [hxw] using hmem
      · simp [hdone]
      · simp only [mem_append, mem_singleton, not_or] at hzo
        have hzb : z ∉ u :: post₀ := fun hzb => hzo.1 (horder ▸ mem_append_right _ hzb)
        refine ⟨fun hzd => hz (mem_cons_of_mem _ ?_), hzb⟩
        simp only [mem_filter, hdone]
        exact ⟨.inl ⟨hzd, fun hza => hzb (hagain hza)⟩, by simp⟩
    · have hs' : g.Serves (u :: w.doneNodes.filter (· ∉ post₀)) w.order y := by
        refine hs.mono (fun k hk => ?_) (by simp)
        by_cases hku : k = u
        · simp [hku]
        · obtain ⟨hk, hkp⟩ : k ∈ w.doneNodes ∧ k ∉ post₀ := by simpa [hku] using hk
          refine mem_cons_of_mem _ ?_
          simp only [mem_filter, hdone]
          exact ⟨.inl ⟨hk, fun ha => by simpa [hku, hkp] using hagain ha⟩, by simp⟩
      obtain ⟨hmu, l, post, hpre, hrem⟩ := h pre₀ u post₀ horder hpost hup.to_reflTransGen
        (fun s hs => hg.oneBack _ _ _ hs ht ▸ .refl) x m y hxm hxy hxd hxp₀ hs'
      refine ⟨hmu, l, post ++ post₀ ++ [u], ?_, fun b hb s hbs => ?_⟩
      · rw [horder, ← singleton_append (l := post₀), ← append_assoc pre₀, hpre]
        simp
      · simp only [mem_append, mem_singleton] at hb
        rcases hb with (hb | hb) | rfl
        · exact hrem b hb s hbs
        · exact hmu.trans (hd.backs_below hg ht horder hpost hb hbs)
        · exact absurd hbs (htno s)
  · simp only [mem_append, mem_singleton, not_or] at hu hxp
    have hut : TransGen g.Step u t := (reflTransGen_iff_eq_or_transGen.mp hun).resolve_left fun h => hu.2 h.symm
    have hsub := hd.last_above hg hold hu.1 horder hpost hut hup.to_reflTransGen
    have hwp : w.node ∈ post := hsub (by rw [hl]; simp)
    have hxd : x ∈ w.doneNodes := (((hdone x).mp hx).resolve_right fun hxw => hxp.1 (hxw ▸ hwp)).1
    refine h pre u post hold hu.1 (hun.trans hup.to_reflTransGen) (fun s hs => hg.oneBack _ _ _ hs ht ▸ hun) x m y hxm hxy
      hxd hxp.1 (hs.mono (fun k hk => ?_) (by simp))
    rcases mem_cons.mp hk with rfl | hk
    · simp
    · obtain ⟨hk, hkp⟩ : k ∈ w.doneNodes ∧ k ∉ post := by simpa using hk
      refine mem_cons_of_mem _ ?_
      simp only [mem_filter, hdone]
      have hkt : k ≠ t := fun hkt => hkp (hkt ▸ hsub mem_cons_self)
      exact ⟨.inl ⟨hk, fun ha => hkp (hsub (hagain ha))⟩, by simp [hkp, hkt]⟩

lemma Guarded.move (hm : g.Move w w') : g.Guarded w' := by
  cases hm with
  | back hn hv =>
    obtain ⟨pre, post, horder, hpost, rfl⟩ := goBack_ok hv
    exact h.up hg hd (mem_backOptions.mp hn).1 horder hpost
  | step hb hn =>
    refine h.down hg hd hb hn rfl rfl (fun k hk => ?_) (by simp [Walk.go])
    have hk : k ∈ w.doneNodes ∨ k = w.node := by simpa [Walk.go] using hk
    exact hk.imp_right .inl
  | choose hb hn => exact h.down hg hd hb hn rfl rfl (fun k hk => by simpa [Walk.go, or_assoc] using hk) (by simp [Walk.go])

end Moves

/-- A walk may come to be under way like this. -/
def Reached (g : Digraph σ) (w : Walk) : Prop := ∃ a, ReflTransGen g.Move { node := a, order := [a] } w

/-- Wherever an order has a step that serves something, what was aggregated and is needed there remains. -/
def Served (g : Digraph σ) (order : List Nat) : Prop :=
  ∀ pre a b post, order = pre ++ a :: b :: post → g.Step a b → ∀ d, g.Needs d b →
    ∃ v, g.Reached v ∧ v.node = a ∧ v.order = pre ++ [a] ∧
      (g.Serves (a :: v.doneNodes) v.order b → ∀ m, g.Back d m → g.Remains (pre ++ [a]) m d)

lemma Served.move (hg : g.Climbing) (hacyclic : ∀ n, ¬ TransGen g.Forward n n) (hreached : g.Reached w) (hd : g.Descent w)
    (hguard : g.Guarded w) (h : g.Served w.order) (hm : g.Move w w') (hready : g.isReady w' w'.node = true) :
    g.Served w'.order := by
  intro pre a b post heq hstep d hneeds
  obtain ⟨n, hnode, horder, hdone, _, hmove⟩ := hm.spec
  have heq : w.order ++ [n] = (pre ++ [a]) ++ b :: post := by simpa [horder] using heq
  rcases snoc_eq_split heq with ⟨_, rfl, hpre⟩ | ⟨post, rfl, hold⟩
  · obtain ⟨ord, hlast⟩ := hd.last
    obtain ⟨rfl, rfl⟩ : ord = pre ∧ w.node = a := by simpa using append_inj' (hlast.symm.trans hpre.symm) rfl
    refine ⟨w, hreached, rfl, hlast, fun hs m hdm => ?_⟩
    have hb : g.backOptions w = [] := by
      rcases hmove with ⟨hback, _⟩ | ⟨_, hb⟩
      · exact absurd hback (hg.simple.not_step_back hstep)
      · exact hb
    have hdd : d ∈ w.doneNodes := by
      rcases hdone d (isReady_iff.mp hready d (hnode ▸ hneeds)) with hdd | rfl | rfl
      · exact hdd
      · exact absurd hdm (hd.no_back hb m)
      · exact absurd (.single hneeds.forward) (hacyclic d)
    exact (hguard ord w.node [] hlast (by simp) .refl (fun t ht => absurd ht (hd.no_back hb t)) d m b hdm
      hneeds.forward hdd (by simp) (by simpa using hs)).2
  · exact h pre a b post (by simpa using hold) hstep d hneeds

lemma walk_served (hg : g.Climbing) (hnd : g.nodes.Nodup) {fuel : Nat} (hw : g.walk none none fuel = .ok order) :
    g.Served order := by
  obtain ⟨s, f, w, hends, hcomp, rfl⟩ := walk_ok hw
  obtain ⟨topo, htopo, _⟩ := endsOr_ok hends
  have hroot := (endsOr_start hg.closed hnd hends).2
  have hstart : g.Served [s] := by
    intro pre a b post heq
    have := congrArg List.length heq
    simp at this
    omega
  -- that a node is ready is known when the walk goes on from it
  obtain ⟨⟨_, _, _, hserved⟩, hready, _⟩ := complete_induction hg.simple hg.oneBack
    (P := fun w => g.Reached w ∧ g.Descent w ∧ g.Guarded w ∧ (g.isReady w w.node = true → g.Served w.order))
    (fun w v ⟨⟨c, hc⟩, hd, hguard, hserved⟩ hr hm => ⟨⟨c, hc.tail hm⟩, hd.move hg hm, hguard.move hg hd hm,
      (hserved hr).move hg (acyclic_of_topologicalOrder hg.closed hnd htopo) ⟨c, hc⟩ hd hguard hm⟩)
    fuel ⟨⟨s, .refl⟩, .start fun m hm => hroot m hm.forward, fun pre u post _ _ _ _ x m y _ _ hx => by simp at hx, fun _ => hstart⟩
    hcomp
  exact hserved hready

end SurveyGraph.Digraph

namespace SurveyGraph.Plan

variable {p : Plan} {order : List Nat} {r : Nat}

/-- What has been dropped is used neither by a step that serves nothing any more, nor by a line that keeps what has
been passed. -/
structure Careful (p : Plan) (r : Nat) (order : List Nat) : Prop where
  idle : ∀ w pre b post, (p.needed r).Reached w → w.order = pre ++ [w.node] → order = pre ++ w.node :: b :: post →
    p.graph.Step w.node b → ¬ (p.needed r).Serves (w.node :: w.doneNodes) w.order b →
    ∀ d, p.graph.Needs d b → p.Available w.order w.node d
  keeps : p.KeepsAvailable order

lemma Fresh.careful (h : p.Fresh order) : p.Careful r order where
  idle w pre b post _ hw heq hstep _ d hd := hw ▸ h.depends pre w.node b post heq hstep d hd
  keeps := h.keeps

lemma Passage.lasts_of_remains (h : p.Passage order) {done rest : List Nat} (heq : order = done ++ rest) {m k : Nat}
    (hr : ∀ n ∈ order, ReflTransGen p.graph.Forward n r) (hrem : (p.needed r).Remains done m k) : p.Lasts done m k := by
  obtain ⟨pre, post, rfl, hpost⟩ := hrem
  refine ⟨pre, post, rfl, fun a b w hab ⟨e, he, hsrc, hdst, i, t, n, o, hl⟩ => ?_⟩
  have hb : b ∈ post := by simpa using (of_mem_zip hab).2
  have hmem : b ∈ order := by simp [heq, hb]
  have hmade : p.MadeBy b e _ := hdst ▸ h.madeBy he hl (hdst ▸ hmem)
  have hback := (h.aggregate_back hmem hmade.step hmade).1
  refine ReflTransGen.mono (fun _ _ hs => ((Digraph.step_restrictedTo h.sound.closed).mp hs).1) _ _ (hpost b hb w ?_)
  exact hback.restrictedTo h.sound.closed h.up (hr b hmem)

/-- Along a walk, steps that serve something find what they depend on. -/
lemma Built.fresh (hb : Built p) (hup : p.GoesUp) (hwalk : (p.needed r).walk none none = .ok order)
    (hcheck : (p.needed r).checkWalk order = .ok ()) (ho : p.Orderly order) (hc : p.Careful r order) : p.Fresh order := by
  have h := hb.passage hup hwalk hcheck ho
  have hg := h.sound.needed_climbing hup r
  have hnd : (p.needed r).nodes.Nodup := (h.sound.nodes ▸ nodup_range).filter _
  have hcourse := Digraph.walk_course hg hnd hwalk hcheck
  have hr : ∀ n ∈ order, ReflTransGen p.graph.Forward n r := fun n hn =>
    ((Digraph.mem_restrictedTo_nodes h.sound.closed).mp (hcourse.mem n hn)).2
  refine ⟨fun pre a b post heq hstep d hneeds => ?_, hc.keeps⟩
  have hbr := hr b (by simp [heq])
  rcases ho.depends a b d hstep (by simp [heq]) hneeds with habove | ⟨m, hback, hm⟩
  · exact .inl habove
  · obtain ⟨v, hv, rfl, hvo, hserves⟩ := Digraph.walk_served hg hnd hwalk pre a b post heq
      ((Digraph.step_restrictedTo h.sound.closed).mpr ⟨hstep, hbr⟩) d (hneeds.restrictedTo h.sound.closed hbr)
    by_cases hs : (p.needed r).Serves (v.node :: v.doneNodes) v.order b
    · have hdr : ReflTransGen p.graph.Forward d r := hbr.head hneeds.forward
      have hrem := hserves hs m (hback.restrictedTo h.sound.closed hup hdr)
      exact .inr ⟨m, hm, .inl hback, h.lasts_of_remains (heq.trans (append_cons pre v.node (b :: post))) hr hrem⟩
    · exact hvo ▸ hc.idle v pre b post hv hvo heq hstep hs d hneeds

end SurveyGraph.Plan
