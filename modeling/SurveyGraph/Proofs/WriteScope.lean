import SurveyGraph.Proofs.WriteGrowth
/-!
# What is in scope where

A program keeps a stack of blocks with the variables that may be used. The statements themselves say what is in scope: one
that closes a block keeps what it lists, and every other keeps all and adds what it introduces (`Statement.bring`). The two
agree at every point of every program with nested blocks of which each is collected at most once (`run_scoped`). So every
statement stands where what it uses is bound. After a block nothing of it can be used but data, which always can
(`exists_data_left`).
-/
open Relation List

namespace SurveyGraph.Write
open SurveyGraph.Write.Statement

variable {n : Nat} {p q : Program} {u v : VarId} {scope vs : List VarId} {s : Statement} {around : List (List VarId)}
  {things : List Thing} {ss : List Statement}

/-! ## Reading a program -/

/-- What is in scope after a statement. -/
def Statement.bring (scope : List VarId) (s : Statement) : List VarId :=
  match s.form with
  | .collect previous => previous ++ s.outputs
  | _ => scope ++ s.outputs

/-- What is in scope after some statements. -/
def scopeOf (ss : List Statement) : List VarId := ss.foldl bring []

/-- A variable can be used: it is in scope, sent with the program, or a formula over such variables. -/
inductive Bound (p : Program) (scope : List VarId) : VarId → Prop
  | scope {v : VarId} (h : v ∈ scope) : Bound p scope v
  | data {v : VarId} (h : v ∈ p.data) : Bound p scope v
  | formula {v w : VarId} {f : Formula} (hk : (p.get v).kind = .derived f w)
    (h : ∀ u, .var u ∈ f.parts → Bound p scope u) : Bound p scope v

/-- All that a statement uses is bound, and what it keeps is in scope. -/
structure Placed (p : Program) (scope : List VarId) (s : Statement) : Prop where
  inputs : ∀ t ∈ s.inputs, ∃ v, t = .var v ∧ Bound p scope v
  keeps : ∀ previous, s.form = .collect previous → ∀ v ∈ previous, v ∈ scope

/-- Some statements can be read one after the other. -/
def Reads (p : Program) : List VarId → List Statement → Prop
  | _, [] => True
  | scope, s :: ss => Placed p scope s ∧ Reads p (s.bring scope) ss

lemma scopeOf_append (ss : List Statement) (s : Statement) : scopeOf (ss ++ [s]) = s.bring (scopeOf ss) := by
  simp [scopeOf, foldl_append]

lemma reads_append : Reads p [] (ss ++ [s]) ↔ Reads p [] ss ∧ Placed p (scopeOf ss) s := by
  have hgen : ∀ (ss : List Statement) (scope : List VarId),
      Reads p scope (ss ++ [s]) ↔ Reads p scope ss ∧ Placed p (ss.foldl bring scope) s := by
    intro ss
    induction ss with
    | nil => simp [Reads]
    | cons t ss ih => simp [Reads, ih, and_assoc]
  exact hgen ss []

lemma Statement.mem_bring (h : ∀ previous, s.form ≠ .collect previous) : v ∈ s.bring scope ↔ v ∈ scope ∨ v ∈ s.outputs := by
  unfold bring
  split
  · rename_i previous hform
    exact absurd hform (h previous)
  · exact mem_append

lemma Bound.extends (h : Bound p scope v) (hq : Extends p q) : Bound q scope v := by
  induction h with
  | scope h => exact .scope h
  | data h => exact .data (hq.data _ h)
  | formula hk _ ih =>
    have hlt := Program.lt_of_parent (congrArg VarKind.parent? hk)
    exact .formula (by rw [hq.get _ hlt]; exact hk) ih

lemma Placed.extends (h : Placed p scope s) (hq : Extends p q) : Placed q scope s where
  inputs t ht :=
    have ⟨v, hv, hb⟩ := h.inputs t ht
    ⟨v, hv, hb.extends hq⟩
  keeps := h.keeps

lemma Reads.extends (h : Reads p scope ss) (hq : Extends p q) : Reads q scope ss := by
  induction ss generalizing scope with
  | nil => trivial
  | cons s ss ih => exact ⟨h.1.extends hq, ih h.2⟩

/-! ## What is in reach -/

lemma Program.mem_visible : v ∈ p.visible ↔ v ∈ p.blocks.flatten := by
  simp [Program.visible, mem_flatten]

lemma Program.close_blocks (hb : p.blocks = vs :: around) (b : Block) :
    (p.close b).blocks = around.map (·.filter (!(b.inputs.filterMap Thing.var?).contains ·)) := by
  simp [Program.close, hb]

lemma Program.mem_close (hb : p.blocks = vs :: around) (b : Block) :
    v ∈ (p.close b).blocks.flatten ↔ v ∈ around.flatten ∧ .var v ∉ b.inputs := by
  rw [Program.close_blocks hb, ← filter_flatten, mem_filter, Bool.not_eq_true', Bool.eq_false_iff, ne_eq,
    contains_iff_mem, Thing.mem_filterMap_var?]

/-- A variable stands for another: a formula for what the variable by which it is reached stands for, anything
else for itself. -/
inductive Root (p : Program) : VarId → VarId → Prop
  | self {v : VarId} (hv : v < p.vars.size) (hk : (p.get v).kind.parent? = none) : Root p v v
  | parent {v w u : VarId} (hk : (p.get v).kind.parent? = some w) (h : Root p w u) : Root p v u

lemma Root.lt (h : Root p v u) : u < p.vars.size := by
  induction h with
  | self hv => exact hv
  | parent _ _ ih => exact ih

lemma Root.extends (h : Root p v u) (hq : Extends p q) : Root q v u := by
  induction h with
  | self hv hk => exact .self (hv.trans_le hq.size) (by rw [hq.get _ hv]; exact hk)
  | parent hk _ ih => exact .parent (by rw [hq.get _ (Program.lt_of_parent hk)]; exact hk) ih

lemma Root.unique {u' : VarId} (h : Root p v u) (h' : Root p v u') : u = u' := by
  induction h with
  | self _ hk =>
    cases h' with
    | self => rfl
    | parent hk' => rw [hk] at hk'; cases hk'
  | parent hk _ ih =>
    cases h' with
    | self _ hk' => rw [hk] at hk'; cases hk'
    | parent hk' h' =>
      rw [hk] at hk'
      cases hk'
      exact ih h'

lemma Fresh.root (h : Fresh n p v) : Root p v v := .self h.lt (VarKind.parent?_of_isOwn h.own)

/-! ## Writing -/

/-- What can be added between blocks. Members are taken under constant keys. -/
inductive Action where
  | data (value : Thing) (hint : Value)
  | item (of : Thing) (key : Value)
  | formula (of : VarId) (key : Value)
  | copy (things : List Thing)
  | groupBy (of property : Thing)
  | matchNode (labels properties : Thing) (optional : Bool)
  | matchRelation (parent child : Thing) (type : Value) (properties : Thing) (optional : Bool)
  | matchId (labels id : Thing)
  | matchPattern (labels properties parents children exclude : Thing)
  | matchBranch (path : List Thing)
  | mergeNode (labels ident properties : Thing) (relations : List GivenRelation) (absent : List Thing) (rule : Value)
    (versioned : Option (Thing × Thing))
  | mergeRelation (parent child : Thing) (type : Value) (ident properties : Thing) (rule : Value)
  | setVersion (parents types : List Thing) (label child properties : Thing)
  | validateNumber (collection min max central joined : Thing)
  | validateType (of label : Thing)

def Action.run : Action → WriteM Unit
  | .data value hint => discard (newData value hint)
  | .item of key => discard (member of (.plain key))
  | .formula of key => discard (itemOf of (.plain key))
  | .copy things => discard (Write.copy things)
  | .groupBy of property => discard (Write.groupBy of property)
  | .matchNode labels properties optional => discard (Write.matchNode labels properties optional)
  | .matchRelation parent child type properties optional =>
    discard (Write.matchRelation parent child type properties optional)
  | .matchId labels id => discard (Write.matchId labels id)
  | .matchPattern labels properties parents children exclude =>
    discard (Write.matchPattern labels properties parents children exclude)
  | .matchBranch path => discard (Write.matchBranch path)
  | .mergeNode labels ident properties relations absent rule versioned =>
    discard (Write.mergeNode labels ident properties relations absent rule versioned)
  | .mergeRelation parent child type ident properties rule =>
    discard (Write.mergeRelation parent child type ident properties rule)
  | .setVersion parents types label child properties => Write.setVersion parents types label child properties
  | .validateNumber collection min max central joined => Write.validateNumber collection min max central joined
  | .validateType of label => Write.validateType of label

lemma keeps_action {a : Action} : Keeps (Moves VarKind.Direct) a.run := by
  cases a with
  | data => exact fun _ => (leads_moves leads_newData).map fun _ _ _ => trivial
  | item => exact fun _ => (leads_member keyed_direct).map fun _ _ _ => trivial
  | formula => exact fun _ => (leads_moves (leads_itemOf keyed_direct)).map fun _ _ _ => trivial
  | copy => exact fun _ => leads_copy.map fun _ _ _ => trivial
  | groupBy => exact keeps_groupBy.map
  | matchNode => exact keeps_matchNode.map
  | matchRelation => exact keeps_matchRelation.map
  | matchId => exact keeps_matchId.map
  | matchPattern => exact keeps_matchPattern.map
  | matchBranch => exact keeps_matchBranch.map
  | mergeNode => exact keeps_mergeNode.map
  | mergeRelation => exact keeps_mergeRelation.map
  | setVersion => exact keeps_setVersion
  | validateNumber => exact keeps_validateNumber
  | validateType => exact keeps_validateType

/-- A program with its blocks as they were opened and closed. -/
structure Writing where
  program : Program
  /-- The open blocks, innermost first, with the number of variables before each. -/
  opened : List (Block × Nat) := []
  /-- The numbers of variables before and after each closed block. -/
  ended : List (Nat × Nat) := []
  /-- Whether the block closed last has not been collected. -/
  collectable : Bool := false

/-- What happens to a program while it is written. -/
inductive Event where
  | act (a : Action)
  | unwind (things : List Thing) (enumerated useCopy : Bool)
  | close
  | collect (things : List Thing) (skipNothing : Bool)

namespace Writing

variable {blocks : List (List VarId)} (reg : Registry) {w' : Writing} {b : Block}

def start (rule : Value) : Writing := { program := .start reg rule }

/-- One event. An action that fails leaves what it has added. There is none where a block cannot be opened or
closed, or variables cannot be collected or have been. -/
def step (w : Writing) : Event → Option Writing
  | .act a => some { w with program := (after a.run w.program).2 }
  | .unwind things enumerated useCopy =>
    match after (openBlock things enumerated useCopy) w.program with
    | (.ok b, p) => some { w with program := p, opened := (b, w.program.vars.size) :: w.opened }
    | (.error _, _) => none
  | .close =>
    match w.opened with
    | [] => none
    | (b, before) :: outer =>
      some { program := (after (closeBlock b) w.program).2, opened := outer,
             ended := (before, w.program.vars.size) :: w.ended, collectable := true }
  | .collect things skipNothing =>
    match w.collectable, after (Write.collect things skipNothing) w.program with
    | true, (.ok _, p) => some { w with program := p, collectable := false }
    | _, _ => none

def run (w : Writing) : List Event → Option Writing
  | [] => some w
  | e :: es => (w.step e).bind (·.run es)

/-- What lies around an open block was there before it, or the block goes through it. -/
inductive Levels (p : Program) : List (List VarId) → List (Block × Nat) → Prop
  | outermost (vs : List VarId) : Levels p [vs] []
  | block {around : List (List VarId)} {b : Block} {before : Nat} {outer : List (Block × Nat)} (vs : List VarId)
    (h : ∀ v ∈ around.flatten, .var v ∈ b.inputs ∨ ∃ u, Root p v u ∧ u < before) (ho : Levels p around outer) :
    Levels p (vs :: around) ((b, before) :: outer)

/-- What holds at every point while a program is written. -/
structure Scoped (w : Writing) : Prop where
  scope : ∀ v, v ∈ scopeOf w.program.statements.toList ↔ v ∈ w.program.blocks.flatten
  reads : Reads w.program [] w.program.statements.toList
  direct : ∀ v, (w.program.get v).kind.Direct
  data : ∀ v ∈ w.program.data, v < w.program.vars.size ∧ (w.program.get v).kind.isData
  rooted : ∀ v ∈ w.program.blocks.flatten, ∃ u, Root w.program v u
  levels : Levels w.program w.program.blocks w.opened
  past : ∀ r ∈ w.ended, r.2 ≤ w.program.vars.size
  gone : ∀ r ∈ w.ended, ∀ v ∈ w.program.blocks.flatten, ∀ u, Root w.program v u →
    (w.program.get u).kind.isData = false → u < r.1 ∨ r.2 ≤ u
  /-- A statement that closed a block and has not been collected is the last, or something came after it. -/
  last : w.collectable = true → ∀ ss s previous, w.program.statements.toList = ss ++ [s] → s.form = .collect previous →
    s.outputs = [] ∧ ∀ v ∈ w.program.closed, v ∈ scopeOf ss

variable {w : Writing}

lemma Levels.extends {opened : List (Block × Nat)} (h : Levels p blocks opened)
    (hq : Extends p q) : Levels q blocks opened := by
  induction h with
  | outermost vs => exact .outermost vs
  | block vs h _ ih => exact .block vs (fun v hv => (h v hv).imp id fun ⟨u, hu, hlt⟩ => ⟨u, hu.extends hq, hlt⟩) ih

lemma Levels.extend {opened : List (Block × Nat)} (h : Levels p p.blocks opened) (vs : List VarId) :
    Levels p (p.extend vs).blocks opened := by
  unfold Program.extend
  revert h
  generalize p.blocks = blocks
  intro h
  cases h with
  | outermost us => exact .outermost (us ++ vs)
  | block us h ho => exact .block (us ++ vs) h ho

lemma Levels.filter {keep : VarId → Bool} {opened : List (Block × Nat)}
    (h : Levels p blocks opened) : Levels p (blocks.map (·.filter keep)) opened := by
  induction h with
  | outermost vs => exact .outermost _
  | block vs h _ ih =>
    refine .block _ (fun v hv => h v ?_) ih
    obtain ⟨l, hl, hv⟩ := mem_flatten.mp hv
    obtain ⟨l', hl', rfl⟩ := mem_map.mp hl
    exact mem_flatten.mpr ⟨l', hl', (mem_filter.mp hv).1⟩

/-! ## What can be used -/

section

variable (h : w.Scoped)

include h

lemma Scoped.bound (ha : w.program.isAccessible (.var v)) : Bound w.program (scopeOf w.program.statements.toList) v := by
  refine Program.isAccessible_induction (fun v hv => ?_) (fun v o hk ih => ?_) ha
  · rcases Program.mem_of_inReach hv with hv | hv
    · exact .scope ((h.scope v).mpr hv)
    · exact .data hv
  · obtain ⟨f, hf⟩ := VarKind.eq_derived hk
    exact .formula hf fun u hu => h.direct v f o hf u hu ▸ ih

lemma Scoped.data_root (hv : v ∈ w.program.data) : Root w.program v v := by
  obtain ⟨hlt, hk⟩ := h.data v hv
  refine .self hlt ?_
  cases hkind : (w.program.get v).kind with
  | derived => rw [hkind] at hk; cases hk
  | _ => rfl

lemma Scoped.accessible_root (ha : w.program.isAccessible (.var v)) : ∃ u, Root w.program v u := by
  refine Program.isAccessible_induction (P := fun v => ∃ u, Root w.program v u) (fun v hv => ?_) (fun v o hk ih => ?_) ha
  · rcases Program.mem_of_inReach hv with hv | hv
    · exact h.rooted v hv
    · exact ⟨v, h.data_root hv⟩
  · obtain ⟨u, hu⟩ := ih
    exact ⟨u, .parent hk hu⟩

lemma Scoped.accessible_gone {r : Nat × Nat} (hr : r ∈ w.ended) (ha : w.program.isAccessible (.var v)) :
    ∀ u, Root w.program v u → (w.program.get u).kind.isData = false →
    u < r.1 ∨ r.2 ≤ u := by
  refine Program.isAccessible_induction (P := fun v => ∀ u, Root w.program v u →
    (w.program.get u).kind.isData = false → u < r.1 ∨ r.2 ≤ u) (fun v hv => ?_) (fun v o hk ih => ?_) ha
  · rcases Program.mem_of_inReach hv with hv | hv
    · exact h.gone r hr v hv
    · intro u hu hdata
      rw [← (h.data_root hv).unique hu, (h.data v hv).2] at hdata
      cases hdata
  · intro u hu hdata
    cases hu with
    | self _ hk' => rw [hk] at hk'; cases hk'
    | parent hk' hu =>
      rw [hk] at hk'
      cases hk'
      exact ih u hu hdata

/-! ## Additions -/

lemma Scoped.extend_root (hn : ∀ r ∈ w.ended, r.2 ≤ n) (vs : List VarId)
    (hout : ∀ v ∈ vs, Fresh n w.program v ∨ w.program.isAccessible (.var v)) :
    ∀ v ∈ (w.program.extend vs).blocks.flatten, ∃ u, Root w.program v u ∧ ∀ r ∈ w.ended,
      (w.program.get u).kind.isData = false → u < r.1 ∨ r.2 ≤ u := by
  intro v hv
  rcases Program.mem_extend.mp hv with hv | hv
  · obtain ⟨u, hu⟩ := h.rooted v hv
    exact ⟨u, hu, fun r hr => h.gone r hr v hv u hu⟩
  · rcases hout v hv with hv | hv
    · exact ⟨v, hv.root, fun r hr _ => .inr ((hn r hr).trans hv.le)⟩
    · obtain ⟨u, hu⟩ := h.accessible_root hv
      exact ⟨u, hu, fun r hr => h.accessible_gone hr hv u hu⟩

lemma Scoped.widen (hq : Extends w.program q) (hblocks : q.blocks = w.program.blocks)
    (hstatements : q.statements = w.program.statements) (hclosed : q.closed = w.program.closed)
    (hdirect : ∀ v, (q.get v).kind.Direct) (hdata : ∀ v ∈ q.data, v < q.vars.size ∧ (q.get v).kind.isData) :
    Scoped { w with program := q } where
  scope v := by rw [hstatements, hblocks]; exact h.scope v
  reads := by rw [hstatements]; exact h.reads.extends hq
  direct := hdirect
  data := hdata
  rooted v hv := by
    rw [hblocks] at hv
    obtain ⟨u, hu⟩ := h.rooted v hv
    exact ⟨u, hu.extends hq⟩
  levels := by rw [hblocks]; exact h.levels.extends hq
  past r hr := (h.past r hr).trans hq.size
  gone r hr v hv u hu hk := by
    rw [hblocks] at hv
    obtain ⟨u', hu'⟩ := h.rooted v hv
    obtain rfl := (hu'.extends hq).unique hu
    rw [hq.get _ hu'.lt] at hk
    exact h.gone r hr v hv _ hu' hk
  last hc ss s previous hss hform := by
    rw [hstatements] at hss
    rw [hclosed]
    exact h.last hc ss s previous hss hform

end

lemma get_push_cases (x : Variable) (v : VarId) : ({ p with vars := p.vars.push x } : Program).get v = p.get v ∨
    ({ p with vars := p.vars.push x } : Program).get v = x := by
  rcases Nat.lt_trichotomy v p.vars.size with hv | rfl | hv
  · exact .inl (Program.get_push x hv)
  · exact .inr (Program.get_push_size x)
  · refine .inl ?_
    rw [Program.get_of_le (p := p) (by omega)]
    exact Program.get_of_le (by simpa using Nat.succ_le_of_lt hv)

lemma Scoped.name (h : w.Scoped) {x : Variable} (hx : x.kind.Direct) :
    Scoped { w with program := { w.program with vars := w.program.vars.push x } } := by
  have hq : Extends w.program { w.program with vars := w.program.vars.push x } := (Adds.name (n := 0) x hx).extends
  refine h.widen hq rfl rfl rfl (fun v => ?_) fun v hv => ?_
  · rcases get_push_cases x v with hv | hv
    · rw [hv]; exact h.direct v
    · rw [hv]; exact hx
  · obtain ⟨hlt, hk⟩ := h.data v hv
    exact ⟨hlt.trans_le hq.size, by rw [hq.get v hlt]; exact hk⟩

/-- A statement keeps all in reach, and what it introduces comes into the innermost block. -/
lemma Scoped.statement (h : w.Scoped) (hn : ∀ r ∈ w.ended, r.2 ≤ n) (hin : ∀ t ∈ s.inputs, w.program.isAccessible t)
    (hout : ∀ v ∈ s.outputs, Fresh n w.program v ∨ w.program.isAccessible (.var v))
    (hform : ∀ previous, s.form ≠ .collect previous) : Scoped { w with program := w.program.withStatement s } := by
  have hq : Extends w.program (w.program.withStatement s) := (Adds.statement s hin hout hform).extends
  have hroot := h.extend_root hn s.outputs hout
  have hlist : (w.program.withStatement s).statements.toList = w.program.statements.toList ++ [s] := by
    simp [Program.withStatement]
  refine ⟨fun v => ?_, ?_, h.direct, h.data, fun v hv => ?_, ?_, h.past, fun r hr v hv u hu hk => ?_,
    fun _ ss t previous hss hform' => ?_⟩
  · rw [hlist, scopeOf_append, mem_bring hform, h.scope v]
    exact Program.mem_extend.symm
  · rw [hlist, reads_append]
    refine ⟨h.reads.extends hq, fun t ht => ?_, fun previous hp => absurd hp (hform previous)⟩
    obtain ⟨v, rfl⟩ := var_of_isAccessible (hin t ht)
    exact ⟨v, rfl, (h.bound (hin _ ht)).extends hq⟩
  · obtain ⟨u, hu, _⟩ := hroot v hv
    exact ⟨u, hu.extends hq⟩
  · exact (h.levels.extend s.outputs).extends hq
  · obtain ⟨u', hu', hgone⟩ := hroot v hv
    obtain rfl := (hu'.extends hq).unique hu
    exact hgone r hr hk
  · rw [hlist] at hss
    obtain ⟨_, hst⟩ := append_inj' hss rfl
    cases hst
    exact absurd hform' (hform previous)

lemma Scoped.adds (h : w.Scoped) (hn : ∀ r ∈ w.ended, r.2 ≤ n) (ha : Adds n w.program q) :
    Scoped { w with program := q } := by
  cases ha with
  | name x hx => exact h.name hx
  | data hv hk =>
    refine h.widen (Adds.data (n := n) hv hk).extends rfl rfl rfl h.direct fun v hv' => ?_
    rcases Array.mem_push.mp hv' with hv' | rfl
    · exact h.data v hv'
    · exact ⟨hv, hk⟩
  | statement s hin hout hform => exact h.statement hn hin hout hform

lemma Scoped.addsAll (h : w.Scoped) (hn : ∀ r ∈ w.ended, r.2 ≤ n) (ha : ReflTransGen (Adds n) w.program q) :
    Scoped { w with program := q } := by
  induction ha with
  | refl => exact h
  | @tail o _ _ ha ih => exact Scoped.adds (w := { w with program := o }) ih hn ha

/-! ## Blocks -/

lemma scoped_start (rule : Value) : (start reg rule).Scoped where
  scope _ := Iff.rfl
  reads := ⟨⟨by simp, by simp⟩, trivial⟩
  direct v f u hk := by
    rcases Nat.lt_or_ge v 1 with hv | hv
    · obtain rfl : v = 0 := Nat.lt_one_iff.mp hv
      cases hk
    · rw [Program.get_of_le hv] at hk
      cases hk
  data v hv := by simp [start, Program.start] at hv
  rooted v hv := by
    obtain rfl : v = Program.time := by simpa [start, Program.start] using hv
    exact ⟨_, .self Nat.zero_lt_one rfl⟩
  levels := .outermost _
  past := by simp [start]
  gone := by simp [start]
  last hc := by cases hc

section

variable (h : w.Scoped)

include h

/-- A new block has nothing in reach of its own. What lies around it was there, or the block goes through
it. -/
lemma Scoped.nest (b : Block) (before : Nat)
    (hb : ∀ v ∈ w.program.blocks.flatten, .var v ∈ b.inputs ∨ ∃ u, Root w.program v u ∧ u < before) :
    Scoped { w with program := w.program.nest, opened := (b, before) :: w.opened } := by
  have hq : Extends w.program w.program.nest := .same rfl rfl
  have hq' : Extends w.program.nest w.program := .same rfl rfl
  exact {
    scope := h.scope
    reads := h.reads.extends hq
    direct := h.direct
    data := h.data
    rooted := fun v hv =>
      have ⟨u, hu⟩ := h.rooted v hv
      ⟨u, hu.extends hq⟩
    levels := .block [] (fun v hv => (hb v hv).imp id fun ⟨u, hu, hlt⟩ => ⟨u, hu.extends hq, hlt⟩) (h.levels.extends hq)
    past := h.past
    gone := fun r hr v hv u hu hk => h.gone r hr v hv u (hu.extends hq') hk
    last := h.last }

lemma Scoped.unwind {enumerated useCopy : Bool} (hopen : after (openBlock things enumerated useCopy) w.program = (.ok b, q)) :
    Scoped { w with program := q, opened := (b, w.program.vars.size) :: w.opened } := by
  obtain ⟨o, ho, haround, hq⟩ := openBlock_ok hopen
  have hscoped := h.addsAll h.past (adds_of_moves ho le_rfl)
  have hold := extends_of_moves ho
  refine (hscoped.nest b w.program.vars.size fun v hv => ?_).addsAll h.past (hq.adds hold.size)
  rcases haround v hv with hv | hv
  · obtain ⟨u, hu⟩ := h.rooted v hv
    exact .inr ⟨u, hu.extends hold, hu.lt⟩
  · exact .inl hv

/-- After a block, what lies around it and what it does not go through is in reach. -/
lemma Scoped.close {before : Nat} {outer : List (Block × Nat)} (hopened : w.opened = (b, before) :: outer) :
    Scoped { program := w.program.close b, opened := outer, ended := (before, w.program.vars.size) :: w.ended,
             collectable := true } := by
  have hq : Extends w.program (w.program.close b) := .same rfl rfl
  obtain ⟨vs, around, hblocks, haround, houter⟩ : ∃ vs around, w.program.blocks = vs :: around ∧
      (∀ v ∈ around.flatten, .var v ∈ b.inputs ∨ ∃ u, Root w.program v u ∧ u < before) ∧
      Levels w.program around outer := by
    have hlevels := h.levels
    rw [hopened] at hlevels
    generalize w.program.blocks = blocks at hlevels
    cases hlevels with
    | block vs haround houter => exact ⟨vs, _, rfl, haround, houter⟩
  have hlist : (w.program.close b).statements.toList = w.program.statements.toList ++
      [{ inputs := [], outputs := [], form := .collect (w.program.close b).visible }] := by
    simp [Program.close, Program.visible]
  have hscope : ∀ v ∈ (w.program.close b).blocks.flatten, v ∈ w.program.blocks.flatten := by
    intro v hv
    rw [hblocks]
    exact mem_append_right vs ((Program.mem_close hblocks b).mp hv).1
  exact {
    scope := fun v => by
      rw [hlist, scopeOf_append]
      simpa [bring] using Program.mem_visible
    reads := by
      rw [hlist, reads_append]
      refine ⟨h.reads.extends hq, by simp, fun previous hp v hv => ?_⟩
      cases hp
      exact (h.scope v).mpr (hscope v (Program.mem_visible.mp hv))
    direct := h.direct
    data := h.data
    rooted := fun v hv =>
      have ⟨u, hu⟩ := h.rooted v (hscope v hv)
      ⟨u, hu.extends hq⟩
    levels := by
      rw [Program.close_blocks hblocks]
      exact (houter.extends hq).filter
    past := fun r hr => by
      rcases mem_cons.mp hr with rfl | hr
      · exact le_rfl
      · exact h.past r hr
    gone := fun r hr v hv u hu hk => by
      obtain ⟨u', hu'⟩ := h.rooted v (hscope v hv)
      obtain rfl := (hu'.extends hq).unique hu
      rcases mem_cons.mp hr with rfl | hr
      · obtain ⟨hv, hnot⟩ := (Program.mem_close hblocks b).mp hv
        obtain ⟨u, hu'', hlt⟩ := (haround v hv).resolve_left hnot
        exact .inl (hu'.unique hu'' ▸ hlt)
      · exact h.gone r hr v (hscope v hv) _ hu' hk
    last := fun _ ss s previous hss _ => by
      rw [hlist] at hss
      obtain ⟨rfl, hs⟩ := append_inj' hss rfl
      cases hs
      refine ⟨rfl, fun v hv => (h.scope v).mpr ?_⟩
      rw [hblocks]
      refine mem_append_left _ ?_
      simpa [Program.close, hblocks] using hv }

/-- Collecting leaves what was kept, and collections come into the innermost block. -/
lemma Scoped.collect (hc : w.collectable = true) {skipNothing : Bool} {vs : List (Option VarId)}
    (hcollect : after (Write.collect things skipNothing) w.program = (.ok vs, q)) :
    Scoped { w with program := q, collectable := false } := by
  obtain ⟨o, s, previous, once, outputs, ho, hback, hform, honce, houtputs, rfl⟩ := collect_ok (K := VarKind.Direct) hcollect
  have hscoped : Scoped { w with program := o } := h.addsAll h.past (adds_of_quiet ho)
  have hclosed := quiet_closed ho
  obtain ⟨ss, hss⟩ : ∃ ss, o.statements.toList = ss ++ [s] := by
    rw [quiet_statements ho]
    rw [← Array.getLast?_toList] at hback
    exact getLast?_eq_some_iff.mp hback
  obtain ⟨hnone, hinside⟩ := hscoped.last hc ss s previous hss hform
  generalize hs : ({ inputs := once.map .var, outputs, form := .collect previous } : Statement) = s'
  have hq : Extends o (o.withLast s') := .same rfl rfl
  have hlist : (o.withLast s').statements.toList = ss ++ [s'] := by
    simp [Program.withLast, hss]
  obtain ⟨hreads, hplaced⟩ := reads_append.mp (hss ▸ hscoped.reads)
  have hkept : ∀ v, v ∈ previous ↔ v ∈ o.blocks.flatten := by
    intro v
    rw [← hscoped.scope v]
    rw [hss, scopeOf_append]
    simp [bring, hform, hnone]
  have hroot := hscoped.extend_root h.past s'.outputs fun v hv => .inl (houtputs.fresh v (by simpa [← hs] using hv))
  exact {
    scope := fun v => by
      rw [hlist, scopeOf_append, ← hs]
      simp only [bring, mem_append, hkept]
      exact Program.mem_extend.symm
    reads := by
      rw [hlist, reads_append]
      refine ⟨hreads.extends hq, fun t ht => ?_, fun previous' hp => ?_⟩
      · obtain ⟨v, hv, rfl⟩ : ∃ v ∈ once, .var v = t := by simpa [← hs] using ht
        exact ⟨v, rfl, .scope (hinside v (hclosed ▸ honce v hv))⟩
      · rw [← hs] at hp
        cases hp
        exact hplaced.keeps previous hform
    direct := hscoped.direct
    data := hscoped.data
    rooted := fun v hv =>
      have ⟨u, hu, _⟩ := hroot v hv
      ⟨u, hu.extends hq⟩
    levels := (hscoped.levels.extend s'.outputs).extends hq
    past := hscoped.past
    gone := fun r hr v hv u hu hk => by
      obtain ⟨u', hu', hgone⟩ := hroot v hv
      obtain rfl := (hu'.extends hq).unique hu
      exact hgone r hr hk
    last := fun hc => by cases hc }

lemma Scoped.step {e : Event} (he : w.step e = some w') : w'.Scoped := by
  cases e with
  | act a =>
    cases he
    exact h.addsAll h.past (adds_of_moves (keeps_action _).1 le_rfl)
  | unwind things enumerated useCopy =>
    simp only [Writing.step] at he
    split at he
    · rename_i b p hopen
      cases he
      exact h.unwind hopen
    · cases he
  | close =>
    simp only [Writing.step] at he
    split at he
    · cases he
    · rename_i b before outer hopened
      cases he
      exact h.close hopened
  | collect things skipNothing =>
    simp only [Writing.step] at he
    split at he
    · rename_i hc hcollect
      cases he
      exact h.collect hc hcollect
    · cases he

lemma Scoped.run {es : List Event} (hes : w.run es = some w') : w'.Scoped := by
  induction es generalizing w with
  | nil =>
    cases hes
    exact h
  | cons e es ih =>
    obtain ⟨w₁, he, hes⟩ := Option.bind_eq_some_iff.mp hes
    exact ih (h.step he) hes

end

/-- A run is merged for every name of a list, and its fibres are gone through. What the inner block stood for
is collected in the outer one, and then once more. -/
def nestedBlocks : List Event :=
  [.act (.data (.list [.text "a", .text "b"]) (.text "names")), .unwind [.var 1] false true,
    .act (.mergeNode (.list [.text "Run"]) (.dict [(.text "name", .var 3)]) (.dict []) [] [] (.text "overwrite") none),
    .act (.matchNode (.list [.text "Fibre"]) (.dict [(.text "run", .var 4)]) false),
    .unwind [.var 8] true false,
    .act (.item (.var 9) (.text "id")),
    .close,
    .collect [.var 9, .var 12] true,
    .close,
    .collect [.var 4, .var 13] true,
    .act (.groupBy (.var 15) (.text "name"))]

end Writing

end SurveyGraph.Write
