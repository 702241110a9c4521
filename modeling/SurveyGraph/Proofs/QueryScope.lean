import SurveyGraph.Proofs.WalkCourse
import SurveyGraph.Proofs.PlanKept
/-!
# What a query mentions, and what is in scope

A line that matches, unwinds or copies adds variables to those in scope; the line of an aggregation keeps those that it lists
and the one that it makes. The text of an operation stands in the lines that use it, so these mention the variables that it
was made of (`Draws`).

Two conditions say that every statement can rely on what it uses. `Orderly`: the texts of statements come from the nodes that
they depend on. `Fresh`: what a statement depends on, and what the line of an aggregation keeps, has not been dropped since
the walk came to it.
-/
open Relation List

namespace SurveyGraph

namespace Statement

def inputs : Statement → List Slot
  | .start .. => []
  | .traversal source .. | .union source .. => [source]
  | .null slots => slots.head?.toList
  | .operation inputs .. | .pick inputs .. => inputs
  | .property input .. | .product input .. | .assign input _ | .slice input .. | .aggregate input .. => [input]
  | .directFilter target condition | .copyFilter target condition _ => [target, condition]
  -- rows are left out by a variable, or by an empty list
  | .return columns _ present => columns ++ present.toList.filter (· != .text "[]")
  | .unwind _ list .. => [.text list]

/-- The texts of which the text at the node of a statement is made. -/
def passesOn : Statement → List Slot
  | .null slots => slots.head?.toList
  | .operation inputs .. | .pick inputs .. => inputs
  | .property input .. | .product input .. => [input]
  | .directFilter target _ => [target]
  | _ => []

def bound? : Statement → Option String
  | .start _ _ out | .traversal _ _ _ _ out _ | .union _ _ _ _ out _ | .assign _ out | .copyFilter _ _ out
  | .aggregate _ _ _ _ out | .unwind _ _ out _ => some out
  | _ => none

def isWritten : Statement → Bool
  | .traversal source type paths _ out edge => (traversalLine source type paths out edge).isOk
  | .union source _ paths _ out edge => (unionLine source paths out edge).isOk
  | .slice .. => false
  | .aggregate input _ template _ _ => (Text.Template.fill template [input.shown]).isOk
  | _ => true

def hasPlace (name template : String) : Bool :=
  ((Text.Template.pieces template).getD []).any fun
    | .place f => (Text.Template.field f).name == name.toList
    | .plain _ => false

/-- The variables that a line brings into scope. A block of several paths gives only what they lead to. -/
def brings (s : Statement) : List String :=
  if !s.isWritten then [] else
  match s with
  | .start _ _ out | .union _ _ _ _ out _ | .assign _ out | .copyFilter _ _ out | .aggregate _ _ _ _ out
  | .unwind _ _ out _ => [out]
  | .traversal _ _ paths _ out edge =>
    (if (Text.join "." paths).isEmpty || paths.all (hasPlace "out_var") then [out] else [])
      ++ (if paths.length == 1 && paths.all (hasPlace "name") then [edge] else [])
  | _ => []

lemma passesOn_subset (s : Statement) : s.passesOn ⊆ s.inputs := by
  cases s <;> simp [passesOn, inputs]

lemma bound?_outputs {s : Statement} {v : String} (h : s.bound? = some v) : s.outputs.head? = some (.text v) := by
  cases s <;> simp_all [bound?, outputs]

end Statement

namespace Plan

/-! ## What is mentioned -/

/-- A node gives a text to the statement of an arc that goes on from it or needs it: what can be used there
first. -/
def Gives (p : Plan) (e : Arc Statement) (t : String) (k : Nat) : Prop :=
  (k = e.src ∨ p.graph.Needs k e.dst) ∧ (p.slots k).head? = some (.text t)

/-- A text that no node gives stands for itself, unless it is a parameter. -/
def Bare (p : Plan) (e : Arc Statement) (t : String) : Prop := (∀ k, ¬ p.Gives e t k) ∧ t ∉ p.parameters.map (·.1)

/-- The text at a node has a variable in it. -/
inductive Draws (p : Plan) : Nat → String → Prop
  | variable {e : Arc Statement} {s : Statement} {v : String} (he : e ∈ p.graph.arcs) (hs : e.label = some s)
    (hv : s.bound? = some v) : Draws p e.dst v
  | through {e : Arc Statement} {s : Statement} {t v : String} {k : Nat} (he : e ∈ p.graph.arcs)
    (hs : e.label = some s) (ht : .text t ∈ s.passesOn) (hk : p.Gives e t k) (hv : Draws p k v) : Draws p e.dst v
  | bare {e : Arc Statement} {s : Statement} {v : String} (he : e ∈ p.graph.arcs) (hs : e.label = some s)
    (hv : .text v ∈ s.passesOn) (hb : p.Bare e v) : Draws p e.dst v

/-- A text that the statement of an arc takes has a variable in it. -/
def Reads (p : Plan) (e : Arc Statement) (t v : String) : Prop := (∃ k, p.Gives e t k ∧ p.Draws k v) ∨ v = t ∧ p.Bare e t

/-- After some nodes, the line of a statement keeps a variable. -/
def Keeps (p : Plan) (order : List Nat) (s : Statement) (v : String) : Prop :=
  match s with
  | .aggregate _ wrt _ _ out => ∃ ks, p.keptNodes wrt order = .ok ks ∧
    ∃ k ∈ ks, (p.slots k).head? ≠ some (.text out) ∧ p.Draws k v
  | _ => False

/-- After an order that ends with `a`, the statement from `a` to `b` mentions a variable. -/
def Mentions (p : Plan) (order : List Nat) (a b : Nat) (v : String) : Prop :=
  ∃ e ∈ p.graph.arcs, e.src = a ∧ e.dst = b ∧ ∃ s, e.label = some s ∧
    ((∃ t, .text t ∈ s.inputs ∧ p.Reads e t v) ∨ p.Keeps order s v)

/-! ## What is in scope -/

/-- The scope after the line of a statement at the end of an order. -/
def bring (p : Plan) (order : List Nat) (scope : List String) (s : Statement) : List String :=
  match s with
  | .aggregate _ wrt _ _ out =>
    match p.kept wrt order out with
    | .ok names => if s.isWritten then names ++ [out] else scope
    | .error _ => scope
  | s => scope ++ s.brings

/-- Goes on to a node: the nodes so far, and the scope after their lines. -/
def readOn (p : Plan) (x : List Nat × List String) (b : Nat) : List Nat × List String :=
  (x.1 ++ [b], match x.1.getLast?.bind (fun a => (p.graph.arc? a b).bind (·.label)) with
    | some s => p.bring x.1 x.2 s
    | none => x.2)

/-- The scope after the lines along some nodes. -/
def scopeAfter (p : Plan) (order : List Nat) : List String := (order.foldl p.readOn ([], [])).2

variable {p : Plan} {order : List Nat}

lemma foldl_readOn (x : List Nat × List String) (l : List Nat) : (l.foldl p.readOn x).1 = x.1 ++ l := by
  induction l generalizing x with
  | nil => simp
  | cons b l ih => simp [ih, readOn]

lemma scopeAfter_snoc (pre : List Nat) (a b : Nat) : p.scopeAfter (pre ++ [a] ++ [b]) =
    match (p.graph.arc? a b).bind (·.label) with
    | some s => p.bring (pre ++ [a]) (p.scopeAfter (pre ++ [a])) s
    | none => p.scopeAfter (pre ++ [a]) := by
  have hdone := foldl_readOn (p := p) ([], []) (pre ++ [a])
  rw [scopeAfter, foldl_append, foldl_cons, readOn, hdone]
  simp [scopeAfter]

lemma mem_bring {scope : List String} {s : Statement} {v : String} (h : ∀ i w t n o, s ≠ .aggregate i w t n o) :
    v ∈ p.bring order scope s ↔ v ∈ scope ∨ v ∈ s.brings := by
  cases s with
  | aggregate i w t n o => exact absurd rfl (h i w t n o)
  | _ => simp [bring]

/-! ## What a statement can rely on -/

/-- Statements take their texts from nodes, and aggregations go back. -/
structure Orderly (p : Plan) (order : List Nat) : Prop where
  /-- A text that a statement takes is given by a node, or is a parameter. -/
  given : ∀ e ∈ p.graph.arcs, e.dst ∈ order → ∀ s, e.label = some s → ∀ t, .text t ∈ s.inputs →
    (∃ k, p.Gives e t k) ∨ t ∈ p.parameters.map (·.1)
  /-- Filters and references pass on only variables. -/
  carried : ∀ e ∈ p.graph.arcs, e.dst ∈ order → ∀ s, e.label = some s → e.type ≠ .operation → e.type ≠ .aggregate →
    ∀ x ∈ s.passesOn, ∃ t, x = .text t ∧ ∀ k, p.Gives e t k → p.Holds k
  /-- The line of a statement brings its variable into scope, and operations have none. -/
  bound : ∀ e ∈ p.graph.arcs, e.dst ∈ order → ∀ s, e.label = some s → ∀ v, s.bound? = some v →
    v ∈ s.brings ∧ e.type ≠ .operation
  /-- What a statement depends on lies above it, or was aggregated to a node above. -/
  depends : ∀ a b d, p.graph.Step a b → b ∈ order → p.graph.Needs d b →
    ReflTransGen p.graph.Step d a ∨ ∃ m, p.graph.Back d m ∧ ReflTransGen p.graph.Step m a
  /-- An aggregation has an arc back. -/
  returns : ∀ e ∈ p.graph.arcs, e.dst ∈ order → e.type = .aggregate → ∃ t, p.graph.Back e.dst t
  /-- Where one aggregation that does nothing stands for another, what stands for it is kept there too. -/
  nested : ∀ t, ∀ h ∈ order, p.Counted t h → p.isFolded h = true →
    (∃ t', p.graph.Back h t' ∧ ReflTransGen p.graph.Step t' t) ∨
    ∀ ks, p.standIns h = .ok ks → ∀ k ∈ ks, p.Stands t k

/-- The statement from one node to another aggregates to `w`. -/
def AggregatesTo (p : Plan) (a b w : Nat) : Prop :=
  ∃ e ∈ p.graph.arcs, e.src = a ∧ e.dst = b ∧
    ∃ input template name out, e.label = some (.aggregate input w template name out)

/-- Since an order came to `k`, no aggregation went back past `m`. -/
def Lasts (p : Plan) (order : List Nat) (m k : Nat) : Prop :=
  ∃ pre post, order = pre ++ k :: post ∧
    ∀ a b w, (a, b) ∈ Digraph.pairs (k :: post) → p.AggregatesTo a b w → ReflTransGen p.graph.Step m w

/-- A node was aggregated to another, or is kept there for such an aggregation. -/
def CountsTo (p : Plan) (k m : Nat) : Prop := p.graph.Back k m ∨ p.Counted m k ∧ p.Holds k

/-- A node can be relied on at `c`: it lies above `c`, or counts to a node above and lasts there. -/
def Available (p : Plan) (order : List Nat) (c k : Nat) : Prop :=
  ReflTransGen p.graph.Step k c ∨ ∃ m, ReflTransGen p.graph.Step m c ∧ p.CountsTo k m ∧ p.Lasts order m k

/-- What the line of an aggregation keeps is available where it goes back to. -/
def KeepsAvailable (p : Plan) (order : List Nat) : Prop :=
  ∀ pre a b post, order = pre ++ a :: b :: post → ∀ e ∈ p.graph.arcs, e.src = a → e.dst = b →
    ∀ input w template name out, e.label = some (.aggregate input w template name out) →
    ∀ ks, p.keptNodes w (pre ++ [a]) = .ok ks → ∀ k ∈ ks, (p.slots k).head? ≠ some (.text out) →
    p.Available (pre ++ [a]) w k

/-- Along an order, nothing that is used has been dropped. -/
structure Fresh (p : Plan) (order : List Nat) : Prop where
  depends : ∀ pre a b post, order = pre ++ a :: b :: post → p.graph.Step a b →
    ∀ d, p.graph.Needs d b → p.Available (pre ++ [a]) a d
  keeps : p.KeepsAvailable order

lemma lasts_snoc {pre : List Nat} {a b m k : Nat} (h : p.Lasts (pre ++ [a] ++ [b]) m k) :
    k = b ∨ p.Lasts (pre ++ [a]) m k ∧ ∀ w, p.AggregatesTo a b w → ReflTransGen p.graph.Step m w := by
  obtain ⟨l, post, heq, hlast⟩ := h
  rcases eq_nil_or_concat post with rfl | ⟨post, x, rfl⟩
  · exact .inl (append_inj_right' heq rfl |> singleton_inj.mp).symm
  · have heq' : pre ++ [a] ++ [b] = (l ++ k :: post) ++ [x] := by simpa using heq
    obtain ⟨hpre, hb⟩ := append_inj' heq' rfl
    obtain rfl : b = x := singleton_inj.mp hb
    obtain ⟨l₁, hl₁⟩ : ∃ l₁, k :: post = l₁ ++ [a] := by
      refine getLast?_eq_some_iff.mp ?_
      have := congrArg List.getLast? hpre
      simpa [getLast?_append] using this.symm
    have hpost : k :: (post ++ [b]) = l₁ ++ [a] ++ [b] := by rw [← hl₁]; rfl
    refine .inr ⟨⟨l, post, hpre, fun c d w hcd => hlast c d w ?_⟩, fun w => hlast a b w ?_⟩
    · rw [concat_eq_append, hpost, Digraph.pairs_snoc, ← hl₁]
      exact mem_append_left _ hcd
    · rw [concat_eq_append, hpost, Digraph.pairs_snoc]
      simp

lemma Available.below {w c k : Nat} (h : p.Available order w k) (hwc : ReflTransGen p.graph.Step w c) :
    p.Available order c k :=
  h.imp (·.trans hwc) fun ⟨m, hm, hk⟩ => ⟨m, hm.trans hwc, hk⟩

lemma Lasts.mem {m k : Nat} (h : p.Lasts order m k) : k ∈ order := by
  obtain ⟨_, _, rfl, _⟩ := h
  simp

end Plan

end SurveyGraph
