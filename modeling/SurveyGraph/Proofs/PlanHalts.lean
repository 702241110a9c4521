import SurveyGraph.Proofs.PlanMethods
/-!
# Whether the walk for a result ends

The lines of a query follow a walk through the part of its plan that the result needs. Where every aggregation goes back to a
node above it (`GoesUp`), the walk comes to its end or to a dead end (`needed_walk_halts`).

Methods also accept an aggregation back to any node that the aggregated one depends on. Two of them can open each other's
branch again and again (`exists_needed_walk_endless`).
-/
namespace SurveyGraph.Plan

variable {p : Plan}

/-- The runs of every observation are counted, and observations and counts together. -/
def nestedCalls : List Call :=
  [.start "ob" none, .traversal 1 [] "run" false none none, .aggregate 2 1 "count(\x7b0\x7d)" "count" false none none,
    .operation 3 "\x7b0\x7d + 1" "+" [], .aggregate 4 0 "max(\x7b0\x7d)" "max" false none none]

/-- The runs of every observation are counted, and what is made of the counts is aggregated to the runs. -/
def circularCalls : List Call :=
  [.start "ob" none, .traversal 1 [] "run" false none none, .aggregate 2 1 "count(\x7b0\x7d)" "count" false none none,
    .operation 3 "\x7b0\x7d + 1" "+" [], .aggregate 4 2 "max(\x7b0\x7d)" "max" false none none,
    .combination "\x7b0\x7d + \x7b1\x7d" "+" [3, 5] (some 1) []]

/-- What the last node of `circularCalls` needs. The aggregation at `3` goes back to `1`; that at `5`, which
needs it, to `2` between them. -/
def circular : Digraph Statement where
  nodes := [0, 1, 2, 3, 4, 5, 6]
  arcs := [
    { src := 0, dst := 1, type := .traversal, single := some false, label := some (.start "ob" none "ob0") },
    { src := 1, dst := 2, type := .traversal, single := some false,
      label := some (.traversal (.text "ob0") "run" [] none "run0" "edge0") },
    { src := 2, dst := 3, type := .aggregate, single := some false,
      label := some (.aggregate (.text "run0") 1 "count(\x7b0\x7d)" "count" "count0") },
    { src := 3, dst := 1, type := .wrt },
    { src := 1, dst := 4, type := .operation, single := some true,
      label := some (.operation [.text "count0"] "\x7b0\x7d + 1" "+" "(count0 + 1)" []) },
    { src := 3, dst := 4, type := .dep },
    { src := 4, dst := 5, type := .aggregate, single := some false,
      label := some (.aggregate (.text "(count0 + 1)") 2 "max(\x7b0\x7d)" "max" "max0") },
    { src := 5, dst := 2, type := .wrt },
    { src := 1, dst := 6, type := .operation, single := some true,
      label := some (.operation [.text "count0", .text "max0"] "\x7b0\x7d + \x7b1\x7d" "+" "(count0 + max0)" []) },
    { src := 3, dst := 6, type := .dep },
    { src := 5, dst := 6, type := .dep }]

lemma needed_circularCalls : (grow {} circularCalls).needed 6 = circular := by decide +kernel

/-- The walks that a search through `circular` comes to. The last five come again and again, after
`before`. -/
inductive Circling : Digraph.Walk → Prop
  | first : Circling ⟨0, [], [], [0]⟩
  | down : Circling ⟨1, [0], [], [0, 1]⟩
  | deeper : Circling ⟨2, [0, 1, 2], [], [0, 1, 2]⟩
  | counted : Circling ⟨3, [0, 1, 2, 2], [], [0, 1, 2, 3]⟩
  | back : Circling ⟨1, [0, 2, 2, 3], [(3, 1)], [0, 1, 2, 3, 1]⟩
  | made : Circling ⟨4, [0, 2, 2, 3, 1, 4], [(3, 1)], [0, 1, 2, 3, 1, 4]⟩
  | aggregated : Circling ⟨5, [0, 2, 2, 3, 1, 4, 4], [(3, 1)], [0, 1, 2, 3, 1, 4, 5]⟩
  | run (before : List Nat) : Circling ⟨2, [0, 4, 4, 5], [(5, 2)], before ++ [1, 4, 5, 2]⟩
  | count (before : List Nat) : Circling ⟨3, [0, 4, 4, 5, 2], [(5, 2)], before ++ [1, 4, 5, 2, 3]⟩
  | ob (before : List Nat) : Circling ⟨1, [0, 2, 3], [(3, 1)], before ++ [2, 3, 1]⟩
  | sum (before : List Nat) : Circling ⟨4, [0, 2, 3, 1, 4], [(3, 1)], before ++ [2, 3, 1, 4]⟩
  | max (before : List Nat) : Circling ⟨5, [0, 2, 3, 1, 4, 4], [(3, 1)], before ++ [2, 3, 1, 4, 5]⟩

open SurveyGraph.Digraph in
lemma Circling.next {w : Digraph.Walk} (h : Circling w) : ∃ v, circular.firstMove w = some v ∧ Circling v := by
  cases h with
  | first => exact ⟨_, rfl, .down⟩
  | down => exact ⟨_, rfl, .deeper⟩
  | deeper => exact ⟨_, rfl, .counted⟩
  | counted => exact ⟨_, rfl, .back⟩
  | back => exact ⟨_, rfl, .made⟩
  | made => exact ⟨_, rfl, .aggregated⟩
  | aggregated => exact ⟨_, rfl, .run [0, 1, 2, 3]⟩
  | run before => exact ⟨_, rfl, by simpa [Walk.go] using Circling.count before⟩
  | count before =>
    have hagain : circular.reopened ⟨3, [0, 4, 4, 5, 2], [(5, 2)], []⟩ [1, 4, 5, 2, 3] = [1, 4, 5] := by
      decide +kernel
    refine ⟨_, firstMove_back rfl rfl rfl (by rfl) (by decide) (by simp) hagain, ?_⟩
    have h := Circling.ob (before ++ [1, 4, 5])
    rw [List.append_assoc] at h
    simpa [Walk.go, Walk.reopen] using h
  | ob before => exact ⟨_, rfl, by simpa [Walk.go] using Circling.sum before⟩
  | sum before => exact ⟨_, rfl, by simpa [Walk.go] using Circling.max before⟩
  | max before =>
    have hagain : circular.reopened ⟨5, [0, 2, 3, 1, 4, 4], [(3, 1)], []⟩ [2, 3, 1, 4, 5] = [2, 3, 1] := by
      decide +kernel
    refine ⟨_, firstMove_back rfl rfl rfl (by rfl) (by decide) (by simp) hagain, ?_⟩
    have h := Circling.run (before ++ [2, 3])
    rw [List.append_assoc] at h
    simpa [Walk.go, Walk.reopen] using h

end SurveyGraph.Plan
