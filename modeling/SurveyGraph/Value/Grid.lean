import SurveyGraph.Value
/-!
# Arrays

An array is a shape and a list of cells in row-major order, all of one type. `Grid.ofNested` builds
one from nested lists: the shape is as deep as the nesting is even, and the cell type is the
narrowest that holds every leaf.
-/
namespace SurveyGraph

structure Grid where
  cell : Cell
  shape : List Nat
  cells : List Value
  deriving Repr, Inhabited

namespace Grid

def toValue (g : Grid) : Value := .array g.cell g.shape g.cells

def members? : Value → Option (List Value)
  | .list xs | .tuple xs => some xs
  | _ => none

def sharedStart : List (List Nat) → List Nat
  | [] => []
  | s :: rest => rest.foldl (fun acc t => ((acc.zip t).takeWhile (fun p => p.1 == p.2)).map (·.1)) s

mutual

/-- The shape of nested lists, as deep as it is even. -/
def shapeOf : Value → List Nat
  | .list xs | .tuple xs => xs.length :: sharedStart (shapesOf xs)
  | .array _ shape _ => shape
  | _ => []

def shapesOf : List Value → List (List Nat)
  | [] => []
  | x :: xs => shapeOf x :: shapesOf xs

end

/-- The leaves of nested lists, opened to the given depth. -/
def leaves : Nat → Value → List Value
  | 0, v => [v]
  | n + 1, v =>
    match v with
    | .list xs | .tuple xs => xs.flatMap (leaves n)
    | .array _ _ cells => cells
    | v => [v]

def cellOf : Value → Cell
  | .bool _ => .bool
  | .int n => if -9223372036854775808 ≤ n && n < 9223372036854775808 then .int 64
    else if 0 ≤ n && n < 18446744073709551616 then .uint 64 else .object
  | .float _ => .float 64
  | .text _ => .text
  | .scalar c _ => c
  | _ => .object

/-- The narrowest cell type that holds cells of both types. -/
def wider : Cell → Cell → Cell
  | a, b =>
    if a == b then a
    else match a, b with
    | .object, _ | _, .object => .object
    | .text, _ | _, .text => .text
    | .bool, c | c, .bool => c
    | .float a, .float b => .float (max a b)
    | .float a, _ | _, .float a => .float (max a 64)
    | .int a, .int b => .int (max a b)
    | .uint a, .uint b => .uint (max a b)
    | .int a, .uint b | .uint b, .int a => if b ≥ 64 then .float 64 else .int (max a (2 * b))

/-- The narrowest cell type for cells of all types; without any, a floating point number. -/
def widest : List Cell → Cell
  | [] => .float 64
  | c :: cs => cs.foldl wider c

/-- A leaf as a cell of a type that is wide enough for it. -/
def castCell : Cell → Value → Value
  | c, .scalar _ v => castPlain c v
  | c, v => castPlain c v
where
  castPlain : Cell → Value → Value
  | .int _, .bool b | .uint _, .bool b => .int (if b then 1 else 0)
  | .float _, .bool b => .float (if b then 1.0 else 0.0)
  | .float _, .int n => .float (Decimal.ofInt n)
  | .text, v => .text v.display
  | _, v => v

def ofNested (v : Value) : Grid :=
  match v with
  | .array c s cells => ⟨c, s, cells⟩
  | v =>
    let shape := shapeOf v
    let ls := leaves shape.length v
    let cell := if ls.any (fun l => (members? l).isSome) then .object else widest (ls.map cellOf)
    ⟨cell, shape, ls.map (castCell cell)⟩

/-- Splits a list into `n` pieces of `k` members each. -/
def pieces {α : Type} (k : Nat) : Nat → List α → List (List α)
  | 0, _ => []
  | n + 1, xs => xs.take k :: pieces k n (xs.drop k)

def nest : List Nat → List Value → Value
  | [], cells => cells.headD .none
  | n :: shape, cells => .list ((pieces (shape.foldl (· * ·) 1) n cells).map (nest shape))

def toNested (g : Grid) : Value := nest g.shape g.cells

/-- The members along the first axis: single cells of a flat array, arrays otherwise. -/
def rows (g : Grid) : List Value :=
  match g.shape with
  | [] => []
  | [_] => g.cells.map (fun c => match g.cell with | .object => c | k => .scalar k c)
  | n :: shape => (pieces (shape.foldl (· * ·) 1) n g.cells).map (fun p => .array g.cell shape p)

end Grid

end SurveyGraph
