import SurveyGraph.Proofs.Outcome
import SurveyGraph.Value.Convert
/-!
# Lists of one type

The database takes lists whose members have one type. One value is to stand for all missing members, of the type of the
others; `convert_filled` says when that is so. The type is looked for among the members that are no missing numbers, where
nothing counts as a floating point number, as does what stands for a missing truth value or whole number.
-/
open List

namespace SurveyGraph.Value

def isMissing : Value → Bool
  | .none => true
  | v => v.isNan

/-- The type of a truth value, a number or a text. -/
def plainType? : Value → Option Target
  | .bool _ => some .bool
  | .int _ => some .int
  | .float _ => some .float
  | .text _ => some .text
  | _ => Option.none

/-- Some members are not missing, and these have one type. -/
structure OfType (t : Target) (xs : List Value) : Prop where
  members : ∀ x ∈ xs, x.isMissing = true ∨ x.plainType? = some t
  present : ∃ x ∈ xs, x.isMissing = false

/-- The list with one value in place of all that is missing. -/
def filled (m : Value) (xs : List Value) : List Value := xs.map fun x => if x.isMissing then m else x

/-- All members have the type, and none is missing. -/
def Whole (t : Target) (xs : List Value) : Prop := ∀ x ∈ xs, x.plainType? = some t ∧ x.isMissing = false

/-- What a list of the type takes for a missing member. -/
def standIn : Target → Value
  | .text => .text "<MISSING>"
  | _ => .float infinity

deriving instance ReflBEq, LawfulBEq for Target

variable {t : Target} {x : Value} {xs : List Value}

/-! ## The type of a list -/

lemma isNull_of_isMissing (h : x.isMissing = true) (hx : x ≠ .none) : x.isNull = true := by
  cases x with
  | none => exact absurd rfl hx
  | float => exact h
  | scalar c v => exact by cases v <;> exact h
  | _ => cases h

lemma target?_of_plain (h : x.plainType? = some t) : x.target? = some t := by
  cases x <;> first | exact h | cases h

lemma isNull_of_plain (h : x.plainType? = some t) (hx : x.isMissing = false) : x.isNull = false := by
  cases x with
  | bool | int | text => rfl
  | float => exact hx
  | _ => cases h

lemma OfType.plain (h : OfType t xs) (hx : x ∈ xs) (hm : x.isMissing = false) : x.plainType? = some t := by
  rcases h.members x hx with hx | hx
  · rw [hm] at hx
    cases hx
  · exact hx

/-- What members ask for: nothing asks for floating point numbers, the others for their own type. -/
lemma OfType.target (h : OfType t xs) (hx : x ∈ xs) (hn : x.isNull = false) :
    x.target? = some (if x.isMissing then .float else t) := by
  cases hm : x.isMissing with
  | false => exact target?_of_plain (h.plain hx hm)
  | true =>
    by_cases hx : x = .none
    · rw [hx]
      rfl
    · rw [isNull_of_isMissing hm hx] at hn
      cases hn

lemma eraseDups_of_forall_eq {ts : List Target} (h : ∀ u ∈ ts, u = t) (ht : t ∈ ts) : ts.eraseDups = [t] := by
  cases ts with
  | nil => cases ht
  | cons u ts =>
    obtain rfl := h u (.head _)
    have hrest : ts.filter (fun v => !v == u) = [] :=
      filter_eq_nil_iff.mpr fun v hv => by simp [h v (.tail _ hv)]
    rw [eraseDups_cons, hrest]
    rfl

/-- The types that the members of a list ask for. -/
def asked (t : Target) (xs : List Value) : List Target :=
  (xs.filter (!isNull ·)).map fun x => if x.isMissing then .float else t

lemma OfType.commonTarget_eq (h : OfType t xs) : commonTarget xs = match (asked t xs).eraseDups with
    | [] => .ok .text
    | [t] => .ok t
    | _ => refuse ValueCause.mixedList := by
  refine bind_of_ok (mapM_of_forall_ok fun x hx => ?_) _
  obtain ⟨hx, hn⟩ := mem_filter.mp hx
  rw [h.target hx (by simpa using hn)]

lemma OfType.mem_asked (h : OfType t xs) : t ∈ asked t xs := by
  obtain ⟨y, hy, hm⟩ := h.present
  refine mem_map.mpr ⟨y, mem_filter.mpr ⟨hy, ?_⟩, by simp [hm]⟩
  rw [isNull_of_plain (h.plain hy hm) hm]
  rfl

lemma OfType.commonTarget_ok (h : OfType t xs) (hnone : .none ∈ xs → t = .float) : commonTarget xs = .ok t := by
  rw [h.commonTarget_eq, eraseDups_of_forall_eq ?_ h.mem_asked]
  intro u hu
  obtain ⟨x, hx, rfl⟩ := mem_map.mp hu
  obtain ⟨hx, hn⟩ := mem_filter.mp hx
  split
  · rename_i hmiss
    refine (hnone ?_).symm
    by_contra hne
    rw [isNull_of_isMissing hmiss fun he => hne (he ▸ hx)] at hn
    cases hn
  · rfl

lemma OfType.eq_float_of_commonTarget (h : OfType t xs) {u : Target} (hu : commonTarget xs = .ok u) (hnone : .none ∈ xs) :
    t = .float := by
  have hfloat : Target.float ∈ (asked t xs).eraseDups :=
    mem_eraseDups.mpr (mem_map.mpr ⟨.none, mem_filter.mpr ⟨hnone, rfl⟩, rfl⟩)
  have ht := mem_eraseDups.mpr h.mem_asked
  rw [h.commonTarget_eq] at hu
  split at hu
  · rename_i hnil
    rw [hnil] at ht
    cases ht
  · rename_i hone
    rw [hone, mem_singleton] at hfloat ht
    rw [ht, hfloat]
  · cases hu

/-! ## The members of a list -/

lemma convertWithin_of_missing (n : Nat) (h : x.isMissing = true) : convertWithin {} (n + 1) (some t) x = missing (some t) := by
  cases x with
  | none => rfl
  | float y | scalar c v =>
    exact if_pos h
  | _ => cases h

lemma convertWithin_of_plain (n : Nat) (h : x.plainType? = some t) (hm : x.isMissing = false) :
    convertWithin {} (n + 1) (some t) x = .ok x := by
  cases x with
  | bool | int | text =>
    cases h
    rfl
  | float y =>
    cases h
    change (if (true && y.isNaN) = true then _ else _) = _
    rw [if_neg (by simpa [isMissing, isNan] using hm)]
    rfl
  | _ => cases h

lemma missing_of_plain (h : x.plainType? = some t) : missing (some t) = .ok (standIn t) := by
  cases x <;> cases h <;> rfl

lemma OfType.convert_eq (h : OfType t xs) (hnone : .none ∈ xs → t = .float) :
    convert (.list xs) = .ok (.list (filled (standIn t) xs)) := by
  obtain ⟨y, hy, hm⟩ := h.present
  have heach : xs.mapM (convertWithin {} (depths xs + 1) (some t)) = .ok (filled (standIn t) xs) := by
    refine mapM_of_forall_ok fun x hx => ?_
    cases hx' : x.isMissing with
    | true => rw [convertWithin_of_missing _ hx', missing_of_plain (h.plain hy hm)]; rfl
    | false => exact convertWithin_of_plain _ (h.plain hx hx') hx'
  change (commonTarget xs >>= fun t => xs.mapM (convertWithin {} (depths xs + 1) (some t)) >>= fun ys => .ok (Value.list ys)) = _
  rw [bind_of_ok (h.commonTarget_ok hnone), bind_of_ok heach]

lemma plainType?_standIn (ht : t = .float ∨ t = .text) : (standIn t).plainType? = some t ∧ (standIn t).isMissing = false := by
  rcases ht with rfl | rfl
  · exact ⟨rfl, by decide⟩
  · exact ⟨rfl, rfl⟩

lemma OfType.whole_filled (h : OfType t xs) (hmiss : ∀ x ∈ xs, x.isMissing = true → t = .float ∨ t = .text) :
    Whole t (filled (standIn t) xs) := by
  intro y hy
  obtain ⟨x, hx, rfl⟩ := mem_map.mp hy
  cases hm : x.isMissing with
  | true => exact plainType?_standIn (hmiss x hx hm)
  | false => exact ⟨h.plain hx hm, hm⟩

/-- A list of truth values, whole or floating point numbers or texts, any of which may be missing, comes out
with its members unchanged, one value for all that is missing, and of one type, exactly if there is nothing
only among floating point numbers, and missing numbers only there or among texts. -/
theorem convert_filled (t : Target) (xs : List Value) (h : OfType t xs) :
    (∃ m, convert (.list xs) = .ok (.list (filled m xs)) ∧ Whole t (filled m xs)) ↔
      (.none ∈ xs → t = .float) ∧ ∀ x ∈ xs, x.isNan = true → t = .float ∨ t = .text := by
  constructor
  · rintro ⟨m, hm, hwhole⟩
    have hnone : .none ∈ xs → t = .float := by
      obtain ⟨u, hu, -⟩ := bind_ok hm
      exact h.eq_float_of_commonTarget hu
    refine ⟨hnone, fun x hx hnan => ?_⟩
    have hmiss : x.isMissing = true := by
      cases x <;> first | rfl | exact hnan
    have heq : filled (standIn t) xs = filled m xs := by
      rw [h.convert_eq hnone] at hm
      injection hm with hm
      injection hm
    have htype := (hwhole (standIn t) (heq ▸ List.mem_map.mpr ⟨x, hx, if_pos hmiss⟩)).1
    cases t <;> first | exact .inl rfl | exact .inr rfl | cases htype
  · rintro ⟨hnone, hnan⟩
    refine ⟨standIn t, h.convert_eq hnone, h.whole_filled fun x hx hm => ?_⟩
    cases x with
    | none => exact .inl (hnone hx)
    | _ => exact hnan _ hx hm

theorem convert_filled_floats : ∃ m, convert (.list [.none, .float 1.5, .float (0.0 / 0.0)]) =
    .ok (.list (filled m [.none, .float 1.5, .float (0.0 / 0.0)])) ∧
    Whole .float (filled m [.none, .float 1.5, .float (0.0 / 0.0)]) := by
  refine (convert_filled .float _ ⟨?_, .float 1.5, by simp, by decide⟩).mpr ⟨fun _ => rfl, fun _ _ _ => .inl rfl⟩
  simp [isMissing, plainType?]

/-- A text beside nothing is refused, and a missing number beside a whole one becomes a floating point
number. -/
theorem exists_list_not_filled :
    (OfType .text [.text "a", .none] ∧ convert (.list [.text "a", .none]) = refuse ValueCause.mixedList) ∧
    OfType .int [.int 1, .float (0.0 / 0.0)] ∧
    convert (.list [.int 1, .float (0.0 / 0.0)]) = .ok (.list [.int 1, .float infinity]) := by
  refine ⟨⟨⟨?_, .text "a", by simp, rfl⟩, rfl⟩, ⟨?_, .int 1, by simp, rfl⟩, rfl⟩
  · simp [isMissing, plainType?]
  · have hnan : isMissing (.float (0.0 / 0.0)) = true := by decide
    simp [hnan, plainType?]

end SurveyGraph.Value
