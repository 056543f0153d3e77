import Mathlib.Data.List.Forall2
import QueryGate.Proofs.Json.Unambiguous
import QueryGate.Value.Plan

/-!
# The text of a plan

A plan is kept as a text for later inspection. The text tells all of the plan that JSON can tell:
from it the steps, their labels in order, repeated ones included, and the values are known, up to
whether an integer was signed and as what a text was kept.

* `Value.Alike v w`: the values are of one JSON kind and equal in it.
* `Record.Alike r s`: the same labels in the same order, with alike values.
* `Plan.Floatless plan`: no value of the plan is a float.

Headline: **`Plan.text_eq_iff`**.
-/

namespace QueryGate

namespace Value

def isFloat : Value → Bool
  | .float _ => true
  | _ => false

/-- The integer that the value is, signed or not. -/
def integer? : Value → Option Int
  | .int i => some i.toInt
  | .uint n => some n.toNat
  | _ => none

/-- The text as which the value is kept. -/
def written? : Value → Option String
  | .decimal s => some s
  | .text s => some s
  | .temporal s => some s
  | _ => none

/-- The values are of one JSON kind and equal in it. -/
inductive Alike : Value → Value → Prop
  | null : Alike .null .null
  | bool (b : Bool) : Alike (.bool b) (.bool b)
  | integer {v w : Value} {i : Int} (hv : v.integer? = some i) (hw : w.integer? = some i) :
      Alike v w
  | float (x : Binary64) : Alike (.float x) (.float x)
  | written {v w : Value} {s : String} (hv : v.written? = some s) (hw : w.written? = some s) :
      Alike v w
  | bytes (bs : List UInt8) : Alike (.bytes bs) (.bytes bs)

variable {v w : Value}

theorem toJson_eq_int_iff {i : Int} : v.toJson = .int i ↔ v.integer? = some i := by
  cases v <;> simp [toJson, integer?]

theorem toJson_eq_str_iff {s : String} : v.toJson = .str s ↔ v.written? = some s := by
  cases v <;> simp [toJson, written?]

theorem bytes_json_injective :
    Function.Injective fun bs : List UInt8 => bs.map fun b => Json.int b.toNat :=
  List.map_injective_iff.mpr fun _ _ h =>
    UInt8.toNat_inj.mp (Int.ofNat.inj (Json.int.inj h))

/-- **Structured output tells apart exactly the values that are not alike.** -/
theorem toJson_eq_iff : v.toJson = w.toJson ↔ v.Alike w := by
  constructor
  · intro h
    cases v with
    | null =>
      cases w with
      | null => exact .null
      | _ => cases h
    | bool b =>
      cases w with
      | bool =>
        cases h
        exact .bool b
      | _ => cases h
    | int i => exact .integer rfl (toJson_eq_int_iff.mp h.symm)
    | uint n => exact .integer rfl (toJson_eq_int_iff.mp h.symm)
    | float x =>
      cases w with
      | float =>
        cases h
        exact .float x
      | _ => cases h
    | decimal s => exact .written rfl (toJson_eq_str_iff.mp h.symm)
    | text s => exact .written rfl (toJson_eq_str_iff.mp h.symm)
    | temporal s => exact .written rfl (toJson_eq_str_iff.mp h.symm)
    | bytes bs =>
      cases w with
      | bytes cs =>
        obtain rfl := bytes_json_injective (Json.arr.inj h)
        exact .bytes bs
      | _ => cases h
  · intro h
    cases h with
    | integer hv hw => rw [toJson_eq_int_iff.mpr hv, toJson_eq_int_iff.mpr hw]
    | written hv hw => rw [toJson_eq_str_iff.mpr hv, toJson_eq_str_iff.mpr hw]
    | _ => rfl

theorem floatless_toJson (h : v.isFloat = false) : v.toJson.Floatless := by
  cases v with
  | null => exact .null
  | bool b => exact .bool b
  | int i => exact .int _
  | uint n => exact .int _
  | float x => exact absurd h (by simp [isFloat])
  | bytes bs =>
    refine .arr fun j hj => ?_
    obtain ⟨b, -, rfl⟩ := List.mem_map.mp hj
    exact .int _
  | _ => exact .str _

end Value

/-- The same labels in the same order, repeated ones included, with alike values. -/
structure Record.Alike (r s : Record) : Prop where
  labels : r.labels = s.labels
  values : List.Forall₂ Value.Alike (r.fields.map (·.2)) (s.fields.map (·.2))

/-- Lists have one image iff their members have, one by one. -/
theorem map_eq_map_iff_forall₂ {α β γ : Type} {f : α → γ} {g : β → γ} {as : List α} {bs : List β} :
    as.map f = bs.map g ↔ List.Forall₂ (fun a b => f a = g b) as bs := by
  rw [← List.forall₂_eq_eq_eq, List.forall₂_map_left_iff, List.forall₂_map_right_iff]

theorem Record.toJson_eq_iff {r s : Record} : r.toJson = s.toJson ↔ r.Alike s := by
  have hvalues : r.fields.map (·.2.toJson) = s.fields.map (·.2.toJson) ↔
      List.Forall₂ Value.Alike (r.fields.map (·.2)) (s.fields.map (·.2)) := by
    rw [map_eq_map_iff_forall₂, List.forall₂_map_left_iff, List.forall₂_map_right_iff]
    simp only [Value.toJson_eq_iff]
  rw [toJson, toJson, Json.obj.injEq]
  constructor
  · intro h
    have hlabels := congrArg (List.map (·.1)) h
    have hjson := congrArg (List.map (·.2)) h
    rw [List.map_map, List.map_map] at hlabels hjson
    exact ⟨hlabels, hvalues.mp hjson⟩
  · intro h
    have hlabels : r.fields.map (·.1) = s.fields.map (·.1) := h.labels
    rw [← List.zip_map', ← List.zip_map', hlabels, hvalues.mpr h.values]

namespace Plan

variable {p q : Plan}

/-- No value of the plan is a float. -/
def Floatless (plan : Plan) : Prop := ∀ step ∈ plan, ∀ f ∈ step.fields, f.2.isFloat = false

instance : DecidablePred Floatless := fun plan =>
  inferInstanceAs (Decidable (∀ step ∈ plan, ∀ f ∈ step.fields, f.2.isFloat = false))

theorem Floatless.toJson (h : p.Floatless) : (Plan.toJson p).Floatless := by
  refine .arr fun j hj => ?_
  obtain ⟨step, hstep, rfl⟩ := List.mem_map.mp hj
  refine .obj fun g hg => ?_
  obtain ⟨f, hf, rfl⟩ := List.mem_map.mp hg
  exact Value.floatless_toJson (h step hstep f hf)

theorem toJson_eq_iff : toJson p = toJson q ↔ List.Forall₂ Record.Alike p q := by
  rw [Plan.toJson, Plan.toJson, Json.arr.injEq, map_eq_map_iff_forall₂]
  simp only [Record.toJson_eq_iff]

/-- **The text of a plan is faithful.** Two plans without floats have one text iff they have the
same number of steps and, step by step, the same labels in the same order with alike values. -/
theorem text_eq_iff (hp : p.Floatless) (hq : q.Floatless) :
    p.text = q.text ↔ List.Forall₂ Record.Alike p q := by
  rw [← toJson_eq_iff]
  exact ⟨Json.text_injective hp.toJson hq.toJson, congrArg Json.text⟩

/-- A step with a repeated label, one that has to be escaped and bytes, and a step without
fields. -/
def signedSteps : Plan :=
  [⟨[("key", .int 5), ("key", .decimal "1.50"), ("\"\\\n", .bytes [0, 255])]⟩, ⟨[]⟩]

/-- The same, but for what JSON does not tell. -/
def unsignedSteps : Plan :=
  [⟨[("key", .uint 5), ("key", .text "1.50"), ("\"\\\n", .bytes [0, 255])]⟩, ⟨[]⟩]

/-- The same with the repeated labels the other way round. -/
def turnedSteps : Plan :=
  [⟨[("key", .text "1.50"), ("key", .uint 5), ("\"\\\n", .bytes [0, 255])]⟩, ⟨[]⟩]

theorem text_eq_iff_repeated : signedSteps.Floatless ∧ unsignedSteps.Floatless ∧
    turnedSteps.Floatless ∧ signedSteps.text = unsignedSteps.text ∧
    unsignedSteps.text ≠ turnedSteps.text := by
  have hsigned : signedSteps.Floatless := by decide
  have hunsigned : unsignedSteps.Floatless := by decide
  have hturned : turnedSteps.Floatless := by decide
  refine ⟨hsigned, hunsigned, hturned, (text_eq_iff hsigned hunsigned).mpr ?_, fun h => ?_⟩
  · have hsteps : signedSteps.toJson = unsignedSteps.toJson := rfl
    exact toJson_eq_iff.mp hsteps
  · have halike := (text_eq_iff hunsigned hturned).mp h
    obtain ⟨⟨-, hvalues⟩, -⟩ := List.forall₂_cons.mp halike
    -- the integer of the one would have to be the text of the other
    cases (List.forall₂_cons.mp hvalues).1 with
    | integer hv hw => cases hw
    | written hv hw => cases hv

end Plan

end QueryGate
