import Mathlib

/-!
# JSON values

Values as a JSON reader hands them out. An integer and a number written with a
fraction or an exponent are different values, and the latter keeps its text:
no arithmetic is done on it. The fields of an object stand in document order.
-/
namespace MediaSync.JsonValues

inductive Json where
  | null
  | bool (b : Bool)
  | int (i : ℤ)
  | float (text : String)
  | str (s : String)
  | arr (items : List Json)
  | obj (fields : List (String × Json))
  deriving Repr

namespace Json

mutual

def decEq : (a b : Json) → Decidable (a = b)
  | null, null => isTrue rfl
  | bool b, bool c => decidable_of_iff (b = c) ⟨congrArg _, fun h => by injection h⟩
  | int i, int j => decidable_of_iff (i = j) ⟨congrArg _, fun h => by injection h⟩
  | float s, float t => decidable_of_iff (s = t) ⟨congrArg _, fun h => by injection h⟩
  | str s, str t => decidable_of_iff (s = t) ⟨congrArg _, fun h => by injection h⟩
  | arr xs, arr ys =>
    have := decEqItems xs ys
    decidable_of_iff (xs = ys) ⟨congrArg _, fun h => by injection h⟩
  | obj xs, obj ys =>
    have := decEqFields xs ys
    decidable_of_iff (xs = ys) ⟨congrArg _, fun h => by injection h⟩
  | null, bool _ | null, int _ | null, float _ | null, str _ | null, arr _ | null, obj _
  | bool _, null | bool _, int _ | bool _, float _ | bool _, str _ | bool _, arr _ | bool _, obj _
  | int _, null | int _, bool _ | int _, float _ | int _, str _ | int _, arr _ | int _, obj _
  | float _, null | float _, bool _ | float _, int _ | float _, str _ | float _, arr _
  | float _, obj _
  | str _, null | str _, bool _ | str _, int _ | str _, float _ | str _, arr _ | str _, obj _
  | arr _, null | arr _, bool _ | arr _, int _ | arr _, float _ | arr _, str _ | arr _, obj _
  | obj _, null | obj _, bool _ | obj _, int _ | obj _, float _ | obj _, str _ | obj _, arr _ =>
    isFalse nofun

def decEqItems : (xs ys : List Json) → Decidable (xs = ys)
  | [], [] => isTrue rfl
  | [], _ :: _ | _ :: _, [] => isFalse nofun
  | x :: xs, y :: ys =>
    have := decEq x y
    have := decEqItems xs ys
    decidable_of_iff (x = y ∧ xs = ys) List.cons_eq_cons.symm

def decEqFields : (xs ys : List (String × Json)) → Decidable (xs = ys)
  | [], [] => isTrue rfl
  | [], _ :: _ | _ :: _, [] => isFalse nofun
  | (k, x) :: xs, (l, y) :: ys =>
    have := decEq x y
    have := decEqFields xs ys
    decidable_of_iff ((k = l ∧ x = y) ∧ xs = ys) (by rw [List.cons_eq_cons, Prod.mk.injEq])

end

instance : DecidableEq Json := decEq

/-- Field lookup in a decoded object. A later duplicate replaces an earlier one. -/
def field? (fields : List (String × Json)) (key : String) : Option Json :=
  (fields.reverse.find? fun f => f.1 = key).map Prod.snd

end Json

end MediaSync.JsonValues
