import FortranBindings.Decimal

/-!
# Parameter descriptors and their auxiliary names

`FortranType.__init__` and the naming helpers `tmp_name`, `tmp_name2` and
`tmp_counter` of `fortran_type.py`. A descriptor never changes after
construction except for `used_counters`, which `tmp_counter` bumps, so
`tmp_counter` is a state-passing function returning the name and the new
descriptor.

`fn_api_name` calls `util.ext_api_func_name`, which is not part of this file,
and no method of the catalogue reads it; it is left out.
-/

namespace FortranBindings

/-- The keyword arguments of `FortranType.__init__`, with its defaults. -/
structure Params where
  name : String
  fnName : String
  bigcount : Bool := false
  countParam : Option String := none
  genF90 : Bool := false
  deriving DecidableEq, Repr

/-- A descriptor: the constructor's arguments and the `used_counters` state. -/
structure FortranType where
  name : String
  fnName : String
  bigcount : Bool
  countParam : Option String
  genF90 : Bool
  usedCounters : Nat
  deriving DecidableEq, Repr

/-- The name of loop counter `k` of a parameter, as the naming contract spells it. -/
def counterName (name : String) (k : Nat) : String := name ++ "_i_" ++ toString k

namespace FortranType

/-- `FortranType.__init__`. -/
def init (p : Params) : FortranType :=
  ⟨p.name, p.fnName, p.bigcount, p.countParam, p.genF90, 0⟩

/-- `tmp_name`. -/
def tmpName (t : FortranType) : String := "c_" ++ t.name

/-- `tmp_name2`. -/
def tmpName2 (t : FortranType) : String := "c_" ++ t.name ++ "2"

/-- `tmp_counter`: the next loop-counter name, and the descriptor after the call. -/
def tmpCounter (t : FortranType) : String × FortranType :=
  (t.name ++ "_i_" ++ toString t.usedCounters,
    { t with usedCounters := t.usedCounters + 1 })

@[simp] theorem init_name (p : Params) : (init p).name = p.name := rfl
@[simp] theorem init_usedCounters (p : Params) : (init p).usedCounters = 0 := rfl

lemma name_ne_tmpName (t : FortranType) : t.name ≠ t.tmpName := fun h => by
  have h2 : "c_".length = 2 := rfl
  have := congrArg String.length h
  rw [tmpName, String.length_append] at this
  omega

@[simp] theorem tmpCounter_fst (t : FortranType) :
    t.tmpCounter.1 = counterName t.name t.usedCounters := rfl
@[simp] theorem tmpCounter_name (t : FortranType) : t.tmpCounter.2.name = t.name := rfl
@[simp] theorem tmpCounter_usedCounters (t : FortranType) :
    t.tmpCounter.2.usedCounters = t.usedCounters + 1 := rfl

end FortranType

/-- Two lists split at the first occurrence of their markers split at the same place. -/
lemma append_cons_eq_append_cons {α : Type} {a b : α} {x y u v : List α}
    (ha : a ∉ y) (hb : b ∉ x) (h : x ++ a :: u = y ++ b :: v) : x = y ∧ a = b ∧ u = v := by
  rcases List.append_eq_append_iff.mp h with ⟨m, rfl, hm⟩ | ⟨m, rfl, hm⟩
  · cases m with
    | nil => simpa using hm
    | cons d m =>
      obtain ⟨rfl, -⟩ := List.cons.inj hm
      exact absurd (List.mem_append_right x (List.mem_cons_self a m)) ha
  · cases m with
    | nil => simpa using hm.symm
    | cons d m =>
      obtain ⟨rfl, -⟩ := List.cons.inj hm
      exact absurd (List.mem_append_right y (List.mem_cons_self b m)) hb

/-- Two lists split at the last occurrence of `c` split at the same place. -/
lemma append_cons_eq_iff_of_not_mem {α : Type} {c : α} {x y u v : List α}
    (hu : c ∉ u) (hv : c ∉ v) : x ++ c :: u = y ++ c :: v ↔ x = y ∧ u = v := by
  refine ⟨fun h => ?_, fun ⟨hx, huv⟩ => hx ▸ huv ▸ rfl⟩
  have h' := congrArg List.reverse h
  simp only [List.reverse_append, List.reverse_cons, List.append_assoc, List.singleton_append] at h'
  obtain ⟨hvu, -, hyx⟩ := append_cons_eq_append_cons (by simpa using hv) (by simpa using hu) h'
  exact ⟨List.reverse_injective hyx, List.reverse_injective hvu⟩

/-- Reading a list up to the first `c` stops where `c` is. -/
lemma takeWhile_append_cons_of_not_mem {c : Char} {l : List Char} (r : List Char) (h : c ∉ l) :
    (l ++ c :: r).takeWhile (· != c) = l := by
  rw [List.takeWhile_append_of_pos fun a ha => bne_iff_ne.mpr fun hac : a = c => h (hac ▸ ha),
    List.takeWhile_cons_of_neg (by simp), List.append_nil]

lemma counterName_data (a : String) (k : Nat) :
    (counterName a k).data = (a.data ++ ['_', 'i']) ++ '_' :: (toString k).data := by
  simp [counterName]

/-- The counter's `_` is the last one of a counter name, so the parameter name
and the counter are read back from it. -/
theorem counterName_inj {a b : String} {k l : Nat} :
    counterName a k = counterName b l ↔ a = b ∧ k = l := by
  refine ⟨fun h => ?_, fun ⟨ha, hk⟩ => ha ▸ hk ▸ rfl⟩
  rw [String.ext_iff, counterName_data, counterName_data, append_cons_eq_iff_of_not_mem
    (underscore_not_mem_toString k) (underscore_not_mem_toString l)] at h
  exact ⟨String.ext (List.append_cancel_right h.1), toString_injective (String.ext h.2)⟩

lemma counterName_length (a : String) (k : Nat) :
    a.length + 4 ≤ (counterName a k).length := by
  have := List.length_pos.mpr (toString_data_ne_nil k)
  simp only [String.length, counterName_data, List.length_append, List.length_cons]
  omega

end FortranBindings
