import FortranBindings.Counters

/-!
# Collisions between auxiliary names

Every auxiliary name is a parameter name with a fixed decoration: `c_` in front
for `tmp_name`, `c_` in front and `2` behind for `tmp_name2`, `_i_` and a
decimal counter behind for `tmp_counter`. `fortran_type.py` reserves none of
these, so a parameter can be named as another's auxiliary name: `x` and `c_x`
are such a pair. The names of a function stay apart over every run exactly when
the parameter names build in no such coincidence.
-/

namespace FortranBindings.Collisions

open FortranType Counters

variable {ι : Type} [DecidableEq ι]

/-- What the naming contract promises for the descriptors of one function and
the counter names of one run. -/
def AuxNamesDisjoint (ds : ι → FortranType) (counters : List String) : Prop :=
  (∀ p q, (ds p).tmpName ≠ (ds q).name ∧ (ds p).tmpName2 ≠ (ds q).name) ∧
  (∀ p q, p ≠ q → (ds p).tmpName ≠ (ds q).tmpName ∧ (ds p).tmpName ≠ (ds q).tmpName2 ∧
    (ds p).tmpName2 ≠ (ds q).tmpName ∧ (ds p).tmpName2 ≠ (ds q).tmpName2) ∧
  (∀ p, ∀ s ∈ counters, (ds p).tmpName ≠ s ∧ (ds p).tmpName2 ≠ s) ∧
  (∀ s ∈ counters, ∀ q, s ≠ (ds q).name)

/-- Two parameters of one function, the second named as the first's temporary. -/
def shadowingParams : Fin 2 → Params
  | 0 => { name := "x", fnName := "send" }
  | 1 => { name := "c_x", fnName := "send" }

theorem tmpName_meets_parameter :
    Function.Injective (fun i => (shadowingParams i).name) ∧
      ¬ AuxNamesDisjoint (fun i => init (shadowingParams i))
        (run (fun i => init (shadowingParams i)) []).1 :=
  ⟨by decide, fun h => (h.1 0 1).1 rfl⟩

lemma name_eq_of_tmpName_eq {t u : FortranType} (h : t.tmpName = u.tmpName) : t.name = u.name :=
  String.ext (by simpa [tmpName] using congrArg String.data h)

lemma name_eq_of_tmpName2_eq {t u : FortranType} (h : t.tmpName2 = u.tmpName2) :
    t.name = u.name :=
  String.ext (by simpa [tmpName2] using congrArg String.data h)

lemma name_eq_of_tmpName_eq_tmpName2 {t u : FortranType} (h : t.tmpName = u.tmpName2) :
    t.name = u.name ++ "2" :=
  String.ext (by simpa [tmpName, tmpName2] using congrArg String.data h)

lemma mem_run_fst {ds : ι → FortranType} {calls : List ι} {s : String}
    (h : s ∈ (run ds calls).1) : ∃ i k, s = counterName (ds i).name k := by
  rw [run_fst, List.mem_map] at h
  obtain ⟨p, -, rfl⟩ := h
  exact ⟨p.1, p.2, rfl⟩

lemma ne_counterName_of_length_lt {s q : String} {k : Nat} (h : s.length < q.length + 4) :
    s ≠ counterName q k := fun he => by
  have := counterName_length q k
  rw [← he] at this
  omega

lemma ne_counterName_of_not_initial {s q : String} {k : Nat} (h : ¬ q.data <+: s.data) :
    s ≠ counterName q k := fun he =>
  h ⟨_, by rw [he, counterName_data, List.append_assoc]⟩

/-- The `k`-th counter of a fresh descriptor is returned by `k + 1` calls on it. -/
lemma counterName_mem_run (ds : ι → FortranType) {j : ι} (h : (ds j).usedCounters = 0)
    (k : Nat) : counterName (ds j).name k ∈ (run ds (List.replicate (k + 1) j)).1 := by
  apply List.getElem?_mem (n := k)
  rw [run_fst, List.getElem?_map, issue_getElem? _ _ k j (by simp)]
  simp [h, List.take_replicate]

lemma tmpName_eq_tmpName2 {t u : FortranType} (h : t.name = u.name ++ "2") :
    t.tmpName = u.tmpName2 := by
  rw [tmpName, tmpName2, h, String.append_assoc]

lemma ne_append_two (s : String) : s ≠ s ++ "2" := fun h => by
  have := congrArg String.length h
  rw [String.length_append] at this
  exact absurd this (by simp [show "2".length = 1 from rfl])

/-- The naming contract holds over every run exactly when the parameter names do
not build in a coincidence: no name is a temporary of a parameter, no name is
another's followed by `2` (its temporary would be that one's `tmp_name2`), no
name is a counter name, and no temporary is a counter name. -/
theorem auxNames_disjoint (ps : ι → Params) (hnames : Function.Injective fun i => (ps i).name) :
    (∀ calls, AuxNamesDisjoint (fun i => init (ps i)) (run (fun i => init (ps i)) calls).1) ↔
      (∀ i j, (ps i).name ≠ (init (ps j)).tmpName ∧ (ps i).name ≠ (init (ps j)).tmpName2) ∧
      (∀ i j, (ps i).name ≠ (ps j).name ++ "2") ∧
      (∀ i j k, (ps i).name ≠ counterName (ps j).name k) ∧
      (∀ i j k, (init (ps i)).tmpName ≠ counterName (ps j).name k ∧
        (init (ps i)).tmpName2 ≠ counterName (ps j).name k) := by
  constructor
  · intro h
    refine ⟨fun i j => ⟨((h []).1 j i).1.symm, ((h []).1 j i).2.symm⟩, fun i j he => ?_,
      fun i j k he => (h _).2.2.2 _ (counterName_mem_run _ rfl k) i he.symm,
      fun i j k => (h _).2.2.1 i _ (counterName_mem_run _ rfl k)⟩
    rcases eq_or_ne i j with rfl | hij
    · exact ne_append_two _ he
    · exact ((h []).2.1 i j hij).2.1 (tmpName_eq_tmpName2 he)
  · rintro ⟨hname, htwo, hcounter, htmp⟩ calls
    refine ⟨fun p q => ⟨(hname q p).1.symm, (hname q p).2.symm⟩,
      fun p q hpq => ⟨fun h => hpq (hnames (name_eq_of_tmpName_eq h)),
        fun h => htwo p q (name_eq_of_tmpName_eq_tmpName2 h),
        fun h => htwo q p (name_eq_of_tmpName_eq_tmpName2 h.symm),
        fun h => hpq (hnames (name_eq_of_tmpName2_eq h))⟩,
      fun p s hs => ?_, fun s hs q => ?_⟩ <;> obtain ⟨i, k, rfl⟩ := mem_run_fst hs
    · exact htmp p i k
    · exact fun h => hcounter q i k h.symm

/-- Two parameters of one function, the first's temporary spelled as a counter
name of the second. -/
def counterShadowingParams : Fin 2 → Params
  | 0 => { name := "x_i_0", fnName := "send" }
  | 1 => { name := "c_x", fnName := "send" }

/-- The last condition is not implied by the others: the temporary of `x_i_0` is
the first counter name of `c_x`. -/
example : ¬ AuxNamesDisjoint (fun i => init (counterShadowingParams i))
    (run (fun i => init (counterShadowingParams i)) [1]).1 :=
  fun h => (h.2.2.1 0 _ (List.mem_singleton_self _)).1 (by decide)

/-- Two parameters of one function, of none of the colliding shapes. -/
def plainParams : Fin 2 → Params
  | 0 => { name := "comm", fnName := "send" }
  | 1 => { name := "count", fnName := "send" }

theorem plainParams_disjoint :
    AuxNamesDisjoint (fun i => init (plainParams i))
      (run (fun i => init (plainParams i)) [0, 1, 0]).1 :=
  (auxNames_disjoint plainParams (by decide)).mpr ⟨by decide, by decide,
    fun i j k => ne_counterName_of_length_lt (by fin_cases i <;> fin_cases j <;> decide),
    fun i j k => ⟨ne_counterName_of_not_initial (by fin_cases i <;> fin_cases j <;> decide),
      ne_counterName_of_not_initial (by fin_cases i <;> fin_cases j <;> decide)⟩⟩ [0, 1, 0]

end FortranBindings.Collisions
