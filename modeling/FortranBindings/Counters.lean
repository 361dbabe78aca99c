import FortranBindings.Descriptor

/-!
# Counter names over interleaved calls

The descriptors of one generation pass form a family indexed by `ι`. A run is
the list of descriptors on which `tmp_counter()` is called, in call order, so
that one list stands for any interleaving of calls on several descriptors.

`issue` is the allocator the naming contract describes: every call is handed
its descriptor and the number of earlier calls on that descriptor. The
`used_counters` fields implement this allocator, and the names a run returns
are its pairs rendered by `counterName`.
-/

namespace FortranBindings.Counters

open FortranType

variable {ι : Type} [DecidableEq ι]

/-- One `tmp_counter()` call on descriptor `i`. -/
def step (ds : ι → FortranType) (i : ι) : String × (ι → FortranType) :=
  ((ds i).tmpCounter.1, Function.update ds i (ds i).tmpCounter.2)

/-- The names a run of calls returns, in order, and the descriptors after it. -/
def run (ds : ι → FortranType) : List ι → List String × (ι → FortranType)
  | [] => ([], ds)
  | i :: calls =>
    let r := run (step ds i).2 calls
    ((step ds i).1 :: r.1, r.2)

/-- The abstract allocator: the pairs `(descriptor, counter)` a run hands out. -/
def issue (used : ι → Nat) : List ι → List (ι × Nat)
  | [] => []
  | i :: calls => (i, used i) :: issue (Function.update used i (used i + 1)) calls

lemma issue_ge (used : ι → Nat) (calls : List ι) :
    ∀ p ∈ issue used calls, used p.1 ≤ p.2 := by
  induction calls generalizing used with
  | nil => simp [issue]
  | cons i calls ih =>
    intro p hp
    rcases List.mem_cons.mp hp with rfl | hp
    · exact le_rfl
    · refine le_trans ?_ (ih _ p hp)
      by_cases h : p.1 = i <;> simp [Function.update_apply, h]

/-- No pair is handed out twice: later calls on `i` see a larger counter. -/
theorem issue_nodup (used : ι → Nat) (calls : List ι) : (issue used calls).Nodup := by
  induction calls generalizing used with
  | nil => exact List.nodup_nil
  | cons i calls ih =>
    refine List.nodup_cons.mpr ⟨fun h => ?_, ih _⟩
    have := issue_ge _ calls _ h
    simp only [Function.update_same] at this
    omega

/-- The call at position `j` on descriptor `i` gets `i`'s counter plus the
number of earlier calls on `i`. -/
theorem issue_getElem? (used : ι → Nat) (calls : List ι) :
    ∀ j i, calls[j]? = some i →
      (issue used calls)[j]? = some (i, used i + (calls.take j).count i) := by
  induction calls generalizing used with
  | nil => simp
  | cons c calls ih =>
    intro j i hj
    cases j with
    | zero =>
      obtain rfl : c = i := by simpa using hj
      simp [issue]
    | succ j =>
      rw [issue, List.getElem?_cons_succ, ih _ j i (by simpa using hj)]
      by_cases h : i = c
      · subst h; simp [List.count_cons]; omega
      · simp [List.count_cons, Function.update_noteq h, Ne.symm h]

@[simp] lemma step_name (ds : ι → FortranType) (i j : ι) :
    ((step ds i).2 j).name = (ds j).name := by
  by_cases h : j = i
  · subst h; simp [step]
  · simp [step, Function.update_noteq h]

lemma step_usedCounters (ds : ι → FortranType) (i : ι) :
    (fun j => ((step ds i).2 j).usedCounters) =
      Function.update (fun j => (ds j).usedCounters) i ((ds i).usedCounters + 1) := by
  funext j
  by_cases h : j = i
  · subst h; simp [step]
  · simp [step, Function.update_noteq h]

/-- Refinement: a run returns the allocator's pairs, rendered. -/
theorem run_fst (ds : ι → FortranType) (calls : List ι) :
    (run ds calls).1 =
      (issue (fun j => (ds j).usedCounters) calls).map
        (fun p => counterName (ds p.1).name p.2) := by
  induction calls generalizing ds with
  | nil => rfl
  | cons i calls ih =>
    simp only [run, issue, List.map_cons, ih, step_usedCounters, step_name]
    rfl

theorem run_usedCounters (ds : ι → FortranType) (calls : List ι) (i : ι) :
    ((run ds calls).2 i).usedCounters = (ds i).usedCounters + calls.count i := by
  induction calls generalizing ds with
  | nil => rfl
  | cons c calls ih =>
    simp only [run, ih, congrFun (step_usedCounters ds c) i, Function.update_apply,
      List.count_cons, beq_iff_eq]
    by_cases h : i = c
    · simp [h]; omega
    · simp [h, Ne.symm h]

/-- With pairwise distinct names, distinct pairs render to distinct names. -/
theorem run_nodup (ds : ι → FortranType) (hnames : Function.Injective fun i => (ds i).name)
    (calls : List ι) : (run ds calls).1.Nodup := by
  rw [run_fst]
  refine (issue_nodup _ calls).map (fun p q h => ?_)
  obtain ⟨h1, h2⟩ := counterName_inj.mp h
  exact Prod.ext (hnames h1) h2

theorem tmpCounter_run_names (ps : ι → Params) (hnames : Function.Injective fun i => (ps i).name)
    (calls : List ι) :
    (∀ j i, calls[j]? = some i →
      (run (fun i => init (ps i)) calls).1[j]? =
        some (counterName (ps i).name ((calls.take j).count i))) ∧
    (run (fun i => init (ps i)) calls).1.Nodup := by
  refine ⟨fun j i hj => ?_, run_nodup _ (by simpa using hnames) calls⟩
  rw [run_fst, List.getElem?_map, issue_getElem? _ calls j i hj]
  simp

/-- The buffer and count parameters of one function. -/
def sendParams : Fin 2 → Params
  | 0 => { name := "buf", fnName := "send" }
  | 1 => { name := "count", fnName := "send" }

theorem sendParams_run_names :
    (∀ j i, ([0, 1, 0] : List (Fin 2))[j]? = some i →
      (run (fun i => init (sendParams i)) [0, 1, 0]).1[j]? =
        some (counterName (sendParams i).name ((([0, 1, 0] : List (Fin 2)).take j).count i))) ∧
    (run (fun i => init (sendParams i)) [0, 1, 0]).1.Nodup :=
  tmpCounter_run_names sendParams (by decide) [0, 1, 0]

end FortranBindings.Counters
