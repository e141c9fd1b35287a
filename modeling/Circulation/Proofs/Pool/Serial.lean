/- # Circulation.Proofs.Pool.Serial -- one procedure after the other

The other way to carry out procedures: in some order, each from its beginning to its end before the
next begins. Who comes to an end without asking anything can stand anywhere in that order.
-/
import Circulation.Proofs.Pool.Orderly
import Mathlib.Data.List.Induction
import Mathlib.Data.List.Nodup
import Mathlib.Data.List.Perm.Basic
import Mathlib.Logic.Function.Basic

namespace Circulation

namespace Pool

/-! ## Admissions -/

/-- To whom the gate went, in that order. -/
def admissions {σ : Type} (h : List (Happening σ)) : List Nat :=
  h.filterMap fun x =>
    match x with
    | .admitted i => some i
    | .asked .. => none

@[simp]
theorem admissions_asked {σ : Type} (h : List (Happening σ)) (i : Nat) (q : Request) (s : σ) :
    admissions (h ++ [.asked i q s]) = admissions h := by
  rw [admissions, List.filterMap_append]
  exact List.append_nil _

@[simp]
theorem admissions_admitted {σ : Type} (h : List (Happening σ)) (i : Nat) :
    admissions (h ++ [.admitted i]) = admissions h ++ [i] := by
  rw [admissions, List.filterMap_append]
  rfl

/-! ## Who was admitted and who was not -/

section Mustered

variable {σ α : Type} {procedures : List (Procedure α)} {h h' : List (Happening σ)} {p : Pool σ α}

/-- Everybody is admitted at most once. Who was not admitted has done nothing but wait, and who was
admitted is ready, and past the gate unless it holds it. -/
structure Mustered (procedures : List (Procedure α)) (h : List (Happening σ)) (p : Pool σ α) :
    Prop where
  size : p.tasks.length = procedures.length
  once : (admissions h).Nodup
  fresh : ∀ (i : Nat) (r : Procedure α), i ∉ admissions h → procedures[i]? = some r →
    p.tasks[i]? = some (.ready r) ∨
      ∃ rest, r = .ask .enterGate (fun _ => rest) ∧ p.tasks[i]? = some (.waiting rest)
  ready : ∀ i ∈ admissions h, ∃ rest, p.tasks[i]? = some (.ready rest)
  past : ∀ (i : Nat) (rest : Procedure α), i ∈ admissions h → p.gate.holder ≠ some i →
    p.tasks[i]? = some (.ready rest) → rest.Public

namespace Mustered

theorem start (world : σ) (procedures : List (Procedure α)) :
    Mustered procedures [] (Pool.start world procedures) where
  size := List.length_map ..
  once := List.nodup_nil
  fresh := by
    intro i r _ here
    refine .inl ?_
    show (procedures.map Task.ready)[i]? = _
    rw [List.getElem?_map, here]
    rfl
  ready := by
    intro i mem
    exact absurd mem List.not_mem_nil
  past := by
    intro i rest mem
    exact absurd mem List.not_mem_nil

/-- Who asks anything but to pass the gate was admitted. -/
theorem mem_of_ask (m : Mustered procedures h p) (prompt : ∀ r ∈ procedures, r.Prompt) {i : Nat}
    {q : Request} {next : q.Answer → Procedure α}
    (here : p.tasks[i]? = some (.ready (.ask q next))) (other : q ≠ .enterGate) :
    i ∈ admissions h := by
  -- Who was not admitted is at its beginning or waits, and a beginning that asks is the gate.
  refine Decidable.byContradiction fun away => ?_
  obtain ⟨lt, -⟩ := List.getElem?_eq_some_iff.mp here
  rw [m.size] at lt
  have named : procedures[i]? = some procedures[i] := List.getElem?_eq_getElem lt
  rcases m.fresh i procedures[i] away named with there | ⟨rest, -, there⟩
  · rw [here] at there
    have begins := prompt procedures[i] (List.getElem_mem lt)
    rw [← Task.ready.inj (Option.some.inj there)] at begins
    cases begins
    exact other rfl
  · rw [here] at there
    cases there

/-- Who comes to the gate, or waits there, was not admitted before. -/
theorem not_mem_of_comer (m : Mustered procedures h p) {i : Nat} {rest : Procedure α}
    (away : p.gate.holder ≠ some i)
    (here : p.tasks[i]? = some (.ready (.ask .enterGate fun _ => rest)) ∨
      p.tasks[i]? = some (.waiting rest)) : i ∉ admissions h := by
  intro mem
  rcases here with here | here
  · have free := (m.past i _ mem away here).of_ask.1
    exact absurd free Bool.false_ne_true
  · obtain ⟨rest', there⟩ := m.ready i mem
    rw [here] at there
    cases there

/-- Who comes to the gate, or waits there, began there. -/
theorem begins_of_comer (m : Mustered procedures h p) {i : Nat} {rest : Procedure α}
    (outside : i ∉ admissions h)
    (here : p.tasks[i]? = some (.ready (.ask .enterGate fun _ => rest)) ∨
      p.tasks[i]? = some (.waiting rest)) :
    procedures[i]? = some (.ask .enterGate fun _ => rest) := by
  obtain ⟨task, there⟩ : ∃ task, p.tasks[i]? = some task := by
    rcases here with here | here <;> exact ⟨_, here⟩
  obtain ⟨lt, -⟩ := List.getElem?_eq_some_iff.mp there
  rw [m.size] at lt
  obtain ⟨r, named⟩ : ∃ r, procedures[i]? = some r := ⟨_, List.getElem?_eq_getElem lt⟩
  rw [named]
  rcases m.fresh i r outside named with new | ⟨rest', rfl, new⟩
  · rcases here with here | here <;> rw [here] at new <;> cases new
    rfl
  · rcases here with here | here <;> rw [here] at new <;> cases new
    rfl

/-- Who was admitted goes on. -/
theorem proceed (m : Mustered procedures h p) (same : admissions h' = admissions h) {i : Nat}
    {rest rest' : Procedure α} {world : σ} {gate : Gate Nat} (mem : i ∈ admissions h)
    (here : p.tasks[i]? = some (.ready rest))
    (others : ∀ j, j ≠ i → p.gate.holder = some j → gate.holder = some j)
    (past : gate.holder ≠ some i → rest'.Public) :
    Mustered procedures h' ⟨world, gate, p.tasks.set i (.ready rest')⟩ where
  size := by
    rw [List.length_set]
    exact m.size
  once := by
    rw [same]
    exact m.once
  fresh := by
    intro j r away named
    rw [same] at away
    have ne : i ≠ j := by
      rintro rfl
      exact away mem
    rw [List.getElem?_set_ne ne]
    exact m.fresh j r away named
  ready := by
    intro j there
    rw [same] at there
    by_cases eq : j = i
    · subst eq
      exact ⟨rest', setTask_self _ here⟩
    · rw [List.getElem?_set_ne (Ne.symm eq)]
      exact m.ready j there
  past := by
    intro j task there away ready
    rw [same] at there
    by_cases eq : j = i
    · subst eq
      rw [setTask_self _ here] at ready
      cases ready
      exact past away
    · rw [List.getElem?_set_ne (Ne.symm eq)] at ready
      exact m.past j task there (fun held => away (others j eq held)) ready

/-- Who finds the gate held waits. -/
theorem queue (m : Mustered procedures h p) {i : Nat} {rest : Procedure α} {gate : Gate Nat}
    (outside : i ∉ admissions h)
    (here : p.tasks[i]? = some (.ready (.ask .enterGate fun _ => rest)))
    (holder : gate.holder = p.gate.holder) :
    Mustered procedures h ⟨p.world, gate, p.tasks.set i (.waiting rest)⟩ where
  size := by
    rw [List.length_set]
    exact m.size
  once := m.once
  fresh := by
    intro j r off named
    by_cases eq : j = i
    · subst eq
      have begins := m.begins_of_comer off (.inl here)
      exact .inr ⟨rest, Option.some.inj (named.symm.trans begins), setTask_self _ here⟩
    · rw [List.getElem?_set_ne (Ne.symm eq)]
      exact m.fresh j r off named
  ready := by
    intro j mem
    rw [List.getElem?_set_ne (ne_of_mem_of_not_mem mem outside).symm]
    exact m.ready j mem
  past := by
    intro j task mem off ready
    rw [List.getElem?_set_ne (ne_of_mem_of_not_mem mem outside).symm] at ready
    rw [holder] at off
    exact m.past j task mem off ready

/-- The gate goes to somebody. -/
theorem enter (m : Mustered procedures h p) {i : Nat} {rest : Procedure α} {waiting : List Nat}
    {task : Task α} (free : p.gate.holder = none) (outside : i ∉ admissions h)
    (there : p.tasks[i]? = some task) :
    Mustered procedures (h ++ [.admitted i])
      ⟨p.world, ⟨some i, waiting⟩, p.tasks.set i (.ready rest)⟩ where
  size := by
    rw [List.length_set]
    exact m.size
  once := by
    rw [admissions_admitted, ← List.concat_eq_append]
    exact m.once.concat outside
  fresh := by
    intro j r off named
    rw [admissions_admitted, List.mem_append, List.mem_singleton, not_or] at off
    rw [List.getElem?_set_ne (Ne.symm off.2)]
    exact m.fresh j r off.1 named
  ready := by
    intro j mem
    rw [admissions_admitted, List.mem_append, List.mem_singleton] at mem
    rcases mem with mem | rfl
    · rw [List.getElem?_set_ne (ne_of_mem_of_not_mem mem outside).symm]
      exact m.ready j mem
    · exact ⟨rest, setTask_self _ there⟩
  past := by
    intro j task mem off ready
    rw [admissions_admitted, List.mem_append, List.mem_singleton] at mem
    rcases mem with mem | rfl
    · rw [List.getElem?_set_ne (ne_of_mem_of_not_mem mem outside).symm] at ready
      refine m.past j task mem ?_ ready
      rw [free]
      exact (Option.some_ne_none j).symm
    · -- Who was let in holds the gate, so nothing is said about what is left for them.
      exact absurd rfl off

end Mustered

end Mustered

/-! ## When all is done -/

theorem done_of_results {σ α : Type} {p : Pool σ α} (ended : ∀ r ∈ p.results, r.isSome = true)
    {i : Nat} {task : Task α} (here : p.tasks[i]? = some task) : ∃ a, task = .ready (.done a) := by
  have some_result := ended task.result? (List.mem_map_of_mem (List.mem_of_getElem? here))
  cases task with
  | ready rest =>
    cases rest with
    | done a => exact ⟨a, rfl⟩
    | ask q next => cases some_result
  | waiting rest => cases some_result
  | dropped => cases some_result

/-- Who is done does not hold the gate. -/
theorem Orderly.free_of_results {σ α : Type} {p : Pool σ α} (o : p.Orderly)
    (ended : ∀ r ∈ p.results, r.isSome = true) : p.gate.holder = none := by
  refine Option.eq_none_iff_forall_ne_some.mpr fun i held => ?_
  obtain ⟨rest, here, inside⟩ := o.inside i held
  obtain ⟨a, eq⟩ := done_of_results ended here
  cases eq
  cases inside

/-- Who is done and was not admitted was done at the beginning. -/
theorem Mustered.done_of_not_mem {σ α : Type} {procedures : List (Procedure α)}
    {h : List (Happening σ)} {p : Pool σ α} (m : Mustered procedures h p)
    (ended : ∀ r ∈ p.results, r.isSome = true) {i : Nat} {r : Procedure α} (away : i ∉ admissions h)
    (named : procedures[i]? = some r) : p.tasks[i]? = some (.ready r) ∧ ∃ a, r = .done a := by
  rcases m.fresh i r away named with here | ⟨rest, -, here⟩
  · obtain ⟨a, eq⟩ := done_of_results ended here
    exact ⟨here, a, Task.ready.inj eq⟩
  · obtain ⟨a, eq⟩ := done_of_results ended here
    cases eq

/-! ## Serial runs -/

section Serial

variable {σ α : Type} (answer : Surroundings σ) (procedures : List (Procedure α))

/-- The procedure at a place is run to its end, and its result noted. -/
def serve (so_far : (Nat → Option α) × σ) (i : Nat) : (Nat → Option α) × σ :=
  match procedures[i]? with
  | some p =>
    (Function.update so_far.1 i (some (p.run answer so_far.2).1), (p.run answer so_far.2).2)
  | none => so_far

/-- Results by place, and the surroundings, when procedures are run one after the other. -/
def serially (order : List Nat) (s : σ) : (Nat → Option α) × σ :=
  order.foldl (serve answer procedures) (fun _ => none, s)

variable {answer procedures}

theorem serially_snoc {order : List Nat} {i : Nat} {p : Procedure α} {s : σ}
    (here : procedures[i]? = some p) :
    serially answer procedures (order ++ [i]) s =
      (Function.update (serially answer procedures order s).1 i
          (some (p.run answer (serially answer procedures order s).2).1),
        (p.run answer (serially answer procedures order s).2).2) := by
  rw [serially, List.foldl_append]
  show serve answer procedures (serially answer procedures order s) i = _
  rw [serve, here]

/-- Procedures that are over from the beginning can be left out: it makes no difference to the
surroundings and to the results of the others. -/
theorem serially_filter {keep : Nat → Bool} {order : List Nat} {s : σ}
    (idle : ∀ i ∈ order, keep i = false → ∃ a, procedures[i]? = some (.done a)) :
    (serially answer procedures order s).2 =
        (serially answer procedures (order.filter keep) s).2 ∧
      ∀ i, keep i = true → (serially answer procedures order s).1 i =
        (serially answer procedures (order.filter keep) s).1 i := by
  -- From the back, since the last one to be served finds what the others left.
  induction order using List.reverseRecOn with
  | nil => exact ⟨rfl, fun _ _ => rfl⟩
  | append_singleton order j ih =>
    obtain ⟨world, results⟩ := ih fun i mem => idle i (List.mem_append_left _ mem)
    rw [List.filter_append]
    cases kept : keep j with
    | false =>
      obtain ⟨a, here⟩ := idle j (List.mem_append_right _ (List.mem_singleton_self j)) kept
      have none_kept : [j].filter keep = [] := List.filter_cons_of_neg (by simp [kept])
      rw [none_kept, List.append_nil, serially_snoc here]
      refine ⟨world, fun i keeps => ?_⟩
      have apart : i ≠ j := by
        rintro rfl
        rw [kept] at keeps
        cases keeps
      show Function.update _ j _ i = _
      rw [Function.update_of_ne apart]
      exact results i keeps
    | true =>
      have one_kept : [j].filter keep = [j] := List.filter_cons_of_pos kept
      rw [one_kept]
      cases here : procedures[j]? with
      | none =>
        simp only [serially, List.foldl_append, List.foldl_cons, List.foldl_nil, serve, here]
        exact ⟨world, results⟩
      | some p =>
        rw [serially_snoc here, serially_snoc here, world]
        refine ⟨rfl, fun i keeps => ?_⟩
        show Function.update _ j _ i = Function.update _ j _ i
        by_cases same : i = j
        · subst same
          rw [Function.update_self, Function.update_self]
        · rw [Function.update_of_ne same, Function.update_of_ne same]
          exact results i keeps

/-- The result of a procedure that is over from the beginning. -/
theorem serially_done {order : List Nat} {s : σ} {i : Nat} {a : α}
    (here : procedures[i]? = some (.done a)) (mem : i ∈ order) :
    (serially answer procedures order s).1 i = some a := by
  induction order using List.reverseRecOn with
  | nil => exact absurd mem List.not_mem_nil
  | append_singleton order j ih =>
    by_cases same : i = j
    · -- Served once more, it comes to the same result.
      subst same
      rw [serially_snoc here]
      exact Function.update_self ..
    · have earlier : i ∈ order := by
        rcases List.mem_append.mp mem with mem | mem
        · exact mem
        · exact absurd (List.mem_singleton.mp mem) same
      rw [serially, List.foldl_append]
      show (serve answer procedures (serially answer procedures order s) j).1 i = _
      rw [serve]
      cases procedures[j]? with
      | none => exact ih earlier
      | some p =>
        show Function.update _ j _ i = _
        rw [Function.update_of_ne same]
        exact ih earlier

end Serial

/-! ## Orders that keep to the admissions -/

/-- Who was admitted stands in the order of admission; the others stand anywhere. -/
def KeepsTo (order entered : List Nat) : Prop := order.filter (entered.contains ·) = entered

/-- There is such an order. -/
theorem exists_keepsTo {entered : List Nat} (once : entered.Nodup) {n : Nat}
    (within : ∀ i ∈ entered, i < n) :
    ∃ order : List Nat, order.Perm (List.range n) ∧ KeepsTo order entered := by
  -- For example those who never passed the gate, behind all who did.
  let others := (List.range n).filter fun i => !entered.contains i
  refine ⟨entered ++ others, ?_, ?_⟩
  · refine (List.perm_ext_iff_of_nodup ?_ List.nodup_range).mpr fun i => ?_
    · refine List.nodup_append'.mpr ⟨once, List.nodup_range.filter _, ?_⟩
      intro i mem other
      have := List.of_mem_filter other
      simp [mem] at this
    · simp only [others, List.mem_append, List.mem_filter, List.mem_range]
      constructor
      · rintro (mem | ⟨lt, -⟩)
        · exact within i mem
        · exact lt
      · intro lt
        by_cases mem : i ∈ entered
        · exact .inl mem
        · exact .inr ⟨lt, by simp [mem]⟩
  · have all : entered.filter (entered.contains ·) = entered :=
      List.filter_eq_self.mpr fun i mem => by simpa using mem
    have none_of : others.filter (entered.contains ·) = [] := by
      refine List.filter_eq_nil_iff.mpr fun i other => ?_
      have := List.of_mem_filter other
      simpa using this
    rw [KeepsTo, List.filter_append, all, none_of, List.append_nil]

end Pool

end Circulation
