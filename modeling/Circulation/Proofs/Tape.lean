/- # Circulation.Proofs.Tape -- what is asked in a run, and how it is answered

The tape of a run holds every request with its answer, in order. What a procedure is like in given
surroundings is its result, the state it leaves, and its tape; all three go together under sequencing
(`tape_andThen`).

Surroundings can have a far part, with a state of its own, that answers some of the requests. A
procedure that asks nothing of the far part runs as if the near part were alone (`run_beside`,
`tape_beside`).
-/
import Circulation.Proofs.Pool.Orderly

namespace Circulation

/-- A request with the answer that it was given. -/
structure Exchange where
  request : Request
  answer : request.Answer

namespace Procedure

variable {σ τ α β γ ι : Type}

/-! ## Tapes -/

/-- What is asked and answered when a procedure is run, in order. -/
def tape (answer : Surroundings σ) : Procedure α → σ → List Exchange
  | done _, _ => []
  | ask q next, s => ⟨q, (answer q s).1⟩ :: (next (answer q s).1).tape answer (answer q s).2

/-- What is asked when a procedure is run, in order. -/
def asked (answer : Surroundings σ) (p : Procedure α) (s : σ) : List Request :=
  (p.tape answer s).map Exchange.request

variable {answer : Surroundings σ}

theorem tape_andThen (answer : Surroundings σ) (p : Procedure α) (f : α → Procedure β) (s : σ) :
    (p.andThen f).tape answer s =
      p.tape answer s ++ (f (p.run answer s).1).tape answer (p.run answer s).2 := by
  induction p generalizing s with
  | done a => rfl
  | ask q next ih => exact congrArg (_ :: ·) (ih _ _)

theorem run_request (answer : Surroundings σ) (q : Request) (s : σ) :
    (request q).run answer s = answer q s := rfl

/-- What every answer keeps, a run keeps. -/
theorem run_keeps {P : σ → Prop} (kept : ∀ q s, P s → P (answer q s).2) (p : Procedure α) {s : σ}
    (h : P s) : P (p.run answer s).2 := by
  induction p generalizing s with
  | done a => exact h
  | ask q next ih => exact ih _ (kept q s h)

theorem tape_request (answer : Surroundings σ) (q : Request) (s : σ) :
    (request q).tape answer s = [⟨q, (answer q s).1⟩] := rfl

/-- To compute something from the result asks nothing. -/
theorem tape_andThen_done (answer : Surroundings σ) (p : Procedure α) (f : α → β) (s : σ) :
    (p.andThen fun a => .done (f a)).tape answer s = p.tape answer s := by
  rw [tape_andThen]
  exact List.append_nil _

theorem asked_andThen (answer : Surroundings σ) (p : Procedure α) (f : α → Procedure β) (s : σ) :
    (p.andThen f).asked answer s =
      p.asked answer s ++ (f (p.run answer s).1).asked answer (p.run answer s).2 := by
  simp only [asked, tape_andThen, List.map_append]

theorem asked_ask (answer : Surroundings σ) (q : Request) (next : q.Answer → Procedure α) (s : σ) :
    (ask q next).asked answer s = q :: (next (answer q s).1).asked answer (answer q s).2 := rfl

/-- What stands on the tape was asked. -/
theorem Asks.of_mem_asked {P : Request → Prop} {p : Procedure α} (h : p.Asks P) (s : σ) {q : Request}
    (mem : q ∈ p.asked answer s) : P q := by
  induction h generalizing s with
  | done a => exact absurd mem List.not_mem_nil
  | @ask q' next asked _ ih =>
    rcases List.mem_cons.mp mem with rfl | later
    · exact asked
    · exact ih _ _ later

/-- Of what is never asked, nothing is read off the tape. -/
theorem Asks.filterMap_tape {f : Exchange → Option γ} {p : Procedure α}
    (h : p.Asks fun q => ∀ a, f ⟨q, a⟩ = none) (s : σ) : (p.tape answer s).filterMap f = [] := by
  induction h generalizing s with
  | done a => rfl
  | ask asked _ ih =>
    rw [tape, List.filterMap_cons_none (asked _)]
    exact ih _ _

theorem Asks.filterMap_asked {f : Request → Option γ} {p : Procedure α}
    (h : p.Asks fun q => f q = none) (s : σ) : (p.asked answer s).filterMap f = [] :=
  List.filterMap_eq_nil_iff.mpr fun _ mem => h.of_mem_asked s mem

/-! ## One after the other -/

theorem mapM_cons (f : ι → Procedure α) (i : ι) (rest : List ι) :
    (i :: rest).mapM f =
      (f i).andThen fun a => (rest.mapM f).andThen fun as => .done (a :: as) :=
  List.mapM_cons

theorem Asks.mapM {P : Request → Prop} {f : ι → Procedure α} (each : ∀ i, (f i).Asks P)
    (items : List ι) : (items.mapM f).Asks P := by
  induction items with
  | nil => exact .done _
  | cons i rest ih =>
    rw [mapM_cons]
    exact (each i).andThen fun _ => ih.andThen fun _ => .done _

theorem run_mapM_cons (answer : Surroundings σ) (f : ι → Procedure α) (i : ι) (rest : List ι) (s : σ) :
    ((i :: rest).mapM f).run answer s =
      (((f i).run answer s).1 :: ((rest.mapM f).run answer ((f i).run answer s).2).1,
        ((rest.mapM f).run answer ((f i).run answer s).2).2) := by
  rw [mapM_cons, run_andThen, run_andThen]
  rfl

theorem tape_mapM_cons (answer : Surroundings σ) (f : ι → Procedure α) (i : ι) (rest : List ι) (s : σ) :
    ((i :: rest).mapM f).tape answer s =
      (f i).tape answer s ++ (rest.mapM f).tape answer ((f i).run answer s).2 := by
  rw [mapM_cons, tape_andThen, tape_andThen_done]

theorem asked_mapM_cons (answer : Surroundings σ) (f : ι → Procedure α) (i : ι) (rest : List ι)
    (s : σ) :
    ((i :: rest).mapM f).asked answer s =
      (f i).asked answer s ++ (rest.mapM f).asked answer ((f i).run answer s).2 := by
  simp only [asked, tape_mapM_cons, List.map_append]

end Procedure

/-! ## Surroundings that take no notice of spans -/

/-- The exchange with its notice marked. -/
def Exchange.mark (span : Span) : Exchange → Exchange
  | ⟨.note n none, a⟩ => ⟨.note n (some span), a⟩
  | x => x

/-- It makes no difference which command a notice belongs to. -/
def Surroundings.IgnoresSpans {σ : Type} (answer : Surroundings σ) : Prop :=
  ∀ n span span' s, answer (.note n span) s = answer (.note n span') s

namespace Procedure

variable {σ α γ : Type} {answer : Surroundings σ} (ignores : answer.IgnoresSpans)
include ignores

theorem run_within (span : Span) (p : Procedure α) (s : σ) :
    (p.within span).run answer s = p.run answer s := by
  induction p generalizing s with
  | done a => rfl
  | ask q next ih =>
    cases q with
    | note n mark =>
      cases mark with
      | none =>
        rw [within, run, ignores n (some span) none]
        exact ih _ _
      | some mark => exact ih _ _
    | _ => exact ih _ _

theorem tape_within (span : Span) (p : Procedure α) (s : σ) :
    (p.within span).tape answer s = (p.tape answer s).map (Exchange.mark span) := by
  induction p generalizing s with
  | done a => rfl
  | ask q next ih =>
    cases q with
    | note n mark =>
      cases mark with
      | none =>
        rw [within, tape, ignores n (some span) none]
        exact congrArg (_ :: ·) (ih _ _)
      | some mark => exact congrArg (_ :: ·) (ih _ _)
    | _ => exact congrArg (_ :: ·) (ih _ _)

/-- What is read off the tape without regard to spans is the same when notices are marked. -/
theorem filterMap_tape_within {f : Exchange → Option γ} {span : Span}
    (blind : ∀ x, f (Exchange.mark span x) = f x) (p : Procedure α) (s : σ) :
    ((p.within span).tape answer s).filterMap f = (p.tape answer s).filterMap f := by
  rw [tape_within ignores, List.filterMap_map]
  exact congrArg (List.filterMap · _) (funext blind)

end Procedure

/-! ## Surroundings in two parts -/

namespace Surroundings

variable {σ τ : Type}

/-- What is far is asked of the second part, everything else of the first. -/
def beside (near : Surroundings σ) (isFar : Request → Bool) (far : Surroundings τ) :
    Surroundings (σ × τ) := fun q w =>
  if isFar q then ((far q w.2).1, (w.1, (far q w.2).2)) else ((near q w.1).1, ((near q w.1).2, w.2))

variable {near : Surroundings σ} {isFar : Request → Bool} {far : Surroundings τ}

theorem beside_near {q : Request} (here : isFar q = false) (w : σ × τ) :
    near.beside isFar far q w = ((near q w.1).1, ((near q w.1).2, w.2)) :=
  if_neg (by simp [here])

theorem beside_far {q : Request} (away : isFar q = true) (w : σ × τ) :
    near.beside isFar far q w = ((far q w.2).1, (w.1, (far q w.2).2)) :=
  if_pos away

theorem IgnoresSpans.beside (ignores : near.IgnoresSpans)
    (notes : ∀ n span, isFar (.note n span) = false) : (near.beside isFar far).IgnoresSpans := by
  intro n span span' w
  rw [beside_near (notes n span), beside_near (notes n span'), ignores n span span']

end Surroundings

namespace Procedure

variable {σ τ α : Type} {near : Surroundings σ} {isFar : Request → Bool} {far : Surroundings τ}

/-- What asks nothing of the far part leaves it alone, and comes to the same as without it. -/
theorem run_beside {p : Procedure α} (here : p.Asks fun q => isFar q = false) (w : σ × τ) :
    p.run (near.beside isFar far) w = ((p.run near w.1).1, ((p.run near w.1).2, w.2)) := by
  induction here generalizing w with
  | done a => rfl
  | @ask q next asked _ ih =>
    rw [run, Surroundings.beside_near asked]
    exact ih _ _

/-- The near part is left alone by what asks of it only what changes nothing. -/
theorem run_beside_fst {p : Procedure α}
    (idle : p.Asks fun q => isFar q = true ∨ ∀ s, (near q s).2 = s) (w : σ × τ) :
    (p.run (near.beside isFar far) w).2.1 = w.1 := by
  induction idle generalizing w with
  | done a => rfl
  | @ask q next asked _ ih =>
    have same : (near.beside isFar far q w).2.1 = w.1 := by
      cases away : isFar q with
      | true => rw [Surroundings.beside_far away]
      | false =>
        rw [Surroundings.beside_near away]
        exact asked.resolve_left (by simp [away]) w.1
    exact (ih _ _).trans same

theorem tape_beside {p : Procedure α} (here : p.Asks fun q => isFar q = false) (w : σ × τ) :
    p.tape (near.beside isFar far) w = p.tape near w.1 := by
  induction here generalizing w with
  | done a => rfl
  | @ask q next asked _ ih =>
    rw [tape, Surroundings.beside_near asked, tape]
    exact congrArg (_ :: ·) (ih _ _)

end Procedure

end Circulation
